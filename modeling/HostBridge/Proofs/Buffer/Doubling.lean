import HostBridge.Proofs.Buffer.Course

/-!
# Doubling in machine words

A capacity is a machine word, and it is doubled without a check. Were a product to leave the range
of words, it would wrap around, at worst to zero, which no doubling ever brings above anything. This
does not happen as long as no more than half of the range is needed: only a capacity that does not
exceed what is needed is doubled. So the loop on machine words comes to an end, and the capacity
that it ends with is the smallest one that doubling can give.

## Main definitions

* `Buffer.WordLoop`: the runs of the loop on machine words that come to an end without overflow.

## Main results

* `Buffer.mul?_of_le`: no doubling overflows;
* `Buffer.wordLoop_iff`: the loop comes to an end, and does so where doubling without bounds does;
* `Buffer.isLeast_capacities`: it ends with the smallest capacity that exceeds what is needed;
* `Buffer.grownCapacity_exact`: all of this for a capacity that grows.
-/

namespace HostBridge.Buffer

/-- A run of the loop that doubles a capacity in machine words until it exceeds `needed`. A run is
finite, and it gets stuck if a product is not a word. -/
inductive WordLoop (needed : Nat) : Nat → Nat → Prop
  | done {capacity : Nat} (hlarge : needed < capacity) : WordLoop needed capacity capacity
  | pass {capacity twice last : Nat} (hsmall : capacity ≤ needed)
      (hword : Word.mul? 2 capacity = some twice) (hrest : WordLoop needed twice last) :
      WordLoop needed capacity last

/-- What is doubled does not exceed what is needed, and twice as much is a word. -/
theorem mul?_of_le {capacity needed : Nat} (hneeded : needed < 2 ^ 63) (h : capacity ≤ needed) :
    Word.mul? 2 capacity = some (2 * capacity) := by
  refine if_pos ?_
  rw [Word.modulus, twoPow_eq]
  omega

/-- The loop comes to an end without overflow, with the capacity that doubling without bounds
gives. -/
theorem wordLoop_iff {needed : Nat} (hneeded : needed < 2 ^ 63) {capacity : Nat}
    (positive : 0 < capacity) (last : Nat) :
    WordLoop needed capacity last ↔ last = doubled capacity needed positive := by
  -- induction along the doubling, of which each step is a pass of the loop
  fun_induction doubled capacity needed positive with
  | case1 capacity positive hle ih =>
    have htwice := mul?_of_le hneeded hle
    rw [← ih]
    constructor
    · intro hloop
      cases hloop with
      | done hlarge => omega
      | pass hsmall hword hrest =>
        rw [htwice] at hword
        exact Option.some.inj hword ▸ hrest
    · exact .pass hle htwice
  | case2 capacity positive hgt =>
    constructor
    · intro hloop
      cases hloop with
      | done hlarge => rfl
      | pass hsmall hword hrest => exact absurd hsmall hgt
    · rintro rfl
      exact .done (Nat.lt_of_not_le hgt)

/-- Growing starts from one slot at least. -/
theorem grownCapacity_max (current needed : Nat) :
    grownCapacity (max current 1) needed = grownCapacity current needed := by
  simp only [grownCapacity, max_assoc, max_self]

/-- Of all capacities that doubling can give, a grown one is the smallest that exceeds what is
needed. -/
theorem isLeast_capacities {current : Nat} (hpos : 0 < current) (needed : Nat) :
    IsLeast {capacity | needed < capacity ∧ Doubles current capacity}
      (grownCapacity current needed) := by
  refine ⟨⟨lt_grownCapacity current needed, doubles_grownCapacity hpos needed⟩, ?_⟩
  rintro _ ⟨hlt, more, rfl⟩
  obtain ⟨times, ⟨-, hleast⟩, heq⟩ := isLeast_grownCapacity hpos needed
  have htimes : times ≤ more := hleast hlt
  rw [heq]
  exact Nat.mul_le_mul_left current (Nat.pow_le_pow_right Nat.two_pos htimes)

/-- A capacity grows without overflow, and as little as doubling allows. -/
theorem grownCapacity_exact (current : Nat) {needed : Nat} (hneeded : needed < 2 ^ 63) :
    -- The loop on machine words comes to an end without overflow, and this is what it ends with.
    (∀ last, WordLoop needed (max current 1) last ↔ last = grownCapacity current needed) ∧
    (current < Word.modulus → grownCapacity current needed < Word.modulus) ∧
    -- It is the smallest capacity that doubling can give and that exceeds what is needed.
    IsLeast {capacity | needed < capacity ∧ ∃ times, capacity = max current 1 * 2 ^ times}
      (grownCapacity current needed) ∧
    -- A capacity that is large enough stays, and one that is not grows to twice the need at most.
    max current 1 ≤ grownCapacity current needed ∧
    (grownCapacity current needed = max current 1 ↔ needed < max current 1) ∧
    (grownCapacity current needed ≠ max current 1 → grownCapacity current needed ≤ 2 * needed) := by
  have hpos : 0 < max current 1 := lt_max_of_lt_right Nat.zero_lt_one
  have hstays : grownCapacity current needed ≠ max current 1 ↔ max current 1 ≤ needed := by
    rw [← grownCapacity_max]
    exact grownCapacity_ne_iff
  have hgrows : grownCapacity current needed ≠ max current 1 →
      grownCapacity current needed ≤ 2 * needed := by
    intro hne
    rw [← grownCapacity_max]
    exact grownCapacity_le_of_le hpos (hstays.mp hne)
  refine ⟨wordLoop_iff hneeded hpos, ?_, ?_, ?_, ?_, hgrows⟩
  · intro hword
    rw [Word.modulus, twoPow_eq] at hword ⊢
    by_cases hsame : grownCapacity current needed = max current 1
    · omega
    · have hle := hgrows hsame
      omega
  · have hleast := isLeast_capacities hpos needed
    rwa [grownCapacity_max] at hleast
  · have hle := le_grownCapacity hpos needed
    rwa [grownCapacity_max] at hle
  · exact not_iff_not.mp (hstays.trans Nat.not_lt.symm)

/-- Three slots are doubled sixty-two times before they exceed the greatest need. -/
theorem grownCapacity_exact_of_three :
    WordLoop (2 ^ 63 - 1) 3 (3 * 2 ^ 62) ∧ 3 * 2 ^ 62 ≤ 2 * (2 ^ 63 - 1) := by
  obtain ⟨hloop, -, -, -, -, hbound⟩ := grownCapacity_exact 3 (by decide : 2 ^ 63 - 1 < 2 ^ 63)
  have hgrown : grownCapacity 3 (2 ^ 63 - 1) = 3 * 2 ^ 62 := by decide +kernel
  rw [hgrown] at hbound
  exact ⟨(hloop _).mpr hgrown.symm, hbound (by decide)⟩

end HostBridge.Buffer
