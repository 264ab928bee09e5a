import HostBridge.Proofs.Layout.Dense

/-!
# All indices in order

The indices of an array are enumerated in two ways: as all choices of coordinates, one axis within
another, and by an odometer that takes one step after another. This module shows that both are the
list of all indices by their position, which is their lexicographic order.

## Main results

* `Shape.map_position_indices`: the index at each place of the list has that place as its position;
* `Shape.pairwise_indices`: the list is in lexicographic order;
* `Shape.walk_eq_indices`: the odometer reaches the indices in the order of the list;
* `Odometer.enumerates_once`: step by step, it reaches every index once and then nothing.
-/

namespace HostBridge

namespace Shape

variable {shape : Shape} {index : Index}

/-- Numbers below a product, counted in rows. -/
theorem flatMap_range (rows columns : Nat) :
    ((List.range rows).flatMap fun i => (List.range columns).map fun j => i * columns + j) =
      List.range (rows * columns) := by
  induction rows with
  | zero => simp
  | succ rows ih =>
    rw [List.range_succ, List.flatMap_append, ih, List.flatMap_singleton, Nat.succ_mul,
      List.range_add]

theorem map_position_grid (shape : Shape) :
    shape.grid.map shape.position = List.range shape.prod := by
  induction shape with
  | nil => rfl
  | cons extent shape ih =>
    rw [grid, List.map_flatMap, List.prod_cons, ← flatMap_range]
    congr 1
    ext1 i
    rw [List.map_map, ← ih, List.map_map]
    rfl

theorem mem_grid_iff : index ∈ shape.grid ↔ shape.Contains index := by
  induction shape generalizing index with
  | nil => simp [grid, Contains]
  | cons extent shape ih =>
    simp only [grid, List.mem_flatMap, List.mem_range, List.mem_map, ih, Contains]
    constructor
    · rintro ⟨i, hi, rest, hrest, rfl⟩
      exact .cons hi hrest
    · rintro (_ | ⟨hi, hrest⟩)
      exact ⟨_, hi, _, hrest, rfl⟩

theorem length_grid (shape : Shape) : shape.grid.length = shape.prod := by
  rw [← List.length_map shape.position, map_position_grid, List.length_range]

/-- The test for empty axes only saves time: without elements there are no choices. -/
theorem indices_eq_grid (shape : Shape) : shape.indices = shape.grid := by
  unfold indices
  split
  · rename_i hempty
    refine (List.eq_nil_of_length_eq_zero ?_).symm
    rw [length_grid, List.prod_eq_zero (hasEmptyAxis_iff.mp hempty)]
  · rfl

theorem mem_indices_iff : index ∈ shape.indices ↔ shape.Contains index := by
  rw [indices_eq_grid, mem_grid_iff]

theorem length_indices (shape : Shape) : shape.indices.length = shape.prod := by
  rw [indices_eq_grid, length_grid]

theorem map_position_indices (shape : Shape) :
    shape.indices.map shape.position = List.range shape.prod := by
  rw [indices_eq_grid, map_position_grid]

theorem position_getElem_indices {k : Nat} (hk : k < shape.indices.length) :
    shape.position shape.indices[k] = k := by
  have hmap : (shape.indices.map shape.position)[k]? = (List.range shape.prod)[k]? := by
    rw [map_position_indices]
  rw [length_indices] at hk
  simpa [hk, length_indices] using hmap

/-- An index stands in the list at its position. -/
theorem getElem_indices_position (h : shape.Contains index)
    (hk : shape.position index < shape.indices.length) :
    shape.indices[shape.position index] = index :=
  position_injective (mem_indices_iff.mp (List.getElem_mem hk)) h (position_getElem_indices hk)

/-- The position decides which of two indices comes first: it is the first coordinate in which they
differ that counts, since all later ones together are worth less than one step of it. -/
theorem lex_of_position_lt {other : Index} (h : shape.Contains index) (h' : shape.Contains other)
    (hlt : shape.position index < shape.position other) : List.Lex (· < ·) index other := by
  induction h generalizing other with
  | nil =>
    cases h'
    exact absurd hlt (Nat.lt_irrefl _)
  | @cons i extent index shape hi hrest ih =>
    cases h' with
    | @cons j _ other _ hj hrest' =>
      rw [position, position] at hlt
      rcases Nat.lt_trichotomy i j with hless | rfl | hgreater
      · exact .rel hless
      · exact .cons (ih hrest' (Nat.lt_of_add_lt_add_left hlt))
      · have hstep : (j + 1) * shape.prod ≤ i * shape.prod := Nat.mul_le_mul_right _ hgreater
        have hother := position_lt hrest'
        rw [Nat.succ_mul] at hstep
        omega

theorem pairwise_indices (shape : Shape) : shape.indices.Pairwise (List.Lex (· < ·)) := by
  have hpositions : (shape.indices.map shape.position).Pairwise (· < ·) := by
    rw [map_position_indices]
    exact List.pairwise_lt_range
  refine (List.pairwise_map.mp hpositions).imp_of_mem fun hindex hother hlt => ?_
  exact lex_of_position_lt (mem_indices_iff.mp hindex) (mem_indices_iff.mp hother) hlt

end Shape

namespace Odometer

open Shape

variable {shape : Shape}

/-- A walk that has not begun has all indices before it, also if there are none. -/
theorem progress_of_start (shape : Shape) : Progress shape 0 (start shape) := by
  by_cases hempty : 0 ∈ shape
  · have hprod : shape.prod = 0 := List.prod_eq_zero hempty
    exact ⟨rfl, fun hlt => absurd hprod hlt.ne', fun _ => if_pos (hasEmptyAxis_iff.mpr hempty)⟩
  · exact progress_start hempty

/-- A walk with `k` indices behind it has the rest of the list before it. -/
theorem Progress.take_eq {k : Nat} {walk : Odometer} (h : Progress shape k walk) (steps : Nat) :
    walk.take steps = (shape.indices.drop k).take steps := by
  induction steps generalizing k walk with
  | zero => rw [Odometer.take, List.take_zero]
  | succ steps ih =>
    by_cases hk : k < shape.prod
    · obtain ⟨index, hupcoming, hindex, rfl⟩ := h.upcoming hk
      have hnext : walk.next = (some index, walk.next.2) := Prod.ext hupcoming rfl
      rw [← length_indices] at hk
      rw [Odometer.take, hnext, List.drop_eq_getElem_cons hk, List.take_succ_cons,
        getElem_indices_position hindex hk, ← ih h.next]
    · have hnext : walk.next = (none, walk.next.2) := Prod.ext (h.ended (Nat.not_lt.mp hk)) rfl
      rw [Odometer.take, hnext, List.drop_eq_nil_of_le, List.take_nil]
      rw [length_indices]
      exact Nat.not_lt.mp hk

/-- However many steps a walk may take, it reaches the indices in the order of the list. -/
theorem take_start (shape : Shape) (steps : Nat) :
    (start shape).take steps = shape.indices.take steps := by
  rw [(progress_of_start shape).take_eq, List.drop_zero]

/-- What a walk answers after `k` steps is what stands in the list at place `k`, and nothing beyond
the end of the list. -/
theorem reached_eq_getElem? (shape : Shape) (k : Nat) : reached shape k = shape.indices[k]? := by
  have hprogress := (progress_of_start shape).iterate k
  by_cases hk : k < shape.prod
  · obtain ⟨index, hupcoming, hindex, rfl⟩ := hprogress.upcoming hk
    rw [← length_indices] at hk
    rw [List.getElem?_eq_getElem hk, getElem_indices_position hindex hk]
    exact hupcoming
  · have hle := Nat.not_lt.mp hk
    rw [List.getElem?_eq_none (by rwa [length_indices])]
    exact hprogress.ended hle

/-- An index is reached by the step that its position says, and by no other. -/
theorem reached_eq_some_iff {index : Index} {k : Nat} :
    reached shape k = some index ↔ shape.Contains index ∧ shape.position index = k := by
  rw [reached_eq_getElem?, List.getElem?_eq_some_iff]
  constructor
  · rintro ⟨hplace, rfl⟩
    exact ⟨mem_indices_iff.mp (List.getElem_mem hplace), position_getElem_indices hplace⟩
  · rintro ⟨hindex, rfl⟩
    have hplace : shape.position index < shape.indices.length := by
      rw [length_indices]
      exact position_lt hindex
    exact ⟨hplace, getElem_indices_position hindex hplace⟩

end Odometer

/-- An odometer reaches all indices in the order of the list. -/
theorem Shape.walk_eq_indices (shape : Shape) : shape.walk = shape.indices := by
  rw [walk, Odometer.take_start, ← List.prod_eq_foldl, ← length_indices, List.take_length]

/-- An odometer reaches every index once, in increasing order, and nothing after that. -/
theorem Odometer.enumerates_once (shape : Shape) :
    -- Step by step the answers are those of a finite list, followed by nothing forever.
    (∀ k, reached shape k = shape.walk[k]?) ∧
    (∀ k, shape.prod ≤ k → reached shape k = none) ∧
    -- A walk until nothing is left comes to its end, and has passed through this list.
    (∀ steps, shape.prod ≤ steps → (start shape).take steps = shape.walk) ∧
    -- The list holds the indices of the array and nothing else, and each is reached by one step.
    (∀ index, index ∈ shape.walk ↔ shape.Contains index) ∧
    (∀ index, shape.Contains index → ∃! k, reached shape k = some index) ∧
    -- Each index in the list is less than all that follow, by the first coordinate that differs.
    shape.walk.Pairwise (List.Lex (· < ·)) ∧
    -- Their number is the product of the extents.
    shape.walk.length = shape.prod ∧
    (shape = [] → shape.walk.length = 1) ∧ (0 ∈ shape → shape.walk.length = 0) := by
  have hlength := Shape.length_indices shape
  rw [Shape.walk_eq_indices]
  refine ⟨reached_eq_getElem? shape, fun k hk => ?_, fun steps hsteps => ?_,
    fun index => Shape.mem_indices_iff, fun index hindex => ?_,
    Shape.pairwise_indices shape, hlength,
    fun hrank => ?_, fun hempty => ?_⟩
  · rw [reached_eq_getElem?]
    exact List.getElem?_eq_none (by rwa [hlength])
  · rw [take_start]
    exact List.take_of_length_le (by rwa [hlength])
  · exact ⟨shape.position index, reached_eq_some_iff.mpr ⟨hindex, rfl⟩,
      fun k hk => (reached_eq_some_iff.mp hk).2.symm⟩
  · rw [hlength, hrank, List.prod_nil]
  · rw [hlength, List.prod_eq_zero hempty]

/-- The carry runs through an axis of one element, and the last index is followed by nothing. -/
example : (List.range 8).map (Odometer.reached [2, 1, 3]) =
    [some [0, 0, 0], some [0, 0, 1], some [0, 0, 2], some [1, 0, 0], some [1, 0, 1], some [1, 0, 2],
      none, none] := rfl

end HostBridge
