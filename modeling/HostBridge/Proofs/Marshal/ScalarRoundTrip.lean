import HostBridge.Proofs.Binary
import HostBridge.Proofs.Marshal.Acceptance
import HostBridge.Proofs.Marshal.Conversion

/-!
# Scalars there and back

A value that becomes a host object can be read back from it, bit by bit. This is not as plain as it
looks: -1 is also what a primitive answers when it fails, integers pass through two tests of their
range, and the parts of a complex number are read one after the other. Conversely an integer object
that is read and made again is another object with the same integer.

## Main definitions

* `Value.Exact`: a value that conversions keep bit by bit.

## Main results

* `Arena.reads_back`: what the host answers for an object that was made from a value;
* `Marshal.scalars_survive`: the round trips in both directions.
-/

namespace HostBridge

/-- A value that conversions keep bit by bit: a number of 32 bits must not be a pattern that is no
number. -/
def Value.Exact : (kind : Kind) → Value kind → Prop
  | .float32, (value : Binary32) => value.isNaN = false
  | .complex64, (value : Complex Binary32) => value.re.isNaN = false ∧ value.im.isNaN = false
  | _, _ => True

/-- An object that was made from a value stands for that value. -/
theorem Value.valueAs?_of_object? {kind : Kind} {value : Value kind} {object : Object}
    (hobject : Value.object? kind value = some object) (hexact : value.Exact) :
    object.valueAs? kind = some value := by
  have hint (bits : Nat) {found : Int} (hlow : -(2 ^ (bits - 1)) ≤ found)
      (hhigh : found < 2 ^ (bits - 1)) : (Object.int found).integerIn? bits = some found :=
    Object.integerIn?_eq_some.mpr ⟨rfl, Word.fits_iff.mpr ⟨hlow, hhigh⟩⟩
  cases kind with
  | bool => cases hobject
  | int8 =>
    cases hobject
    have hin := hint 8 (Int8.le_toInt value) (Int8.toInt_lt value)
    exact (congrArg (Option.map Int8.ofInt) hin).trans (congrArg some (Int8.ofInt_toInt value))
  | int16 =>
    cases hobject
    have hin := hint 16 (Int16.le_toInt value) (Int16.toInt_lt value)
    exact (congrArg (Option.map Int16.ofInt) hin).trans (congrArg some (Int16.ofInt_toInt value))
  | int32 =>
    cases hobject
    have hin := hint 32 (Int32.le_toInt value) (Int32.toInt_lt value)
    exact (congrArg (Option.map Int32.ofInt) hin).trans (congrArg some (Int32.ofInt_toInt value))
  | int64 =>
    cases hobject
    have hin := hint 64 (Int64.le_toInt value) (Int64.toInt_lt value)
    exact (congrArg (Option.map Int64.ofInt) hin).trans (congrArg some (Int64.ofInt_toInt value))
  | float32 =>
    cases hobject
    exact congrArg some (Binary32.narrow_widen hexact)
  | complex64 =>
    cases hobject
    exact congrArg some (congrArg₂ Complex.mk (Binary32.narrow_widen hexact.1)
      (Binary32.narrow_widen hexact.2))
  | float64 | complex128 =>
    cases hobject
    rfl

/-! ## What the host answers -/

namespace Arena

variable {arena : Arena} {ref : Ref} {object : Object} {kind : Kind}

/-- An integer object in the range of a kind is read as its integer. -/
theorem asInt_of_fits (kind : Kind) {bits : Nat} {value : Int} (hbits : kind.bits? = some bits)
    (hvalue : arena.value? ref = some (.int value)) (hfits : Word.Fits bits value) :
    arena.refusal? ref kind = none ∧ (arena.asInt ref).1 = value ∧ ¬arena.Exceeds ref kind := by
  have hwide : Word.Fits 64 value := hfits.mono (Kind.bits?_bounds hbits).2
  obtain ⟨hclear, hanswer⟩ := asInt_of_integer? hvalue rfl hwide
  refine ⟨(refusal?_of_bits hbits).trans hclear, hanswer, ?_⟩
  rintro ⟨bits', value', hbits', hvalue', hrange⟩
  rw [hbits] at hbits'
  rw [hvalue] at hvalue'
  cases hbits'
  cases hvalue'
  exact hrange hfits

/-- An object that was made from a value is read as that value. -/
theorem reads_back {value : Value kind} (hobject : Value.object? kind value = some object)
    (hexact : value.Exact) (hvalue : arena.value? ref = some object) :
    arena.refusal? ref kind = none ∧ arena.answer ref kind = value ∧
      ¬arena.Exceeds ref kind := by
  have hstands := Value.valueAs?_of_object? hobject hexact
  obtain ⟨hclear, hanswer, -⟩ := answers hvalue hstands
  exact ⟨hclear, hanswer, not_exceeds_of_valueAs? hvalue hstands⟩

/-- What is read from an integer object in range becomes the same integer again. -/
theorem object?_answer {bits : Nat} {value : Int} (hbits : kind.bits? = some bits)
    (hanswer : (arena.asInt ref).1 = value) (hfits : Word.Fits bits value) :
    Value.object? kind (arena.answer ref kind) = some (.int value) := by
  obtain ⟨hlow, hhigh⟩ := Word.fits_iff.mp hfits
  cases kind with
  | int8 =>
    cases hbits
    show some (Object.int (Int8.ofInt (arena.asInt ref).1).toInt) = _
    rw [hanswer, Int8.toInt_ofInt_of_le hlow hhigh]
  | int16 =>
    cases hbits
    show some (Object.int (Int16.ofInt (arena.asInt ref).1).toInt) = _
    rw [hanswer, Int16.toInt_ofInt_of_le hlow hhigh]
  | int32 =>
    cases hbits
    show some (Object.int (Int32.ofInt (arena.asInt ref).1).toInt) = _
    rw [hanswer, Int32.toInt_ofInt_of_le hlow hhigh]
  | int64 =>
    cases hbits
    show some (Object.int (Int64.ofInt (arena.asInt ref).1).toInt) = _
    rw [hanswer, Int64.toInt_ofInt_of_le hlow hhigh]
  | bool | float32 | float64 | complex64 | complex128 => cases hbits

end Arena

namespace Marshal

variable {exchange : Exchange Arena} {kind : Kind} {ref : Ref}

/-- With no exception pending, what the host answers is taken. -/
theorem outcome_toValue (hkind : kind ≠ .bool) (hpending : exchange.host.error = none)
    (hclear : exchange.host.refusal? ref kind = none) (hrange : ¬exchange.host.Exceeds ref kind) :
    (outcome (toValue kind ref) exchange).1 = .ok (exchange.host.answer ref kind) ∧
      (outcome (toValue kind ref) exchange).2.host = exchange.host := by
  rcases reading_toValue hkind ref exchange with hread | ⟨-, hexceeds, -⟩
  · cases hread with
    | found _ _ hresult hhost => exact ⟨hresult, hhost⟩
    | doubted _ _ hdoubt _ _ => exact absurd hpending hdoubt
    | raised exception hraised _ _ =>
      rw [hclear] at hraised
      cases hraised
  · exact absurd hexceeds hrange

/-- The object for a truth value is read as that value. -/
theorem outcome_toBool (value : Bool) (exchange : Exchange Arena) :
    (outcome (toBool (if value then Arena.trueRef else Arena.falseRef)) exchange).1 =
      .ok value := by
  cases value <;> rfl

theorem reads_back_ofBool (hreachable : exchange.host.Reachable)
    (hpending : exchange.host.error = none) (value : Bool) :
    ∃ ref made after, outcome (ofBool value) exchange = (.ok ref, made) ∧
      made.host.error = none ∧ outcome (toBool ref) made = (.ok value, after) ∧
      after.host.error = none := by
  have hmade := outcome_ofBool value exchange
  rw [hreachable.regular.incref_truth value] at hmade
  have hsame := silent_toBool (if value then Arena.trueRef else Arena.falseRef) exchange
  exact ⟨_, exchange, _, hmade, hpending, Prod.ext (outcome_toBool value exchange) rfl,
    hsame ▸ hpending⟩

/-- A value becomes an object, from which it is read again. -/
theorem reads_back_ofValue (hreachable : exchange.host.Reachable)
    (hpending : exchange.host.error = none) (hroom : exchange.host.isFull = false)
    {value : Value kind} (hexact : value.Exact) :
    ∃ ref made after, outcome (ofValue kind value) exchange = (.ok ref, made) ∧
      made.host.error = none ∧ outcome (toValue kind ref) made = (.ok value, after) ∧
      after.host.error = none := by
  cases hobject : Value.object? kind value with
  | none =>
    obtain rfl := Value.eq_bool_of_object? hobject
    exact reads_back_ofBool hreachable hpending value
  | some object =>
    have hkind : kind ≠ .bool := by
      rintro rfl
      cases hobject
    obtain ⟨hresult, hhost⟩ := (makes_ofValue hobject).placed exchange hroom
    have hcreates := hreachable.regular.creates object
    rw [← hhost] at hcreates
    have hclear : (outcome (ofValue kind value) exchange).2.host.error = none :=
      hcreates.error.trans hpending
    obtain ⟨hrefusal, hanswer, hrange⟩ := Arena.reads_back hobject hexact hcreates.value
    obtain ⟨hread, hsame⟩ := outcome_toValue hkind hclear hrefusal hrange
    rw [hanswer] at hread
    exact ⟨_, _, _, Prod.ext hresult rfl, hclear, Prod.ext hread rfl, hsame ▸ hclear⟩

/-- An integer object is read, and another one is made from what was read. -/
theorem copies_integer (hreachable : exchange.host.Reachable)
    (hpending : exchange.host.error = none) (hroom : exchange.host.isFull = false) {bits : Nat}
    {value : Int} (hbits : kind.bits? = some bits)
    (hvalue : exchange.host.value? ref = some (.int value)) (hfits : Word.Fits bits value) :
    ∃ read next copy made, outcome (toValue kind ref) exchange = (.ok read, next) ∧
      next.host.error = none ∧ outcome (ofValue kind read) next = (.ok copy, made) ∧
      exchange.host.isAlive copy = false ∧ made.host.value? copy = some (.int value) ∧
      made.host.error = none := by
  have hkind : kind ≠ .bool := by
    rintro rfl
    cases hbits
  obtain ⟨hrefusal, hanswer, hrange⟩ := Arena.asInt_of_fits kind hbits hvalue hfits
  obtain ⟨hread, hsame⟩ := outcome_toValue hkind hpending hrefusal hrange
  have hobject := Arena.object?_answer hbits hanswer hfits
  rcases hrun : outcome (toValue kind ref) exchange with ⟨result, next⟩
  rw [hrun] at hread hsame
  -- reading left the arena as it was, so there is still room
  obtain ⟨hresult, hhost⟩ := (makes_ofValue hobject).placed next (by rw [hsame]; exact hroom)
  have hcreates := hreachable.regular.creates (.int value)
  rw [hsame] at hresult hhost
  rw [← hhost] at hcreates
  exact ⟨_, next, _, _, Prod.ext hread rfl, hsame ▸ hpending, Prod.ext hresult rfl,
    hcreates.fresh, hcreates.value, hcreates.error.trans hpending⟩

/-- Scalars survive the way to the host and back, and integer objects the way from the host and back
to it. No exception is pending on the way. -/
theorem scalars_survive (exchange : Exchange Arena) (hreachable : exchange.host.Reachable)
    (hpending : exchange.host.error = none) (hroom : exchange.host.isFull = false) :
    (∀ (kind : Kind) (value : Value kind), value.Exact →
      ∃ ref made after, outcome (ofValue kind value) exchange = (.ok ref, made) ∧
        made.host.error = none ∧ outcome (toValue kind ref) made = (.ok value, after) ∧
        after.host.error = none) ∧
    ∀ (kind : Kind) (bits : Nat) (ref : Ref) (value : Int), kind.bits? = some bits →
      exchange.host.value? ref = some (.int value) → Word.Fits bits value →
      ∃ read next copy made, outcome (toValue kind ref) exchange = (.ok read, next) ∧
        next.host.error = none ∧ outcome (ofValue kind read) next = (.ok copy, made) ∧
        exchange.host.isAlive copy = false ∧ made.host.value? copy = some (.int value) ∧
        made.host.error = none :=
  ⟨fun _ _ hexact => reads_back_ofValue hreachable hpending hroom hexact,
    fun _ _ _ _ hbits hvalue hfits => copies_integer hreachable hpending hroom hbits hvalue hfits⟩

/-- An arena with room for one more object beside the integer -1. -/
def lastPlace : Exchange Arena where
  host := ((Arena.Operation.newInt (-1)).apply
    ((Arena.Operation.setLimit (some 2)).apply .empty).2).2
  stats := {}
  settings := ⟨[], none⟩

/-- The value by which primitives fail is itself converted both ways. -/
theorem scalars_survive_of_minusOne :
    lastPlace.host.Reachable ∧ lastPlace.host.error = none ∧ lastPlace.host.isFull = false ∧
    (∃ ref made after,
      outcome (ofValue .complex128 (⟨.minusOne, .minusOne⟩ : Complex Binary64)) lastPlace =
        (.ok ref, made) ∧ made.host.error = none ∧
      outcome (toValue .complex128 ref) made =
        (.ok (⟨.minusOne, .minusOne⟩ : Complex Binary64), after) ∧ after.host.error = none) ∧
    ∃ read next copy made, outcome (toValue .int8 ⟨3, 0⟩) lastPlace = (.ok read, next) ∧
      next.host.error = none ∧ outcome (ofValue .int8 read) next = (.ok copy, made) ∧
      lastPlace.host.isAlive copy = false ∧ made.host.value? copy = some (.int (-1)) ∧
      made.host.error = none := by
  have hreachable : lastPlace.host.Reachable := .step _ (.step _ .empty)
  obtain ⟨hthere, hback⟩ := scalars_survive lastPlace hreachable rfl rfl
  exact ⟨hreachable, rfl, rfl, hthere .complex128 _ trivial,
    hback .int8 8 ⟨3, 0⟩ (-1) rfl rfl (by decide)⟩

end Marshal

end HostBridge
