import HostBridge.Proofs.Binary.Integer
import HostBridge.Proofs.Marshal.Scalar

/-!
# Which objects are read as numbers

What an object stands for as a number depends on the object alone: integers and truth values stand
for integers, these and floating-point numbers for real numbers, and these and complex numbers for
complex ones. Reading it depends on one thing more, an exception that was pending before, since a
legal -1 is then taken for a failure. This module says for every object and every arena whether a
number is read, which one, and if not, what is reported and which exception is pending afterwards.

## Main definitions

* `Object.integer?`, `Object.real?` and `Object.parts?`: the numbers that an object stands for;
* `Object.valueAs?`: the value of a kind that an object stands for;
* `Object.Suits` and `Object.ReadsMark`: an object that has the right type for a kind; one that is
  read as the value by which primitives fail;
* `Acceptance`: how reading an object as a number ends, in terms of the object.

## Main results

* `Object.readsMark_int_iff`: of all integers only -1 is read as that value;
* `Arena.answers`: what the host answers for an object that stands for a value;
* `Marshal.acceptance_toValue`: every reading ends in one of the four ways of `Acceptance`;
* `Marshal.accepts_exactly`: the objects that are read, and what happens to all others.
-/

namespace HostBridge

/-! ## What objects stand for -/

namespace Object

/-- The integer that an object stands for. -/
def integer? : Object → Option Int
  | int value => some value
  | bool value => some (if value then 1 else 0)
  | _ => Option.none

/-- The real number that an object stands for. -/
def real? : Object → Option Binary64
  | float value => some value
  | int value => some (Binary64.ofInt value)
  | bool value => some (Binary64.ofBool value)
  | _ => Option.none

/-- The complex number that an object stands for. -/
def parts? : Object → Option (Complex Binary64)
  | complex value => some value
  | object => object.real?.map fun value => ⟨value, Binary64.zero⟩

/-- The integer of `bits` bits that an object stands for. -/
def integerIn? (bits : Nat) (object : Object) : Option Int :=
  object.integer?.filter fun value => Word.Fits bits value

/-- The value of a numeric kind that an object stands for. An integer must be in the range of the
kind, and a real number is rounded to it. -/
def valueAs? (object : Object) : (kind : Kind) → Option (Value kind)
  | .bool => Option.none
  | .int8 => (object.integerIn? 8).map Int8.ofInt
  | .int16 => (object.integerIn? 16).map Int16.ofInt
  | .int32 => (object.integerIn? 32).map Int32.ofInt
  | .int64 => (object.integerIn? 64).map Int64.ofInt
  | .float32 => object.real?.map Binary64.narrow
  | .float64 => object.real?
  | .complex64 => object.parts?.map fun value =>
      (⟨value.re.narrow, value.im.narrow⟩ : Complex Binary32)
  | .complex128 => object.parts?

/-- An object has a type from which a value of the kind is read. -/
def Suits (object : Object) : Kind → Prop
  | .bool => False
  | .int8 | .int16 | .int32 | .int64 => object.integer?.isSome
  | .float32 | .float64 => object.real?.isSome
  | .complex64 | .complex128 => object.parts?.isSome

/-- The number that is read from an object for a kind, or a part of it, is the value by which
primitives fail. -/
def ReadsMark (object : Object) : Kind → Prop
  | .bool => False
  | .int8 | .int16 | .int32 | .int64 => object.integer? = some (-1)
  | .float32 | .float64 => object.real? = some Binary64.minusOne
  | .complex64 | .complex128 => ∃ value, object.parts? = some value ∧
      (value.re = Binary64.minusOne ∨ value.im = Binary64.minusOne)

variable {object : Object} {kind : Kind}

theorem integerIn?_eq_some {bits : Nat} {value : Int} :
    object.integerIn? bits = some value ↔ object.integer? = some value ∧ Word.Fits bits value := by
  rw [integerIn?, Option.filter_eq_some_iff, decide_eq_true_iff]

theorem suits_of_bits {bits : Nat} (h : kind.bits? = some bits) :
    object.Suits kind = object.integer?.isSome := by
  cases kind <;> first | rfl | cases h

theorem readsMark_of_bits {bits : Nat} (h : kind.bits? = some bits) :
    object.ReadsMark kind = (object.integer? = some (-1)) := by
  cases kind <;> first | rfl | cases h

/-- An integer of the host is read as that value for -1 alone, whatever the kind: rounding brings no
other to it. -/
theorem readsMark_int_iff {value : Int} (hfits : Word.Fits 128 value) (hkind : kind ≠ .bool) :
    (int value).ReadsMark kind ↔ value = -1 := by
  cases kind with
  | bool => exact absurd rfl hkind
  | int8 | int16 | int32 | int64 => exact Option.some_inj
  | float32 | float64 => exact Option.some_inj.trans (Binary64.ofInt_eq_minusOne_iff hfits)
  | complex64 | complex128 =>
    have hzero : Binary64.zero ≠ Binary64.minusOne := by decide
    rw [← Binary64.ofInt_eq_minusOne_iff hfits]
    constructor
    · rintro ⟨parts, hparts, hmark⟩
      have hparts : ⟨Binary64.ofInt value, Binary64.zero⟩ = parts := Option.some_inj.mp hparts
      subst hparts
      exact hmark.resolve_right hzero
    · exact fun hmark => ⟨_, rfl, Or.inl hmark⟩

/-- The value of an integer kind is made from an integer in range, for objects as for the answers of
a host. -/
theorem exists_make {bits : Nat} (h : kind.bits? = some bits) :
    ∃ make : Int → Value kind,
      (∀ object : Object, object.valueAs? kind = (object.integerIn? bits).map make) ∧
      ∀ (arena : Arena) (ref : Ref), arena.answer ref kind = make (arena.asInt ref).1 := by
  cases kind with
  | int8 =>
    cases h
    exact ⟨Int8.ofInt, fun _ => rfl, fun _ _ => rfl⟩
  | int16 =>
    cases h
    exact ⟨Int16.ofInt, fun _ => rfl, fun _ _ => rfl⟩
  | int32 =>
    cases h
    exact ⟨Int32.ofInt, fun _ => rfl, fun _ _ => rfl⟩
  | int64 =>
    cases h
    exact ⟨Int64.ofInt, fun _ => rfl, fun _ _ => rfl⟩
  | _ => cases h

/-- An object that stands for an integer is in range, or it is an integer object that is not: both
truth values are in every range. -/
theorem eq_int_of_not_fits {bits : Nat} (hwide : 8 ≤ bits) {value : Int}
    (hvalue : object.integer? = some value) (hfits : ¬Word.Fits bits value) :
    object = int value := by
  cases object with
  | int found => exact congrArg int (Option.some.inj hvalue)
  | bool found =>
    cases hvalue
    have hsmall : Word.Fits 8 (if found then 1 else 0) := by cases found <;> decide
    exact absurd (hsmall.mono hwide) hfits
  | _ => cases hvalue

/-- An object with the right type stands for a value, unless it is an integer out of range. -/
theorem Suits.valueAs? (h : object.Suits kind) :
    (∃ value, object.valueAs? kind = some value) ∨
      ∃ bits value, kind.bits? = some bits ∧ object = int value ∧ ¬Word.Fits bits value := by
  rcases hbits : kind.bits? with _ | bits
  · refine Or.inl ?_
    cases kind with
    | bool => exact h.elim
    | float32 | complex64 =>
      obtain ⟨value, hvalue⟩ := Option.isSome_iff_exists.mp h
      exact ⟨_, congrArg (Option.map _) hvalue⟩
    | float64 | complex128 => exact Option.isSome_iff_exists.mp h
    | _ => cases hbits
  · obtain ⟨make, hmake, -⟩ := exists_make hbits
    rw [suits_of_bits hbits] at h
    obtain ⟨value, hvalue⟩ := Option.isSome_iff_exists.mp h
    by_cases hfits : Word.Fits bits value
    · rw [hmake, integerIn?_eq_some.mpr ⟨hvalue, hfits⟩]
      exact Or.inl ⟨make value, rfl⟩
    · have hint := eq_int_of_not_fits (Kind.bits?_bounds hbits).1 hvalue hfits
      exact Or.inr ⟨bits, value, rfl, hint, hfits⟩

/-- An object that stands for a value has the right type, and is no integer out of range. -/
theorem suits_of_valueAs? {value : Value kind} (h : object.valueAs? kind = some value) :
    object.Suits kind ∧
      ∀ bits found, kind.bits? = some bits → object = int found → Word.Fits bits found := by
  rcases hbits : kind.bits? with _ | bits
  · refine ⟨?_, by simp⟩
    cases kind with
    | bool => cases h
    | float32 | complex64 =>
      obtain ⟨number, hnumber, -⟩ := Option.map_eq_some_iff.mp h
      exact Option.isSome_iff_exists.mpr ⟨number, hnumber⟩
    | float64 | complex128 => exact Option.isSome_iff_exists.mpr ⟨value, h⟩
    | _ => cases hbits
  · obtain ⟨make, hmake, -⟩ := exists_make hbits
    rw [hmake] at h
    obtain ⟨number, hnumber, -⟩ := Option.map_eq_some_iff.mp h
    obtain ⟨hinteger, hfits⟩ := integerIn?_eq_some.mp hnumber
    refine ⟨?_, ?_⟩
    · rw [suits_of_bits hbits]
      exact Option.isSome_iff_exists.mpr ⟨number, hinteger⟩
    · rintro _ found ⟨rfl⟩ rfl
      cases hinteger
      exact hfits

end Object

/-! ## What the host answers -/

namespace Arena

variable {arena : Arena} {ref : Ref} {object : Object} {kind : Kind} {α : Type}

/-- A primitive that answers for an object raises nothing. -/
theorem raises_eq_none_of_answers (read : Arena → α × Arena) {answer : α}
    (h : ∀ next : Arena, next.value? ref = some object → read next = (answer, next))
    (hvalue : arena.value? ref = some object) :
    arena.raises read = none ∧ (read arena).1 = answer :=
  ⟨by rw [raises, h { arena with error := none } hvalue], by rw [h arena hvalue]⟩

theorem asInt_of_integer? {value : Int} (hvalue : arena.value? ref = some object)
    (hinteger : object.integer? = some value) (hfits : Word.Fits 64 value) :
    arena.raises (asInt · ref) = none ∧ (arena.asInt ref).1 = value := by
  refine raises_eq_none_of_answers (asInt · ref) (fun next hnext => ?_) hvalue
  rw [asInt, hnext]
  cases object with
  | int value =>
    cases hinteger
    exact if_pos hfits
  | bool value =>
    cases hinteger
    rfl
  | _ => cases hinteger

theorem asFloat_of_real? {value : Binary64} (hvalue : arena.value? ref = some object)
    (hreal : object.real? = some value) :
    arena.raises (asFloat · ref) = none ∧ (arena.asFloat ref).1 = value := by
  refine raises_eq_none_of_answers (asFloat · ref) (fun next hnext => ?_) hvalue
  rw [asFloat, realValue, hnext]
  cases object with
  | float value | int value | bool value =>
    cases hreal
    rfl
  | _ => cases hreal

theorem complexReal_of_parts? {value : Complex Binary64} (hvalue : arena.value? ref = some object)
    (hparts : object.parts? = some value) :
    arena.raises (complexReal · ref) = none ∧ (arena.complexReal ref).1 = value.re := by
  refine raises_eq_none_of_answers (complexReal · ref) (fun next hnext => ?_) hvalue
  rw [complexReal, realValue, hnext]
  cases object with
  | complex value | float value | int value | bool value =>
    cases hparts
    rfl
  | _ => cases hparts

theorem complexImag_of_parts? {value : Complex Binary64} (hvalue : arena.value? ref = some object)
    (hparts : object.parts? = some value) :
    arena.raises (complexImag · ref) = none ∧ (arena.complexImag ref).1 = value.im := by
  refine raises_eq_none_of_answers (complexImag · ref) (fun next hnext => ?_) hvalue
  rw [complexImag, hnext]
  cases object with
  | complex value | float value | int value | bool value =>
    cases hparts
    rfl
  | _ => cases hparts

/-- Both parts of the number that an object stands for are answered. -/
theorem answers_parts {value : Complex Binary64} (hobject : arena.value? ref = some object)
    (hparts : object.parts? = some value) :
    (arena.raises (complexReal · ref)).or (arena.raises (complexImag · ref)) = none ∧
      (⟨(arena.complexReal ref).1, (arena.complexImag ref).1⟩ : Complex Binary64) = value ∧
      (((arena.complexReal ref).1 = Binary64.minusOne ∨
          (arena.complexImag ref).1 = Binary64.minusOne) ↔
        ∃ found, object.parts? = some found ∧
          (found.re = Binary64.minusOne ∨ found.im = Binary64.minusOne)) := by
  obtain ⟨hreal, hre⟩ := complexReal_of_parts? hobject hparts
  obtain ⟨himag, him⟩ := complexImag_of_parts? hobject hparts
  rw [hreal, himag, hre, him, hparts]
  exact ⟨rfl, rfl, by simp only [Option.some.injEq, exists_eq_left']⟩

/-- What the host answers for an object that stands for a value. -/
theorem answers {value : Value kind} (hobject : arena.value? ref = some object)
    (hvalue : object.valueAs? kind = some value) :
    arena.refusal? ref kind = none ∧ arena.answer ref kind = value ∧
      (arena.IsMarked ref kind ↔ object.ReadsMark kind) := by
  rcases hbits : kind.bits? with _ | bits
  · cases kind with
    | bool => cases hvalue
    | float32 =>
      obtain ⟨number, hnumber, rfl⟩ := Option.map_eq_some_iff.mp hvalue
      obtain ⟨hclear, hanswer⟩ := asFloat_of_real? hobject hnumber
      refine ⟨hclear, congrArg Binary64.narrow hanswer, ?_⟩
      rw [IsMarked, Object.ReadsMark, hanswer, hnumber, Option.some_inj]
    | float64 =>
      obtain ⟨hclear, hanswer⟩ := asFloat_of_real? hobject hvalue
      refine ⟨hclear, hanswer, ?_⟩
      rw [IsMarked, Object.ReadsMark, hanswer, show object.real? = _ from hvalue]
      exact Option.some_inj.symm
    | complex64 =>
      obtain ⟨number, hnumber, rfl⟩ := Option.map_eq_some_iff.mp hvalue
      obtain ⟨hclear, hanswer, hmark⟩ := answers_parts hobject hnumber
      obtain ⟨hre, him⟩ := Complex.mk.inj hanswer
      exact ⟨hclear, by rw [answer, hre, him], hmark⟩
    | complex128 => exact answers_parts hobject hvalue
    | _ => cases hbits
  · obtain ⟨make, hmake, hanswers⟩ := Object.exists_make hbits
    rw [hmake] at hvalue
    obtain ⟨number, hnumber, rfl⟩ := Option.map_eq_some_iff.mp hvalue
    obtain ⟨hinteger, hfits⟩ := Object.integerIn?_eq_some.mp hnumber
    obtain ⟨hclear, hanswer⟩ :=
      asInt_of_integer? hobject hinteger (hfits.mono (Kind.bits?_bounds hbits).2)
    rw [refusal?_of_bits hbits, isMarked_of_bits hbits, Object.readsMark_of_bits hbits, hanswers,
      hanswer, hinteger]
    exact ⟨hclear, rfl, Option.some_inj.symm⟩

/-- An object that stands for a value is not out of range. -/
theorem not_exceeds_of_valueAs? {value : Value kind} (hobject : arena.value? ref = some object)
    (hvalue : object.valueAs? kind = some value) : ¬arena.Exceeds ref kind := by
  rintro ⟨bits, found, hbits, hfound, hexceeds⟩
  have hint : object = .int found := Option.some.inj (hobject.symm.trans hfound)
  exact hexceeds ((Object.suits_of_valueAs? hvalue).2 bits found hbits hint)

theorem integer?_of_raises (h : arena.raises (asInt · ref) = none) :
    ∃ object, arena.value? ref = some object ∧ object.integer?.isSome := by
  have hsame : ({ arena with error := none } : Arena).value? ref = arena.value? ref := rfl
  dsimp only [raises, asInt] at h
  rw [hsame] at h
  rcases hvalue : arena.value? ref with _ | object
  · rw [hvalue] at h
    cases h
  · refine ⟨object, rfl, ?_⟩
    rw [hvalue] at h
    cases object with
    | int value | bool value => rfl
    | _ => cases h

theorem real?_of_raises (h : arena.raises (asFloat · ref) = none) :
    ∃ object, arena.value? ref = some object ∧ object.real?.isSome := by
  have hsame : ({ arena with error := none } : Arena).value? ref = arena.value? ref := rfl
  dsimp only [raises, asFloat, realValue] at h
  rw [hsame] at h
  rcases hvalue : arena.value? ref with _ | object
  · rw [hvalue] at h
    cases h
  · refine ⟨object, rfl, ?_⟩
    rw [hvalue] at h
    cases object with
    | float value | int value | bool value => rfl
    | _ => cases h

theorem parts?_of_raises (h : arena.raises (complexReal · ref) = none) :
    ∃ object, arena.value? ref = some object ∧ object.parts?.isSome := by
  have hsame : ({ arena with error := none } : Arena).value? ref = arena.value? ref := rfl
  dsimp only [raises, complexReal, realValue] at h
  rw [hsame] at h
  rcases hvalue : arena.value? ref with _ | object
  · rw [hvalue] at h
    cases h
  · refine ⟨object, rfl, ?_⟩
    rw [hvalue] at h
    cases object with
    | complex value | float value | int value | bool value => rfl
    | _ => cases h

/-- If the host raises nothing, there is an object of the right type. -/
theorem suits_of_refusal? (hkind : kind ≠ .bool) (h : arena.refusal? ref kind = none) :
    ∃ object, arena.value? ref = some object ∧ object.Suits kind := by
  cases kind with
  | bool => exact absurd rfl hkind
  | int8 | int16 | int32 | int64 => exact integer?_of_raises h
  | float32 | float64 => exact real?_of_raises h
  | complex64 | complex128 => exact parts?_of_raises (Option.or_eq_none_iff.mp h).1

/-- An integer that is no word makes the host overflow. -/
theorem refusal?_of_not_fits {bits : Nat} {value : Int} (hbits : kind.bits? = some bits)
    (hobject : arena.value? ref = some (.int value)) (hfits : ¬Word.Fits 64 value) :
    ∃ exception, arena.refusal? ref kind = some exception := by
  have hsame : ({ arena with error := none } : Arena).value? ref = some (.int value) := hobject
  rw [refusal?_of_bits hbits]
  dsimp only [raises, asInt]
  rw [hsame]
  simp only [if_neg hfits]
  exact ⟨_, rfl⟩

end Arena

/-! ## How reading ends -/

/-- How reading an object as a value of a numeric kind ends, and in which state it leaves the
host. -/
inductive Acceptance (arena : Arena) (ref : Ref) (kind : Kind)
    (result : Except Fault (Value kind)) (host : Arena) : Prop
  /-- The value that the object stands for is read. -/
  | accepted (object : Object) (value : Value kind) (hobject : arena.value? ref = some object)
      (hvalue : object.valueAs? kind = some value)
      (hmark : ¬(object.ReadsMark kind ∧ arena.error ≠ none))
      (hresult : result = .ok value) (hhost : host = arena)
  /-- The value is taken for a failure, since an exception was pending before. -/
  | doubted (object : Object) (hobject : arena.value? ref = some object)
      (hmark : object.ReadsMark kind) (hpending : arena.error ≠ none)
      (hresult : result = .error (Fault.hostRaised kind.name)) (hhost : host = arena)
  /-- There is no object, or it has the wrong type. -/
  | mistyped (message : String)
      (hobject : ∀ object, arena.value? ref = some object → ¬object.Suits kind)
      (hresult : result = .error (Fault.hostRaised kind.name))
      (hhost : host = arena.raise .typeError message)
  /-- The object is an integer out of range. The host overflows, or the conversion does. -/
  | exceeding (bits : Nat) (value : Int) (fault : Fault) (message : String)
      (hbits : kind.bits? = some bits) (hobject : arena.value? ref = some (.int value))
      (hfits : ¬Word.Fits bits value) (hresult : result = .error fault)
      (hfault : if Word.Fits 64 value then ∃ found, fault = Fault.conversion kind.name found
        else fault = Fault.hostRaised kind.name)
      (hhost : host = arena.raise .overflowError message)

namespace Acceptance

variable {arena host : Arena} {ref : Ref} {kind : Kind} {result : Except Fault (Value kind)}

/-- The four ways exclude each other, so an object that can be read is read. -/
theorem ok_iff (h : Acceptance arena ref kind result host) (value : Value kind) :
    result = .ok value ↔
      ∃ object, arena.value? ref = some object ∧ object.valueAs? kind = some value ∧
        ¬(object.ReadsMark kind ∧ arena.error ≠ none) := by
  constructor
  · rintro rfl
    cases h with
    | accepted object found hobject hvalue hmark hresult =>
      rw [Except.ok.inj hresult]
      exact ⟨object, hobject, hvalue, hmark⟩
    | doubted _ _ _ _ hresult | mistyped _ _ hresult | exceeding _ _ _ _ _ _ _ hresult =>
      cases hresult
  · rintro ⟨object, hobject, hvalue, hmark⟩
    obtain ⟨hsuits, hrange⟩ := Object.suits_of_valueAs? hvalue
    -- there is only one object, and it is none of those that the other three ways speak of
    have hsame {other : Object} (hother : arena.value? ref = some other) : object = other :=
      Option.some.inj (hobject.symm.trans hother)
    cases h with
    | accepted other found hother hfound _ hresult =>
      obtain rfl := hsame hother
      rw [hresult, Option.some.inj (hvalue.symm.trans hfound)]
    | doubted other hother hmark' hpending =>
      obtain rfl := hsame hother
      exact absurd ⟨hmark', hpending⟩ hmark
    | mistyped _ hmistyped => exact absurd hsuits (hmistyped object hobject)
    | exceeding bits found _ _ hbits hfound hexceeds =>
      exact absurd (hrange bits found hbits (hsame hfound)) hexceeds

theorem host_of_ok (h : Acceptance arena ref kind result host) {value : Value kind}
    (hok : result = .ok value) : host = arena := by
  subst hok
  cases h with
  | accepted _ _ _ _ _ _ hhost => exact hhost
  | doubted _ _ _ _ hresult | mistyped _ _ hresult | exceeding _ _ _ _ _ _ _ hresult =>
    cases hresult

end Acceptance

namespace Marshal

variable {kind : Kind} {ref : Ref} {exchange : Exchange Arena}

/-- An integer that is a word but not in the range of the kind is found out by the conversion. -/
theorem conversion_of_exceeds {bits : Nat} {value : Int} (hbits : kind.bits? = some bits)
    (hobject : exchange.host.value? ref = some (.int value)) (hwide : Word.Fits 64 value)
    (hfits : ¬Word.Fits bits value) :
    (∃ found, (outcome (toValue kind ref) exchange).1 =
        .error (Fault.conversion kind.name found)) ∧
      ∃ message, (outcome (toValue kind ref) exchange).2.host =
        exchange.host.raise .overflowError message := by
  have hanswer := (Arena.asInt_of_integer? hobject rfl hwide).2
  rw [← hanswer] at hfits
  cases kind with
  | int8 | int16 | int32 =>
    cases hbits
    exact (outcome_integer_of_not_fits rfl rfl hfits).2.2
  | int64 =>
    cases hbits
    exact absurd (hanswer ▸ hwide) hfits
  | _ => cases hbits

/-- The host raised the exception that its refusal tells. -/
theorem outcome_of_refusal? (hkind : kind ≠ .bool) {exception : Exception}
    (h : exchange.host.refusal? ref kind = some exception) :
    (outcome (toValue kind ref) exchange).1 = .error (Fault.hostRaised kind.name) ∧
      (outcome (toValue kind ref) exchange).2.host =
        exchange.host.raise exception.kind exception.message := by
  rcases reading_toValue hkind ref exchange with hread | ⟨hclear, -⟩
  · cases hread with
    | found hclear | doubted hclear =>
      rw [h] at hclear
      cases hclear
    | raised found hraised hresult hhost =>
      rw [h] at hraised
      cases hraised
      exact ⟨hresult, hhost⟩
  · rw [h] at hclear
    cases hclear

theorem acceptance_of_value (hkind : kind ≠ .bool) {object : Object} {value : Value kind}
    (hobject : exchange.host.value? ref = some object)
    (hvalue : object.valueAs? kind = some value) :
    Acceptance exchange.host ref kind (outcome (toValue kind ref) exchange).1
      (outcome (toValue kind ref) exchange).2.host := by
  obtain ⟨hclear, hanswer, hmarks⟩ := Arena.answers hobject hvalue
  rcases reading_toValue hkind ref exchange with hread | ⟨-, hexceeds, -⟩
  · cases hread with
    | found _ hmark hresult hhost =>
      refine .accepted object value hobject hvalue ?_ (hanswer ▸ hresult) hhost
      exact fun hdoubt => hdoubt.2 (hmark (hmarks.mpr hdoubt.1))
    | doubted _ hmark hpending hresult hhost =>
      exact .doubted object hobject (hmarks.mp hmark) hpending hresult hhost
    | raised exception hraised =>
      rw [hclear] at hraised
      cases hraised
  · exact absurd hexceeds (Arena.not_exceeds_of_valueAs? hobject hvalue)

theorem acceptance_of_exceeds {bits : Nat} {value : Int} (hbits : kind.bits? = some bits)
    (hobject : exchange.host.value? ref = some (.int value)) (hfits : ¬Word.Fits bits value) :
    Acceptance exchange.host ref kind (outcome (toValue kind ref) exchange).1
      (outcome (toValue kind ref) exchange).2.host := by
  have hkind : kind ≠ .bool := by
    rintro rfl
    cases hbits
  by_cases hwide : Word.Fits 64 value
  · obtain ⟨⟨found, hresult⟩, message, hhost⟩ := conversion_of_exceeds hbits hobject hwide hfits
    refine .exceeding bits value _ message hbits hobject hfits hresult ?_ hhost
    rw [if_pos hwide]
    exact ⟨found, rfl⟩
  -- the primitive does not even answer, and says so by the class of its exception
  · obtain ⟨exception, hraised⟩ := Arena.refusal?_of_not_fits hbits hobject hwide
    obtain ⟨hresult, hhost⟩ := outcome_of_refusal? hkind hraised
    rcases Arena.kind_of_refusal? hraised with ⟨hclass, -⟩ | ⟨-, hinside⟩
    · rw [hclass] at hhost
      refine .exceeding bits value _ exception.message hbits hobject hfits hresult ?_ hhost
      rw [if_neg hwide]
    · exact absurd ⟨bits, value, hbits, hobject, hfits⟩ hinside

theorem acceptance_of_mistyped (hkind : kind ≠ .bool)
    (h : ∀ object, exchange.host.value? ref = some object → ¬object.Suits kind) :
    Acceptance exchange.host ref kind (outcome (toValue kind ref) exchange).1
      (outcome (toValue kind ref) exchange).2.host := by
  rcases hrefusal : exchange.host.refusal? ref kind with _ | exception
  · obtain ⟨object, hobject, hsuits⟩ := Arena.suits_of_refusal? hkind hrefusal
    exact absurd hsuits (h object hobject)
  · obtain ⟨hresult, hhost⟩ := outcome_of_refusal? hkind hrefusal
    rcases Arena.kind_of_refusal? hrefusal with ⟨-, bits, value, hbits, hobject, -⟩ | ⟨hclass, -⟩
    -- an integer has the right type for the kinds that it can exceed
    · refine absurd ?_ (h _ hobject)
      rw [Object.suits_of_bits hbits]
      rfl
    · rw [hclass] at hhost
      exact .mistyped exception.message h hresult hhost

/-- Every reading of a number ends in one of the four ways. -/
theorem acceptance_toValue (hkind : kind ≠ .bool) (ref : Ref) (exchange : Exchange Arena) :
    Acceptance exchange.host ref kind (outcome (toValue kind ref) exchange).1
      (outcome (toValue kind ref) exchange).2.host := by
  by_cases hsuits : ∃ object, exchange.host.value? ref = some object ∧ object.Suits kind
  · obtain ⟨object, hobject, hsuits⟩ := hsuits
    rcases hsuits.valueAs? with ⟨value, hvalue⟩ | ⟨bits, value, hbits, rfl, hfits⟩
    · exact acceptance_of_value hkind hobject hvalue
    · exact acceptance_of_exceeds hbits hobject hfits
  · exact acceptance_of_mistyped hkind fun object hobject hsuits' =>
      hsuits ⟨object, hobject, hsuits'⟩

/-- Exactly the objects that stand for a value of a numeric kind are read as that value, except for
one that looks like a failure while an exception is pending. -/
theorem accepts_exactly (hkind : kind ≠ .bool) (ref : Ref) (exchange : Exchange Arena) :
    (∀ value, (outcome (toValue kind ref) exchange).1 = .ok value ↔
      ∃ object, exchange.host.value? ref = some object ∧ object.valueAs? kind = some value ∧
        ¬(object.ReadsMark kind ∧ exchange.host.error ≠ none)) ∧
    -- A value that is read leaves the host alone, with the exception that was pending.
    (∀ value, (outcome (toValue kind ref) exchange).1 = .ok value →
      (outcome (toValue kind ref) exchange).2.host = exchange.host) ∧
    ∀ fault, (outcome (toValue kind ref) exchange).1 = .error fault →
      -- A value that is doubted leaves the host alone as well.
      ((∃ object, exchange.host.value? ref = some object ∧ object.ReadsMark kind) ∧
        exchange.host.error ≠ none ∧ fault = Fault.hostRaised kind.name ∧
        (outcome (toValue kind ref) exchange).2.host = exchange.host) ∨
      -- For an object that is gone or has the wrong type, the host raises an exception.
      ((∀ object, exchange.host.value? ref = some object → ¬object.Suits kind) ∧
        fault = Fault.hostRaised kind.name ∧
        ∃ message, (outcome (toValue kind ref) exchange).2.host =
          exchange.host.raise .typeError message) ∨
      -- An integer out of range overflows. If it is a word, the conversion reports it.
      ∃ bits value, kind.bits? = some bits ∧ exchange.host.value? ref = some (.int value) ∧
        ¬Word.Fits bits value ∧
        (if Word.Fits 64 value then ∃ found, fault = Fault.conversion kind.name found
          else fault = Fault.hostRaised kind.name) ∧
        ∃ message, (outcome (toValue kind ref) exchange).2.host =
          exchange.host.raise .overflowError message := by
  have haccept := acceptance_toValue hkind ref exchange
  refine ⟨haccept.ok_iff, fun value hok => haccept.host_of_ok hok, fun fault hfault => ?_⟩
  cases haccept with
  | accepted _ _ _ _ _ hresult =>
    rw [hresult] at hfault
    cases hfault
  | doubted object hobject hmark hpending hresult hhost =>
    rw [hresult] at hfault
    exact Or.inl ⟨⟨object, hobject, hmark⟩, hpending, (Except.error.inj hfault).symm, hhost⟩
  | mistyped message hmistyped hresult hhost =>
    rw [hresult] at hfault
    exact Or.inr (Or.inl ⟨hmistyped, (Except.error.inj hfault).symm, message, hhost⟩)
  | exceeding bits value found message hbits hobject hfits hresult hfound hhost =>
    rw [hresult] at hfault
    cases hfault
    exact Or.inr (Or.inr ⟨bits, value, hbits, hobject, hfits, hfound, message, hhost⟩)

/-- The integer -1 in an arena where an exception is pending. -/
def doubtful : Exchange Arena where
  host := ((Arena.Operation.newInt (-1)).apply .empty).2.raise .valueError "left behind"
  stats := {}
  settings := ⟨[], none⟩

/-- The integer is not read, whereas the object for true is. -/
theorem accepts_exactly_of_doubtful :
    doubtful.host.value? ⟨3, 0⟩ = some (.int (-1)) ∧
    (∀ value, (outcome (toValue .int8 ⟨3, 0⟩) doubtful).1 ≠ .ok value) ∧
    (outcome (toValue .int8 Arena.trueRef) doubtful).1 = .ok (1 : Int8) := by
  have hkind : Kind.int8 ≠ .bool := by decide
  refine ⟨rfl, fun value hok => ?_, ?_⟩
  · obtain ⟨object, hobject, -, hmark⟩ := ((accepts_exactly hkind ⟨3, 0⟩ doubtful).1 value).mp hok
    cases hobject
    exact hmark ⟨rfl, by decide⟩
  · refine ((accepts_exactly hkind Arena.trueRef doubtful).1 (1 : Int8)).mpr
      ⟨.bool true, rfl, rfl, ?_⟩
    rintro ⟨hmark, -⟩
    cases hmark

end Marshal

end HostBridge
