import HostBridge.Marshal.Scalar
import HostBridge.Proofs.Arena.Creation
import HostBridge.Proofs.Layout.Basic

/-!
# How reading a number ends

A primitive of the host that reads a number fails by the value -1, which it can also answer in good
faith; only a pending exception tells the two apart. So reading a number ends with the number, with
the exception that a primitive raised, with an exception for a number that is out of range or, if an
exception was pending before, with doubt about an honest -1.

## Main definitions

* `Arena.raises`: the exception that a primitive raises;
* `Arena.Marks`: a primitive that fails by a certain value;
* `Reading`: how reading a number by such primitives ends;
* `Arena.refusal?`, `Arena.answer` and `Arena.IsMarked`: the exception, the value and the doubt when
  an object is read as a value of a kind;
* `Arena.Exceeds`: an integer object is out of the range of a kind.

## Main results

* `Marshal.reading_toValue`: how reading a value of a numeric kind ends;
* `Arena.kind_of_refusal?`: the class of the exception that is raised on the way.
-/

namespace HostBridge

theorem Word.Fits.mono {bits bits' : Nat} (hle : bits ≤ bits') {x : Int} (h : Word.Fits bits x) :
    Word.Fits bits' x := by
  obtain ⟨hlow, hhigh⟩ := Word.fits_iff.mp h
  have hpow : (2 : Int) ^ (bits - 1) ≤ 2 ^ (bits' - 1) :=
    pow_le_pow_right₀ (by decide) (by omega)
  exact Word.fits_iff.mpr ⟨by omega, by omega⟩

/-- The number of bits of an integer kind. -/
def Kind.bits? : Kind → Option Nat
  | .int8 => some 8
  | .int16 => some 16
  | .int32 => some 32
  | .int64 => some 64
  | _ => none

theorem Kind.bits?_bounds {kind : Kind} {bits : Nat} (h : kind.bits? = some bits) :
    8 ≤ bits ∧ bits ≤ 64 := by
  cases kind <;> cases h <;> decide

namespace Arena

variable {arena : Arena} {ref : Ref} {kind : Kind} {α : Type}

/-! ## Primitives that read a number -/

/-- The exception that a primitive raises. -/
def raises (arena : Arena) (run : Arena → α × Arena) : Option Exception :=
  (run { arena with error := none }).2.error

/-- A primitive that only reads: it leaves the arena as it is, or it answers `mark` and leaves an
exception of one of the given classes pending. -/
def Marks (mark : α) (classes : List ExceptionClass) (read : Arena → α × Arena) : Prop :=
  ∀ arena, (arena.raises read = none ∧ (read arena).2 = arena) ∨
    ∃ exception, arena.raises read = some exception ∧ exception.kind ∈ classes ∧
      read arena = (mark, { arena with error := some exception })

theorem Marks.of_raises {mark : α} {read : Arena → α × Arena} {classes : List ExceptionClass}
    (hread : Marks mark classes read) {exception : Exception}
    (h : arena.raises read = some exception) :
    exception.kind ∈ classes ∧ (read arena).1 = mark := by
  rcases hread arena with ⟨hclear, -⟩ | ⟨found, hraises, hclass, hanswer⟩
  · rw [hclear] at h
    cases h
  · rw [hraises] at h
    cases h
    exact ⟨hclass, by rw [hanswer]⟩

theorem marks_asInt (ref : Ref) : Marks (-1) [.typeError, .overflowError] (asInt · ref) := by
  intro arena
  have hsame : ({ arena with error := none } : Arena).value? ref = arena.value? ref := rfl
  dsimp only [raises, asInt]
  rw [hsame]
  cases arena.value? ref with
  | none => exact Or.inr ⟨_, rfl, by simp, rfl⟩
  | some object =>
    cases object with
    | int value =>
      by_cases hfits : Word.Fits 64 value
      · exact Or.inl ⟨by simp only [if_pos hfits], by simp only [if_pos hfits]⟩
      · simp only [if_neg hfits]
        exact Or.inr ⟨_, rfl, by simp, rfl⟩
    | bool value => exact Or.inl ⟨rfl, rfl⟩
    | _ => exact Or.inr ⟨_, rfl, by simp, rfl⟩

theorem marks_asFloat (ref : Ref) : Marks Binary64.minusOne [.typeError] (asFloat · ref) := by
  intro arena
  have hsame : ({ arena with error := none } : Arena).value? ref = arena.value? ref := rfl
  dsimp only [raises, asFloat, realValue]
  rw [hsame]
  cases arena.value? ref with
  | none => exact Or.inr ⟨_, rfl, by simp, rfl⟩
  | some object =>
    cases object with
    | float value | int value | bool value => exact Or.inl ⟨rfl, rfl⟩
    | _ => exact Or.inr ⟨_, rfl, by simp, rfl⟩

theorem marks_complexReal (ref : Ref) :
    Marks Binary64.minusOne [.typeError] (complexReal · ref) := by
  intro arena
  have hsame : ({ arena with error := none } : Arena).value? ref = arena.value? ref := rfl
  dsimp only [raises, complexReal, realValue]
  rw [hsame]
  cases arena.value? ref with
  | none => exact Or.inr ⟨_, rfl, by simp, rfl⟩
  | some object =>
    cases object with
    | complex value | float value | int value | bool value => exact Or.inl ⟨rfl, rfl⟩
    | _ => exact Or.inr ⟨_, rfl, by simp, rfl⟩

theorem marks_complexImag (ref : Ref) :
    Marks Binary64.minusOne [.typeError] (complexImag · ref) := by
  intro arena
  have hsame : ({ arena with error := none } : Arena).value? ref = arena.value? ref := rfl
  dsimp only [raises, complexImag]
  rw [hsame]
  cases arena.value? ref with
  | none => exact Or.inr ⟨_, rfl, by simp, rfl⟩
  | some object =>
    cases object with
    | complex value | float value | int value | bool value => exact Or.inl ⟨rfl, rfl⟩
    | _ => exact Or.inr ⟨_, rfl, by simp, rfl⟩

/-- Who can answer for one part of a number can answer for the other. -/
theorem raises_complexImag_of_complexReal (h : arena.raises (complexReal · ref) = none) :
    arena.raises (complexImag · ref) = none := by
  have hsame : ({ arena with error := none } : Arena).value? ref = arena.value? ref := rfl
  dsimp only [raises, complexReal, realValue, complexImag] at h ⊢
  rw [hsame] at h ⊢
  cases hvalue : arena.value? ref with
  | none =>
    rw [hvalue] at h
    cases h
  | some object =>
    rw [hvalue] at h
    cases object with
    | complex value | float value | int value | bool value => rfl
    | _ => cases h

/-- What the primitive for integers raises depends on the object. -/
theorem kind_of_raises_asInt {exception : Exception}
    (h : arena.raises (asInt · ref) = some exception) :
    (exception.kind = .overflowError ∧
      ∃ value, arena.value? ref = some (.int value) ∧ ¬Word.Fits 64 value) ∨
    (exception.kind = .typeError ∧ ∀ value, arena.value? ref ≠ some (.int value)) := by
  have hsame : ({ arena with error := none } : Arena).value? ref = arena.value? ref := rfl
  dsimp only [raises, asInt] at h
  rw [hsame] at h
  cases hvalue : arena.value? ref with
  | none =>
    rw [hvalue] at h
    cases h
    exact Or.inr ⟨rfl, nofun⟩
  | some object =>
    rw [hvalue] at h
    cases object with
    | int value =>
      by_cases hfits : Word.Fits 64 value
      · simp [hfits] at h
      · simp only [if_neg hfits] at h
        cases h
        exact Or.inl ⟨rfl, value, rfl, hfits⟩
    | bool value => cases h
    | _ =>
      cases h
      exact Or.inr ⟨rfl, nofun⟩

/-- An integer that the primitive answers is that of the object. -/
theorem asInt_of_not_fits {bits : Nat} (hbits : 8 ≤ bits)
    (h : ¬Word.Fits bits (arena.asInt ref).1) :
    arena.value? ref = some (.int (arena.asInt ref).1) ∧ Word.Fits 64 (arena.asInt ref).1 := by
  -- a failure is reported by a number that is in every range, and so are both truth values
  have hsmall (x : Int) (hx : Word.Fits 8 x) : Word.Fits bits x := hx.mono hbits
  have hmark := hsmall (-1) (by decide)
  unfold asInt at h ⊢
  cases hvalue : arena.value? ref with
  | none =>
    rw [hvalue] at h
    exact absurd hmark h
  | some object =>
    rw [hvalue] at h
    cases object with
    | int value =>
      by_cases hfits : Word.Fits 64 value
      · simp only [if_pos hfits]
        exact ⟨trivial, hfits⟩
      · simp only [if_neg hfits] at h
        exact absurd hmark h
    | bool value =>
      cases value with
      | true => exact absurd (hsmall 1 (by decide)) h
      | false => exact absurd (hsmall 0 (by decide)) h
    | _ => exact absurd hmark h

/-! ## What is read for a kind -/

/-- The exception that the host raises when an object is read as a value of a kind. -/
def refusal? (arena : Arena) (ref : Ref) : Kind → Option Exception
  | .bool => none
  | .int8 | .int16 | .int32 | .int64 => arena.raises (asInt · ref)
  | .float32 | .float64 => arena.raises (asFloat · ref)
  | .complex64 | .complex128 =>
    (arena.raises (complexReal · ref)).or (arena.raises (complexImag · ref))

/-- What the host answers when an object is read as a value of a kind. -/
def answer (arena : Arena) (ref : Ref) : (kind : Kind) → Value kind
  | .bool => (ref == trueRef : Bool)
  | .int8 => Int8.ofInt (arena.asInt ref).1
  | .int16 => Int16.ofInt (arena.asInt ref).1
  | .int32 => Int32.ofInt (arena.asInt ref).1
  | .int64 => Int64.ofInt (arena.asInt ref).1
  | .float32 => (arena.asFloat ref).1.narrow
  | .float64 => (arena.asFloat ref).1
  | .complex64 =>
    (⟨(arena.complexReal ref).1.narrow, (arena.complexImag ref).1.narrow⟩ : Complex Binary32)
  | .complex128 => (⟨(arena.complexReal ref).1, (arena.complexImag ref).1⟩ : Complex Binary64)

/-- The answer, or a part of it, is the value by which primitives fail. -/
def IsMarked (arena : Arena) (ref : Ref) : Kind → Prop
  | .bool => False
  | .int8 | .int16 | .int32 | .int64 => (arena.asInt ref).1 = -1
  | .float32 | .float64 => (arena.asFloat ref).1 = Binary64.minusOne
  | .complex64 | .complex128 => (arena.complexReal ref).1 = Binary64.minusOne ∨
      (arena.complexImag ref).1 = Binary64.minusOne

/-- An object is an integer out of the range of an integer kind. -/
def Exceeds (arena : Arena) (ref : Ref) (kind : Kind) : Prop :=
  ∃ bits value, kind.bits? = some bits ∧ arena.value? ref = some (.int value) ∧
    ¬Word.Fits bits value

theorem refusal?_of_bits {bits : Nat} (h : kind.bits? = some bits) :
    arena.refusal? ref kind = arena.raises (asInt · ref) := by
  cases kind <;> first | rfl | cases h

theorem isMarked_of_bits {bits : Nat} (h : kind.bits? = some bits) :
    arena.IsMarked ref kind = ((arena.asInt ref).1 = -1) := by
  cases kind <;> first | rfl | cases h

/-- Of the primitives, only the one for integers overflows. -/
theorem kind_of_refusal?_of_bits_eq_none (hbits : kind.bits? = none) {exception : Exception}
    (h : arena.refusal? ref kind = some exception) : exception.kind = .typeError := by
  rw [← List.mem_singleton]
  cases kind with
  | bool => cases h
  | int8 | int16 | int32 | int64 => cases hbits
  | float32 | float64 => exact ((marks_asFloat ref).of_raises h).1
  | complex64 | complex128 =>
    rcases Option.or_eq_some_iff.mp h with hreal | ⟨-, himag⟩
    · exact ((marks_complexReal ref).of_raises hreal).1
    · exact ((marks_complexImag ref).of_raises himag).1

/-- The class of the exception that the host raises: it overflows, or the type is wrong. -/
theorem kind_of_refusal? {exception : Exception} (h : arena.refusal? ref kind = some exception) :
    (exception.kind = .overflowError ∧ arena.Exceeds ref kind) ∨
      (exception.kind = .typeError ∧ ¬arena.Exceeds ref kind) := by
  cases hkind : kind.bits? with
  | some bits =>
    rw [refusal?_of_bits hkind] at h
    rcases kind_of_raises_asInt h with ⟨hclass, value, hvalue, hfits⟩ | ⟨hclass, hvalue⟩
    · have hrange : ¬Word.Fits bits value := fun hsmall =>
        hfits (hsmall.mono (Kind.bits?_bounds hkind).2)
      exact Or.inl ⟨hclass, bits, value, hkind, hvalue, hrange⟩
    · refine Or.inr ⟨hclass, ?_⟩
      rintro ⟨-, value, -, hint, -⟩
      exact hvalue value hint
  | none =>
    refine Or.inr ⟨kind_of_refusal?_of_bits_eq_none hkind h, ?_⟩
    · rintro ⟨bits, -, hbits, -⟩
      rw [hkind] at hbits
      cases hbits

end Arena

/-! ## Readings -/

/-- How reading a number ends, where `answer` is what the host answers if it raises nothing, and
`marked` says whether a failure would look the same. -/
inductive Reading {α : Type} (arena : Arena) (target : String) (refusal? : Option Exception)
    (answer : α) (marked : Prop) (result : Except Fault α) (host : Arena) : Prop
  /-- The answer is taken. -/
  | found (hclear : refusal? = none) (hmark : marked → arena.error = none)
      (hresult : result = .ok answer) (hhost : host = arena)
  /-- The answer is taken for a failure, since an exception was pending before. -/
  | doubted (hclear : refusal? = none) (hmark : marked) (hpending : arena.error ≠ none)
      (hresult : result = .error (Fault.hostRaised target)) (hhost : host = arena)
  /-- The host raised an exception. -/
  | raised (exception : Exception) (hraised : refusal? = some exception)
      (hresult : result = .error (Fault.hostRaised target))
      (hhost : host = { arena with error := some exception })

/-- What is made of the answer afterwards. -/
theorem Reading.map {α β : Type} {arena host : Arena} {target : String}
    {refusal? : Option Exception} {answer : α} {marked : Prop} {result : Except Fault α}
    (f : α → β) (h : Reading arena target refusal? answer marked result host) :
    Reading arena target refusal? (f answer) marked (result.map f) host := by
  cases h with
  | found hclear hmark hresult hhost => exact .found hclear hmark (by rw [hresult]; rfl) hhost
  | doubted hclear hmark hpending hresult hhost =>
    exact .doubted hclear hmark hpending (by rw [hresult]; rfl) hhost
  | raised exception hraised hresult hhost =>
    exact .raised exception hraised (by rw [hresult]; rfl) hhost

namespace Marshal

open Arena (Marks)

variable {α β : Type} {exchange : Exchange Arena} {ref : Ref} {target : String}

/-- Read a number by a primitive that fails by the value `mark`. -/
def readMarked [DecidableEq α] (mark : α) (target : String) (read : Arena → α × Arena) :
    Marshal Arena α := do
  let value ← primitive read
  if value = mark && (← ask Host.errorOccurred) then
    fail target (Fault.hostRaised target)
  return value

theorem readInt_eq (target : String) (ref : Ref) :
    readInt target ref = readMarked (-1) target (Arena.asInt · ref) := rfl

theorem readFloat_eq (target : String) (read : Arena → Binary64 × Arena) :
    readFloat target read = readMarked Binary64.minusOne target read := rfl

theorem doubtful_iff [DecidableEq α] {value mark : α} {arena : Arena} :
    (decide (value = mark) && Host.errorOccurred arena) = true ↔
      value = mark ∧ arena.error ≠ none := by
  rw [Bool.and_eq_true, decide_eq_true_iff, ← Option.isSome_iff_ne_none]
  rfl

theorem reading_readMarked [DecidableEq α] {mark : α} {classes : List ExceptionClass}
    {read : Arena → α × Arena} (hread : Marks mark classes read) (target : String)
    (exchange : Exchange Arena) :
    Reading exchange.host target (exchange.host.raises read) (read exchange.host).1
      ((read exchange.host).1 = mark) (outcome (readMarked mark target read) exchange).1
      (outcome (readMarked mark target read) exchange).2.host := by
  unfold readMarked
  simp only [outcome_bind, outcome_primitive, outcome_ask]
  rcases hread exchange.host with ⟨hclear, hsame⟩ | ⟨exception, hraises, -, hanswer⟩
  · rw [hsame]
    by_cases hdoubt : (read exchange.host).1 = mark ∧ exchange.host.error ≠ none
    · rw [if_pos (doubtful_iff.mpr hdoubt)]
      exact .doubted hclear hdoubt.1 hdoubt.2 rfl rfl
    · rw [if_neg (mt doubtful_iff.mp hdoubt)]
      exact .found hclear (fun hmark => not_not.mp (not_and.mp hdoubt hmark)) rfl rfl
  · rw [hanswer, if_pos (doubtful_iff.mpr ⟨rfl, Option.some_ne_none exception⟩)]
    exact .raised exception hraises rfl rfl

/-- A step that neither touches the host nor fails. -/
def Finishes (next : α → Marshal Arena β) (f : α → β) : Prop :=
  ∀ a exchange, (outcome (next a) exchange).1 = .ok (f a) ∧
    (outcome (next a) exchange).2.host = exchange.host

theorem finishes_pure (f : α → β) : Finishes (fun a => pure (f a)) f := fun _ _ => ⟨rfl, rfl⟩

/-- What remains of a conversion once it has succeeded: it is counted and reported. -/
theorem finishes_counted (source target : String) (f : α → β) :
    Finishes (fun a => do
      countConversion
      emit (.converted source target)
      return f a) f :=
  fun _ _ => ⟨rfl, rfl⟩

theorem Finishes.outcome_bind {next : α → Marshal Arena β} {f : α → β} (h : Finishes next f)
    (x : Marshal Arena α) (exchange : Exchange Arena) :
    (outcome (x >>= next) exchange).1 = (outcome x exchange).1.map f ∧
      (outcome (x >>= next) exchange).2.host = (outcome x exchange).2.host := by
  rw [Marshal.outcome_bind]
  rcases outcome x exchange with ⟨fault | a, after⟩
  · exact ⟨rfl, rfl⟩
  · exact h a after

theorem Finishes.reading {next : α → Marshal Arena β} {f : α → β} (hnext : Finishes next f)
    {x : Marshal Arena α} {refusal? : Option Exception} {answer : α} {marked : Prop}
    (h : Reading exchange.host target refusal? answer marked (outcome x exchange).1
      (outcome x exchange).2.host) :
    Reading exchange.host target refusal? (f answer) marked (outcome (x >>= next) exchange).1
      (outcome (x >>= next) exchange).2.host := by
  rw [(hnext.outcome_bind x exchange).1, (hnext.outcome_bind x exchange).2]
  exact h.map f

/-- Both parts of a complex number are read, the second one only after the first. -/
theorem reading_readComplex (target : String) (ref : Ref) (exchange : Exchange Arena) :
    Reading exchange.host target
      ((exchange.host.raises (Arena.complexReal · ref)).or
        (exchange.host.raises (Arena.complexImag · ref)))
      (⟨(exchange.host.complexReal ref).1, (exchange.host.complexImag ref).1⟩ : Complex Binary64)
      ((exchange.host.complexReal ref).1 = Binary64.minusOne ∨
        (exchange.host.complexImag ref).1 = Binary64.minusOne)
      (outcome (readComplex target ref) exchange).1
      (outcome (readComplex target ref) exchange).2.host := by
  have hreal := reading_readMarked (Arena.marks_complexReal ref) target exchange
  unfold readComplex
  rw [readFloat_eq, outcome_bind]
  rcases hrun : outcome (readMarked Binary64.minusOne target (Host.complexReal · ref)) exchange with
    ⟨result, after⟩
  rw [show (outcome (readMarked _ target (Arena.complexReal · ref)) exchange) = _ from hrun]
    at hreal
  cases hreal with
  | found hclear hmark hresult hhost =>
    -- the first part is there and the arena unchanged, so the second part decides
    cases hresult
    have himag := (finishes_counted "complex" target fun im =>
      (⟨(exchange.host.complexReal ref).1, im⟩ : Complex Binary64)).reading
        (reading_readMarked (Arena.marks_complexImag ref) target after)
    rw [hhost] at himag
    rw [hclear, Option.none_or]
    cases himag with
    | found hclear' hmark' hresult' hhost' =>
      exact .found hclear' (fun hmarked => hmarked.elim hmark hmark') hresult' hhost'
    | doubted hclear' hmark' hpending hresult' hhost' =>
      exact .doubted hclear' (Or.inr hmark') hpending hresult' hhost'
    | raised exception hraised hresult' hhost' =>
      exact .raised exception hraised hresult' hhost'
  | doubted hclear hmark hpending hresult hhost =>
    have himag := Arena.raises_complexImag_of_complexReal hclear
    cases hresult
    exact .doubted (by rw [hclear, himag]; rfl) (Or.inl hmark) hpending rfl hhost
  | raised exception hraised hresult hhost =>
    cases hresult
    exact .raised exception (by rw [hraised]; rfl) rfl hhost

/-- An integer that is in range is found, unless there is doubt. -/
theorem reading_narrow_of_fits {bits : Nat} (target : String)
    (hfits : Word.Fits bits (exchange.host.asInt ref).1) :
    Reading exchange.host target (exchange.host.raises (Arena.asInt · ref))
      (exchange.host.asInt ref).1 ((exchange.host.asInt ref).1 = -1)
      (outcome (narrow target bits ref) exchange).1
      (outcome (narrow target bits ref) exchange).2.host := by
  have hread := reading_readMarked (Arena.marks_asInt ref) target exchange
  unfold narrow
  rw [readInt_eq, outcome_bind]
  rcases hrun : outcome (readMarked (-1) target (Arena.asInt · ref)) exchange with ⟨result, after⟩
  rw [hrun] at hread
  cases hread with
  | found hclear hmark hresult hhost =>
    cases hresult
    simp only [if_pos hfits]
    exact .found hclear hmark rfl hhost
  | doubted hclear hmark hpending hresult hhost =>
    cases hresult
    exact .doubted hclear hmark hpending rfl hhost
  | raised exception hraised hresult hhost =>
    cases hresult
    exact .raised exception hraised rfl hhost

/-- An integer that is out of range leaves an exception pending. -/
theorem outcome_narrow_of_not_fits {bits : Nat} (target : String) (hbits : 8 ≤ bits)
    (hfits : ¬Word.Fits bits (exchange.host.asInt ref).1) :
    exchange.host.raises (Arena.asInt · ref) = none ∧
      (∃ found, (outcome (narrow target bits ref) exchange).1 =
        .error (Fault.conversion target found)) ∧
      ∃ message, (outcome (narrow target bits ref) exchange).2.host =
        exchange.host.raise .overflowError message := by
  have hmark : (exchange.host.asInt ref).1 ≠ -1 := by
    intro heq
    rw [heq] at hfits
    exact hfits (Word.Fits.mono hbits (by decide))
  have hread := reading_readMarked (Arena.marks_asInt ref) target exchange
  unfold narrow
  rw [readInt_eq, outcome_bind]
  rcases hrun : outcome (readMarked (-1) target (Arena.asInt · ref)) exchange with ⟨result, after⟩
  rw [hrun] at hread
  cases hread with
  | found hclear _ hresult hhost =>
    cases hresult
    simp only [if_neg hfits]
    exact ⟨hclear, ⟨_, rfl⟩, _, by rw [← hhost]; rfl⟩
  | doubted hclear hmark' hpending hresult hhost => exact absurd hmark' hmark
  | raised exception hraised hresult hhost =>
    exact absurd ((Arena.marks_asInt ref).of_raises hraised).2 hmark

/-- An integer out of the range of an integer kind is refused, given that reading the kind narrows
an integer of the host. -/
theorem outcome_integer_of_not_fits {kind : Kind} {bits : Nat} {make : Int → Value kind}
    (hbits : kind.bits? = some bits)
    (hrun : (toValue kind ref : Marshal Arena _) =
      narrow kind.name bits ref >>= fun value => pure (make value))
    (hfits : ¬Word.Fits bits (exchange.host.asInt ref).1) :
    exchange.host.refusal? ref kind = none ∧ exchange.host.Exceeds ref kind ∧
      (∃ found, (outcome (toValue kind ref) exchange).1 =
        .error (Fault.conversion kind.name found)) ∧
      ∃ message, (outcome (toValue kind ref) exchange).2.host =
        exchange.host.raise .overflowError message := by
  have hwide := (Kind.bits?_bounds hbits).1
  obtain ⟨hclear, ⟨found, hresult⟩, hhost⟩ := outcome_narrow_of_not_fits kind.name hwide hfits
  obtain ⟨hmade, hsame⟩ := (finishes_pure make).outcome_bind (narrow kind.name bits ref) exchange
  rw [Arena.refusal?_of_bits hbits, hrun, hmade, hsame, hresult]
  exact ⟨hclear, ⟨bits, _, hbits, (Arena.asInt_of_not_fits hwide hfits).1, hfits⟩, ⟨found, rfl⟩,
    hhost⟩

/-- How reading an integer kind ends, given that it narrows an integer of the host. -/
theorem reading_integer {kind : Kind} {bits : Nat} {make : Int → Value kind}
    (hbits : kind.bits? = some bits)
    (hanswer : exchange.host.answer ref kind = make (exchange.host.asInt ref).1)
    (hrun : (toValue kind ref : Marshal Arena _) =
      narrow kind.name bits ref >>= fun value => pure (make value)) :
    Reading exchange.host kind.name (exchange.host.refusal? ref kind)
        (exchange.host.answer ref kind) (exchange.host.IsMarked ref kind)
        (outcome (toValue kind ref) exchange).1 (outcome (toValue kind ref) exchange).2.host ∨
      exchange.host.refusal? ref kind = none ∧ exchange.host.Exceeds ref kind ∧
        (∃ found, (outcome (toValue kind ref) exchange).1 =
          .error (Fault.conversion kind.name found)) ∧
        ∃ message, (outcome (toValue kind ref) exchange).2.host =
          exchange.host.raise .overflowError message := by
  by_cases hfits : Word.Fits bits (exchange.host.asInt ref).1
  · rw [Arena.refusal?_of_bits hbits, Arena.isMarked_of_bits hbits, hanswer, hrun]
    exact Or.inl ((finishes_pure make).reading (reading_narrow_of_fits kind.name hfits))
  · exact Or.inr (outcome_integer_of_not_fits hbits hrun hfits)

/-- How reading a value of a numeric kind ends. -/
theorem reading_toValue {kind : Kind} (hkind : kind ≠ .bool) (ref : Ref)
    (exchange : Exchange Arena) :
    Reading exchange.host kind.name (exchange.host.refusal? ref kind)
        (exchange.host.answer ref kind) (exchange.host.IsMarked ref kind)
        (outcome (toValue kind ref) exchange).1 (outcome (toValue kind ref) exchange).2.host ∨
      exchange.host.refusal? ref kind = none ∧ exchange.host.Exceeds ref kind ∧
        (∃ found, (outcome (toValue kind ref) exchange).1 =
          .error (Fault.conversion kind.name found)) ∧
        ∃ message, (outcome (toValue kind ref) exchange).2.host =
          exchange.host.raise .overflowError message := by
  cases kind with
  | bool => exact absurd rfl hkind
  | int8 | int16 | int32 => exact reading_integer rfl rfl rfl
  -- integers of 64 bits are all that the host answers
  | int64 =>
    exact Or.inl ((finishes_counted "int" "int64" Int64.ofInt).reading
      (reading_readMarked (Arena.marks_asInt ref) "int64" exchange))
  | float32 =>
    exact Or.inl ((finishes_counted "float" "float32" Binary64.narrow).reading
      (reading_readMarked (Arena.marks_asFloat ref) "float32" exchange))
  | float64 =>
    exact Or.inl ((finishes_counted "float" "float64" id).reading
      (reading_readMarked (Arena.marks_asFloat ref) "float64" exchange))
  | complex64 =>
    have hread := (finishes_pure fun value : Complex Binary64 =>
      (⟨value.re.narrow, value.im.narrow⟩ : Complex Binary32)).reading
        (reading_readComplex "complex64" ref exchange)
    exact Or.inl hread
  | complex128 => exact Or.inl (reading_readComplex "complex128" ref exchange)

end Marshal

end HostBridge
