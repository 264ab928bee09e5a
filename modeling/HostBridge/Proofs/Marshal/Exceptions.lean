import HostBridge.Proofs.Marshal.Conversion

/-!
# How failures become exceptions

The fault of a failed conversion reaches the host in one of three ways: a primitive of the host
raised an exception before the conversion failed, the conversion left an exception about the range
of an integer, or the fault is raised afterwards. An exception that is pending is never replaced.
This module says which exception is pending in the end, for every conversion and every way in which
it fails.

## Main definitions

* `Conversion.raised?`: the exception that the host itself raises during a conversion;
* `Conversion.Overflows`: the conversion reads an integer object that is out of range;
* `Conversion.Announces`: the class of exception that goes with a category of faults;
* `Conversion.Surfaces`: the right exception is pending in the end.

## Main results

* `Conversion.failures_surface`: this holds of every conversion.
-/

namespace HostBridge

/-! ## Raising a fault -/

namespace Fault

variable {fault : Fault} {host : Arena}

/-- An exception that is pending stays. -/
theorem raise_of_pending (h : host.error ≠ none) : fault.raise host = host :=
  if_pos (Option.isSome_iff_ne_none.mpr h)

/-- Otherwise the fault is raised with its own message. -/
theorem error_raise (h : host.error = none) :
    (fault.raise host).error = some ⟨fault.cause.exceptionClass, fault.message⟩ := by
  have hclear : Host.errorOccurred host = false := by
    show host.error.isSome = false
    rw [h]
    rfl
  rw [raise, if_neg (by rw [hclear]; decide)]
  rfl

end Fault

/-! ## What the host raises -/

namespace Arena

variable {arena : Arena} {object : Object}

/-- An object is refused for want of room only. -/
theorem raises_insert (arena : Arena) (object : Object) :
    arena.raises (·.insert object) =
      if arena.isFull then some ⟨.memoryError, "object limit reached"⟩ else none := by
  have hfull : ({ arena with error := none } : Arena).isFull = arena.isFull := rfl
  dsimp only [raises, insert]
  rw [hfull]
  split
  · rfl
  · exact error_place _ object

/-- Taking a reference raises nothing. -/
theorem error_incref (arena : Arena) (ref : Ref) :
    (arena.incref ref).result.error = arena.error := by
  rcases fixed_or_mortal arena ref with hfixed | ⟨slot, hslot, hmortal⟩
  · rw [result_incref_of_fixed hfixed]
  · rw [result_incref_of_mortal hslot hmortal]

end Arena

namespace Conversion

open Marshal (outcome finishes_pure)

/-- The exception that the host itself raises during a conversion. -/
def raised? (regions : Regions) (arena : Arena) : Conversion → Option Exception
  | toValue kind ref => arena.refusal? ref kind
  | ofValue kind value =>
    (Value.object? kind value).bind fun object => arena.raises (·.insert object)
  | ofBuffer buffer =>
    arena.raises (·.newArray [buffer.length] buffer.kind.typeCode buffer.bytes)
  | ofDescriptor array =>
    arena.raises (·.newArray array.shape array.kind.typeCode (array.gather (array.region regions)))
  | _ => none

/-- An integer object is read as a kind whose range it exceeds. -/
def Overflows (arena : Arena) : Conversion → Prop
  | toValue kind ref => arena.Exceeds ref kind
  | _ => False

/-- The class of the exception by which a fault of some category is announced. -/
def Announces (conversion : Conversion) (arena : Arena) (raised : ExceptionClass) :
    Category → Prop
  | .allocation => raised = .memoryError
  | .shape => raised = .valueError
  | .index => raised = .indexError
  | .conversion => raised = .overflowError ∧ conversion.Overflows arena ∨
      raised = .typeError ∧ ¬conversion.Overflows arena

/-- How the outcome of a conversion is seen in an arena that it leaves as `next`. -/
structure Surfaces (conversion : Conversion) (regions : Regions) (arena : Arena)
    (result : Except Fault Converted) (next : Arena) : Prop where
  /-- A fault that is raised afterwards leaves an exception of the right class pending, which is the
  host's own if it raised one. -/
  failed : ∀ fault, result = .error fault → ∃ exception,
    (fault.raise next).error = some exception ∧
      conversion.Announces arena exception.kind fault.category ∧
      ∀ own, conversion.raised? regions arena = some own → exception = own
  /-- Without a fault no exception is pending. -/
  succeeded : ∀ converted, result = .ok converted → next.error = none

variable {conversion : Conversion} {regions : Regions} {arena next : Arena}
  {result : Except Fault Converted}

/-- Where nothing is pending, faults are announced by the class of their cause. -/
theorem announces_exceptionClass (h : ¬conversion.Overflows arena) (cause : Cause) :
    conversion.Announces arena cause.exceptionClass cause.category := by
  cases cause with
  | allocation entity bytes => rfl
  | conversion expected found => exact Or.inr ⟨rfl, h⟩
  | hostRaised expected => exact Or.inr ⟨rfl, h⟩
  | kindMismatch expected found => exact Or.inr ⟨rfl, h⟩
  | index position length => rfl
  | shape expected found => rfl

theorem Surfaces.of_ok {converted : Converted} (hresult : result = .ok converted)
    (hclear : next.error = none) : conversion.Surfaces regions arena result next where
  failed fault hfault := by
    rw [hresult] at hfault
    cases hfault
  succeeded _ _ := hclear

/-- A conversion during which nothing is raised. -/
theorem Surfaces.of_clear (hclear : next.error = none)
    (hraised : conversion.raised? regions arena = none) (hrange : ¬conversion.Overflows arena) :
    conversion.Surfaces regions arena result next where
  failed fault _ := ⟨_, fault.error_raise hclear, announces_exceptionClass hrange fault.cause,
    by simp [hraised]⟩
  succeeded _ _ := hclear

/-- A conversion during which an exception is raised, by the host or on its behalf. -/
theorem Surfaces.of_pending {fault : Fault} {exception : Exception}
    (hresult : result = .error fault) (hpending : next.error = some exception)
    (hclass : conversion.Announces arena exception.kind fault.category)
    (hown : ∀ own, conversion.raised? regions arena = some own → exception = own) :
    conversion.Surfaces regions arena result next where
  failed found hfound := by
    rw [hresult] at hfound
    cases hfound
    refine ⟨exception, ?_, hclass, hown⟩
    rw [Fault.raise_of_pending (by rw [hpending]; exact Option.some_ne_none _), hpending]
  succeeded converted hconverted := by
    rw [hresult] at hconverted
    cases hconverted

/-- Whoever asks no more than what an object is hears of no exception. -/
theorem raised?_of_not_readsNumber (hreads : conversion.Reads) (hnumber : ¬conversion.ReadsNumber)
    (arena : Arena) : conversion.raised? regions arena = none ∧ ¬conversion.Overflows arena := by
  cases conversion with
  | toValue kind ref =>
    obtain rfl : kind = .bool := not_not.mp hnumber
    refine ⟨rfl, ?_⟩
    rintro ⟨bits, -, hbits, -⟩
    cases hbits
  | ofValue kind value => exact hreads.elim
  | ofBuffer buffer => exact hreads.elim
  | ofDescriptor array => exact hreads.elim
  | _ => exact ⟨rfl, id⟩

/-- A conversion that makes an object inserts it. -/
theorem raised?_of_object? (hsuitable : conversion.Suitable) {object : Object}
    (hobject : conversion.object? regions = some object) (arena : Arena) :
    conversion.raised? regions arena = arena.raises (·.insert object) := by
  cases conversion with
  | ofValue kind value =>
    rw [raised?, show Value.object? kind value = _ from hobject, Option.bind_some]
  | ofBuffer buffer =>
    cases hobject
    simp only [raised?, Marshal.newArray_eq_insert hsuitable.sound.size_eq]
    rfl
  | ofDescriptor array =>
    cases hobject
    simp only [raised?, Marshal.newArray_eq_insert (hsuitable.size_eq _)]
    rfl
  | _ => cases hobject

section Conversions

variable [Allocator] {exchange : Exchange Arena}

/-- Reading a number: the host may raise an exception, and so may the test of the range. -/
theorem surfaces_toValue {kind : Kind} (hkind : kind ≠ .bool) (ref : Ref)
    (hclear : exchange.host.error = none) :
    (toValue kind ref).Surfaces regions exchange.host
      (outcome ((toValue kind ref).perform regions) exchange).1
      (outcome ((toValue kind ref).perform regions) exchange).2.host := by
  obtain ⟨hresult, hhost⟩ := (finishes_pure (Converted.value kind)).outcome_bind
    (Marshal.toValue kind ref) exchange
  rw [perform, hresult, hhost]
  rcases Marshal.reading_toValue hkind ref exchange with
    hread | ⟨hrefusal, hexceeds, ⟨found, hfault⟩, message, hnext⟩
  · cases hread with
    | found hrefusal _ hok hnext =>
      rw [hok, hnext]
      exact .of_ok rfl hclear
    | doubted _ _ hpending _ _ => exact absurd hclear hpending
    | raised exception hrefusal hfault hnext =>
      rw [hfault, hnext]
      refine .of_pending rfl rfl (Arena.kind_of_refusal? hrefusal) fun own hown => ?_
      exact Option.some.inj (hrefusal.symm.trans hown)
  · rw [hfault, hnext]
    refine .of_pending rfl rfl (Or.inl ⟨rfl, hexceeds⟩) fun own hown => ?_
    rw [raised?, hrefusal] at hown
    cases hown

/-- Making an object: the host raises an exception if there is no room. -/
theorem surfaces_of_object? (hsuitable : conversion.Suitable) {object : Object}
    (hobject : conversion.object? regions = some object) (hclear : exchange.host.error = none) :
    conversion.Surfaces regions exchange.host (outcome (conversion.perform regions) exchange).1
      (outcome (conversion.perform regions) exchange).2.host := by
  cases hfull : exchange.host.isFull with
  | false =>
    obtain ⟨hplaced, hhost⟩ := perform_placed hsuitable hobject hfull
    rw [hhost]
    exact .of_ok hplaced ((Arena.error_place _ object).trans hclear)
  | true =>
    obtain ⟨⟨fault, hfault, hcategory⟩, hhost⟩ := perform_refused hsuitable hobject hfull
    rw [hhost]
    refine .of_pending hfault rfl (by rw [hcategory]; rfl) fun own hown => ?_
    rw [raised?_of_object? hsuitable hobject, Arena.raises_insert, if_pos hfull] at hown
    exact Option.some.inj hown

/-- Truth values are there already. -/
theorem surfaces_ofBool (value : Bool) (hclear : exchange.host.error = none) :
    (ofValue .bool value).Surfaces regions exchange.host
      (outcome ((ofValue .bool value).perform regions) exchange).1
      (outcome ((ofValue .bool value).perform regions) exchange).2.host := by
  obtain ⟨hresult, hhost⟩ := outcome_perform_bool value
  rw [hhost]
  exact .of_ok hresult ((Arena.error_incref _ _).trans hclear)

/-- Every failure of a conversion is seen as the right exception, and an exception that is pending
is never replaced. -/
theorem failures_surface (regions : Regions) (conversion : Conversion)
    (hsuitable : conversion.Suitable) (exchange : Exchange Arena) :
    (exchange.host.error = none →
      conversion.Surfaces regions exchange.host (outcome (conversion.perform regions) exchange).1
        (outcome (conversion.perform regions) exchange).2.host) ∧
    ∀ (fault : Fault) (host : Arena), host.error ≠ none → fault.raise host = host := by
  refine ⟨fun hclear => ?_, fun fault host => Fault.raise_of_pending⟩
  by_cases hnumber : conversion.ReadsNumber
  · cases conversion with
    | toValue kind ref => exact surfaces_toValue hnumber ref hclear
    | _ => exact hnumber.elim
  by_cases hreads : conversion.Reads
  · obtain ⟨hraised, hrange⟩ := raised?_of_not_readsNumber hreads hnumber exchange.host
    exact .of_clear ((silent_perform hreads hnumber exchange).symm ▸ hclear) hraised hrange
  -- what is left makes an object or refers to one of the truth values
  · cases conversion with
    | ofValue kind value =>
      cases hobject : Value.object? kind value with
      | some object => exact surfaces_of_object? hsuitable hobject hclear
      | none =>
        obtain rfl := Value.eq_bool_of_object? hobject
        exact surfaces_ofBool value hclear
    | ofBuffer buffer => exact surfaces_of_object? hsuitable rfl hclear
    | ofDescriptor array => exact surfaces_of_object? hsuitable rfl hclear
    | _ => exact absurd trivial hreads

end Conversions

/-- An arena with an integer that no word can hold. -/
def vast : Exchange Arena where
  host := ((Arena.Operation.int 1180591620717411303424).apply .empty).2
  stats := {}
  settings := ⟨[], none⟩

theorem failures_surface_of_vast :
    vast.host.error = none ∧ (toValue .int8 ⟨3, 0⟩).Suitable ∧
      (outcome (@perform (Allocator.bounded 64) (fun _ => []) (toValue .int8 ⟨3, 0⟩)) vast).1 =
        .error (Fault.hostRaised "int8") ∧
      ((Fault.hostRaised "int8").raise (outcome (@perform (Allocator.bounded 64) (fun _ => [])
        (toValue .int8 ⟨3, 0⟩)) vast).2.host).error =
          some ⟨.overflowError, "int too large to convert to C long"⟩ := by
  have hresult : (outcome (@perform (Allocator.bounded 64) (fun _ => []) (toValue .int8 ⟨3, 0⟩))
      vast).1 = .error (Fault.hostRaised "int8") := rfl
  obtain ⟨exception, hpending, -, hown⟩ := ((@failures_surface (Allocator.bounded 64) (fun _ => [])
    (toValue .int8 ⟨3, 0⟩) trivial vast).1 rfl).failed _ hresult
  refine ⟨rfl, trivial, hresult, ?_⟩
  rw [hpending, hown ⟨.overflowError, "int too large to convert to C long"⟩ rfl]

end Conversion

end HostBridge
