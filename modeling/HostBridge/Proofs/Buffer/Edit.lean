import HostBridge.Buffer
import Mathlib.Logic.Basic

/-!
# What an edit leaves behind

An edit works on a buffer in place, one step after another, and a step may end in a fault when
others have been taken already. This module shows that the edits behind the operations of a buffer
are atomic: one that ends in a fault leaves the buffer exactly as it was. Each of them looks at the
buffer and checks what it is given before it changes anything, and from the first change on no step
fails.

## Main definitions

* `Looks`: an edit that leaves the buffer alone;
* `Succeeds`: an edit that does not end in a fault;
* `Atomic`: an edit that leaves the buffer alone if it ends in a fault.

## Main results

* `on_bind_of_ok` and `on_bind_of_error`: what two edits in a row yield and leave behind;
* `Looks.atomic_bind` and `Atomic.bind`: an atomic edit may come after one that looks, and before
  one that succeeds;
* `atomic_extend`, `atomic_insert` and others: the operations are atomic;
* `reserve_eq`, `extend_eq` and others: the operations as attempts, in terms of each other.
-/

namespace HostBridge

theorem Attempt.ext {α : Type} {x y : Attempt α} (hresult : x.run.result = y.run.result)
    (hevents : x.run.events = y.run.events) : x = y := by
  obtain ⟨result, events⟩ := x
  obtain ⟨result', events'⟩ := y
  cases hresult
  cases hevents
  rfl

namespace Buffer

namespace Edit

variable {α β : Type} {buffer : Buffer} {a : α} {fault : Fault}

/-! ## Edits in a row -/

/-- After an edit that does not end in a fault the next one works on what it has left. -/
theorem on_bind_of_ok {edit : Edit α} (h : (edit.on buffer).result.1 = .ok a)
    (next : α → Edit β) :
    (edit >>= next).on buffer = ⟨((next a).on (edit.left buffer)).result,
      (edit.on buffer).events ++ ((next a).on (edit.left buffer)).events⟩ := by
  have hrest : (ExceptT.bindCont next (edit.on buffer).result.1 :
      StateT Buffer Traced (Except Fault β)) (edit.left buffer) =
        (next a).on (edit.left buffer) := by
    rw [h]
    rfl
  rw [← hrest]
  rfl

/-- After a fault nothing more is done. -/
theorem on_bind_of_error {edit : Edit α} (h : (edit.on buffer).result.1 = .error fault)
    (next : α → Edit β) :
    (edit >>= next).on buffer = ⟨(.error fault, edit.left buffer), (edit.on buffer).events⟩ := by
  have hrest : (ExceptT.bindCont next (edit.on buffer).result.1 :
      StateT Buffer Traced (Except Fault β)) (edit.left buffer) =
        ⟨(.error fault, edit.left buffer), []⟩ := by
    rw [h]
    rfl
  rw [← List.append_nil (edit.on buffer).events]
  exact congrArg (fun rest : Traced (Except Fault β × Buffer) =>
    Traced.mk rest.result ((edit.on buffer).events ++ rest.events)) hrest

theorem on_attempt (run : Attempt α) (buffer : Buffer) :
    (attempt run).on buffer = ⟨(run.run.result, buffer), run.run.events⟩ := by
  rw [← List.append_nil run.run.events]
  rfl

theorem on_attempt_bind_of_ok {run : Attempt α} (h : run.run.result = .ok a) (next : α → Edit β)
    (buffer : Buffer) :
    (attempt run >>= next).on buffer =
      ⟨((next a).on buffer).result, run.run.events ++ ((next a).on buffer).events⟩ := by
  have hon := on_attempt run buffer
  have hdone : ((attempt run).on buffer).result.1 = .ok a := by rw [hon, h]
  have hleft : (attempt run).left buffer = buffer := by rw [left, hon]
  rw [on_bind_of_ok hdone, hleft, hon]

theorem on_attempt_bind_of_error {run : Attempt α} (h : run.run.result = .error fault)
    (next : α → Edit β) (buffer : Buffer) :
    (attempt run >>= next).on buffer = ⟨(.error fault, buffer), run.run.events⟩ := by
  have hon := on_attempt run buffer
  have hdone : ((attempt run).on buffer).result.1 = .error fault := by rw [hon, h]
  have hleft : (attempt run).left buffer = buffer := by rw [left, hon]
  rw [on_bind_of_error hdone, hleft, hon]

/-- A check that passes leaves no trace. -/
theorem on_check_bind_of_ok {check : Except Fault α} (h : check = .ok a) (next : α → Edit β)
    (buffer : Buffer) :
    (attempt (liftExcept check) >>= next).on buffer = (next a).on buffer := by
  have hpass : (liftExcept check : Attempt α).run.result = .ok a := by
    rw [Attempt.result_liftExcept, h]
  rw [on_attempt_bind_of_ok hpass, Attempt.events_liftExcept]
  rfl

theorem on_check_bind_of_error {check : Except Fault α} (h : check = .error fault)
    (next : α → Edit β) (buffer : Buffer) :
    (attempt (liftExcept check) >>= next).on buffer = ⟨(.error fault, buffer), []⟩ := by
  have hfail : (liftExcept check : Attempt α).run.result = .error fault := by
    rw [Attempt.result_liftExcept, h]
  rw [on_attempt_bind_of_error hfail, Attempt.events_liftExcept]

/-! ## Edits as attempts -/

theorem result_made (edit : Edit Unit) (buffer : Buffer) :
    (edit.made buffer).run.result = (edit.on buffer).result.1.map fun _ => edit.left buffer := rfl

theorem events_made (edit : Edit Unit) (buffer : Buffer) :
    (edit.made buffer).run.events = (edit.on buffer).events := rfl

/-- A buffer that an edit makes is the one that it leaves behind. -/
theorem left_of_made {edit : Edit Unit} {next : Buffer}
    (h : (edit.made buffer).run.result = .ok next) : edit.left buffer = next := by
  obtain ⟨_, -, hnext⟩ := Fault.map_eq_ok h
  exact hnext

theorem made_get_bind (next : Buffer → Edit Unit) (buffer : Buffer) :
    ((MonadState.get : Edit Buffer) >>= next).made buffer = (next buffer).made buffer := rfl

theorem made_ite {condition : Prop} [Decidable condition] (yes no : Edit Unit) (buffer : Buffer) :
    (if condition then yes else no).made buffer =
      if condition then yes.made buffer else no.made buffer := by
  split <;> rfl

/-- Steps that do not touch the buffer are steps of the attempt. -/
theorem made_attempt_bind (run : Attempt α) (next : α → Edit Unit) (buffer : Buffer) :
    (attempt run >>= next).made buffer = run >>= fun a => (next a).made buffer := by
  cases houtcome : run.run.result with
  | error fault =>
    have hall := on_attempt_bind_of_error houtcome next buffer
    refine Attempt.ext ?_ ?_
    · rw [result_made, hall, Attempt.result_bind, houtcome]
      rfl
    · rw [events_made, hall, Attempt.events_bind, houtcome, List.append_nil]
  | ok a =>
    have hall := on_attempt_bind_of_ok houtcome next buffer
    refine Attempt.ext ?_ ?_
    · rw [result_made, left, hall, Attempt.result_bind, houtcome]
      rfl
    · rw [events_made, hall, Attempt.events_bind, houtcome]
      rfl

/-- An attempt goes on with the buffer that its first step makes. -/
theorem made_bind (edit : Edit Unit) (next : Unit → Edit Unit) (buffer : Buffer) :
    (edit >>= next).made buffer = edit.made buffer >>= fun made => (next ()).made made := by
  cases houtcome : (edit.on buffer).result.1 with
  | error fault =>
    have hall := on_bind_of_error houtcome next
    refine Attempt.ext ?_ ?_
    · rw [result_made, hall, Attempt.result_bind, result_made, houtcome]
      rfl
    · rw [events_made, hall, Attempt.events_bind, result_made, houtcome, events_made]
      exact (List.append_nil _).symm
  | ok u =>
    have hall := on_bind_of_ok houtcome next
    refine Attempt.ext ?_ ?_
    · rw [result_made, left, hall, Attempt.result_bind, result_made, houtcome]
      rfl
    · rw [events_made, hall, Attempt.events_bind, result_made, houtcome, events_made]
      rfl

/-- The result of an edit may be ignored. -/
theorem made_ignore (edit : Edit α) (buffer : Buffer) :
    (edit >>= fun _ => pure ()).made buffer =
      ExceptT.mk ⟨(edit.apply buffer).run.result.map Prod.snd, (edit.on buffer).events⟩ := by
  cases houtcome : (edit.on buffer).result.1 with
  | error fault =>
    have hall := on_bind_of_error houtcome fun _ => (pure () : Edit Unit)
    refine Attempt.ext ?_ ?_
    · rw [result_made, hall]
      show _ = ((edit.on buffer).result.1.map _).map _
      rw [houtcome]
      rfl
    · rw [events_made, hall]
      rfl
  | ok a =>
    have hall := on_bind_of_ok houtcome fun _ => (pure () : Edit Unit)
    refine Attempt.ext ?_ ?_
    · rw [result_made, left, hall]
      show _ = ((edit.on buffer).result.1.map _).map _
      rw [houtcome]
      rfl
    · rw [events_made, hall]
      exact List.append_nil _

/-! ## Atomic edits -/

/-- An edit that leaves the buffer as it is, whatever its outcome. -/
def Looks (edit : Edit α) : Prop := ∀ buffer, edit.left buffer = buffer

/-- An edit that does not end in a fault. -/
def Succeeds (edit : Edit α) : Prop := ∀ buffer, ∃ a, (edit.on buffer).result.1 = .ok a

/-- An edit that leaves the buffer as it is if it ends in a fault. -/
def Atomic (edit : Edit α) : Prop :=
  ∀ buffer fault, (edit.on buffer).result.1 = .error fault → edit.left buffer = buffer

theorem looks_get : Looks (MonadState.get : Edit Buffer) := fun _ => rfl

theorem looks_attempt (run : Attempt α) : Looks (attempt run) := by
  intro buffer
  rw [left, on_attempt]

theorem Looks.atomic {edit : Edit α} (h : Looks edit) : Atomic edit := fun buffer _ _ => h buffer

theorem looks_throw (fault : Fault) : Looks (throw fault : Edit α) := fun _ => rfl

theorem succeeds_pure (a : α) : Succeeds (pure a : Edit α) := fun _ => ⟨a, rfl⟩

theorem succeeds_get : Succeeds (MonadState.get : Edit Buffer) := fun buffer => ⟨buffer, rfl⟩

theorem succeeds_set (next : Buffer) : Succeeds (set next : Edit Unit) := fun _ => ⟨_, rfl⟩

theorem succeeds_modify (change : Buffer → Buffer) : Succeeds (modify change : Edit Unit) :=
  fun _ => ⟨_, rfl⟩

theorem Succeeds.atomic {edit : Edit α} (h : Succeeds edit) : Atomic edit := by
  intro buffer fault hfault
  obtain ⟨a, ha⟩ := h buffer
  rw [ha] at hfault
  cases hfault

theorem Succeeds.bind {edit : Edit α} {next : α → Edit β} (h : Succeeds edit)
    (hnext : ∀ a, Succeeds (next a)) : Succeeds (edit >>= next) := by
  intro buffer
  obtain ⟨a, ha⟩ := h buffer
  rw [on_bind_of_ok ha]
  exact hnext a (edit.left buffer)

/-- An edit that looks first has left everything in place when the next one ends in a fault. -/
theorem Looks.atomic_bind {edit : Edit α} {next : α → Edit β} (h : Looks edit)
    (hnext : ∀ a, Atomic (next a)) : Atomic (edit >>= next) := by
  intro buffer fault hfault
  cases houtcome : (edit.on buffer).result.1 with
  | error first =>
    rw [left, on_bind_of_error houtcome]
    exact h buffer
  | ok a =>
    rw [on_bind_of_ok houtcome, h buffer] at hfault
    rw [left, on_bind_of_ok houtcome, h buffer]
    exact hnext a buffer fault hfault

/-- After an atomic edit no more faults may follow. -/
theorem Atomic.bind {edit : Edit α} {next : α → Edit β} (h : Atomic edit)
    (hnext : ∀ a, Succeeds (next a)) : Atomic (edit >>= next) := by
  intro buffer fault hfault
  cases houtcome : (edit.on buffer).result.1 with
  | error first =>
    rw [left, on_bind_of_error houtcome]
    exact h buffer first houtcome
  | ok a =>
    obtain ⟨b, hb⟩ := hnext a (edit.left buffer)
    rw [on_bind_of_ok houtcome, hb] at hfault
    cases hfault

theorem atomic_ite {condition : Prop} [Decidable condition] {yes no : Edit α} (hyes : Atomic yes)
    (hno : Atomic no) : Atomic (if condition then yes else no) := by
  split
  · exact hyes
  · exact hno

/-- An edit as an attempt that fails has left the buffer as it was. -/
theorem Atomic.left_of_made {edit : Edit Unit} (h : Atomic edit)
    (hmade : (edit.made buffer).run.result = .error fault) : edit.left buffer = buffer :=
  h buffer fault (Fault.map_eq_error hmade)

/-- A block that cannot be had is found out before the old one is let go of. -/
theorem atomic_reserve [Allocator] (needed : Nat) : Atomic (reserve needed) := by
  refine looks_get.atomic_bind fun buffer => atomic_ite (succeeds_pure ()).atomic ?_
  refine (looks_attempt _).atomic_bind fun fresh => ?_
  refine (looks_attempt _).atomic_bind fun _ => (looks_attempt _).atomic_bind fun _ => ?_
  exact (succeeds_set _).atomic

/-- The bytes are written and counted only when there is room for them. -/
theorem atomic_extend [Allocator] (bytes : Bytes) : Atomic (extend bytes) := by
  refine looks_get.atomic_bind fun buffer => (looks_attempt _).atomic_bind fun _ => ?_
  exact (atomic_reserve _).bind fun _ => (succeeds_modify _).bind fun _ => succeeds_modify _

theorem atomic_append [Allocator] (other : Buffer) : Atomic (append other) :=
  looks_get.atomic_bind fun _ => atomic_ite (looks_throw _).atomic (atomic_extend _)

theorem atomic_push [Allocator] (kind : Kind) (value : Value kind) : Atomic (push kind value) :=
  looks_get.atomic_bind fun _ => atomic_ite (looks_throw _).atomic (atomic_extend _)

/-- Elements are moved only when there is room for one more. -/
theorem atomic_insert [Allocator] (index : Nat) (element : Bytes) :
    Atomic (insert index element) := by
  refine looks_get.atomic_bind fun buffer => (looks_attempt _).atomic_bind fun _ => ?_
  refine atomic_ite (looks_throw _).atomic ((atomic_reserve _).bind fun _ => ?_)
  refine succeeds_get.bind fun roomy => (succeeds_modify _).bind fun _ => ?_
  exact (succeeds_modify _).bind fun _ => succeeds_modify _

theorem atomic_removeAt (index : Nat) : Atomic (removeAt index) := by
  refine looks_get.atomic_bind fun buffer => atomic_ite (looks_throw _).atomic ?_
  refine Succeeds.atomic ((succeeds_modify _).bind fun _ => ?_)
  exact (succeeds_modify _).bind fun _ => succeeds_modify _

theorem atomic_removeValue (element : Bytes) : Atomic (removeValue element) := by
  refine looks_get.atomic_bind fun buffer => (looks_attempt _).atomic_bind fun found => ?_
  cases found with
  | none => exact (succeeds_pure false).atomic
  | some index => exact (atomic_removeAt index).bind fun _ => succeeds_pure true

theorem atomic_reverse : Atomic reverse := (succeeds_modify _).atomic

theorem atomic_clear : Atomic clear := (succeeds_modify _).atomic

/-- A copy that cannot be made is not appended, and one that cannot be appended is given back. -/
theorem atomic_appendCopy [Allocator] : Atomic appendCopy :=
  looks_get.atomic_bind fun _ => (looks_attempt _).atomic_bind fun copy => atomic_append copy

end Edit

/-! ## The operations as attempts -/

section Equations

variable [Allocator] (buffer : Buffer)

theorem reserve_eq (needed : Nat) :
    buffer.reserve needed = do
      if needed < buffer.capacity then return buffer
      let fresh ← withCapacity buffer.kind (grownCapacity buffer.capacity needed)
      Attempt.emit (.bufferGrown buffer.kind buffer.capacity fresh.capacity)
      Attempt.emit (.released entity buffer.blockSize)
      return { fresh with
        length := buffer.length
        block := fresh.block.overwrite 0 buffer.bytes } := by
  rw [reserve, Edit.reserve, Edit.made_get_bind, Edit.made_ite]
  simp only [Edit.made_attempt_bind]
  rfl

theorem extend_eq (bytes : Bytes) :
    buffer.extend bytes = do
      liftExcept (checkWhole buffer.kind bytes)
      let total := buffer.length + bytes.length / buffer.kind.width
      let roomy ← buffer.reserve total
      return {
        roomy with
        length := total
        block := roomy.block.overwrite (buffer.length * buffer.kind.width) bytes } := by
  rw [extend, Edit.extend, Edit.made_get_bind, Edit.made_attempt_bind]
  simp only [Edit.made_bind]
  rfl

theorem append_eq (other : Buffer) :
    buffer.append other =
      if other.kind ≠ buffer.kind then throw (Fault.kindMismatch buffer.kind other.kind)
      else buffer.extend other.bytes := by
  rw [append, Edit.append, Edit.made_get_bind, Edit.made_ite]
  rfl

theorem push_eq (kind : Kind) (value : Value kind) :
    buffer.push kind value =
      if kind ≠ buffer.kind then throw (Fault.kindMismatch buffer.kind kind)
      else buffer.extend (Value.encode kind value) := by
  rw [push, Edit.push, Edit.made_get_bind, Edit.made_ite]
  rfl

theorem insert_eq (index : Nat) (element : Bytes) :
    buffer.insert index element = do
      liftExcept (buffer.checkElement element)
      if buffer.length < index then throw (Fault.index index buffer.length)
      else
        let roomy ← buffer.reserve (buffer.length + 1)
        let width := buffer.kind.width
        let tail := roomy.block.slice (index * width) ((buffer.length - index) * width)
        return {
          roomy with
          length := buffer.length + 1
          block := (roomy.block.overwrite ((index + 1) * width) tail).overwrite (index * width)
            element } := by
  rw [insert, Edit.insert, Edit.made_get_bind, Edit.made_attempt_bind]
  congr 1
  funext _
  rw [Edit.made_ite]
  split
  · rfl
  · simp only [Edit.made_bind]
    rfl

theorem appendCopy_eq :
    buffer.appendCopy = buffer.copy >>= fun copy =>
      ExceptT.mk (do
        let outcome ← (buffer.append copy).run
        copy.release
        return outcome) := by
  rw [appendCopy, Edit.appendCopy, Edit.made_get_bind, Edit.made_attempt_bind]
  rfl

end Equations

theorem removeAt_eq (buffer : Buffer) (index : Nat) :
    buffer.removeAt index =
      if buffer.length ≤ index then .error (Fault.index index buffer.length)
      else
        let width := buffer.kind.width
        let last := buffer.length - 1
        let tail := buffer.block.slice ((index + 1) * width) ((last - index) * width)
        .ok { buffer with
          length := last
          block := (buffer.block.overwrite (index * width) tail).overwrite (last * width)
            (Bytes.zeros width) } := by
  rw [removeAt, Edit.removeAt, Edit.made_get_bind, Edit.made_ite]
  split <;> rfl

/-- Removing an element takes and releases no block, so it is a check and no more. -/
theorem made_removeAt (buffer : Buffer) (index : Nat) :
    (Edit.removeAt index).made buffer = liftExcept (buffer.removeAt index) := by
  refine Attempt.ext (by rw [Attempt.result_liftExcept]; rfl) ?_
  rw [Attempt.events_liftExcept, Edit.removeAt, Edit.made_get_bind, Edit.made_ite]
  split <;> rfl

section Removal

variable {buffer : Buffer} {element : Bytes} {index : Nat} {fault : Fault}

/-- Removing by value looks for the element first. -/
theorem on_removeValue_of_error (h : buffer.findFirst element = .error fault) :
    (Edit.removeValue element).on buffer = ⟨(.error fault, buffer), []⟩ :=
  Edit.on_check_bind_of_error h _ buffer

theorem on_removeValue_of_absent (h : buffer.findFirst element = .ok none) :
    (Edit.removeValue element).on buffer = ⟨(.ok false, buffer), []⟩ :=
  Edit.on_check_bind_of_ok h _ buffer

theorem on_removeValue_of_found (h : buffer.findFirst element = .ok (some index)) :
    (Edit.removeValue element).on buffer =
      (Edit.removeAt index >>= fun _ => pure true).on buffer :=
  Edit.on_check_bind_of_ok h _ buffer

theorem removeValue_of_error (h : buffer.findFirst element = .error fault) :
    buffer.removeValue element = .error fault :=
  congrArg (fun done : Traced (Except Fault Bool × Buffer) => done.result.1.map (·, done.result.2))
    (on_removeValue_of_error h)

theorem removeValue_of_absent (h : buffer.findFirst element = .ok none) :
    buffer.removeValue element = .ok (false, buffer) :=
  congrArg (fun done : Traced (Except Fault Bool × Buffer) => done.result.1.map (·, done.result.2))
    (on_removeValue_of_absent h)

theorem removeValue_of_found (h : buffer.findFirst element = .ok (some index)) :
    buffer.removeValue element = (buffer.removeAt index).map (true, ·) := by
  have hon := congrArg
    (fun done : Traced (Except Fault Bool × Buffer) => done.result.1.map (·, done.result.2))
    (on_removeValue_of_found h)
  refine Eq.trans hon ?_
  cases houtcome : ((Edit.removeAt index).on buffer).result.1 with
  | error fault =>
    rw [Edit.on_bind_of_error houtcome, removeAt, Edit.result_made, houtcome]
    rfl
  | ok u =>
    rw [Edit.on_bind_of_ok houtcome, removeAt, Edit.result_made, houtcome]
    rfl

/-- Removing by value takes and releases no block either. -/
theorem events_removeValue (buffer : Buffer) (element : Bytes) :
    ((Edit.removeValue element).on buffer).events = [] := by
  rcases hfind : buffer.findFirst element with fault | _ | index
  · rw [on_removeValue_of_error hfind]
  · rw [on_removeValue_of_absent hfind]
  · have hevents : ((Edit.removeAt index).on buffer).events = [] := by
      have hmade := congrArg (fun run : Attempt Buffer => run.run.events)
        (made_removeAt buffer index)
      exact hmade.trans (Attempt.events_liftExcept _)
    rw [on_removeValue_of_found hfind]
    cases houtcome : ((Edit.removeAt index).on buffer).result.1 with
    | error fault => rw [Edit.on_bind_of_error houtcome, hevents]
    | ok u =>
      rw [Edit.on_bind_of_ok houtcome, hevents]
      rfl

theorem made_removeValue (buffer : Buffer) (element : Bytes) :
    (Edit.removeValue element >>= fun _ => pure ()).made buffer =
      liftExcept ((buffer.removeValue element).map Prod.snd) := by
  rw [Edit.made_ignore, events_removeValue]
  exact Attempt.ext (Attempt.result_liftExcept _).symm (Attempt.events_liftExcept _).symm

end Removal

end Buffer

end HostBridge
