import HostBridge.Event
import HostBridge.Fault

/-!
# Traced computations

A traced computation yields a result together with the events it recorded, in their order. An
attempt is a traced computation that may end in a fault; the events recorded before the fault
are kept.
-/

namespace HostBridge

/-- A result and the events recorded on the way to it. -/
structure Traced (α : Type) where
  /-- The result of the computation. -/
  result : α
  /-- The events it recorded, the earliest first. -/
  events : List Event

namespace Traced

variable {α β : Type}

/-- Yield a result without recording anything. -/
protected def pure (a : α) : Traced α := ⟨a, []⟩

/-- Run one computation after another, which may depend on its result. -/
protected def bind (x : Traced α) (f : α → Traced β) : Traced β :=
  let y := f x.result
  ⟨y.result, x.events ++ y.events⟩

instance : Monad Traced where
  pure := Traced.pure
  bind := Traced.bind

/-- Record one event. -/
def emit (event : Event) : Traced Unit := ⟨(), [event]⟩

@[simp]
theorem result_pure (a : α) : (pure a : Traced α).result = a := rfl

@[simp]
theorem events_pure (a : α) : (pure a : Traced α).events = [] := rfl

@[simp]
theorem result_bind (x : Traced α) (f : α → Traced β) :
    (x >>= f).result = (f x.result).result := rfl

/-- Events are recorded in the order of the computations. -/
@[simp]
theorem events_bind (x : Traced α) (f : α → Traced β) :
    (x >>= f).events = x.events ++ (f x.result).events := rfl

@[simp]
theorem result_emit (event : Event) : (emit event).result = () := rfl

@[simp]
theorem events_emit (event : Event) : (emit event).events = [event] := rfl

/-- Recording events obeys the monad laws, since joining lists does. -/
instance : LawfulMonad Traced :=
  LawfulMonad.mk' Traced
    (fun x => by simp [Functor.map, Traced.bind, Traced.pure])
    (fun a f => by simp [bind, pure, Traced.bind, Traced.pure])
    (fun x f g => by simp [bind, Traced.bind])

end Traced

/-- A traced computation that may end in a fault. -/
abbrev Attempt := ExceptT Fault Traced

/-- Record one event within an attempt. -/
def Attempt.emit (event : Event) : Attempt Unit := ExceptT.lift (Traced.emit event)

@[simp]
theorem Fault.ok_bind {α β : Type} (a : α) (f : α → Except Fault β) :
    (Except.ok a >>= f) = f a := rfl

@[simp]
theorem Fault.error_bind {α β : Type} (fault : Fault) (f : α → Except Fault β) :
    (Except.error fault >>= f) = .error fault := rfl

theorem Fault.bind_eq_ok {α β : Type} {x : Except Fault α} {f : α → Except Fault β} {b : β} :
    (x >>= f) = .ok b ↔ ∃ a, x = .ok a ∧ f a = .ok b := by
  cases x <;> simp

theorem Fault.map_eq_error {α β : Type} {x : Except Fault α} {f : α → β} {fault : Fault}
    (h : x.map f = .error fault) : x = .error fault := by
  cases x with
  | error _ => exact congrArg Except.error (Except.error.inj h)
  | ok _ => cases h

theorem Fault.map_eq_ok {α β : Type} {x : Except Fault α} {f : α → β} {b : β}
    (h : x.map f = .ok b) :
    ∃ a, x = .ok a ∧ f a = b := by
  cases x with
  | error _ => cases h
  | ok a => exact ⟨a, rfl, Except.ok.inj h⟩

/-- An attempt in two steps ends as its second step does, or in the fault of its first. -/
@[simp]
theorem Attempt.result_bind {α β : Type} (x : Attempt α) (f : α → Attempt β) :
    (x >>= f).run.result = x.run.result >>= fun a => (f a).run.result := by
  simp only [bind, ExceptT.bind, ExceptT.mk, ExceptT.run, Traced.bind, ExceptT.bindCont]
  cases Traced.result x <;> rfl

/-- An attempt in two steps yields a value when its first step yields one from which its second step
yields that value. -/
theorem Attempt.result_bind_eq_ok {α β : Type} {x : Attempt α} {f : α → Attempt β} {b : β} :
    (x >>= f).run.result = .ok b ↔ ∃ a, x.run.result = .ok a ∧ (f a).run.result = .ok b := by
  rw [Attempt.result_bind, Fault.bind_eq_ok]

@[simp]
theorem Attempt.result_pure {α : Type} (a : α) : (pure a : Attempt α).run.result = .ok a := rfl

@[simp]
theorem Attempt.result_throw {α : Type} (fault : Fault) :
    (throw fault : Attempt α).run.result = .error fault := rfl

@[simp]
theorem Attempt.result_emit (event : Event) : (Attempt.emit event).run.result = .ok () := rfl

@[simp]
theorem Attempt.result_liftExcept {α : Type} (x : Except Fault α) :
    (liftExcept x : Attempt α).run.result = x := by
  cases x <;> rfl

/-- A step that ended in a fault is the last one to record events. -/
@[simp]
theorem Attempt.events_bind {α β : Type} (x : Attempt α) (f : α → Attempt β) :
    (x >>= f).run.events = x.run.events ++
      match x.run.result with
      | .ok a => (f a).run.events
      | .error _ => [] := by
  simp only [bind, ExceptT.bind, ExceptT.mk, ExceptT.run, Traced.bind, ExceptT.bindCont]
  cases Traced.result x <;> rfl

@[simp]
theorem Attempt.events_pure {α : Type} (a : α) : (pure a : Attempt α).run.events = [] := rfl

@[simp]
theorem Attempt.events_throw {α : Type} (fault : Fault) :
    (throw fault : Attempt α).run.events = [] := rfl

@[simp]
theorem Attempt.events_liftExcept {α : Type} (x : Except Fault α) :
    (liftExcept x : Attempt α).run.events = [] := by
  cases x <;> rfl

/-- The outcome of an attempt, with the events recorded on the way to it. -/
def Attempt.outcome {α : Type} (attempt : Attempt α) : Traced (Except Fault α) := attempt.run

end HostBridge
