import HostBridge.Buffer
import HostBridge.Host.Interface
import HostBridge.Settings.Basic

/-!
# Conversions between host and native values

Conversions work on a host, keep statistics and read the settings. A conversion that fails counts
as an error and is reported; its fault can then be raised in the host as an exception.
-/

namespace HostBridge

/-- What conversions work on. -/
structure Exchange (H : Type) where
  /-- The host. -/
  host : H
  /-- What conversions have done so far. -/
  stats : Stats
  /-- The settings of the process. -/
  settings : Settings.Cell

/-- A conversion: it may end in a fault, and it keeps its effects on the host and the statistics
even then. -/
abbrev Marshal (H : Type) := ExceptT Fault (StateT (Exchange H) Traced)

namespace Marshal

variable {H R α : Type}

/-- How a conversion ends, and what it leaves behind. -/
def outcome (run : Marshal H α) (exchange : Exchange H) : Except Fault α × Exchange H :=
  (run.run.run exchange).result

/-- A conversion in two steps goes on from where its first step ended, unless that ended in a
fault. -/
theorem outcome_bind {β : Type} (x : Marshal H α) (f : α → Marshal H β) (exchange : Exchange H) :
    outcome (x >>= f) exchange =
      match outcome x exchange with
      | (.ok a, exchange) => outcome (f a) exchange
      | (.error fault, exchange) => (.error fault, exchange) := by
  have h : outcome (x >>= f) exchange =
      (ExceptT.bindCont f (outcome x exchange).1 (outcome x exchange).2).result := rfl
  rw [h]
  rcases outcome x exchange with ⟨_ | _, _⟩ <;> rfl

@[simp]
theorem outcome_pure (a : α) (exchange : Exchange H) :
    outcome (pure a) exchange = (.ok a, exchange) := rfl

@[simp]
theorem outcome_liftExcept (x : Except Fault α) (exchange : Exchange H) :
    outcome (liftExcept x) exchange = (x, exchange) := by
  cases x <;> rfl

/-- Record one event. -/
def emit (event : Event) : Marshal H Unit :=
  ExceptT.lift (StateT.lift (Traced.emit event))

@[simp]
theorem outcome_emit (event : Event) (exchange : Exchange H) :
    outcome (emit event) exchange = (.ok (), exchange) := rfl

/-- Run a primitive of the host. -/
def primitive (run : H → α × H) : Marshal H α :=
  modifyGet fun exchange =>
    ((run exchange.host).1, { exchange with host := (run exchange.host).2 })

@[simp]
theorem outcome_primitive (run : H → α × H) (exchange : Exchange H) :
    outcome (primitive run) exchange =
      (.ok (run exchange.host).1, { exchange with host := (run exchange.host).2 }) := rfl

/-- Ask the host something that does not change it. -/
def ask (question : H → α) : Marshal H α := do return question (← get).host

@[simp]
theorem outcome_ask (question : H → α) (exchange : Exchange H) :
    outcome (ask question) exchange = (.ok (question exchange.host), exchange) := rfl

/-- Run an attempt that touches neither the host nor the statistics. -/
def attempt (run : Attempt α) : Marshal H α := ExceptT.mk (StateT.lift run.run)

@[simp]
theorem outcome_attempt (run : Attempt α) (exchange : Exchange H) :
    outcome (attempt run) exchange = (run.run.result, exchange) := rfl

/-- Change the statistics. -/
def count (change : Stats → Stats) : Marshal H Unit :=
  modify fun exchange => { exchange with stats := change exchange.stats }

@[simp]
theorem outcome_count (change : Stats → Stats) (exchange : Exchange H) :
    outcome (count change) exchange =
      (.ok (), { exchange with stats := change exchange.stats }) := rfl

/-- Count a value that was read from the host. -/
def countConversion : Marshal H Unit :=
  count fun stats => { stats with conversions := stats.conversions + 1 }

/-- Count a view of a host array. -/
def countView : Marshal H Unit :=
  count fun stats => { stats with viewsCreated := stats.viewsCreated + 1 }

/-- Count a host object that was made. -/
def countObject : Marshal H Unit :=
  count fun stats => { stats with objectsCreated := stats.objectsCreated + 1 }

/-- Count and report a fault of a conversion to `target`. -/
def report (target : String) (fault : Fault) : Marshal H Unit := do
  count fun stats => { stats with conversionErrors := stats.conversionErrors + 1 }
  emit (.conversionFailed target fault.message)

/-- End a conversion to `target` in a fault. -/
def fail (target : String) (fault : Fault) : Marshal H α := do
  report target fault
  throw fault

/-- A fault that ends a conversion is counted. -/
@[simp]
theorem outcome_fail (target : String) (fault : Fault) (exchange : Exchange H) :
    outcome (fail target fault : Marshal H α) exchange =
      (.error fault, { exchange with stats := { exchange.stats with
        conversionErrors := exchange.stats.conversionErrors + 1 } }) := rfl

/-- Run a conversion and report that it has come to its end, whatever its outcome. -/
def timed (operation : String) (run : Marshal H α) : Marshal H α :=
  ExceptT.mk do
    let outcome ← run.run
    StateT.lift (Traced.emit (.completed operation))
    return outcome

@[simp]
theorem outcome_timed (operation : String) (run : Marshal H α) (exchange : Exchange H) :
    outcome (timed operation run) exchange = outcome run exchange := rfl

/-- Name the argument that a fault concerns. -/
def named (argument : String) (run : Marshal H α) : Marshal H α :=
  ExceptT.mk do
    match ← run.run with
    | .ok result => return .ok result
    | .error fault => return .error (fault.withArgument argument)

/-- Naming an argument changes the fault alone. -/
theorem outcome_named (argument : String) (run : Marshal H α) (exchange : Exchange H) :
    outcome (named argument run) exchange =
      ((outcome run exchange).1.mapError fun fault => fault.withArgument argument,
        (outcome run exchange).2) := by
  have hbind (f : Except Fault α → StateT (Exchange H) Traced (Except Fault α)) :
      outcome (ExceptT.mk (run.run >>= f)) exchange =
        (f (outcome run exchange).1 (outcome run exchange).2).result := rfl
  rw [named, hbind]
  rcases outcome run exchange with ⟨_ | _, _⟩ <;> rfl

/-- The capacity of a buffer that is made without one. -/
def defaultCapacity : Marshal H Nat :=
  modifyGet fun exchange =>
    (exchange.settings.current.1.defaultCapacity,
      { exchange with settings := exchange.settings.current.2 })

@[simp]
theorem outcome_defaultCapacity (exchange : Exchange H) :
    outcome defaultCapacity exchange =
      (.ok exchange.settings.current.1.defaultCapacity,
        { exchange with settings := exchange.settings.current.2 }) := rfl

end Marshal

/-- The class of the exception by which a fault is raised. -/
def Cause.exceptionClass : Cause → ExceptionClass
  | allocation .. => .memoryError
  | conversion .. | kindMismatch .. | hostRaised .. => .typeError
  | index .. => .indexError
  | shape .. => .valueError

/-- Raise a fault in the host, unless an exception is already pending. -/
def Fault.raise {H R : Type} [Host H R] (fault : Fault) (host : H) : H :=
  if Host.errorOccurred host then host
  else Host.setError host ⟨fault.cause.exceptionClass, fault.message⟩

end HostBridge
