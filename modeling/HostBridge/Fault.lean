import HostBridge.Kind
import HostBridge.Text.Quoted

/-!
# Faults

Every failing operation returns a fault: its cause and, where known, the name of the argument
that was being processed. Faults fall into four categories, which are all that native callers
and host exceptions distinguish.
-/

namespace HostBridge

/-- The coarse class of a fault. -/
inductive Category where
  /-- Memory could not be obtained. -/
  | allocation
  /-- A value or a type does not have the requested representation. -/
  | conversion
  /-- An index lies outside a container. -/
  | index
  /-- A rank, an extent or a number of strides does not match. -/
  | shape
  deriving DecidableEq

/-- The status code of a category. -/
def Category.code : Category → Int
  | .allocation => 1
  | .conversion => 2
  | .index => 3
  | .shape => 4

/-- What went wrong. -/
inductive Cause where
  /-- A block of `bytes` bytes for `entity` could not be obtained. -/
  | allocation (entity : String) (bytes : Nat)
  /-- `found` cannot become `expected`. -/
  | conversion (expected found : String)
  /-- The host raised an exception of its own while a value became `expected`. -/
  | hostRaised (expected : String)
  /-- A container of kind `expected` met an element or container of kind `found`. -/
  | kindMismatch (expected found : Kind)
  /-- `position` lies outside a container of `length` elements. -/
  | index (position length : Nat)
  /-- A layout with `expected` was required where one with `found` was given. -/
  | shape (expected found : String)
  deriving DecidableEq

namespace Cause

/-- The category of a cause. -/
def category : Cause → Category
  | allocation .. => .allocation
  | conversion .. | hostRaised .. | kindMismatch .. => .conversion
  | index .. => .index
  | shape .. => .shape

/-- The text by which a cause is reported. -/
def message : Cause → String
  | allocation entity bytes => s!"Failed to allocate {bytes} bytes for {entity}"
  | conversion expected found => s!"Cannot convert {found} to {expected}"
  | hostRaised expected => s!"Host raised while converting to {expected}"
  | kindMismatch expected found =>
    s!"Element kind mismatch: expected {expected.name}, found {found.name}"
  | index position length => s!"Index {position} out of range for length {length}"
  | shape expected found => s!"Shape mismatch: expected {expected}, found {found}"

/-- The structure of a cause, written out with its fields. -/
def describe : Cause → String
  | allocation entity bytes =>
    "Allocation \x7b entity: " ++ Text.quote entity ++ s!", bytes: {bytes} " ++ "\x7d"
  | conversion expected found =>
    "Conversion \x7b expected: " ++ Text.quote expected ++ ", found: " ++ Text.quote found ++
      " \x7d"
  | hostRaised expected => "HostError \x7b expected: " ++ Text.quote expected ++ " \x7d"
  | kindMismatch expected found =>
    "KindMismatch \x7b expected: " ++ expected.label ++ ", found: " ++ found.label ++ " \x7d"
  | index position length => "Index \x7b " ++ s!"index: {position}, len: {length} " ++ "\x7d"
  | shape expected found =>
    "Shape \x7b expected: " ++ Text.quote expected ++ ", found: " ++ Text.quote found ++ " \x7d"

end Cause

/-- A failure of an operation. -/
structure Fault where
  /-- What went wrong. -/
  cause : Cause
  /-- The argument that was being processed, if it has a name. -/
  argument : Option String := none
  deriving DecidableEq

namespace Fault

/-- A block of memory could not be obtained. -/
def allocation (entity : String) (bytes : Nat) : Fault := ⟨.allocation entity bytes, none⟩

/-- A value does not have the requested representation. -/
def conversion (expected found : String) : Fault := ⟨.conversion expected found, none⟩

/-- The host raised an exception of its own. -/
def hostRaised (expected : String) : Fault := ⟨.hostRaised expected, none⟩

/-- Two kinds that should agree differ. -/
def kindMismatch (expected found : Kind) : Fault := ⟨.kindMismatch expected found, none⟩

/-- An index lies outside a container. -/
def index (position length : Nat) : Fault := ⟨.index position length, none⟩

/-- A layout does not match. -/
def shape (expected found : String) : Fault := ⟨.shape expected found, none⟩

/-- The same fault with the name of the argument it concerns. -/
def withArgument (fault : Fault) (argument : String) : Fault :=
  { fault with argument := some argument }

/-- The category of a fault. -/
def category (fault : Fault) : Category := fault.cause.category

/-- The text by which a fault is reported; a named argument comes first. -/
def message (fault : Fault) : String :=
  match fault.argument with
  | some argument => "argument '" ++ argument ++ "': " ++ fault.cause.message
  | none => fault.cause.message

/-- Whether the host already carries an exception that describes the fault. -/
def isHostRaised (fault : Fault) : Bool :=
  match fault.cause with
  | .hostRaised _ => true
  | _ => false

/-- The structure of a fault, written out with its fields. -/
def describe (fault : Fault) : String :=
  let argument := match fault.argument with
    | some argument => "Some(" ++ Text.quote argument ++ ")"
    | none => "None"
  "NativeError \x7b kind: " ++ fault.cause.describe ++ ", argument: " ++ argument ++ " \x7d"

end Fault

end HostBridge
