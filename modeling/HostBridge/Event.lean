import HostBridge.Host.Ref
import HostBridge.Kind

/-!
# Events

Operations report what they do as events. An event has a level, an origin and named fields, by which
it is filtered; the field `message` says what happened.
-/

namespace HostBridge

/-- How severe an event is, the most severe first. -/
inductive Level where
  /-- A failure of the program. -/
  | error
  /-- A misuse or a setting that was replaced. -/
  | warn
  /-- A change of the life cycle. -/
  | info
  /-- A failed call or a change of size. -/
  | debug
  /-- Every single operation. -/
  | trace
  deriving DecidableEq

namespace Level

/-- The name of a level. -/
def name : Level → String
  | error => "ERROR"
  | warn => "WARN"
  | info => "INFO"
  | debug => "DEBUG"
  | trace => "TRACE"

/-- The position of a level, counted from the most severe one. -/
def rank : Level → Nat
  | error => 0
  | warn => 1
  | info => 2
  | debug => 3
  | trace => 4

/-- Whether events of level `level` pass a filter set to `limit`. -/
def passes (limit level : Level) : Bool := level.rank ≤ limit.rank

end Level

/-- What conversions between host objects and native values have done so far. -/
structure Stats where
  /-- Host values read as native values. -/
  conversions : Nat := 0
  /-- Conversions that failed. -/
  conversionErrors : Nat := 0
  /-- Views made of host arrays. -/
  viewsCreated : Nat := 0
  /-- Host objects made from native values. -/
  objectsCreated : Nat := 0
  deriving DecidableEq

/-- The value of a field of an event. -/
inductive Field where
  /-- A text. -/
  | text (value : String)
  /-- An integer. -/
  | number (value : Int)
  /-- A truth value. -/
  | flag (value : Bool)
  deriving DecidableEq

/-- Something that an operation did. -/
inductive Event where
  /-- A block of memory was obtained. -/
  | allocated (entity : String) (size : Nat)
  /-- A block of memory was given back. -/
  | released (entity : String) (size : Nat)
  /-- A buffer moved to a larger block. -/
  | bufferGrown (kind : Kind) (oldCapacity newCapacity : Nat)
  /-- A buffer was made from bytes. -/
  | bufferCreated (kind : Kind) (length capacity : Nat)
  /-- A buffer was destroyed. -/
  | bufferDestroyed (kind : Kind) (length : Nat)
  /-- A descriptor of borrowed memory was made. -/
  | viewCreated (kind : Kind) (rank length : Nat)
  /-- A descriptor was destroyed. -/
  | arrayDestroyed (kind : Kind) (view : Bool)
  /-- A value was converted. -/
  | converted (source target : String)
  /-- A conversion failed. -/
  | conversionFailed (target error : String)
  /-- A timed operation came to its end. -/
  | completed (operation : String)
  /-- A reference was taken to an object that is gone. -/
  | staleIncrement (ref : Ref)
  /-- A reference was given back to an object that is gone. -/
  | staleDecrement (ref : Ref)
  /-- A host object was freed. -/
  | objectFreed (ref : Ref)
  /-- A native call failed with a fault. -/
  | callFailed (code : Int) (error : String)
  /-- A native call was refused because of a missing or unknown argument. -/
  | callRefused (reason : String)
  /-- The handle of a buffer was given up. -/
  | bufferHandleDestroyed
  /-- The handle of an array was given up. -/
  | arrayHandleDestroyed
  /-- Settings that are not valid were replaced. -/
  | settingsReplaced (error : String)
  /-- Settings were not installed because others already are. -/
  | settingsKept
  /-- The library was started. -/
  | started (defaultCapacity : Nat)
  /-- The library is about to stop. -/
  | stopping (stats : Stats)
  deriving DecidableEq

namespace Event

/-- The level of an event. -/
def level : Event → Level
  | allocated .. | released .. | bufferCreated .. | bufferDestroyed .. | viewCreated ..
  | arrayDestroyed .. | converted .. | objectFreed .. | bufferHandleDestroyed
  | arrayHandleDestroyed => .trace
  | bufferGrown .. | conversionFailed .. | completed .. | callFailed .. | callRefused ..
  | settingsKept => .debug
  | started .. | stopping .. => .info
  | staleIncrement .. | staleDecrement .. | settingsReplaced .. => .warn

/-- The text that says what happened. -/
def message : Event → String
  | allocated .. => "Memory allocated"
  | released .. => "Memory deallocated"
  | bufferGrown .. => "Buffer storage grown"
  | bufferCreated .. => "buffer created"
  | bufferDestroyed .. => "buffer destroyed"
  | viewCreated .. => "Array view created"
  | arrayDestroyed .. => "array descriptor destroyed"
  | converted .. => "Type conversion performed"
  | conversionFailed .. => "Conversion failed"
  | completed .. => "operation completed"
  | staleIncrement .. => "incref on stale handle"
  | staleDecrement .. => "decref on stale handle"
  | objectFreed .. => "host object freed"
  | callFailed .. => "native call failed"
  | callRefused reason => reason
  | bufferHandleDestroyed => "buffer handle destroyed"
  | arrayHandleDestroyed => "array handle destroyed"
  | settingsReplaced .. => "replacing invalid runtime settings with defaults"
  | settingsKept => "runtime configuration already installed"
  | started .. => "runtime initialized"
  | stopping .. => "runtime shutting down"

/-- The fields that say with what it happened. -/
def details : Event → List (String × Field)
  | allocated entity size =>
    [("event", .text "allocation"), ("entity", .text entity), ("size_bytes", .number size)]
  | released entity size =>
    [("event", .text "deallocation"), ("entity", .text entity), ("size_bytes", .number size)]
  | bufferGrown kind old new =>
    [("event", .text "buffer_growth"), ("kind", .text kind.name), ("old_capacity", .number old),
      ("new_capacity", .number new)]
  | bufferCreated kind length capacity =>
    [("kind", .text kind.name), ("len", .number length), ("capacity", .number capacity)]
  | bufferDestroyed kind length => [("kind", .text kind.name), ("len", .number length)]
  | viewCreated kind rank length =>
    [("event", .text "view_created"), ("kind", .text kind.name), ("rank", .number rank),
      ("len", .number length)]
  | arrayDestroyed kind view => [("kind", .text kind.name), ("view", .flag view)]
  | converted source target =>
    [("event", .text "type_conversion"), ("from", .text source), ("to", .text target)]
  | conversionFailed target error =>
    [("event", .text "conversion_error"), ("target_type", .text target), ("error", .text error)]
  | completed operation => [("operation", .text operation)]
  | staleIncrement ref | staleDecrement ref | objectFreed ref => [("obj", .text ref.describe)]
  | callFailed code error => [("code", .number code), ("error", .text error)]
  | callRefused _ | bufferHandleDestroyed | arrayHandleDestroyed | settingsKept => []
  | settingsReplaced error => [("error", .text error)]
  | started capacity => [("default_capacity", .number capacity)]
  | stopping stats =>
    [("conversions", .number stats.conversions),
      ("conversion_errors", .number stats.conversionErrors),
      ("views_created", .number stats.viewsCreated),
      ("objects_created", .number stats.objectsCreated)]

/-- Every field of an event. -/
def fields (event : Event) : List (String × Field) :=
  event.details ++ [("message", .text event.message)]

/-- The fields of an event that differ from run to run. They have a name but no fixed value. -/
def varyingFields : Event → List String
  | allocated .. | released .. | bufferHandleDestroyed | arrayHandleDestroyed => ["address"]
  | completed .. => ["duration_us"]
  | _ => []

/-- The names of all fields of an event. -/
def fieldNames (event : Event) : List String :=
  event.fields.map (·.1) ++ event.varyingFields

/-- The part of the library that reports an event, from the whole to the part. -/
def origin : Event → String
  | allocated .. | released .. | bufferGrown .. | viewCreated .. | converted ..
  | conversionFailed .. => "pyrt::logging"
  | completed .. => "pyrt::logging::perf"
  | bufferCreated .. | bufferDestroyed .. => "pyrt::buffer"
  | arrayDestroyed .. => "pyrt::array"
  | staleIncrement .. | staleDecrement .. | objectFreed .. => "pyrt::host::arena"
  | callFailed .. | callRefused .. => "pyrt::ffi::error"
  | bufferHandleDestroyed => "pyrt::ffi::buffer"
  | arrayHandleDestroyed => "pyrt::ffi::array"
  | settingsReplaced .. | settingsKept | started .. | stopping .. => "pyrt::ffi"

end Event

end HostBridge
