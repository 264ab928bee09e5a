import HostBridge.Event.Filter
import HostBridge.Numeral
import HostBridge.Shape
import HostBridge.Text.Lowercase

/-!
# Settings

Three things can be set: the capacity of new buffers, the order of new arrays, and what is logged
where. Settings come from a document or from environment variables. Only a power of two is a valid
capacity. In one process the settings are fixed by whoever installs or reads them first.
-/

namespace HostBridge

/-- What is logged, and where. -/
structure LogSettings where
  /-- The name of the least severe level that is logged. -/
  level : String := "info"
  /-- The file that events are also written to. -/
  path : Option String := none
  /-- Whether events are written in a structured form. -/
  json : Bool := false
  /-- Whether entering and leaving a span is logged. -/
  spans : Bool := false
  deriving DecidableEq

namespace LogSettings

/-- The level that a name stands for; an unknown name stands for `info`. -/
def threshold (log : LogSettings) : Level :=
  match log.level with
  | "trace" => .trace
  | "debug" => .debug
  | "warn" => .warn
  | "error" => .error
  | _ => .info

/-- Settings under which everything is logged. -/
def verbose : LogSettings := { level := "trace", spans := true }

end LogSettings

/-- All settings. -/
structure Settings where
  /-- The capacity of a buffer that is made without one. -/
  defaultCapacity : Nat := 4
  /-- The order of an array that is made without one. -/
  order : Order := .rowMajor
  /-- What is logged, and where. -/
  log : LogSettings := {}
  deriving DecidableEq

/-- The variables of an environment and their values. -/
abbrev Environment := List (String × String)

/-- The value of a variable, if it is set. -/
def Environment.value? (environment : Environment) (name : String) : Option String :=
  List.lookup name environment

/-- The filter of the events that are logged. An environment may hold one of its own; if it has none
that can be read, the level decides. -/
def LogSettings.filter (log : LogSettings) (environment : Environment) : EventFilter :=
  ((environment.value? "RUST_LOG").bind EventFilter.ofText?).getD (.upTo log.threshold)

/-- Why settings could not be had. -/
inductive SettingsError where
  /-- There is no such file. -/
  | missing
  /-- The file does not hold text. -/
  | notText
  /-- The text is not a document, or a setting has a value of the wrong type. -/
  | malformed
  /-- The capacity is not a power of two. -/
  | invalidCapacity (capacity : Nat)
  deriving DecidableEq

/-- The text by which an error is reported. -/
def SettingsError.message : SettingsError → String
  | missing => "Failed to read config: No such file or directory (os error 2)"
  | notText => "Failed to read config: stream did not contain valid UTF-8"
  | malformed => "Failed to parse config"
  | invalidCapacity capacity =>
    s!"Invalid config: buffer.default_capacity must be a power of two, got {capacity}"

/-- Whether a number is a power of two. -/
def isPowerOfTwo (n : Nat) : Bool := n != 0 && twoPow n.log2 == n

namespace Settings

/-- The order that a variable names, in either case. -/
def orderOfName? (name : String) : Option Order :=
  if name = "C" ∨ name = "c" then some .rowMajor
  else if name = "F" ∨ name = "f" then some .columnMajor
  else none

/-- The settings of an environment. A value that cannot be read leaves its setting alone; the two
switches are on as soon as their variables are set. -/
def ofEnvironment (environment : Environment) : Settings :=
  let defaults : Settings := {}
  { defaultCapacity :=
      ((environment.value? "PYRT_DEFAULT_CAPACITY").bind fun text => Numeral.word? text.toList).getD
        defaults.defaultCapacity
    order := ((environment.value? "PYRT_ARRAY_ORDER").bind orderOfName?).getD defaults.order
    log := {
      level := ((environment.value? "PYRT_LOG_LEVEL").map Text.lower).getD defaults.log.level
      path := environment.value? "PYRT_LOG_FILE"
      json := (environment.value? "PYRT_LOG_JSON").isSome
      spans := (environment.value? "PYRT_LOG_SPANS").isSome } }

/-- Refuse a capacity that is not a power of two. -/
def validate (settings : Settings) : Except SettingsError Unit :=
  if isPowerOfTwo settings.defaultCapacity then return ()
  else throw (.invalidCapacity settings.defaultCapacity)

/-- Replace a capacity that is not a power of two by the default one. -/
def sanitized (settings : Settings) : Settings :=
  if isPowerOfTwo settings.defaultCapacity then settings
  else { settings with defaultCapacity := ({} : Settings).defaultCapacity }

/-- The settings of one process, which are fixed when they are first installed or read. -/
structure Cell where
  /-- The environment of the process. -/
  environment : Environment
  /-- The settings, once they are fixed. -/
  installed : Option Settings
  deriving DecidableEq

namespace Cell

/-- Read the settings. If they are not fixed yet, they are now fixed by the environment. -/
def current (cell : Cell) : Settings × Cell :=
  match cell.installed with
  | some settings => (settings, cell)
  | none =>
    let settings := (ofEnvironment cell.environment).sanitized
    (settings, { cell with installed := some settings })

/-- Fix the settings unless they are already fixed, and tell whether that was done. -/
def install (cell : Cell) (settings : Settings) : Bool × Cell :=
  match cell.installed with
  | some _ => (false, cell)
  | none => (true, { cell with installed := some settings })

end Cell

end Settings

end HostBridge
