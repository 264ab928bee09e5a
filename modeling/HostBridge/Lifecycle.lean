import HostBridge.Handle.Status

/-!
# Starting and stopping

Starting reads the environment, begins logging, and fixes the settings; both of the latter only
happen the first time. Settings that are not valid are replaced and reported. Stopping reports the
statistics.
-/

namespace HostBridge

namespace Call

/-- Begin logging, unless it has begun. -/
def beginLogging (log : LogSettings) : Call Unit :=
  modify fun bridge =>
    let logging := { settings := log, filter := log.filter bridge.settings.environment }
    { bridge with logging := some (bridge.logging.getD logging) }

/-- Whether logging has begun. -/
def isLogging : Call Bool := do return (← get).logging.isSome

/-- Set the statistics back to zero. -/
def resetStats : Call Unit := modify fun bridge => { bridge with stats := {} }

/-- Fix the settings unless they are already fixed, and tell whether that was done. -/
def install (settings : Settings) : Call Bool :=
  modifyGet fun bridge =>
    let (installed, cell) := bridge.settings.install settings
    (installed, { bridge with settings := cell })

/-- Start the library. Yields zero, or -1 if the environment asks for settings that are not
valid. -/
def startUp : Call Int := do
  let wanted := Settings.ofEnvironment (← get).settings.environment
  beginLogging wanted.log
  let code ← match wanted.validate with
    | .ok () => pure 0
    | .error error => do
      emit (.settingsReplaced error.message)
      pure refusedCode
  if !(← install wanted.sanitized) then
    emit .settingsKept
  resetStats
  emit (.started (← settings).defaultCapacity)
  return code

/-- Stop the library. -/
def shutDown : Call Unit := do
  emit (.stopping (← get).stats)
  clearError

end Call

/-- A part of a file path. -/
inductive PathPart where
  /-- The directory itself. -/
  | here
  /-- The directory above. -/
  | above
  /-- A name in the directory. -/
  | name (value : String)
  deriving DecidableEq

namespace LogSettings

/-- Whether a path does not depend on the working directory. -/
def isAbsolute (path : String) : Bool := path.toList.head? == some '/'

/-- The parts of a path. Repeated separators count once, and a dot counts only at the front. -/
def parts (path : String) : List PathPart :=
  let pieces := path.splitOn "/"
  let kept := pieces.zipIdx.filter fun (piece, position) =>
    piece != "" && (piece != "." || position == 0)
  kept.map fun (piece, _) =>
    if piece = "." then .here else if piece = ".." then .above else .name piece

/-- The directories on the way to the log file, and the name of the log file in the last one. A
path that does not end in a name has a log file with a name of its own. -/
def fileParts (path : String) : List PathPart × String :=
  let parts := parts path
  match parts.getLast? with
  | some (.name file) => (parts.dropLast, file)
  | _ => (parts.dropLast, "pyrt.log")

/-- The names that a log file adds to the working directory, where `depth` is the number of
directories that the walk has gone down. -/
def addedNames (file : String) : (depth : Int) → List PathPart → List String
  | depth, [] => if depth = 0 then [file] else []
  | depth, .here :: rest => addedNames file depth rest
  | depth, .above :: rest => addedNames file (depth - 1) rest
  | depth, .name directory :: rest =>
    (if depth = 0 then [directory] else []) ++ addedNames file (depth + 1) rest

/-- The names that logging adds to the working directory: the log file, or the first directory on
the way to it. -/
def createdNames (log : LogSettings) : List String :=
  match log.path with
  | none => []
  | some path =>
    let (directories, file) := fileParts path
    if isAbsolute path && !(parts path).isEmpty then []
    else (addedNames file 0 directories).eraseDups

end LogSettings

end HostBridge
