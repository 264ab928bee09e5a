import HostBridge.Handle.Store
import HostBridge.Host.Arena
import HostBridge.Marshal.Basic

/-!
# The state of the bridge

Between calls the bridge holds the host with its statistics and settings, the caller's blocks of
memory, the buffers and arrays behind handles, and the outcome of the last call. All borrowed
memory is found through this state, so a write through one view is seen by every other.
-/

namespace HostBridge

/-- The outcome of the last call that recorded one. -/
structure LastError where
  /-- Zero for success, -1 for a refused call, or the code of the category of a fault. -/
  code : Int := 0
  /-- The text of the failure, empty for success. -/
  message : String := ""
  deriving DecidableEq

/-- The logging of a process, once it has begun. -/
structure Logging where
  /-- The settings with which it began. -/
  settings : LogSettings
  /-- The filter of the events that are logged. -/
  filter : EventFilter
  deriving DecidableEq

/-- Everything that outlives a call. -/
structure Bridge extends Exchange Arena where
  /-- The caller's blocks of memory. -/
  blocks : Store Bytes
  /-- The buffers behind handles. -/
  buffers : Store Buffer
  /-- The arrays behind handles. -/
  arrays : Store Descriptor
  /-- The outcome of the last call. -/
  lastError : LastError
  /-- What is logged, once logging has begun. -/
  logging : Option Logging

namespace Bridge

/-- The state at the start of a process with the given settings. -/
def start (settings : Settings.Cell) : Bridge where
  host := Arena.empty
  stats := {}
  settings := settings
  blocks := Store.empty
  buffers := Store.empty
  arrays := Store.empty
  lastError := {}
  logging := none

/-- What a place of memory holds. -/
def regions (bridge : Bridge) : Regions
  | .block id => (bridge.blocks.get? id).getD []
  | .object ref => bridge.host.storage ref
  | .buffer handle => ((bridge.buffers.get? handle).map (·.block)).getD []
  | .array handle => ((bridge.arrays.get? handle).map (·.block)).getD []

/-- Replace what a place of memory holds. -/
def setRegion (bridge : Bridge) (place : Place) (bytes : Bytes) : Bridge :=
  match place with
  | .block id => { bridge with blocks := bridge.blocks.set id bytes }
  | .object ref => { bridge with host := bridge.host.setStorage ref bytes }
  | .buffer handle =>
    match bridge.buffers.get? handle with
    | some buffer =>
      { bridge with buffers := bridge.buffers.set handle { buffer with block := bytes } }
    | none => bridge
  | .array handle =>
    match bridge.arrays.get? handle with
    | some array => { bridge with arrays := bridge.arrays.set handle (array.withBlock bytes) }
    | none => bridge

/-- The `width` bytes at an address. -/
def load (bridge : Bridge) (address : Address) (width : Nat) : Bytes :=
  (bridge.regions address.place).window address.offset width

/-- Write bytes at an address. -/
def store (bridge : Bridge) (address : Address) (bytes : Bytes) : Bridge :=
  bridge.setRegion address.place
    ((bridge.regions address.place).setWindow address.offset bytes)

/-- Give a block of memory to the bridge's caller. -/
def addBlock (bridge : Bridge) (bytes : Bytes) : Nat × Bridge :=
  let (id, blocks) := bridge.blocks.add bytes
  (id, { bridge with blocks })

/-- Take a block of memory back. -/
def eraseBlock (bridge : Bridge) (id : Nat) : Bridge :=
  { bridge with blocks := bridge.blocks.erase id }

/-- Put a changed region of an array back where it belongs: into the array itself if it owns its
block, and into the borrowed place otherwise. -/
def updateArray (bridge : Bridge) (array : Descriptor) (region : Bytes) : Descriptor × Bridge :=
  match array.source with
  | .owned _ => (array.withBlock region, bridge)
  | .borrowed (some address) => (array, bridge.setRegion address.place region)
  | .borrowed none => (array, bridge)

/-- Replace the bytes of an element of an array. -/
def setElement (bridge : Bridge) (array : Descriptor) (index : Index) (bytes : Bytes) :
    Except Fault (Descriptor × Bridge) := do
  let region ← array.setElement (array.region bridge.regions) index bytes
  return bridge.updateArray array region

/-- Write a value into an array. -/
def writeElement (bridge : Bridge) (array : Descriptor) (kind : Kind) (index : Index)
    (value : Value kind) : Except Fault (Descriptor × Bridge) := do
  let region ← array.write (array.region bridge.regions) kind index value
  return bridge.updateArray array region

/-- The events that are logged, once logging has begun. -/
def visible (bridge : Bridge) (events : List Event) : List Event :=
  match bridge.logging with
  | some logging => events.filter logging.filter.admits
  | none => []

end Bridge

/-- A call: it reads and changes the state of the bridge and records events. -/
abbrev Call := StateT Bridge Traced

namespace Call

variable {α β : Type}

theorem result_bind (call : Call α) (next : α → Call β) (bridge : Bridge) :
    ((call >>= next) bridge).result =
      (next (call bridge).result.1 (call bridge).result.2).result := rfl

theorem events_bind (call : Call α) (next : α → Call β) (bridge : Bridge) :
    ((call >>= next) bridge).events =
      (call bridge).events ++ (next (call bridge).result.1 (call bridge).result.2).events := rfl

@[simp]
theorem result_map (f : α → β) (call : Call α) (bridge : Bridge) :
    ((f <$> call) bridge).result = (f (call bridge).result.1, (call bridge).result.2) := rfl

/-- What is made of a result leaves no event. -/
@[simp]
theorem events_map (f : α → β) (call : Call α) (bridge : Bridge) :
    ((f <$> call) bridge).events = (call bridge).events := List.append_nil _

@[simp]
theorem result_modify (f : Bridge → Bridge) (bridge : Bridge) :
    ((modify f : Call Unit) bridge).result = ((), f bridge) := rfl

/-- Record one event. -/
def emit (event : Event) : Call Unit := StateT.lift (Traced.emit event)

/-- Run an attempt that does not touch the state, and yield its outcome. -/
def attempt (run : Attempt α) : Call (Except Fault α) := StateT.lift run.run

@[simp]
theorem result_attempt (run : Attempt α) (bridge : Bridge) :
    (attempt run bridge).result = (run.run.result, bridge) := rfl

@[simp]
theorem events_attempt (run : Attempt α) (bridge : Bridge) :
    (attempt run bridge).events = run.run.events := List.append_nil _

/-- Run a conversion on the host of the bridge, and yield its outcome. -/
def convert (run : Marshal Arena α) : Call (Except Fault α) := fun bridge => do
  let (outcome, exchange) ← run.run bridge.toExchange
  return (outcome, { bridge with toExchange := exchange })

/-- Run a conversion on another host, with the statistics and settings of the bridge. -/
def convertWith {H : Type} (host : H) (run : Marshal H α) : Call (Except Fault α) :=
  fun bridge => do
    let (outcome, exchange) ← run.run ⟨host, bridge.stats, bridge.settings⟩
    return (outcome, { bridge with stats := exchange.stats, settings := exchange.settings })

/-- The settings of the process, which this fixes if they are not fixed yet. -/
def settings : Call Settings :=
  modifyGet fun bridge =>
    (bridge.settings.current.1, { bridge with settings := bridge.settings.current.2 })

/-- A new buffer with the default capacity. -/
def newBuffer [Allocator] (kind : Kind) : Call (Except Fault Buffer) := do
  let settings ← settings
  attempt (Buffer.withCapacity kind settings.defaultCapacity)

/-- A new buffer that holds the elements with the given bytes. The settings are not read if the
bytes are not whole elements. -/
def createBuffer [Allocator] (kind : Kind) (bytes : Bytes) : Call (Except Fault Buffer) := do
  match Buffer.checkWhole kind bytes with
  | .error fault => return .error fault
  | .ok () =>
    let settings ← settings
    attempt (Buffer.create settings.defaultCapacity kind bytes)

/-- A new buffer that holds the given values. -/
def bufferOfValues [Allocator] (kind : Kind) (values : List (Value kind)) :
    Call (Except Fault Buffer) := do
  let settings ← settings
  attempt (Buffer.ofValues settings.defaultCapacity kind values)

end Call

end HostBridge
