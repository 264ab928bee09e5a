import HostBridge.Bytes
import HostBridge.Settings.Basic
import HostBridge.Toml.Document

/-!
# Settings from a document

The document has a table for each group of settings. Unknown keys are ignored and missing ones keep
their defaults, but a setting must have the right type. A group may also be given as a list of its
settings in their fixed order.
-/

namespace HostBridge.Settings

/-- A group of settings: from the name and the position of a setting to its node, if present. -/
abbrev Group := String → Nat → Option Toml.Node

/-- Read a node as a group. A date is a group of its own in which no setting is present. -/
def group? : Toml.Node → Option Group
  | .datetime => some fun _ _ => none
  | .table _ entries | .inline _ entries => some fun name _ => Toml.Entries.find? entries name
  | .array items => some fun _ position => items[position]?
  | .tables items =>
    some fun _ position => items[position]?.map fun entries => .table ⟨false, false⟩ entries
  | _ => none

/-- Read a setting of a group, which keeps its default when it is missing. -/
def Group.setting {α : Type} (group : Group) (name : String) (position : Nat)
    (read : Toml.Node → Option α) (default : α) : Option α :=
  match group name position with
  | some node => read node
  | none => some default

/-- Read an unsigned word. -/
def word? : Toml.Node → Option Nat
  | .integer value => if 0 ≤ value then some value.toNat else none
  | _ => none

/-- Read a text. -/
def text? : Toml.Node → Option String
  | .string value => some value
  | _ => none

/-- Read a truth value. -/
def flag? : Toml.Node → Option Bool
  | .boolean value => some value
  | _ => none

/-- The order with the given name. -/
def namedOrder? (name : String) : Option Order :=
  if name = "row-major" then some .rowMajor
  else if name = "column-major" then some .columnMajor
  else none

/-- Whether a node is a table or a list that holds nothing. -/
def isVoid : Toml.Node → Bool
  | .array items => items.isEmpty
  | .table _ entries | .inline _ entries => entries.isEmpty
  | .tables items => items.isEmpty
  | _ => false

/-- Read an order: its name, or a table whose only key is its name and holds nothing. -/
def order? : Toml.Node → Option Order
  | .string name => namedOrder? name
  | .table _ [(name, node)] | .inline _ [(name, node)] =>
    if isVoid node then namedOrder? name else none
  | _ => none

/-- Read what is logged, and where. -/
def log? (node : Toml.Node) : Option LogSettings := do
  let group ← group? node
  let defaults : LogSettings := {}
  return {
    level := ← group.setting "level" 0 text? defaults.level
    path := ← group.setting "log_path" 1 (fun node => (text? node).map some) defaults.path
    json := ← group.setting "json_format" 2 flag? defaults.json
    spans := ← group.setting "show_spans" 3 flag? defaults.spans }

/-- Read the groups of a document. -/
def ofEntries? (entries : Toml.Entries) : Option Settings := do
  let defaults : Settings := {}
  let top : Group := fun name _ => entries.find? name
  return {
    defaultCapacity := ← top.setting "buffer" 0
      (fun node => (group? node).bind fun group =>
        group.setting "default_capacity" 0 word? defaults.defaultCapacity)
      defaults.defaultCapacity
    order := ← top.setting "array" 1
      (fun node => (group? node).bind fun group =>
        group.setting "default_order" 0 order? defaults.order)
      defaults.order
    log := ← top.setting "log" 2 log? defaults.log }

/-- Valid settings from the text of a document. -/
def ofText (source : String) : Except SettingsError Settings := do
  match (Toml.document? source).bind ofEntries? with
  | none => throw .malformed
  | some settings =>
    settings.validate
    return settings

/-- Valid settings from the bytes of a file, or from a file that does not exist. -/
def ofFile (content : Option Bytes) : Except SettingsError Settings :=
  match content with
  | none => throw .missing
  | some bytes =>
    match String.fromUTF8? ⟨bytes.toArray⟩ with
    | some source => ofText source
    | none => throw .notText

end HostBridge.Settings
