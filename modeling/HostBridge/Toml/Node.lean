/-!
# Trees of a settings document

A document is a tree of tables. While it is read, a table remembers how it came about, because
that decides whether a later line may add to it: a table that was only mentioned on the way to
another one may still be given a header, and a table made by dotted keys may still be given more
dotted keys, but nothing may be defined twice.
-/

namespace HostBridge.Toml

/-- How a table came about. -/
structure Origin where
  /-- The table was only mentioned on the way to another one. -/
  implicit : Bool
  /-- The table was made by a dotted key. -/
  dotted : Bool
  deriving DecidableEq

/-- A node of the tree. Numbers with a fraction and dates are kept without their value, since no
setting has such a type. -/
inductive Node where
  /-- A text. -/
  | string (value : String)
  /-- An integer of 64 bits. -/
  | integer (value : Int)
  /-- A number with a fraction or an exponent, an infinity or no number. -/
  | float
  /-- A truth value. -/
  | boolean (value : Bool)
  /-- A date, a time or both. -/
  | datetime
  /-- A list of values between brackets. -/
  | array (items : List Node)
  /-- A table between braces. -/
  | inline (origin : Origin) (entries : List (String × Node))
  /-- A table with a header or made by dotted keys. -/
  | table (origin : Origin) (entries : List (String × Node))
  /-- A list of tables that share a header, each as its entries. -/
  | tables (items : List (List (String × Node)))

/-- The entries of a table in the order of their lines. -/
abbrev Entries := List (String × Node)

namespace Entries

/-- The node under a key. -/
def find? (entries : Entries) (key : String) : Option Node := entries.lookup key

/-- Replace the node under a key, or add it at the end. -/
def put (entries : Entries) (key : String) (node : Node) : Entries :=
  if entries.any (·.1 == key) then
    entries.map fun entry => if entry.1 == key then (key, node) else entry
  else entries ++ [(key, node)]

/-- Remove the node under a key. -/
def erase (entries : Entries) (key : String) : Entries := entries.filter (·.1 != key)

end Entries

/-- A table under construction: how it came about and what it holds. -/
structure Table where
  /-- How the table came about. -/
  origin : Origin
  /-- What it holds. -/
  entries : Entries

/-- Change the table that a path of keys leads to. Tables on the way are made if they are missing;
`dotted` tells whether the path belongs to a dotted key. A list of tables leads on to its last
table, and a dotted key does not lead into a table that has a header. -/
def Table.descend (table : Table) (dotted : Bool) (change : Table → Option Table) :
    List String → Option Table
  | [] => change table
  | key :: path => do
    let entries := table.entries
    let into (child : Table) : Option Table := child.descend dotted change path
    match entries.find? key with
    | none =>
      let child ← into ⟨⟨true, dotted⟩, []⟩
      return { table with entries := entries.put key (.table child.origin child.entries) }
    | some (.table origin inner) =>
      if dotted && !origin.implicit then none
      else
        let child ← into ⟨origin, inner⟩
        return { table with entries := entries.put key (.table child.origin child.entries) }
    | some (.tables items) =>
      let last ← items.getLast?
      let child ← into ⟨⟨false, false⟩, last⟩
      return { table with
        entries := entries.put key (.tables (items.dropLast ++ [child.entries])) }
    | some _ => none

/-- Add a value under a new key. A dotted key adds to a table of dotted keys only, and a plain key
to any other table only. -/
def Table.addEntry (table : Table) (dotted : Bool) (key : String) (node : Node) : Option Table :=
  if table.origin.dotted != dotted then none
  else if (table.entries.find? key).isSome then none
  else some { table with entries := table.entries ++ [(key, node)] }

/-- Add a value under a path of keys and a last key. -/
def Table.addValue (table : Table) (path : List String) (key : String) (node : Node) :
    Option Table :=
  table.descend (!path.isEmpty) (fun inner => inner.addEntry (!path.isEmpty) key node) path

/-- Change the inline table that a path of keys leads to. -/
def Table.descendInline (table : Table) (change : Table → Option Table) :
    List String → Option Table
  | [] => change table
  | key :: path => do
    let entries := table.entries
    let into (child : Table) : Option Table := child.descendInline change path
    match entries.find? key with
    | none =>
      let child ← into ⟨⟨true, true⟩, []⟩
      return { table with entries := entries.put key (.inline child.origin child.entries) }
    | some (.inline origin inner) =>
      if !origin.implicit then none
      else
        let child ← into ⟨origin, inner⟩
        return { table with entries := entries.put key (.inline child.origin child.entries) }
    | some _ => none

/-- The table between braces that holds the given values, each under a path and a last key. -/
def inlineTable (values : List (List String × String × Node)) : Option Node := do
  let table ← values.foldlM (fun (table : Table) (path, key, node) =>
    table.descendInline (fun inner => inner.addEntry (!path.isEmpty) key node) path)
    ⟨⟨false, false⟩, []⟩
  return .inline table.origin table.entries

end HostBridge.Toml
