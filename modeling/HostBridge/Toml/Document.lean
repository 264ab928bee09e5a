import HostBridge.Toml.Scalar
import HostBridge.Toml.Scan

/-!
# Reading a document

A document is a sequence of lines: blank lines and comments, headers of tables, and keys with
values. Values nest by brackets and braces, to a bounded depth. The lines below a header belong to
its table.
-/

namespace HostBridge.Toml

/-- Values may nest less deep than this, and a dotted key must have fewer parts. -/
def depthLimit : Nat := 80

/-- A character of a key without quotes. -/
def isKeyChar (c : Char) : Bool := c.isAlphanum || c == '_' || c == '-'

/-- One part of a key. -/
def keyPart : Reader String := do
  match ← Reader.peek with
  | some '"' => basicString
  | some '\x27' => literalString
  | _ =>
    let word ← Reader.takeWhile isKeyChar
    if word.isEmpty then failure
    return String.ofList word

/-- The parts of a key, separated by dots, with blanks around them. -/
def keyParts : (fuel : Nat) → Reader (List String)
  | 0 => failure
  | fuel + 1 => do
    blanks
    let part ← keyPart
    blanks
    if ← Reader.accept '.' then return part :: (← keyParts fuel)
    return [part]

/-- A key: the path to a table and the name in it. -/
def key : Reader (List String × String) := do
  let parts ← keyParts ((← get).length + 1)
  if depthLimit ≤ parts.length then failure
  match parts.getLast? with
  | some name => return (parts.dropLast, name)
  | none => failure

/-- A value that is neither a string nor a list nor a table. A date may be followed by a blank and
a time. -/
def bareValue : Reader Node := do
  let word ← Reader.takeWhile isWordChar
  match scalar? word with
  | none => failure
  | some node =>
    if isPlainDate word then
      match ← get with
      | ' ' :: rest =>
        let time := rest.takeWhile isWordChar
        if isZonedTime time then set (rest.drop time.length)
      | _ => pure ()
    return node

mutual

/-- A value, where lists and tables may nest `depth` levels deep. -/
def value (depth : Nat) : (fuel : Nat) → Reader Node
  | 0 => failure
  | fuel + 1 => do
    match ← Reader.peek with
    | some '"' | some '\x27' => return .string (← anyString)
    | some '[' =>
      if depth ≤ 1 then failure
      Reader.expect '['
      return .array (← items (depth - 1) fuel)
    | some '\x7b' =>
      if depth ≤ 1 then failure
      Reader.expect '\x7b'
      blanks
      let values ← if ← Reader.accept '\x7d' then pure [] else pairs (depth - 1) fuel
      match inlineTable values with
      | some node => return node
      | none => failure
    | _ => bareValue

/-- The values of a list, up to its closing bracket. A comma may follow the last one. -/
def items (depth : Nat) : (fuel : Nat) → Reader (List Node)
  | 0 => failure
  | fuel + 1 => do
    skipFiller
    if ← Reader.accept ']' then return []
    let first ← value depth fuel
    skipFiller
    if ← Reader.accept ',' then return first :: (← items depth fuel)
    Reader.expect ']'
    return [first]

/-- The keys and values of a table between braces, up to its closing brace. They stand on one
line, and no comma follows the last one. -/
def pairs (depth : Nat) : (fuel : Nat) → Reader (List (List String × String × Node))
  | 0 => failure
  | fuel + 1 => do
    let (path, name) ← key
    Reader.expect '='
    blanks
    let node ← value depth fuel
    blanks
    if ← Reader.accept ',' then return (path, name, node) :: (← pairs depth fuel)
    Reader.expect '\x7d'
    return [(path, name, node)]

end

/-- A value, to the greatest depth. Every level and every member takes at least one character. -/
def anyValue : Reader Node := do value depthLimit (2 * (← get).length + 2)

/-- A line that means something. -/
inductive Line where
  /-- A key and its value. -/
  | pair (path : List String) (name : String) (node : Node)
  /-- The header of a table. -/
  | header (path : List String) (name : String)
  /-- The header of one more table of a list. -/
  | listHeader (path : List String) (name : String)

/-- Read the next line that means something, or the end of the text. -/
def line : Reader (Option Line) := do
  skipFiller
  match ← Reader.peek with
  | none => return none
  | some '[' =>
    let list ← Reader.acceptAll ['[', '[']
    if !list then Reader.expect '['
    let (path, name) ← key
    Reader.expect ']'
    if list then Reader.expect ']'
    lineEnd
    return some (if list then .listHeader path name else .header path name)
  | some _ =>
    let (path, name) ← key
    Reader.expect '='
    blanks
    let node ← anyValue
    lineEnd
    return some (.pair path name node)

/-- All lines that mean something, up to the end of the text. -/
def lines : (fuel : Nat) → Reader (List Line)
  | 0 => failure
  | fuel + 1 => do
    match ← line with
    | some first => return first :: (← lines fuel)
    | none => return []

/-- The state of a document that has been read up to some line. -/
structure Progress where
  /-- All tables that are complete. -/
  root : Table
  /-- The table that lines are being added to. -/
  current : Table
  /-- The path and the name of that table; the table at the top of the document has none. -/
  target : Option (List String × String)
  /-- Whether that table belongs to a list of tables. -/
  inList : Bool

namespace Progress

/-- A document of which nothing has been read. -/
def start : Progress := ⟨⟨⟨false, false⟩, []⟩, ⟨⟨false, false⟩, []⟩, none, false⟩

/-- Put the table that lines were added to where it belongs. -/
def finish (progress : Progress) : Option Table :=
  match progress.target with
  | none => some progress.current
  | some (path, name) =>
    progress.root.descend false (fun parent =>
      let entries := parent.entries
      let current := progress.current
      if progress.inList then
        match entries.find? name with
        | none => some { parent with entries := entries.put name (.tables [current.entries]) }
        | some (.tables items) =>
          some { parent with entries := entries.put name (.tables (items ++ [current.entries])) }
        | some _ => none
      else
        match entries.find? name with
        | none =>
          some { parent with entries := entries.put name (.table current.origin current.entries) }
        | some _ => none) path

/-- The entries of the table that a path leads to; a table not yet mentioned has none. -/
def entriesAt? (entries : Entries) : List String → Option Entries
  | [] => some entries
  | key :: path =>
    match entries.find? key with
    | none => some []
    | some (.table _ inner) => entriesAt? inner path
    | some (.tables items) => items.getLast?.bind fun last => entriesAt? last path
    | some _ => none

/-- Begin a table with a header. A table that was only mentioned before keeps what it holds. -/
def beginTable (root : Table) (path : List String) (name : String) : Option Progress := do
  let inner : Option Table := do
    let parent ← entriesAt? root.entries path
    match parent.find? name with
    | none => some ⟨⟨false, false⟩, []⟩
    | some (.table origin entries) =>
      if origin.implicit && !origin.dotted then some ⟨⟨false, false⟩, entries⟩ else none
    | some _ => none
  let root ← root.descend false (fun parent =>
    some { parent with entries := parent.entries.erase name }) path
  return ⟨root, ← inner, some (path, name), false⟩

/-- Begin one more table of a list. -/
def beginListTable (root : Table) (path : List String) (name : String) : Option Progress := do
  let root ← root.descend false (fun parent =>
    match parent.entries.find? name with
    | none | some (.tables _) => some parent
    | some _ => none) path
  return ⟨root, ⟨⟨false, false⟩, []⟩, some (path, name), true⟩

/-- Take one line into account. -/
def step (progress : Progress) : Line → Option Progress
  | .pair path name node => do
    return { progress with current := ← progress.current.addValue path name node }
  | .header path name => do beginTable (← progress.finish) path name
  | .listHeader path name => do beginListTable (← progress.finish) path name

end Progress

/-- Read a whole document. A byte order mark in front of it is skipped. -/
def document? (source : String) : Option Entries := do
  let text := match source.toList with
    | c :: rest => if c.toNat = 0xFEFF then rest else c :: rest
    | [] => []
  let (found, rest) ← (lines (text.length + 1)).run text
  if !rest.isEmpty then failure
  let progress ← found.foldlM Progress.step Progress.start
  return (← progress.finish).entries

end HostBridge.Toml
