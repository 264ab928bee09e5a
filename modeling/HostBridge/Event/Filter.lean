import HostBridge.Event
import HostBridge.Numeral
import HostBridge.Text.Alphanumeric
import HostBridge.Text.Blank

/-!
# Filters of events

A filter decides which events are logged. It is written as rules separated by commas. A rule may
name the origin of the events that it speaks of, a span and a field in brackets, and after an equals
sign the limit up to which it lets them through:

* `info` lets through every event up to level `info`;
* `pyrt::host=trace` speaks of the events whose origin starts with `pyrt::host`;
* `pyrt[{kind}]=debug` speaks of those that moreover have a field `kind`.

Of the rules that speak of an event the most specific one decides, and of two rules that speak of
the same events the later one. An event that no rule speaks of is not logged.
-/

namespace HostBridge

/-- Up to where a rule lets events through. -/
inductive Limit where
  /-- No event passes. -/
  | off
  /-- The events of a level, and the more severe ones, pass. -/
  | upTo (level : Level)
  deriving DecidableEq

namespace Limit

/-- Whether events of a level pass. -/
def admits : Limit → Level → Bool
  | off, _ => false
  | upTo limit, level => limit.passes level

/-- The name of a limit. -/
def name : Limit → String
  | off => "OFF"
  | upTo level => level.name

/-- Every limit. A limit may be written as its position in this list. -/
def all : List Limit := [off, upTo .error, upTo .warn, upTo .info, upTo .debug, upTo .trace]

/-- The limit that a text denotes: a position, or a name in any case. -/
def ofText? (text : List Char) : Option Limit :=
  match Numeral.word? text with
  | some position => all[position]?
  | none => all.find? fun limit => limit.name.toList == text.map Char.toUpper

end Limit

/-- What a rule demands of the fields of an event or a span. -/
structure FieldTest where
  /-- The name of the field. -/
  name : String
  /-- Whether the rule also demands a value. -/
  hasValue : Bool
  deriving DecidableEq

/-- Read a demand: a name, or a name and a value around an equals sign. -/
def FieldTest.ofText (text : List Char) : FieldTest :=
  { name := String.ofList (text.takeWhile (· != '=')), hasValue := text.contains '=' }

/-- A rule of a filter. -/
structure FilterRule where
  /-- What the origin of an event has to start with. -/
  origin : Option String := none
  /-- The name of a span that has to be open. -/
  span : Option String := none
  /-- A field that has to be there. -/
  field : Option FieldTest := none
  /-- Up to where events pass. -/
  limit : Limit := .upTo .trace
  deriving DecidableEq

namespace FilterRule

/-- Whether a character may begin the origin or the limit with which a rule begins. -/
def isNameStart (c : Char) : Bool :=
  c == '-' || c == ':' || c == '_' || Text.isAlphanumeric c

/-- The piece of a text from one position up to another. -/
def piece (text : List Char) (start stop : Nat) : List Char := (text.take stop).drop start

/-- Complete a rule by a limit. The empty text lets everything through. -/
def withLimit? (rule : FilterRule) (text : List Char) : Option FilterRule :=
  if text.isEmpty then some { rule with limit := .upTo .trace }
  else (Limit.ofText? text).map fun limit => { rule with limit }

/-- The rule that a text without further parts denotes: a limit for all events, or else an origin
all of whose events pass. -/
def ofName (text : List Char) : FilterRule :=
  match Limit.ofText? text with
  | some limit => { limit }
  | none => { origin := some (String.ofList text) }

/-- Complete a rule after its brackets. Here and below, `rest` is what is still to be read, `start`
is its position, and `text` is what pieces are cut from. -/
def readLimit? (text : List Char) (rule : FilterRule) (start : Nat) (rest : List Char) :
    Option FilterRule :=
  match rest with
  | [] => some rule
  | '=' :: _ => rule.withLimit? (text.drop (start + 1))
  | _ => none

/-- Complete a rule from the name of a field on. -/
def readField? (text : List Char) (rule : FilterRule) (start : Nat) (rest : List Char) :
    Option FilterRule :=
  let stop := start + (rest.takeWhile (· != '\x7d')).length
  match rest.dropWhile (· != '\x7d') with
  | '\x7d' :: ']' :: rest =>
    if stop = start then none
    else
      let field := FieldTest.ofText (piece text start stop)
      readLimit? text { rule with field := some field } (stop + 2) rest
  | _ => none

/-- Complete a rule from the name of a span on. The name may only be left out before a field. -/
def readSpan? (text : List Char) (rule : FilterRule) (start : Nat) (rest : List Char) :
    Option FilterRule :=
  let inName (c : Char) : Bool := c != ']' && c != '\x7b'
  let stop := start + (rest.takeWhile inName).length
  let span := some (String.ofList (piece text start stop))
  match rest.dropWhile inName with
  | ']' :: rest => readLimit? text { rule with span } (stop + 1) rest
  | '\x7b' :: rest =>
    readField? text { rule with span := if stop = start then none else span } (stop + 1) rest
  | _ => none

/-- Read a rule. It is divided without the blanks around it, but its pieces are cut at the positions
thus found from the text as it stands; so a rule with a limit must not follow a blank. -/
def ofText? (text : List Char) : Option FilterRule :=
  let body := Text.trim text
  let inName (c : Char) : Bool := c != '=' && c != '['
  let stop := (body.takeWhile inName).length
  let named : FilterRule := { origin := some (String.ofList (piece text 0 stop)) }
  match body with
  | [] => none
  | '[' :: rest => readSpan? text {} 1 rest
  | first :: _ =>
    if isNameStart first then
      match body.drop stop with
      | [] => some (ofName text)
      | '[' :: rest => readSpan? text named (stop + 1) rest
      | _ => named.withLimit? (text.drop (stop + 1))
    else none

/-- Whether a rule speaks of an event. No event lies in a span, and the fields of an event are told
by their names alone, so a rule that demands a span or a value speaks of none. -/
def covers (rule : FilterRule) (event : Event) : Bool :=
  rule.span.isNone &&
  rule.origin.all (fun origin => origin.toList.isPrefixOf event.origin.toList) &&
  rule.field.all fun field => !field.hasValue && event.fieldNames.contains field.name

/-- Whether a rule is more specific than another one that speaks of the same event: it names more
of the origin, or else it alone names a field, or else it names the field that comes later in the
alphabet. -/
def precedes (rule other : FilterRule) : Bool :=
  let length (rule : FilterRule) : Nat := (rule.origin.map String.length).getD 0
  if length rule = length other then
    match rule.field, other.field with
    | some field, some otherField => otherField.name < field.name
    | some _, none => true
    | none, _ => false
  else length other < length rule

end FilterRule

/-- A filter of events: its rules, in the order in which they are written. -/
structure EventFilter where
  /-- The rules. -/
  rules : List FilterRule
  deriving DecidableEq

namespace EventFilter

/-- The filter that lets through the events of the library up to a level. -/
def upTo (level : Level) : EventFilter :=
  { rules := [{ origin := some "pyrt", limit := .upTo level }] }

/-- Read a filter. Rules may be empty, but one that cannot be read spoils the filter. -/
def ofText? (text : String) : Option EventFilter :=
  let pieces := (text.splitOn ",").filter (· != "")
  (pieces.mapM fun piece => FilterRule.ofText? piece.toList).map fun rules => { rules }

/-- The rule that decides on an event. -/
def decisive? (filter : EventFilter) (event : Event) : Option FilterRule :=
  (filter.rules.filter (·.covers event)).foldl
    (fun best rule => if best.any (·.precedes rule) then best else some rule) none

/-- Whether an event passes. -/
def admits (filter : EventFilter) (event : Event) : Bool :=
  (filter.decisive? event).any (·.limit.admits event.level)

end EventFilter

end HostBridge
