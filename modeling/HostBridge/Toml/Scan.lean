import HostBridge.Toml.Node

/-!
# Reading characters, blanks and strings

A reader takes some characters from the front of a text and yields what they mean, or fails. This
module reads blanks, comments, line ends and the four forms of strings.
-/

namespace HostBridge.Toml

/-- A reader of values of type `α`. -/
abbrev Reader := StateT (List Char) Option

namespace Reader

/-- The next character, which stays where it is. -/
def peek : Reader (Option Char) := do return (← get).head?

/-- Take the next character if it is the given one, and tell whether it was. -/
def accept (c : Char) : Reader Bool := do
  match ← get with
  | d :: rest => if d = c then do set rest; return true else return false
  | [] => return false

/-- Take the given character. -/
def expect (c : Char) : Reader Unit := do
  if !(← accept c) then failure

/-- Take the longest run of characters that satisfy a test. -/
def takeWhile (test : Char → Bool) : Reader (List Char) := do
  let text ← get
  set (text.dropWhile test)
  return text.takeWhile test

/-- Take the given text if it comes next, and tell whether it did. -/
def acceptAll (word : List Char) : Reader Bool := do
  let text ← get
  if word.isPrefixOf text then do
    set (text.drop word.length)
    return true
  else return false

end Reader

/-- A space or a tab. -/
def isBlank (c : Char) : Bool := c == ' ' || c == '\t'

/-- A character that may stand in a line: a tab, or anything that is not a control character. -/
def isLineChar (c : Char) : Bool :=
  c == '\t' || (' ' ≤ c && c ≤ '~') || 0x80 ≤ c.toNat

/-- Skip blanks. -/
def blanks : Reader Unit := do
  let _ ← Reader.takeWhile isBlank

/-- Take a line feed, with or without a carriage return before it, and tell whether one came. -/
def acceptNewline : Reader Bool := do
  if ← Reader.accept '\n' then return true
  Reader.acceptAll ['\r', '\n']

/-- Skip a comment up to the end of its line, if one begins here. -/
def comment : Reader Unit := do
  if ← Reader.accept '#' then
    let _ ← Reader.takeWhile isLineChar

/-- Skip blanks and a comment up to the end of the line, which may be the end of the text. -/
def lineEnd : Reader Unit := do
  blanks
  comment
  if !(← acceptNewline) then
    if (← Reader.peek).isSome then failure

/-- Skip blanks, comments and line ends. -/
def filler : (fuel : Nat) → Reader Unit
  | 0 => return ()
  | fuel + 1 => do
    blanks
    comment
    if ← acceptNewline then filler fuel

/-- Skip blanks, comments and line ends, as many as there are. -/
def skipFiller : Reader Unit := do filler ((← get).length + 1)

/-- The value of a digit in base sixteen. -/
def hexDigit? (c : Char) : Option Nat :=
  if '0' ≤ c && c ≤ '9' then some (c.toNat - '0'.toNat)
  else if 'a' ≤ c && c ≤ 'f' then some (c.toNat - 'a'.toNat + 10)
  else if 'A' ≤ c && c ≤ 'F' then some (c.toNat - 'A'.toNat + 10)
  else none

/-- The character whose code point is written in the next `count` digits. -/
def codePoint (count : Nat) : Reader Char := do
  let text ← get
  let digits ← ((text.take count).mapM hexDigit? : Option (List Nat))
  if digits.length ≠ count then failure
  let code := digits.foldl (fun code d => 16 * code + d) 0
  if code.isValidChar then
    set (text.drop count)
    return Char.ofNat code
  else failure

/-- The character that an escape stands for, after its backslash. -/
def escaped : Reader Char := do
  match ← get with
  | 'b' :: rest => set rest; return '\x08'
  | 't' :: rest => set rest; return '\t'
  | 'n' :: rest => set rest; return '\n'
  | 'f' :: rest => set rest; return '\x0c'
  | 'r' :: rest => set rest; return '\r'
  | '"' :: rest => set rest; return '"'
  | '\\' :: rest => set rest; return '\\'
  | 'u' :: rest => set rest; codePoint 4
  | 'U' :: rest => set rest; codePoint 8
  | _ => failure

/-- The rest of a string on one line, up to its closing double quote. -/
def basicRest : (fuel : Nat) → Reader (List Char)
  | 0 => failure
  | fuel + 1 => do
    match ← get with
    | '"' :: rest => set rest; return []
    | '\\' :: rest =>
      set rest
      let c ← escaped
      return c :: (← basicRest fuel)
    | c :: rest =>
      if isLineChar c then
        set rest
        return c :: (← basicRest fuel)
      else failure
    | [] => failure

/-- Skip blanks and line ends. -/
def blankLines : (fuel : Nat) → Reader Unit
  | 0 => return ()
  | fuel + 1 => do
    blanks
    if ← acceptNewline then blankLines fuel

/-- Skip blanks and line ends, at least one of the latter, after a backslash at the end of a
line. -/
def continuation : Reader Unit := do
  blanks
  if !(← acceptNewline) then failure
  blankLines ((← get).length + 1)

/-- The quotes that stand at the end of a string over several lines: of a run of three, four or
five quotes the last three close the string. -/
def closing (quote : Char) (run : Nat) : Reader (List Char) := do
  let count := min run 5
  set ((← get).drop count)
  return List.replicate (count - 3) quote

/-- The rest of a string over several lines, up to its three closing quotes. Escapes count between
double quotes only, and every line end is read as a line feed. -/
def multilineRest (quote : Char) (escapes : Bool) : (fuel : Nat) → Reader (List Char)
  | 0 => failure
  | fuel + 1 => do
    let text ← get
    let run := (text.takeWhile (· == quote)).length
    if 3 ≤ run then closing quote run
    else if ← acceptNewline then return '\n' :: (← multilineRest quote escapes fuel)
    else
      match text with
      | '\\' :: rest =>
        set rest
        if escapes then
          match (continuation.run rest : Option (Unit × List Char)) with
          | some (_, rest) =>
            set rest
            multilineRest quote escapes fuel
          | none =>
            let c ← escaped
            return c :: (← multilineRest quote escapes fuel)
        else return '\\' :: (← multilineRest quote escapes fuel)
      | c :: rest =>
        if isLineChar c then
          set rest
          return c :: (← multilineRest quote escapes fuel)
        else failure
      | [] => failure

/-- A string on one line, between double quotes. -/
def basicString : Reader String := do
  Reader.expect '"'
  return String.ofList (← basicRest ((← get).length + 1))

/-- A string on one line, between single quotes, without escapes. -/
def literalString : Reader String := do
  Reader.expect '\x27'
  let content ← Reader.takeWhile fun c => isLineChar c && c != '\x27'
  Reader.expect '\x27'
  return String.ofList content

/-- A string over several lines, after its three opening quotes. A line end right after them is
left out. -/
def multilineString (quote : Char) (escapes : Bool) : Reader String := do
  let _ ← acceptNewline
  return String.ofList (← multilineRest quote escapes ((← get).length + 1))

/-- A string in any of its four forms. -/
def anyString : Reader String := do
  if ← Reader.acceptAll ['"', '"', '"'] then multilineString '"' true
  else if ← Reader.acceptAll ['\x27', '\x27', '\x27'] then multilineString '\x27' false
  else if (← Reader.peek) = some '"' then basicString
  else literalString

end HostBridge.Toml
