import HostBridge.Toml.Node
import HostBridge.Word

/-!
# Numbers, dates and truth values

A bare word is a maximal run of letters, digits and the signs that occur in numbers and dates. It
is a truth value, an integer in one of four bases, a number with a fraction or an exponent, a date,
a time or a date with a time, or it is not a value at all.
-/

namespace HostBridge.Toml

/-- A character that may stand in a bare word. -/
def isWordChar (c : Char) : Bool :=
  c.isAlphanum || c == '_' || c == '+' || c == '-' || c == '.' || c == ':'

/-- The value of a digit in a base of at most sixteen. -/
def digitIn? (base : Nat) (c : Char) : Option Nat :=
  let value :=
    if '0' ≤ c && c ≤ '9' then c.toNat - '0'.toNat
    else if 'a' ≤ c && c ≤ 'f' then c.toNat - 'a'.toNat + 10
    else if 'A' ≤ c && c ≤ 'F' then c.toNat - 'A'.toNat + 10
    else base
  if value < base then some value else none

/-- Extend a number by digits in a base, where a single underscore may stand between two digits.
`separated` tells whether an underscore came last. -/
def extendDigits? (base value : Nat) (separated : Bool) : List Char → Option Nat
  | [] => if separated then none else some value
  | c :: rest =>
    if c = '_' then if separated then none else extendDigits? base value true rest
    else (digitIn? base c).bind fun d => extendDigits? base (base * value + d) false rest

/-- The number denoted by digits in a base. The first and the last character are digits. -/
def digitsIn? (base : Nat) (text : List Char) : Option Nat :=
  match text with
  | c :: rest => (digitIn? base c).bind fun d => extendDigits? base d false rest
  | [] => none

/-- A sign in front of a number, if there is one, and what follows it. -/
def splitSign : List Char → Bool × List Char
  | '-' :: rest => (true, rest)
  | '+' :: rest => (false, rest)
  | text => (false, text)

/-- The number denoted by decimal digits without superfluous zeros in front. -/
def plainDigits? (text : List Char) : Option Nat :=
  match text with
  | ['0'] => some 0
  | '0' :: _ => none
  | _ => digitsIn? 10 text

/-- An integer of 64 bits: a decimal number with an optional sign, or a number in base sixteen,
eight or two. -/
def integer? (text : List Char) : Option Int := do
  let value : Int ←
    match text with
    | '0' :: 'x' :: digits => (digitsIn? 16 digits).map fun n => (n : Int)
    | '0' :: 'o' :: digits => (digitsIn? 8 digits).map fun n => (n : Int)
    | '0' :: 'b' :: digits => (digitsIn? 2 digits).map fun n => (n : Int)
    | _ =>
      let (negative, digits) := splitSign text
      (plainDigits? digits).map fun n => if negative then -(n : Int) else n
  if Word.Fits 64 value then some value else none

/-- The number of decimal digits of a number. -/
def decimalLength (n : Nat) : Nat := (Nat.toDigits 10 n).length

/-- Whether `digits * 10 ^ exponent` is so large that it rounds to infinity as a floating-point
number of 64 bits. -/
def roundsToInfinity (digits : Nat) (exponent : Int) : Bool :=
  if digits = 0 then false
  else
    let size := decimalLength digits + exponent
    if size < 309 then false
    else if 310 < size then true
    else
      let bound := twoPow 1024 - twoPow 970
      if 0 ≤ exponent then decide (bound ≤ digits * Nat.pow 10 exponent.toNat)
      else decide (bound * Nat.pow 10 (-exponent).toNat ≤ digits)

/-- An exponent, after its letter: an optional sign and decimal digits. -/
def exponent? (text : List Char) : Option Int :=
  let (negative, digits) := splitSign text
  (digitsIn? 10 digits).map fun n => if negative then -(n : Int) else n

/-- Split a text at the first character that satisfies a test, which is left out. -/
def cutAt (test : Char → Bool) (text : List Char) : List Char × Option (List Char) :=
  match text.dropWhile fun c => !test c with
  | _ :: rest => (text.takeWhile fun c => !test c, some rest)
  | [] => (text, none)

/-- Whether a word is a number with a fraction or an exponent, an infinity or no number. A positive
number that is too large is refused. -/
def isFloat (text : List Char) : Bool :=
  let (negative, unsigned) := splitSign text
  if unsigned = ['i', 'n', 'f'] || unsigned = ['n', 'a', 'n'] then true
  else
    let (mantissa, exponentPart) := cutAt (fun c => c == 'e' || c == 'E') unsigned
    let (whole, fractionPart) := cutAt (· == '.') mantissa
    let value : Option (Nat × Int) := do
      let wholeValue ← plainDigits? whole
      let (digits, places) ← match fractionPart with
        | some fraction => do
          let fractionValue ← digitsIn? 10 fraction
          let places := (fraction.filter (· != '_')).length
          some (wholeValue * Nat.pow 10 places + fractionValue, places)
        | none => some (wholeValue, 0)
      let exponent ← match exponentPart with
        | some exponent => exponent? exponent
        | none => if fractionPart.isSome then some 0 else none
      some (digits, exponent - places)
    match value with
    | some (digits, exponent) => negative || !roundsToInfinity digits exponent
    | none => false

/-- The number denoted by exactly `count` decimal digits at the front of a text, and the rest. -/
def fixedDigits? (count : Nat) (text : List Char) : Option (Nat × List Char) := do
  let digits ← (text.take count).mapM (digitIn? 10)
  if digits.length = count then
    some (digits.foldl (fun value d => 10 * value + d) 0, text.drop count)
  else none

/-- A two-digit number within bounds at the front of a text, and the rest. -/
def bounded? (low high : Nat) (text : List Char) : Option (Nat × List Char) :=
  (fixedDigits? 2 text).filter fun (value, _) => low ≤ value && value ≤ high

/-- What follows a given character. -/
def after? (c : Char) : List Char → Option (List Char)
  | d :: rest => if d = c then some rest else none
  | [] => none

/-- The number of days of a month. -/
def daysIn (year month : Nat) : Nat :=
  if month = 2 then
    if year % 4 = 0 ∧ (year % 100 ≠ 0 ∨ year % 400 = 0) then 29 else 28
  else if month = 4 ∨ month = 6 ∨ month = 9 ∨ month = 11 then 30
  else 31

/-- What follows a date at the front of a text. -/
def afterDate? (text : List Char) : Option (List Char) := do
  let (year, rest) ← fixedDigits? 4 text
  let (month, rest) ← bounded? 1 12 (← after? '-' rest)
  let (_, rest) ← bounded? 1 (daysIn year month) (← after? '-' rest)
  return rest

/-- What follows a time of day at the front of a text. A minute may have a leap second. -/
def afterTime? (text : List Char) : Option (List Char) := do
  let (_, rest) ← bounded? 0 23 text
  let (_, rest) ← bounded? 0 59 (← after? ':' rest)
  let (_, rest) ← bounded? 0 60 (← after? ':' rest)
  match rest with
  | '.' :: fraction =>
    if (fraction.head?.bind (digitIn? 10)).isSome then
      some (fraction.dropWhile fun c => (digitIn? 10 c).isSome)
    else none
  | _ => some rest

/-- Whether a text is empty or the distance of a time from universal time. -/
def isZone (text : List Char) : Bool :=
  match text with
  | [] | ['Z'] | ['z'] => true
  | sign :: rest =>
    (sign == '+' || sign == '-') &&
      (do
        let (_, rest) ← bounded? 0 23 rest
        let (_, rest) ← bounded? 0 59 (← after? ':' rest)
        if rest.isEmpty then some () else none).isSome

/-- Whether a word is a time of day, which has no zone. -/
def isTime (text : List Char) : Bool := (afterTime? text).any (·.isEmpty)

/-- Whether a word is a time of day with an optional zone. -/
def isZonedTime (text : List Char) : Bool := (afterTime? text).any isZone

/-- Whether a word is a date, alone or joined to a time by a letter. -/
def isDate (text : List Char) : Bool :=
  match afterDate? text with
  | some [] => true
  | some (mark :: rest) => (mark == 'T' || mark == 't') && isZonedTime rest
  | none => false

/-- Whether a word is a date and nothing else. -/
def isPlainDate (text : List Char) : Bool := (afterDate? text).any (·.isEmpty)

/-- The value that a bare word denotes. -/
def scalar? (text : List Char) : Option Node :=
  if text = ['t', 'r', 'u', 'e'] then some (.boolean true)
  else if text = ['f', 'a', 'l', 's', 'e'] then some (.boolean false)
  else if isDate text || isTime text then some .datetime
  else if isFloat text then some .float
  else (integer? text).map .integer

end HostBridge.Toml
