import HostBridge.Word

/-!
# Decimal numerals

Unsigned words are read from text made of an optional plus sign and at least one decimal digit.
Leading zeros are allowed; a value that does not fit in a word is refused.
-/

namespace HostBridge.Numeral

/-- The value of one decimal digit. -/
def digit? (c : Char) : Option Nat :=
  if '0' ≤ c ∧ c ≤ '9' then some (c.toNat - '0'.toNat) else none

/-- The value of a string of digits in base ten that extends the number `value`. -/
def digitsFrom? (value : Nat) : List Char → Option Nat
  | [] => some value
  | c :: rest => (digit? c).bind fun d => digitsFrom? (10 * value + d) rest

/-- The value of a non-empty string of decimal digits. -/
def digits? : List Char → Option Nat
  | [] => none
  | text => digitsFrom? 0 text

/-- The unsigned word that a text denotes, if it is a numeral that fits. -/
def word? (text : List Char) : Option Nat :=
  let unsigned := match text with
    | '+' :: rest => rest
    | _ => text
  (digits? unsigned).filter (· < Word.modulus)

end HostBridge.Numeral
