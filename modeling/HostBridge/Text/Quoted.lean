import HostBridge.Text.Extending
import HostBridge.Text.Ignorable
import HostBridge.Text.Unprintable

/-!
# Quoted text

Structural descriptions show text between double quotes. Quotes and backslashes are escaped, the
common control characters have short names, and characters that do not print, that a display may
leave out, or that would attach to their neighbour are written by code point.
-/

namespace HostBridge.Text

/-- The digits of a number in base sixteen, without leading zeros. -/
def hexDigits (n : Nat) : List Char := Nat.toDigits 16 n

/-- A character as it stands between quotes. -/
def quoteChar (c : Char) : List Char :=
  if c = '"' then ['\\', '"']
  else if c = '\\' then ['\\', '\\']
  else if c = '\t' then ['\\', 't']
  else if c = '\n' then ['\\', 'n']
  else if c = '\r' then ['\\', 'r']
  else if c.toNat = 0 then ['\\', '0']
  else if isExtending c || isIgnorable c || isUnprintable c then
    ['\\', 'u', '\x7b'] ++ hexDigits c.toNat ++ ['\x7d']
  else [c]

/-- A text between double quotes. -/
def quote (text : String) : String :=
  String.ofList ('"' :: (text.toList.flatMap quoteChar ++ ['"']))

end HostBridge.Text
