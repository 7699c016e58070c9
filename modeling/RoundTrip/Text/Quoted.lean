import RoundTrip.Text.Hex
import RoundTrip.Text.Unseen

/-! # Quoted text

A text between double quotes. The quote and the backslash are escaped, and so is every character
that would not be seen or would change the one before it.
-/
namespace RoundTrip.Text

/-- Hexadecimal digits of `n` without leading zeros. -/
def hexNumber (n : Nat) : List Char :=
  let digits := (hexDigits 6 n).dropWhile (· == '0')
  if digits.isEmpty then ['0'] else digits

/-- How one character is written between quotes. -/
def quotedChar (c : Char) : List Char :=
  if c = '"' then ['\\', '"']
  else if c = '\\' then ['\\', '\\']
  else if c = '\n' then ['\\', 'n']
  else if c = '\r' then ['\\', 'r']
  else if c = '\t' then ['\\', 't']
  else if c.toNat = 0 then ['\\', '0']
  else if isUnseen c then
    ['\\', 'u', '\x7b'] ++ hexNumber c.toNat ++ ['\x7d']
  else [c]

def quoted (text : String) : String :=
  String.ofList ('"' :: text.toList.flatMap quotedChar ++ ['"'])

end RoundTrip.Text
