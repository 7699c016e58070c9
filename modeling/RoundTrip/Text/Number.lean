/-! # Whole numbers in decimal

A number is an optional sign followed by at least one ASCII digit. The text is read from the left,
and the first character that is no digit, or the first digit that leaves the range, is the fault.
-/
namespace RoundTrip.Text

/-- Why a text is not a number of the wanted range. -/
inductive NumberFault where
  | empty
  | invalidDigit
  | tooLarge
  | tooSmall
  deriving DecidableEq

def NumberFault.message : NumberFault → String
  | .empty => "cannot parse integer from empty string"
  | .invalidDigit => "invalid digit found in string"
  | .tooLarge => "number too large to fit in target type"
  | .tooSmall => "number too small to fit in target type"

/-- The value of an ASCII digit. -/
def digit? (c : Char) : Option Nat :=
  if '0' ≤ c ∧ c ≤ '9' then some (c.toNat - '0'.toNat) else none

/-- Reads digits onto `value`, away from zero on the side of the sign. -/
def readDigits (low high : Int) (negative : Bool) : Int → List Char → Except NumberFault Int
  | value, [] => .ok value
  | value, c :: rest =>
      match digit? c with
      | none => .error .invalidDigit
      | some d =>
          let next := if negative then value * 10 - d else value * 10 + d
          if next < low then .error .tooSmall
          else if high < next then .error .tooLarge
          else readDigits low high negative next rest

/-- Reads a number in `low..=high`; a minus sign counts as a sign only where `low` is negative. -/
def readNumber (low high : Int) : List Char → Except NumberFault Int
  | [] => .error .empty
  | '+' :: rest =>
      if rest.isEmpty then .error .invalidDigit else readDigits low high false 0 rest
  | '-' :: rest =>
      if rest.isEmpty || !(low < 0) then .error .invalidDigit
      else readDigits low high true 0 rest
  | cs => readDigits low high false 0 cs

/-- Signed 32-bit numbers. -/
def readInt32 : List Char → Except NumberFault Int := readNumber (-0x80000000) 0x7FFFFFFF

/-- Signed 64-bit numbers. -/
def readInt64 : List Char → Except NumberFault Int :=
  readNumber (-0x8000000000000000) 0x7FFFFFFFFFFFFFFF

/-- Unsigned 64-bit numbers. -/
def readUInt64 (cs : List Char) : Except NumberFault Nat :=
  (readNumber 0 0xFFFFFFFFFFFFFFFF cs).map Int.toNat

end RoundTrip.Text
