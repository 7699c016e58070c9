/-! # Hexadecimal digits

Words of a fixed width, written with lowercase digits.
-/
namespace RoundTrip.Text

/-- The lowercase hexadecimal digit of `n`, for `n` below sixteen. -/
def hexDigit (n : Nat) : Char :=
  if n < 10 then Char.ofNat ('0'.toNat + n) else Char.ofNat ('a'.toNat + (n - 10))

/-- The last `width` hexadecimal digits of `n`, the most significant first. -/
def hexDigits : Nat → Nat → List Char
  | 0, _ => []
  | width + 1, n => hexDigits width (n / 16) ++ [hexDigit (n % 16)]

theorem hexDigits_length (width n : Nat) : (hexDigits width n).length = width := by
  induction width generalizing n with
  | zero => rfl
  | succ width ih => simp [hexDigits, ih]

/-- Sixteen digits of a 64-bit word. -/
def hex64 (word : UInt64) : String := String.ofList (hexDigits 16 word.toNat)

end RoundTrip.Text
