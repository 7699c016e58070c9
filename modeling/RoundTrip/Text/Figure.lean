/-! # Figures

A figure is a binary64 number held by its bits, so that figures can be compared and written without
any rounding but the one asked for. `Figure.text` writes the exact binary value with two decimals,
a tie going to the even neighbour.
-/
namespace RoundTrip

structure Figure where
  bits : UInt64
  deriving DecidableEq

namespace Figure

def ofFloat (x : Float) : Figure := ⟨x.toBits⟩

def zero : Figure := ⟨0⟩

def negative (f : Figure) : Bool := f.bits.toNat / 0x8000000000000000 == 1

/-- The eleven exponent bits. -/
def exponent (f : Figure) : Nat := f.bits.toNat / 0x10000000000000 % 0x800

/-- The fifty-two fraction bits. -/
def fraction (f : Figure) : Nat := f.bits.toNat % 0x10000000000000

/-- The quotient rounded to the nearest whole number, a tie to the even one. -/
def roundDiv (numerator denominator : Nat) : Nat :=
  let quotient := numerator / denominator
  let twice := 2 * (numerator % denominator)
  if denominator < twice ∨ (twice = denominator ∧ quotient % 2 = 1) then quotient + 1 else quotient

/-- Hundredths in the magnitude of a finite figure, rounded once. -/
def hundredths (f : Figure) : Nat :=
  let significand := if f.exponent = 0 then f.fraction else 0x10000000000000 + f.fraction
  let exponent := max f.exponent 1
  if 1075 ≤ exponent then (significand * 100) <<< (exponent - 1075)
  else roundDiv (significand * 100) (1 <<< (1075 - exponent))

/-- The magnitude of a finite figure with two decimals. -/
def decimals (f : Figure) : String :=
  let h := f.hundredths
  s!"{h / 100}." ++ (if h % 100 < 10 then "0" else "") ++ toString (h % 100)

/-- Two decimals for a finite figure; a zero keeps its sign. -/
def text (f : Figure) : String :=
  let sign := if f.negative then "-" else ""
  if f.exponent = 2047 then
    if f.fraction = 0 then sign ++ "inf" else "NaN"
  else sign ++ f.decimals

end Figure
end RoundTrip
