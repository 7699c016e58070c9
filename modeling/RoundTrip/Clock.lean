/-! # Time

Spans are whole nanoseconds in 64 bits. They never go backwards and stop at the greatest span; they
become fractional milliseconds only to be reported.
-/
namespace RoundTrip

/-- A span of time in nanoseconds. -/
abbrev Span := UInt64

/-- The sum of two spans, or the greatest span where the sum is beyond it. -/
def addSpan (a b : Span) : Span :=
  if a.toNat + b.toNat < 0x10000000000000000 then a + b else 0xFFFFFFFFFFFFFFFF

theorem toNat_addSpan (a b : Span) :
    (addSpan a b).toNat = min (a.toNat + b.toNat) 0xFFFFFFFFFFFFFFFF := by
  unfold addSpan
  split
  · rw [UInt64.toNat_add]
    omega
  · have top : (0xFFFFFFFFFFFFFFFF : UInt64).toNat = 0xFFFFFFFFFFFFFFFF := rfl
    omega

/-- Nanoseconds as milliseconds. -/
def milliseconds (span : Span) : Float := span.toFloat / 1000000.0

/-- The span between two readings of a clock that moved by `elapsed` nanoseconds. -/
def spanOf (elapsed : Int) : Span := elapsed.toNat.toUInt64

theorem spanOf_of_nonpos {elapsed : Int} (h : elapsed ≤ 0) : spanOf elapsed = 0 := by
  simp [spanOf, Int.toNat_of_nonpos h]

/-- A reading of a clock. -/
structure Instant where
  seconds : Int
  nanoseconds : Int

/-- The nanoseconds from one reading to another. -/
def Instant.elapsed (start finish : Instant) : Int :=
  (finish.seconds - start.seconds) * 1000000000 + (finish.nanoseconds - start.nanoseconds)

end RoundTrip
