import RoundTrip.Clock
import RoundTrip.Text.Figure

/-! # Totals of a cell

Byte counts and times add up over chunks; a pass that ends folds the sum of its times into the best
ones. Times stop at the greatest 64-bit number. A summary derives the figures that are reported.
-/
namespace RoundTrip

structure Tally where
  compressedBytes : UInt64
  decompressedBytes : UInt64
  compressTime : Span
  decompressTime : Span
  bestCompressTime : Span
  bestDecompressTime : Span
  passCompressTime : Span
  passDecompressTime : Span
  passes : UInt32
  deriving DecidableEq

/-- What is reported of one direction: speeds in megabytes per second, times in milliseconds, and
bytes produced by one pass. -/
structure DirectionSummary where
  averageSpeed : Figure
  averageTime : Figure
  size : Nat
  bestSpeed : Figure
  bestTime : Figure
  deriving DecidableEq

/-- What is reported of a cell; the ratio is a percentage of the input. -/
structure Summary where
  compress : DirectionSummary
  decompress : DirectionSummary
  ratio : Figure
  deriving DecidableEq

namespace Tally

/-- Nothing recorded; the best times stand at the greatest span. -/
def empty : Tally where
  compressedBytes := 0
  decompressedBytes := 0
  compressTime := 0
  decompressTime := 0
  bestCompressTime := 0xFFFFFFFFFFFFFFFF
  bestDecompressTime := 0xFFFFFFFFFFFFFFFF
  passCompressTime := 0
  passDecompressTime := 0
  passes := 0

/-- Adds the round trip of one chunk. -/
def recordChunk (t : Tally) (compressed : Nat) (compressTime : Span) (decompressed : Nat)
    (decompressTime : Span) : Tally :=
  { t with
    compressedBytes := t.compressedBytes + compressed.toUInt64
    decompressedBytes := t.decompressedBytes + decompressed.toUInt64
    compressTime := addSpan t.compressTime compressTime
    decompressTime := addSpan t.decompressTime decompressTime
    passCompressTime := addSpan t.passCompressTime compressTime
    passDecompressTime := addSpan t.passDecompressTime decompressTime }

/-- Ends a pass: its times are folded into the best ones and start again at zero. -/
def finishPass (t : Tally) : Tally :=
  { t with
    bestCompressTime := min t.bestCompressTime t.passCompressTime
    bestDecompressTime := min t.bestDecompressTime t.passDecompressTime
    passCompressTime := 0
    passDecompressTime := 0
    passes := t.passes + 1 }

/-- The best compress time, once a pass has ended. -/
def bestCompress? (t : Tally) : Option Span :=
  if 0 < t.passes then some t.bestCompressTime else none

/-- The best decompress time, once a pass has ended. -/
def bestDecompress? (t : Tally) : Option Span :=
  if 0 < t.passes then some t.bestDecompressTime else none

/-- Megabytes per second, and zero where no time passed. -/
def speed (bytes : Float) (span : Span) : Float :=
  if span = 0 then 0.0 else bytes * 1000.0 / span.toFloat

def summarizeDirection (fileSize passes : UInt64) (bytes : UInt64) (time best : Span) :
    DirectionSummary where
  averageSpeed := .ofFloat (speed (fileSize.toFloat * passes.toFloat) time)
  averageTime := .ofFloat (milliseconds time / passes.toFloat)
  size := (bytes / passes).toNat
  bestSpeed := .ofFloat (speed fileSize.toFloat best)
  bestTime := .ofFloat (milliseconds best)

/-- The figures for an input of `fileSize` bytes that was passed over `iterations` times. -/
def summarize (t : Tally) (fileSize : Nat) (iterations : UInt32) : Summary :=
  let size := fileSize.toUInt64
  let passes := (max iterations 1).toUInt64
  { compress := summarizeDirection size passes t.compressedBytes t.compressTime
      (t.bestCompress?.getD 0)
    decompress := summarizeDirection size passes t.decompressedBytes t.decompressTime
      (t.bestDecompress?.getD 0)
    ratio :=
      if size = 0 then .zero
      else .ofFloat (t.compressedBytes.toFloat * 100.0 / passes.toFloat / size.toFloat) }

end Tally
end RoundTrip
