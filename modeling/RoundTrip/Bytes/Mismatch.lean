import RoundTrip.Bytes.Digest
import RoundTrip.Text.Hex

/-! # Comparison of a chunk with what came back

Equal byte strings pass. Otherwise the fault names the first place where they part, both lengths
and a digest of each side.
-/
namespace RoundTrip

structure Mismatch where
  offset : Nat
  expectedLength : Nat
  actualLength : Nat
  expectedDigest : UInt64
  actualDigest : UInt64
  deriving DecidableEq

namespace Mismatch

/-- The length of the longest common beginning, counted on from `offset`. -/
def agreeing (offset : Nat) : List UInt8 → List UInt8 → Nat
  | a :: first, b :: second => if a = b then agreeing (offset + 1) first second else offset
  | _, _ => offset

def between (expected actual : List UInt8) : Mismatch where
  offset := agreeing 0 expected actual
  expectedLength := expected.length
  actualLength := actual.length
  expectedDigest := Digest.ofBytes expected
  actualDigest := Digest.ofBytes actual

def message (m : Mismatch) : String :=
  s!"first difference at byte {m.offset} (expected {m.expectedLength} bytes, xxh64 " ++
    Text.hex64 m.expectedDigest ++ s!"; got {m.actualLength} bytes, xxh64 " ++
    Text.hex64 m.actualDigest ++ ")"

end Mismatch

/-- Passes exactly the decoded bytes that equal the chunk. -/
def verify (chunk decoded : List UInt8) : Except Mismatch Unit :=
  if chunk == decoded then .ok () else .error (.between chunk decoded)

theorem verify_eq_ok_iff {chunk decoded : List UInt8} :
    verify chunk decoded = .ok () ↔ chunk = decoded := by
  unfold verify
  split <;> simp_all

end RoundTrip
