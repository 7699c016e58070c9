import RoundTrip.Bytes.Region
import RoundTrip.Codec

/-! # Simple algorithms

Four ways to turn a block into another and back. `copy` puts the length in front, `runs` writes a
count and a byte for each run, `raw` changes nothing, and `idle` does nothing at all.
-/
namespace RoundTrip

inductive Algorithm where
  | copy
  | runs
  | raw
  | idle
  deriving DecidableEq

/-- What an algorithm wrote, and whether that is its whole output. -/
structure Product where
  written : List UInt8
  complete : Bool

def Product.failed : Product := ⟨[], false⟩

namespace Algorithm

/-- Four bytes for a length, the least significant first. -/
def lengthBytes (n : Nat) : List UInt8 :=
  [UInt8.ofNat n, UInt8.ofNat (n / 0x100), UInt8.ofNat (n / 0x10000), UInt8.ofNat (n / 0x1000000)]

/-- The length in the first four bytes. -/
def readLength? : List UInt8 → Option Nat
  | a :: b :: c :: d :: _ =>
      some (a.toNat + b.toNat * 0x100 + c.toNat * 0x10000 + d.toNat * 0x1000000)
  | _ => none

theorem readLength?_lengthBytes {n : Nat} (h : n < 0x100000000) (rest : List UInt8) :
    readLength? (lengthBytes n ++ rest) = some n := by
  simp only [lengthBytes, readLength?, List.cons_append, UInt8.toNat_ofNat', Option.some.injEq]
  omega

def copyCompress (source : Region) (capacity : Nat) : Product :=
  if source.size = 0 ∨ capacity < source.size + 4 then .failed
  else ⟨lengthBytes source.size ++ source.toList, true⟩

def copyDecompress (source : Region) (capacity : Nat) : Product :=
  match readLength? (source.take 4).toList with
  | none => .failed
  | some n =>
      if capacity < n ∨ source.size < 4 + n then .failed
      else ⟨(source.take (4 + n)).toList.drop 4, true⟩

/-- Runs of at most 255 equal bytes, after those in `done` (last first) and the one going on. -/
def runsFrom (done : List (UInt8 × UInt8)) (count : Nat) (byte : UInt8) :
    List UInt8 → List (UInt8 × UInt8)
  | [] => ((UInt8.ofNat count, byte) :: done).reverse
  | next :: rest =>
      if next = byte ∧ count < 255 then runsFrom done (count + 1) byte rest
      else runsFrom ((UInt8.ofNat count, byte) :: done) 1 next rest

/-- The runs of a byte string, each a count and a byte. -/
def runsOf : List UInt8 → List (UInt8 × UInt8)
  | [] => []
  | byte :: rest => runsFrom [] 1 byte rest

def pairBytes (pair : UInt8 × UInt8) : List UInt8 := [pair.1, pair.2]

/-- A source longer than the greatest that could fit is looked at only as far as to see that. -/
def runsCompress (source : Region) (capacity : Nat) : Product :=
  let room := capacity / 2
  let pairs := runsOf (source.take (255 * room + 1)).toList
  ⟨(pairs.take room).flatMap pairBytes, pairs.length ≤ room⟩

/-- Writes out runs after the bytes in `done` (last first), while they fit. -/
def expand (room : Nat) (done : List UInt8) : List UInt8 → Product
  | count :: byte :: rest =>
      if room < count.toNat then ⟨done.reverse, false⟩
      else expand (room - count.toNat) (List.replicate count.toNat byte ++ done) rest
  | _ => ⟨done.reverse, true⟩

/-- The zeros at the end of a block are runs of no bytes, so that they need not be looked at. -/
def runsDecompress (source : Region) (capacity : Nat) : Product :=
  if source.size % 2 = 1 then .failed
  else expand capacity [] (source.take (source.front.length + source.front.length % 2)).toList

def unchanged (source : Region) (capacity : Nat) : Product :=
  if capacity < source.size then .failed else ⟨source.toList, true⟩

/-- Runs an algorithm in one direction. -/
def run : Algorithm → Direction → Region → Nat → Product
  | .copy, .compress => copyCompress
  | .copy, .decompress => copyDecompress
  | .runs, .compress => runsCompress
  | .runs, .decompress => runsDecompress
  | .raw, _ => unchanged
  | .idle, _ => fun _ _ => ⟨[], true⟩

/-- What an engine runs where nothing else is asked for. -/
def ofEngine : Engine → Algorithm
  | .lz4 | .lz4hc => .copy
  | .bzip2 | .zlib => .runs

/-- What a failed call returns: no length, a negative length, or a status. -/
def failureCode : Engine → Direction → Int
  | .lz4, .compress | .lz4hc, .compress => 0
  | .lz4, .decompress | .lz4hc, .decompress => -1
  | .zlib, .compress => -5
  | .zlib, .decompress => -3
  | .bzip2, _ => -8

end Algorithm
end RoundTrip
