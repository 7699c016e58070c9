import RoundTrip.Bytes.Region
import RoundTrip.Clock
import RoundTrip.Fault

/-! # Calls of an engine

One contract over the four engines. Every call is given a source and a capacity in the engine's own
type of lengths, and every answer is read by the engine's convention: a returned length, or a status
beside a length. A source too long for that type is refused without a call.
-/
namespace RoundTrip

/-- Where the code behind an engine lives. -/
inductive Image where
  | process
  | library (id : Nat)
  deriving DecidableEq

/-- The resolved pair of functions of one engine. -/
structure EntryPoints where
  engine : Engine
  image : Image
  deriving DecidableEq

/-- The function that is called, with its extra arguments. -/
inductive Request where
  | lz4Compress
  | lz4hcCompress (level : Int)
  | lz4Decompress
  | zlibCompress (level : Int)
  | zlibDecompress
  | bzip2Compress (blockSize verbosity workFactor : Int)
  | bzip2Decompress (small verbosity : Int)
  deriving DecidableEq

namespace Request

def compress : Engine → Int → Int → Request
  | .lz4, _, _ => .lz4Compress
  | .lz4hc, level, _ => .lz4hcCompress level
  | .bzip2, level, extra => .bzip2Compress level 0 extra
  | .zlib, level, _ => .zlibCompress level

def decompress : Engine → Request
  | .lz4 | .lz4hc => .lz4Decompress
  | .bzip2 => .bzip2Decompress 0 0
  | .zlib => .zlibDecompress

def direction : Request → Direction
  | .lz4Compress | .lz4hcCompress _ | .zlibCompress _ | .bzip2Compress .. => .compress
  | .lz4Decompress | .zlibDecompress | .bzip2Decompress .. => .decompress

@[simp] theorem direction_compress (e : Engine) (level extra : Int) :
    (compress e level extra).direction = .compress := by cases e <;> rfl

@[simp] theorem direction_decompress (e : Engine) : (decompress e).direction = .decompress := by
  cases e <;> rfl

/-- The extra arguments in the order in which they are passed. -/
def arguments : Request → List Int
  | .lz4Compress | .lz4Decompress | .zlibDecompress => []
  | .lz4hcCompress level | .zlibCompress level => [level]
  | .bzip2Compress blockSize verbosity workFactor => [blockSize, verbosity, workFactor]
  | .bzip2Decompress small verbosity => [small, verbosity]

end Request

/-- One call as the engine sees it. -/
structure NativeCall where
  entry : EntryPoints
  request : Request
  source : Region
  capacity : Nat

/-- What a call leaves behind: the returned word, the length that it left in the place for it, the
bytes put into the destination and the nanoseconds by which the clock moved. -/
structure Reply where
  returned : Int32
  length : UInt64
  writes : List (Nat × List UInt8)
  elapsed : Int

/-- The code behind the entry points: any function of the call and of a state of its own. -/
abbrev Native (σ : Type) := NativeCall → σ → Reply × σ

namespace Reply

/-- The nanoseconds of a call; a clock that went back counts as none. -/
def span (r : Reply) : Span := spanOf r.elapsed

/-- A destination after the call: nothing is written past the capacity. -/
def apply (r : Reply) (capacity : Nat) (destination : Region) : Region :=
  r.writes.foldl (fun d w => d.write w.1 (upTo (capacity - w.1) w.2)) destination

@[simp] theorem size_apply (r : Reply) (capacity : Nat) (destination : Region) :
    (r.apply capacity destination).size = destination.size := by
  simp only [apply]
  generalize r.writes = writes
  induction writes generalizing destination with
  | nil => rfl
  | cons w rest ih => exact (ih _).trans (Region.size_write ..)

end Reply

namespace Engine

/-- The produced length in the engine's own type of lengths. -/
def lengthOf (e : Engine) (r : Reply) : Nat := r.length.toNat % (e.lengthLimit + 1)

/-- Reads a reply by the engine's convention, for a destination of `room` bytes. -/
def interpret (e : Engine) (r : Reply) (room : Nat) : Except CallFault Nat :=
  match e.convention with
  | .returnsLength =>
      if r.returned.toInt ≤ 0 then .error (.length r.returned.toInt)
      else if room < r.returned.toInt.toNat then .error (.overflow r.returned.toInt.toNat room)
      else .ok r.returned.toInt.toNat
  | .statusWithLength =>
      if r.returned.toInt ≠ 0 then .error (.status r.returned.toInt)
      else if room < e.lengthOf r then .error (.overflow (e.lengthOf r) room)
      else .ok (e.lengthOf r)

theorem interpret_le {e : Engine} {r : Reply} {room n : Nat} (h : e.interpret r room = .ok n) :
    n ≤ room := by
  simp only [interpret] at h
  grind

end Engine

/-- What came of a call: how many bytes were produced, the destination, and the time it took. -/
structure Outcome where
  produced : Except CallFault Nat
  destination : Region
  span : Span

namespace EntryPoints

variable {σ : Type}

/-- Calls a function on a source, with the first `room` bytes of the destination for its output. -/
def perform (native : Native σ) (entry : EntryPoints) (request : Request)
    (source destination : Region) (room : Nat) (s : σ) : Outcome × σ :=
  let limit := entry.engine.lengthLimit
  if limit < source.size then (⟨.error (.argumentTooLarge source.size limit), destination, 0⟩, s)
  else
    let capacity := min room limit
    let (reply, s) := native ⟨entry, request, source, capacity⟩ s
    (⟨entry.engine.interpret reply room, reply.apply capacity destination, reply.span⟩, s)

/-- Compresses a source into the whole of a destination. -/
def compress (native : Native σ) (entry : EntryPoints) (level extra : Int)
    (source destination : Region) (s : σ) : Outcome × σ :=
  perform native entry (.compress entry.engine level extra) source destination destination.size s

/-- Decompresses a source into the first `room` bytes of a destination. -/
def decompress (native : Native σ) (entry : EntryPoints) (source destination : Region) (room : Nat)
    (s : σ) : Outcome × σ :=
  perform native entry (.decompress entry.engine) source destination room s

@[simp] theorem size_perform (native : Native σ) (entry : EntryPoints) (request : Request)
    (source destination : Region) (room : Nat) (s : σ) :
    (perform native entry request source destination room s).1.destination.size =
      destination.size := by
  simp only [perform]
  split <;> simp

@[simp] theorem size_compress (native : Native σ) (entry : EntryPoints) (level extra : Int)
    (source destination : Region) (s : σ) :
    (compress native entry level extra source destination s).1.destination.size =
      destination.size := size_perform ..

@[simp] theorem size_decompress (native : Native σ) (entry : EntryPoints)
    (source destination : Region) (room : Nat) (s : σ) :
    (decompress native entry source destination room s).1.destination.size =
      destination.size := size_perform ..

/-- A count that is reported as produced is within the room given. -/
theorem produced_le {native : Native σ} {entry : EntryPoints} {request : Request}
    {source destination : Region} {room : Nat} {s : σ} {n : Nat}
    (h : (perform native entry request source destination room s).1.produced = .ok n) :
    n ≤ room := by
  simp only [perform] at h
  split at h
  · contradiction
  · exact Engine.interpret_le h

end EntryPoints

/-- A native that also keeps a view of every call made through it, the last one first. -/
def Native.observed {σ α : Type} (view : NativeCall → α) (native : Native σ) :
    Native (σ × List α) := fun call s =>
  let (reply, inner) := native call s.1
  (reply, inner, view call :: s.2)

/-- A native that also keeps every call. -/
def Native.traced {σ : Type} (native : Native σ) : Native (σ × List NativeCall) :=
  native.observed id

/-- To observe calls changes no reply. -/
theorem Native.reply_observed {σ α : Type} (view : NativeCall → α) (native : Native σ)
    (call : NativeCall) (s : σ × List α) :
    (native.observed view call s).1 = (native call s.1).1 := rfl

end RoundTrip
