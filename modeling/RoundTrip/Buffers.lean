import RoundTrip.Bytes.Region

/-! # Buffers

The three blocks that a run works in: the chunk that was read, its compressed form, and what came
back. They are sized once from the chunk and never grow.
-/
namespace RoundTrip

/-- The least room for the compressed form beyond its share of the chunk. -/
def minPad : Nat := 16 * 1024

/-- Room for the compressed form of a chunk: a sixth and the least pad more, within 64 bits. -/
def compressionBound (chunk : Nat) : Nat := min (chunk + chunk / 6 + minPad) 0xFFFFFFFFFFFFFFFF

structure Buffers where
  input : Region
  compressed : Region
  decompressed : Region
  size_compressed : compressed.size = compressionBound input.size
  size_decompressed : decompressed.size = input.size

namespace Buffers

/-- Fresh buffers for chunks of at most so many bytes. -/
def ofChunkSize (size : Nat) : Buffers where
  input := .zeros size
  compressed := .zeros (compressionBound size)
  decompressed := .zeros size
  size_compressed := rfl
  size_decompressed := rfl

/-- The largest chunk that fits. -/
def chunkSize (b : Buffers) : Nat := b.input.size

@[simp] theorem chunkSize_ofChunkSize (size : Nat) : (ofChunkSize size).chunkSize = size := rfl

/-- Puts a chunk at the start of the input block. -/
def load (b : Buffers) (bytes : List UInt8) : Buffers where
  input := b.input.write 0 bytes
  compressed := b.compressed
  decompressed := b.decompressed
  size_compressed := by simpa using b.size_compressed
  size_decompressed := by simpa using b.size_decompressed

/-- Replaces the compressed block by one of its size. -/
def setCompressed (b : Buffers) (r : Region) (h : r.size = b.compressed.size) : Buffers :=
  { b with
    compressed := r
    size_compressed := h.trans b.size_compressed }

/-- Replaces the block of what came back by one of its size. -/
def setDecompressed (b : Buffers) (r : Region) (h : r.size = b.decompressed.size) : Buffers :=
  { b with
    decompressed := r
    size_decompressed := h.trans b.size_decompressed }

@[simp] theorem chunkSize_load (b : Buffers) (bytes : List UInt8) :
    (b.load bytes).chunkSize = b.chunkSize := by simp [chunkSize, load]

@[simp] theorem chunkSize_setCompressed (b : Buffers) (r : Region) (h) :
    (b.setCompressed r h).chunkSize = b.chunkSize := rfl

@[simp] theorem chunkSize_setDecompressed (b : Buffers) (r : Region) (h) :
    (b.setDecompressed r h).chunkSize = b.chunkSize := rfl

end Buffers
end RoundTrip
