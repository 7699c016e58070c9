import RoundTrip.Buffers
import RoundTrip.Chunks
import RoundTrip.Console
import RoundTrip.Input
import RoundTrip.Native.Call
import RoundTrip.Step

/-! # One cell

A cell passes over the whole input once for each iteration. Every chunk is read, compressed and
decompressed, compared where that is wanted, and added to the totals. The first step that fails ends
the cell and is its fault.
-/
namespace RoundTrip

/-- What a cell works with. -/
structure Workbench (σ : Type) where
  console : Console
  native : σ
  input : Input
  buffers : Buffers

namespace Workbench

variable {σ : Type}

def say (notice : Notice) : EStateM Fault (Workbench σ) Unit := fun w =>
  .ok () { w with console := w.console.say notice }

/-- Moves the input to its start. -/
def rewind : EStateM Fault (Workbench σ) Unit := fun w =>
  match w.input.rewind with
  | .ok () input => .ok () { w with input := input }
  | .error fault input => .error (.io fault) { w with input := input }

/-- Reads the next chunk into the input block. -/
def load (length : Nat) : EStateM Fault (Workbench σ) Unit := fun w =>
  match Input.readExact length w.input with
  | .ok bytes input => .ok () { w with input := input, buffers := w.buffers.load bytes }
  | .error fault input => .error (.io fault) { w with input := input }

end Workbench

/-- How a cell is run. -/
structure CellOptions where
  iterations : UInt32
  verify : Bool
  statistics : Bool
  extra : Int

/-- One run of an engine's functions: which cell it is and how it is run. -/
structure CellRun (σ : Type) where
  native : Native σ
  entry : EntryPoints
  cell : CellId
  options : CellOptions

namespace CellRun

variable {σ : Type}

/-- Compresses the loaded chunk; the answer is the length and the time. -/
def compress (run : CellRun σ) (length : Nat) : EStateM Fault (Workbench σ) (Nat × Span) := fun w =>
  let outcome := run.entry.compress run.native run.cell.level run.options.extra
    (w.buffers.input.take length) w.buffers.compressed w.native
  let w := { w with
    native := outcome.2
    buffers := w.buffers.setCompressed outcome.1.destination (EntryPoints.size_compress ..) }
  match outcome.1.produced with
  | .ok produced => .ok (produced, outcome.1.span) w
  | .error cause => .error (.callFailed .compress run.cell.codec run.cell.level cause) w

/-- Decompresses the first `packed` bytes of the compressed block into room for `length` bytes. -/
def decompress (run : CellRun σ) (packed length : Nat) : EStateM Fault (Workbench σ) (Nat × Span) :=
  fun w =>
    let outcome := run.entry.decompress run.native (w.buffers.compressed.take packed)
      w.buffers.decompressed length w.native
    let w := { w with
      native := outcome.2
      buffers := w.buffers.setDecompressed outcome.1.destination (EntryPoints.size_decompress ..) }
    match outcome.1.produced with
    | .ok produced => .ok (produced, outcome.1.span) w
    | .error cause => .error (.callFailed .decompress run.cell.codec run.cell.level cause) w

/-- Compares the chunk with what came back. -/
def compare (run : CellRun σ) (length decoded : Nat) : EStateM Fault (Workbench σ) Unit := fun w =>
  match verify (w.buffers.input.take length).toList
      (w.buffers.decompressed.take decoded).toList with
  | .ok () => .ok () w
  | .error mismatch =>
      .error (.verificationFailed run.cell.codec run.cell.level run.cell.fileName mismatch) w

/-- The round trip of one chunk, added to the totals. -/
def chunk (run : CellRun σ) (pass : Nat) (tally : Tally) (length : Nat) :
    EStateM Fault (Workbench σ) Tally := do
  Workbench.load length
  let (packed, compressTime) ← run.compress length
  let (decoded, decompressTime) ← run.decompress packed length
  if run.options.verify then run.compare length decoded
  Workbench.say
    (.chunkDone run.cell pass length packed decoded compressTime decompressTime)
  if run.options.statistics then
    return tally.recordChunk packed compressTime decoded decompressTime
  else return tally

/-- One pass over an input of `fileSize` bytes. -/
def pass (run : CellRun σ) (fileSize number : Nat) (tally : Tally) :
    EStateM Fault (Workbench σ) Tally := do
  Workbench.rewind
  let w ← get
  let tally ← Chunks.foldSteps (run.chunk number) w.buffers.chunkSize fileSize tally
  return if run.options.statistics then tally.finishPass else tally

/-- So many passes, the first of which has the given number. -/
def passes (run : CellRun σ) (fileSize : Nat) :
    Nat → Nat → Tally → EStateM Fault (Workbench σ) Tally
  | 0, _, tally => pure tally
  | left + 1, number, tally => do
      let tally ← run.pass fileSize number tally
      run.passes fileSize left (number + 1) tally

/-- Runs the cell; the totals stay empty where statistics are not wanted. -/
def execute (run : CellRun σ) (fileSize : Nat) : EStateM Fault (Workbench σ) Tally := do
  Workbench.say (.enter .cell)
  let tally ← run.passes fileSize run.options.iterations.toNat 0 .empty
  Workbench.say (.exit .cell)
  return tally

end CellRun
end RoundTrip
