import RoundTrip.Native.Scripted

/-! # Stand-in libraries

Engines that stand in for the compression libraries: they keep to the same calls, limits and codes
with simple formats, and move the clock by a cost that depends on the source alone.
-/
namespace RoundTrip.StandIn

/-- The nanoseconds that a call takes. -/
def cost (request : Request) (sourceSize : Nat) : Int :=
  match request with
  | .lz4hcCompress level => 1000 + 7 * sourceSize + 100 * level
  | .lz4Compress | .zlibCompress _ | .bzip2Compress .. => 1000 + 7 * sourceSize
  | .lz4Decompress | .zlibDecompress | .bzip2Decompress .. => 500 + 3 * sourceSize

/-- The arguments are within what the engine documents. -/
def acceptable : Request → Bool
  | .lz4Compress | .lz4hcCompress _ | .lz4Decompress | .zlibDecompress => true
  | .zlibCompress level => -1 ≤ level && level ≤ 9
  | .bzip2Compress blockSize verbosity workFactor =>
      1 ≤ blockSize && blockSize ≤ 9 && verbosity == 0 && 0 ≤ workFactor && workFactor ≤ 250
  | .bzip2Decompress small verbosity => small == 0 && verbosity == 0

/-- The status for arguments outside the documented ranges. -/
def badArgument : Int := -2

/-- The reply to a call. -/
def reply (call : NativeCall) : Reply :=
  if acceptable call.request then
    { Behaviour.plain with elapsed := cost call.request call.source.size }.reply call
  else
    { Behaviour.plain with algorithm := some .idle, returned := some badArgument,
                           length := some call.capacity }.reply call

/-- Stand-in libraries have no state. -/
def native {σ : Type} : Native σ := fun call s => (reply call, s)

/-- Code in the process image follows `inner`; code in a library is that of the stand-ins. -/
def behind {σ : Type} (inner : Native σ) : Native σ := fun call s =>
  match call.entry.image with
  | .process => inner call s
  | .library _ => native call s

end RoundTrip.StandIn
