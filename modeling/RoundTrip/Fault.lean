import RoundTrip.Bytes.Mismatch
import RoundTrip.Codec
import RoundTrip.IoFault

/-! # Faults of a run

Configuration faults are found before anything is touched. Every other fault belongs to the run: a
library or a symbol that is missing, a call that failed, a chunk that did not come back, or an input
that could not be read.
-/
namespace RoundTrip

/-- Why one call of an engine gave no output. -/
inductive CallFault where
  | length (returned : Int)
  | status (returned : Int)
  | argumentTooLarge (size limit : Nat)
  | overflow (produced capacity : Nat)
  deriving DecidableEq

def CallFault.message : CallFault → String
  | .length returned => s!"returned length {returned}"
  | .status returned => s!"returned status {returned}"
  | .argumentTooLarge size limit => s!"input of {size} bytes exceeds native limit {limit}"
  | .overflow produced capacity => s!"reported {produced} bytes for a {capacity}-byte buffer"

inductive FaultClass where
  | configuration
  | runtime
  deriving DecidableEq

inductive Fault where
  | libraryDirTooLong (length limit : Nat)
  | unsupportedCodec (codec : Codec)
  | invalidIterations (value : Nat)
  | invalidMemoryLimit (value : Nat)
  | load (library reason : String)
  | symbol (library name reason : String)
  | callFailed (direction : Direction) (codec : Codec) (level : Int) (cause : CallFault)
  | verificationFailed (codec : Codec) (level : Int) (fileName : String) (mismatch : Mismatch)
  | io (fault : IoFault)
  deriving DecidableEq

namespace Fault

def kind : Fault → FaultClass
  | .libraryDirTooLong .. | .unsupportedCodec _ | .invalidIterations _ | .invalidMemoryLimit _ =>
      .configuration
  | .load .. | .symbol .. | .callFailed .. | .verificationFailed .. | .io _ => .runtime

/-- The half of the round trip whose call failed. -/
def direction? : Fault → Option Direction
  | .callFailed direction .. => some direction
  | _ => none

def isCallFailure (f : Fault) : Bool := f.direction?.isSome

def message : Fault → String
  | .libraryDirTooLong length limit =>
      s!"library directory name of {length} characters does not fit {limit} characters " ++
        "with trailing slash"
  | .unsupportedCodec codec =>
      s!"{codec.name} has no reference library; " ++
        s!"supported compression methods are: {Codec.supportedNames}"
  | .invalidIterations value => s!"invalid iteration count {value}"
  | .invalidMemoryLimit value => s!"invalid memory limit {value} bytes"
  | .load library reason => s!"error in opening dynamic library [{library}]:[{reason}]"
  | .symbol library name reason =>
      s!"error in loading symbol [{name}] from dynamic library [{library}]: [{reason}]"
  | .callFailed .compress codec level cause =>
      s!"{codec.name}-{level} compression failed: {cause.message}"
  | .callFailed .decompress codec level cause =>
      s!"{codec.name}-{level} decompression failed: {cause.message}"
  | .verificationFailed codec level fileName mismatch =>
      s!"{codec.name}-{level} [Filename:{fileName}] verification failed: {mismatch.message}"
  | .io fault => s!"input I/O error: {fault.message}"

/-- The text of the fault behind this one. -/
def source? : Fault → Option String
  | .io fault => some fault.message
  | _ => none

/-- The fault and the one behind it in one line. -/
def chain (f : Fault) : String :=
  match f.source? with
  | none => f.message
  | some source => f.message ++ ": " ++ source

theorem kind_of_direction? {f : Fault} {d : Direction} (h : f.direction? = some d) :
    f.kind = .runtime := by
  cases f <;> cases h; rfl

end Fault
end RoundTrip
