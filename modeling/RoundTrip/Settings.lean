import RoundTrip.LibraryDir

/-! # Settings of a run

Which codecs are measured and how. A level or an extra parameter of 999 stands for "not given": the
codec's own range and parameter are used then.
-/
namespace RoundTrip

/-- Stands for a level or an extra parameter that was not given. -/
def notGiven : Int := 999

/-- The codecs that a run measures. -/
inductive Selection where
  | all
  | single (codec : Codec)
  deriving DecidableEq

structure Settings where
  selection : Selection
  level : Int
  extra : Int
  iterations : UInt32
  memoryLimit : Nat
  verify : Bool
  statistics : Bool
  libraryDir : String
  label : String

namespace Settings

def defaultIterations : UInt32 := 10

/-- One gibibyte: the compressed output of a whole chunk then still fits 32-bit lengths. -/
def defaultMemoryLimit : Nat := 0x40000000

def defaultLabel : String := "NATIVE"

def default : Settings where
  selection := .all
  level := notGiven
  extra := notGiven
  iterations := defaultIterations
  memoryLimit := defaultMemoryLimit
  verify := false
  statistics := false
  libraryDir := ""
  label := defaultLabel

/-- Checks all that can be checked without touching a library, and gives the library directory. -/
def validate (s : Settings) : EStateM Fault Console LibraryDir :=
  if s.iterations = 0 then throw (.invalidIterations 0)
  else if s.memoryLimit = 0 then throw (.invalidMemoryLimit 0)
  else
    match s.selection with
    | .single codec =>
        if codec.isSupported then LibraryDir.ofName s.libraryDir
        else throw (.unsupportedCodec codec)
    | .all => LibraryDir.ofName s.libraryDir

/-- The passes that are made: one is enough where only verification is wanted. -/
def effectiveIterations (s : Settings) : UInt32 :=
  if s.verify && !s.statistics then 1 else s.iterations

/-- The codecs whose libraries the run needs, in table order. -/
def selected (s : Settings) : List Codec :=
  match s.selection with
  | .all => Codec.supported
  | .single codec => [codec]

/-- The lowest and the highest level that a codec is run at. -/
def levelRange (s : Settings) (codec : Codec) : Int × Int :=
  match s.selection with
  | .single _ =>
      if s.level = notGiven then (codec.descriptor.lowest, codec.descriptor.highest)
      else (s.level, s.level)
  | .all => (codec.descriptor.lowest, codec.descriptor.highest)

/-- The extra parameter that a codec is run with. -/
def extraFor (s : Settings) (codec : Codec) : Int :=
  match s.selection with
  | .single _ => if s.extra = notGiven then codec.descriptor.extra else s.extra
  | .all => codec.descriptor.extra

/-- The size of one chunk: the whole file where it is within the memory limit. -/
def chunkSize (s : Settings) (fileSize : Nat) : Nat := min fileSize s.memoryLimit

theorem chunkSize_le (s : Settings) (fileSize : Nat) : s.chunkSize fileSize ≤ s.memoryLimit :=
  Nat.min_le_right ..

end Settings
end RoundTrip
