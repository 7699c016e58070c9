/-! # Codecs

The seven codecs of the table, in the order in which they are swept and listed, and the four engines
among them: the codecs that a reference library serves.
-/
namespace RoundTrip

inductive Codec where
  | lz4
  | lz4hc
  | lzma
  | bzip2
  | snappy
  | zlib
  | zstd
  deriving DecidableEq

/-- The whole numbers from `low` to `high`. -/
def levelsFrom (low high : Int) : List Int :=
  (List.range (high - low + 1).toNat).map fun n : Nat => low + n

theorem levelsFrom_self (level : Int) : levelsFrom level level = [level] := by
  simp [levelsFrom]

/-- The parameters of a codec that never change. -/
structure Descriptor where
  name : String
  lowest : Int
  highest : Int
  extra : Int
  blockSize : Int

namespace Descriptor

/-- The levels from the lowest to the highest. -/
def levels (d : Descriptor) : List Int := levelsFrom d.lowest d.highest

/-- A codec with one fixed level has none to choose from. -/
def hasLevels (d : Descriptor) : Bool := d.lowest != d.highest

def contains (d : Descriptor) (level : Int) : Bool := d.lowest ≤ level && level ≤ d.highest

end Descriptor

namespace Codec

def all : List Codec := [.lz4, .lz4hc, .lzma, .bzip2, .snappy, .zlib, .zstd]

def index : Codec → Nat
  | .lz4 => 0
  | .lz4hc => 1
  | .lzma => 2
  | .bzip2 => 3
  | .snappy => 4
  | .zlib => 5
  | .zstd => 6

theorem all_index (c : Codec) : all[c.index]? = some c := by cases c <;> rfl

def descriptor : Codec → Descriptor
  | .lz4 => ⟨"LZ4", 0, 0, 0, 0⟩
  | .lz4hc => ⟨"LZ4HC", 1, 12, 0, 0⟩
  | .lzma => ⟨"LZMA", 0, 9, 0, 0⟩
  | .bzip2 => ⟨"BZIP2", 1, 9, 0, 0⟩
  | .snappy => ⟨"SNAPPY", 0, 0, 0, 0⟩
  | .zlib => ⟨"ZLIB", 1, 9, 0, 0⟩
  | .zstd => ⟨"ZSTD", 1, 22, 0, 0⟩

def name (c : Codec) : String := c.descriptor.name

/-- The name of the codec in descriptions of a program state. -/
def tag : Codec → String
  | .lz4 => "Lz4"
  | .lz4hc => "Lz4Hc"
  | .lzma => "Lzma"
  | .bzip2 => "Bzip2"
  | .snappy => "Snappy"
  | .zlib => "Zlib"
  | .zstd => "Zstd"

/-- Equality of texts up to the case of ASCII letters. -/
def sameLetters (first second : String) : Bool :=
  first.toList.map Char.toLower == second.toList.map Char.toLower

/-- The codec of that name, in any letter case. -/
def ofName? (name : String) : Option Codec := all.find? fun c => sameLetters c.name name

theorem ofName?_name (c : Codec) : ofName? c.name = some c := by cases c <;> decide

end Codec

/-- A codec that a reference library serves. -/
inductive Engine where
  | lz4
  | lz4hc
  | bzip2
  | zlib
  deriving DecidableEq

/-- How an engine reports success and the size of its output. -/
inductive Convention where
  | returnsLength
  | statusWithLength
  deriving DecidableEq

def Convention.tag : Convention → String
  | .returnsLength => "ReturnsLength"
  | .statusWithLength => "StatusWithLength"

/-- The two halves of a round trip. -/
inductive Direction where
  | compress
  | decompress
  deriving DecidableEq

def Direction.title : Direction → String
  | .compress => "Compression"
  | .decompress => "Decompression"

namespace Engine

def all : List Engine := [.lz4, .lz4hc, .bzip2, .zlib]

def codec : Engine → Codec
  | .lz4 => .lz4
  | .lz4hc => .lz4hc
  | .bzip2 => .bzip2
  | .zlib => .zlib

/-- The file name of the library that holds the engine. -/
def libraryFile : Engine → String
  | .lz4 => "liblz4.so"
  | .lz4hc => "liblz4.so"
  | .bzip2 => "libbz2.so"
  | .zlib => "libz.so"

def convention : Engine → Convention
  | .lz4 => .returnsLength
  | .lz4hc => .returnsLength
  | .bzip2 => .statusWithLength
  | .zlib => .statusWithLength

/-- The name under which a library exports each half. -/
def symbol : Engine → Direction → String
  | .lz4, .compress => "LZ4_compress_default"
  | .lz4, .decompress => "LZ4_decompress_safe"
  | .lz4hc, .compress => "LZ4_compress_HC"
  | .lz4hc, .decompress => "LZ4_decompress_safe"
  | .bzip2, .compress => "BZ2_bzBuffToBuffCompress"
  | .bzip2, .decompress => "BZ2_bzBuffToBuffDecompress"
  | .zlib, .compress => "compress2"
  | .zlib, .decompress => "uncompress"

/-- The greatest number that the engine's own type of lengths holds. -/
def lengthLimit : Engine → Nat
  | .lz4 => 0x7FFFFFFF
  | .lz4hc => 0x7FFFFFFF
  | .bzip2 => 0xFFFFFFFF
  | .zlib => 0xFFFFFFFFFFFFFFFF

end Engine

/-- One entry for each engine. -/
structure EngineTable (α : Type) where
  lz4 : α
  lz4hc : α
  bzip2 : α
  zlib : α

namespace EngineTable

variable {α : Type}

/-- The same entry for every engine. -/
def replicate (a : α) : EngineTable α := ⟨a, a, a, a⟩

def get (t : EngineTable α) : Engine → α
  | .lz4 => t.lz4
  | .lz4hc => t.lz4hc
  | .bzip2 => t.bzip2
  | .zlib => t.zlib

def set (t : EngineTable α) (e : Engine) (a : α) : EngineTable α :=
  match e with
  | .lz4 => { t with lz4 := a }
  | .lz4hc => { t with lz4hc := a }
  | .bzip2 => { t with bzip2 := a }
  | .zlib => { t with zlib := a }

@[simp] theorem get_replicate (a : α) (e : Engine) : (replicate a).get e = a := by cases e <;> rfl

@[simp] theorem get_set_self (t : EngineTable α) (e : Engine) (a : α) : (t.set e a).get e = a := by
  cases e <;> rfl

theorem get_set_of_ne (t : EngineTable α) {e f : Engine} (a : α) (h : f ≠ e) :
    (t.set e a).get f = t.get f := by
  cases e <;> cases f <;> simp_all [get, set]

/-- The entries in table order. -/
def toList (t : EngineTable α) : List α := [t.lz4, t.lz4hc, t.bzip2, t.zlib]

theorem toList_eq_map (t : EngineTable α) : t.toList = Engine.all.map t.get := rfl

end EngineTable

namespace Codec

def engine? : Codec → Option Engine
  | .lz4 => some .lz4
  | .lz4hc => some .lz4hc
  | .bzip2 => some .bzip2
  | .zlib => some .zlib
  | .lzma | .snappy | .zstd => none

theorem engine?_codec (e : Engine) : e.codec.engine? = some e := by cases e <;> rfl

theorem engine?_codec_iff {e f : Engine} : e.codec.engine? = some f ↔ e = f := by
  rw [engine?_codec, Option.some.injEq]

theorem codec_of_engine? {c : Codec} {e : Engine} (h : c.engine? = some e) : e.codec = c := by
  cases c <;> cases h <;> rfl

def isSupported (c : Codec) : Bool := c.engine?.isSome

/-- The codecs with an engine, in table order. -/
def supported : List Codec := all.filter isSupported

theorem supported_eq : supported = Engine.all.map Engine.codec := rfl

/-- The names of the supported codecs, set off by commas. -/
def supportedNames : String := ", ".intercalate (supported.map name)

end Codec
end RoundTrip
