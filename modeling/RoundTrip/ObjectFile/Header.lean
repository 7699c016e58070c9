/-! # The header of an object file

What the first 64 bytes of a file must say about themselves before it can be opened as a shared
library, and whether the table of segments behind them can be read. The first thing that is wrong is
the one reported.
-/
namespace RoundTrip

/-- Why the bytes of a file are no shared library for this machine. -/
inductive ObjectFault where
  | tooShort
  | noMark
  | otherWidth
  | otherByteOrder
  | unknownMarkVersion
  | otherSystem
  | otherSystemVersion
  | paddingInUse
  | unknownVersion
  | otherMachine
  | notLoadable
  | otherEntrySize
  | tableOutOfReach
  | tableCutOff
  | misplacedSegment
  | noSegments
  | notDynamic
  | fixedAddress
  | unmappable
  | program
  | notToBeOpened
  | executableStack
  deriving DecidableEq

namespace ObjectFault

def reason : ObjectFault → String
  | .tooShort => "file too short"
  | .noMark => "invalid ELF header"
  | .otherWidth => "wrong ELF class: ELFCLASS32"
  | .otherByteOrder => "ELF file data encoding not little-endian"
  | .unknownMarkVersion => "ELF file version ident does not match current one"
  | .otherSystem => "ELF file OS ABI invalid"
  | .otherSystemVersion => "ELF file ABI version invalid"
  | .paddingInUse => "nonzero padding in e_ident"
  | .unknownVersion => "ELF file version does not match current one"
  | .otherMachine => "cannot open shared object file: No such file or directory"
  | .notLoadable => "only ET_DYN and ET_EXEC can be loaded"
  | .otherEntrySize => "ELF file's phentsize not the expected size"
  | .tableOutOfReach => "cannot read file data: Invalid argument"
  | .tableCutOff => "cannot read file data"
  | .misplacedSegment => "ELF load command address/offset not page-aligned"
  | .noSegments => "object file has no loadable segments"
  | .notDynamic => "object file has no dynamic section"
  | .fixedAddress => "cannot dynamically load executable"
  | .unmappable => "failed to map segment from shared object"
  | .program => "cannot dynamically load position-independent executable"
  | .notToBeOpened => "shared object cannot be dlopen()ed"
  | .executableStack =>
      "cannot enable executable stack as shared object requires: Invalid argument"

/-- The file is passed over because it is for another machine. -/
def isOtherKind : ObjectFault → Bool
  | .otherWidth | .otherMachine => true
  | _ => false

end ObjectFault

namespace ObjectFile

/-- The size of the header in bytes. -/
def headerSize : Nat := 64

/-- The bytes with which an object file begins. -/
def mark : List UInt8 := [0x7F, 0x45, 0x4C, 0x46]

/-- The number of `width` bytes at an offset, its lowest byte first; missing bytes are zero. -/
def field (bytes : List UInt8) (offset width : Nat) : Nat :=
  ((bytes.drop offset).take width).foldr (fun byte rest => byte.toNat + 256 * rest) 0

/-- The number of a system without extensions. -/
def plainSystem : Nat := 0

/-- The number of the system with extensions of its own. -/
def extendedSystem : Nat := 3

/-- Versions of the extended system from this one on are not known. -/
def systemVersions : Nat := 4

def isKnownSystemVersion (system version : Nat) : Bool :=
  version == 0 || (system == extendedSystem && version < systemVersions)

/-- What the field for the kind of file says of one that stays at its addresses. -/
def fixedKind : Nat := 2

/-- What the field for the kind of file says of one that can be put anywhere. -/
def sharedKind : Nat := 3

def kind (bytes : List UInt8) : Nat := field bytes 16 2

/-- The size of one entry in the table of segments. -/
def entrySize : Nat := 56

def segmentCount (bytes : List UInt8) : Nat := field bytes 56 2

def tableOffset (bytes : List UInt8) : Nat := field bytes 32 8

/-- What is wrong with the bytes that mark an object file. -/
def markFault? (bytes : List UInt8) : Option ObjectFault :=
  let system := field bytes 7 1
  if !mark.isPrefixOf bytes then some .noMark
  else if field bytes 4 1 != 2 then some .otherWidth
  else if field bytes 5 1 != 1 then some .otherByteOrder
  else if field bytes 6 1 != 1 then some .unknownMarkVersion
  else if system != plainSystem && system != extendedSystem then some .otherSystem
  else if !isKnownSystemVersion system (field bytes 8 1) then some .otherSystemVersion
  else if field bytes 9 7 != 0 then some .paddingInUse
  else none

/-- What is wrong with the description that follows the mark. -/
def descriptionFault? (bytes : List UInt8) : Option ObjectFault :=
  if field bytes 20 4 != 1 then some .unknownVersion
  else if field bytes 18 2 != 62 then some .otherMachine
  else if kind bytes != fixedKind && kind bytes != sharedKind then some .notLoadable
  else if field bytes 54 2 != entrySize then some .otherEntrySize
  else none

/-- How many bytes are read together with the header. -/
def firstRead : Nat := 832

/-- Offsets in a file stay below this. -/
def offsetLimit : Nat := 0x8000000000000000

/-- Why the table of segments cannot be read. -/
def tableFault? (bytes : List UInt8) : Option ObjectFault :=
  let size := entrySize * segmentCount bytes
  let stop := tableOffset bytes + size
  if stop ≤ (bytes.take firstRead).length then none
  else if offsetLimit ≤ stop then some .tableOutOfReach
  else if size != 0 && bytes.length < stop then some .tableCutOff
  else none

/-- What is wrong with the header. -/
def headerFault? (bytes : List UInt8) : Option ObjectFault :=
  if (bytes.take headerSize).length < headerSize then some .tooShort
  else ((markFault? bytes).or (descriptionFault? bytes)).or (tableFault? bytes)

theorem headerFault?_of_length_lt {bytes : List UInt8} (h : bytes.length < headerSize) :
    headerFault? bytes = some .tooShort := by
  have short : (bytes.take headerSize).length < headerSize := by
    rw [List.length_take]
    omega
  simp only [headerFault?, if_pos short]

end ObjectFile
end RoundTrip
