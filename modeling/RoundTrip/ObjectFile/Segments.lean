import RoundTrip.ObjectFile.Header

/-! # The segments of an object file

What the table of segments must say before a file is put into memory, and what the file then says of
itself: it must be dynamic, movable, mappable, meant to be opened, and content with a stack that is
not executable. Addresses are words of 64 bits.
-/
namespace RoundTrip.ObjectFile

structure Segment where
  kind : Nat
  flags : Nat
  offset : Nat
  address : Nat
  fileSize : Nat
  memorySize : Nat
  alignment : Nat
  deriving DecidableEq

def pageSize : Nat := 4096

/-- A number of 64 bits. -/
def word (n : Nat) : Nat := n % 0x10000000000000000

def pageDown (n : Nat) : Nat := n / pageSize * pageSize

def pageUp (n : Nat) : Nat := word (pageDown (n + (pageSize - 1)))

namespace Segment

/-- The segment whose entry stands at an offset. -/
def ofEntry (bytes : List UInt8) (entry : Nat) : Segment where
  kind := field bytes entry 4
  flags := field bytes (entry + 4) 4
  offset := field bytes (entry + 8) 8
  address := field bytes (entry + 16) 8
  fileSize := field bytes (entry + 32) 8
  memorySize := field bytes (entry + 40) 8
  alignment := field bytes (entry + 48) 8

/-- It is to be put into memory. -/
def isLoaded (s : Segment) : Bool := s.kind == 1

/-- It tells where the dynamic section is. -/
def isDynamic (s : Segment) : Bool := s.kind == 2

/-- It tells what the stack must allow. -/
def isStack (s : Segment) : Bool := s.kind == 0x6474E551

/-- Its place in the file and in memory differ by no whole number of pages. -/
def isMisplaced (s : Segment) : Bool := s.address % pageSize != s.offset % pageSize

/-- The first page in memory. -/
def first (s : Segment) : Nat := pageDown s.address

/-- The page after what comes from the file. -/
def afterFile (s : Segment) : Nat := pageUp (word (s.address + s.fileSize))

/-- The address after all of it. -/
def afterMemory (s : Segment) : Nat := word (s.address + s.memorySize)

end Segment

def segments (bytes : List UInt8) : List Segment :=
  (List.range (segmentCount bytes)).map fun entry =>
    .ofEntry bytes (tableOffset bytes + entrySize * entry)

/-- The address of the dynamic section; none is at zero. -/
def dynamicAddress (table : List Segment) : Nat :=
  (((table.filter fun s => s.isDynamic && s.fileSize != 0).getLast?).map Segment.address).getD 0

/-- There is no dynamic section that could be read. -/
def lacksDynamic (shared : Bool) (table : List Segment) : Bool :=
  (shared && dynamicAddress table == 0) || table.any fun s => s.isDynamic && s.fileSize == 0

/-- The bytes of memory from the first page of the first loaded segment to the end of the last. -/
def extent (loaded : List Segment) : Nat :=
  match loaded.head?, loaded.getLast? with
  | some first, some last => word (last.afterMemory + (0x10000000000000000 - first.first))
  | _, _ => 0

def isPowerOfTwo (n : Nat) : Bool := n &&& (n - 1) == 0

/-- The greatest alignment that is a power of two. -/
def greatestAlignment (loaded : List Segment) : Nat :=
  ((loaded.map Segment.alignment).filter isPowerOfTwo).foldl max 0

/-- The bytes of memory that are asked for: more than the extent where pages are not aligned
enough. -/
def reservation (loaded : List Segment) : Nat :=
  let alignment := greatestAlignment loaded
  if alignment ≤ pageSize then extent loaded
  else if alignment ≤ extent loaded then word (extent loaded + alignment)
  else word (2 * alignment)

/-- The memory of one process. -/
def memorySpace : Nat := 0x800000000000 - pageSize

/-- The memory can be had and the file has offsets for it. -/
def isMappable (loaded : List Segment) : Bool :=
  let offset := pageDown ((loaded.head?.map Segment.offset).getD 0)
  extent loaded != 0 && extent loaded ≤ memorySpace &&
    reservation loaded != 0 && reservation loaded ≤ memorySpace &&
    offset + extent loaded ≤ offsetLimit

/-- Two neighbours do not meet. -/
def hasHoles : List Segment → Bool
  | s :: t :: rest => s.afterFile != t.first || hasHoles (t :: rest)
  | _ => false

/-- Segments do not meet, and the last begins before the first ends. -/
def isDisordered (loaded : List Segment) : Bool :=
  match loaded.head?, loaded.getLast? with
  | some first, some last => hasHoles loaded && last.first < first.afterFile
  | _, _ => false

/-- The offset in the file of what lies at an address. -/
def offsetOf (loaded : List Segment) (address : Nat) : Nat :=
  let holds (s : Segment) : Bool := s.first ≤ address && address < s.afterFile
  match (loaded.filter holds).getLast? with
  | some s => pageDown s.offset + (address - s.first)
  | none => address

/-- The value of the last entry with a tag in a dynamic section, of which so many entries are
looked at; a tag of zero ends the section. -/
def lastTagged (bytes : List UInt8) (tag : Nat) : (entries offset : Nat) → Option Nat
  | 0, _ => none
  | entries + 1, offset =>
      let found := field bytes offset 8
      if found == 0 then none
      else
        match lastTagged bytes tag entries (offset + 16) with
        | some value => some value
        | none => if found == tag then some (field bytes (offset + 8) 8) else none

/-- The tag of the flags of a dynamic section. -/
def flagsTag : Nat := 0x6FFFFFFB

/-- The flags of the dynamic section. -/
def dynamicFlags (bytes : List UInt8) (table : List Segment) : Nat :=
  let offset := offsetOf (table.filter Segment.isLoaded) (dynamicAddress table)
  (lastTagged bytes flagsTag (bytes.length / 16 + 1) offset).getD 0

/-- Without a word about the stack it must be executable. -/
def needsExecutableStack (table : List Segment) : Bool :=
  match (table.filter Segment.isStack).getLast? with
  | some s => s.flags.testBit 0
  | none => true

/-- What is wrong with the table of segments. -/
def tableContentsFault? (shared : Bool) (table : List Segment) : Option ObjectFault :=
  let loaded := table.filter Segment.isLoaded
  if loaded.any Segment.isMisplaced then some .misplacedSegment
  else if loaded.isEmpty then some .noSegments
  else if lacksDynamic shared table then some .notDynamic
  else if !shared then some .fixedAddress
  else if !isMappable loaded then some .unmappable
  else if isDisordered loaded then some .misplacedSegment
  else none

/-- What a file that is in memory says against being there. -/
def loadedFault? (bytes : List UInt8) (table : List Segment) : Option ObjectFault :=
  if (dynamicFlags bytes table).testBit 27 then some .program
  else if (dynamicFlags bytes table).testBit 6 then some .notToBeOpened
  else if needsExecutableStack table then some .executableStack
  else none

/-- What is wrong with a file whose header is right. -/
def segmentsFault? (bytes : List UInt8) : Option ObjectFault :=
  let table := segments bytes
  (tableContentsFault? (kind bytes == sharedKind) table).or (loadedFault? bytes table)

theorem length_segments (bytes : List UInt8) :
    (segments bytes).length = segmentCount bytes := by
  simp [segments]

end RoundTrip.ObjectFile
