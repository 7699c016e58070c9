import RoundTrip.CommandLine.Words
import RoundTrip.Input

/-! # A tree of files

Files, libraries, links and special nodes by their place under the root. A path is followed from the
working directory; links are followed wherever they stand, at most forty of them in one path. A file
that is opened tells its size and is read as an input; nothing makes that size the number of bytes.
-/
namespace RoundTrip

/-- A place in the tree: the names from the root down. -/
abbrev Place := List (List UInt8)

/-- What stands in a regular file: the bytes that reads find, the size that it reports where it
reports one, and how its reads and seeks go. -/
structure Stored where
  bytes : List UInt8
  size? : Option Nat
  delivery : Delivery

/-- Bytes in a file that reports how many they are and never fails. -/
def Stored.ofBytes (bytes : List UInt8) : Stored := ⟨bytes, some bytes.length, .plain⟩

inductive Node where
  | file (stored : Stored) (readable : Bool)
  | library (symbols : List String) (stored : Stored)
  | link (target : List UInt8)
  | fifo
  | device
  | directory

/-- Files and libraries are regular; nothing else is. -/
def Node.isRegular : Node → Bool
  | .file .. | .library .. => true
  | .link _ | .fifo | .device | .directory => false

def Node.isDirectory : Node → Bool
  | .directory => true
  | .file .. | .library .. | .link _ | .fifo | .device => false

/-- What an open file tells of itself. -/
structure Metadata where
  isFile : Bool
  length : Nat

/-- A file opened for reading: what it tells of itself, where it can tell, and the input that it
is. -/
structure OpenFile where
  metadata? : Option Metadata
  input : Input

/-- The size of an open regular file, and nothing where it is none or cannot tell. -/
def OpenFile.size (file : OpenFile) : Nat :=
  ((file.metadata?.filter Metadata.isFile).map Metadata.length).getD 0

/-- A node that was opened. A directory has a length too, which counts no bytes. -/
def Node.opened : Node → OpenFile
  | .file stored _ | .library _ stored =>
      ⟨stored.size?.map fun size => ⟨true, size⟩, .ofDelivery stored.delivery stored.bytes⟩
  | .directory => ⟨some ⟨false, 4096⟩, .ofList []⟩
  | .link _ | .fifo | .device => ⟨some ⟨false, 0⟩, .ofList []⟩

/-- Only what is regular has a size. -/
theorem Node.size_opened_of_irregular {node : Node} (irregular : node.isRegular = false) :
    node.opened.size = 0 := by
  cases node <;> first | rfl | contradiction

/-- Why a path leads nowhere. -/
inductive PathFault where
  | notFound
  | notADirectory
  | tooManyLinks
  | nameTooLong
  | nul
  deriving DecidableEq

def PathFault.reason : PathFault → String
  | .notFound => "No such file or directory"
  | .notADirectory => "Not a directory"
  | .tooManyLinks => "Too many levels of symbolic links"
  | .nameTooLong => "File name too long"
  | .nul => "path contains an interior NUL byte"

structure FileSystem where
  /-- The nodes with their places, the latest first. -/
  nodes : List (Place × Node)
  workingDirectory : Place
  /-- The absolute path of the directory with the program. -/
  programDirectory : String

namespace FileSystem

def slash : UInt8 := 0x2F

/-- The names between slashes, empty ones included. -/
def names : List UInt8 → List (List UInt8)
  | [] => [[]]
  | byte :: rest =>
      if byte = slash then [] :: names rest
      else
        match names rest with
        | [] => [[byte]]
        | name :: others => (byte :: name) :: others

def isAbsolute (path : List UInt8) : Bool := path.head? == some slash

def node? (fs : FileSystem) (place : Place) : Option Node :=
  (fs.nodes.find? fun entry => entry.1 == place).map Prod.snd

def isDirectory (fs : FileSystem) (place : Place) : Bool :=
  place.isEmpty || (fs.node? place).any Node.isDirectory

/-- The greatest number of links followed in one path. -/
def maxLinks : Nat := 40

def maxName : Nat := 255

/-- The length of a path, terminator included, is at most this. -/
def maxPath : Nat := 4096

/-- Follows names from a place; at a link, `jump` goes on from where the link stands with the names
of its target before those that are left. -/
def descend (fs : FileSystem) (jump : Place → List (List UInt8) → Except PathFault Place)
    (here : Place) : List (List UInt8) → Except PathFault Place
  | [] => .ok here
  | name :: rest =>
      if !fs.isDirectory here then .error .notADirectory
      else if name.isEmpty || name == ascii "." then descend fs jump here rest
      else if name == ascii ".." then descend fs jump here.dropLast rest
      else if maxName < name.length then .error .nameTooLong
      else
        match fs.node? (here ++ [name]) with
        | none => .error .notFound
        | some (.link target) =>
            jump (if isAbsolute target then [] else here) (names target ++ rest)
        | some _ => descend fs jump (here ++ [name]) rest

/-- Follows names from a place, with so many links still allowed. -/
def walk (fs : FileSystem) : Nat → Place → List (List UInt8) → Except PathFault Place
  | 0 => descend fs fun _ _ => .error .tooManyLinks
  | links + 1 => descend fs (walk fs links)

/-- Where a path starts from. -/
def origin (fs : FileSystem) (path : List UInt8) : Place :=
  if isAbsolute path then [] else fs.workingDirectory

/-- The node that a path leads to, with its place. -/
def resolve (fs : FileSystem) (path : List UInt8) : Except PathFault (Place × Node) :=
  if 0 ∈ path then .error .nul
  else if path.isEmpty then .error .notFound
  else if maxPath ≤ path.length then .error .nameTooLong
  else do
    let place ← fs.walk maxLinks (fs.origin path) (names path)
    return (place, (fs.node? place).getD .directory)

def put (fs : FileSystem) (place : Place) (node : Node) : FileSystem :=
  { fs with nodes := (place, node) :: fs.nodes }

/-- Steps into a directory, which is made where there is none. -/
def stepInto (spot : FileSystem × Place) (name : List UInt8) : FileSystem × Place :=
  let (fs, here) := spot
  match fs.walk maxLinks here [name] with
  | .ok there => (fs, there)
  | .error _ => (fs.put (here ++ [name]) .directory, here ++ [name])

/-- Where a file written under a name comes to stand: at the end of the links there, which may be a
name that is still free. -/
def landing (fs : FileSystem) : (links : Nat) → Place → List UInt8 → Place
  | 0, here, name => here ++ [name]
  | links + 1, here, name =>
      match fs.node? (here ++ [name]) with
      | some (.link target) =>
          let parts := names target
          match fs.walk maxLinks (if isAbsolute target then [] else here) parts.dropLast with
          | .ok there => landing fs links there (parts.getLast?.getD [])
          | .error _ => here ++ [name]
      | _ => here ++ [name]

/-- Puts a node at a path, making the directories above it. -/
def place (fs : FileSystem) (path : List UInt8) (node : Node) : FileSystem :=
  let parts := (names path).filter fun name => !name.isEmpty && name != ascii "."
  match parts.getLast? with
  | none => fs
  | some name =>
      let (fs, parent) := parts.dropLast.foldl stepInto (fs, fs.origin path)
      if node.isDirectory then (stepInto (fs, parent) name).1
      else if node.isRegular then fs.put (fs.landing maxLinks parent name) node
      else fs.put (parent ++ [name]) node

/-- A tree with nothing but the null device, the directory of the program and an empty working
directory. -/
def fresh : FileSystem where
  nodes :=
    [([ascii "dev"], .directory), ([ascii "dev", ascii "null"], .device),
      ([ascii "program"], .directory), ([ascii "work"], .directory)]
  workingDirectory := [ascii "work"]
  programDirectory := "/program"

/-- A path leads to a regular file, links followed. -/
def isRegular (fs : FileSystem) (path : List UInt8) : Bool :=
  match fs.resolve path with
  | .ok (_, node) => node.isRegular
  | .error _ => false

/-- Why a file cannot be opened for reading. -/
def openFault : PathFault → IoFault
  | .notFound => ⟨.notFound, "No such file or directory (os error 2)"⟩
  | .notADirectory => ⟨.notADirectory, "Not a directory (os error 20)"⟩
  | .tooManyLinks => ⟨.tooManyLinks, "Too many levels of symbolic links (os error 40)"⟩
  | .nameTooLong => ⟨.invalidFilename, "File name too long (os error 36)"⟩
  | .nul => ⟨.invalidInput, "file name contained an unexpected NUL byte"⟩

/-- Opens a path for reading. -/
def openFile (fs : FileSystem) (path : List UInt8) : Except IoFault OpenFile :=
  match fs.resolve path with
  | .error fault => .error (openFault fault)
  | .ok (_, .file _ false) => .error ⟨.permissionDenied, "Permission denied (os error 13)"⟩
  | .ok (_, node) => .ok node.opened

end FileSystem
end RoundTrip
