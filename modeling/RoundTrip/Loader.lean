import RoundTrip.Fault
import RoundTrip.FileSystem
import RoundTrip.ObjectFile.Segments
import RoundTrip.PathToken
import RoundTrip.Text.Utf8

/-! # The loader of libraries

Opening a library, looking up its symbols and closing it, with a ledger of what was opened and
closed. A file that is open already keeps the name under which it was first opened.
-/
namespace RoundTrip

/-- One open library: the path it was asked for by, and the file's name to the loader. -/
structure Library where
  id : Nat
  path : String
  loaderName : String
  place : Place
  symbols : List String
  deriving DecidableEq

namespace Library

/-- A name with a NUL can be no symbol; any other is looked up among the symbols. -/
def symbol (l : Library) (name : String) : Except String Unit :=
  if '\x00' ∈ name.toList then .error "symbol name contains NUL"
  else if name ∈ l.symbols then .ok ()
  else .error s!"{l.loaderName}: undefined symbol: {name}"

/-- The loader's name of the file that holds a symbol. -/
def resolvedPath? (l : Library) (name : String) : Option String :=
  if name ∈ l.symbols then some l.loaderName else none

end Library

structure Loader where
  files : FileSystem
  /-- How often a library was asked for. -/
  sought : Nat
  /-- How many libraries were opened so far. -/
  opened : Nat
  /-- The libraries that are open, the latest first. -/
  current : List Library
  /-- What was closed so far, the latest first. -/
  closed : List Nat
  /-- Why a library fails to close, by its number, where it does. -/
  closeFault? : Nat → Option String

namespace Loader

/-- A loader that has opened nothing yet and never fails to close. -/
def ofFiles (files : FileSystem) : Loader := ⟨files, 0, 0, [], [], fun _ => none⟩

/-- A path without a slash is looked for in the working directory and then in those of the system,
which hold no library that is asked for here. -/
def isSearched (path : String) : Bool := '/' ∉ path.toList

/-- The name under which the file behind a path is opened: tokens count only beside a slash. -/
def fileName (files : FileSystem) (path : String) : String :=
  if isSearched path then "./" ++ path else PathToken.expand files.programDirectory path

/-- Where a search ends: whatever stands in its way in the working directory, the system's
directories do not have the name, or it is too long for any. -/
def searchFault (path : String) : PathFault :=
  if FileSystem.maxName < path.utf8ByteSize then .nameTooLong else .notFound

/-- The reason where nothing could be opened; `reason` is that of the path itself. -/
def cannotOpen (path reason : String) : String :=
  let reason := if isSearched path then (searchFault path).reason else reason
  s!"{path}: cannot open shared object file: {reason}"

/-- Why the bytes of a file are no library. A fault of the header is put down to the file, one found
later or one that is passed over to the path. -/
def unusable? (path name : String) (bytes : List UInt8) : Option String :=
  match ObjectFile.headerFault? bytes with
  | some fault =>
      let culprit := if fault.isOtherKind then path else name
      some (culprit ++ ": " ++ fault.reason)
  | none => (ObjectFile.segmentsFault? bytes).map fun fault => path ++ ": " ++ fault.reason

/-- Why a node cannot be opened as a library, if it cannot. -/
def refusal? (path name : String) : Node → Option String
  | .library .. => none
  | .file _ false => some (cannotOpen path "Permission denied")
  | .file stored true => unusable? path name stored.bytes
  | .directory => some s!"{name}: cannot read file data: Is a directory"
  | .fifo | .device | .link _ => some s!"{name}: file too short"

/-- A byte string occurs in another. -/
def occurs (needle : List UInt8) : List UInt8 → Bool
  | [] => needle.isEmpty
  | byte :: rest => needle.isPrefixOf (byte :: rest) || occurs needle rest

/-- The symbols of all engines that occur in the bytes of a library. -/
def symbolsIn (bytes : List UInt8) : List String :=
  (Engine.all.flatMap fun e => [e.symbol .compress, e.symbol .decompress]).filter fun symbol =>
    occurs (ascii symbol) bytes

/-- The symbols behind a node. -/
def symbolsOf : Node → List String
  | .library symbols _ => symbols
  | .file stored _ => symbolsIn stored.bytes
  | .link _ | .fifo | .device | .directory => []

/-- Finds what a path stands for, or says why it is no library. The empty path stands for the
program itself, which exports nothing. -/
def find (files : FileSystem) (path : String) : Except String (Place × List String) :=
  if path.isEmpty then .ok ([], [])
  else
    match files.resolve (Text.utf8 (fileName files path)) with
    | .error .nul => .error PathFault.nul.reason
    | .error fault => .error (cannotOpen path fault.reason)
    | .ok (place, node) =>
        match refusal? path (fileName files path) node with
        | some reason => .error reason
        | none => .ok (place, symbolsOf node)

/-- Opens the library at a path. -/
def openLibrary (path : String) : EStateM Fault Loader Library := fun loader =>
  let loader := { loader with sought := loader.sought + 1 }
  match find loader.files path with
  | .error reason => .error (.load path reason) loader
  | .ok (place, symbols) =>
      let loaderName :=
        match loader.current.find? fun l => l.place == place with
        | some l => l.loaderName
        | none => fileName loader.files path
      let library : Library := ⟨loader.opened, path, loaderName, place, symbols⟩
      .ok library { loader with
        opened := loader.opened + 1
        current := library :: loader.current }

/-- Closes an open library. It is given up for good, whether the closing fails or not. -/
def close (loader : Loader) (library : Library) : Loader :=
  { loader with
    current := loader.current.filter fun l => l.id != library.id
    closed := library.id :: loader.closed }

theorem opened_close (loader : Loader) (library : Library) :
    (loader.close library).opened = loader.opened := rfl

end Loader
end RoundTrip
