import RoundTrip.LibraryDir
import RoundTrip.Loader
import RoundTrip.Native.Call
import RoundTrip.Step
import RoundTrip.Text.Quoted

/-! # Contexts

A context owns the libraries of a run. Each engine has a slot, which is empty or has a handle of the
engine: code in the process image, or an open library with both symbols. Engines of one file share
one library, and a library that no handle refers to any more is closed.
-/
namespace RoundTrip

/-- The code behind an engine that is set up. -/
inductive Backing where
  | process
  | library (library : Library)
  deriving DecidableEq

namespace Backing

def image : Backing → Image
  | .process => .process
  | .library l => .library l.id

def library? : Backing → Option Library
  | .process => none
  | .library l => some l

end Backing

/-- An engine that is set up, with the code behind it. -/
structure Handle where
  engine : Engine
  backing : Backing
  deriving DecidableEq

namespace Handle

/-- Code of the process image behind an engine. -/
def inProcess (engine : Engine) : Handle := ⟨engine, .process⟩

/-- The functions of the engine. -/
def entry (handle : Handle) : EntryPoints := ⟨handle.engine, handle.backing.image⟩

def library? (handle : Handle) : Option Library := handle.backing.library?

/-- The path by which the library was asked for. -/
def path? (handle : Handle) : Option String := handle.library?.map Library.path

/-- Two handles are backed by one library. -/
def shares (first second : Handle) : Bool :=
  match first.library?, second.library? with
  | some a, some b => a.id == b.id
  | _, _ => false

/-- A handle in one line. -/
def describe (handle : Handle) : String :=
  let library := match handle.path? with
    | none => "None"
    | some path => "Some(" ++ Text.quoted path ++ ")"
  "CodecHandle \x7b codec: " ++ handle.engine.codec.tag ++ ", library: " ++ library ++ " \x7d"

end Handle

structure Context where
  dir : LibraryDir
  slots : EngineTable (Option Handle)
  /-- A handle stands in the slot of its own engine. -/
  own : ∀ e handle, slots.get e = some handle → handle.engine = e

namespace Context

def ofDir (dir : LibraryDir) : Context := ⟨dir, .replicate none, by simp⟩

/-- Puts a handle into the slot of its engine, in the place of any other. -/
def put (c : Context) (handle : Handle) : Context where
  dir := c.dir
  slots := c.slots.set handle.engine (some handle)
  own e other h := by
    by_cases here : e = handle.engine
    · rw [here, EngineTable.get_set_self] at h
      rw [here, Option.some.inj h]
    · rw [EngineTable.get_set_of_ne _ _ here] at h
      exact c.own e other h

/-- A context with code of the process image behind every engine. -/
def inProcess (dir : LibraryDir) : Context :=
  Engine.all.foldl (fun c e => c.put (.inProcess e)) (ofDir dir)

def isOpen (c : Context) (e : Engine) : Bool := (c.slots.get e).isSome

/-- The handles in the slots, in table order. -/
def handles (c : Context) : List Handle := c.slots.toList.filterMap id

/-- The engines that are set up, in table order. -/
def openEngines (c : Context) : List Engine := c.handles.map Handle.engine

/-- The functions behind the slot of an engine. -/
def entry? (c : Context) (e : Engine) : Option EntryPoints := (c.slots.get e).map Handle.entry

/-- The library behind the slot of an engine. -/
def library? (c : Context) (e : Engine) : Option Library := (c.slots.get e).bind Handle.library?

/-- The libraries behind the handles, each once, in table order. -/
def libraries (c : Context) : List Library :=
  (c.handles.filterMap Handle.library?).foldl
    (fun seen l => if l ∈ seen then seen else seen ++ [l]) []

/-- Some handle refers to the library. -/
def refersTo (c : Context) (library : Library) : Bool :=
  c.libraries.any fun l => l.id == library.id

/-- An open library that serves the same file as an engine. -/
def shared? (c : Context) (e : Engine) : Option Library :=
  (c.handles.filter fun handle => handle.engine.libraryFile == e.libraryFile).findSome?
    Handle.library?

/-- Two engines are set up on one library. -/
def shares (c : Context) (first second : Engine) : Bool :=
  match c.slots.get first, c.slots.get second with
  | some a, some b => a.shares b
  | _, _ => false

/-- The functions in a slot are those of its engine. -/
theorem engine_of_entry? {c : Context} {e : Engine} {entry : EntryPoints}
    (hentry : c.entry? e = some entry) : entry.engine = e := by
  obtain ⟨handle, hslot, rfl⟩ := Option.map_eq_some_iff.mp hentry
  exact c.own e handle hslot

@[simp] theorem slots_inProcess (dir : LibraryDir) (e : Engine) :
    (inProcess dir).slots.get e = some (.inProcess e) := by
  cases e <;> rfl

@[simp] theorem entry?_inProcess (dir : LibraryDir) (e : Engine) :
    Context.entry? (inProcess dir) e = some ⟨e, .process⟩ := by
  rw [ entry?, slots_inProcess]
  rfl

/-- The context in one line. -/
def describe (c : Context) : String :=
  "BenchContext \x7b dir: LibraryDir \x7b prefix: " ++ Text.quoted c.dir.path ++ " \x7d, open: [" ++
    ", ".intercalate (c.openEngines.map fun e => e.codec.tag) ++ "] \x7d"

end Context

/-- The functions of an engine in one line. -/
def EntryPoints.describe (entry : EntryPoints) : String :=
  "EntryPoints \x7b codec: " ++ entry.engine.codec.tag ++ ", convention: " ++
    entry.engine.convention.tag ++ " \x7d"

/-- A console, the loader and the context that one run sets up. -/
structure Host where
  console : Console
  loader : Loader
  context : Context

namespace Host

def say (notice : Notice) : EStateM Fault Host Unit := fun h =>
  .ok () { h with console := h.console.say notice }

/-- Opens a library and says so where it can be told from which file. -/
def openLibrary (dir : LibraryDir) (codec : Codec) : EStateM Fault Host Library :=
  match codec.engine? with
  | none => do
      say .onlySupported
      throw (.unsupportedCodec codec)
  | some engine => do
      let path := dir.join engine.libraryFile
      say (.opening path codec)
      match ← attempt (onPart Host.loader (fun l h => { h with loader := l })
          (Loader.openLibrary path)) with
      | .error fault => do
          say (.fault fault)
          throw fault
      | .ok library => do
          match library.resolvedPath? (engine.symbol .decompress) with
          | none => return library
          | some resolved => do
              say (.openedFrom engine.libraryFile resolved)
              return library

/-- Lets go of a library. The last that does closes it, and does not ask whether that went well. -/
def drop (h : Host) (library : Library) : Host :=
  if h.context.refersTo library then h
  else { h with loader := h.loader.close library }

def release (library : Library) : EStateM Fault Host Unit := fun h => .ok () (h.drop library)

/-- Looks up one function of an engine. -/
def findSymbol (library : Library) (engine : Engine) (direction : Direction) :
    EStateM Fault Host Unit :=
  match library.symbol (engine.symbol direction) with
  | .ok () => pure ()
  | .error reason => do
      say (.missingSymbol reason)
      throw (.symbol engine.libraryFile (engine.symbol direction) reason)

/-- Looks up both functions of an engine, the one for compressing first. -/
def findSymbols (library : Library) (engine : Engine) : EStateM Fault Host Unit := do
  findSymbol library engine .compress
  findSymbol library engine .decompress

/-- The library for an engine: one that is open already, or a newly opened one. -/
def obtain (engine : Engine) : EStateM Fault Host Library := do
  let h ← get
  match h.context.shared? engine with
  | some library => do
      say (.sharing engine.codec library.path)
      return library
  | none => openLibrary h.context.dir engine.codec

/-- Fills the slot of an engine; a library without the functions is let go again. -/
def setupEngine (engine : Engine) : EStateM Fault Host Unit := do
  let library ← obtain engine
  match ← attempt (findSymbols library engine) with
  | .ok () => modify fun h => { h with context := h.context.put ⟨engine, .library library⟩ }
  | .error fault => do
      release library
      throw fault

/-- Sets up one codec unless its slot is filled. -/
def setupCodec (codec : Codec) : EStateM Fault Host Unit :=
  match codec.engine? with
  | none => do
      let h ← get
      let _ ← openLibrary h.context.dir codec
      return ()
  | some engine => do
      let h ← get
      if h.context.isOpen engine then return () else setupEngine engine

/-- Sets up codecs in turn and stops at the first that fails. -/
def setup : List Codec → EStateM Fault Host Unit
  | [] => pure ()
  | codec :: rest => do
      setupCodec codec
      setup rest

/-- Puts a handle into the slot of its engine; the one that was there is let go. -/
def install (h : Host) (handle : Handle) : Host :=
  let before := h.context.library? handle.engine
  let h := { h with context := h.context.put handle }
  match before with
  | none => h
  | some library => h.drop library

/-- Closes a library and says how that went, unless a handle still refers to it; the answer is how
many were closed. -/
def closeLoudly (h : Host) (library : Library) : Nat × Host :=
  if h.context.refersTo library then (0, h.drop library)
  else
    let closed := { h with loader := h.loader.close library }
    match h.loader.closeFault? library.id with
    | none => (1, { closed with console := h.console.say (.closed library.path) })
    | some reason =>
        (0, { closed with console := h.console.say (.closeFailed library.path reason) })

/-- Closes libraries in turn; the answer is how many were closed. -/
def closeAll (h : Host) : List Library → Nat × Host
  | [] => (0, h)
  | library :: rest =>
      let (one, h) := h.closeLoudly library
      let (others, h) := closeAll h rest
      (one + others, h)

/-- Empties every slot and closes each library once; the answer is how many were closed. -/
def teardown (h : Host) : Nat × Host :=
  closeAll { h with context := .ofDir h.context.dir } h.context.libraries

end Host
end RoundTrip
