import RoundTrip.Sweep

/-! # Runs over an input and over a file

A session checks the settings, sets up the codecs they select and sweeps an input. A file run does
so over a regular file with a context of its own, and closes every library again whatever happened.
-/
namespace RoundTrip

/-- What a run over an input works with. -/
structure Session (σ τ : Type) where
  host : Host
  native : σ
  input : Input
  sink : τ

/-- What a run asks for besides its settings: the codes behind the functions, and the sink. -/
structure Runner (σ τ : Type) where
  native : Native σ
  sink : Sink τ

namespace Session

variable {σ τ : Type}

def onHost {α : Type} (step : EStateM Fault Host α) : EStateM Fault (Session σ τ) α :=
  onPart Session.host (fun h s => { s with host := h }) step

def onConsole {α : Type} (step : EStateM Fault Console α) : EStateM Fault (Session σ τ) α :=
  onHost (onPart Host.console (fun c h => { h with console := c }) step)

/-- Sweeps the input with the given buffers. -/
def sweepWith (runner : Runner σ τ) (settings : Settings) (fileSize : Nat) (fileName : String)
    (buffers : Buffers) : EStateM Fault (Session σ τ) Nat := fun s =>
  let run : SweepRun σ τ :=
    ⟨runner.native, runner.sink, s.host.context, settings, fileSize, fileName⟩
  let put (t : SweepState σ τ) : Session σ τ :=
    { host := { s.host with console := t.bench.console }
      native := t.bench.native
      input := t.bench.input
      sink := t.sink }
  match run.execute ⟨⟨s.host.console, s.native, s.input, buffers⟩, s.sink⟩ with
  | .ok done t => .ok done (put t)
  | .error fault t => .error fault (put t)

/-- Sweeps the input with buffers for its chunks, and sets nothing up. -/
def sweep (runner : Runner σ τ) (settings : Settings) (fileSize : Nat) (fileName : String) :
    EStateM Fault (Session σ τ) Nat :=
  sweepWith runner settings fileSize fileName (.ofChunkSize (settings.chunkSize fileSize))

/-- Checks the settings, sets up the codecs and sweeps the input; the context stays open. -/
def run (runner : Runner σ τ) (settings : Settings) (fileSize : Nat) (fileName : String) :
    EStateM Fault (Session σ τ) Nat := do
  let _ ← onConsole settings.validate
  onHost (Host.setup settings.selected)
  onHost (Host.say
    (.input fileName fileSize (settings.chunkSize fileSize) settings.effectiveIterations))
  sweep runner settings fileSize fileName

end Session

/-- What a run over a file works with. -/
structure FileSession (σ τ : Type) where
  console : Console
  loader : Loader
  native : σ
  sink : τ
  /-- How many input files were opened. -/
  inputsOpened : Nat

namespace FileSession

variable {σ τ : Type}

def say (notice : Notice) : EStateM Fault (FileSession σ τ) Unit := fun s =>
  .ok () { s with console := s.console.say notice }

/-- The part of a path after its last slash or backslash. -/
def displayName (path : String) : String :=
  String.ofList
    (path.toList.reverse.takeWhile fun c => c != '/' && c != '\\').reverse

/-- Refuses an input file. -/
def refuse {α : Type} (path : String) (fault : IoFault) : EStateM Fault (FileSession σ τ) α := do
  say (.inputRefused path)
  throw (.io fault)

/-- Opens the regular file at a path. -/
def openInput (path : Word) : EStateM Fault (FileSession σ τ) OpenFile := do
  let s ← get
  let shown := Text.lossyText path
  if s.loader.files.isRegular path then
    match s.loader.files.openFile path with
    | .ok file => do
        set { s with inputsOpened := s.inputsOpened + 1 }
        return file
    | .error fault => refuse shown fault
  else refuse shown ⟨.invalidInput, shown ++ " is not a regular file"⟩

theorem openInput_eq (path : Word) (s : FileSession σ τ) :
    openInput path s =
      if s.loader.files.isRegular path then
        match s.loader.files.openFile path with
        | .ok file => .ok file { s with inputsOpened := s.inputsOpened + 1 }
        | .error fault => refuse (Text.lossyText path) fault s
      else
        refuse (Text.lossyText path)
          ⟨.invalidInput, Text.lossyText path ++ " is not a regular file"⟩ s := by
  change (ite _ _ _ : EStateM Fault (FileSession σ τ) OpenFile) s = _
  split
  · cases s.loader.files.openFile path with
    | ok file => rfl
    | error fault => rfl
  · rfl

/-- Runs over an open file, up to the size that it tells, with a fresh context, whose libraries are
closed at the end. -/
def runOver (runner : Runner σ τ) (settings : Settings) (dir : LibraryDir) (fileName : String)
    (file : OpenFile) : EStateM Fault (FileSession σ τ) (Except Fault Nat) := fun s =>
  let session : Session σ τ :=
    ⟨⟨s.console, s.loader, .ofDir dir⟩, s.native, file.input, s.sink⟩
  let finish (outcome : Except Fault Nat) (session : Session σ τ) :
      EStateM.Result Fault (FileSession σ τ) (Except Fault Nat) :=
    let (closed, host) := session.host.teardown
    .ok outcome
      { console := host.console.say (.released closed)
        loader := host.loader
        native := session.native
        sink := session.sink
        inputsOpened := s.inputsOpened }
  match Session.run runner settings file.size fileName session with
  | .ok done session => finish (.ok done) session
  | .error fault session => finish (.error fault) session

/-- Runs over the file at a path; the answer is the number of cells completed. -/
def run (runner : Runner σ τ) (settings : Settings) (path : Word) :
    EStateM Fault (FileSession σ τ) Nat := do
  say (.enter .fileRun)
  let dir ← onPart FileSession.console (fun c s => { s with console := c }) settings.validate
  let file ← openInput path
  let outcome ← runOver runner settings dir (displayName (Text.lossyText path)) file
  say (.exit .fileRun)
  match outcome with
  | .ok done => return done
  | .error fault => throw fault

end FileSession
end RoundTrip
