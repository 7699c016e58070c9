import RoundTrip.CommandLine.Listing
import RoundTrip.CommandLine.Parse
import RoundTrip.Session

/-! # One invocation of the program

From the words of a command line to an exit status and what was written to the two outputs. The
status is zero for success, two for a fault of configuration, and one for a fault of the run.
-/
namespace RoundTrip.CommandLine

/-- How an invocation ended, how often it asked for a library, and how many inputs it opened. -/
structure Ending where
  status : Nat
  output : List UInt8
  errors : String
  librariesSought : Nat
  inputsOpened : Nat

/-- The ending of an invocation that touched no file. -/
def Ending.untouched (status : Nat) (output errors : String) : Ending :=
  ⟨status, Text.utf8 output, errors, 0, 0⟩

def success : Nat := 0

def runtimeFailure : Nat := 1

def configurationFailure : Nat := 2

/-- The display level where none is asked for: errors only. -/
def defaultDisplayLevel : Nat := 1

def statusOf (fault : Fault) : Nat :=
  match fault.kind with
  | .configuration => configurationFailure
  | .runtime => runtimeFailure

/-- The ending of a command line that was refused. The outputs take a text in pieces, so a control
sequence that a shown character interrupted goes on later. -/
def refused (refusal : Refusal) : Ending :=
  let line := String.ofList (refusal.firstLine .pauses) ++ "\n"
  if refusal.isRequest then .untouched success line "" else .untouched configurationFailure "" line

/-- What a failed run over a file is put down to. -/
def context (path : String) : String :=
  s!"Error in compression and decompression operations on [{path}]"

/-- The text of a complaint, after what the console has shown. -/
def complaint (console : Console) (message : String) : String :=
  (console.say (.complaint programName message)).text

/-- The text for a command line without an input. -/
def noInput : String := "no input file given; use -h for the supported options"

/-- The ending of a run over a file. -/
def ended {σ : Type} (path : String) (outcome : Except Fault Nat) (session : FileSession σ Page) :
    Ending where
  status := match outcome with
    | .ok _ => success
    | .error fault => statusOf fault
  output := session.sink.written
  errors := match outcome with
    | .ok _ => session.console.text
    | .error fault => complaint session.console (context path ++ ": " ++ fault.chain)
  librariesSought := session.loader.sought
  inputsOpened := session.inputsOpened

/-- Runs over the input file. -/
def runFile {σ : Type} (native : Native σ) (s : σ) (files : FileSystem) (settings : Settings)
    (path : Word) (console : Console) : Ending :=
  let session : FileSession σ Page :=
    ⟨console.say .banner, .ofFiles files, s, .blank none, 0⟩
  let run := FileSession.run ⟨native, Page.sink⟩ settings path
  match run session with
  | .ok done session => ended (Text.lossyText path) (.ok done) session
  | .error fault session => ended (Text.lossyText path) (.error fault) session

/-- Does what the options ask for. -/
def perform {σ : Type} (native : Native σ) (s : σ) (files : FileSystem) (options : Options) :
    Ending :=
  let console := Console.ofThreshold (options.displayLevel?.getD defaultDisplayLevel)
  if options.list then .untouched success listing ""
  else
    match options.settings with
    | .error megabytes =>
        .untouched configurationFailure ""
          (complaint console (Options.memoryTooLarge megabytes))
    | .ok settings =>
        match options.input with
        | none => .untouched configurationFailure "" (complaint console noInput)
        | some path => runFile native s files settings path console

/-- Runs the program on a command line, its own name first. -/
def invoke {σ : Type} (native : Native σ) (s : σ) (files : FileSystem) (words : List Word) :
    Ending :=
  match parse words with
  | .error refusal => refused refusal
  | .ok options => perform native s files options

end RoundTrip.CommandLine
