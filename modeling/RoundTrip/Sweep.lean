import RoundTrip.Cell
import RoundTrip.Context
import RoundTrip.Plan
import RoundTrip.Report.Sink

/-! # The sweep

Every planned cell is run in order over the same input and buffers. What became of a cell is
reported before the next one starts or, where the cell failed, before its fault is returned; the
first fault ends the sweep.
-/
namespace RoundTrip

/-- What a sweep works with. -/
structure SweepState (σ τ : Type) where
  bench : Workbench σ
  sink : τ

/-- What a sweep runs on and what it is asked for. -/
structure SweepRun (σ τ : Type) where
  native : Native σ
  sink : Sink τ
  context : Context
  settings : Settings
  fileSize : Nat
  fileName : String

namespace SweepRun

variable {σ τ : Type}

/-- Runs a step on the workbench. -/
def onBench {α : Type} (step : EStateM Fault (Workbench σ) α) : EStateM Fault (SweepState σ τ) α :=
  onPart SweepState.bench (fun w s => { s with bench := w }) step

def say (notice : Notice) : EStateM Fault (SweepState σ τ) Unit := onBench (Workbench.say notice)

/-- Reports an event; a sink that fails makes an input and output fault. -/
def emit (run : SweepRun σ τ) (cell : CellId) (event : Event) :
    EStateM Fault (SweepState σ τ) Unit :=
  EStateM.adaptExcept Fault.io
    (onPart SweepState.sink (fun t s => { s with sink := t }) (run.sink.emit cell event))

/-- The cell as reports name it. -/
def cellId (run : SweepRun σ τ) (cell : Cell) : CellId :=
  ⟨run.settings.label, cell.codec, cell.level, run.fileName⟩

/-- How a planned cell is run on the functions of its engine. -/
def cellRun (run : SweepRun σ τ) (cell : Cell) (entry : EntryPoints) : CellRun σ where
  native := run.native
  entry := entry
  cell := run.cellId cell
  options :=
    { iterations := run.settings.effectiveIterations
      verify := run.settings.verify
      statistics := run.settings.statistics
      extra := cell.extra }

/-- Reports a cell that was completed. -/
def reportSuccess (run : SweepRun σ τ) (cell : CellId) (tally : Tally) :
    EStateM Fault (SweepState σ τ) Unit := do
  if run.settings.verify then run.emit cell (.verification true)
  if run.settings.statistics then
    run.emit cell
      (.statistics (tally.summarize run.fileSize run.settings.effectiveIterations))

/-- The event for a fault of a cell; an input that could not be read has none. -/
def failureEvent? : Fault → Option Event
  | .verificationFailed .. => some (.verification false)
  | .callFailed direction .. => some (.failure direction)
  | _ => none

/-- Reports a cell that failed and gives its fault back. -/
def reportFailure {α : Type} (run : SweepRun σ τ) (cell : CellId) (fault : Fault) :
    EStateM Fault (SweepState σ τ) α := do
  match failureEvent? fault with
  | none => pure ()
  | some event => run.emit cell event
  say (.fault fault)
  say (.exit .sweep)
  throw fault

/-- The fault of a cell whose engine is not set up. -/
def notSetUp (cell : Cell) : Fault :=
  .load cell.engine.libraryFile s!"{cell.codec.name} was not set up for this run"

/-- Runs one planned cell. -/
def runCell (run : SweepRun σ τ) (cell : Cell) : EStateM Fault (SweepState σ τ) Unit :=
  match run.context.entry? cell.engine with
  | none => throw (notSetUp cell)
  | some entry => do
      let id := run.cellId cell
      say (.starting id run.settings.effectiveIterations)
      match ← attempt (onBench ((run.cellRun cell entry).execute run.fileSize)) with
      | .ok tally => run.reportSuccess id tally
      | .error fault => run.reportFailure id fault

/-- Runs cells in turn; the answer counts those completed, with `done` before them. -/
def runCells (run : SweepRun σ τ) : List Cell → Nat → EStateM Fault (SweepState σ τ) Nat
  | [], done => pure done
  | cell :: rest, done => do
      run.runCell cell
      run.runCells rest (done + 1)

/-- Plans the cells, with a warning where there is cause for one. -/
def plan (run : SweepRun σ τ) : EStateM Fault (SweepState σ τ) (List Cell) :=
  onBench (onPart Workbench.console (fun c w => { w with console := c })
    (change (Plan.announce run.settings)))

/-- Runs the whole plan; the answer is the number of cells completed. -/
def execute (run : SweepRun σ τ) : EStateM Fault (SweepState σ τ) Nat := do
  say (.enter .sweep)
  let cells ← run.plan
  let done ← run.runCells cells 0
  say (.exit .sweep)
  return done

end SweepRun
end RoundTrip
