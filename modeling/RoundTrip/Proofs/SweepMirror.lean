import RoundTrip.Proofs.CellMirror
import RoundTrip.Sweep

/-!
# Two runs of one sweep

Two sweeps over the same plan mirror each other when their cells do and their
sinks answer alike.  So to keep every event that a sink is given, or every
exchange with the engines, changes nothing but the records.
-/

namespace RoundTrip

/-- A sink that also keeps every event it is given, in order, whether the sink takes it or
not. -/
def Sink.recorded {τ : Type} (sink : Sink τ) : Sink (τ × List (CellId × Event)) :=
  ⟨fun cell event s =>
    match sink.emit cell event s.1 with
    | .ok () inner => .ok () (inner, s.2 ++ [(cell, event)])
    | .error fault inner => .error fault (inner, s.2 ++ [(cell, event)])⟩

namespace SweepRun

variable {σ σ' τ τ' : Type}

/-- A relation between the workbenches and one between the sinks. -/
structure Both (R : Workbench σ → Workbench σ' → Prop) (S : τ → τ' → Prop)
    (s : SweepState σ τ) (t : SweepState σ' τ') : Prop where
  bench : R s.bench t.bench
  sink : S s.sink t.sink

/-- The parts of two sweeps answer alike and keep their relations. -/
structure Mirrors (run : SweepRun σ τ) (run' : SweepRun σ' τ')
    (R : Workbench σ → Workbench σ' → Prop) (S : τ → τ' → Prop) : Prop where
  context : run.context = run'.context
  settings : run.settings = run'.settings
  fileSize : run.fileSize = run'.fileSize
  fileName : run.fileName = run'.fileName
  cell : ∀ cell entry, Simulates R ((run.cellRun cell entry).execute run.fileSize)
    ((run'.cellRun cell entry).execute run.fileSize) (Alike R) R
  say : ∀ {w v} notice, R w v →
    R { w with console := w.console.say notice } { v with console := v.console.say notice }
  emit : ∀ id event, Simulates S (run.sink.emit id event) (run'.sink.emit id event) (Alike S) S

namespace Mirrors

variable {run : SweepRun σ τ} {run' : SweepRun σ' τ'} {R : Workbench σ → Workbench σ' → Prop}
  {S : τ → τ' → Prop}

theorem onBench {α : Type} {first : EStateM Fault (Workbench σ) α}
    {second : EStateM Fault (Workbench σ') α} (hsteps : Simulates R first second (Alike R) R) :
    Simulates (Both R S) (SweepRun.onBench first) (SweepRun.onBench second) (Alike (Both R S))
      (Both R S) :=
  hsteps.onPart (fun _ _ hstates => hstates.bench) fun _ _ _ _ hstates hbench =>
    ⟨hbench, hstates.sink⟩

theorem said (hmirrors : Mirrors run run' R S) (notice : Notice) :
    Simulates (Both R S) (SweepRun.say notice) (SweepRun.say notice) (Alike (Both R S))
      (Both R S) :=
  onBench fun _ _ hstates => .ok ⟨rfl, hmirrors.say notice hstates⟩

theorem emitted (hmirrors : Mirrors run run' R S) (id : CellId) (event : Event) :
    Simulates (Both R S) (run.emit id event) (run'.emit id event) (Alike (Both R S))
      (Both R S) := by
  intro s t hstates
  have hresult := hmirrors.emit id event hstates.sink
  simp only [SweepRun.emit, EStateM.adaptExcept, onPart]
  generalize run.sink.emit id event s.sink = one at hresult
  generalize run'.sink.emit id event t.sink = two at hresult
  cases hresult with
  | ok hanswers => exact .ok ⟨hanswers.1, hstates.bench, hanswers.2⟩
  | error fault hafter => exact .error _ ⟨hstates.bench, hafter⟩

theorem reportSuccess (hmirrors : Mirrors run run' R S) (id : CellId) (tally : Tally) :
    Simulates (Both R S) (run.reportSuccess id tally) (run'.reportSuccess id tally)
      (Alike (Both R S)) (Both R S) := by
  have hstatistics : Simulates (Both R S)
      (if run.settings.statistics then run.emit id (.statistics
        (tally.summarize run.fileSize run.settings.effectiveIterations)) else pure ())
      (if run.settings.statistics then run'.emit id (.statistics
        (tally.summarize run.fileSize run.settings.effectiveIterations)) else pure ())
      (Alike (Both R S)) (Both R S) := by
    split
    · exact hmirrors.emitted id _
    · exact Simulates.pure fun _ _ hstates => ⟨rfl, hstates⟩
  simp only [SweepRun.reportSuccess, ← hmirrors.settings, ← hmirrors.fileSize]
  cases run.settings.verify with
  | false => exact hstatistics
  | true => exact Simulates.bind_alike (hmirrors.emitted id _) fun _ => hstatistics

theorem reportFailure {α : Type} (hmirrors : Mirrors run run' R S) (id : CellId)
    (fault : Fault) :
    Simulates (Both R S) (run.reportFailure id fault : EStateM Fault (SweepState σ τ) α)
      (run'.reportFailure id fault) (Alike (Both R S)) (Both R S) := by
  have hrest : Simulates (Both R S)
      (do SweepRun.say (.fault fault); SweepRun.say (.exit .sweep); throw fault :
        EStateM Fault (SweepState σ τ) α)
      (do SweepRun.say (.fault fault); SweepRun.say (.exit .sweep); throw fault)
      (Alike (Both R S)) (Both R S) := by
    refine Simulates.bind_alike (hmirrors.said _) fun _ => ?_
    refine Simulates.bind_alike (hmirrors.said _) fun _ => ?_
    exact fun _ _ hstates => .error fault hstates
  simp only [SweepRun.reportFailure]
  cases failureEvent? fault with
  | none => exact hrest
  | some event => exact Simulates.bind_alike (hmirrors.emitted id event) fun _ => hrest

theorem runCell (hmirrors : Mirrors run run' R S) (cell : Cell) :
    Simulates (Both R S) (run.runCell cell) (run'.runCell cell) (Alike (Both R S))
      (Both R S) := by
  have hid : run'.cellId cell = run.cellId cell := by
    rw [cellId, cellId, hmirrors.settings, hmirrors.fileName]
  simp only [SweepRun.runCell, ← hmirrors.context, hid, ← hmirrors.settings, ← hmirrors.fileSize]
  cases run.context.entry? cell.engine with
  | none => exact fun _ _ hstates => .error _ hstates
  | some entry =>
      refine Simulates.bind_alike (hmirrors.said _) fun _ => ?_
      refine Simulates.bind_alike (onBench (hmirrors.cell cell entry)).attempt fun outcome => ?_
      cases outcome with
      | ok tally => exact hmirrors.reportSuccess _ tally
      | error fault => exact hmirrors.reportFailure _ fault

theorem runCells (hmirrors : Mirrors run run' R S) (cells : List Cell) (done : Nat) :
    Simulates (Both R S) (run.runCells cells done) (run'.runCells cells done)
      (Alike (Both R S)) (Both R S) := by
  induction cells generalizing done with
  | nil => exact Simulates.pure fun _ _ hstates => ⟨rfl, hstates⟩
  | cons cell rest ih => exact Simulates.bind_alike (hmirrors.runCell cell) fun _ => ih (done + 1)

theorem plan (hmirrors : Mirrors run run' R S) :
    Simulates (Both R S) run.plan run'.plan (Alike (Both R S)) (Both R S) := by
  rw [SweepRun.plan, SweepRun.plan, ← hmirrors.settings]
  refine onBench fun w v hstates => .ok ⟨rfl, ?_⟩
  cases Plan.oddLevel? run.settings with
  | none => exact hstates
  | some notice => exact hmirrors.say notice hstates

/-- Mirroring sweeps have the same outcome. -/
theorem execute (hmirrors : Mirrors run run' R S) :
    Simulates (Both R S) run.execute run'.execute (Alike (Both R S)) (Both R S) := by
  refine Simulates.bind_alike (hmirrors.said _) fun _ => ?_
  refine Simulates.bind_alike hmirrors.plan fun cells => ?_
  refine Simulates.bind_alike (hmirrors.runCells cells 0) fun done => ?_
  refine Simulates.bind_alike (hmirrors.said _) fun _ => ?_
  exact Simulates.pure fun _ _ hstates => ⟨rfl, hstates⟩

end Mirrors

/-! ## Records of a sweep -/

/-- The same sweep with a sink that keeps the events. -/
def logged (run : SweepRun σ τ) : SweepRun σ (τ × List (CellId × Event)) :=
  ⟨run.native, run.sink.recorded, run.context, run.settings, run.fileSize, run.fileName⟩

/-- The same sweep with engines that keep the exchanges. -/
def recorded (run : SweepRun σ τ) : SweepRun (σ × List Exchange) τ :=
  ⟨run.native.recorded, run.sink, run.context, run.settings, run.fileSize, run.fileName⟩

/-- To keep the events changes nothing else. -/
theorem mirrors_logged (run : SweepRun σ τ) :
    Mirrors run run.logged Eq (fun t t' => t = t'.1) where
  context := rfl
  settings := rfl
  fileSize := rfl
  fileName := rfl
  cell _ _ := Simulates.refl _
  say notice hstates := by rw [hstates]
  emit id event := by
    rintro t ⟨_, events⟩ rfl
    simp only [logged, Sink.recorded]
    cases run.sink.emit id event t with
    | ok _ after => exact .ok ⟨rfl, rfl⟩
    | error fault after => exact .error fault rfl

/-- To keep the exchanges and the events changes nothing else. -/
theorem mirrors_observed (run : SweepRun σ τ) :
    Mirrors run run.recorded.logged CellRun.SameRecorded (fun t t' => t = t'.1) where
  context := rfl
  settings := rfl
  fileSize := rfl
  fileName := rfl
  cell cell entry := (run.cellRun cell entry).mirrors_recorded.execute run.fileSize
  say notice hstates :=
    ⟨congrArg (Console.say · notice) hstates.console, hstates.native, hstates.input,
      hstates.buffers⟩
  emit := run.mirrors_logged.emit

end SweepRun

namespace SweepState

variable {σ τ : Type}

def logged (events : List (CellId × Event)) (s : SweepState σ τ) :
    SweepState σ (τ × List (CellId × Event)) :=
  ⟨s.bench, (s.sink, events)⟩

end SweepState

namespace SweepRun

variable {σ τ : Type}

theorem execute_logged (run : SweepRun σ τ) (s : SweepState σ τ)
    (events : List (CellId × Event)) :
    ∃ events', run.logged.execute (s.logged events) =
      mapState (SweepState.logged events') (run.execute s) := by
  refine (run.mirrors_logged.execute (show Both _ _ s (s.logged events) from
    ⟨rfl, rfl⟩)).exists_mapState ?_
  rintro ⟨bench, sink⟩ ⟨_, _, events'⟩ ⟨rfl, rfl⟩
  exact ⟨events', rfl⟩

end SweepRun
end RoundTrip
