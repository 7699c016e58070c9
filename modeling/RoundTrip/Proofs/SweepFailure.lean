import RoundTrip.Proofs.SessionMirror
import RoundTrip.Proofs.SweepReports

/-!
# What a sweep fails with

A cell that fails ends the sweep, and its failure is reported first.  Where the
sink takes the report, the sweep fails with the fault of the cell.  A sink that
refuses it replaces that fault by its own, which reads like a fault of the input.
-/

namespace RoundTrip

namespace SweepRun

variable {σ τ : Type} {run : SweepRun σ τ} {s mid : SweepState σ τ} {cell : Cell}

/-- What the first cell of a sweep is run from. -/
def begun (run : SweepRun σ τ) (s : SweepState σ τ) : SweepState σ τ :=
  leaves (do say (.enter .sweep); run.plan) s

/-- The cells before this one are completed and reported, and it is run from `mid`. -/
def Reaches (run : SweepRun σ τ) (s : SweepState σ τ) (cell : Cell) (mid : SweepState σ τ) :
    Prop :=
  ∃ before rest, Plan.cells run.settings = before ++ cell :: rest ∧
    run.runCells before 0 (run.begun s) = .ok before.length mid

theorem answer_execute (run : SweepRun σ τ) (s : SweepState σ τ) :
    answer run.execute s = answer (run.runCells (Plan.cells run.settings) 0) (run.begun s) := by
  have hexecute : run.execute s = (do
      let done ← run.runCells (Plan.cells run.settings) 0
      say (.exit .sweep)
      return done) (run.begun s) := rfl
  rw [answer, answer, hexecute]
  simp only [Bind.bind, EStateM.bind]
  cases run.runCells (Plan.cells run.settings) 0 (run.begun s) with
  | ok done after => rfl
  | error fault after => rfl

/-- Cells that are completed leave the rest to be run. -/
theorem runCells_append {before rest : List Cell} {done n : Nat}
    (hbefore : run.runCells before done s = .ok n mid) :
    run.runCells (before ++ rest) done s = run.runCells rest n mid := by
  induction before generalizing done s with
  | nil =>
      cases hbefore
      rfl
  | cons first before ih =>
      simp only [List.cons_append, runCells, Bind.bind, EStateM.bind] at hbefore ⊢
      cases hfirst : run.runCell first s with
      | ok _ after =>
          rw [hfirst] at hbefore
          exact ih hbefore
      | error fault after =>
          rw [hfirst] at hbefore
          contradiction

/-- A cell that fails with a fault that can be reported has it reported. -/
theorem runCell_of_alone {fault : Fault} {event : Event} {left : Rig σ}
    (hfails : run.alone cell mid.bench.rig = .error fault left)
    (hevent : failureEvent? fault = some event) :
    ∃ after, run.runCell cell mid =
      run.reportFailure (run.cellId cell) fault { mid with bench := after } := by
  cases hentry : run.context.entry? cell.engine with
  | none =>
      simp only [alone, hentry] at hfails
      cases hfails
      contradiction
  | some entry =>
      -- the notice before the cell is all that its workbench differs in
      obtain ⟨w, hw⟩ : ∃ w, w = leaves (Workbench.say
        (.starting (run.cellId cell) run.settings.effectiveIterations)) mid.bench := ⟨_, rfl⟩
      have hrig : w.rig = mid.bench.rig := by
        rw [hw]
        rfl
      rw [← hrig, alone_eq hentry] at hfails
      cases hrun : (run.cellRun cell entry).execute run.fileSize w with
      | ok tally after =>
          rw [hrun] at hfails
          contradiction
      | error own after =>
          rw [hrun] at hfails
          cases hfails
          rw [hw, leaves, Workbench.say] at hrun
          refine ⟨after, ?_⟩
          simp only [runCell, hentry, Bind.bind, EStateM.bind, say, onBench, onPart, Workbench.say,
            attempt, hrun]

/-- The fault is handed on, unless the sink refuses the report of it. -/
theorem answer_reportFailure {α : Type} (run : SweepRun σ τ) (id : CellId) {fault : Fault}
    {event : Event} (hevent : failureEvent? fault = some event) (s : SweepState σ τ) :
    answer (run.reportFailure id fault : EStateM Fault (SweepState σ τ) α) s = .error
      (match run.sink.emit id event s.sink with
        | .ok _ _ => fault
        | .error cause _ => .io cause) := by
  simp only [answer, reportFailure, hevent, Bind.bind, EStateM.bind, emit, EStateM.adaptExcept,
    onPart]
  cases run.sink.emit id event s.sink with
  | ok _ after => rfl
  | error cause after => rfl

/-- A sweep ends with the failure of a cell that it reaches, as that is reported. -/
theorem answer_execute_of_reaches {fault : Fault} {event : Event} {left : Rig σ}
    (hreaches : run.Reaches s cell mid) (hfails : run.alone cell mid.bench.rig = .error fault left)
    (hevent : failureEvent? fault = some event) :
    answer run.execute s = .error
      (match run.sink.emit (run.cellId cell) event mid.sink with
        | .ok _ _ => fault
        | .error cause _ => .io cause) := by
  obtain ⟨before, rest, hsplit, hbefore⟩ := hreaches
  obtain ⟨after, hcell⟩ := runCell_of_alone hfails hevent
  have hreport : answer (run.reportFailure (run.cellId cell) fault :
      EStateM Fault (SweepState σ τ) Unit) { mid with bench := after } = _ :=
    answer_reportFailure run (run.cellId cell) hevent _
  rw [answer_execute, hsplit, answer, runCells_append hbefore, runCells]
  simp only [Bind.bind, EStateM.bind, hcell, eq_of_answer_error hreport]

/-- A fault that is reported is none of input and output. -/
theorem ne_io_of_failureEvent? {fault : Fault} {event : Event}
    (hevent : failureEvent? fault = some event) (cause : IoFault) : fault ≠ .io cause := by
  rintro rfl
  contradiction

/-- A sweep fails with the fault of a cell that it reaches exactly where the sink takes the report
of it; the fault of a sink that refuses it stands in its place. -/
theorem answer_eq_fault_iff {fault : Fault} {event : Event} {left : Rig σ}
    (hreaches : run.Reaches s cell mid) (hfails : run.alone cell mid.bench.rig = .error fault left)
    (hevent : failureEvent? fault = some event) :
    (answer run.execute s = .error fault ↔
        ∃ t, run.sink.emit (run.cellId cell) event mid.sink = .ok () t) ∧
      ∀ cause t, run.sink.emit (run.cellId cell) event mid.sink = .error cause t →
        answer run.execute s = .error (.io cause) := by
  rw [answer_execute_of_reaches hreaches hfails hevent]
  cases hemit : run.sink.emit (run.cellId cell) event mid.sink with
  | ok _ t =>
      refine ⟨⟨fun _ => ⟨t, rfl⟩, fun _ => rfl⟩, ?_⟩
      rintro cause t hrefused
      contradiction
  | error cause t =>
      refine ⟨⟨fun hanswer => ?_, ?_⟩, ?_⟩
      · exact absurd (Except.error.inj hanswer).symm (ne_io_of_failureEvent? hevent cause)
      · rintro ⟨t, haccepted⟩
        contradiction
      · rintro _ _ ⟨rfl, rfl⟩
        rfl

/-- One cell, whose bytes cannot be compressed, reported on a page. -/
def onPage : SweepRun Scripts Page :=
  ⟨Scripts.native, Page.sink, .inProcess .searchPath,
    { Settings.default with selection := .single .lz4 }, 3, "sample.bin"⟩

/-- Its engine fails at once, and the page has room for five bytes. -/
def cramped : SweepState Scripts Page :=
  ⟨⟨.ofThreshold 0, Scripts.plain.set .lz4 (.ofBehaviours
      [{ Behaviour.plain with algorithm := some .idle, returned := some 0 }] []),
    .ofList [97, 98, 99], .ofChunkSize 3⟩, .blank (some 5)⟩

theorem reaches_onPage : onPage.Reaches cramped ⟨.lz4, 0, 0⟩ (onPage.begun cramped) :=
  ⟨[], [], rfl, rfl⟩

theorem alone_onPage : ∃ left, onPage.alone ⟨.lz4, 0, 0⟩ (onPage.begun cramped).bench.rig =
    .error (.callFailed .compress .lz4 0 (.length 0)) left :=
  ⟨_, eq_of_answer_error (by decide +kernel)⟩

theorem refused_onPage : ∃ t, onPage.sink.emit (onPage.cellId ⟨.lz4, 0, 0⟩) (.failure .compress)
    (onPage.begun cramped).sink = .error .sinkFull t :=
  ⟨_, eq_of_answer_error (by decide +kernel)⟩

theorem answer_eq_fault_iff_onPage :
    ∃ left t, onPage.Reaches cramped ⟨.lz4, 0, 0⟩ (onPage.begun cramped) ∧
      onPage.alone ⟨.lz4, 0, 0⟩ (onPage.begun cramped).bench.rig =
        .error (.callFailed .compress .lz4 0 (.length 0)) left ∧
      onPage.sink.emit (onPage.cellId ⟨.lz4, 0, 0⟩) (.failure .compress)
        (onPage.begun cramped).sink = .error .sinkFull t ∧
      answer onPage.execute cramped = .error (.io .sinkFull) := by
  obtain ⟨left, hfails⟩ := alone_onPage
  obtain ⟨t, hrefused⟩ := refused_onPage
  exact ⟨left, t, reaches_onPage, hfails, hrefused,
    (answer_eq_fault_iff reaches_onPage hfails rfl).2 _ _ hrefused⟩

/-- So a sweep may reach a cell that fails, and not fail with its fault. -/
theorem not_answer_eq_fault :
    ¬ ∀ (run : SweepRun Scripts Page) (s mid : SweepState Scripts Page) (cell : Cell)
        (fault : Fault) (event : Event) (left : Rig Scripts), run.Reaches s cell mid →
      run.alone cell mid.bench.rig = .error fault left → failureEvent? fault = some event →
      answer run.execute s = .error fault := by
  intro hkept
  obtain ⟨left, hfails⟩ := alone_onPage
  have hlost : answer onPage.execute cramped = .error (.io .sinkFull) := by decide +kernel
  rw [hkept _ _ _ _ _ _ _ reaches_onPage hfails rfl] at hlost
  contradiction

end SweepRun

namespace Session

variable {σ τ : Type}

theorem answer_sweep (runner : Runner σ τ) (settings : Settings) (fileSize : Nat)
    (fileName : String) (s : Session σ τ) :
    answer (sweep runner settings fileSize fileName) s =
      answer (runner.sweepRun s.host.context settings fileSize fileName).execute
        (s.sweepState (.ofChunkSize (settings.chunkSize fileSize))) :=
  answer_eq_of_mapState (sweep_eq runner settings fileSize fileName s)

theorem answer_run (runner : Runner σ τ) {settings : Settings} {fileSize : Nat}
    {fileName : String} {s ready : Session σ τ}
    (hready : prepare settings fileSize fileName s = .ok () ready) :
    answer (run runner settings fileSize fileName) s =
      answer (sweep runner settings fileSize fileName) ready := by
  rw [answer, answer, run_of_prepare runner hready]

/-- A run over an input hands on what its sweep fails with: the fault of the cell, unless the sink
refuses the report of it. -/
theorem answer_run_of_reaches (runner : Runner σ τ) {settings : Settings} {fileSize : Nat}
    {fileName : String} {s ready : Session σ τ} {cell : Cell} {mid : SweepState σ τ}
    {fault : Fault} {event : Event} {left : Rig σ}
    (hready : prepare settings fileSize fileName s = .ok () ready)
    (hreaches : (runner.sweepRun ready.host.context settings fileSize fileName).Reaches
      (ready.sweepState (.ofChunkSize (settings.chunkSize fileSize))) cell mid)
    (hfails : (runner.sweepRun ready.host.context settings fileSize fileName).alone cell
      mid.bench.rig = .error fault left)
    (hevent : SweepRun.failureEvent? fault = some event) :
    answer (run runner settings fileSize fileName) s = .error
      (match runner.sink.emit ⟨settings.label, cell.codec, cell.level, fileName⟩ event mid.sink with
        | .ok _ _ => fault
        | .error cause _ => .io cause) := by
  rw [answer_run runner hready, answer_sweep]
  exact SweepRun.answer_execute_of_reaches hreaches hfails hevent

end Session
end RoundTrip
