import RoundTrip.Proofs.SweepReports

/-!
# Sweeps without their console

What a sweep shows on the console has no part in what it does.  But for that, a
sweep runs each of its cells on its own, gives the reports of the cell to its
sink, and hands on the fault that the cell ended with.
-/

namespace RoundTrip

namespace SweepRun

variable {σ τ : Type}

/-- The second state is the first without its console. -/
structure Brief (s : SweepState σ τ) (t : Rig σ × τ) : Prop where
  rig : s.bench.rig = t.1
  sink : s.sink = t.2

/-- The reports of a fault. -/
def lastReports (run : SweepRun σ τ) (cell : Cell) (fault : Fault) : List (CellId × Event) :=
  (failureEvent? fault).toList.map fun event => (run.cellId cell, event)

/-- The reports of a cell that is run from here. -/
def reports (run : SweepRun σ τ) (cell : Cell) (rig : Rig σ) : List (CellId × Event) :=
  match run.alone cell rig with
  | .ok tally _ => run.successEvents cell tally
  | .error fault _ => run.lastReports cell fault

/-- Gives a report to the sink. -/
def hand (run : SweepRun σ τ) (report : CellId × Event) : EStateM Fault (Rig σ × τ) Unit :=
  EStateM.adaptExcept Fault.io
    (onPart Prod.snd (fun t s => (s.1, t)) (run.sink.emit report.1 report.2))

/-- A cell is run on its own, then its reports are given, and then its fault is handed on. -/
def briefCell (run : SweepRun σ τ) (cell : Cell) : EStateM Fault (Rig σ × τ) Unit := do
  match ← attempt (onPart Prod.fst (fun rig s => (rig, s.2)) (run.alone cell)) with
  | .ok tally => forM (run.successEvents cell tally) run.hand
  | .error fault => do
      forM (run.lastReports cell fault) run.hand
      throw fault

/-- Cells in turn, as `runCells` runs them. -/
def briefCells (run : SweepRun σ τ) : List Cell → Nat → EStateM Fault (Rig σ × τ) Nat
  | [], done => pure done
  | cell :: rest, done => do
      run.briefCell cell
      run.briefCells rest (done + 1)

section Brief

variable (run : SweepRun σ τ) (cell : Cell)

theorem say_brief (notice : Notice) :
    Simulates Brief (say notice : EStateM Fault (SweepState σ τ) Unit)
      (pure () : EStateM Fault (Rig σ × τ) Unit) (fun _ _ => Brief) Brief :=
  fun _ _ hbrief => .ok ⟨hbrief.rig, hbrief.sink⟩

theorem emit_brief (report : CellId × Event) :
    Simulates Brief (run.emit report.1 report.2) (run.hand report) (fun _ _ => Brief) Brief := by
  rintro ⟨bench, sink⟩ ⟨_, _⟩ ⟨rfl, rfl⟩
  simp only [hand, emit, EStateM.adaptExcept, onPart]
  cases run.sink.emit report.1 report.2 sink with
  | ok _ after => exact .ok ⟨rfl, rfl⟩
  | error cause after => exact .error _ ⟨rfl, rfl⟩

theorem forM_emit_brief (reports : List (CellId × Event)) :
    Simulates Brief (forM reports fun report => run.emit report.1 report.2)
      (forM reports run.hand) (fun _ _ => Brief) Brief := by
  induction reports with
  | nil => exact Simulates.pure fun _ _ hbrief => hbrief
  | cons report rest ih =>
      rw [List.forM_cons, List.forM_cons]
      exact Simulates.bind (run.emit_brief report) fun _ _ => ih

theorem reportSuccess_brief (tally : Tally) :
    Simulates Brief (run.reportSuccess (run.cellId cell) tally)
      (forM (run.successEvents cell tally) run.hand) (fun _ _ => Brief) Brief := by
  have hreports : run.reportSuccess (run.cellId cell) tally =
      forM (run.successEvents cell tally) fun report => run.emit report.1 report.2 := by
    simp only [reportSuccess, successEvents]
    cases run.settings.verify <;> cases run.settings.statistics <;> simp
  rw [hreports]
  exact run.forM_emit_brief _

theorem reportFailure_brief (fault : Fault) :
    Simulates Brief (run.reportFailure (run.cellId cell) fault : EStateM Fault _ Unit)
      (do forM (run.lastReports cell fault) run.hand; throw fault : EStateM Fault _ Unit)
      (fun _ _ => Brief) Brief := by
  have hreports : (run.reportFailure (run.cellId cell) fault : EStateM Fault _ Unit) = (do
      forM (run.lastReports cell fault) fun report => run.emit report.1 report.2
      say (.fault fault)
      say (.exit .sweep)
      throw fault) := by
    simp only [reportFailure, lastReports]
    cases failureEvent? fault <;> simp
  rw [hreports]
  refine Simulates.bind (run.forM_emit_brief _) fun _ _ => ?_
  refine Simulates.bind_left (say_brief _) fun _ => ?_
  refine Simulates.bind_left (say_brief _) fun _ => ?_
  exact fun _ _ hbrief => .error fault hbrief

/-- The run of a cell is its run alone. -/
theorem attempt_brief {entry : EntryPoints} (hentry : run.context.entry? cell.engine = some entry) :
    Simulates Brief
      (attempt (onBench ((run.cellRun cell entry).execute run.fileSize)) :
        EStateM Fault (SweepState σ τ) (Except Fault Tally))
      (attempt (onPart Prod.fst (fun rig s => (rig, s.2)) (run.alone cell)) :
        EStateM Fault (Rig σ × τ) (Except Fault Tally)) (Alike Brief) Brief := by
  rintro ⟨bench, sink⟩ ⟨_, _⟩ ⟨rfl, rfl⟩
  simp only [attempt, onBench, onPart, alone_eq hentry]
  cases (run.cellRun cell entry).execute run.fileSize bench with
  | ok tally after => exact .ok ⟨rfl, rfl, rfl⟩
  | error fault after => exact .ok ⟨rfl, rfl, rfl⟩

theorem runCell_brief :
    Simulates Brief (run.runCell cell) (run.briefCell cell) (fun _ _ => Brief) Brief := by
  cases hentry : run.context.entry? cell.engine with
  | none =>
      rintro s t hbrief
      simp only [runCell, briefCell, Bind.bind, EStateM.bind, attempt, onPart, alone, hentry]
      exact .error _ hbrief
  | some entry =>
      simp only [runCell, hentry]
      refine Simulates.bind_left (say_brief _) fun _ => ?_
      refine Simulates.bind (run.attempt_brief cell hentry) fun outcome _ => ?_
      rintro s t ⟨rfl, hbrief⟩
      cases outcome with
      | ok tally => exact run.reportSuccess_brief cell tally hbrief
      | error fault => exact run.reportFailure_brief cell fault hbrief

theorem runCells_brief (cells : List Cell) (done : Nat) :
    Simulates Brief (run.runCells cells done) (run.briefCells cells done) (Alike Brief) Brief := by
  induction cells generalizing done with
  | nil => exact Simulates.pure fun _ _ hbrief => ⟨rfl, hbrief⟩
  | cons cell rest ih => exact Simulates.bind (run.runCell_brief cell) fun _ _ => ih (done + 1)

/-- But for the console, a sweep runs each cell on its own and reports it. -/
theorem execute_brief :
    Simulates Brief run.execute (run.briefCells (Plan.cells run.settings) 0) (Alike Brief)
      Brief := by
  refine Simulates.bind_left (say_brief _) fun _ => ?_
  have hplan : Simulates Brief run.plan (pure () : EStateM Fault (Rig σ × τ) Unit)
      (fun cells _ s t => cells = Plan.cells run.settings ∧ Brief s t) Brief :=
    fun _ _ hbrief => .ok ⟨rfl, hbrief.rig, hbrief.sink⟩
  refine Simulates.bind_left hplan fun cells => ?_
  rintro s t ⟨rfl, hbrief⟩
  rw [← bind_pure (run.briefCells (Plan.cells run.settings) 0)]
  refine Simulates.bind (run.runCells_brief _ 0) (fun done _ => ?_) hbrief
  rintro s t ⟨rfl, hbrief⟩
  refine Simulates.bind_left (say_brief _) (fun _ => ?_) hbrief
  exact Simulates.pure fun _ _ hbrief => ⟨rfl, hbrief⟩

theorem answer_execute_brief (s : SweepState σ τ) :
    answer run.execute s =
      answer (run.briefCells (Plan.cells run.settings) 0) (s.bench.rig, s.sink) :=
  (run.execute_brief (show Brief s (s.bench.rig, s.sink) from ⟨rfl, rfl⟩)).answer_eq

theorem leaves_execute_brief (s : SweepState σ τ) :
    Brief (leaves run.execute s)
      (leaves (run.briefCells (Plan.cells run.settings) 0) (s.bench.rig, s.sink)) :=
  (run.execute_brief (show Brief s (s.bench.rig, s.sink) from ⟨rfl, rfl⟩)).leaves

variable {cell} {rig : Rig σ}

/-- Where its reports are taken, a cell ends as it does alone. -/
theorem briefCell_of_given {t : τ} {after : Rig σ × τ}
    (hgiven : forM (run.reports cell rig) run.hand (leaves (run.alone cell) rig, t) =
      .ok () after) :
    run.briefCell cell (rig, t) =
      match run.alone cell rig with
      | .ok _ _ => .ok () after
      | .error fault _ => .error fault after := by
  cases halone : run.alone cell rig with
  | ok tally mid =>
      simp only [reports, leaves, halone] at hgiven
      simp only [briefCell, Bind.bind, EStateM.bind, attempt, onPart, halone]
      exact hgiven
  | error fault left =>
      simp only [reports, leaves, halone] at hgiven
      simp only [briefCell, Bind.bind, EStateM.bind, attempt, onPart, halone, hgiven]
      rfl

/-- Where one is refused, it ends with that. -/
theorem briefCell_of_refused {t : τ} {cause : Fault} {after : Rig σ × τ}
    (hrefused : forM (run.reports cell rig) run.hand (leaves (run.alone cell) rig, t) =
      .error cause after) :
    run.briefCell cell (rig, t) = .error cause after := by
  cases halone : run.alone cell rig with
  | ok tally mid =>
      simp only [reports, leaves, halone] at hrefused
      simp only [briefCell, Bind.bind, EStateM.bind, attempt, onPart, halone]
      exact hrefused
  | error fault left =>
      simp only [reports, leaves, halone] at hrefused
      simp only [briefCell, Bind.bind, EStateM.bind, attempt, onPart, halone, hrefused]

end Brief
end SweepRun
end RoundTrip
