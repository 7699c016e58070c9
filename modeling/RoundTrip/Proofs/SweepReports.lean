import RoundTrip.Native.StandIn
import RoundTrip.Proofs.CellSteps
import RoundTrip.Proofs.SweepMirror

/-!
# What a sweep reports

A sweep runs its cells in order, each where the one before it left the engines,
the input and the blocks.  Every cell that is completed has its reports at once.
The first cell that fails has one report at most, gives the sweep its fault, and
is the last to touch anything.
-/

namespace RoundTrip

/-- What a cell works on besides the console. -/
structure Rig (σ : Type) where
  native : σ
  input : Input
  buffers : Buffers

namespace Workbench

def rig {σ : Type} (w : Workbench σ) : Rig σ := ⟨w.native, w.input, w.buffers⟩

end Workbench

namespace Rig

/-- A workbench whose console shows nothing. -/
def bench {σ : Type} (rig : Rig σ) : Workbench σ :=
  ⟨.ofThreshold 0, rig.native, rig.input, rig.buffers⟩

end Rig

/-- The last reports of a sweep that fails with a fault of a cell: none where the input
failed. -/
inductive LastWord : Fault → List Event → Prop where
  | verification (codec : Codec) (level : Int) (fileName : String) (mismatch : Mismatch) :
      LastWord (.verificationFailed codec level fileName mismatch) [.verification false]
  | call (direction : Direction) (codec : Codec) (level : Int) (cause : CallFault) :
      LastWord (.callFailed direction codec level cause) [.failure direction]
  | io (cause : IoFault) : LastWord (.io cause) []

namespace CellRun

variable {σ : Type}

/-- The outcome of a cell does not depend on what the console shows. -/
theorem execute_silent (run : CellRun σ) (fileSize : Nat) (w : Workbench σ) :
    mapState Workbench.rig (run.execute fileSize w) =
      mapState Workbench.rig (run.execute fileSize w.rig.bench) := by
  have hrelated := run.mirrors_sameWork.execute fileSize (s := w) (t := w.rig.bench)
    ⟨rfl, rfl, rfl⟩
  have hrig {v v' : Workbench σ} (hsame : SameWork v v') : v.rig = v'.rig := by
    rw [Workbench.rig, Workbench.rig, hsame.native, hsame.input, hsame.buffers]
  generalize run.execute fileSize w = shown at hrelated
  generalize run.execute fileSize w.rig.bench = quiet at hrelated
  cases hrelated with
  | ok hanswers =>
      obtain ⟨rfl, hsame⟩ := hanswers
      exact congrArg (EStateM.Result.ok _) (hrig hsame)
  | error fault hsame => exact congrArg (EStateM.Result.error fault) (hrig hsame)

/-- The fault of a cell is one that can be reported, or one of the input. -/
theorem exists_lastWord {run : CellRun σ} {fileSize : Nat} {w after : Workbench σ} {fault : Fault}
    (hrun : run.execute fileSize w = .error fault after) : ∃ last, LastWord fault last := by
  obtain ⟨done, step, rest, st, left, -, -, htake, -⟩ := exists_step_of_execute_error hrun
  have hblames := blames_of_take_error htake
  cases step with
  | rewind pass =>
      obtain ⟨cause, input, -, rfl⟩ := hblames
      exact ⟨_, .io cause⟩
  | read pass chunk =>
      obtain ⟨cause, input, -, rfl⟩ := hblames
      exact ⟨_, .io cause⟩
  | compress pass chunk =>
      obtain ⟨cause, -, rfl⟩ := hblames
      exact ⟨_, .call _ _ _ cause⟩
  | decompress pass chunk =>
      obtain ⟨cause, -, rfl⟩ := hblames
      exact ⟨_, .call _ _ _ cause⟩
  | compare pass chunk =>
      obtain ⟨-, rfl⟩ := hblames
      exact ⟨_, .verification _ _ _ _⟩

end CellRun

namespace SweepRun

variable {σ τ : Type}

/-! ## Cells in turn -/

section Cells

variable (run : SweepRun σ τ)

/-- The run of one planned cell on its own. -/
def alone (cell : Cell) : EStateM Fault (Rig σ) Tally := fun rig =>
  match run.context.entry? cell.engine with
  | none => .error (notSetUp cell) rig
  | some entry => mapState Workbench.rig ((run.cellRun cell entry).execute run.fileSize rig.bench)

/-- The reports of a cell that was completed. -/
def successEvents (cell : Cell) (tally : Tally) : List (CellId × Event) :=
  (if run.settings.verify then [(run.cellId cell, .verification true)] else []) ++
    if run.settings.statistics then
      [(run.cellId cell,
        .statistics (tally.summarize run.fileSize run.settings.effectiveIterations))]
    else []

/-- All these cells succeed, each where the one before it ended, with their reports. -/
inductive Completed : Rig σ → List Cell → List (CellId × Event) → Rig σ → Prop where
  | nil (rig : Rig σ) : Completed rig [] [] rig
  | cons {rig mid after : Rig σ} {cell : Cell} {rest : List Cell} {tally : Tally}
      {events : List (CellId × Event)} (hcell : run.alone cell rig = .ok tally mid)
      (hrest : Completed mid rest events after) :
      Completed rig (cell :: rest) (run.successEvents cell tally ++ events) after

/-- How a sweep over `cells` ends and what it reports: either all cells succeed, or one fails
after those before it. -/
inductive Went (rig : Rig σ) (cells : List Cell) :
    EStateM.Result Fault (SweepState σ τ) Nat → List (CellId × Event) → Prop where
  | completed {events : List (CellId × Event)} {after : SweepState σ τ}
      (hall : Completed run rig cells events after.bench.rig) :
      Went rig cells (.ok cells.length after) events
  | failed {before rest : List Cell} {cell : Cell} {mid : Rig σ} {fault : Fault}
      {events : List (CellId × Event)} {last : List Event} {after : SweepState σ τ}
      (hsplit : cells = before ++ cell :: rest) (hbefore : Completed run rig before events mid)
      (hfails : run.alone cell mid = .error fault after.bench.rig)
      (hlast : LastWord fault last) :
      Went rig cells (.error fault after) (events ++ last.map fun event => (run.cellId cell, event))

end Cells

/-! ## What is said -/

/-- A condition that does not depend on what the console shows. -/
def Silent (P : SweepState σ τ → Prop) : Prop :=
  ∀ s console, P s → P { s with bench := { s.bench with console := console } }

theorem say_keeps {P : SweepState σ τ → Prop} (hsilent : Silent P) {notice : Notice}
    {fail : Fault → SweepState σ τ → Prop} : Ensures P (say notice) (fun _ => P) fail :=
  fun s hs => hsilent s _ hs

/-- A sweep that gives up says so and changes nothing. -/
theorem giveUp_keeps {α : Type} {P : SweepState σ τ → Prop} (hsilent : Silent P) (fault : Fault) :
    Ensures P
      (do say (.fault fault); say (.exit .sweep); throw fault : EStateM Fault (SweepState σ τ) α)
      (fun _ _ => False) (fun fault' s => fault' = fault ∧ P s) := by
  refine Ensures.bind (say_keeps hsilent) fun _ => ?_
  refine Ensures.bind (say_keeps hsilent) fun _ => ?_
  intro s hs
  exact ⟨rfl, hs⟩

/-! ## Reports -/

/-- Where a sweep stands, and what was reported so far. -/
def At (rig : Rig σ) (events : List (CellId × Event))
    (s : SweepState σ (τ × List (CellId × Event))) : Prop :=
  s.bench.rig = rig ∧ s.sink.2 = events

/-- No call of the sink fails. -/
def Reliable (sink : Sink τ) : Prop :=
  ∀ id event t, ∃ t', sink.emit id event t = .ok () t'

section Reports

variable {run : SweepRun σ τ} {rig : Rig σ} {events : List (CellId × Event)}

theorem At.silent : Silent (At rig events : SweepState σ (τ × List (CellId × Event)) → Prop) :=
  fun _ _ hat => hat

theorem emit_ensures (hsink : Reliable run.sink) (id : CellId) (event : Event)
    {fail : Fault → SweepState σ (τ × List (CellId × Event)) → Prop} :
    Ensures (At rig events) (run.logged.emit id event)
      (fun _ => At rig (events ++ [(id, event)])) fail := by
  rintro ⟨bench, sink, events⟩ ⟨rfl, rfl⟩
  obtain ⟨after, hok⟩ := hsink id event sink
  simp only [SweepRun.emit, EStateM.adaptExcept, onPart, logged, Sink.recorded, hok]
  exact ⟨rfl, rfl⟩

theorem reportSuccess_ensures (hsink : Reliable run.sink) (cell : Cell) (tally : Tally)
    {fail : Fault → SweepState σ (τ × List (CellId × Event)) → Prop} :
    Ensures (At rig events) (run.logged.reportSuccess (run.cellId cell) tally)
      (fun _ => At rig (events ++ run.successEvents cell tally)) fail := by
  have hstatistics (events : List (CellId × Event)) : Ensures (At rig events)
      (if run.settings.statistics then run.logged.emit (run.cellId cell)
        (.statistics (tally.summarize run.fileSize run.settings.effectiveIterations)) else pure ())
      (fun _ => At rig (events ++ if run.settings.statistics then
        [(run.cellId cell,
          .statistics (tally.summarize run.fileSize run.settings.effectiveIterations))] else []))
      fail := by
    cases run.settings.statistics with
    | false => exact Ensures.pure fun s hat => ⟨hat.1, hat.2.trans (List.append_nil events).symm⟩
    | true => exact emit_ensures hsink _ _
  simp only [reportSuccess, successEvents, ← List.append_assoc]
  change Ensures _ (if run.settings.verify then _ else _) _ _
  cases hverify : run.settings.verify with
  | false =>
      simp only [Bool.false_eq_true, if_false, List.append_nil]
      exact hstatistics events
  | true => exact Ensures.bind (emit_ensures hsink _ _) fun _ => hstatistics _

theorem reportFailure_ensures {α : Type} (hsink : Reliable run.sink) (cell : Cell)
    {fault : Fault} {last : List Event} (hlast : LastWord fault last) :
    Ensures (At rig events)
      (run.logged.reportFailure (run.cellId cell) fault :
        EStateM Fault (SweepState σ (τ × List (CellId × Event))) α)
      (fun _ _ => False)
      (fun fault' s => fault' = fault ∧
        At rig (events ++ last.map fun event => (run.cellId cell, event)) s) := by
  simp only [reportFailure]
  cases hlast with
  | verification codec level fileName mismatch =>
      exact Ensures.bind (emit_ensures hsink _ _) fun _ => giveUp_keeps At.silent _
  | call direction codec level cause =>
      exact Ensures.bind (emit_ensures hsink _ _) fun _ => giveUp_keeps At.silent _
  | io cause =>
      rw [List.map_nil, List.append_nil]
      exact giveUp_keeps At.silent _

/-! ## Cells with their reports -/

theorem alone_eq {cell : Cell} {entry : EntryPoints}
    (hentry : run.context.entry? cell.engine = some entry) (w : Workbench σ) :
    run.alone cell w.rig =
      mapState Workbench.rig ((run.cellRun cell entry).execute run.fileSize w) := by
  rw [CellRun.execute_silent]
  simp only [alone, hentry]

theorem runCell_ensures (hsink : Reliable run.sink) {cell : Cell} {entry : EntryPoints}
    (hentry : run.context.entry? cell.engine = some entry) :
    Ensures (At rig events) (run.logged.runCell cell)
      (fun _ s => ∃ tally mid, run.alone cell rig = .ok tally mid ∧
        At mid (events ++ run.successEvents cell tally) s)
      (fun fault s => ∃ last left, LastWord fault last ∧ run.alone cell rig = .error fault left ∧
        At left (events ++ last.map fun event => (run.cellId cell, event)) s) := by
  have hexecute : Ensures (At rig events)
      (onBench ((run.cellRun cell entry).execute run.fileSize) :
        EStateM Fault (SweepState σ (τ × List (CellId × Event))) Tally)
      (fun tally s => ∃ mid, run.alone cell rig = .ok tally mid ∧ At mid events s)
      (fun fault s => ∃ last left, LastWord fault last ∧
        run.alone cell rig = .error fault left ∧ At left events s) := by
    rintro ⟨bench, sink, events⟩ ⟨rfl, rfl⟩
    have halone := alone_eq hentry bench
    cases hrun : (run.cellRun cell entry).execute run.fileSize bench with
    | ok tally after =>
        rw [hrun] at halone
        simp only [onBench, onPart, hrun]
        exact ⟨after.rig, halone, rfl, rfl⟩
    | error fault after =>
        rw [hrun] at halone
        obtain ⟨last, hlast⟩ := CellRun.exists_lastWord hrun
        simp only [onBench, onPart, hrun]
        exact ⟨last, after.rig, hlast, halone, rfl, rfl⟩
  have hfound : run.logged.context.entry? cell.engine = some entry := hentry
  simp only [runCell, hfound]
  refine Ensures.bind (say_keeps At.silent) fun _ => ?_
  refine Ensures.bind hexecute.attempt fun outcome => ?_
  rintro s hsettled
  cases hsettled with
  | @ok tally _ hdone =>
      obtain ⟨mid, halone, hat⟩ := hdone
      exact (reportSuccess_ensures hsink cell tally).mono (fun _ hs => hs)
        (fun _ _ hs => ⟨tally, mid, halone, hs⟩) (fun _ _ hs => hs) s hat
  | error hfailed =>
      obtain ⟨last, left, hlast, halone, hat⟩ := hfailed
      refine (reportFailure_ensures hsink cell hlast).mono (fun _ hs => hs)
        (fun _ _ hs => hs.elim) ?_ s hat
      rintro _ _ ⟨rfl, hs⟩
      exact ⟨last, left, hlast, halone, hs⟩

/-- Every cell that is completed is reported, and a sweep that fails does so with the fault of
the first cell that fails. -/
theorem runCells_ensures (hsink : Reliable run.sink) (cells : List Cell)
    (hready : ∀ cell ∈ cells, ∃ entry, run.context.entry? cell.engine = some entry) (done : Nat) :
    Ensures (At rig events) (run.logged.runCells cells done)
      (fun n s => n = done + cells.length ∧
        ∃ reports after, Completed run rig cells reports after ∧ At after (events ++ reports) s)
      (fun fault s => ∃ before cell rest mid reports last left,
        cells = before ++ cell :: rest ∧ Completed run rig before reports mid ∧
          LastWord fault last ∧ run.alone cell mid = .error fault left ∧
          At left (events ++ (reports ++ last.map fun event => (run.cellId cell, event))) s) := by
  induction cells generalizing rig events done with
  | nil =>
      refine Ensures.pure fun s hat => ⟨rfl, [], rig, .nil rig, ?_⟩
      rw [List.append_nil]
      exact hat
  | cons cell rest ih =>
      obtain ⟨entry, hentry⟩ := hready cell List.mem_cons_self
      have hcell : Ensures (At rig events) (run.logged.runCell cell) _ _ :=
        runCell_ensures hsink hentry
      refine Ensures.bind (hcell.mono (fun _ hs => hs) (fun _ _ hs => hs) ?_) fun _ => ?_
      · rintro fault s ⟨last, left, hlast, halone, hat⟩
        exact ⟨[], cell, rest, rig, [], last, left, rfl, .nil rig, hlast, halone, hat⟩
      · rintro s ⟨tally, mid, halone, hat⟩
        have hrest : Ensures (At mid (events ++ run.successEvents cell tally))
            (run.logged.runCells rest (done + 1)) _ _ :=
          ih (fun c hc => hready c (List.mem_cons_of_mem cell hc)) (done + 1)
        refine hrest.mono (fun _ hs => hs) ?_ ?_ s hat
        · rintro n t ⟨rfl, reports, after, hall, hafter⟩
          rw [List.append_assoc] at hafter
          refine ⟨?_, _, after, .cons halone hall, hafter⟩
          rw [List.length_cons]
          omega
        · rintro fault t ⟨before, failing, later, mid', reports, last, left, rfl, hbefore, hlast,
            hfails, hleft⟩
          refine ⟨cell :: before, failing, later, mid', _, last, left, rfl, .cons halone hbefore,
            hlast, hfails, ?_⟩
          rw [List.append_assoc]
          rwa [List.append_assoc] at hleft

theorem plan_ensures {fail : Fault → SweepState σ (τ × List (CellId × Event)) → Prop} :
    Ensures (At rig events) run.logged.plan
      (fun cells s => cells = Plan.cells run.settings ∧ At rig events s) fail :=
  fun _ hat => ⟨rfl, hat⟩

end Reports

/-- With an engine for every planned cell and a sink that does not fail, a sweep reports exactly
its cells in order up to the first that fails, and ends with that cell. -/
theorem reports_of_execute (run : SweepRun σ τ) (s : SweepState σ τ)
    (hready : ∀ cell ∈ Plan.cells run.settings, ∃ entry,
      run.context.entry? cell.engine = some entry)
    (hsink : Reliable run.sink) :
    ∃ events,
      run.logged.execute (s.logged []) = mapState (SweepState.logged events) (run.execute s) ∧
        run.Went s.bench.rig (Plan.cells run.settings) (run.execute s) events := by
  obtain ⟨events, hlogged⟩ := run.execute_logged s []
  refine ⟨events, hlogged, ?_⟩
  have hexecute : Ensures (At s.bench.rig []) run.logged.execute
      (fun n t => n = (Plan.cells run.settings).length ∧ ∃ reports after,
        Completed run s.bench.rig (Plan.cells run.settings) reports after ∧
          At after reports t)
      (fun fault t => ∃ before cell rest mid reports last left,
        Plan.cells run.settings = before ++ cell :: rest ∧
          Completed run s.bench.rig before reports mid ∧ LastWord fault last ∧
          run.alone cell mid = .error fault left ∧
          At left (reports ++ last.map fun event => (run.cellId cell, event)) t) := by
    refine Ensures.bind (say_keeps At.silent) fun _ => ?_
    refine Ensures.bind plan_ensures fun cells => ?_
    rintro t ⟨rfl, hat⟩
    refine Ensures.bind (runCells_ensures hsink _ hready 0) (fun done => ?_) t hat
    rintro t ⟨rfl, reports, after, hall, hafter⟩
    rw [Nat.zero_add]
    exact ⟨rfl, reports, after, hall, hafter⟩
  have hstart : At s.bench.rig [] (s.logged []) := ⟨rfl, rfl⟩
  cases hrun : run.execute s with
  | ok done after =>
      rw [hrun] at hlogged
      obtain ⟨rfl, reports, left, hall, rfl, rfl⟩ := hexecute.of_ok hstart hlogged
      exact .completed hall
  | error fault after =>
      rw [hrun] at hlogged
      obtain ⟨before, cell, rest, mid, reports, last, left, hsplit, hbefore, hlast, hfails, rfl,
        rfl⟩ := hexecute.of_error hstart hlogged
      exact .failed hsplit hbefore hfails hlast

/-- A sweep over all engines, each of which stands in for its library. -/
theorem reports_of_execute_standIn :
    let settings := { Settings.default with verify := true, statistics := true }
    let run : SweepRun Unit EventLog :=
      ⟨StandIn.native, EventLog.sink, .inProcess .searchPath, settings, 3, "input"⟩
    let s : SweepState Unit EventLog :=
      ⟨⟨.ofThreshold 0, (), .ofList [1, 2, 3], .ofChunkSize 2⟩, []⟩
    (∀ cell ∈ Plan.cells settings, ∃ entry, run.context.entry? cell.engine = some entry) ∧
      Reliable run.sink ∧
      ∃ events,
        run.logged.execute (s.logged []) = mapState (SweepState.logged events) (run.execute s) ∧
          run.Went s.bench.rig (Plan.cells settings) (run.execute s) events := by
  intro settings run s
  have hready (cell : Cell) (_ : cell ∈ Plan.cells settings) :
      ∃ entry, run.context.entry? cell.engine = some entry :=
    ⟨_, Context.entry?_inProcess _ _⟩
  have hsink : Reliable run.sink := fun id event t => ⟨(id, event) :: t, rfl⟩
  exact ⟨hready, hsink, reports_of_execute run s hready hsink⟩

end SweepRun
end RoundTrip
