import RoundTrip.Proofs.PlanOrder
import RoundTrip.Proofs.SessionMirror
import RoundTrip.Proofs.StandInLossless
import RoundTrip.Proofs.SweepReports

/-!
# Runs that complete

Where every engine that a run needs is set up and lossless, the input delivers
the file and the sink takes every report, nothing can stop the run.  It
completes all planned cells, raises no alarm, and reports each cell as verified
if it was asked to verify.
-/

namespace RoundTrip

/-! ## What is reported of completed cells -/

/-- The reports of a cell that failed. -/
def Event.isAlarm : Event → Bool
  | .verification passed => !passed
  | .failure _ => true
  | .statistics _ => false

/-- The cell that a report says was verified. -/
def verifiedCell? : CellId × Event → Option CellId
  | (cell, .verification true) => some cell
  | _ => none

namespace SweepRun

variable {σ τ : Type}

/-- What was reported while these cells were completed: no alarm and, where cells are verified,
each of them once and in order. -/
structure Cleared (run : SweepRun σ τ) (done : List Cell) (events : List (CellId × Event)) :
    Prop where
  no_alarm : ∀ report ∈ events, report.2.isAlarm = false
  verified : events.filterMap verifiedCell? =
    if run.settings.verify then done.map run.cellId else []

section Clear

variable {run : SweepRun σ τ} {done more : List Cell} {events later : List (CellId × Event)}

theorem Cleared.nil : run.Cleared [] [] := by
  constructor
  · exact fun report hreport => absurd hreport List.not_mem_nil
  · cases run.settings.verify <;> rfl

theorem Cleared.append (hdone : run.Cleared done events) (hmore : run.Cleared more later) :
    run.Cleared (done ++ more) (events ++ later) := by
  constructor
  · intro report hreport
    rcases List.mem_append.mp hreport with hfirst | hsecond
    · exact hdone.no_alarm report hfirst
    · exact hmore.no_alarm report hsecond
  · rw [List.filterMap_append, hdone.verified, hmore.verified]
    cases run.settings.verify with
    | false => rfl
    | true => exact List.map_append.symm

theorem cleared_successEvents (cell : Cell) (tally : Tally) :
    run.Cleared [cell] (run.successEvents cell tally) := by
  constructor
  · intro report hreport
    rcases List.mem_append.mp hreport with hverification | hstatistics
    · split at hverification
      · obtain rfl := List.mem_singleton.mp hverification
        rfl
      · contradiction
    · split at hstatistics
      · obtain rfl := List.mem_singleton.mp hstatistics
        rfl
      · contradiction
  · rw [successEvents]
    cases run.settings.verify <;> cases run.settings.statistics <;> rfl

end Clear

/-! ## A sweep of lossless engines -/

section Sweep

variable {run : SweepRun σ τ} {good : σ → Prop} {size : Nat} {done : List Cell}

/-- The next cell finds what it needs, and the cells before it were completed. -/
def Ahead (run : SweepRun σ τ) (good : σ → Prop) (size : Nat) (done : List Cell)
    (s : SweepState σ (τ × List (CellId × Event))) : Prop :=
  CellRun.Ready good run.fileSize size s.bench ∧ run.Cleared done s.sink.2

theorem Ahead.silent : Silent (run.Ahead good size done) :=
  fun _ console hahead => ⟨hahead.1.silent console, hahead.2⟩

/-- The engine of a cell is set up and lossless. -/
def Served (run : SweepRun σ τ) (good : σ → Prop) (cell : Cell) : Prop :=
  ∃ entry, run.context.entry? cell.engine = some entry ∧
    run.native.Lossless good entry cell.level cell.extra

theorem reportSuccess_ahead (hsink : Reliable run.sink) (cell : Cell) (tally : Tally) :
    Ensures (run.Ahead good size done) (run.logged.reportSuccess (run.cellId cell) tally)
      (fun _ => run.Ahead good size (done ++ [cell])) (fun _ _ => False) := by
  rintro ⟨bench, sink, events⟩ ⟨hready, hcleared⟩
  have hreported : Ensures (At bench.rig events)
      (run.logged.reportSuccess (run.cellId cell) tally)
      (fun _ => At bench.rig (events ++ run.successEvents cell tally)) (fun _ _ => False) :=
    reportSuccess_ensures hsink cell tally
  refine (hreported.mono (fun _ hat => hat) ?_ fun _ _ himpossible => himpossible) _ ⟨rfl, rfl⟩
  rintro _ ⟨⟨console, native, input, buffers⟩, sink, after⟩ ⟨hrig, rfl⟩
  obtain ⟨rfl, rfl, rfl⟩ := Rig.mk.inj hrig
  exact ⟨hready.silent console, hcleared.append (cleared_successEvents cell tally)⟩

theorem runCell_ahead (hsink : Reliable run.sink) (hsize : size ≤ greatestChunk) {cell : Cell}
    (hserved : run.Served good cell) :
    Ensures (run.Ahead good size done) (run.logged.runCell cell)
      (fun _ => run.Ahead good size (done ++ [cell])) (fun _ _ => False) := by
  obtain ⟨entry, hentry, hlossless⟩ := hserved
  have hexecute : Ensures (run.Ahead good size done)
      (onBench ((run.cellRun cell entry).execute run.fileSize) :
        EStateM Fault (SweepState σ (τ × List (CellId × Event))) Tally)
      (fun _ => run.Ahead good size done) (fun _ _ => False) :=
    Ensures.onPart (CellRun.execute_ready hsize hlossless) (fun _ hahead => hahead.1)
      (fun _ _ _ hahead hready => ⟨hready, hahead.2⟩) fun _ _ _ _ himpossible => himpossible
  have hfound : run.logged.context.entry? cell.engine = some entry := hentry
  simp only [runCell, hfound]
  refine Ensures.bind (say_keeps Ahead.silent) fun _ => ?_
  refine Ensures.bind hexecute.attempt fun outcome => ?_
  rintro s hsettled
  cases hsettled with
  | @ok tally _ hahead => exact reportSuccess_ahead hsink cell tally s hahead
  | error himpossible => exact himpossible.elim

theorem runCells_ahead (hsink : Reliable run.sink) (hsize : size ≤ greatestChunk)
    (cells : List Cell) (hserved : ∀ cell ∈ cells, run.Served good cell) (count : Nat) :
    Ensures (run.Ahead good size done) (run.logged.runCells cells count)
      (fun n s => n = count + cells.length ∧ run.Ahead good size (done ++ cells) s)
      (fun _ _ => False) := by
  induction cells generalizing done count with
  | nil =>
      refine Ensures.pure fun s hahead => ⟨rfl, ?_⟩
      rwa [List.append_nil]
  | cons cell rest ih =>
      have hfirst := hserved cell List.mem_cons_self
      refine Ensures.bind (runCell_ahead hsink hsize hfirst) fun _ => ?_
      have hrest : Ensures (run.Ahead good size (done ++ [cell]))
          (run.logged.runCells rest (count + 1)) _ _ :=
        ih (fun next hnext => hserved next (List.mem_cons_of_mem cell hnext)) (count + 1)
      refine hrest.mono (fun _ hahead => hahead) ?_ fun _ _ himpossible => himpossible
      rintro n s ⟨rfl, hahead⟩
      rw [List.append_assoc, List.singleton_append] at hahead
      refine ⟨?_, hahead⟩
      rw [List.length_cons]
      omega

/-- A sweep of lossless engines completes its plan. -/
theorem execute_ahead (hsink : Reliable run.sink) (hsize : size ≤ greatestChunk)
    (hserved : ∀ cell ∈ Plan.cells run.settings, run.Served good cell) :
    Ensures (run.Ahead good size []) run.logged.execute
      (fun n s => n = (Plan.cells run.settings).length ∧
        run.Ahead good size (Plan.cells run.settings) s)
      (fun _ _ => False) := by
  have hplan : Ensures (run.Ahead good size []) run.logged.plan
      (fun cells s => cells = Plan.cells run.settings ∧ run.Ahead good size [] s)
      (fun _ _ => False) :=
    fun _ hahead => ⟨rfl, Ahead.silent _ _ hahead⟩
  refine Ensures.bind (say_keeps Ahead.silent) fun _ => ?_
  refine Ensures.bind hplan fun cells => ?_
  rintro s ⟨rfl, hahead⟩
  refine Ensures.bind (runCells_ahead hsink hsize _ hserved 0) (fun n => ?_) s hahead
  rintro t ⟨rfl, hdone⟩
  rw [Nat.zero_add]
  exact ⟨rfl, Ahead.silent _ _ hdone⟩

end Sweep
end SweepRun

/-! ## A run of lossless engines -/

/-- Settings that are accepted select codecs with an engine. -/
theorem Settings.exists_engine_of_validate_ok {settings : Settings} {console after : Console}
    {dir : LibraryDir} (hvalid : settings.validate console = .ok dir after) {codec : Codec}
    (hselected : codec ∈ settings.selected) : ∃ engine, codec.engine? = some engine := by
  rw [Settings.selected] at hselected
  cases hselection : settings.selection with
  | all =>
      rw [hselection] at hselected
      exact Option.isSome_iff_exists.mp (List.mem_filter.mp hselected).2
  | single only =>
      rw [hselection] at hselected
      obtain rfl := List.mem_singleton.mp hselected
      simp only [validate, hselection] at hvalid
      split at hvalid
      · contradiction
      · split at hvalid
        · contradiction
        · split at hvalid
          · exact Option.isSome_iff_exists.mp ‹_›
          · contradiction

/-- The codec of a planned cell is selected. -/
theorem Plan.codec_mem_selected {settings : Settings} {cell : Cell}
    (hcell : cell ∈ cells settings) : cell.codec ∈ settings.selected :=
  (mem_cells.mp hcell).1

theorem Context.exists_entry {c : Context} {e : Engine} (hopen : c.isOpen e = true) :
    ∃ entry, c.entry? e = some entry := by
  obtain ⟨backing, hbacking⟩ := Option.isSome_iff_exists.mp hopen
  exact ⟨_, congrArg (Option.map _) hbacking⟩

/-- There is nothing to set up where all engines are set up. -/
theorem Host.setup_eq {codecs : List Codec} {h : Host}
    (hopen : ∀ codec ∈ codecs, ∃ engine, codec.engine? = some engine ∧
      h.context.isOpen engine = true) : setup codecs h = .ok () h := by
  induction codecs with
  | nil => rfl
  | cons codec rest ih =>
      obtain ⟨engine, hengine, hopened⟩ := hopen codec List.mem_cons_self
      have hcodec : setupCodec codec h = .ok () h := by
        simp only [setupCodec, hengine]
        change (if h.context.isOpen engine = true then _ else _ : EStateM Fault Host Unit) h = _
        rw [if_pos hopened]
        rfl
      simp only [setup, Bind.bind, EStateM.bind, hcodec]
      exact ih fun next hnext => hopen next (List.mem_cons_of_mem codec hnext)

namespace Session

variable {σ τ : Type}

/-- Where the settings are accepted and all engines they select are set up, all that happens before
the sweep is what is said on the console. -/
theorem prepare_of_open {settings : Settings} {s : Session σ τ} {dir : LibraryDir}
    {after : Console} (hvalid : settings.validate s.host.console = .ok dir after)
    (hset : ∀ engine, engine.codec ∈ settings.selected → s.host.context.isOpen engine = true)
    (fileSize : Nat) (fileName : String) :
    ∃ ready, prepare settings fileSize fileName s = .ok () ready ∧
      ready.host.context = s.host.context ∧ ready.native = s.native ∧ ready.input = s.input ∧
      ready.sink = s.sink := by
  have hopen (codec : Codec) (hselected : codec ∈ settings.selected) :
      ∃ engine, codec.engine? = some engine ∧ s.host.context.isOpen engine = true := by
    obtain ⟨engine, hengine⟩ := Settings.exists_engine_of_validate_ok hvalid hselected
    refine ⟨engine, hengine, hset engine ?_⟩
    rwa [Codec.codec_of_engine? hengine]
  have hsetup (console : Console) : Host.setup settings.selected
      { s.host with console := console } = .ok () { s.host with console := console } :=
    Host.setup_eq hopen
  rw [prepare_of_valid hvalid, hsetup]
  exact ⟨_, rfl, rfl, rfl, rfl, rfl⟩

/-- The settings of a run are accepted, and it has lossless engines, an input that delivers the
file, and a sink that takes every report. -/
structure Equipped (runner : Runner σ τ) (settings : Settings) (fileSize : Nat)
    (good : σ → Prop) (s : Session σ τ) : Prop where
  accepted : ∃ dir, answer settings.validate s.host.console = .ok dir
  memory : settings.memoryLimit ≤ greatestChunk
  set_up : ∀ engine, engine.codec ∈ settings.selected → s.host.context.isOpen engine = true
  lossless : ∀ cell ∈ Plan.cells settings, ∀ entry,
    s.host.context.entry? cell.engine = some entry →
      runner.native.Lossless good entry cell.level cell.extra
  native : good s.native
  input : s.input.Delivers fileSize
  sink : SweepRun.Reliable runner.sink

section Equipped

variable {runner : Runner σ τ} {settings : Settings} {fileSize : Nat} {good : σ → Prop}
  {s : Session σ τ}

theorem Equipped.served (hequipped : s.Equipped runner settings fileSize good) (fileName : String)
    {cell : Cell} (hcell : cell ∈ Plan.cells settings) :
    (runner.sweepRun s.host.context settings fileSize fileName).recorded.Served
      (fun t => good t.1) cell := by
  obtain ⟨entry, hentry⟩ :=
    Context.exists_entry (hequipped.set_up cell.engine (Plan.codec_mem_selected hcell))
  exact ⟨entry, hentry, (hequipped.lossless cell hcell entry hentry).recorded⟩

theorem Equipped.run_observed (hequipped : s.Equipped runner settings fileSize good)
    (fileName : String) :
    ∃ after, run runner.observed settings fileSize fileName (s.observed ([], [])) =
        .ok (Plan.cells settings).length after ∧
      (runner.sweepRun s.host.context settings fileSize fileName).Cleared (Plan.cells settings)
        after.sink.2 := by
  obtain ⟨dir, haccepted⟩ := hequipped.accepted
  obtain ⟨ready, hprepare, hcontext, hnative, hinput, hsink⟩ :=
    prepare_of_open (s := s.observed ([], [])) (eq_of_answer_ok haccepted) hequipped.set_up fileSize
      fileName
  have hsize : settings.chunkSize fileSize ≤ greatestChunk :=
    Nat.le_trans (settings.chunkSize_le fileSize) hequipped.memory
  have hstart : (runner.sweepRun s.host.context settings fileSize fileName).recorded.Ahead
      (fun t => good t.1) (settings.chunkSize fileSize) []
      (ready.sweepState (.ofChunkSize (settings.chunkSize fileSize))) := by
    simp only [sweepState, hnative, hinput, hsink]
    exact ⟨⟨hequipped.input, rfl, hequipped.native⟩, SweepRun.Cleared.nil⟩
  have hresult := SweepRun.execute_ahead hequipped.sink hsize
    (fun cell hcell => hequipped.served fileName hcell) _ hstart
  rw [run_of_prepare _ hprepare, sweep_eq, Runner.sweepRun_observed,
    show ready.host.context = s.host.context from hcontext]
  generalize (runner.sweepRun s.host.context settings fileSize fileName).recorded.logged.execute _ =
    result at hresult ⊢
  cases result with
  | ok done after =>
      obtain ⟨rfl, -, hcleared⟩ := hresult
      exact ⟨_, rfl, hcleared.no_alarm, hcleared.verified⟩
  | error fault after => exact hresult.elim

/-- With lossless engines, an input that delivers the file and a sink that takes every report,
a run completes its plan without an alarm, and has verified each cell if it was to verify. -/
theorem cleared_of_equipped (hequipped : s.Equipped runner settings fileSize good)
    (fileName : String) :
    answer (run runner settings fileSize fileName) s = .ok (Plan.cells settings).length ∧
      (runner.sweepRun s.host.context settings fileSize fileName).Cleared (Plan.cells settings)
        (observe runner settings fileSize fileName s).sink.2 := by
  obtain ⟨after, hobserved, hcleared⟩ := hequipped.run_observed fileName
  constructor
  · obtain ⟨records, hrun⟩ := Session.run_observed runner settings fileSize fileName s
    rw [← answer_eq_of_mapState hrun, answer, hobserved]
  · rw [observe, leaves, hobserved]
    exact hcleared

end Equipped

/-- All levels of LZ4HC over three bytes in chunks of at most two, from an input that delivers one
byte at a time and is interrupted once. -/
theorem cleared_of_equipped_standIn :
    let runner : Runner Unit EventLog := ⟨StandIn.native, EventLog.sink⟩
    let settings := { Settings.default with
      selection := .single .lz4hc, memoryLimit := 2, verify := true, statistics := true }
    let s : Session Unit EventLog :=
      ⟨⟨.ofThreshold 0, .ofFiles ⟨[], [], ""⟩, .inProcess .searchPath⟩, (),
        .ofDelivery ⟨fun _ => some 1, [(2, ⟨.interrupted, "signal"⟩)], []⟩ [1, 2, 3], []⟩
    s.Equipped runner settings 3 (fun _ => True) ∧
      answer (run runner settings 3 "input") s = .ok (Plan.cells settings).length ∧
      (runner.sweepRun s.host.context settings 3 "input").Cleared (Plan.cells settings)
        (observe runner settings 3 "input" s).sink.2 := by
  intro runner settings s
  have hequipped : s.Equipped runner settings 3 (fun _ => True) := by
    have hcopies : ∀ cell ∈ Plan.cells settings, Algorithm.ofEngine cell.engine = .copy := by decide
    constructor
    · exact ⟨⟨""⟩, by decide⟩
    · decide
    · intro engine _
      cases engine <;> rfl
    · intro cell hcell entry hentry
      have hengine : entry.engine = cell.engine := Context.engine_of_entry? hentry
      refine StandIn.lossless ?_ cell.level cell.extra
      rw [hengine]
      exact hcopies cell hcell
    · trivial
    · constructor
      · decide
      · exact nofun
      · intro fault hfault
        obtain rfl := List.mem_singleton.mp hfault
        exact .inr rfl
      · rintro _ _ ⟨⟩
    · exact fun id event t => ⟨(id, event) :: t, rfl⟩
  obtain ⟨hanswer, hcleared⟩ := cleared_of_equipped hequipped "input"
  exact ⟨hequipped, hanswer, hcleared⟩

end Session
end RoundTrip
