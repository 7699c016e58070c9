import RoundTrip.Native.StandIn
import RoundTrip.Proofs.BriefSweeps
import RoundTrip.Proofs.SweepParts
import RoundTrip.Proofs.UntimedCells

/-!
# The sizes that are reported

A statistics report divides the totals of a cell by a count of passes.  That count
is always the number of passes that were made.  So where the outcomes of calls are
functions of their arguments the sizes are exactly those of a single pass, however
many there were and whatever times they took.
-/

namespace RoundTrip

/-- What a summary says of the bytes that one pass produced. -/
def Summary.size (summary : Summary) : Direction → Nat
  | .compress => summary.compress.size
  | .decompress => summary.decompress.size

/-- Totals of so many passes are divided into the totals of one. -/
theorem Tally.Multiplies.size_summarize {n : UInt32} {single tally : Tally} (hn : n ≠ 0)
    (hmultiplies : single.Multiplies n tally) (d : Direction)
    (hlimit : n.toNat * (single.bytes d).toNat < 2 ^ 64) (fileSize : Nat) :
    (tally.summarize fileSize n).size d = (single.bytes d).toNat := by
  have hpositive : 0 < n.toNat := Nat.pos_of_ne_zero fun hzero => hn (UInt32.toNat_inj.mp hzero)
  have hcount : (max n 1).toUInt64.toNat = n.toNat := by
    rw [UInt32.toNat_toUInt64, UInt32.toNat_max]
    exact Nat.max_eq_left hpositive
  have hsize : (tally.summarize fileSize n).size d =
      (tally.bytes d / (max n 1).toUInt64).toNat := by
    cases d with
    | compress => rfl
    | decompress => rfl
  rw [hsize, UInt64.toNat_div, hcount, hmultiplies.bytes d hlimit,
    Nat.mul_div_cancel_left _ hpositive]

/-! ## What stays as it is -/

/-- What an engine keeps of its own state, whatever is called. -/
def Native.Keeps {σ : Type} (native : Native σ) (good : σ → Prop) : Prop :=
  ∀ call s, good s → good (native call s).2

theorem EntryPoints.perform_keeps {σ : Type} {native : Native σ} {good : σ → Prop}
    (hkeeps : native.Keeps good) (entry : EntryPoints) (request : Request)
    (source destination : Region) (room : Nat) {s : σ} (hs : good s) :
    good (perform native entry request source destination room s).2 := by
  rw [perform]
  split
  · exact hs
  · exact hkeeps _ s hs

namespace CellRun

variable {σ : Type} {good : σ → Prop} {stock : Stock} {run : CellRun σ}

open Workbench

/-- A step that keeps two workbenches abreast keeps the stock of one. -/
theorem ensures_of_abreast {α : Type} {step : EStateM Fault (Workbench σ) α}
    {post : α → Workbench σ → Workbench σ → Prop}
    (hstep : Coupled (fun _ _ => True) (Abreast good stock) step step post (Abreast good stock))
    (hpost : ∀ a w v, post a w v → Abreast good stock w v) :
    Ensures (Stocked good stock) step (fun _ => Stocked good stock)
      (fun _ => Stocked good stock) := by
  intro w hw
  have hresult := hstep.related ⟨hw, hw, rfl⟩ trivial
  generalize step w = result at hresult ⊢
  cases hresult with
  | ok hanswers => exact (hpost _ _ _ hanswers.2).first
  | error fault hstates => exact hstates.first

/-- Whatever an engine does, a cell leaves the stock as it was. -/
theorem execute_keeps_stock (hkeeps : run.native.Keeps good) (fileSize : Nat) :
    Ensures (Stocked good stock) (run.execute fileSize) (fun _ => Stocked good stock)
      (fun _ => Stocked good stock) := by
  refine execute_keeps (fun notice => ensures_of_abreast (say_abreast notice) fun _ _ _ h => h)
    (ensures_of_abreast rewind_abreast fun _ _ _ h => h)
    (fun length => ensures_of_abreast (load_abreast length) fun _ _ _ h => h.abreast) ?_ ?_ ?_
    fileSize
  · rintro length w ⟨hinput, hsize, hnative⟩
    have hkept : good (run.entry.compress run.native run.cell.level run.options.extra
        (w.buffers.input.take length) w.buffers.compressed w.native).2 :=
      EntryPoints.perform_keeps hkeeps _ _ _ _ _ hnative
    cases hproduced : (run.entry.compress run.native run.cell.level run.options.extra
        (w.buffers.input.take length) w.buffers.compressed w.native).1.produced with
    | ok produced =>
        simp only [CellRun.compress, hproduced]
        exact ⟨hinput, hsize, hkept⟩
    | error cause =>
        simp only [CellRun.compress, hproduced]
        exact ⟨hinput, hsize, hkept⟩
  · rintro packed length w ⟨hinput, hsize, hnative⟩
    have hkept : good (run.entry.decompress run.native (w.buffers.compressed.take packed)
        w.buffers.decompressed length w.native).2 :=
      EntryPoints.perform_keeps hkeeps _ _ _ _ _ hnative
    cases hproduced : (run.entry.decompress run.native (w.buffers.compressed.take packed)
        w.buffers.decompressed length w.native).1.produced with
    | ok produced =>
        simp only [CellRun.decompress, hproduced]
        exact ⟨hinput, hsize, hkept⟩
    | error cause =>
        simp only [CellRun.decompress, hproduced]
        exact ⟨hinput, hsize, hkept⟩
  · rintro length decoded w hstocked
    simp only [CellRun.compare]
    cases verify (w.buffers.input.take length).toList
        (w.buffers.decompressed.take decoded).toList with
    | ok _ => exact hstocked
    | error mismatch => exact hstocked

end CellRun

/-! ## Reports of a sweep -/

namespace SweepRun

variable {σ τ : Type}

/-- The summary is that of a planned cell, which was run on a workbench with this stock. -/
structure Summarizes (run : SweepRun σ τ) (good : σ → Prop) (stock : Stock) (id : CellId)
    (summary : Summary) (cell : Cell) (entry : EntryPoints) : Prop where
  planned : cell ∈ Plan.cells run.settings
  set_up : run.context.entry? cell.engine = some entry
  named : id = run.cellId cell
  statistics : run.settings.statistics = true
  totals : ∃ w : Workbench σ, w.Stocked good stock ∧ ∃ tally,
    answer ((run.cellRun cell entry).execute run.fileSize) w = .ok tally ∧
      summary = tally.summarize run.fileSize run.settings.effectiveIterations

/-- The stock is as it was, and every statistics report is about a planned cell. -/
structure Tells (run : SweepRun σ τ) (good : σ → Prop) (stock : Stock)
    (s : Rig σ × (τ × List (CellId × Event))) : Prop where
  stocked : s.1.bench.Stocked good stock
  reports : ∀ id summary, (id, .statistics summary) ∈ s.2.2 →
    ∃ cell entry, run.Summarizes good stock id summary cell entry

section Tells

variable {run : SweepRun σ τ} {good : σ → Prop} {stock : Stock} {cell : Cell}

theorem alone_keeps_stock (hkeeps : run.native.Keeps good) :
    Ensures (fun rig => rig.bench.Stocked good stock) (run.alone cell)
      (fun tally rig => rig.bench.Stocked good stock ∧
        (cell ∈ Plan.cells run.settings → run.settings.statistics = true →
          ∃ entry, run.Summarizes good stock (run.cellId cell)
            (tally.summarize run.fileSize run.settings.effectiveIterations) cell entry))
      (fun _ rig => rig.bench.Stocked good stock) := by
  intro rig hrig
  cases hentry : run.context.entry? cell.engine with
  | none =>
      simp only [alone, hentry]
      exact hrig
  | some entry =>
      have hengine : (run.cellRun cell entry).native.Keeps good := hkeeps
      have hexecute := CellRun.execute_keeps_stock hengine run.fileSize rig.bench hrig
      simp only [alone, hentry]
      cases hrun : (run.cellRun cell entry).execute run.fileSize rig.bench with
      | error fault after =>
          rw [hrun] at hexecute
          exact ⟨hexecute.input, hexecute.chunkSize, hexecute.native⟩
      | ok tally after =>
          rw [hrun] at hexecute
          refine ⟨⟨hexecute.input, hexecute.chunkSize, hexecute.native⟩, ?_⟩
          intro hplanned hstatistics
          refine ⟨entry, hplanned, hentry, rfl, hstatistics, rig.bench, hrig, tally, ?_, rfl⟩
          rw [answer, hrun]

/-- An event that is handed to the sink is reported whether the sink takes it or not. -/
theorem hand_tells (report : CellId × Event)
    (hreport : ∀ id summary, report = (id, .statistics summary) →
      ∃ cell entry, run.Summarizes good stock id summary cell entry) :
    Ensures (run.Tells good stock) (run.logged.hand report) (fun _ => run.Tells good stock)
      (fun _ => run.Tells good stock) := by
  rintro ⟨rig, t, events⟩ ⟨hstocked, hevents⟩
  have hmore (t' : τ) : run.Tells good stock (rig, (t', events ++ [report])) := by
    refine ⟨hstocked, fun id summary hmem => ?_⟩
    rw [List.mem_append, List.mem_singleton] at hmem
    rcases hmem with hmem | hmem
    · exact hevents id summary hmem
    · exact hreport id summary hmem.symm
  simp only [hand, EStateM.adaptExcept, onPart, logged, Sink.recorded]
  cases run.sink.emit report.1 report.2 t with
  | ok _ after => exact hmore after
  | error cause after => exact hmore after

theorem forM_hand_tells (reports : List (CellId × Event))
    (hreports : ∀ id summary, (id, .statistics summary) ∈ reports →
      ∃ cell entry, run.Summarizes good stock id summary cell entry) :
    Ensures (run.Tells good stock) (forM reports run.logged.hand)
      (fun _ => run.Tells good stock) (fun _ => run.Tells good stock) := by
  induction reports with
  | nil => exact Ensures.pure fun _ htells => htells
  | cons report rest ih =>
      rw [List.forM_cons]
      refine Ensures.bind (hand_tells report fun id summary heq => ?_) fun _ =>
        ih fun id summary hmem => hreports id summary (List.mem_cons_of_mem report hmem)
      exact hreports id summary (heq ▸ List.mem_cons_self)

theorem of_mem_successEvents {tally : Tally} {id : CellId} {summary : Summary}
    (hmem : (id, .statistics summary) ∈ run.successEvents cell tally) :
    run.settings.statistics = true ∧ id = run.cellId cell ∧
      summary = tally.summarize run.fileSize run.settings.effectiveIterations := by
  rcases List.mem_append.mp hmem with hmem | hmem
  · split at hmem
    · cases List.mem_singleton.mp hmem
    · contradiction
  · split at hmem
    · cases List.mem_singleton.mp hmem
      exact ⟨‹_›, rfl, rfl⟩
    · contradiction

/-- A fault is not reported with statistics. -/
theorem not_mem_lastReports (fault : Fault) (id : CellId) (summary : Summary) :
    (id, .statistics summary) ∉ run.lastReports cell fault := by
  intro hmem
  obtain ⟨event, hevent, heq⟩ := List.mem_map.mp hmem
  cases heq
  cases fault <;> cases Option.mem_toList.mp hevent

theorem briefCell_tells (hkeeps : run.native.Keeps good) (hcell : cell ∈ Plan.cells run.settings) :
    Ensures (run.Tells good stock) (run.logged.briefCell cell) (fun _ => run.Tells good stock)
      (fun _ => run.Tells good stock) := by
  have halone : Ensures (run.Tells good stock)
      (onPart Prod.fst (fun rig s => (rig, s.2)) (run.alone cell) :
        EStateM Fault (Rig σ × (τ × List (CellId × Event))) Tally)
      (fun tally s => run.Tells good stock s ∧
        (cell ∈ Plan.cells run.settings → run.settings.statistics = true →
          ∃ entry, run.Summarizes good stock (run.cellId cell)
            (tally.summarize run.fileSize run.settings.effectiveIterations) cell entry))
      (fun _ => run.Tells good stock) :=
    (alone_keeps_stock hkeeps).onPart (fun _ htells => htells.stocked)
      (fun _ _ _ htells hafter => ⟨⟨hafter.1, htells.reports⟩, hafter.2⟩)
      fun _ _ _ htells hafter => ⟨hafter, htells.reports⟩
  refine Ensures.bind halone.attempt fun outcome => ?_
  rintro s hsettled
  cases hsettled with
  | @ok tally _ hdone =>
      refine forM_hand_tells _ ?_ s hdone.1
      intro id summary hmem
      obtain ⟨hstatistics, rfl, rfl⟩ := of_mem_successEvents hmem
      exact ⟨cell, hdone.2 hcell hstatistics⟩
  | @error fault _ htells =>
      refine Ensures.bind (forM_hand_tells _ ?_) (fun _ => ?_) s htells
      · exact fun id summary hmem => absurd hmem (not_mem_lastReports fault id summary)
      · exact fun _ hs => hs

theorem briefCells_tells (hkeeps : run.native.Keeps good) {cells : List Cell}
    (hcells : ∀ cell ∈ cells, cell ∈ Plan.cells run.settings) (done : Nat) :
    Ensures (run.Tells good stock) (run.logged.briefCells cells done)
      (fun _ => run.Tells good stock) (fun _ => run.Tells good stock) := by
  induction cells generalizing done with
  | nil => exact Ensures.pure fun _ htells => htells
  | cons cell rest ih =>
      obtain ⟨hcell, hrest⟩ := List.forall_mem_cons.mp hcells
      exact Ensures.bind (briefCell_tells hkeeps hcell) fun _ => ih hrest (done + 1)

/-- Every statistics report of a sweep is about a planned cell. -/
theorem summarizes_of_execute (hkeeps : run.native.Keeps good)
    {s : SweepState σ (τ × List (CellId × Event))} (hstocked : s.bench.Stocked good stock)
    (hnone : s.sink.2 = []) {id : CellId} {summary : Summary}
    (hmem : (id, .statistics summary) ∈ (leaves run.logged.execute s).sink.2) :
    ∃ cell entry, run.Summarizes good stock id summary cell entry := by
  have hstart : run.Tells good stock (s.bench.rig, s.sink) := by
    refine ⟨⟨hstocked.input, hstocked.chunkSize, hstocked.native⟩, fun id summary hbefore => ?_⟩
    rw [hnone] at hbefore
    contradiction
  have hafter := (briefCells_tells hkeeps (fun _ hcell => hcell) 0).leaves hstart
  rw [(run.logged.leaves_execute_brief s).sink] at hmem
  exact hafter.reports id summary hmem

end Tells
end SweepRun

/-! ## Reports of a run -/

namespace Session

variable {σ τ : Type}

theorem positive_of_prepare {settings : Settings} {fileSize : Nat} {fileName : String}
    {s ready : Session σ τ} (hprepare : prepare settings fileSize fileName s = .ok () ready) :
    settings.iterations ≠ 0 ∧ 0 < settings.memoryLimit := by
  cases hvalid : settings.validate s.host.console with
  | ok dir after => exact Settings.positive_of_validate_ok hvalid
  | error fault after =>
      simp only [prepare, onConsole, onHost, onPart, Bind.bind, EStateM.bind, hvalid] at hprepare
      contradiction

/-- The workbench on which a run starts. -/
def startBench (s : Session σ τ) (settings : Settings) (fileSize : Nat) : Workbench σ :=
  (s.sweepState (.ofChunkSize (settings.chunkSize fileSize))).bench

/-- What a statistics report says of a planned cell. -/
structure Summarizes (runner : Runner σ τ) (good : σ → Prop) (settings : Settings) (fileSize : Nat)
    (fileName : String) (s : Session σ τ) (id : CellId) (summary : Summary) (cell : Cell)
    (run : CellRun σ) : Prop where
  planned : cell ∈ Plan.cells settings
  named : id = ⟨settings.label, cell.codec, cell.level, fileName⟩
  /-- The cell was run on the functions of its engine. -/
  set_up : ∃ entry,
    (observe runner settings fileSize fileName s).host.context.entry? cell.engine = some entry ∧
      run = (runner.sweepRun (observe runner settings fileSize fileName s).host.context settings
        fileSize fileName).cellRun cell entry
  /-- There are no statistics where one pass is enough, so that as many are made as were set. -/
  iterations : settings.statistics = true ∧ run.options.iterations = settings.iterations
  /-- The figures are made from totals of the cell, with the count of the passes it made. -/
  count : ∃ w tally, answer (run.execute fileSize) w = .ok tally ∧
    tally.passes = run.options.iterations ∧ summary = tally.summarize fileSize tally.passes
  /-- Where outcomes are functions of the arguments, the sizes are those of a single pass. -/
  sizes : run.native.Functional good run.entry →
    ∃ single, answer ((run.repeated 1).execute fileSize) (s.startBench settings fileSize) =
        .ok single ∧
      ∀ d, settings.iterations.toNat * (single.bytes d).toNat < 2 ^ 64 →
        summary.size d = (single.bytes d).toNat

section Summarizes

variable {runner : Runner σ τ} {good : σ → Prop} {settings : Settings} {fileSize : Nat}
  {fileName : String} {s : Session σ τ} {id : CellId} {summary : Summary}

theorem startBench_stocked (hgood : good s.native) (hsteady : s.input.Steady) :
    (s.startBench settings fileSize).Stocked good (s.stock settings fileSize) :=
  ⟨⟨hsteady, rfl⟩, rfl, hgood⟩

/-- Where outcomes are functions of the arguments, the totals of a cell count what a single pass
from the start of the run counts, as often as it was made; wherever the cell was run and whether its
exchanges were recorded. -/
theorem exists_single {run : CellRun σ} (hfunctional : run.native.Functional good run.entry)
    (hgood : good s.native) (hsteady : s.input.Steady) (hstatistics : run.options.statistics = true)
    (hn : run.options.iterations ≠ 0) {w : Workbench (σ × List Exchange)}
    (hw : w.Stocked (fun t => good t.1) (s.stock settings fileSize)) {tally : Tally}
    (hrun : answer (run.recorded.execute fileSize) w = .ok tally) :
    ∃ single, answer ((run.repeated 1).execute fileSize) (s.startBench settings fileSize) =
        .ok single ∧ single.Multiplies run.options.iterations tally := by
  have hstart : (s.startBench settings fileSize).Stocked good (s.stock settings fileSize) :=
    startBench_stocked hgood hsteady
  have hpasses : 0 < run.options.iterations.toNat :=
    Nat.pos_of_ne_zero fun hzero => hn (UInt32.toNat_inj.mp hzero)
  obtain ⟨plain, hplain⟩ : ∃ plain : Workbench σ,
      plain = ⟨w.console, w.native.1, w.input, w.buffers⟩ := ⟨_, rfl⟩
  have hstocked : plain.Stocked good (s.stock settings fileSize) :=
    hplain ▸ ⟨hw.input, hw.chunkSize, hw.native⟩
  have hunrecorded : answer (run.execute fileSize) plain = .ok tally := by
    rw [← hrun, hplain]
    exact (run.mirrors_recorded.execute fileSize ⟨rfl, rfl, rfl, rfl⟩).answer_eq
  obtain ⟨tally', hsame, hcounts⟩ :=
    CellRun.exists_stocked_of_ok hfunctional hpasses hstocked hstart hunrecorded
  obtain ⟨hsucceeds, htotals⟩ :=
    CellRun.execute_repeated_of_functional hfunctional hstart hstatistics hn fileSize
  obtain ⟨single, hsingle⟩ := hsucceeds.mp ⟨tally', hsame⟩
  exact ⟨single, hsingle, (htotals single tally' hsingle hsame).sameCounts (.refl _) hcounts.symm⟩

/-- Statistics are reported of cells that make as many passes as were set. -/
theorem effectiveIterations_of_statistics (hstatistics : settings.statistics = true) :
    settings.effectiveIterations = settings.iterations := by
  rw [Settings.effectiveIterations, hstatistics, Bool.not_true, Bool.and_false]
  rfl

theorem exists_summarizes (hkeeps : runner.native.Keeps good) (hgood : good s.native)
    (hsteady : s.input.Steady)
    (hmem : (id, .statistics summary) ∈ (observe runner settings fileSize fileName s).sink.2) :
    ∃ cell run, s.Summarizes runner good settings fileSize fileName id summary cell run := by
  rcases observe_cases runner settings fileSize fileName s with
    hnone | ⟨ready, hprepare, huntouched, hobserve⟩
  · rw [hnone.sink] at hmem
    contradiction
  · have hrecorded : runner.native.recorded.Keeps fun t => good t.1 := fun call t => hkeeps call t.1
    have hstocked : (ready.sweepState (.ofChunkSize (settings.chunkSize fileSize))).bench.Stocked
        (fun t => good t.1) (s.stock settings fileSize) := by
      constructor
      · rw [sweepState, huntouched.input]
        exact ⟨hsteady, rfl⟩
      · rfl
      · rw [sweepState, huntouched.native]
        exact hgood
    have hiterations := (positive_of_prepare hprepare).1
    have hevents := hmem
    rw [hobserve] at hevents
    obtain ⟨cell, entry, hplanned, hentry, hnamed, hstatistics, w, hw, tally, htally, hsummary⟩ :=
      SweepRun.summarizes_of_execute hrecorded hstocked (congrArg Prod.snd huntouched.sink) hevents
    obtain ⟨run, hrun⟩ : ∃ run, run = (runner.sweepRun ready.host.context settings fileSize
        fileName).cellRun cell entry := ⟨_, rfl⟩
    have hstatistics : settings.statistics = true := hstatistics
    have hmade : answer (run.recorded.execute fileSize) w = .ok tally := by
      rw [hrun]
      exact htally
    have hwanted : run.options.statistics = true := by
      rw [hrun]
      exact hstatistics
    have hset : run.options.iterations = settings.iterations := by
      rw [hrun, ← effectiveIterations_of_statistics hstatistics]
      rfl
    have hcount : tally.passes = settings.iterations :=
      (run.recorded.passes_of_execute hwanted hmade).trans hset
    have hsummary : summary = tally.summarize fileSize settings.iterations := by
      rw [← effectiveIterations_of_statistics hstatistics]
      exact hsummary
    refine ⟨cell, run, hplanned, hnamed, ⟨entry, ?_, ?_⟩, ⟨hstatistics, hset⟩,
      ⟨⟨w.console, w.native.1, w.input, w.buffers⟩, tally, ?_, ?_, ?_⟩, fun hfunctional => ?_⟩
    · rw [hobserve]
      exact hentry
    · rw [hobserve]
      exact hrun
    · rw [← hmade]
      exact (run.mirrors_recorded.execute fileSize ⟨rfl, rfl, rfl, rfl⟩).answer_eq
    · rw [hcount, hset]
    · rw [hcount]
      exact hsummary
    · rw [← hset] at hiterations hsummary ⊢
      obtain ⟨single, hsingle, hmultiplies⟩ :=
        exists_single hfunctional hgood hsteady hwanted hiterations hw hmade
      refine ⟨single, hsingle, fun d hlimit => ?_⟩
      rw [hsummary]
      exact hmultiplies.size_summarize hiterations d hlimit fileSize

end Summarizes

/-- Passes add up and are divided out again.  A cell without statistics has empty totals.  Where the
outcomes of calls are functions of their arguments, whatever times they take, and the input does
not fail, a cell of `n` passes succeeds if one pass does, with `n` times its bytes.  And every
statistics report of a run counts the passes that were made, so that the sizes are those of a single
pass. -/
theorem sizes_of_passes {good : σ → Prop} (runner : Runner σ τ)
    (hkeeps : runner.native.Keeps good) :
    (∀ (run : CellRun σ) (fileSize : Nat) (w : Workbench σ) (tally : Tally),
      run.options.statistics = false → answer (run.execute fileSize) w = .ok tally →
      tally = .empty) ∧
    (∀ (run : CellRun σ) (fileSize : Nat) (w : Workbench σ) (n : UInt32),
      run.native.Functional good run.entry → good w.native → w.input.Steady →
      run.options.statistics = true → n ≠ 0 →
      ((∃ tally, answer ((run.repeated n).execute fileSize) w = .ok tally) ↔
        ∃ single, answer ((run.repeated 1).execute fileSize) w = .ok single) ∧
      ∀ single tally, answer ((run.repeated 1).execute fileSize) w = .ok single →
        answer ((run.repeated n).execute fileSize) w = .ok tally → single.Multiplies n tally) ∧
    ∀ (settings : Settings) (fileSize : Nat) (fileName : String) (s : Session σ τ),
      good s.native → s.input.Steady → ∀ id summary,
      (id, .statistics summary) ∈ (observe runner settings fileSize fileName s).sink.2 →
      ∃ cell run, s.Summarizes runner good settings fileSize fileName id summary cell run := by
  refine ⟨?_, ?_, ?_⟩
  · intro run fileSize w tally hstatistics hrun
    exact run.eq_empty_of_execute hstatistics hrun
  · intro run fileSize w n hfunctional hgood hsteady hstatistics hn
    have hstocked : w.Stocked good ⟨w.input.deliverable, w.buffers.chunkSize⟩ :=
      ⟨⟨hsteady, rfl⟩, rfl, hgood⟩
    exact run.execute_repeated_of_functional hfunctional hstocked hstatistics hn fileSize
  · intro settings fileSize fileName s hgood hsteady id summary hmem
    exact exists_summarizes hkeeps hgood hsteady hmem

/-- Three passes of a stand-in engine over four bytes, in chunks of at most three, where every call
takes longer than the one before it. -/
theorem sizes_of_passes_standIn :
    let native : Native (Unit × Nat) := StandIn.native.clocked fun n => n
    let runner : Runner (Unit × Nat) EventLog := ⟨native, EventLog.sink⟩
    let settings := { Settings.default with
      selection := .single .lz4hc, level := 3, iterations := 3, memoryLimit := 3,
      statistics := true }
    let s : Session (Unit × Nat) EventLog :=
      ⟨⟨.ofThreshold 0, .ofFiles ⟨[], [], ""⟩, .inProcess .searchPath⟩, ((), 0),
        .ofList [7, 7, 7, 1], []⟩
    let cell : CellRun (Unit × Nat) := ⟨native, ⟨.lz4hc, .process⟩,
      ⟨settings.label, .lz4hc, 3, "input"⟩, ⟨3, false, true, 0⟩⟩
    (∃ single tally, answer ((cell.repeated 1).execute 4) (s.startBench settings 4) = .ok single ∧
      answer ((cell.repeated 3).execute 4) (s.startBench settings 4) = .ok tally ∧
      single.Multiplies 3 tally) ∧
    (∀ tally, answer ({ cell with options.statistics := false }.execute 4)
      (s.startBench settings 4) = .ok tally → tally = .empty) ∧
    ∃ id summary, (id, .statistics summary) ∈ (observe runner settings 4 "input" s).sink.2 ∧
      ∃ planned run, s.Summarizes runner (fun _ => True) settings 4 "input" id summary planned
        run := by
  intro native runner settings s cell
  have hsteady : s.input.Steady := ⟨nofun, nofun, fun _ _ => Iff.rfl⟩
  have hkeeps : runner.native.Keeps fun _ => True := fun _ _ _ => trivial
  have hfunctional : cell.native.Functional (fun _ => True) cell.entry :=
    (StandIn.stateless cell.entry).functional.clocked fun n => n
  obtain ⟨hempty, hcell, hreports⟩ := sizes_of_passes runner hkeeps
  obtain ⟨hsucceeds, hmultiplies⟩ := hcell cell 4 (s.startBench settings 4) 3 hfunctional trivial
    hsteady rfl (by decide)
  have hone : (answer ((cell.repeated 1).execute 4) (s.startBench settings 4)).isOk = true := by
    decide +kernel
  obtain ⟨single, hsingle⟩ : ∃ single,
      answer ((cell.repeated 1).execute 4) (s.startBench settings 4) = .ok single := by
    generalize answer ((cell.repeated 1).execute 4) (s.startBench settings 4) = outcome at hone
    cases outcome with
    | ok single => exact ⟨single, rfl⟩
    | error fault => contradiction
  obtain ⟨tally, htally⟩ := hsucceeds.mpr ⟨single, hsingle⟩
  have hreported : (observe runner settings 4 "input" s).sink.2.any
      (fun report => !report.2.isAlarm && report.2 != .verification true) = true := by
    decide +kernel
  obtain ⟨⟨id, event⟩, hmem, hevent⟩ := List.any_eq_true.mp hreported
  refine ⟨⟨single, tally, hsingle, htally, hmultiplies single tally hsingle htally⟩,
    fun tally hrun => hempty _ 4 (s.startBench settings 4) tally rfl hrun, ?_⟩
  cases event with
  | statistics summary =>
      exact ⟨id, summary, hmem, hreports settings 4 "input" s trivial hsteady id summary hmem⟩
  | verification came => cases came <;> exact absurd hevent Bool.false_ne_true
  | failure direction => exact absurd hevent Bool.false_ne_true

end Session
end RoundTrip
