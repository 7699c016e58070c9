import Mathlib.Algebra.Ring.Nat
import RoundTrip.Proofs.CellRounds
import RoundTrip.Proofs.PlanOrder
import RoundTrip.Proofs.SweepReports

/-!
# The rounds behind a report

The exchanges of a sweep are those of its cells one after another, so that the
rounds of cell `i` start behind those of the `i` cells before it.  A sweep
reports a cell as verified only when all its rounds stand in the record and
every chunk came back, and statistics only with the totals of these rounds.
Exchanges and events are only ever added, so what was backed once stays backed.
-/

namespace RoundTrip

/-! ## Exchanges behind other exchanges -/

/-- The same input, with the blocks as the exchanges in `log` leave them. -/
def Outset.after (o : Outset) (log : List Exchange) : Outset :=
  { o with
    compressed := replay .compress log o.compressed
    decompressed := replay .decompress log o.decompressed }

namespace CellRun

variable {σ : Type} {run : CellRun σ} {o : Outset} {base log : List Exchange}

theorem Working.rebase {w : Workbench (σ × List Exchange)} (hworking : Working o [] base w) :
    Working (o.after base) base [] w :=
  ⟨hworking.contents, hworking.size, hworking.record.trans (List.append_nil base).symm,
    hworking.compressed, hworking.decompressed⟩

theorem Working.join {w : Workbench (σ × List Exchange)}
    (hworking : Working (o.after base) base log w) : Working o [] (base ++ log) w := by
  refine ⟨hworking.contents, hworking.size, hworking.record, ?_, ?_⟩
  · rw [replay_append]
    exact hworking.compressed
  · rw [replay_append]
    exact hworking.decompressed

theorem decompressCall_after (past : List Exchange) (c : Exchange) (k : Nat) :
    run.decompressCall (o.after base) (past ++ [c]) k =
      run.decompressCall o (base ++ (past ++ [c])) k := by
  have hpacked : run.packedAfter (o.after base) (past ++ [c]) =
      run.packedAfter o (base ++ (past ++ [c])) := by
    rw [← List.append_assoc]
    simp only [packedAfter, List.getLast?_concat]
    rfl
  rw [decompressCall, decompressCall, hpacked, replay_append .compress base]
  rfl

/-- A round keeps its sense when its exchanges stand behind those of whole passes. -/
theorem RoundAt.shift {t i : Nat} {c d : Exchange} (hround : RoundAt run (o.after base) log i c d)
    (hbase : base.length = 2 * (t * o.count)) :
    RoundAt run o (base ++ log) (t * o.count + i) c d := by
  have hmod : (t * o.count + i) % o.count = i % o.count := Nat.mul_add_mod_self_right ..
  have htake (n : Nat) :
      (base ++ log).take (2 * (t * o.count + i) + n) = base ++ log.take (2 * i + n) := by
    rw [Nat.mul_add, ← hbase, Nat.add_assoc, List.take_length_add_append]
  refine ⟨?_, ?_, ?_, ?_, hround.compress_ok, ?_, ?_⟩
  · rw [Nat.mul_add, ← hbase, List.getElem?_append_right (Nat.le_add_right _ _),
      Nat.add_sub_cancel_left]
    exact hround.compress_at
  · rw [Nat.mul_add, ← hbase, Nat.add_assoc, List.getElem?_append_right (Nat.le_add_right _ _),
      Nat.add_sub_cancel_left]
    exact hround.decompress_at
  · rw [hmod]
    exact hround.compress_seen
  · have hpast : log.take (2 * i + 1) = log.take (2 * i) ++ [c] := by
      rw [List.take_add_one, hround.compress_at]
      rfl
    rw [hmod, htake, hround.decompress_seen, hpast]
    exact decompressCall_after _ c _
  · rw [hmod]
    exact hround.decompress_ok
  · rw [hmod, htake, replay_append]
    exact hround.verified

end CellRun

namespace SweepRun

variable {σ τ : Type}

/-! ## What stands behind a report -/

section Backing

variable (run : SweepRun σ τ) (o : Outset)

/-- The passes over the input that every cell makes. -/
def passes : Nat := run.settings.effectiveIterations.toNat

/-- All rounds of planned cell `j` stand in the record, behind those of the cells before it. -/
def Backed (log : List Exchange) (j : Nat) (cell : Cell) : Prop :=
  ∃ entry, run.context.entry? cell.engine = some entry ∧
    ∀ i, i < run.passes * o.count →
      ∃ c d, CellRun.RoundAt (run.cellRun cell entry) o log (j * run.passes * o.count + i) c d

/-- A summary counts the whole input as decompressed, as far as the totals can hold it. -/
def Whole (summary : Summary) : Prop :=
  run.settings.verify = true → run.passes * run.fileSize < 2 ^ 64 →
    summary.decompress.size = run.fileSize

/-- Every report so far has its rounds behind it. -/
structure Sound (s : SweepState (σ × List Exchange) (τ × List (CellId × Event))) : Prop where
  verified : ∀ {j : Nat} {cell : Cell}, (Plan.cells run.settings)[j]? = some cell →
    (run.cellId cell, .verification true) ∈ s.sink.2 → Backed run o s.bench.native.2 j cell
  whole : ∀ {id : CellId} {summary : Summary}, (id, .statistics summary) ∈ s.sink.2 →
    Whole run summary

/-- The cells before cell `i` are completed. -/
structure Stands (i : Nat) (s : SweepState (σ × List Exchange) (τ × List (CellId × Event))) :
    Prop where
  working : CellRun.Working o [] s.bench.native.2 s.bench
  length : s.bench.native.2.length = 2 * (i * run.passes * o.count)
  sound : Sound run o s

/-- Cell `i` is completed as well, and its rounds stand in the record. -/
structure Completes (i : Nat) (cell : Cell)
    (s : SweepState (σ × List Exchange) (τ × List (CellId × Event))) : Prop where
  stands : Stands run o (i + 1) s
  backed : Backed run o s.bench.native.2 i cell

end Backing

section Steps

variable {run : SweepRun σ τ} {o : Outset} {i j : Nat} {cell : Cell}

theorem Backed.append {log : List Exchange} (hbacked : Backed run o log j cell)
    (more : List Exchange) : Backed run o (log ++ more) j cell := by
  obtain ⟨entry, hentry, hrounds⟩ := hbacked
  refine ⟨entry, hentry, fun i hi => ?_⟩
  obtain ⟨c, d, hround⟩ := hrounds i hi
  exact ⟨c, d, hround.append more⟩

/-- More exchanges, with no event. -/
theorem Sound.grow {s t : SweepState (σ × List Exchange) (τ × List (CellId × Event))}
    {more : List Exchange} (hsound : Sound run o s) (hsink : t.sink = s.sink)
    (hlog : t.bench.native.2 = s.bench.native.2 ++ more) : Sound run o t := by
  constructor
  · intro j cell hcell hmem
    rw [hsink] at hmem
    rw [hlog]
    exact (hsound.verified hcell hmem).append more
  · intro id summary hmem
    rw [hsink] at hmem
    exact hsound.whole hmem

/-- One more event, which has its rounds behind it. -/
theorem Sound.report {s t : SweepState (σ × List Exchange) (τ × List (CellId × Event))}
    {id : CellId} {event : Event} (hsound : Sound run o s) (hbench : t.bench = s.bench)
    (hsink : t.sink.2 = s.sink.2 ++ [(id, event)])
    (hverified : event = .verification true → ∀ j cell,
      (Plan.cells run.settings)[j]? = some cell → id = run.cellId cell →
        Backed run o s.bench.native.2 j cell)
    (hwhole : ∀ summary, event = .statistics summary → Whole run summary) : Sound run o t := by
  constructor
  · intro j cell hcell hmem
    rw [hsink, List.mem_append, List.mem_singleton] at hmem
    rw [hbench]
    rcases hmem with hmem | hmem
    · exact hsound.verified hcell hmem
    · cases hmem
      exact hverified rfl _ _ hcell rfl
  · intro id' summary hmem
    rw [hsink, List.mem_append, List.mem_singleton] at hmem
    rcases hmem with hmem | hmem
    · exact hsound.whole hmem
    · cases hmem
      exact hwhole _ rfl

/-- A completed cell may be reported as verified, as its name is that of no other cell. -/
theorem Completes.report {s t : SweepState (σ × List Exchange) (τ × List (CellId × Event))}
    {event : Event} (hcompletes : Completes run o i cell s)
    (hcell : (Plan.cells run.settings)[i]? = some cell) (hbench : t.bench = s.bench)
    (hsink : t.sink.2 = s.sink.2 ++ [(run.cellId cell, event)])
    (hwhole : ∀ summary, event = .statistics summary → Whole run summary) :
    Completes run o i cell t := by
  obtain ⟨⟨hworking, hlength, hsound⟩, hbacked⟩ := hcompletes
  have hsound' : Sound run o t := by
    refine hsound.report hbench hsink ?_ hwhole
    intro _ j cell' hcell' hid
    have hcodec : cell.codec = cell'.codec := congrArg CellId.codec hid
    obtain rfl := Plan.eq_of_same hcell hcell' hcodec (congrArg CellId.level hid)
    rw [hcell] at hcell'
    rwa [← Option.some.inj hcell']
  rw [← hbench] at hworking hlength hbacked
  exact ⟨⟨hworking, hlength, hsound'⟩, hbacked⟩

/-- Whether a sink takes an event or not, the event is kept and nothing else changes. -/
theorem emit_keeps {id : CellId} {event : Event}
    {pre post : SweepState σ (τ × List (CellId × Event)) → Prop}
    (hkeeps : ∀ s t, pre s → t.bench = s.bench → t.sink.2 = s.sink.2 ++ [(id, event)] → post t) :
    Ensures pre (run.logged.emit id event) (fun _ => post) (fun _ => post) := by
  rintro ⟨bench, sink, events⟩ hpre
  simp only [SweepRun.emit, EStateM.adaptExcept, onPart, logged, Sink.recorded]
  cases run.sink.emit id event sink with
  | ok _ after => exact hkeeps _ _ hpre rfl rfl
  | error fault after => exact hkeeps _ _ hpre rfl rfl

/-- The totals of all rounds make a summary of the whole input. -/
theorem whole_summarize {entry : EntryPoints} {tally : Tally} (hpasses : 0 < run.passes)
    (hsize : 0 < run.fileSize → 0 < o.size) (hfile : o.fileSize = run.fileSize)
    (hstatistics : run.settings.statistics = true)
    (hcounted : CellRun.Counted (run.cellRun cell entry) o run.passes 0 tally) :
    Whole run (tally.summarize run.fileSize run.settings.effectiveIterations) := by
  intro hverify hlimit
  have hpass : o.startAt o.count = run.fileSize := by
    rw [Outset.startAt, hfile]
    rcases Nat.eq_zero_or_pos run.fileSize with hzero | hpositive
    · rw [hzero, Nat.min_zero]
    · refine Nat.min_eq_right ?_
      rw [← hfile]
      exact Chunks.count_mul_ge (hsize hpositive) o.fileSize
  have hbytes := hcounted hverify hstatistics
  rw [hpass, Outset.startAt_zero, Nat.add_zero] at hbytes
  have hiterations : max run.settings.effectiveIterations 1 = run.settings.effectiveIterations := by
    have hle : (1 : UInt32) ≤ run.settings.effectiveIterations :=
      UInt32.le_iff_toNat_le.mpr hpasses
    change (if run.settings.effectiveIterations ≤ 1 then 1 else _) = _
    split
    · exact UInt32.le_antisymm hle ‹_›
    · rfl
  have hdivisor : run.settings.effectiveIterations.toUInt64.toNat = run.passes :=
    UInt32.toNat_toUInt64 _
  simp only [Tally.summarize, Tally.summarizeDirection, hbytes, hiterations]
  rw [UInt64.toNat_div, hdivisor, Nat.toUInt64, UInt64.toNat_ofNat_of_lt' hlimit,
    Nat.mul_div_cancel_left _ hpasses]

/-- A planned cell that succeeds has its rounds behind those of the cells before it. -/
theorem onBench_stands {entry : EntryPoints}
    (hentry : run.context.entry? cell.engine = some entry) (hpasses : 0 < run.passes)
    (hsize : 0 < run.fileSize → 0 < o.size) (hfile : o.fileSize = run.fileSize) :
    Ensures (Stands run o i)
      (onBench ((run.recorded.logged.cellRun cell entry).execute run.fileSize) :
        EStateM Fault (SweepState (σ × List Exchange) (τ × List (CellId × Event))) Tally)
      (fun tally s => Completes run o i cell s ∧
        (run.settings.statistics = true →
          Whole run (tally.summarize run.fileSize run.settings.effectiveIterations)))
      (fun _ => Sound run o) := by
  rintro ⟨bench, sink⟩ hstands
  have hexecute : Ensures (CellRun.Working (o.after bench.native.2) bench.native.2 [])
      ((run.cellRun cell entry).recorded.execute run.fileSize) _ _ :=
    CellRun.execute_ensures hfile
  have hworking := hstands.working.rebase
  cases hrun : (run.recorded.logged.cellRun cell entry).execute run.fileSize bench with
  | ok tally after =>
      obtain ⟨log, hafter, hrounds, hcounted⟩ := hexecute.of_ok hworking hrun
      have hlog : after.native.2 = bench.native.2 ++ log := hafter.record
      have hlength : log.length = 2 * (run.passes * o.count) := hrounds.traced.length
      simp only [onBench, onPart, hrun]
      refine ⟨⟨⟨?_, ?_, hstands.sound.grow rfl hlog⟩, entry, hentry, fun r hr => ?_⟩,
        fun hstatistics => ?_⟩
      · rw [hlog]
        exact hafter.join
      · rw [hlog, List.length_append, hstands.length, hlength, ← Nat.mul_add, ← Nat.add_mul,
          ← Nat.succ_mul]
      · obtain ⟨c, d, hround⟩ := hrounds.each r hr
        rw [hlog]
        exact ⟨c, d, hround.shift hstands.length⟩
      · exact whole_summarize hpasses hsize hfile hstatistics hcounted
  | error fault after =>
      obtain ⟨log, hafter, -⟩ := hexecute.of_error hworking hrun
      simp only [onBench, onPart, hrun]
      exact hstands.sound.grow rfl hafter.record

/-! ## Reports in turn -/

theorem Sound.silent :
    Silent (Sound run o : SweepState (σ × List Exchange) (τ × List (CellId × Event)) → Prop) :=
  fun _ _ hsound => ⟨hsound.verified, hsound.whole⟩

theorem Stands.silent :
    Silent (Stands run o i : SweepState (σ × List Exchange) (τ × List (CellId × Event)) → Prop) :=
  fun _ _ hstands =>
    ⟨hstands.working.silent _, hstands.length, Sound.silent _ _ hstands.sound⟩

theorem reportSuccess_stands (hcell : (Plan.cells run.settings)[i]? = some cell) (tally : Tally)
    (hwhole : run.settings.statistics = true →
      Whole run (tally.summarize run.fileSize run.settings.effectiveIterations)) :
    Ensures (Completes run o i cell) (run.recorded.logged.reportSuccess (run.cellId cell) tally)
      (fun _ => Stands run o (i + 1)) (fun _ => Sound run o) := by
  have hemit (event : Event) (hevent : ∀ summary, event = .statistics summary → Whole run summary) :
      Ensures (Completes run o i cell) (run.recorded.logged.emit (run.cellId cell) event)
        (fun _ => Completes run o i cell) (fun _ => Completes run o i cell) :=
    emit_keeps fun s t hcompletes hbench hsink => hcompletes.report hcell hbench hsink hevent
  have hstatistics : Ensures (Completes run o i cell)
      (if run.settings.statistics then run.recorded.logged.emit (run.cellId cell)
        (.statistics (tally.summarize run.fileSize run.settings.effectiveIterations)) else pure ())
      (fun _ => Completes run o i cell) (fun _ => Completes run o i cell) := by
    refine Ensures.ite (fun hwanted => hemit _ ?_) (fun _ => Ensures.pure fun _ hdone => hdone)
    intro summary heq
    rw [← Event.statistics.inj heq]
    exact hwhole hwanted
  have hreport : Ensures (Completes run o i cell)
      (run.recorded.logged.reportSuccess (run.cellId cell) tally)
      (fun _ => Completes run o i cell) (fun _ => Completes run o i cell) := by
    simp only [reportSuccess]
    refine Ensures.ite (fun _ => ?_) (fun _ => hstatistics)
    refine Ensures.bind (hemit _ ?_) fun _ => hstatistics
    intro summary heq
    contradiction
  exact hreport.mono (fun _ hs => hs) (fun _ _ hs => hs.stands) (fun _ _ hs => hs.stands.sound)

theorem reportFailure_sound {α : Type} (id : CellId) (fault : Fault) :
    Ensures (Sound run o)
      (run.recorded.logged.reportFailure id fault :
        EStateM Fault (SweepState (σ × List Exchange) (τ × List (CellId × Event))) α)
      (fun _ _ => False) (fun _ => Sound run o) := by
  have hrest : Ensures (Sound run o)
      (do say (.fault fault); say (.exit .sweep); throw fault :
        EStateM Fault (SweepState (σ × List Exchange) (τ × List (CellId × Event))) α)
      (fun _ _ => False) (fun _ => Sound run o) :=
    (giveUp_keeps Sound.silent fault).mono (fun _ hs => hs) (fun _ _ hs => hs)
      (fun _ _ hs => hs.2)
  have hemit (event : Event) (hverified : event ≠ .verification true)
      (hstatistics : ∀ summary, event ≠ .statistics summary) :
      Ensures (Sound run o) (run.recorded.logged.emit id event) (fun _ => Sound run o)
        (fun _ => Sound run o) := by
    refine emit_keeps fun s t hsound hbench hsink => ?_
    exact hsound.report hbench hsink (fun heq => absurd heq hverified)
      (fun summary heq => absurd heq (hstatistics summary))
  cases fault with
  | verificationFailed codec level fileName mismatch =>
      refine Ensures.bind (hemit (.verification false) ?_ ?_) fun _ => hrest
      · simp
      · simp
  | callFailed direction codec level cause =>
      refine Ensures.bind (hemit (.failure direction) ?_ ?_) fun _ => hrest
      · simp
      · simp
  | _ => exact hrest

theorem runCell_stands (hcell : (Plan.cells run.settings)[i]? = some cell)
    (hpasses : 0 < run.passes) (hsize : 0 < run.fileSize → 0 < o.size)
    (hfile : o.fileSize = run.fileSize) :
    Ensures (Stands run o i) (run.recorded.logged.runCell cell)
      (fun _ => Stands run o (i + 1)) (fun _ => Sound run o) := by
  simp only [runCell]
  cases hentry : run.recorded.logged.context.entry? cell.engine with
  | none => exact fun _ hstands => hstands.sound
  | some entry =>
      have hfound : run.context.entry? cell.engine = some entry := hentry
      refine Ensures.bind (say_keeps Stands.silent) fun _ => ?_
      refine Ensures.bind (onBench_stands hfound hpasses hsize hfile).attempt fun outcome => ?_
      rintro s hsettled
      cases hsettled with
      | @ok tally _ hdone => exact reportSuccess_stands hcell tally hdone.2 s hdone.1
      | error hsound =>
          exact (reportFailure_sound _ _).mono (fun _ hs => hs) (fun _ _ hs => hs.elim)
            (fun _ _ hs => hs) s hsound

theorem runCells_sound (cells : List Cell) (done : Nat)
    (hcells : (Plan.cells run.settings).drop i = cells) (hpasses : 0 < run.passes)
    (hsize : 0 < run.fileSize → 0 < o.size) (hfile : o.fileSize = run.fileSize) :
    Ensures (Stands run o i) (run.recorded.logged.runCells cells done)
      (fun _ => Sound run o) (fun _ => Sound run o) := by
  induction cells generalizing i done with
  | nil => exact Ensures.pure fun _ hstands => hstands.sound
  | cons cell rest ih =>
      have hcell : (Plan.cells run.settings)[i]? = some cell := by
        rw [← List.head?_drop, hcells]
        rfl
      have hrest : (Plan.cells run.settings).drop (i + 1) = rest := by
        rw [← List.tail_drop, hcells]
        rfl
      exact Ensures.bind (runCell_stands hcell hpasses hsize hfile) fun _ => ih (done + 1) hrest

/-- Whatever a sweep reports has its rounds behind it, however the sweep ends. -/
theorem execute_sound (hpasses : 0 < run.passes) (hsize : 0 < run.fileSize → 0 < o.size)
    (hfile : o.fileSize = run.fileSize) :
    Ensures (fun s => CellRun.Working o [] [] s.bench ∧ s.sink.2 = [])
      run.recorded.logged.execute (fun _ => Sound run o) (fun _ => Sound run o) := by
  have hplan : Ensures (Stands run o 0) run.recorded.logged.plan
      (fun cells s => Plan.cells run.settings = cells ∧ Stands run o 0 s)
      (fun _ => Sound run o) :=
    fun s hstands => ⟨rfl, Stands.silent s _ hstands⟩
  have hstart (s : SweepState (σ × List Exchange) (τ × List (CellId × Event)))
      (hempty : CellRun.Working o [] [] s.bench ∧ s.sink.2 = []) : Stands run o 0 s := by
    obtain ⟨hworking, hsink⟩ := hempty
    have hlog : s.bench.native.2 = [] := hworking.record
    have hsound : Sound run o s := by
      constructor
      · intro j cell _ hmem
        rw [hsink] at hmem
        contradiction
      · intro id summary hmem
        rw [hsink] at hmem
        contradiction
    refine ⟨?_, ?_, hsound⟩
    · rw [hlog]
      exact hworking
    · rw [hlog, Nat.zero_mul, Nat.zero_mul]
      rfl
  refine Ensures.mono (?_ : Ensures (Stands run o 0) _ _ _) hstart (fun _ _ hs => hs)
    (fun _ _ hs => hs)
  refine Ensures.bind (say_keeps Stands.silent) fun _ => ?_
  refine Ensures.bind hplan fun cells => ?_
  rintro s ⟨hcells, hstands⟩
  have hall : (Plan.cells run.settings).drop 0 = cells := hcells
  refine Ensures.bind (runCells_sound cells 0 hall hpasses hsize hfile) (fun done => ?_) s
    hstands
  exact Ensures.bind (say_keeps Sound.silent) fun _ => Ensures.pure fun _ hsound => hsound

end Steps

end SweepRun
end RoundTrip
