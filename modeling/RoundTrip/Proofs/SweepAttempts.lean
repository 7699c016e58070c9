import RoundTrip.Proofs.BriefSweeps
import RoundTrip.Proofs.CellRounds
import RoundTrip.Proofs.SessionMirror

/-!
# The cells that a run attempts

A run attempts its cells one after another, each where the one before it ended,
and goes no further than the first that fails.  Whatever passes between the run
and an engine belongs to one attempt, and a call that compresses is given the
parameters of the cell that is attempted, in the form that its engine takes.
-/

namespace RoundTrip

/-! ## What reaches an engine -/

/-- The call that compresses for a cell.  Plain LZ4 is given no parameter, and only BZIP2 the
extra one, as its work factor. -/
inductive Receives : Cell → Request → Prop where
  | lz4 (level extra : Int) : Receives ⟨.lz4, level, extra⟩ .lz4Compress
  | lz4hc (level extra : Int) : Receives ⟨.lz4hc, level, extra⟩ (.lz4hcCompress level)
  | bzip2 (level extra : Int) : Receives ⟨.bzip2, level, extra⟩ (.bzip2Compress level 0 extra)
  | zlib (level extra : Int) : Receives ⟨.zlib, level, extra⟩ (.zlibCompress level)

theorem receives_compress (cell : Cell) :
    Receives cell (.compress cell.engine cell.level cell.extra) := by
  obtain ⟨engine, level, extra⟩ := cell
  cases engine with
  | lz4 => exact .lz4 level extra
  | lz4hc => exact .lz4hc level extra
  | bzip2 => exact .bzip2 level extra
  | zlib => exact .zlib level extra

/-- A cell that was run, with what passed between the run and its engine. -/
structure Attempt where
  cell : Cell
  exchanges : List Exchange

/-- All exchanges are with the engine of the cell, and it compresses with the parameters of the
cell. -/
structure Attempt.Fitting (context : Context) (attempt : Attempt) : Prop where
  entry : ∀ e ∈ attempt.exchanges, context.entry? attempt.cell.engine = some e.call.entry
  compress : ∀ e ∈ attempt.exchanges, e.call.request.direction = .compress →
    Receives attempt.cell e.call.request

namespace CellRun

variable {σ : Type} {run : CellRun σ} {o : Outset} {base log : List Exchange}

/-- A cell calls the functions of its own engine only. -/
theorem Conforms.entry {passes : Nat} (hconforms : Conforms run o passes log) :
    ∀ e ∈ log, e.call.entry = run.entry := by
  intro e he
  have hcall := hconforms.seen.subset (List.mem_map_of_mem he)
  rw [reference_eq_callsUpTo, callsUpTo] at hcall
  obtain ⟨i, -, hround⟩ := List.mem_flatMap.mp hcall
  have hentry : e.call.seen.entry = run.entry := by
    simp only [roundCalls, List.mem_cons, List.not_mem_nil, or_false] at hround
    rcases hround with hseen | hseen
    · rw [hseen, compressCall]
    · rw [hseen, decompressCall]
  exact hentry

/-- However a cell ends, its exchanges keep to the reference trace. -/
theorem execute_stopped (run : CellRun σ) {fileSize : Nat} (hfile : o.fileSize = fileSize) :
    Ensures (Working o base []) (run.recorded.execute fileSize)
      (fun _ => Stopped run o base run.options.iterations.toNat)
      (fun _ => Stopped run o base run.options.iterations.toNat) := by
  refine (execute_ensures hfile).mono (fun _ hworking => hworking) ?_ fun _ _ hstopped => hstopped
  rintro tally w ⟨log, hworking, hrounds, -⟩
  exact ⟨log, hworking, hrounds.traced.conforms (Nat.le_refl _)⟩

end CellRun

namespace SweepRun

variable {σ τ : Type}

/-- What is left of a cell is its exchanges, and they fit it. -/
theorem exists_exchanges (run : SweepRun σ τ) (cell : Cell) (rig : Rig (σ × List Exchange)) :
    ∃ exchanges,
      (leaves (run.recorded.alone cell) rig).native.2 = rig.native.2 ++ exchanges ∧
        Attempt.Fitting run.context ⟨cell, exchanges⟩ := by
  cases hentry : run.context.entry? cell.engine with
  | none =>
      have halone : run.recorded.alone cell rig = .error (notSetUp cell) rig := by
        simp only [alone, recorded, hentry]
      refine ⟨[], ?_, ?_, ?_⟩
      · rw [leaves, halone, List.append_nil]
      · exact fun e he => absurd he List.not_mem_nil
      · exact fun e he => absurd he List.not_mem_nil
  | some entry =>
      have halone : run.recorded.alone cell rig = mapState Workbench.rig
          ((run.cellRun cell entry).recorded.execute run.fileSize rig.bench) := by
        simp only [alone, recorded, hentry]
        rfl
      have hworking : CellRun.Working (rig.bench.outset run.fileSize) rig.native.2 [] rig.bench :=
        ⟨rfl, rfl, (List.append_nil _).symm, rfl, rfl⟩
      obtain ⟨exchanges, hleft, hconforms⟩ :=
        ((run.cellRun cell entry).execute_stopped rfl).leaves hworking
      have hengine : entry.engine = cell.engine := Context.engine_of_entry? hentry
      refine ⟨exchanges, ?_, ?_, ?_⟩
      · rw [leaves_eq_of_mapState halone]
        exact hleft.record
      · intro e he
        rw [hconforms.entry e he]
        exact hentry
      · intro e he hdirection
        obtain ⟨k, -, hseen, -⟩ :=
          hconforms.exists_chunk (List.mem_map_of_mem he) hdirection
        have hrequest : e.call.request = .compress entry.engine cell.level cell.extra :=
          congrArg SeenCall.request hseen
        rw [hrequest, hengine]
        exact receives_compress cell

/-! ## One cell after another -/

/-- Attempts from here on: each starts where the one before it ended, and at most the last one
fails. -/
inductive Attempted (alone : Cell → EStateM Fault (Rig (σ × List Exchange)) Tally) :
    Rig (σ × List Exchange) → List Attempt → Rig (σ × List Exchange) → Prop where
  | none (rig : Rig (σ × List Exchange)) : Attempted alone rig [] rig
  | last {rig : Rig (σ × List Exchange)} {attempt : Attempt}
      (hexchanges : (leaves (alone attempt.cell) rig).native.2 =
        rig.native.2 ++ attempt.exchanges) :
      Attempted alone rig [attempt] (leaves (alone attempt.cell) rig)
  | next {rig mid after : Rig (σ × List Exchange)} {attempt : Attempt} {rest : List Attempt}
      {tally : Tally} (hcell : alone attempt.cell rig = .ok tally mid)
      (hexchanges : mid.native.2 = rig.native.2 ++ attempt.exchanges)
      (hrest : Attempted alone mid rest after) : Attempted alone rig (attempt :: rest) after

/-- Every exchange belongs to one attempt. -/
theorem Attempted.record {alone : Cell → EStateM Fault (Rig (σ × List Exchange)) Tally}
    {rig after : Rig (σ × List Exchange)} {attempts : List Attempt}
    (hattempted : Attempted alone rig attempts after) :
    after.native.2 = rig.native.2 ++ attempts.flatMap Attempt.exchanges := by
  induction hattempted with
  | none rig => exact (List.append_nil _).symm
  | last hexchanges => rw [hexchanges, List.flatMap_singleton]
  | next _ hexchanges _ ih => rw [ih, hexchanges, List.flatMap_cons, List.append_assoc]

section Brief

variable (run : SweepRun σ τ)

/-- Reports do not touch what cells work on. -/
theorem forM_hand_rig (reports : List (CellId × Event)) (rig : Rig σ) :
    Ensures (fun s => s.1 = rig) (forM reports run.hand) (fun _ s => s.1 = rig)
      (fun _ s => s.1 = rig) := by
  have hhand (report : CellId × Event) :
      Ensures (fun s => s.1 = rig) (run.hand report) (fun _ s => s.1 = rig)
        (fun _ s => s.1 = rig) := by
    rintro ⟨_, t⟩ rfl
    simp only [hand, EStateM.adaptExcept, onPart]
    cases run.sink.emit report.1 report.2 t with
    | ok _ after => rfl
    | error cause after => rfl
  induction reports with
  | nil => exact Ensures.pure fun _ hrig => hrig
  | cons report rest ih =>
      rw [List.forM_cons]
      exact Ensures.bind (hhand report) fun _ => ih

/-- A cell completes with its reports, or leaves what it leaves alone. -/
theorem briefCell_ends (cell : Cell) (rig : Rig σ) (t : τ) :
    (∃ tally mid t', run.alone cell rig = .ok tally mid ∧
      run.briefCell cell (rig, t) = .ok () (mid, t')) ∨
    ∃ fault t', run.briefCell cell (rig, t) = .error fault (leaves (run.alone cell) rig, t') := by
  have hreports := run.forM_hand_rig (run.reports cell rig) (leaves (run.alone cell) rig)
    (leaves (run.alone cell) rig, t) rfl
  cases hgiven : forM (run.reports cell rig) run.hand (leaves (run.alone cell) rig, t) with
  | error cause after =>
      rw [hgiven] at hreports
      obtain ⟨left, t'⟩ := after
      obtain rfl : left = leaves (run.alone cell) rig := hreports
      exact .inr ⟨cause, t', run.briefCell_of_refused hgiven⟩
  | ok _ after =>
      rw [hgiven] at hreports
      obtain ⟨left, t'⟩ := after
      obtain rfl : left = leaves (run.alone cell) rig := hreports
      have hcell := run.briefCell_of_given hgiven
      cases halone : run.alone cell rig with
      | ok tally mid =>
          rw [leaves, halone] at hcell
          exact .inl ⟨tally, mid, t', rfl, hcell⟩
      | error fault left =>
          rw [halone] at hcell
          exact .inr ⟨fault, t', hcell⟩

/-- What every cell keeps of what it works on, cells in turn keep. -/
theorem briefCells_keeps {P : Rig σ → Prop}
    (hcell : ∀ cell rig, P rig → P (leaves (run.alone cell) rig)) (cells : List Cell) (done : Nat) :
    Ensures (fun s => P s.1) (run.briefCells cells done) (fun _ s => P s.1) (fun _ s => P s.1) := by
  induction cells generalizing done with
  | nil => exact Ensures.pure fun _ hs => hs
  | cons cell rest ih =>
      have hbrief : Ensures (fun s => P s.1) (run.briefCell cell) (fun _ s => P s.1)
          (fun _ s => P s.1) := by
        rintro ⟨rig, t⟩ hrig
        have hleft := hcell cell rig hrig
        rcases run.briefCell_ends cell rig t with
          ⟨tally, mid, t', halone, hrun⟩ | ⟨fault, t', hrun⟩
        · rw [leaves, halone] at hleft
          rw [hrun]
          exact hleft
        · rw [hrun]
          exact hleft
      exact Ensures.bind hbrief fun _ => ih (done + 1)

/-- The cells of a plan are attempted up to the first that fails, and all of them if the run
succeeds. -/
theorem briefCells_attempted (cells : List Cell) (done : Nat) (rig : Rig (σ × List Exchange))
    (t : τ) :
    ∃ attempts, Attempted run.recorded.alone rig attempts
        (leaves (run.recorded.briefCells cells done) (rig, t)).1 ∧
      (∀ attempt ∈ attempts, attempt.Fitting run.context) ∧
      attempts.map Attempt.cell <+: cells ∧
      ∀ n, answer (run.recorded.briefCells cells done) (rig, t) = .ok n →
        attempts.map Attempt.cell = cells := by
  induction cells generalizing done rig t with
  | nil => exact ⟨[], .none rig, fun _ hmem => absurd hmem List.not_mem_nil, List.prefix_rfl,
      fun _ _ => rfl⟩
  | cons cell rest ih =>
      obtain ⟨exchanges, hexchanges, hfitting⟩ := run.exists_exchanges cell rig
      rcases run.recorded.briefCell_ends cell rig t with
        ⟨tally, mid, t', halone, hcell⟩ | ⟨fault, t', hcell⟩
      · obtain ⟨attempts, hattempted, hall, hplanned, hcomplete⟩ := ih (done + 1) mid t'
        have hrun : run.recorded.briefCells (cell :: rest) done (rig, t) =
            run.recorded.briefCells rest (done + 1) (mid, t') := by
          simp only [briefCells, Bind.bind, EStateM.bind, hcell]
        rw [leaves, halone] at hexchanges
        simp only [leaves, answer, hrun]
        refine ⟨⟨cell, exchanges⟩ :: attempts, .next halone hexchanges hattempted, ?_, ?_, ?_⟩
        · exact List.forall_mem_cons.mpr ⟨hfitting, hall⟩
        · rw [List.map_cons]
          exact List.cons_prefix_cons.mpr ⟨rfl, hplanned⟩
        · intro n hn
          rw [List.map_cons, hcomplete n hn]
      · have hrun : run.recorded.briefCells (cell :: rest) done (rig, t) =
            .error fault (leaves (run.recorded.alone cell) rig, t') := by
          simp only [briefCells, Bind.bind, EStateM.bind, hcell]
        simp only [leaves, answer, hrun]
        refine ⟨[⟨cell, exchanges⟩], .last hexchanges, ?_, ?_, ?_⟩
        · exact List.forall_mem_singleton.mpr hfitting
        · exact List.cons_prefix_cons.mpr ⟨rfl, List.nil_prefix⟩
        · rintro n ⟨⟩

end Brief
end SweepRun
end RoundTrip
