import RoundTrip.CommandLine.Options
import RoundTrip.Proofs.SweepAttempts
import RoundTrip.Proofs.SweepParts

/-!
# From a method to the engines

A method text names a codec, and may name a level and an extra parameter.  The
run that it asks for attempts cells of that codec only: the one level that was
given, or else every level of the codec from the lowest up.  Without a method
the cells are those of all levels of all codecs that have an engine.  Either
way an engine is given exactly the parameters of the cell that is attempted.
-/

namespace RoundTrip

/-! ## What a plan holds -/

/-- Cells in the order of a sweep: codecs as the table has them, and then levels. -/
def Cell.Before (a b : Cell) : Prop :=
  Prod.Lex (· < ·) (· < ·) (a.codec.index, a.level) (b.codec.index, b.level)

namespace Plan

/-- The cells are those with the property, each once and in order. -/
structure Enumerates (cells : List Cell) (P : Cell → Prop) : Prop where
  mem : ∀ cell, cell ∈ cells ↔ P cell
  ordered : cells.Pairwise Cell.Before

theorem engines_ordered (s : Settings) :
    (s.selected.filterMap Codec.engine?).Pairwise fun a b => a.codec.index < b.codec.index := by
  rw [Settings.selected]
  cases s.selection with
  | all => decide
  | single codec => cases codec <;> decide

theorem cells_ordered (s : Settings) : (cells s).Pairwise Cell.Before := by
  rw [cells, List.pairwise_flatMap]
  refine ⟨fun engine _ => ?_, (engines_ordered s).imp ?_⟩
  · rw [cellsOf, List.pairwise_map]
    exact (levelsFrom_pairwise _ _).imp fun hlt => Prod.Lex.right _ hlt
  · intro first second hlt a ha b hb
    obtain rfl := engine_of_mem_cellsOf ha
    obtain rfl := engine_of_mem_cellsOf hb
    exact Prod.Lex.left _ _ hlt

/-- A cell of a run over all codecs. -/
def IsStandard (cell : Cell) : Prop :=
  (cell.codec.descriptor.lowest ≤ cell.level ∧ cell.level ≤ cell.codec.descriptor.highest) ∧
    cell.extra = cell.codec.descriptor.extra

/-- A cell of a run that was asked for by a method. -/
def IsAskedFor (method : Method) (cell : Cell) : Prop :=
  cell.codec = method.codec ∧
    (if method.level = notGiven then
      method.codec.descriptor.lowest ≤ cell.level ∧ cell.level ≤ method.codec.descriptor.highest
    else cell.level = method.level) ∧
    cell.extra = if method.extra = notGiven then method.codec.descriptor.extra else method.extra

variable {s : Settings}

/-- Whatever level and extra parameter the settings hold, a run over all codecs has every cell
that an engine is there for. -/
theorem enumerates_of_all (hall : s.selection = .all) : Enumerates (cells s) IsStandard where
  ordered := cells_ordered s
  mem cell := by
    have hselected : cell.codec ∈ s.selected := by
      rw [Settings.selected, hall]
      exact List.mem_filter.mpr ⟨List.mem_of_getElem? (Codec.all_index _),
        congrArg Option.isSome (Codec.engine?_codec cell.engine)⟩
    simp only [mem_cells, Settings.levelRange, Settings.extraFor, hall, IsStandard, hselected,
      true_and]

theorem enumerates_of_single {method : Method} (hselection : s.selection = .single method.codec)
    (hlevel : s.level = method.level) (hextra : s.extra = method.extra) :
    Enumerates (cells s) (IsAskedFor method) where
  ordered := cells_ordered s
  mem cell := by
    have hselected : cell.codec ∈ s.selected ↔ cell.codec = method.codec := by
      rw [Settings.selected, hselection]
      exact List.mem_singleton
    simp only [mem_cells, hselected, Settings.levelRange, Settings.extraFor, hselection, hlevel,
      hextra, IsAskedFor]
    constructor
    · rintro ⟨hcodec, hrange, hcell⟩
      rw [hcodec] at hrange hcell
      refine ⟨hcodec, ?_, hcell⟩
      split at hrange
      · rwa [if_pos ‹_›]
      · rw [if_neg ‹_›]
        exact Int.le_antisymm hrange.2 hrange.1
    · rintro ⟨hcodec, hrange, hcell⟩
      rw [hcodec]
      refine ⟨rfl, ?_, hcell⟩
      split at hrange
      · rwa [if_pos ‹_›]
      · rw [if_neg ‹_›, hrange]
        exact ⟨Int.le_refl _, Int.le_refl _⟩

end Plan

/-! ## What options ask for -/

namespace Options

/-- The settings of options ask for the method of the options, or for all codecs. -/
theorem settings_method {options : Options} {settings : Settings}
    (hsettings : options.settings = .ok settings) :
    match options.method with
    | none => settings.selection = .all
    | some method => settings.selection = .single method.codec ∧ settings.level = method.level ∧
        settings.extra = method.extra := by
  simp only [Options.settings, Bind.bind, Except.bind] at hsettings
  cases hlimit : options.memoryLimit with
  | error megabytes =>
      rw [hlimit] at hsettings
      contradiction
  | ok limit =>
      rw [hlimit] at hsettings
      cases hsettings
      cases hmethod : options.method with
      | none => rfl
      | some method => exact ⟨rfl, rfl, rfl⟩

end Options

/-! ## What a run attempts -/

namespace Session

variable {σ τ : Type}

/-- These are the attempts of a run, as the records of the run show them. -/
structure Attempts (runner : Runner σ τ) (settings : Settings) (fileSize : Nat)
    (fileName : String) (s : Session σ τ) (attempts : List Attempt) : Prop where
  /-- They lead from the start of the run to what it left. -/
  course : ∃ left, SweepRun.Attempted
      (runner.sweepRun (observe runner settings fileSize fileName s).host.context settings fileSize
        fileName).recorded.alone (s.startRig settings fileSize) attempts left ∧
    left.native = (observe runner settings fileSize fileName s).native ∧
    left.input = (observe runner settings fileSize fileName s).input
  /-- All exchanges with engines are theirs. -/
  exchanges : (observe runner settings fileSize fileName s).native.2 =
    attempts.flatMap Attempt.exchanges
  fitting : ∀ attempt ∈ attempts,
    attempt.Fitting (observe runner settings fileSize fileName s).host.context
  /-- They follow the plan, and a run that succeeds has got to its end. -/
  planned : attempts.map Attempt.cell <+: Plan.cells settings
  complete : ∀ done, answer (run runner settings fileSize fileName) s = .ok done →
    attempts.map Attempt.cell = Plan.cells settings

section Attempts

variable (runner : Runner σ τ) (settings : Settings) (fileSize : Nat) (fileName : String)
  (s : Session σ τ)

theorem exists_attempts : ∃ attempts, Attempts runner settings fileSize fileName s attempts := by
  have hanswer : answer (run runner settings fileSize fileName) s =
      answer (run runner.observed settings fileSize fileName) (s.observed ([], [])) := by
    obtain ⟨records, hrun⟩ := run_observed runner settings fileSize fileName s
    exact (answer_eq_of_mapState hrun).symm
  have hprepared := prepare_untouched settings fileSize fileName (s.observed ([], []))
    (s.observed ([], [])) ⟨rfl, rfl, rfl⟩
  cases hprepare : prepare settings fileSize fileName (s.observed ([], [])) with
  | error fault after =>
      rw [hprepare] at hprepared
      have hrun := run_of_prepare_error runner.observed hprepare
      have hobserve : observe runner settings fileSize fileName s = after := by
        rw [observe, leaves, hrun]
      refine ⟨[], ⟨_, .none _, ?_, ?_⟩, ?_, fun _ hmem => absurd hmem List.not_mem_nil,
        List.nil_prefix, fun done hdone => ?_⟩
      · rw [hobserve, hprepared.native]
        rfl
      · rw [hobserve, hprepared.input]
        rfl
      · rw [hobserve, hprepared.native]
        rfl
      · rw [hanswer, answer, hrun] at hdone
        contradiction
  | ok _ ready =>
      rw [hprepare] at hprepared
      obtain ⟨sweepRun, hsweepRun⟩ : ∃ sweepRun, sweepRun =
        runner.sweepRun ready.host.context settings fileSize fileName := ⟨_, rfl⟩
      have hrun : run runner.observed settings fileSize fileName (s.observed ([], [])) =
          mapState ready.resumed (sweepRun.recorded.logged.execute
            (ready.sweepState (.ofChunkSize (settings.chunkSize fileSize)))) := by
        rw [run_of_prepare _ hprepare, sweep_eq, Runner.sweepRun_observed, hsweepRun]
      have hobserve : observe runner settings fileSize fileName s = ready.resumed
          (leaves sweepRun.recorded.logged.execute
            (ready.sweepState (.ofChunkSize (settings.chunkSize fileSize)))) :=
        leaves_eq_of_mapState hrun
      have hrig : (ready.sweepState (.ofChunkSize (settings.chunkSize fileSize))).bench.rig =
          s.startRig settings fileSize := by
        simp only [sweepState, Workbench.rig, hprepared.native, hprepared.input]
        rfl
      have hbrief := sweepRun.recorded.logged.leaves_execute_brief
        (ready.sweepState (.ofChunkSize (settings.chunkSize fileSize)))
      have hends := sweepRun.recorded.logged.answer_execute_brief
        (ready.sweepState (.ofChunkSize (settings.chunkSize fileSize)))
      obtain ⟨attempts, hattempted, hfitting, hplanned, hcomplete⟩ :=
        sweepRun.logged.briefCells_attempted (Plan.cells settings) 0
          (s.startRig settings fileSize) ready.sink
      have hcells : Plan.cells sweepRun.recorded.logged.settings = Plan.cells settings := by
        rw [hsweepRun]
        rfl
      rw [hrig, hcells] at hbrief hends
      have hcontext : (observe runner settings fileSize fileName s).host.context =
          ready.host.context := by
        rw [hobserve]
        rfl
      have hleft : (leaves (sweepRun.logged.recorded.briefCells (Plan.cells settings) 0)
          (s.startRig settings fileSize, ready.sink)).1.native =
            (observe runner settings fileSize fileName s).native := by
        rw [hobserve]
        exact congrArg Rig.native hbrief.rig.symm
      refine ⟨attempts, ⟨_, ?_, hleft, ?_⟩, ?_, ?_, hplanned, ?_⟩
      · rw [hcontext, ← hsweepRun]
        exact hattempted
      · rw [hobserve]
        exact congrArg Rig.input hbrief.rig.symm
      · rw [← hleft, hattempted.record]
        rfl
      · rw [hcontext]
        rw [hsweepRun] at hfitting
        exact hfitting
      · intro done hdone
        rw [hanswer, answer_eq_of_mapState hrun, hends] at hdone
        exact hcomplete done hdone

/-- A run attempts its cells in order, and each engine is given what its cell says.  With a method
the cells are those that the method asks for, and without one those of all engines. -/
theorem attempts_of_run :
    (∃ attempts, Attempts runner settings fileSize fileName s attempts) ∧
    (∀ text method, Method.ofText? text = .ok method →
      ∀ options : Options, options.method = (Method.ofText? text).toOption →
        options.settings = .ok settings →
          Plan.Enumerates (Plan.cells settings) (Plan.IsAskedFor method) ∧
            method.codec.descriptor.extra = 0) ∧
    (∀ options : Options, options.method = none → options.settings = .ok settings →
      settings.selection = .all) ∧
    (settings.selection = .all → Plan.Enumerates (Plan.cells settings) Plan.IsStandard) := by
  refine ⟨exists_attempts runner settings fileSize fileName s, ?_, ?_, Plan.enumerates_of_all⟩
  · intro text method htext options hmethod hsettings
    have hasked := Options.settings_method hsettings
    rw [hmethod, htext] at hasked
    obtain ⟨hselection, hlevel, hextra⟩ := hasked
    refine ⟨Plan.enumerates_of_single hselection hlevel hextra, ?_⟩
    cases method.codec <;> rfl
  · intro options hmethod hsettings
    have hasked := Options.settings_method hsettings
    rwa [hmethod] at hasked

end Attempts

/-- Stand-in engines over three bytes: BZIP2 at a level that it does not have, and all codecs. -/
theorem attempts_of_run_standIn :
    let runner : Runner Unit EventLog := ⟨StandIn.native, EventLog.sink⟩
    let settings : Settings :=
      { Settings.default with selection := .single .bzip2, level := 12, extra := 7 }
    let s : Session Unit EventLog :=
      ⟨⟨.ofThreshold 0, .ofFiles ⟨[], [], ""⟩, .inProcess .searchPath⟩, (),
        .ofList [1, 2, 3], []⟩
    Method.ofText? "bzip2: 12:7" = .ok ⟨.bzip2, 12, 7⟩ ∧
      (∃ attempts, Attempts runner settings 3 "input" s attempts) ∧
      Plan.Enumerates (Plan.cells settings) (Plan.IsAskedFor ⟨.bzip2, 12, 7⟩) ∧
      Plan.Enumerates (Plan.cells Settings.default) Plan.IsStandard := by
  intro runner settings s
  have htext : Method.ofText? "bzip2: 12:7" = .ok ⟨.bzip2, 12, 7⟩ := by decide
  obtain ⟨hattempts, hmethod, -, -⟩ := attempts_of_run runner settings 3 "input" s
  obtain ⟨-, -, hnone, hall⟩ := attempts_of_run runner .default 3 "input" s
  have hasked := (hmethod "bzip2: 12:7" _ htext
    { Options.default with method := some ⟨.bzip2, 12, 7⟩ } (by rw [htext]; rfl) rfl).1
  exact ⟨htext, hattempts, hasked, hall (hnone .default rfl rfl)⟩

end Session
end RoundTrip
