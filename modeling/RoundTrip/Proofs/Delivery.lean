import Mathlib
import RoundTrip.Native.StandIn
import RoundTrip.Proofs.CellDelivery
import RoundTrip.Proofs.ConfigurationFaults
import RoundTrip.Proofs.SweepAttempts
import RoundTrip.Proofs.VerificationSound

/-!
# How an input delivers its bytes

What a run does depends on the first bytes of its input, and not on how they
come.  Two inputs that begin with the same bytes lead to the same calls of the
engines, the same reports and the same answer.  A run that succeeds has rewound
its input once for every pass of every cell, and leaves it at the end of the file.
-/

namespace RoundTrip

namespace Input

/-- Both inputs never fail, and they begin with the same bytes, up to the end of the file or to
an earlier end of both. -/
structure SameStart (fileSize : Nat) (i j : Input) : Prop where
  first : i.Prompt
  second : j.Prompt
  bytes : i.contents.toList.take fileSize = j.contents.toList.take fileSize

/-- The input was rewound so many times, stands at the end of the file and was read no further.
Reads before that may have gone further; the mark that they left stays where it is. -/
structure SweptTo (fileSize sweeps : Nat) (origin left : Input) : Prop where
  seeks : left.seeks = origin.seeks + sweeps
  position : left.position = fileSize
  furthest : left.furthest ≤ max origin.furthest fileSize

/-- An input that was not used yet. -/
theorem Prompt.reread {i : Input} (hprompt : i.Prompt) (size : Nat) :
    Reread size (i.contents.toList.take size) 0 i i :=
  ⟨hprompt, rfl, rfl, Nat.le_max_left _ _⟩

end Input

/-! ## Sweeps -/

namespace SweepRun

variable {σ τ : Type} {run : SweepRun σ τ} {size : Nat}

/-- A sweep does the same over two inputs that are kept in step. -/
theorem mirrors_kept {share : Share} (hfile : share.fileSize = run.fileSize)
    (hcut : 0 < share.fileSize → 0 < share.size)
    (hpasses : 0 < run.settings.effectiveIterations.toNat) :
    Mirrors run run (Workbench.Kept share) Eq where
  context := rfl
  settings := rfl
  fileSize := rfl
  fileName := rfl
  cell cell entry := by
    rw [← hfile]
    exact (run.cellRun cell entry).execute_kept hcut hpasses
  say notice := by
    rintro ⟨n, hstates⟩
    exact ⟨n, congrArg (Console.say · notice) hstates.console, hstates.native, hstates.buffers,
      hstates.chunkSize, hstates.first, hstates.second, hstates.position⟩
  emit id event := Simulates.refl _

section Counted

variable {share : Share} {n : Nat} {place : Option Nat}

/-- A cell that succeeds on its own has rewound its input once for every pass. -/
theorem alone_counted (hfile : run.fileSize = share.fileSize)
    (hcut : 0 < share.fileSize → 0 < share.size)
    (hpasses : 0 < run.settings.effectiveIterations.toNat) {cell : Cell} {rig mid : Rig σ}
    {tally : Tally} (hrig : Workbench.InStep share n place rig.bench rig.bench)
    (hcell : run.alone cell rig = .ok tally mid) :
    Workbench.InStep share (n + run.settings.effectiveIterations.toNat) (some share.fileSize)
      mid.bench mid.bench := by
  simp only [alone, hfile] at hcell
  cases hentry : run.context.entry? cell.engine with
  | none =>
      rw [hentry] at hcell
      contradiction
  | some entry =>
      simp only [hentry] at hcell
      cases hrun : (run.cellRun cell entry).execute share.fileSize rig.bench with
      | error fault after =>
          rw [hrun] at hcell
          contradiction
      | ok tally' after =>
          rw [hrun] at hcell
          cases hcell
          have hafter := (run.cellRun cell entry).execute_counted hcut hpasses hrig hrun
          exact ⟨rfl, rfl, rfl, hafter.chunkSize, hafter.first, hafter.second, hafter.position⟩

theorem briefCell_counted (hfile : run.fileSize = share.fileSize)
    (hcut : 0 < share.fileSize → 0 < share.size)
    (hpasses : 0 < run.settings.effectiveIterations.toNat) (cell : Cell) :
    Ensures (fun s => Workbench.InStep share n place s.1.bench s.1.bench) (run.briefCell cell)
      (fun _ s => Workbench.InStep share (n + run.settings.effectiveIterations.toNat)
        (some share.fileSize) s.1.bench s.1.bench) (fun _ _ => True) := by
  rintro ⟨rig, t⟩ hrig
  rcases run.briefCell_ends cell rig t with ⟨tally, mid, t', halone, hcell⟩ | ⟨fault, t', hcell⟩
  · rw [hcell]
    exact alone_counted hfile hcut hpasses hrig halone
  · rw [hcell]
    trivial

theorem briefCells_counted (hfile : run.fileSize = share.fileSize)
    (hcut : 0 < share.fileSize → 0 < share.size)
    (hpasses : 0 < run.settings.effectiveIterations.toNat) (cells : List Cell) (done : Nat) :
    Ensures (fun s => Workbench.InStep share n (some share.fileSize) s.1.bench s.1.bench)
      (run.briefCells cells done)
      (fun _ s => Workbench.InStep share
        (n + cells.length * run.settings.effectiveIterations.toNat) (some share.fileSize)
        s.1.bench s.1.bench) (fun _ _ => True) := by
  induction cells generalizing n done with
  | nil =>
      refine Ensures.pure fun s hrig => ?_
      rwa [List.length_nil, Nat.zero_mul]
  | cons cell rest ih =>
      refine Ensures.bind (briefCell_counted hfile hcut hpasses cell) fun _ => ?_
      rw [List.length_cons, Nat.succ_mul, Nat.add_comm (_ * _), ← Nat.add_assoc]
      exact ih (done + 1)

/-- A sweep that completes at least one cell has rewound its input once for every pass of every
cell, and leaves it at the end of the file. -/
theorem execute_counted (hfile : run.fileSize = share.fileSize)
    (hcut : 0 < share.fileSize → 0 < share.size)
    (hpasses : 0 < run.settings.effectiveIterations.toNat) (hsome : Plan.cells run.settings ≠ [])
    {s after : SweepState σ τ} {done : Nat}
    (hrig : Workbench.InStep share n place s.bench.rig.bench s.bench.rig.bench)
    (hrun : run.execute s = .ok done after) :
    Workbench.InStep share
      (n + (Plan.cells run.settings).length * run.settings.effectiveIterations.toNat)
      (some share.fileSize) after.bench.rig.bench after.bench.rig.bench := by
  have hrelated := run.execute_brief (show Brief s (s.bench.rig, s.sink) from ⟨rfl, rfl⟩)
  rw [hrun] at hrelated
  obtain ⟨_, left, hbrief, -, hleft⟩ := hrelated.exists_ok
  obtain ⟨cell, rest, hcells⟩ := List.exists_cons_of_ne_nil hsome
  have hall : Ensures (fun s => Workbench.InStep share n place s.1.bench s.1.bench)
      (run.briefCells (cell :: rest) 0)
      (fun _ s => Workbench.InStep share
        (n + (cell :: rest).length * run.settings.effectiveIterations.toNat) (some share.fileSize)
        s.1.bench s.1.bench) (fun _ _ => True) := by
    refine Ensures.bind (briefCell_counted hfile hcut hpasses cell) fun _ => ?_
    rw [List.length_cons, Nat.succ_mul, Nat.add_comm (_ * _), ← Nat.add_assoc]
    exact briefCells_counted hfile hcut hpasses rest (0 + 1)
  rw [hcells] at hbrief ⊢
  rw [hleft.rig]
  exact hall.of_ok hrig hbrief

end Counted
end SweepRun

/-! ## Runs -/

namespace Session

variable {σ τ : Type}

/-- The sessions differ in their inputs only, which were rewound equally often. -/
structure Paired (share : Share) (s t : Session σ τ) : Prop where
  host : s.host = t.host
  native : s.native = t.native
  sink : s.sink = t.sink
  inputs : ∃ n, Input.Reread share.fileSize share.bytes n share.first s.input ∧
    Input.Reread share.fileSize share.bytes n share.second t.input

section Runs

variable {share : Share} {runner : Runner σ τ} {settings : Settings} {fileName : String}

theorem onHost_paired {α : Type} (step : EStateM Fault Host α) :
    Simulates (Paired (σ := σ) (τ := τ) share) (onHost step) (onHost step) (Alike (Paired share))
      (Paired share) :=
  (Simulates.refl step).onPart (fun _ _ hstates => hstates.host) fun _ _ _ _ hstates hhost =>
    ⟨hhost, hstates.native, hstates.sink, hstates.inputs⟩

theorem sweep_paired (hsize : share.size = settings.chunkSize share.fileSize)
    (hcut : 0 < share.fileSize → 0 < share.size)
    (hpasses : 0 < settings.effectiveIterations.toNat) :
    Simulates (Paired share) (sweep runner settings share.fileSize fileName)
      (sweep runner settings share.fileSize fileName) (Alike (Paired share)) (Paired share) := by
  rintro ⟨host, native, input, sink⟩ ⟨_, _, input', _⟩ ⟨rfl, rfl, rfl, n, hfirst, hsecond⟩
  have hstart : SweepRun.Both (Workbench.Kept share) Eq
      (sweepState (⟨host, native, input, sink⟩ : Session σ τ)
        (.ofChunkSize (settings.chunkSize share.fileSize)))
      (sweepState ⟨host, native, input', sink⟩
        (.ofChunkSize (settings.chunkSize share.fileSize))) :=
    ⟨⟨n, rfl, rfl, rfl, hsize.symm, hfirst, hsecond, nofun⟩, rfl⟩
  have hresumed {s t : SweepState σ τ} (hstates : SweepRun.Both (Workbench.Kept share) Eq s t) :
      Paired share (resumed ⟨host, native, input, sink⟩ s)
        (resumed ⟨host, native, input', sink⟩ t) := by
    obtain ⟨⟨m, hbench⟩, hsink⟩ := hstates
    refine ⟨?_, hbench.native, hsink, m, hbench.first, hbench.second⟩
    simp only [resumed, hbench.console]
  rw [sweep_eq, sweep_eq]
  exact ((SweepRun.mirrors_kept rfl hcut hpasses).execute hstart).map
    (fun _ _ _ _ hanswers => ⟨hanswers.1, hresumed hanswers.2⟩) fun _ _ hstates => hresumed hstates

theorem run_paired (runner : Runner σ τ) (fileName : String)
    (hsize : share.size = settings.chunkSize share.fileSize)
    (hcut : 0 < share.fileSize → 0 < share.size)
    (hpasses : 0 < settings.effectiveIterations.toNat) :
    Simulates (Paired share) (run runner settings share.fileSize fileName)
      (run runner settings share.fileSize fileName) (Alike (Paired share)) (Paired share) := by
  refine Simulates.bind_alike (onHost_paired _) fun _ => ?_
  refine Simulates.bind_alike (onHost_paired _) fun _ => ?_
  refine Simulates.bind_alike (onHost_paired _) fun _ => ?_
  exact sweep_paired hsize hcut hpasses

/-- Two inputs that begin with the same bytes are in step before either was used. -/
theorem paired_of_sameStart {fileSize : Nat} {i j : Input} (hsame : i.SameStart fileSize j)
    (settings : Settings) (s : Session σ τ) :
    Paired ⟨fileSize, settings.chunkSize fileSize, i.contents.toList.take fileSize, i, j⟩
      { s with input := i } { s with input := j } :=
  ⟨rfl, rfl, rfl, 0, hsame.first.reread fileSize, hsame.bytes ▸ hsame.second.reread fileSize⟩

/-- Runs over inputs that begin with the same bytes answer alike, and stay in step. -/
theorem related_of_sameStart (runner : Runner σ τ) (fileName : String) {fileSize : Nat}
    (hmemory : 0 < settings.memoryLimit) (hpasses : 0 < settings.effectiveIterations.toNat)
    {i j : Input} (hsame : i.SameStart fileSize j) (s : Session σ τ) :
    let share : Share :=
      ⟨fileSize, settings.chunkSize fileSize, i.contents.toList.take fileSize, i, j⟩
    Related (Alike (Paired share)) (Paired share)
      (run runner settings fileSize fileName { s with input := i })
      (run runner settings fileSize fileName { s with input := j }) :=
  run_paired runner fileName rfl (fun hfile => Settings.chunkSize_pos hmemory hfile) hpasses
    (paired_of_sameStart hsame settings s)

/-- A run that completes at least one cell has rewound its input once for every pass, and leaves it
at the end of the file. -/
theorem run_swept {fileSize : Nat} (hmemory : 0 < settings.memoryLimit)
    (hpasses : 0 < settings.effectiveIterations.toNat) (hsome : Plan.cells settings ≠ [])
    {s after : Session σ τ} {done : Nat} (hprompt : s.input.Prompt)
    (hrun : run runner settings fileSize fileName s = .ok done after) :
    Input.SweptTo fileSize
      ((Plan.cells settings).length * settings.effectiveIterations.toNat) s.input after.input := by
  have hprepared := prepare_untouched settings fileSize fileName s s ⟨rfl, rfl, rfl⟩
  cases hprepare : prepare settings fileSize fileName s with
  | error fault left =>
      rw [run_of_prepare_error runner hprepare] at hrun
      contradiction
  | ok _ ready =>
      rw [hprepare] at hprepared
      rw [run_of_prepare runner hprepare, sweep_eq] at hrun
      obtain ⟨start, hstart⟩ : ∃ start, start =
        ready.sweepState (.ofChunkSize (settings.chunkSize fileSize)) := ⟨_, rfl⟩
      rw [← hstart] at hrun
      cases hexecute : (runner.sweepRun ready.host.context settings fileSize fileName).execute
          start with
      | error fault left =>
          rw [hexecute] at hrun
          contradiction
      | ok done' left =>
          rw [hexecute] at hrun
          cases hrun
          have hrig : Workbench.InStep
              ⟨fileSize, settings.chunkSize fileSize, s.input.contents.toList.take fileSize,
                s.input, s.input⟩ 0 none start.bench.rig.bench start.bench.rig.bench := by
            have hinput : start.bench.input = s.input := by rw [hstart]; exact hprepared.input
            constructor
            · rfl
            · rfl
            · rfl
            · rw [hstart]
              rfl
            · exact hinput ▸ hprompt.reread fileSize
            · exact hinput ▸ hprompt.reread fileSize
            · exact nofun
          obtain ⟨-, -, -, -, hreread, -, hposition⟩ := SweepRun.execute_counted rfl
            (fun hfile => Settings.chunkSize_pos hmemory hfile) hpasses hsome hrig hexecute
          refine ⟨?_, (hposition _ rfl).1, hreread.furthest⟩
          rw [← Nat.zero_add (_ * _)]
          exact hreread.seeks

end Runs

/-- Inputs that begin with the same bytes lead to the same calls, the same reports and the same
answer, however they deliver their bytes.  A run that succeeds rewinds either of them once for every
pass of every cell, leaves it at the end of the file, and reads it no further. -/
theorem run_of_sameStart (runner : Runner σ τ) (settings : Settings) (fileSize : Nat)
    (fileName : String) (s : Session σ τ) {i j : Input} (hsame : i.SameStart fileSize j) :
    answer (run runner settings fileSize fileName) { s with input := i } =
        answer (run runner settings fileSize fileName) { s with input := j } ∧
      (let first := observe runner settings fileSize fileName { s with input := i }
        let second := observe runner settings fileSize fileName { s with input := j }
        first.native = second.native ∧ first.sink = second.sink ∧ first.host = second.host ∧
          ∀ done, answer (run runner settings fileSize fileName) { s with input := i } = .ok done →
            Plan.cells settings ≠ [] →
              Input.SweptTo fileSize
                  ((Plan.cells settings).length * settings.effectiveIterations.toNat) i
                  first.input ∧
                Input.SweptTo fileSize
                  ((Plan.cells settings).length * settings.effectiveIterations.toNat) j
                  second.input) := by
  have hobserved (input : Input) : answer (run runner settings fileSize fileName)
      { s with input := input } = answer (run runner.observed settings fileSize fileName)
        (observed ([], []) { s with input := input }) := by
    obtain ⟨_, hrun⟩ := run_observed runner settings fileSize fileName { s with input := input }
    exact (answer_eq_of_mapState hrun).symm
  rw [hobserved i, hobserved j]
  cases hobjection : settings.objection? with
  | some fault =>
      have hanswer := settings.answer_validate s.host.console
      rw [hobjection] at hanswer
      have hrefused (input : Input) := run_of_refused runner.observed fileSize fileName
        (s := observed ([], []) { s with input := input }) (eq_of_answer_error hanswer)
      simp only [answer, observe, leaves, hrefused]
      refine ⟨trivial, rfl, rfl, rfl, ?_⟩
      rintro done ⟨⟩
  | none =>
      obtain ⟨dir, console, hvalid⟩ := Settings.validate_of_accepted hobjection s.host.console
      obtain ⟨hiterations, hmemory⟩ := Settings.positive_of_validate_ok hvalid
      have hpasses := Settings.effectiveIterations_pos hiterations
      have hswept {input : Input} (hprompt : input.Prompt) (done : Nat)
          (hdone : answer (run runner.observed settings fileSize fileName)
            (observed ([], []) { s with input := input }) = .ok done)
          (hsome : Plan.cells settings ≠ []) :
          Input.SweptTo fileSize
            ((Plan.cells settings).length * settings.effectiveIterations.toNat) input
            (observe runner settings fileSize fileName { s with input := input }).input :=
        run_swept hmemory hpasses hsome hprompt (eq_of_answer_ok hdone)
      have hrelated := related_of_sameStart runner.observed fileName hmemory hpasses hsame
        (observed ([], []) s)
      have hanswer := hrelated.answer_eq
      obtain ⟨hhost, hnative, hsink, -⟩ := hrelated.leaves
      refine ⟨hanswer, hnative, hsink, hhost, fun done hdone hsome => ?_⟩
      exact ⟨hswept hsame.first done hdone hsome,
        hswept hsame.second done (hanswer.symm.trans hdone) hsome⟩

/-- Three bytes from an input at its start, and from one that goes on, was left behind them, brings
one byte or two at a time and is interrupted once. -/
theorem run_of_sameStart_standIn :
    let runner : Runner Unit EventLog := ⟨StandIn.native, EventLog.sink⟩
    let settings := { Settings.default with
      selection := .single .lz4, iterations := 2, memoryLimit := 2 }
    let i : Input := .ofList [1, 2, 3]
    let j : Input :=
      { Input.ofDelivery ⟨fun n => some (n % 2 + 1), [(2, ⟨.interrupted, "signal"⟩)], []⟩
          [1, 2, 3, 4] with
        position := 4, furthest := 4 }
    let s (input : Input) : Session Unit EventLog :=
      ⟨⟨.ofThreshold 0, .ofFiles ⟨[], [], ""⟩, .inProcess .searchPath⟩, (),
        input, []⟩
    i.SameStart 3 j ∧ answer (run runner settings 3 "input") (s i) = .ok 1 ∧
      answer (run runner settings 3 "input") (s j) = .ok 1 ∧
      (observe runner settings 3 "input" (s i)).native =
        (observe runner settings 3 "input" (s j)).native ∧
      Input.SweptTo 3 2 j (observe runner settings 3 "input" (s j)).input := by
  intro runner settings i j s
  have hsame : i.SameStart 3 j := by
    constructor
    · exact ⟨⟨nofun, nofun, fun _ _ => Iff.rfl⟩, nofun⟩
    · have hbrings (n : Nat) : j.delivery.limit n ≠ some 0 := by
        rintro ⟨⟩
      refine ⟨⟨nofun, ?_, fun n _ => iff_of_false (hbrings n) (hbrings 1)⟩, hbrings 1⟩
      intro fault hfault
      obtain rfl := List.mem_singleton.mp hfault
      exact .inr rfl
    · rfl
  have hdone : answer (run runner settings 3 "input") (s i) = .ok 1 := by cbv
  obtain ⟨hanswer, hnative, -, -, hswept⟩ :=
    run_of_sameStart runner settings 3 "input" (s i) hsame
  have hcount : (Plan.cells settings).length * settings.effectiveIterations.toNat = 2 := by decide
  have hsecond := (hswept 1 hdone (by decide)).2
  rw [hcount] at hsecond
  exact ⟨hsame, hdone, hanswer.symm.trans hdone, hnative, hsecond⟩

end Session
end RoundTrip
