import RoundTrip.Proofs.SweepMirror
import RoundTrip.Session

/-!
# Two runs of one session

A session is a sweep between steps of the host.  So to keep the exchanges with
the engines and the events given to the sink changes nothing but the records,
and what the records say is what the run itself did.
-/

namespace RoundTrip

variable {σ τ : Type}

/-- The same run with engines that keep the exchanges and a sink that keeps the events. -/
def Runner.observed (runner : Runner σ τ) :
    Runner (σ × List Exchange) (τ × List (CellId × Event)) :=
  ⟨runner.native.recorded, runner.sink.recorded⟩

/-- The sweep of a run whose engines are set up. -/
def Runner.sweepRun (runner : Runner σ τ) (context : Context) (settings : Settings)
    (fileSize : Nat) (fileName : String) : SweepRun σ τ :=
  ⟨runner.native, runner.sink, context, settings, fileSize, fileName⟩

theorem Runner.sweepRun_observed (runner : Runner σ τ) (context : Context) (settings : Settings)
    (fileSize : Nat) (fileName : String) :
    runner.observed.sweepRun context settings fileSize fileName =
      (runner.sweepRun context settings fileSize fileName).recorded.logged := rfl

namespace Session

/-- What a sweep starts from. -/
def sweepState (s : Session σ τ) (buffers : Buffers) : SweepState σ τ :=
  ⟨⟨s.host.console, s.native, s.input, buffers⟩, s.sink⟩

/-- The session after a sweep. -/
def resumed (s : Session σ τ) (t : SweepState σ τ) : Session σ τ :=
  ⟨{ s.host with console := t.bench.console }, t.bench.native, t.bench.input, t.sink⟩

theorem sweep_eq (runner : Runner σ τ) (settings : Settings) (fileSize : Nat)
    (fileName : String) (s : Session σ τ) :
    sweep runner settings fileSize fileName s =
      mapState s.resumed ((runner.sweepRun s.host.context settings fileSize fileName).execute
        (s.sweepState (.ofChunkSize (settings.chunkSize fileSize)))) := by
  cases hrun : (runner.sweepRun s.host.context settings fileSize fileName).execute
      (s.sweepState (.ofChunkSize (settings.chunkSize fileSize))) with
  | ok done after =>
      simp only [Runner.sweepRun, sweepState] at hrun
      simp only [sweep, sweepWith, hrun]
      rfl
  | error fault after =>
      simp only [Runner.sweepRun, sweepState] at hrun
      simp only [sweep, sweepWith, hrun]
      rfl

/-- The session in which a run over an input starts to sweep, if it gets there. -/
def prepare (settings : Settings) (fileSize : Nat) (fileName : String) :
    EStateM Fault (Session σ τ) Unit := do
  let _ ← onConsole settings.validate
  onHost (Host.setup settings.selected)
  onHost (Host.say
    (.input fileName fileSize (settings.chunkSize fileSize) settings.effectiveIterations))

theorem run_eq_bind (runner : Runner σ τ) (settings : Settings) (fileSize : Nat)
    (fileName : String) :
    run runner settings fileSize fileName =
      prepare settings fileSize fileName >>= fun _ =>
        sweep runner settings fileSize fileName := by
  simp only [run, prepare, bind_assoc]

theorem run_of_prepare (runner : Runner σ τ) {settings : Settings} {fileSize : Nat}
    {fileName : String} {s ready : Session σ τ}
    (hready : prepare settings fileSize fileName s = .ok () ready) :
    run runner settings fileSize fileName s = sweep runner settings fileSize fileName ready := by
  rw [run_eq_bind]
  simp only [Bind.bind, EStateM.bind, hready]

/-- A run that does not get to its sweep ends there. -/
theorem run_of_prepare_error (runner : Runner σ τ) {settings : Settings} {fileSize : Nat}
    {fileName : String} {s after : Session σ τ} {fault : Fault}
    (hfails : prepare settings fileSize fileName s = .error fault after) :
    run runner settings fileSize fileName s = .error fault after := by
  rw [run_eq_bind]
  simp only [Bind.bind, EStateM.bind, hfails]

/-- With settings that are accepted, the setup decides whether a run gets to its sweep. -/
theorem prepare_of_valid {settings : Settings} {s : Session σ τ} {dir : LibraryDir}
    {console : Console} (hvalid : settings.validate s.host.console = .ok dir console)
    (fileSize : Nat) (fileName : String) :
    prepare settings fileSize fileName s =
      match Host.setup settings.selected { s.host with console := console } with
      | .ok _ ready =>
          .ok () { s with
            host := { ready with
              console := ready.console.say (.input fileName fileSize
                (settings.chunkSize fileSize) settings.effectiveIterations) } }
      | .error fault left => .error fault { s with host := left } := by
  simp only [prepare, onConsole, onHost, onPart, Bind.bind, EStateM.bind, hvalid]
  cases Host.setup settings.selected { s.host with console := console } with
  | ok _ ready => rfl
  | error fault left => rfl

/-- Only the host has changed. -/
structure Untouched (s t : Session σ τ) : Prop where
  native : t.native = s.native
  input : t.input = s.input
  sink : t.sink = s.sink

theorem onHost_untouched {α : Type} (step : EStateM Fault Host α) (s : Session σ τ) :
    Ensures (Untouched s) (onHost step) (fun _ => Untouched s) (fun _ => Untouched s) := by
  rintro ⟨host, native, input, sink⟩ ⟨hnative, hinput, hsink⟩
  simp only [onHost, onPart]
  cases step host with
  | ok a after => exact ⟨hnative, hinput, hsink⟩
  | error fault after => exact ⟨hnative, hinput, hsink⟩

/-- Before the sweep no engine is called, nothing is read and nothing is reported. -/
theorem prepare_untouched (settings : Settings) (fileSize : Nat) (fileName : String)
    (s : Session σ τ) :
    Ensures (Untouched s) (prepare settings fileSize fileName) (fun _ => Untouched s)
      (fun _ => Untouched s) := by
  refine Ensures.bind (onHost_untouched _ s) fun _ => ?_
  refine Ensures.bind (onHost_untouched _ s) fun _ => ?_
  exact onHost_untouched _ s

def observed (records : List Exchange × List (CellId × Event)) (s : Session σ τ) :
    Session (σ × List Exchange) (τ × List (CellId × Event)) :=
  ⟨s.host, (s.native, records.1), s.input, (s.sink, records.2)⟩

/-- The second session is the first with records of the exchanges and the events. -/
structure SameObserved (s : Session σ τ)
    (t : Session (σ × List Exchange) (τ × List (CellId × Event))) : Prop where
  host : s.host = t.host
  native : s.native = t.native.1
  input : s.input = t.input
  sink : s.sink = t.sink.1

theorem onHost_simulates {α : Type} (step : EStateM Fault Host α) :
    Simulates (SameObserved (σ := σ) (τ := τ)) (onHost step) (onHost step) (Alike SameObserved)
      SameObserved :=
  (Simulates.refl step).onPart (fun _ _ hstates => hstates.host) fun _ _ _ _ hstates hhost =>
    ⟨hhost, hstates.native, hstates.input, hstates.sink⟩

theorem sweep_simulates (runner : Runner σ τ) (settings : Settings) (fileSize : Nat)
    (fileName : String) :
    Simulates SameObserved (sweep runner settings fileSize fileName)
      (sweep runner.observed settings fileSize fileName) (Alike SameObserved) SameObserved := by
  rintro ⟨host, native, input, sink⟩ ⟨_, ⟨_, log⟩, _, ⟨_, events⟩⟩ ⟨rfl, rfl, rfl, rfl⟩
  have hrelated :=
    (runner.sweepRun host.context settings fileSize fileName).mirrors_observed.execute
      (s := sweepState ⟨host, native, input, sink⟩ (.ofChunkSize (settings.chunkSize fileSize)))
      (t := sweepState ⟨host, (native, log), input, (sink, events)⟩
        (.ofChunkSize (settings.chunkSize fileSize))) ⟨⟨rfl, rfl, rfl, rfl⟩, rfl⟩
  have hresumed {s : SweepState σ τ}
      {t : SweepState (σ × List Exchange) (τ × List (CellId × Event))}
      (hstates : SweepRun.Both CellRun.SameRecorded (fun t t' => t = t'.1) s t) :
      SameObserved (resumed ⟨host, native, input, sink⟩ s)
        (resumed ⟨host, (native, log), input, (sink, events)⟩ t) := by
    obtain ⟨⟨hconsole, hnative, hinput, -⟩, hsink⟩ := hstates
    refine ⟨?_, hnative, hinput, hsink⟩
    simp only [resumed, hconsole]
  rw [sweep_eq, sweep_eq]
  exact hrelated.map (fun _ _ _ _ hanswers => ⟨hanswers.1, hresumed hanswers.2⟩)
    (fun _ _ hstates => hresumed hstates)

/-- To keep the exchanges and the events changes nothing else. -/
theorem run_observed (runner : Runner σ τ) (settings : Settings) (fileSize : Nat)
    (fileName : String) (s : Session σ τ) :
    ∃ records, run runner.observed settings fileSize fileName (s.observed ([], [])) =
      mapState (observed records) (run runner settings fileSize fileName s) := by
  have hrun : Simulates SameObserved (run runner settings fileSize fileName)
      (run runner.observed settings fileSize fileName) (Alike SameObserved) SameObserved := by
    refine Simulates.bind_alike (onHost_simulates _) fun _ => ?_
    refine Simulates.bind_alike (onHost_simulates _) fun _ => ?_
    refine Simulates.bind_alike (onHost_simulates _) fun _ => ?_
    exact sweep_simulates runner settings fileSize fileName
  have hstart : SameObserved s (s.observed ([], [])) := ⟨rfl, rfl, rfl, rfl⟩
  refine (hrun hstart).exists_mapState ?_
  rintro ⟨host, native, input, sink⟩ ⟨_, ⟨_, log⟩, _, ⟨_, events⟩⟩ ⟨rfl, rfl, rfl, rfl⟩
  exact ⟨(log, events), rfl⟩

/-- What a run leaves, with the records of it. -/
def observe (runner : Runner σ τ) (settings : Settings) (fileSize : Nat) (fileName : String)
    (s : Session σ τ) : Session (σ × List Exchange) (τ × List (CellId × Event)) :=
  leaves (run runner.observed settings fileSize fileName) (s.observed ([], []))

theorem observe_eq (runner : Runner σ τ) (settings : Settings) (fileSize : Nat)
    (fileName : String) (s : Session σ τ) :
    ∃ records, observe runner settings fileSize fileName s =
      (leaves (run runner settings fileSize fileName) s).observed records := by
  obtain ⟨records, hrun⟩ := run_observed runner settings fileSize fileName s
  exact ⟨records, leaves_eq_of_mapState hrun⟩

/-- A run that does not get to its sweep touches the host only, and what any other leaves is left by
its sweep. -/
theorem observe_cases (runner : Runner σ τ) (settings : Settings) (fileSize : Nat)
    (fileName : String) (s : Session σ τ) :
    Untouched (s.observed ([], [])) (observe runner settings fileSize fileName s) ∨
      ∃ ready : Session (σ × List Exchange) (τ × List (CellId × Event)),
        prepare settings fileSize fileName (s.observed ([], [])) = .ok () ready ∧
        Untouched (s.observed ([], [])) ready ∧
        observe runner settings fileSize fileName s = ready.resumed
          (leaves (runner.sweepRun ready.host.context settings fileSize
              fileName).recorded.logged.execute
            (ready.sweepState (.ofChunkSize (settings.chunkSize fileSize)))) := by
  have hprepared := prepare_untouched settings fileSize fileName (s.observed ([], []))
    (s.observed ([], [])) ⟨rfl, rfl, rfl⟩
  cases hprepare : prepare settings fileSize fileName (s.observed ([], [])) with
  | error fault after =>
      rw [hprepare] at hprepared
      refine .inl ?_
      rw [observe, leaves, run_of_prepare_error runner.observed hprepare]
      exact hprepared
  | ok _ ready =>
      rw [hprepare] at hprepared
      refine .inr ⟨ready, rfl, hprepared, leaves_eq_of_mapState ?_⟩
      rw [run_of_prepare _ hprepare, sweep_eq, Runner.sweepRun_observed]

end Session
end RoundTrip
