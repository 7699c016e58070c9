import RoundTrip.Proofs.Completion

/-!
# Faults of the settings

Settings are refused for the first of four reasons that applies, and a run that
refuses them has touched nothing but its console.  Once they are accepted, every
codec that is set up has an engine, so whatever a later step fails with belongs
to the run and not to its settings.
-/

namespace RoundTrip

/-! ## Why settings are refused -/

namespace LibraryDir

/-- The name with its slash and a terminator is within the room for it. -/
def Fits (name : String) : Prop := (withSlash name).utf8ByteSize + 1 ≤ maxDirectoryName

instance (name : String) : Decidable (Fits name) := inferInstanceAs (Decidable (_ ≤ _))

theorem size_withSlash {name : String} (hempty : name.isEmpty = false) :
    (withSlash name).utf8ByteSize = name.utf8ByteSize + if endsInSlash name then 0 else 1 := by
  rw [withSlash, hempty, Bool.false_or]
  split
  · rfl
  · exact String.utf8ByteSize_append

/-- The two tests of a name come to one: what fails them is too long with its slash. -/
theorem fits_iff (name : String) :
    Fits name ↔ ¬ maxDirectoryName - 1 < name.utf8ByteSize ∧
      ¬ (name.utf8ByteSize = maxDirectoryName - 1 ∧ ¬ endsInSlash name) := by
  cases hempty : name.isEmpty with
  | true =>
      rw [String.isEmpty_iff] at hempty
      subst hempty
      decide
  | false =>
      rw [Fits, size_withSlash hempty, maxDirectoryName]
      cases endsInSlash name with
      | true =>
          simp only [if_true, Nat.add_zero, not_true, and_false, not_false_iff, and_true]
          omega
      | false =>
          simp only [Bool.false_eq_true, if_false, not_false_iff, and_true]
          omega

theorem answer_ofName (name : String) (console : Console) :
    answer (ofName name) console =
      if Fits name then .ok ⟨withSlash name⟩
      else .error (.libraryDirTooLong name.utf8ByteSize maxDirectoryName) := by
  by_cases hfits : Fits name
  · obtain ⟨hshort, hslash⟩ := (fits_iff name).mp hfits
    rw [if_pos hfits, answer, ofName, if_neg hshort, if_neg hslash]
  · rw [if_neg hfits]
    rw [fits_iff] at hfits
    by_cases hlong : maxDirectoryName - 1 < name.utf8ByteSize
    · rw [answer, ofName, if_pos hlong]
    · rw [answer, ofName, if_neg hlong, if_pos (Decidable.not_not.mp fun hslash =>
        hfits ⟨hlong, hslash⟩)]

end LibraryDir

namespace Settings

def iterationsFault? (s : Settings) : Option Fault :=
  if s.iterations = 0 then some (.invalidIterations 0) else none

def memoryFault? (s : Settings) : Option Fault :=
  if s.memoryLimit = 0 then some (.invalidMemoryLimit 0) else none

/-- Only a codec that is named can be one without a library. -/
def codecFault? (s : Settings) : Option Fault :=
  match s.selection with
  | .all => none
  | .single codec => if codec.isSupported then none else some (.unsupportedCodec codec)

def directoryFault? (s : Settings) : Option Fault :=
  if LibraryDir.Fits s.libraryDir then none
  else some (.libraryDirTooLong s.libraryDir.utf8ByteSize maxDirectoryName)

/-- The first of the four reasons that applies. -/
def objection? (s : Settings) : Option Fault :=
  [s.iterationsFault?, s.memoryFault?, s.codecFault?, s.directoryFault?].findSome? id

/-- Settings are accepted, with their directory, exactly where nothing speaks against them. -/
theorem answer_validate (s : Settings) (console : Console) :
    answer s.validate console =
      match s.objection? with
      | some fault => .error fault
      | none => .ok ⟨LibraryDir.withSlash s.libraryDir⟩ := by
  have hdirectory : answer (LibraryDir.ofName s.libraryDir) console =
      match s.directoryFault? with
      | some fault => .error fault
      | none => .ok ⟨LibraryDir.withSlash s.libraryDir⟩ := by
    rw [LibraryDir.answer_ofName, directoryFault?]
    split <;> rfl
  rw [validate, objection?]
  by_cases hiterations : s.iterations = 0
  · rw [if_pos hiterations, iterationsFault?, if_pos hiterations]
    rfl
  · rw [if_neg hiterations, iterationsFault?, if_neg hiterations]
    by_cases hmemory : s.memoryLimit = 0
    · rw [if_pos hmemory, memoryFault?, if_pos hmemory]
      rfl
    · rw [if_neg hmemory, memoryFault?, if_neg hmemory, codecFault?]
      cases s.selection with
      | all => simpa using hdirectory
      | single codec =>
          cases hsupported : codec.isSupported with
          | true => simpa [hsupported] using hdirectory
          | false => simp [hsupported]; rfl

theorem kind_of_objection? {s : Settings} {fault : Fault} (hobjection : s.objection? = some fault) :
    fault.kind = .configuration := by
  simp only [objection?, List.findSome?_cons, List.findSome?_nil, id, iterationsFault?,
    memoryFault?, codecFault?, directoryFault?] at hobjection
  grind [Fault.kind]

theorem validate_of_accepted {s : Settings} (haccepted : s.objection? = none) (console : Console) :
    ∃ dir after, s.validate console = .ok dir after := by
  have hanswer := s.answer_validate console
  rw [haccepted] at hanswer
  exact ⟨_, _, eq_of_answer_ok hanswer⟩

theorem exists_engine_of_accepted {s : Settings} (haccepted : s.objection? = none) {codec : Codec}
    (hselected : codec ∈ s.selected) : ∃ engine, codec.engine? = some engine := by
  obtain ⟨dir, after, hvalid⟩ := validate_of_accepted haccepted (.ofThreshold 0)
  exact exists_engine_of_validate_ok hvalid hselected

end Settings

/-! ## Faults of a run -/

/-- Whatever the step fails with belongs to the run. -/
def FailsAtRuntime {σ α : Type} (step : EStateM Fault σ α) : Prop :=
  Ensures (fun _ => True) step (fun _ _ => True) fun fault _ => fault.kind = .runtime

namespace FailsAtRuntime

variable {σ ρ α β : Type}

theorem kind_of_answer {step : EStateM Fault σ α} (hstep : FailsAtRuntime step) {s : σ}
    {fault : Fault} (hanswer : answer step s = .error fault) : fault.kind = .runtime :=
  hstep.of_error trivial (eq_of_answer_error hanswer)

/-- A step that always answers. -/
theorem of_ok {step : EStateM Fault σ α} (hstep : ∀ s, ∃ a t, step s = .ok a t) :
    FailsAtRuntime step := by
  intro s _
  obtain ⟨a, t, hrun⟩ := hstep s
  rw [hrun]
  trivial

theorem pure (a : α) : FailsAtRuntime (Pure.pure a : EStateM Fault σ α) :=
  .of_ok fun s => ⟨a, s, rfl⟩

theorem get : FailsAtRuntime (MonadState.get : EStateM Fault σ σ) :=
  .of_ok fun s => ⟨s, s, rfl⟩

theorem throw {fault : Fault} (hkind : fault.kind = .runtime) :
    FailsAtRuntime (MonadExceptOf.throw fault : EStateM Fault σ α) :=
  fun _ _ => hkind

theorem bind {step : EStateM Fault σ α} {next : α → EStateM Fault σ β}
    (hstep : FailsAtRuntime step) (hnext : ∀ a, FailsAtRuntime (next a)) :
    FailsAtRuntime (step >>= next) :=
  Ensures.bind hstep hnext

theorem onPart {part : σ → ρ} {replace : ρ → σ → σ} {step : EStateM Fault ρ α}
    (hstep : FailsAtRuntime step) : FailsAtRuntime (RoundTrip.onPart part replace step) :=
  Ensures.onPart hstep (fun _ _ => trivial) (fun _ _ _ _ _ => trivial) fun _ _ _ _ hkind => hkind

/-- A fault that was caught may be handed on. -/
theorem attempt_bind {step : EStateM Fault σ α} {next : Except Fault α → EStateM Fault σ β}
    (hstep : FailsAtRuntime step) (hok : ∀ a, FailsAtRuntime (next (.ok a)))
    (herror : ∀ fault, fault.kind = .runtime → FailsAtRuntime (next (.error fault))) :
    FailsAtRuntime (attempt step >>= next) := by
  refine Ensures.bind (Ensures.attempt hstep) fun outcome => ?_
  rintro s hsettled
  cases hsettled with
  | ok hanswer => exact hok _ s trivial
  | error hkind => exact herror _ hkind s trivial

end FailsAtRuntime

/-! ## Setting up -/

namespace Host

theorem say_runtime (notice : Notice) : FailsAtRuntime (say notice) :=
  .of_ok fun _ => ⟨(), _, rfl⟩

theorem openLibrary_runtime (dir : LibraryDir) {codec : Codec} {engine : Engine}
    (hengine : codec.engine? = some engine) : FailsAtRuntime (openLibrary dir codec) := by
  have hopen (path : String) : FailsAtRuntime (Loader.openLibrary path) := by
    intro loader _
    rw [Loader.openLibrary]
    cases Loader.find loader.files path with
    | error reason => rfl
    | ok found => trivial
  simp only [openLibrary, hengine]
  refine .bind (say_runtime _) fun _ => .attempt_bind (hopen _).onPart (fun library => ?_) ?_
  · dsimp only
    cases library.resolvedPath? (engine.symbol .decompress) with
    | none => exact .pure library
    | some resolved => exact .bind (say_runtime _) fun _ => .pure library
  · exact fun fault hkind => .bind (say_runtime _) fun _ => .throw hkind

theorem findSymbol_runtime (library : Library) (engine : Engine) (direction : Direction) :
    FailsAtRuntime (findSymbol library engine direction) := by
  rw [findSymbol]
  cases library.symbol (engine.symbol direction) with
  | ok _ => exact .pure ()
  | error reason => exact .bind (say_runtime _) fun _ => .throw rfl

theorem release_runtime (library : Library) : FailsAtRuntime (release library) :=
  .of_ok fun _ => ⟨(), _, rfl⟩

theorem obtain_runtime (engine : Engine) : FailsAtRuntime (obtain engine) := by
  refine .bind .get fun h => ?_
  cases h.context.shared? engine with
  | none => exact openLibrary_runtime _ (Codec.engine?_codec engine)
  | some library => exact .bind (say_runtime _) fun _ => .pure library

theorem setupEngine_runtime (engine : Engine) : FailsAtRuntime (setupEngine engine) := by
  refine .bind (obtain_runtime engine) fun library => ?_
  have hsymbols : FailsAtRuntime (findSymbols library engine) :=
    .bind (findSymbol_runtime _ _ _) fun _ => findSymbol_runtime _ _ _
  refine .attempt_bind hsymbols (fun _ => .of_ok fun _ => ⟨(), _, rfl⟩) fun fault hkind => ?_
  exact .bind (release_runtime library) fun _ => .throw hkind

/-- A codec that has an engine is not refused. -/
theorem setupCodec_runtime {codec : Codec} {engine : Engine}
    (hengine : codec.engine? = some engine) : FailsAtRuntime (setupCodec codec) := by
  simp only [setupCodec, hengine]
  refine .bind .get fun h => ?_
  split
  · exact .pure ()
  · exact setupEngine_runtime engine

theorem setup_runtime {codecs : List Codec}
    (hengines : ∀ codec ∈ codecs, ∃ engine, codec.engine? = some engine) :
    FailsAtRuntime (setup codecs) := by
  induction codecs with
  | nil => exact .pure ()
  | cons codec rest ih =>
      obtain ⟨engine, hengine⟩ := hengines codec List.mem_cons_self
      exact .bind (setupCodec_runtime hengine) fun _ =>
        ih fun next hnext => hengines next (List.mem_cons_of_mem codec hnext)

end Host

/-! ## Sweeping -/

namespace SweepRun

variable {σ τ : Type}

theorem say_runtime (notice : Notice) :
    FailsAtRuntime (say notice : EStateM Fault (SweepState σ τ) Unit) :=
  .of_ok fun _ => ⟨(), _, rfl⟩

theorem emit_runtime (run : SweepRun σ τ) (id : CellId) (event : Event) :
    FailsAtRuntime (run.emit id event) := by
  intro s _
  simp only [emit, EStateM.adaptExcept, RoundTrip.onPart]
  cases run.sink.emit id event s.sink with
  | ok _ after => trivial
  | error cause after => rfl

/-- Whatever a cell fails with can be reported, or is a fault of the input. -/
theorem execute_cell_runtime (run : CellRun σ) (fileSize : Nat) :
    FailsAtRuntime (run.execute fileSize) := by
  intro w _
  cases hrun : run.execute fileSize w with
  | ok tally after => trivial
  | error fault after =>
      obtain ⟨last, hlast⟩ := CellRun.exists_lastWord hrun
      cases hlast <;> rfl

theorem reportSuccess_runtime (run : SweepRun σ τ) (id : CellId) (tally : Tally) :
    FailsAtRuntime (run.reportSuccess id tally) := by
  have hstatistics (event : Event) : FailsAtRuntime
      (if run.settings.statistics then run.emit id event else pure ()) := by
    split
    · exact emit_runtime run id event
    · exact .pure ()
  simp only [reportSuccess]
  split
  · exact .bind (emit_runtime run id _) fun _ => hstatistics _
  · exact hstatistics _

theorem reportFailure_runtime (run : SweepRun σ τ) (id : CellId) {fault : Fault}
    (hkind : fault.kind = .runtime) :
    FailsAtRuntime (run.reportFailure id fault : EStateM Fault (SweepState σ τ) Unit) := by
  have hrest : FailsAtRuntime
      (do say (.fault fault); say (.exit .sweep); throw fault :
        EStateM Fault (SweepState σ τ) Unit) :=
    .bind (say_runtime _) fun _ => .bind (say_runtime _) fun _ => .throw hkind
  simp only [reportFailure]
  cases failureEvent? fault with
  | none => exact hrest
  | some event => exact .bind (emit_runtime run id event) fun _ => hrest

theorem runCell_runtime (run : SweepRun σ τ) (cell : Cell) :
    FailsAtRuntime (run.runCell cell) := by
  rw [runCell]
  cases run.context.entry? cell.engine with
  | none => exact .throw rfl
  | some entry =>
      refine .bind (say_runtime _) fun _ =>
        .attempt_bind (execute_cell_runtime _ _).onPart (fun tally => ?_) fun fault hkind => ?_
      · exact reportSuccess_runtime run _ tally
      · exact reportFailure_runtime run _ hkind

theorem runCells_runtime (run : SweepRun σ τ) (cells : List Cell) (done : Nat) :
    FailsAtRuntime (run.runCells cells done) := by
  induction cells generalizing done with
  | nil => exact .pure done
  | cons cell rest ih => exact .bind (runCell_runtime run cell) fun _ => ih (done + 1)

theorem execute_runtime (run : SweepRun σ τ) : FailsAtRuntime run.execute := by
  refine .bind (say_runtime _) fun _ => .bind (.of_ok fun _ => ⟨_, _, rfl⟩) fun cells => ?_
  refine .bind (runCells_runtime run cells 0) fun done => ?_
  exact .bind (say_runtime _) fun _ => .pure done

end SweepRun

namespace Session

variable {σ τ : Type}

theorem sweep_runtime (runner : Runner σ τ) (settings : Settings) (fileSize : Nat)
    (fileName : String) : FailsAtRuntime (sweep runner settings fileSize fileName) := by
  intro s _
  rw [sweep_eq]
  have hresult := (runner.sweepRun s.host.context settings fileSize fileName).execute_runtime
    (s.sweepState (.ofChunkSize (settings.chunkSize fileSize))) trivial
  generalize (runner.sweepRun s.host.context settings fileSize fileName).execute _ = result
    at hresult ⊢
  cases result with
  | ok done after => trivial
  | error fault after => exact hresult

/-- Settings that are refused stop a run before it has touched anything but the console. -/
theorem run_of_refused (runner : Runner σ τ) {settings : Settings} (fileSize : Nat)
    (fileName : String) {s : Session σ τ} {fault : Fault} {console : Console}
    (hrefused : settings.validate s.host.console = .error fault console) :
    run runner settings fileSize fileName s =
      .error fault { s with host := { s.host with console := console } } := by
  simp only [run, onConsole, onHost, onPart, Bind.bind, EStateM.bind, hrefused]

/-- With settings that are accepted, no step of a run fails for them. -/
theorem run_runtime (runner : Runner σ τ) {settings : Settings} (fileSize : Nat)
    (fileName : String) (haccepted : settings.objection? = none) :
    FailsAtRuntime (run runner settings fileSize fileName) := by
  have hvalidate : FailsAtRuntime settings.validate :=
    .of_ok (Settings.validate_of_accepted haccepted)
  have hsetup : FailsAtRuntime (Host.setup settings.selected) :=
    Host.setup_runtime fun _ => Settings.exists_engine_of_accepted haccepted
  refine .bind hvalidate.onPart.onPart fun _ => .bind hsetup.onPart fun _ => ?_
  exact .bind (Host.say_runtime _).onPart fun _ => sweep_runtime runner settings fileSize fileName

/-- A run fails for its settings exactly where their check does, with the first fault that applies
and nothing touched but the console.  After the check neither the setup nor the sweep can. -/
theorem configuration_iff_refused (runner : Runner σ τ) (settings : Settings) (fileSize : Nat)
    (fileName : String) (s : Session σ τ) :
    ((∃ fault, answer (run runner settings fileSize fileName) s = .error fault ∧
        fault.kind = .configuration) ↔
      ∃ fault, answer settings.validate s.host.console = .error fault) ∧
    (∀ fault, answer settings.validate s.host.console = .error fault →
      settings.objection? = some fault ∧
        ∃ console, run runner settings fileSize fileName s =
          .error fault { s with host := { s.host with console := console } }) ∧
    ((∃ dir, answer settings.validate s.host.console = .ok dir) →
      FailsAtRuntime (Host.setup settings.selected) ∧
        FailsAtRuntime (sweep runner settings fileSize fileName)) := by
  have hanswer := settings.answer_validate s.host.console
  cases hobjection : settings.objection? with
  | some fault =>
      rw [hobjection] at hanswer
      have hrefused := run_of_refused runner fileSize fileName (eq_of_answer_error hanswer)
      have hfails : answer (run runner settings fileSize fileName) s = .error fault := by
        rw [answer, hrefused]
      refine ⟨⟨fun _ => ⟨fault, hanswer⟩,
        fun _ => ⟨fault, hfails, Settings.kind_of_objection? hobjection⟩⟩, ?_, ?_⟩
      · intro fault' hvalidate
        rw [hanswer] at hvalidate
        cases hvalidate
        exact ⟨rfl, _, hrefused⟩
      · rintro ⟨dir, hvalidate⟩
        rw [hanswer] at hvalidate
        contradiction
  | none =>
      rw [hobjection] at hanswer
      refine ⟨⟨?_, ?_⟩, ?_, fun _ => ⟨?_, sweep_runtime runner settings fileSize fileName⟩⟩
      · rintro ⟨fault, hfails, hkind⟩
        rw [(run_runtime runner fileSize fileName hobjection).kind_of_answer hfails] at hkind
        contradiction
      · rintro ⟨fault, hvalidate⟩
        rw [hanswer] at hvalidate
        contradiction
      · intro fault hvalidate
        rw [hanswer] at hvalidate
        contradiction
      · exact Host.setup_runtime fun _ => Settings.exists_engine_of_accepted hobjection

end Session
end RoundTrip
