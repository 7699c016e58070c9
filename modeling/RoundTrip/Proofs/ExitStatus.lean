import Mathlib
import RoundTrip.CommandLine.Invocation
import RoundTrip.Proofs.FileRuns
import RoundTrip.Proofs.PageReports

/-!
# How an invocation ends

A command line that asks for the listing succeeds with it.  Any other is put down
to its options where the memory limit or the check of the settings fails, before
anything was opened or written.  What is left is a run over a file: it succeeds
if every planned cell does, and its output is the report of the cells up to the
one that failed.
-/

namespace RoundTrip

namespace Options

/-- The memory limit is no number of bytes, or the settings are refused. -/
inductive Rejected (o : Options) : Prop where
  | memory {megabytes : Nat} (hmemory : o.memoryMegabytes = some megabytes)
      (hlarge : 2 ^ 64 ≤ megabytes * 2 ^ 20)
  | settings {settings : Settings} {fault : Fault} (hsettings : o.settings = .ok settings)
      (hrefused : ∀ console, answer settings.validate console = .error fault)

theorem memoryLimit_eq_error_iff {o : Options} {megabytes : Nat} :
    o.memoryLimit = .error megabytes ↔
      o.memoryMegabytes = some megabytes ∧ 2 ^ 64 ≤ megabytes * 2 ^ 20 := by
  rw [memoryLimit]
  cases o.memoryMegabytes with
  | none => exact ⟨nofun, nofun⟩
  | some given =>
      dsimp only
      split
      · refine ⟨nofun, ?_⟩
        rintro ⟨⟨rfl⟩, hlarge⟩
        omega
      · constructor
        · rintro ⟨rfl⟩
          exact ⟨rfl, by omega⟩
        · rintro ⟨⟨rfl⟩, -⟩
          rfl

/-- Only the memory limit keeps options from becoming settings. -/
theorem settings_eq_error_iff {o : Options} {megabytes : Nat} :
    o.settings = .error megabytes ↔ o.memoryLimit = .error megabytes := by
  simp only [settings, Bind.bind, Except.bind]
  cases o.memoryLimit with
  | error given => simp only [Except.error.injEq]
  | ok limit => exact ⟨nofun, nofun⟩

end Options

namespace CommandLine

/-- Without a request for the listing there is an input. -/
theorem exists_input_of_parse {words : List Word} {options : Options}
    (hparse : parse words = .ok options) (hlist : options.list = false) :
    ∃ path, options.input = some path := by
  obtain ⟨p, hcheck⟩ : ∃ p, check p = .ok options := by
    simp only [parse, parseWords, Bind.bind, Except.bind] at hparse
    split at hparse
    · contradiction
    · split at hparse
      · contradiction
      · exact ⟨_, hparse⟩
  simp only [check] at hcheck
  split at hcheck
  · contradiction
  · split at hcheck
    · contradiction
    · rename_i hgiven
      cases hcheck
      rw [hlist, Bool.not_false, Bool.and_true, Bool.not_eq_true,
        Option.isNone_eq_false_iff] at hgiven
      exact Option.isSome_iff_exists.mp hgiven

/-! ## Runs over a file whose settings are accepted -/

section Outcome

variable {σ : Type} (native : Native σ) (s : σ) (files : FileSystem) (settings : Settings)
  (path : Word)

/-- What a run over a file starts from, with an output that takes everything. -/
def fileSession (console : Console) : FileSession σ Page :=
  ⟨console, .ofFiles files, s, .blank none, 0⟩

/-- A host on which nothing was set up yet, with the library directory of the settings. -/
def freshHost (console : Console) : Host :=
  .fresh console files ⟨LibraryDir.withSlash settings.libraryDir⟩

/-- The sweep over the open file. -/
def fileSweep (context : Context) (file : OpenFile) : SweepRun σ Page :=
  (Runner.mk native Page.sink).sweepRun context settings file.size
    (FileSession.displayName (Text.lossyText path))

/-- The engines, the input and the blocks that it starts with. -/
def fileRig (file : OpenFile) : Rig σ :=
  ⟨s, file.input, .ofChunkSize (settings.chunkSize file.size)⟩

/-- How a run over a file ends, and what it reports. -/
inductive FileOutcome : Except Fault Nat → List (CellId × Event) → Prop where
  /-- There is no regular file, or it cannot be opened. -/
  | unreadable {cause : IoFault} (hunreadable : FileSession.Unreadable files path) :
      FileOutcome (.error (.io cause)) []
  /-- A library or one of its functions cannot be had. -/
  | unequipped {file : OpenFile} (hregular : files.isRegular path = true)
      (hopen : files.openFile path = .ok file) {console : Console} {fault : Fault} {left : Host}
      (hsetup : Host.setup settings.selected (freshHost files settings console) =
        .error fault left) : FileOutcome (.error fault) []
  /-- The cells are run, all of them or up to the first that fails. -/
  | swept {file : OpenFile} (hregular : files.isRegular path = true)
      (hopen : files.openFile path = .ok file) {console : Console} {ready : Host}
      (hsetup : Host.setup settings.selected (freshHost files settings console) = .ok () ready)
      {outcome : Except Fault Nat} {events : List (CellId × Event)} {left : Rig σ}
      (hends : (fileSweep native settings path ready.context file).Ends
        (fileRig s settings file) (Plan.cells settings) outcome events left) :
      FileOutcome outcome events

variable {native s files settings path}

/-- A run that succeeds has completed every planned cell. -/
theorem FileOutcome.done_eq {done : Nat} {events : List (CellId × Event)}
    (houtcome : FileOutcome native s files settings path (.ok done) events) :
    done = (Plan.cells settings).length := by
  cases houtcome with
  | swept _ _ _ hends =>
      cases hends with
      | completed hall => rfl

/-- A run over the open file ends with the setup or with the sweep. -/
theorem exists_outcome_of_open (haccepted : settings.objection? = none) {file : OpenFile}
    (hregular : files.isRegular path = true) (hopen : files.openFile path = .ok file)
    (console : Console) :
    let onInput := Session.run ⟨native, Page.sink⟩ settings file.size
      (FileSession.displayName (Text.lossyText path))
    let start := (fileSession s files console).reader console
      ⟨LibraryDir.withSlash settings.libraryDir⟩ file.input
    ∃ events, FileOutcome native s files settings path (answer onInput start) events ∧
      (leaves onInput start).sink.written = reportBytes events := by
  intro onInput start
  let name := FileSession.displayName (Text.lossyText path)
  obtain ⟨dir, after, hvalid⟩ := Settings.validate_of_accepted haccepted start.host.console
  have hprepare := Session.prepare_of_valid hvalid file.size name
  have hhost : { start.host with console := after } = freshHost files settings after := rfl
  rw [hhost] at hprepare
  cases hsetup : Host.setup settings.selected (freshHost files settings after) with
  | error fault left =>
      rw [hsetup] at hprepare
      have hrun : onInput start = _ := Session.run_of_prepare_error ⟨native, Page.sink⟩ hprepare
      refine ⟨[], ?_, ?_⟩
      · rw [answer, hrun]
        exact .unequipped hregular hopen hsetup
      · rw [leaves, hrun]
        rfl
  | ok _ ready =>
      rw [hsetup] at hprepare
      have hrun : onInput start = _ := Session.run_of_prepare ⟨native, Page.sink⟩ hprepare
      rw [Session.sweep_eq] at hrun
      obtain ⟨outcome, events, left, hends, hanswer, hpage⟩ :=
        (fileSweep native settings path ready.context file).execute_unlimited
          ⟨ready.console.say (.input name file.size (settings.chunkSize file.size)
            settings.effectiveIterations), s, file.input,
            .ofChunkSize (settings.chunkSize file.size)⟩
      refine ⟨events, ?_, ?_⟩
      · rw [(answer_eq_of_mapState hrun).trans hanswer]
        exact .swept hregular hopen hsetup hends
      · rw [leaves_eq_of_mapState hrun]
        exact congrArg Page.written hpage

/-- With settings that are accepted a run over a file ends in one of these ways, its output is the
report of that, and whatever it fails with belongs to the run. -/
theorem exists_outcome (haccepted : settings.objection? = none) (console : Console) :
    let onFile := FileSession.run ⟨native, Page.sink⟩ settings path
    let start := fileSession s files console
    ∃ events, FileOutcome native s files settings path (answer onFile start) events ∧
      (leaves onFile start).sink.written = reportBytes events ∧
      ∀ fault, answer onFile start = .error fault → fault.kind = .runtime := by
  intro onFile start
  have hvalid : answer settings.validate start.console =
      .ok ⟨LibraryDir.withSlash settings.libraryDir⟩ := by
    rw [settings.answer_validate, haccepted]
  by_cases hunreadable : FileSession.Unreadable files path
  · obtain ⟨⟨cause, hanswer⟩, huntouched⟩ :=
      FileSession.unreadable_untouched ⟨native, Page.sink⟩ hvalid hunreadable
    refine ⟨[], ?_, congrArg Page.written huntouched.sink, ?_⟩
    · rw [hanswer]
      exact .unreadable hunreadable
    · intro fault hfault
      rw [hanswer] at hfault
      cases hfault
      rfl
  · obtain ⟨file, hregular, hopen⟩ := FileSession.exists_open hunreadable
    obtain ⟨hanswer, -, hsink⟩ :=
      FileSession.run_matches_input ⟨native, Page.sink⟩ hvalid hregular hopen console
    obtain ⟨events, houtcome, hwritten⟩ :
        ∃ events, FileOutcome native s files settings path _ events ∧ _ :=
      exists_outcome_of_open haccepted hregular hopen console
    refine ⟨events, ?_, ?_, fun fault hfault => ?_⟩
    · rw [hanswer]
      exact houtcome
    · rw [hsink]
      exact hwritten
    · rw [hanswer] at hfault
      exact (Session.run_runtime _ _ _ haccepted).kind_of_answer hfault

end Outcome

/-! ## Whole invocations -/

section Invocation

variable {σ : Type} (native : Native σ) (s : σ) (files : FileSystem) {options : Options}

/-- The console of a run over a file, at the display level that was asked for. -/
def console (options : Options) : Console :=
  (Console.ofThreshold (options.displayLevel?.getD defaultDisplayLevel)).say .banner

/-- Nothing was written to the output, and neither a library nor the input was asked for. -/
structure Idle (ending : Ending) : Prop where
  output : ending.output = []
  librariesSought : ending.librariesSought = 0
  inputsOpened : ending.inputsOpened = 0

/-- Options with settings and an input lead to a run over a file. -/
theorem perform_of_settings (hlist : options.list = false) {settings : Settings}
    (hsettings : options.settings = .ok settings) {path : Word}
    (hinput : options.input = some path) :
    perform native s files options =
      ended (Text.lossyText path)
        (answer (FileSession.run ⟨native, Page.sink⟩ settings path)
          (fileSession s files (console options)))
        (leaves (FileSession.run ⟨native, Page.sink⟩ settings path)
          (fileSession s files (console options))) := by
  simp only [perform, hlist, hsettings, hinput, runFile, answer, leaves, fileSession, console]
  cases FileSession.run _ settings path _ with
  | ok done session => rfl
  | error fault session => rfl

/-- What the options are to blame for ends an invocation at once. -/
theorem perform_of_rejected (hlist : options.list = false) (hrejected : options.Rejected) :
    (perform native s files options).status = 2 ∧ Idle (perform native s files options) := by
  cases hrejected with
  | memory hmemory hlarge =>
      have hsettings := Options.settings_eq_error_iff.mpr
        (Options.memoryLimit_eq_error_iff.mpr ⟨hmemory, hlarge⟩)
      simp only [perform, hlist, hsettings]
      exact ⟨rfl, rfl, rfl, rfl⟩
  | @settings settings fault hsettings hrefused =>
      have hkind : fault.kind = .configuration := by
        have hanswer := settings.answer_validate (console options)
        rw [hrefused] at hanswer
        cases hobjection : settings.objection? with
        | none =>
            rw [hobjection] at hanswer
            contradiction
        | some objection =>
            rw [hobjection] at hanswer
            cases hanswer
            exact Settings.kind_of_objection? hobjection
      cases hinput : options.input with
      | none =>
          simp only [perform, hlist, hsettings, hinput]
          exact ⟨rfl, rfl, rfl, rfl⟩
      | some path =>
          obtain ⟨hanswer, huntouched⟩ :
              answer (FileSession.run _ settings path) (fileSession s files (console options)) = _ ∧
                _ :=
            FileSession.refused_untouched ⟨native, Page.sink⟩ (hrefused _)
          rw [perform_of_settings native s files hlist hsettings hinput, hanswer]
          refine ⟨?_, congrArg Page.written huntouched.sink,
            congrArg Loader.sought huntouched.loader, huntouched.inputsOpened⟩
          simp only [ended, statusOf, hkind]
          rfl

/-- Everything else is a run over a file. -/
theorem perform_of_not_rejected (hlist : options.list = false) {path : Word}
    (hinput : options.input = some path) (hrejected : ¬ options.Rejected) :
    ∃ settings events, options.settings = .ok settings ∧
      (let start := fileSession s files (console options)
        let outcome := answer (FileSession.run ⟨native, Page.sink⟩ settings path) start
        FileOutcome native s files settings path outcome events ∧
          (perform native s files options).output = reportBytes events ∧
          (perform native s files options).status =
            if outcome = .ok (Plan.cells settings).length then 0 else 1) := by
  cases hsettings : options.settings with
  | error megabytes =>
      obtain ⟨hmemory, hlarge⟩ := Options.memoryLimit_eq_error_iff.mp
        (Options.settings_eq_error_iff.mp hsettings)
      exact absurd (.memory hmemory hlarge) hrejected
  | ok settings =>
      have haccepted : settings.objection? = none := by
        cases hobjection : settings.objection? with
        | none => rfl
        | some fault =>
            have hrefused (console : Console) :
                answer settings.validate console = .error fault := by
              rw [settings.answer_validate, hobjection]
            exact absurd (.settings hsettings hrefused) hrejected
      obtain ⟨events, houtcome, hwritten, hkind⟩ :
          ∃ events, FileOutcome native s files settings path _ events ∧ _ :=
        exists_outcome haccepted (console options)
      rw [perform_of_settings native s files hlist hsettings hinput]
      refine ⟨settings, events, rfl, houtcome, hwritten, ?_⟩
      cases hanswer : answer (FileSession.run _ settings path)
          (fileSession s files (console options)) with
      | ok done =>
          rw [hanswer] at houtcome
          rw [houtcome.done_eq, if_pos rfl]
          rfl
      | error fault =>
          rw [if_neg nofun, ended, statusOf, hkind fault hanswer]
          rfl

/-- An invocation that is asked for the listing succeeds and writes that.  Another one has status
two exactly where its options are to blame, and then nothing was written, no library was sought and
the input was not opened.  In all other cases the status tells whether every planned cell was
completed, and the output is the report of the cells up to the one that failed. -/
theorem status_and_output (native : Native σ) (s : σ) (files : FileSystem) (words : List Word) :
    let ending := invoke native s files words
    (∀ refusal, parse words = .error refusal →
        ending.status = if refusal.isRequest then 0 else 2) ∧
      ∀ options, parse words = .ok options →
        (options.list = true → ending.status = 0 ∧ ending.output = Text.utf8 listing) ∧
          (options.list = false →
            (ending.status = 2 ↔ options.Rejected) ∧
              (options.Rejected → Idle ending) ∧
              (¬ options.Rejected → ∃ settings path events,
                options.settings = .ok settings ∧ options.input = some path ∧
                  (let start := fileSession s files (console options)
                    let outcome := answer (FileSession.run ⟨native, Page.sink⟩ settings path) start
                    FileOutcome native s files settings path outcome events ∧
                      ending.output = reportBytes events ∧
                      ending.status =
                        if outcome = .ok (Plan.cells settings).length then 0 else 1))) := by
  intro ending
  constructor
  · intro refusal hparse
    simp only [ending, invoke, hparse, refused]
    cases refusal.isRequest <;> rfl
  · intro options hparse
    have hending : ending = perform native s files options := by
      simp only [ending, invoke, hparse]
    rw [hending]
    refine ⟨fun hlist => ?_, fun hlist => ?_⟩
    · rw [perform, if_pos hlist]
      exact ⟨rfl, rfl⟩
    · obtain ⟨path, hinput⟩ := exists_input_of_parse hparse hlist
      have hrun := perform_of_not_rejected native s files hlist hinput
      refine ⟨⟨fun hstatus => ?_, fun hrejected => ?_⟩, fun hrejected => ?_, fun hrejected => ?_⟩
      · by_contra hrejected
        obtain ⟨settings, events, -, -, -, hother⟩ := hrun hrejected
        rw [hother] at hstatus
        split at hstatus <;> contradiction
      · exact (perform_of_rejected native s files hlist hrejected).1
      · exact (perform_of_rejected native s files hlist hrejected).2
      · obtain ⟨settings, events, hsettings, hends⟩ := hrun hrejected
        exact ⟨settings, path, events, hsettings, hinput, hends⟩

/-- The verification of one codec on a file. -/
def verifyLz4 : Options :=
  { Options.default with
    verify := true, iterations := 1, method := some ⟨.lz4, notGiven, notGiven⟩,
    input := some (ascii "latest") }

theorem not_rejected_verifyLz4 : ¬ verifyLz4.Rejected := by
  rintro (⟨hmemory, -⟩ | @⟨settings, fault, hsettings, hrefused⟩)
  · contradiction
  · have hobjection : verifyLz4.settings.toOption.bind Settings.objection? = none := by
      decide +kernel
    rw [hsettings] at hobjection
    have hvalid := hrefused (.ofThreshold 0)
    rw [settings.answer_validate, show settings.objection? = none from hobjection] at hvalid
    contradiction

/-- The command line for it. -/
def verifyWords : List Word := ["codec_bench", "-t", "-i1", "-e", "lz4", "latest"].map ascii

theorem status_and_output_linked :
    let ending := invoke StandIn.native () FileSession.linked.loader.files verifyWords
    parse verifyWords = .ok verifyLz4 ∧ ¬ verifyLz4.Rejected ∧ ending.status = 0 ∧
      ∃ settings path events,
        FileOutcome StandIn.native () FileSession.linked.loader.files settings path
            (.ok (Plan.cells settings).length) events ∧
          ending.output = reportBytes events := by
  have hparse : parse verifyWords = .ok verifyLz4 := by cbv
  have hstatus : (invoke StandIn.native () FileSession.linked.loader.files verifyWords).status =
      0 := by cbv
  obtain ⟨settings, path, events, -, -, houtcome, hwritten, hends⟩ :=
    (((status_and_output StandIn.native () FileSession.linked.loader.files verifyWords).2 _
      hparse).2 rfl).2.2 not_rejected_verifyLz4
  refine ⟨hparse, not_rejected_verifyLz4, hstatus, settings, path, events, ?_, hwritten⟩
  have hcompleted := hstatus.symm.trans hends
  generalize answer (FileSession.run ⟨StandIn.native, Page.sink⟩ settings path)
    (fileSession () FileSession.linked.loader.files (console verifyLz4)) = outcome
    at hcompleted houtcome
  by_cases hall : outcome = .ok (Plan.cells settings).length
  · rwa [hall] at houtcome
  · rw [if_neg hall] at hcompleted
    exact absurd hcompleted Nat.zero_ne_one

end Invocation
end CommandLine
end RoundTrip
