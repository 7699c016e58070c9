import RoundTrip.Proofs.HostMirror
import RoundTrip.Proofs.SessionMirror

/-!
# What is shown at two levels

Nothing reads a console back.  Two runs that differ in their consoles alone take
the same steps and tell both consoles the same; each drops the notices above its
own threshold.  So the lower of two levels shows what the higher one shows,
without the notices above it, and nothing else depends on the level.
-/

namespace RoundTrip

/-! ## Consoles -/

namespace Console

/-- The console after so many notices. -/
def tell (c : Console) (notices : List Notice) : Console := notices.foldl say c

/-- The notices that a threshold lets through. -/
def audible (threshold : Nat) (notices : List Notice) : List Notice :=
  notices.filter fun notice => notice.level.rank ≤ threshold

theorem tell_append (c : Console) (notices more : List Notice) :
    c.tell (notices ++ more) = (c.tell notices).tell more := List.foldl_append

theorem tell_eq (c : Console) (notices : List Notice) :
    c.tell notices = ⟨c.threshold, c.shown ++ audible c.threshold notices⟩ := by
  induction notices generalizing c with
  | nil => simp [tell, audible]
  | cons notice rest ih =>
      change (c.say notice).tell rest = _
      rw [ih, threshold_say]
      by_cases hheard : notice.level.rank ≤ c.threshold
      · simp [say_of_le hheard, audible, hheard]
      · simp [say_of_lt (Nat.lt_of_not_le hheard), audible, hheard]

/-- A lower threshold has nothing to let through that a higher one keeps back. -/
theorem audible_audible {low high : Nat} (hlevels : low ≤ high) (notices : List Notice) :
    audible low (audible high notices) = audible low notices := by
  unfold audible
  rw [List.filter_filter]
  refine List.filter_congr fun notice _ => ?_
  rw [← Bool.decide_and, decide_eq_decide]
  exact and_iff_left_of_imp fun hlow => Nat.le_trans hlow hlevels

end Console

/-! ## Steps -/

section Steps

variable {σ ρ α β : Type} {put : Console → σ → σ}

/-- A step does the same at two levels: its answer or fault and what it leaves differ in the
console only, and what the lower level shows is a selection of what the higher one shows. -/
def Discreet (put : Console → σ → σ) (step : EStateM Fault σ α) : Prop :=
  ∀ (s : σ) (low high : Nat) (before before' : Array Notice), low ≤ high →
    ∃ (shown : List Notice) (result : EStateM.Result Fault σ α),
      step (put ⟨high, before'⟩ s) = mapState (put ⟨high, before' ++ shown⟩) result ∧
        step (put ⟨low, before⟩ s) =
          mapState (put ⟨low, before ++ Console.audible low shown⟩) result

/-- Two states that differ in their consoles only, which were told the same. -/
def Overheard (put : Console → σ → σ) (c d : Console) (s t : σ) : Prop :=
  ∃ base notices, s = put (c.tell notices) base ∧ t = put (d.tell notices) base

/-- A step that goes the same way whatever its console is. -/
abbrev Indifferent (put : Console → σ → σ) (step : EStateM Fault σ α) : Prop :=
  ∀ c d, Simulates (Overheard put c d) step step (Alike (Overheard put c d)) (Overheard put c d)

/-- What a step tells its console does not depend on the console, and nothing else does. -/
def Tells (put : Console → σ → σ) (step : EStateM Fault σ α) : Prop :=
  ∀ s, ∃ notices, ∀ c, step (put c s) = mapState (put (c.tell notices)) (step s)

theorem Indifferent.discreet {step : EStateM Fault σ α} (hstep : Indifferent put step) :
    Discreet put step := by
  intro s low high before before' hlevels
  have hstart : Overheard put ⟨high, before'⟩ ⟨low, before⟩ (put ⟨high, before'⟩ s)
      (put ⟨low, before⟩ s) := ⟨s, [], rfl, rfl⟩
  have hrelated := hstep _ _ hstart
  generalize step (put ⟨high, before'⟩ s) = first at hrelated
  generalize step (put ⟨low, before⟩ s) = second at hrelated
  cases hrelated with
  | @ok a b _ _ hanswers =>
      obtain ⟨rfl, base, notices, rfl, rfl⟩ := hanswers
      -- Of what both were told, no more is known than the higher level shows.
      refine ⟨Console.audible high notices, .ok a base, ?_, ?_⟩
      · rw [Console.tell_eq]
        rfl
      · rw [Console.tell_eq, Console.audible_audible hlevels]
        rfl
  | error fault hstates =>
      obtain ⟨base, notices, rfl, rfl⟩ := hstates
      refine ⟨Console.audible high notices, .error fault base, ?_, ?_⟩
      · rw [Console.tell_eq]
        rfl
      · rw [Console.tell_eq, Console.audible_audible hlevels]
        rfl

namespace Tells

theorem of_silent {step : EStateM Fault σ α}
    (hstep : ∀ c s, step (put c s) = mapState (put c) (step s)) : Tells put step :=
  fun s => ⟨[], fun c => hstep c s⟩

theorem of_notice {step : EStateM Fault σ α} (notice : Notice)
    (hstep : ∀ c s, step (put c s) = mapState (put (c.say notice)) (step s)) : Tells put step :=
  fun s => ⟨[notice], fun c => hstep c s⟩

theorem pure (a : α) : Tells put (Pure.pure a) := of_silent fun _ _ => rfl

theorem throw (fault : Fault) : Tells put (throw fault : EStateM Fault σ α) :=
  of_silent fun _ _ => rfl

theorem indifferent {step : EStateM Fault σ α} (hstep : Tells put step) :
    Indifferent put step := by
  rintro c d _ _ ⟨base, before, rfl, rfl⟩
  obtain ⟨notices, htells⟩ := hstep base
  rw [htells, htells, ← Console.tell_append, ← Console.tell_append]
  cases step base with
  | ok a after => exact .ok ⟨rfl, after, before ++ notices, rfl, rfl⟩
  | error fault after => exact .error fault ⟨after, before ++ notices, rfl, rfl⟩

end Tells

theorem Indifferent.bind {step : EStateM Fault σ α} {next : α → EStateM Fault σ β}
    (hstep : Indifferent put step) (hnext : ∀ a, Indifferent put (next a)) :
    Indifferent put (step >>= next) :=
  fun c d => Simulates.bind_alike (hstep c d) fun a => hnext a c d

/-- The console of a part is that of the whole. -/
theorem Indifferent.onPart {part : σ → ρ} {replace : ρ → σ → σ} {inner : Console → ρ → ρ}
    {step : EStateM Fault ρ α} (hstep : Indifferent inner step)
    (hpart : ∀ c s, part (put c s) = inner c (part s))
    (hreplace : ∀ c c' r s, replace (inner c r) (put c' s) = put c (replace r s)) :
    Indifferent put (onPart part replace step) := by
  intro c d
  refine (hstep c d).onPart ?_ ?_
  · rintro _ _ ⟨base, notices, rfl, rfl⟩
    exact ⟨part base, notices, hpart _ _, hpart _ _⟩
  · rintro _ _ _ _ ⟨base, notices, rfl, rfl⟩ ⟨base', notices', rfl, rfl⟩
    exact ⟨replace base' base, notices', hreplace _ _ _ _, hreplace _ _ _ _⟩

end Steps

/-! ## The settings -/

theorem LibraryDir.tells_ofName (name : String) : Tells (fun c _ => c) (ofName name) := by
  intro s
  unfold ofName
  by_cases hlong : maxDirectoryName - 1 < name.utf8ByteSize
  · refine ⟨[.directoryTooLong maxDirectoryName], fun c => ?_⟩
    simp only [if_pos hlong]
    rfl
  · by_cases hfull : name.utf8ByteSize = maxDirectoryName - 1 ∧ ¬ endsInSlash name
    · refine ⟨[.directoryWithSlashTooLong maxDirectoryName], fun c => ?_⟩
      simp only [if_neg hlong, if_pos hfull]
      rfl
    · refine ⟨[], fun c => ?_⟩
      simp only [if_neg hlong, if_neg hfull]
      rfl

theorem Settings.tells_validate (s : Settings) : Tells (fun c _ => c) s.validate := by
  unfold validate
  split
  · exact .throw _
  · split
    · exact .throw _
    · split
      · split
        · exact LibraryDir.tells_ofName _
        · exact .throw _
      · exact LibraryDir.tells_ofName _

theorem Plan.tells_announce (s : Settings) :
    Tells (fun c _ => c) (change (announce s) : EStateM Fault Console (List Cell)) := by
  intro console
  unfold change announce
  cases oddLevel? s with
  | none => exact ⟨[], fun c => rfl⟩
  | some notice => exact ⟨[notice], fun c => rfl⟩

/-! ## Hosts -/

namespace Host

def withConsole (c : Console) (h : Host) : Host := { h with console := c }

theorem drop_withConsole (c : Console) (h : Host) (library : Library) :
    (h.withConsole c).drop library = (h.drop library).withConsole c := by
  unfold drop withConsole
  split
  · rfl
  · rfl

/-- A setup does not look at the console. -/
theorem mirrors_overheard (c d : Console) : Mirrors (Overheard withConsole c d) where
  context := by
    rintro _ _ ⟨base, notices, rfl, rfl⟩
    rfl
  say notice := (Tells.of_notice notice fun _ _ => rfl).indifferent c d
  load path := by
    refine Tells.indifferent (.of_silent fun c h => ?_) c d
    unfold onPart withConsole
    cases Loader.openLibrary path h.loader with
    | ok library loader => rfl
    | error fault loader => rfl
  release library := by
    refine Tells.indifferent (.of_silent fun c h => ?_) c d
    unfold release
    rw [drop_withConsole]
    rfl
  put handle := by
    rintro ⟨base, notices, rfl, rfl⟩
    exact ⟨{ base with context := base.context.put handle }, notices, rfl, rfl⟩

theorem indifferent_setup (codecs : List Codec) : Indifferent withConsole (setup codecs) :=
  fun c d => (mirrors_overheard c d).setup codecs

/-- How a closing went is told, and nothing is where a handle still refers to the library. -/
theorem tells_closeLoudly (library : Library) :
    Tells withConsole (change (closeLoudly · library) : EStateM Fault Host Nat) := by
  intro h
  unfold change closeLoudly
  by_cases hheld : h.context.refersTo library = true
  · refine ⟨[], fun c => ?_⟩
    have hheld' : (h.withConsole c).context.refersTo library = true := hheld
    simp only [if_pos hheld, if_pos hheld', drop_withConsole]
    rfl
  · cases hfault : h.loader.closeFault? library.id with
    | none =>
        refine ⟨[.closed library.path], fun c => ?_⟩
        simp only [withConsole, if_neg hheld, hfault]
        rfl
    | some reason =>
        refine ⟨[.closeFailed library.path reason], fun c => ?_⟩
        simp only [withConsole, if_neg hheld, hfault]
        rfl

theorem indifferent_closeAll (libraries : List Library) :
    Indifferent withConsole (change (closeAll · libraries) : EStateM Fault Host Nat) := by
  induction libraries with
  | nil => exact (Tells.pure 0).indifferent
  | cons library rest ih =>
      have hrest (one : Nat) : Indifferent withConsole
          (change (closeAll · rest) >>= fun others => Pure.pure (one + others)) :=
        ih.bind fun others => (Tells.pure (one + others)).indifferent
      exact (tells_closeLoudly library).indifferent.bind hrest

theorem indifferent_teardown :
    Indifferent withConsole (change teardown : EStateM Fault Host Nat) := by
  rintro c d _ _ ⟨base, notices, rfl, rfl⟩
  exact indifferent_closeAll base.context.libraries c d
    ⟨{ base with context := .ofDir base.context.dir }, notices, rfl, rfl⟩

/-- Hosts that were told the same are told the same by a teardown, and count alike. -/
theorem teardown_overheard {c d : Console} {g h : Host} (hstates : Overheard withConsole c d g h) :
    g.teardown.1 = h.teardown.1 ∧
      Overheard withConsole c d g.teardown.2 h.teardown.2 := by
  have hrelated := indifferent_teardown c d hstates
  unfold change at hrelated
  cases hrelated with
  | ok hanswers => exact hanswers

end Host

/-! ## Cells and sweeps -/

section Sweeps

variable {σ τ : Type}

namespace CellRun

open Workbench

/-- A cell does not look at the console. -/
theorem mirrors_overheard (run : CellRun σ) (c d : Console) :
    Mirrors run run (Overheard withConsole c d) where
  cell := rfl
  options := rfl
  chunkSize := by
    rintro _ _ ⟨base, notices, rfl, rfl⟩
    rfl
  say notice := (Tells.of_notice notice fun _ _ => rfl).indifferent c d
  rewind := (Tells.of_silent rewind_withConsole).indifferent c d
  load length := (Tells.of_silent (load_withConsole length)).indifferent c d
  compress length := (Tells.of_silent (run.compress_withConsole length)).indifferent c d
  decompress packed length :=
    (Tells.of_silent (run.decompress_withConsole packed length)).indifferent c d
  compare length decoded :=
    (Tells.of_silent (run.compare_withConsole length decoded)).indifferent c d

theorem indifferent_execute (run : CellRun σ) (fileSize : Nat) :
    Indifferent withConsole (run.execute fileSize) :=
  fun c d => (run.mirrors_overheard c d).execute fileSize

end CellRun

def SweepState.withConsole (c : Console) (s : SweepState σ τ) : SweepState σ τ :=
  { s with bench := s.bench.withConsole c }

namespace SweepRun

/-- Neither does a sweep. -/
theorem mirrors_overheard (run : SweepRun σ τ) (c d : Console) :
    Mirrors run run (Overheard Workbench.withConsole c d) Eq where
  context := rfl
  settings := rfl
  fileSize := rfl
  fileName := rfl
  cell cell entry := (run.cellRun cell entry).indifferent_execute run.fileSize c d
  say notice := by
    rintro ⟨base, notices, rfl, rfl⟩
    refine ⟨base, notices ++ [notice], ?_, ?_⟩
    · rw [Console.tell_append]
      rfl
    · rw [Console.tell_append]
      rfl
  emit id event := Simulates.refl _

/-- Workbenches that were told the same, with one sink, make up states that were. -/
theorem both_overheard_iff {c d : Console} {s t : SweepState σ τ} :
    Both (Overheard Workbench.withConsole c d) Eq s t ↔
      Overheard SweepState.withConsole c d s t := by
  obtain ⟨bench, sink⟩ := s
  obtain ⟨bench', sink'⟩ := t
  constructor
  · rintro ⟨⟨base, notices, rfl, rfl⟩, rfl⟩
    exact ⟨⟨base, sink⟩, notices, rfl, rfl⟩
  · rintro ⟨base, notices, hfirst, hsecond⟩
    cases hfirst
    cases hsecond
    exact ⟨⟨base.bench, notices, rfl, rfl⟩, rfl⟩

theorem indifferent_execute (run : SweepRun σ τ) :
    Indifferent SweepState.withConsole run.execute := by
  intro c d
  have hsame : Both (Overheard Workbench.withConsole c d) Eq =
      Overheard (SweepState.withConsole (σ := σ) (τ := τ)) c d :=
    funext fun _ => funext fun _ => propext both_overheard_iff
  rw [← hsame]
  exact (run.mirrors_overheard c d).execute

end SweepRun
end Sweeps

/-! ## Runs over an input and over a file -/

namespace Session

variable {σ τ : Type}

def withConsole (c : Console) (s : Session σ τ) : Session σ τ :=
  { s with host := s.host.withConsole c }

theorem indifferent_onHost {α : Type} {step : EStateM Fault Host α}
    (hstep : Indifferent Host.withConsole step) :
    Indifferent withConsole (onHost step : EStateM Fault (Session σ τ) α) :=
  hstep.onPart (fun _ _ => rfl) fun _ _ _ _ => rfl

theorem indifferent_onConsole {α : Type} {step : EStateM Fault Console α}
    (hstep : Indifferent (fun c _ => c) step) :
    Indifferent withConsole (onConsole step : EStateM Fault (Session σ τ) α) :=
  indifferent_onHost (hstep.onPart (fun _ _ => rfl) fun _ _ _ _ => rfl)

theorem indifferent_sweep (runner : Runner σ τ) (settings : Settings) (fileSize : Nat)
    (fileName : String) :
    Indifferent withConsole (sweep runner settings fileSize fileName) := by
  rintro c d _ _ ⟨base, notices, rfl, rfl⟩
  have hresumed {s t : SweepState σ τ} (hstates : Overheard SweepState.withConsole c d s t) :
      Overheard withConsole c d ((base.withConsole (c.tell notices)).resumed s)
        ((base.withConsole (d.tell notices)).resumed t) := by
    obtain ⟨after, more, rfl, rfl⟩ := hstates
    exact ⟨base.resumed after, more, rfl, rfl⟩
  rw [sweep_eq, sweep_eq]
  have hrelated :=
    (runner.sweepRun base.host.context settings fileSize fileName).indifferent_execute c d
      ⟨base.sweepState (.ofChunkSize (settings.chunkSize fileSize)), notices, rfl, rfl⟩
  exact hrelated.map (fun _ _ _ _ hanswers => ⟨hanswers.1, hresumed hanswers.2⟩)
    fun _ _ hstates => hresumed hstates

theorem indifferent_run (runner : Runner σ τ) (settings : Settings) (fileSize : Nat)
    (fileName : String) : Indifferent withConsole (run runner settings fileSize fileName) := by
  refine .bind (indifferent_onConsole settings.tells_validate.indifferent) fun _ => ?_
  refine .bind (indifferent_onHost (Host.indifferent_setup _)) fun _ => ?_
  refine .bind (indifferent_onHost (Tells.of_notice _ fun _ _ => rfl).indifferent) fun _ => ?_
  exact indifferent_sweep runner settings fileSize fileName

end Session

namespace FileSession

variable {σ τ : Type}

def withConsole (c : Console) (s : FileSession σ τ) : FileSession σ τ := { s with console := c }

theorem tells_say (notice : Notice) :
    Tells withConsole (say notice : EStateM Fault (FileSession σ τ) Unit) :=
  .of_notice notice fun _ _ => rfl

theorem tells_refuse {α : Type} (path : String) (fault : IoFault) :
    Tells withConsole (refuse path fault : EStateM Fault (FileSession σ τ) α) :=
  .of_notice (.inputRefused path) fun _ _ => rfl

/-- Which file is opened, and whether it can be, has nothing to do with the console. -/
theorem tells_openInput (path : Word) :
    Tells withConsole (openInput path : EStateM Fault (FileSession σ τ) OpenFile) := by
  intro s
  simp only [openInput_eq, withConsole]
  by_cases hregular : s.loader.files.isRegular path = true
  · simp only [if_pos hregular]
    cases s.loader.files.openFile path with
    | ok file => exact ⟨[], fun c => rfl⟩
    | error fault => exact tells_refuse (Text.lossyText path) fault s
  · simp only [if_neg hregular]
    exact tells_refuse (Text.lossyText path) _ s

/-- What is left of a session when its context is closed. -/
def concluded (opened : Nat) (left : Session σ τ) : FileSession σ τ where
  console := left.host.teardown.2.console.say (.released left.host.teardown.1)
  loader := left.host.teardown.2.loader
  native := left.native
  sink := left.sink
  inputsOpened := opened

theorem runOver_eq (runner : Runner σ τ) (settings : Settings) (dir : LibraryDir)
    (fileName : String) (file : OpenFile) (s : FileSession σ τ) :
    let inner := Session.run runner settings file.size fileName
    let start : Session σ τ :=
      ⟨⟨s.console, s.loader, .ofDir dir⟩, s.native, file.input, s.sink⟩
    runOver runner settings dir fileName file s =
      .ok (answer inner start) (concluded s.inputsOpened (leaves inner start)) := by
  simp only [runOver, answer, leaves]
  cases Session.run runner settings file.size fileName _ with
  | ok done left => rfl
  | error fault left => rfl

theorem concluded_overheard (opened : Nat) {c d : Console} {s t : Session σ τ}
    (hstates : Overheard Session.withConsole c d s t) :
    Overheard withConsole c d (concluded opened s) (concluded opened t) := by
  obtain ⟨base, notices, rfl, rfl⟩ := hstates
  have hhosts : Overheard Host.withConsole c d (base.withConsole (c.tell notices)).host
      (base.withConsole (d.tell notices)).host := ⟨base.host, notices, rfl, rfl⟩
  obtain ⟨hcount, after, more, hfirst, hsecond⟩ := Host.teardown_overheard hhosts
  refine ⟨⟨after.console, after.loader, base.native, base.sink, opened⟩,
    more ++ [.released (base.withConsole (d.tell notices)).host.teardown.1], ?_, ?_⟩
  · unfold concluded
    rw [hcount, hfirst, Console.tell_append]
    rfl
  · unfold concluded
    rw [hsecond, Console.tell_append]
    rfl

theorem indifferent_runOver (runner : Runner σ τ) (settings : Settings) (dir : LibraryDir)
    (fileName : String) (file : OpenFile) :
    Indifferent withConsole (runOver runner settings dir fileName file) := by
  rintro c d _ _ ⟨base, notices, rfl, rfl⟩
  have hrelated := Session.indifferent_run runner settings file.size fileName c d
    ⟨⟨⟨base.console, base.loader, .ofDir dir⟩, base.native, file.input, base.sink⟩,
      notices, rfl, rfl⟩
  rw [runOver_eq, runOver_eq]
  exact .ok ⟨hrelated.answer_eq, concluded_overheard _ hrelated.leaves⟩

theorem indifferent_run (runner : Runner σ τ) (settings : Settings) (path : Word) :
    Indifferent withConsole (run runner settings path) := by
  refine .bind (tells_say _).indifferent fun _ => ?_
  refine .bind (settings.tells_validate.indifferent.onPart (fun _ _ => rfl) fun _ _ _ _ => rfl)
    fun dir => ?_
  refine .bind (tells_openInput path).indifferent fun file => ?_
  refine .bind (indifferent_runOver runner settings dir _ file) fun outcome => ?_
  refine .bind (tells_say _).indifferent fun _ => ?_
  cases outcome with
  | ok done => exact (Tells.pure done).indifferent
  | error fault => exact (Tells.throw fault).indifferent

end FileSession

/-- Whatever logs does the same at two levels of display: it answers or fails alike, and leaves
the same engines, input, sink, slots and ledger, be they engines that keep their calls or a sink
that keeps its events.  At the lower level it shows what it shows at the higher one without the
notices above. -/
theorem shown_at_lower_level {σ τ : Type} :
    (∀ name, Discreet (fun c _ => c) (LibraryDir.ofName name)) ∧
      (∀ settings, Discreet (fun c _ => c)
        (change (Plan.announce settings) : EStateM Fault Console (List Cell))) ∧
      (∀ codecs, Discreet Host.withConsole (Host.setup codecs)) ∧
      Discreet Host.withConsole (change Host.teardown : EStateM Fault Host Nat) ∧
      (∀ (run : CellRun σ) fileSize, Discreet Workbench.withConsole (run.execute fileSize)) ∧
      (∀ run : SweepRun σ τ, Discreet SweepState.withConsole run.execute) ∧
      (∀ (runner : Runner σ τ) settings fileSize fileName,
        Discreet Session.withConsole (Session.run runner settings fileSize fileName)) ∧
      ∀ (runner : Runner σ τ) settings path,
        Discreet FileSession.withConsole (FileSession.run runner settings path) := by
  refine ⟨?_, ?_, ?_, ?_, ?_, ?_, ?_, ?_⟩
  · exact fun name => (LibraryDir.tells_ofName name).indifferent.discreet
  · exact fun settings => (Plan.tells_announce settings).indifferent.discreet
  · exact fun codecs => (Host.indifferent_setup codecs).discreet
  · exact Host.indifferent_teardown.discreet
  · exact fun run fileSize => (run.indifferent_execute fileSize).discreet
  · exact fun run => run.indifferent_execute.discreet
  · exact fun runner settings fileSize fileName =>
      (Session.indifferent_run runner settings fileSize fileName).discreet
  · exact fun runner settings path =>
      (FileSession.indifferent_run runner settings path).discreet

end RoundTrip
