import Mathlib
import RoundTrip.Native.StandIn
import RoundTrip.Proofs.ConfigurationFaults
import RoundTrip.Proofs.Delivery
import RoundTrip.Proofs.DisplayLevels
import RoundTrip.Proofs.RunLedgers

/-!
# Runs over a file

A run over a file is a run over the open file, up to the size that it tells, with a
context of its own between an opening and a teardown.  For a file that tells how
many bytes it has, and delivers them, that is the run over these bytes in memory.
Nothing but the console is touched before the file is opened.  Whatever becomes of
the run after that, the libraries that it opened are closed when it ends, and those
of others are as they were.
-/

namespace RoundTrip

/-! ## Open files and their bytes -/

namespace OpenFile

/-- The bytes that reads of the file find. -/
def bytes (file : OpenFile) : List UInt8 := file.input.contents.toList

/-- The file tells how many bytes it has, and reads bring them; one may be interrupted or bring
less than was wanted. -/
structure Faithful (file : OpenFile) : Prop where
  size : file.size = file.bytes.length
  prompt : file.input.Prompt

/-- A faithful file begins as its bytes in memory do. -/
theorem Faithful.sameStart {file : OpenFile} (hfaithful : file.Faithful) (fileSize : Nat) :
    file.input.SameStart fileSize (.ofList file.bytes) where
  first := hfaithful.prompt
  second := ⟨⟨nofun, nofun, fun _ _ => Iff.rfl⟩, nofun⟩
  bytes := by
    rw [bytes, Input.ofList, Input.ofDelivery, Array.toArray_toList]

end OpenFile

/-- A file with a true size whose calls do not fail, except for reads that are interrupted, is
faithful. -/
theorem Stored.faithful_of_size {stored : Stored} (readable : Bool)
    (hsize : stored.size? = some stored.bytes.length)
    (hreads : ∀ fault ∈ stored.delivery.readFaults, fault.2.kind = .interrupted)
    (hseeks : stored.delivery.seekFaults = [])
    (hprogress : ∀ n, stored.delivery.limit n ≠ some 0) :
    (Node.file stored readable).opened.Faithful where
  size := by
    simp only [OpenFile.size, Node.opened, hsize]
    rfl
  prompt := by
    refine ⟨⟨?_, fun fault hmem => .inr (hreads fault hmem), ?_⟩, hprogress _⟩
    · simp only [Node.opened, Input.ofDelivery, hseeks]
      exact nofun
    · exact fun n _ => iff_of_false (hprogress n) (hprogress _)

namespace Loader

/-- Between the two, libraries were opened and closed again, each once; what others held before,
they hold after. -/
structure Released (others : Library → Prop) (before after : Loader) : Prop where
  ledger : after.Ledger others
  closed : ∃ ids, after.closed = ids ++ before.closed ∧
    ids.Perm (List.range' before.opened ids.length) ∧ after.opened = before.opened + ids.length

theorem Later.released {others : Library → Prop} {before after : Loader}
    (hlater : before.Later after) (hbefore : before.Ledger others)
    (hafter : after.Ledger others) : before.Released others after := by
  obtain ⟨ids, hclosed⟩ := hlater.closed
  have hperm := hbefore.perm_between hafter hlater.opened hclosed.symm
  have hlength : ids.length = after.opened - before.opened := by
    rw [hperm.length_eq, List.length_range']
  refine ⟨hafter, ids, hclosed.symm, hlength ▸ hperm, ?_⟩
  rw [hlength, Nat.add_sub_cancel' hlater.opened]

end Loader

namespace FileSession

variable {σ τ : Type}

/-- Nothing but the console has changed. -/
structure Untouched (s t : FileSession σ τ) : Prop where
  loader : t.loader = s.loader
  native : t.native = s.native
  sink : t.sink = s.sink
  inputsOpened : t.inputsOpened = s.inputsOpened

/-- The path leads to no regular file, or to one that cannot be opened. -/
def Unreadable (files : FileSystem) (path : Word) : Prop :=
  files.isRegular path = false ∨ ∃ cause, files.openFile path = .error cause

theorem exists_open {files : FileSystem} {path : Word} (hreadable : ¬ Unreadable files path) :
    ∃ file, files.isRegular path = true ∧ files.openFile path = .ok file := by
  rw [Unreadable, not_or, Bool.not_eq_false] at hreadable
  cases hopen : files.openFile path with
  | error cause => exact absurd ⟨cause, hopen⟩ hreadable.2
  | ok file => exact ⟨file, hreadable.1, rfl⟩

/-- A run over an input whose context is fresh. -/
def reader (s : FileSession σ τ) (console : Console) (dir : LibraryDir) (input : Input) :
    Session σ τ :=
  ⟨⟨console, s.loader, .ofDir dir⟩, s.native, input, s.sink⟩

/-! ## Names -/

/-- A slash or a backslash. -/
def IsSeparator (c : Char) : Prop := c = '/' ∨ c = '\\'

/-- The name is what follows the last slash or backslash, or all where there is none. -/
structure IsLastPart (path name : List Char) : Prop where
  free : ∀ c ∈ name, ¬ IsSeparator c
  behind : path = name ∨ ∃ front c, IsSeparator c ∧ path = front ++ c :: name

theorem isLastPart_displayName (path : String) :
    IsLastPart path.toList (displayName path).toList := by
  let plain (c : Char) : Bool := c != '/' && c != '\\'
  have hplain (c : Char) : plain c = true ↔ ¬ IsSeparator c := by
    rw [IsSeparator, not_or, Bool.and_eq_true, bne_iff_ne, bne_iff_ne]
  have hname : (displayName path).toList = path.toList.rtakeWhile plain := String.toList_ofList
  have hpath : path.toList.rdropWhile plain ++ path.toList.rtakeWhile plain = path.toList :=
    List.rdropWhile_append_rtakeWhile ..
  rw [hname]
  refine ⟨fun c hc => (hplain c).mp (List.mem_rtakeWhile_imp hc), ?_⟩
  rcases List.eq_nil_or_concat (path.toList.rdropWhile plain) with hnone | ⟨front, c, hfront⟩
  · rw [hnone] at hpath
    exact .inl hpath.symm
  · rw [List.concat_eq_append] at hfront
    have hlast := List.rdropWhile_last_not plain path.toList (by simp [hfront])
    simp only [hfront, List.getLast_concat, hplain, not_not] at hlast
    rw [hfront, List.append_assoc] at hpath
    exact .inr ⟨front, c, hlast, hpath.symm⟩

/-! ## The steps of a run -/

theorem openInput_of_unreadable {path : Word} {s : FileSession σ τ}
    (hunreadable : Unreadable s.loader.files path) :
    ∃ cause console, openInput path s = .error (.io cause) { s with console := console } := by
  rw [openInput_eq]
  by_cases hregular : s.loader.files.isRegular path = true
  · rcases hunreadable with hirregular | ⟨cause, hopen⟩
    · rw [hregular] at hirregular
      contradiction
    · rw [if_pos hregular, hopen]
      exact ⟨_, _, rfl⟩
  · rw [if_neg hregular]
    exact ⟨_, _, rfl⟩

theorem openInput_of_open {path : Word} {s : FileSession σ τ} {file : OpenFile}
    (hregular : s.loader.files.isRegular path = true)
    (hopen : s.loader.files.openFile path = .ok file) :
    openInput path s = .ok file { s with inputsOpened := s.inputsOpened + 1 } := by
  rw [openInput_eq, if_pos hregular, hopen]

/-- The session that a run over an input ends with, its libraries closed. -/
structure Closed (opened : Nat) (left : Session σ τ) (t : FileSession σ τ) : Prop where
  loader : t.loader = left.host.teardown.2.loader
  native : t.native = left.native
  sink : t.sink = left.sink
  inputsOpened : t.inputsOpened = opened

section Steps

variable (runner : Runner σ τ) {settings : Settings} {path : Word} {s : FileSession σ τ}

/-- Settings that are refused end a run whatever the files are. -/
theorem refused_untouched {fault : Fault}
    (hrefused : answer settings.validate s.console = .error fault) :
    answer (run runner settings path) s = .error fault ∧
      Untouched s (leaves (run runner settings path) s) := by
  have hentered : answer settings.validate (s.console.say (.enter .fileRun)) = .error fault := by
    rw [settings.answer_validate] at hrefused ⊢
    exact hrefused
  have hrun : ∃ console,
      run runner settings path s = .error fault { s with console := console } := by
    simp only [run, Bind.bind, EStateM.bind, say, onPart, eq_of_answer_error hentered]
    exact ⟨_, rfl⟩
  obtain ⟨console, hrun⟩ := hrun
  rw [answer, leaves, hrun]
  exact ⟨rfl, rfl, rfl, rfl, rfl⟩

/-- After the check the input is opened. -/
theorem run_of_valid (path : Word) {dir : LibraryDir}
    (hvalid : answer settings.validate s.console = .ok dir) :
    ∃ console, run runner settings path s = (do
      let file ← openInput path
      let outcome ← runOver runner settings dir (displayName (Text.lossyText path)) file
      say (.exit .fileRun)
      match outcome with
      | .ok done => return done
      | .error fault => throw fault) { s with console := console } := by
  have hentered : answer settings.validate (s.console.say (.enter .fileRun)) = .ok dir := by
    rw [settings.answer_validate] at hvalid ⊢
    exact hvalid
  simp only [run, Bind.bind, EStateM.bind, say, onPart, eq_of_answer_ok hentered]
  exact ⟨_, rfl⟩

theorem unreadable_untouched {dir : LibraryDir}
    (hvalid : answer settings.validate s.console = .ok dir)
    (hunreadable : Unreadable s.loader.files path) :
    (∃ cause, answer (run runner settings path) s = .error (.io cause)) ∧
      Untouched s (leaves (run runner settings path) s) := by
  obtain ⟨console, hrun⟩ := run_of_valid runner path hvalid
  obtain ⟨cause, after, hopen⟩ :=
    openInput_of_unreadable (s := { s with console := console }) hunreadable
  rw [answer, leaves, hrun]
  simp only [Bind.bind, EStateM.bind, hopen]
  exact ⟨⟨cause, rfl⟩, rfl, rfl, rfl, rfl⟩

/-- A run over a file that can be opened is a run over the open file, and then its libraries are
closed. -/
theorem run_of_open {dir : LibraryDir} (hvalid : answer settings.validate s.console = .ok dir)
    {file : OpenFile} (hregular : s.loader.files.isRegular path = true)
    (hopen : s.loader.files.openFile path = .ok file) :
    ∃ console,
      let inner := Session.run runner settings file.size (displayName (Text.lossyText path))
      let start := s.reader console dir file.input
      answer (run runner settings path) s = answer inner start ∧
        Closed (s.inputsOpened + 1) (leaves inner start)
          (leaves (run runner settings path) s) := by
  obtain ⟨console, hrun⟩ := run_of_valid runner path hvalid
  refine ⟨console, ?_⟩
  intro inner start
  obtain ⟨t, hover, hclosed⟩ : ∃ t,
      runOver runner settings dir (displayName (Text.lossyText path)) file
          { s with console := console, inputsOpened := s.inputsOpened + 1 } =
        .ok (answer inner start) t ∧
      Closed (s.inputsOpened + 1) (leaves inner start) t :=
    ⟨_, runOver_eq .., rfl, rfl, rfl, rfl⟩
  have hopened := openInput_of_open (s := { s with console := console }) hregular hopen
  have hresult : run runner settings path s =
      match answer inner start with
      | .ok done => .ok done { t with console := t.console.say (.exit .fileRun) }
      | .error fault => .error fault { t with console := t.console.say (.exit .fileRun) } := by
    rw [hrun]
    simp only [Bind.bind, EStateM.bind, hopened, hover, say]
    cases answer inner start with
    | ok done => rfl
    | error fault => rfl
  have hanswer : answer (run runner settings path) s = answer inner start := by
    rw [answer, hresult]
    cases answer inner start with
    | ok done => rfl
    | error fault => rfl
  have hleaves : leaves (run runner settings path) s =
      { t with console := t.console.say (.exit .fileRun) } := by
    rw [leaves, hresult]
    cases answer inner start with
    | ok done => rfl
    | error fault => rfl
  rw [hleaves]
  exact ⟨hanswer, hclosed.loader, hclosed.native, hclosed.sink, hclosed.inputsOpened⟩

end Steps

/-! ## Whole runs -/

theorem reader_owned (s : FileSession σ τ) (console : Console) (dir : LibraryDir)
    (input : Input) {others : Library → Prop} (hledger : s.loader.Ledger others) :
    (s.reader console dir input).host.OwnedBeside others where
  served := .ofDir dir
  apart l _ := Context.not_holds_ofDir dir l
  ledger := hledger.congr fun l => (or_iff_left (Context.not_holds_ofDir dir l)).symm

/-- However a run over an input with a fresh context ends, a teardown after it closes what it
opened. -/
theorem released_teardown (runner : Runner σ τ) (settings : Settings) (fileSize : Nat)
    (fileName : String) (s : FileSession σ τ) (console : Console) (dir : LibraryDir)
    (input : Input) {others : Library → Prop} (hledger : s.loader.Ledger others) :
    s.loader.Released others
      (leaves (Session.run runner settings fileSize fileName)
        (s.reader console dir input)).host.teardown.2.loader := by
  have howned := (Session.run_beside runner settings fileSize fileName others).leaves
    (s.reader_owned console dir input hledger)
  have hlater := (Session.run_later runner settings fileSize fileName s.loader).leaves
    (s := s.reader console dir input) (.refl s.loader)
  exact (Host.later_teardown hlater).released hledger (Host.teardown_beside howned).1

/-- However a run over a file ends, what it opened is closed. -/
theorem released_run (runner : Runner σ τ) (settings : Settings) (path : Word)
    (s : FileSession σ τ) {others : Library → Prop} (hledger : s.loader.Ledger others) :
    s.loader.Released others (leaves (run runner settings path) s).loader := by
  have hkept {t : FileSession σ τ} (huntouched : Untouched s t) :
      s.loader.Released others t.loader :=
    huntouched.loader ▸ (Loader.Later.refl s.loader).released hledger hledger
  cases hvalidate : answer settings.validate s.console with
  | error fault => exact hkept (refused_untouched runner hvalidate).2
  | ok dir =>
      by_cases hunreadable : Unreadable s.loader.files path
      · exact hkept (unreadable_untouched runner hvalidate hunreadable).2
      · obtain ⟨file, hregular, hopen⟩ := exists_open hunreadable
        obtain ⟨console, -, hclosed⟩ := run_of_open runner hvalidate hregular hopen
        exact hclosed.loader ▸ s.released_teardown runner settings file.size _ console dir
          file.input hledger

/-- A run over a file that can be opened does as the run over the open file, whatever the console
of that one shows. -/
theorem run_matches_input (runner : Runner σ τ) {settings : Settings} {path : Word}
    {s : FileSession σ τ} {dir : LibraryDir}
    (hvalid : answer settings.validate s.console = .ok dir) {file : OpenFile}
    (hregular : s.loader.files.isRegular path = true)
    (hopen : s.loader.files.openFile path = .ok file) (console : Console) :
    let onFile := run runner settings path
    let onInput := Session.run runner settings file.size (displayName (Text.lossyText path))
    let start := s.reader console dir file.input
    answer onFile s = answer onInput start ∧
      (leaves onFile s).native = (leaves onInput start).native ∧
      (leaves onFile s).sink = (leaves onInput start).sink := by
  obtain ⟨console', hanswer, hclosed⟩ := run_of_open runner hvalid hregular hopen
  have hrelated := Session.indifferent_run runner settings file.size
    (displayName (Text.lossyText path)) console' console
    ⟨s.reader console dir file.input, [], rfl, rfl⟩
  obtain ⟨left, notices, hleft, hleft'⟩ := hrelated.leaves
  refine ⟨hanswer.trans hrelated.answer_eq, hclosed.native.trans ?_, hclosed.sink.trans ?_⟩
  · exact (congrArg Session.native hleft).trans (congrArg Session.native hleft').symm
  · exact (congrArg Session.sink hleft).trans (congrArg Session.sink hleft').symm

/-- A run over a faithful file does as the run over its bytes in memory. -/
theorem run_matches_bytes (runner : Runner σ τ) {settings : Settings} {path : Word}
    {s : FileSession σ τ} {dir : LibraryDir}
    (hvalid : answer settings.validate s.console = .ok dir) {file : OpenFile}
    (hregular : s.loader.files.isRegular path = true)
    (hopen : s.loader.files.openFile path = .ok file) (hfaithful : file.Faithful)
    (console : Console) :
    let onFile := run runner settings path
    let onBytes :=
      Session.run runner settings file.bytes.length (displayName (Text.lossyText path))
    let start := s.reader console dir (.ofList file.bytes)
    answer onFile s = answer onBytes start ∧
      (leaves onFile s).native = (leaves onBytes start).native ∧
      (leaves onFile s).sink = (leaves onBytes start).sink := by
  obtain ⟨hanswer, hnative, hsink⟩ := run_matches_input runner hvalid hregular hopen console
  obtain ⟨hiterations, hmemory⟩ := Settings.positive_of_validate_ok (eq_of_answer_ok hvalid)
  have hrelated := Session.related_of_sameStart runner (displayName (Text.lossyText path)) hmemory
    (Settings.effectiveIterations_pos hiterations) (hfaithful.sameStart file.size)
    (s.reader console dir file.input)
  rw [← hfaithful.size]
  exact ⟨hanswer.trans hrelated.answer_eq, hnative.trans hrelated.leaves.native,
    hsink.trans hrelated.leaves.sink⟩

/-- A run over a file fails as the check of its settings does, whatever the files are, and else
fails for a path that leads to no regular file or cannot be opened; then nothing but the console
has changed.  In all other cases it is the run over the open file up to the size that it tells, with
a fresh context on the directory that was checked, and does the same to any sink.  Where the file
tells how many bytes it has, and reads bring them, that is the run over its bytes in memory.
However it ends, every library that it opened is closed, once. -/
theorem run_reads_and_releases (runner : Runner σ τ) (settings : Settings) (path : Word)
    (s : FileSession σ τ) {others : Library → Prop} (hledger : s.loader.Ledger others) :
    let onFile := run runner settings path
    let after := leaves onFile s
    let name := displayName (Text.lossyText path)
    (∀ fault, answer settings.validate s.console = .error fault →
        answer onFile s = .error fault ∧ Untouched s after) ∧
      (∀ dir, answer settings.validate s.console = .ok dir →
        (Unreadable s.loader.files path →
          (∃ cause, answer onFile s = .error (.io cause)) ∧ Untouched s after) ∧
        ∀ file, s.loader.files.isRegular path = true →
          s.loader.files.openFile path = .ok file → ∀ console,
            (let onInput := Session.run runner settings file.size name
              let start := s.reader console dir file.input
              answer onFile s = answer onInput start ∧
                after.native = (leaves onInput start).native ∧
                after.sink = (leaves onInput start).sink) ∧
            (file.Faithful →
              let onBytes := Session.run runner settings file.bytes.length name
              let start := s.reader console dir (.ofList file.bytes)
              answer onFile s = answer onBytes start ∧
                after.native = (leaves onBytes start).native ∧
                after.sink = (leaves onBytes start).sink)) ∧
      IsLastPart (Text.lossyText path).toList name.toList ∧
      s.loader.Released others after.loader := by
  refine ⟨fun fault hrefused => refused_untouched runner hrefused, fun dir hvalid => ⟨?_, ?_⟩,
    isLastPart_displayName _, released_run runner settings path s hledger⟩
  · exact fun hunreadable => unreadable_untouched runner hvalid hunreadable
  · intro file hregular hopen console
    exact ⟨run_matches_input runner hvalid hregular hopen console, fun hfaithful =>
      run_matches_bytes runner hvalid hregular hopen hfaithful console⟩

/-- Three bytes, which reads deliver one by one; one of the reads is interrupted. -/
def sample : Stored where
  bytes := [1, 2, 3]
  size? := some 3
  delivery := ⟨fun _ => some 1, [(2, ⟨.interrupted, "signal"⟩)], []⟩

/-- The bytes are in a file behind a link, and there is a library for one codec. -/
def linked : FileSession Unit EventLog :=
  let library : Node :=
    .library ["LZ4_compress_default", "LZ4_decompress_safe"] (.ofBytes [0x7F, 0x45])
  let files := FileSystem.fresh.put [ascii "work", ascii "liblz4.so"] library
  let files := files.put [ascii "work", ascii "sample.bin"] (.file sample true)
  let files := files.put [ascii "work", ascii "latest"] (.link (ascii "sample.bin"))
  ⟨.ofThreshold 0, .ofFiles files, (), [], 0⟩

theorem run_reads_and_releases_linked :
    let runner : Runner Unit EventLog := ⟨StandIn.native, EventLog.sink⟩
    let settings :=
      { Settings.default with selection := .single .lz4, iterations := 1, verify := true }
    let onFile := run runner settings (ascii "./latest")
    linked.loader.Ledger (fun _ => False) ∧
      (∃ file : OpenFile, linked.loader.files.openFile (ascii "./latest") = .ok file ∧
        file.Faithful ∧ file.bytes = [1, 2, 3]) ∧
      answer onFile linked = .ok 1 ∧
      linked.loader.Released (fun _ => False) (leaves onFile linked).loader := by
  intro runner settings onFile
  have hledger : linked.loader.Ledger fun _ => False := .fresh _
  have hvalid : answer settings.validate linked.console = .ok ⟨""⟩ := by decide +kernel
  have hregular : linked.loader.files.isRegular (ascii "./latest") = true := by decide +kernel
  have hopen : linked.loader.files.openFile (ascii "./latest") =
      .ok (Node.file sample true).opened := rfl
  have hfaithful : (Node.file sample true).opened.Faithful := by
    refine Stored.faithful_of_size true rfl ?_ rfl fun _ => nofun
    intro fault hfault
    obtain rfl := List.mem_singleton.mp hfault
    rfl
  obtain ⟨-, hruns, -, hreleased⟩ :=
    run_reads_and_releases runner settings (ascii "./latest") linked hledger
  obtain ⟨-, hbytes⟩ := (hruns _ hvalid).2 _ hregular hopen linked.console
  obtain ⟨hanswer, -⟩ := hbytes hfaithful
  refine ⟨hledger, ⟨_, hopen, hfaithful, rfl⟩, hanswer.trans ?_, hreleased⟩
  cbv

end FileSession
end RoundTrip
