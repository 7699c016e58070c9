import RoundTrip.Native.StandIn
import RoundTrip.Proofs.CellTrips

/-!
# Cells whatever the calls take

The time of a call goes into the totals of times and into the messages, and
nowhere else.  So a cell does the same on an engine without a clock: it reads and
calls as before, ends in the same way, and counts the same bytes and passes.
What is proved of engines without a memory holds for this reason, as far as it
is not about times, wherever the outcomes are functions of the arguments.
-/

namespace RoundTrip

/-! ## Engines without a clock -/

/-- The same reply in no time. -/
def Reply.untimed (r : Reply) : Reply := { r with elapsed := 0 }

/-- The engine without its clock. -/
def Native.untimed {σ : Type} (native : Native σ) : Native σ := fun call s =>
  ((native call s).1.untimed, (native call s).2)

/-- The engine under a clock that gives its calls these times, one after another. -/
def Native.clocked {σ : Type} (native : Native σ) (times : Nat → Int) : Native (σ × Nat) :=
  fun call s =>
    ({ (native call s.1).1 with elapsed := times s.2 }, ((native call s.1).2, s.2 + 1))

theorem Reply.SameOutcome.untimed {engine : Engine} {capacity : Nat} {r r' : Reply}
    (hsame : Reply.SameOutcome engine capacity r r') :
    Reply.SameReport engine capacity r.untimed r'.untimed where
  produced := hsame.produced
  written := hsame.written
  bytes := hsame.bytes
  span := rfl

namespace Native.Functional

variable {σ : Type} {native : Native σ} {good : σ → Prop} {entry : EntryPoints}

/-- Without its clock such an engine reports nothing but what follows from the arguments. -/
theorem untimed (hfunctional : native.Functional good entry) :
    native.untimed.Stateless good entry where
  keeps := hfunctional.keeps
  report call call' s s' hentry hseen hs hs' :=
    (hfunctional.outcome call call' s s' hentry hseen hs hs').untimed

/-- Under any clock it is such an engine. -/
theorem clocked (hfunctional : native.Functional good entry) (times : Nat → Int) :
    (native.clocked times).Functional (fun s => good s.1) entry where
  keeps call s := hfunctional.keeps call s.1
  outcome call call' s s' hentry hseen hs hs' := by
    have hsame := hfunctional.outcome call call' s.1 s'.1 hentry hseen hs hs'
    exact ⟨hsame.produced, hsame.written, hsame.bytes⟩

end Native.Functional

theorem EntryPoints.perform_untimed {σ : Type} (native : Native σ) (entry : EntryPoints)
    (request : Request) (source destination : Region) (room : Nat) (s : σ) :
    perform native.untimed entry request source destination room s =
      ({ (perform native entry request source destination room s).1 with span := 0 },
        (perform native entry request source destination room s).2) := by
  simp only [perform, Native.untimed]
  split <;> rfl

/-! ## Totals apart from times -/

namespace Tally

/-- The totals count the same bytes and the same passes. -/
structure SameCounts (t t' : Tally) : Prop where
  bytes : ∀ d, t.bytes d = t'.bytes d
  passes : t.passes = t'.passes

variable {t t' : Tally}

theorem SameCounts.refl (t : Tally) : t.SameCounts t := ⟨fun _ => rfl, rfl⟩

theorem SameCounts.symm (hsame : t.SameCounts t') : t'.SameCounts t :=
  ⟨fun d => (hsame.bytes d).symm, hsame.passes.symm⟩

theorem SameCounts.trans {t'' : Tally} (hfirst : t.SameCounts t') (hsecond : t'.SameCounts t'') :
    t.SameCounts t'' :=
  ⟨fun d => (hfirst.bytes d).trans (hsecond.bytes d), hfirst.passes.trans hsecond.passes⟩

theorem SameCounts.recordChunk (hsame : t.SameCounts t') (packed decoded : Nat)
    (compressTime compressTime' decompressTime decompressTime' : Span) :
    (t.recordChunk packed compressTime decoded decompressTime).SameCounts
      (t'.recordChunk packed compressTime' decoded decompressTime') where
  bytes
    | .compress => congrArg (· + packed.toUInt64) (hsame.bytes .compress)
    | .decompress => congrArg (· + decoded.toUInt64) (hsame.bytes .decompress)
  passes := hsame.passes

theorem SameCounts.finishPass (hsame : t.SameCounts t') :
    t.finishPass.SameCounts t'.finishPass where
  bytes
    | .compress => hsame.bytes .compress
    | .decompress => hsame.bytes .decompress
  passes := congrArg (· + 1) hsame.passes

theorem Multiplies.sameCounts {n : UInt32} {single single' : Tally}
    (hmultiplies : single.Multiplies n t) (hsingle : single.SameCounts single')
    (htally : t.SameCounts t') : single'.Multiplies n t' where
  passes := htally.passes ▸ hmultiplies.passes
  bytes d hlimit := by
    rw [← hsingle.bytes d] at hlimit ⊢
    rw [← htally.bytes d]
    exact hmultiplies.bytes d hlimit

end Tally

/-! ## A cell and the same cell without a clock -/

namespace CellRun

variable {σ : Type} (run : CellRun σ)

/-- The cell on the engine without its clock. -/
def untimed : CellRun σ := { run with native := run.native.untimed }

/-- A call has the same result, and leaves the same work. -/
theorem compress_untimed (length : Nat) :
    Simulates SameWork (run.compress length) (run.untimed.compress length)
      (fun a b w v => a.1 = b.1 ∧ SameWork w v) SameWork := by
  rintro ⟨console, native, input, buffers⟩ ⟨console', _, _, _⟩ ⟨rfl, rfl, rfl⟩
  have hcall := EntryPoints.perform_untimed run.native run.entry
    (.compress run.entry.engine run.cell.level run.options.extra) (buffers.input.take length)
    buffers.compressed buffers.compressed.size native
  simp only [CellRun.compress, untimed, EntryPoints.compress, hcall]
  split
  · exact .ok ⟨rfl, rfl, rfl, rfl⟩
  · exact .error _ ⟨rfl, rfl, rfl⟩

theorem decompress_untimed (packed length : Nat) :
    Simulates SameWork (run.decompress packed length) (run.untimed.decompress packed length)
      (fun a b w v => a.1 = b.1 ∧ SameWork w v) SameWork := by
  rintro ⟨console, native, input, buffers⟩ ⟨console', _, _, _⟩ ⟨rfl, rfl, rfl⟩
  have hcall := EntryPoints.perform_untimed run.native run.entry (.decompress run.entry.engine)
    (buffers.compressed.take packed) buffers.decompressed length native
  simp only [CellRun.decompress, untimed, EntryPoints.decompress, hcall]
  split
  · exact .ok ⟨rfl, rfl, rfl, rfl⟩
  · exact .error _ ⟨rfl, rfl, rfl⟩

/-- The relation kept between the totals, and between the workbenches. -/
def CountsAlike (t t' : Tally) (w v : Workbench σ) : Prop := t.SameCounts t' ∧ SameWork w v

theorem say_sameWork (notice notice' : Notice) :
    Simulates (SameWork (σ := σ)) (Workbench.say notice) (Workbench.say notice')
      (Alike SameWork) SameWork :=
  fun _ _ hstates => .ok ⟨rfl, hstates.native, hstates.input, hstates.buffers⟩

variable {run} {t t' : Tally}

theorem chunk_untimed (hsame : t.SameCounts t') (number length : Nat) :
    Simulates SameWork (run.chunk number t length) (run.untimed.chunk number t' length)
      CountsAlike SameWork := by
  have hcompare (decoded : Nat) : Simulates SameWork (run.compare length decoded)
      (run.untimed.compare length decoded) (Alike SameWork) SameWork :=
    run.mirrors_sameWork.compare length decoded
  have hrecord (notice notice' : Notice) {new new' : Tally} (hnew : new.SameCounts new') :
      Simulates SameWork
        (do Workbench.say notice; if run.options.statistics then return new else return t :
          EStateM Fault (Workbench σ) Tally)
        (do Workbench.say notice'; if run.options.statistics then return new' else return t')
        CountsAlike SameWork := by
    refine Simulates.bind_alike (say_sameWork notice notice') fun _ => ?_
    cases run.options.statistics with
    | true => exact Simulates.pure fun _ _ hstates => ⟨hnew, hstates⟩
    | false => exact Simulates.pure fun _ _ hstates => ⟨hsame, hstates⟩
  refine Simulates.bind_alike (run.mirrors_sameWork.load length) fun _ => ?_
  refine Simulates.bind (run.compress_untimed length) ?_
  -- The lengths agree; the times go into the totals and into the notice only.
  rintro ⟨packed, compressTime⟩ ⟨_, compressTime'⟩ w v ⟨rfl, hpacked⟩
  refine Simulates.bind (run.decompress_untimed packed length) ?_ hpacked
  rintro ⟨decoded, decompressTime⟩ ⟨_, decompressTime'⟩ w v ⟨rfl, hdecoded⟩
  have hnew := hsame.recordChunk packed decoded compressTime compressTime' decompressTime
    decompressTime'
  cases hverify : run.options.verify with
  | true =>
      simp only [untimed, hverify, if_true]
      exact Simulates.bind_alike (hcompare decoded) (fun _ => hrecord _ _ hnew) hdecoded
  | false =>
      simp only [untimed, hverify, Bool.false_eq_true, if_false]
      exact hrecord _ _ hnew hdecoded

theorem pass_untimed (hsame : t.SameCounts t') (fileSize number : Nat) :
    Simulates SameWork (run.pass fileSize number t) (run.untimed.pass fileSize number t')
      CountsAlike SameWork := by
  refine Simulates.bind_alike run.mirrors_sameWork.rewind fun _ => ?_
  intro w v hstates
  change Related CountsAlike SameWork
    ((Chunks.foldSteps (run.chunk number) w.buffers.chunkSize fileSize t >>= fun t =>
      pure (if run.options.statistics then t.finishPass else t)) w)
    ((Chunks.foldSteps (run.untimed.chunk number) v.buffers.chunkSize fileSize t' >>= fun t =>
      pure (if run.options.statistics then t.finishPass else t)) v)
  rw [← hstates.buffers, Chunks.foldSteps_eq, Chunks.foldSteps_eq]
  refine Simulates.bind (Simulates.foldlM (fun a b length hcarried =>
    chunk_untimed hcarried number length) _ hsame) (fun a b => ?_) hstates
  rintro w v ⟨hcarried, hafter⟩
  cases run.options.statistics with
  | true => exact .ok ⟨hcarried.finishPass, hafter⟩
  | false => exact .ok ⟨hcarried, hafter⟩

theorem passes_untimed (hsame : t.SameCounts t') (fileSize left number : Nat) :
    Simulates SameWork (run.passes fileSize left number t)
      (run.untimed.passes fileSize left number t') CountsAlike SameWork := by
  -- From the first pass on the totals differ in their times, so they are generalised apart.
  induction left generalizing number t t' with
  | zero => exact Simulates.pure fun _ _ hstates => ⟨hsame, hstates⟩
  | succ left ih =>
      refine Simulates.bind (pass_untimed hsame fileSize number) fun a b => ?_
      rintro w v ⟨hcarried, hafter⟩
      exact ih hcarried (number + 1) hafter

variable (run)

/-- A cell ends as it does without a clock, and counts the same. -/
theorem execute_untimed (fileSize : Nat) :
    Simulates SameWork (run.execute fileSize) (run.untimed.execute fileSize) CountsAlike
      SameWork := by
  refine Simulates.bind_alike (say_sameWork _ _) fun _ => ?_
  refine Simulates.bind (passes_untimed (.refl _) fileSize _ 0) fun a b => ?_
  rintro w v ⟨hcarried, hafter⟩
  refine Simulates.bind_alike (say_sameWork _ _) (fun _ => ?_) hafter
  exact Simulates.pure fun _ _ hstates => ⟨hcarried, hstates⟩

/-- So it succeeds without a clock where it does with one, with totals that count the same. -/
theorem exists_untimed_of_ok {fileSize : Nat} {w : Workbench σ} {tally : Tally}
    (hrun : answer (run.execute fileSize) w = .ok tally) :
    ∃ tally', answer (run.untimed.execute fileSize) w = .ok tally' ∧ tally.SameCounts tally' := by
  have hrelated := run.execute_untimed fileSize (s := w) (t := w) ⟨rfl, rfl, rfl⟩
  rw [eq_of_answer_ok hrun] at hrelated
  obtain ⟨tally', after, hright, hsame, -⟩ := hrelated.exists_ok
  exact ⟨tally', by rw [answer, hright], hsame⟩

theorem exists_timed_of_ok {fileSize : Nat} {w : Workbench σ} {tally : Tally}
    (hrun : answer (run.untimed.execute fileSize) w = .ok tally) :
    ∃ tally', answer (run.execute fileSize) w = .ok tally' ∧ tally'.SameCounts tally := by
  have hrelated := run.execute_untimed fileSize (s := w) (t := w) ⟨rfl, rfl, rfl⟩
  rw [eq_of_answer_ok hrun] at hrelated
  cases hleft : run.execute fileSize w with
  | ok tally' after =>
      rw [hleft] at hrelated
      cases hrelated with
      | ok hanswers => exact ⟨tally', by rw [answer, hleft], hanswers.1⟩
  | error fault after =>
      rw [hleft] at hrelated
      cases hrelated

/-! ## Cells whose outcomes are functions of the arguments -/

section Functional

variable {run} {good : σ → Prop} {stock : Stock} {w v : Workbench σ}

/-- Wherever such a cell starts with the same stock, it succeeds with the same counts. -/
theorem exists_stocked_of_ok (hfunctional : run.native.Functional good run.entry)
    (hpasses : 0 < run.options.iterations.toNat) (hw : w.Stocked good stock)
    (hv : v.Stocked good stock) {fileSize : Nat} {tally : Tally}
    (hrun : answer (run.execute fileSize) w = .ok tally) :
    ∃ tally', answer (run.execute fileSize) v = .ok tally' ∧ tally.SameCounts tally' := by
  obtain ⟨untimed, hleft, hcounts⟩ := run.exists_untimed_of_ok hrun
  have huntimed : run.untimed.native.Stateless good run.untimed.entry := hfunctional.untimed
  have hsame := (execute_stocked huntimed hpasses fileSize ⟨hw, hv⟩).answer_eq
  obtain ⟨tally', hright, hcounts'⟩ := run.exists_timed_of_ok (hsame.symm.trans hleft)
  exact ⟨tally', hright, hcounts.trans hcounts'.symm⟩

/-- With `n` passes such a cell succeeds if it does with one, and counts `n` times as much. -/
theorem execute_repeated_of_functional (hfunctional : run.native.Functional good run.entry)
    (hstocked : w.Stocked good stock) (hstatistics : run.options.statistics = true) {n : UInt32}
    (hn : n ≠ 0) (fileSize : Nat) :
    ((∃ tally, answer ((run.repeated n).execute fileSize) w = .ok tally) ↔
      ∃ single, answer ((run.repeated 1).execute fileSize) w = .ok single) ∧
    ∀ single tally, answer ((run.repeated 1).execute fileSize) w = .ok single →
      answer ((run.repeated n).execute fileSize) w = .ok tally → single.Multiplies n tally := by
  have huntimed : run.untimed.native.Stateless good run.untimed.entry := hfunctional.untimed
  have hrepeated (m : UInt32) : (run.repeated m).untimed = run.untimed.repeated m := rfl
  have hsucceeds (m : UInt32) :
      (∃ tally, answer ((run.repeated m).execute fileSize) w = .ok tally) ↔
        ∃ tally, answer ((run.untimed.repeated m).execute fileSize) w = .ok tally := by
    rw [← hrepeated]
    constructor
    · rintro ⟨tally, hrun⟩
      obtain ⟨tally', hrun', -⟩ := exists_untimed_of_ok _ hrun
      exact ⟨tally', hrun'⟩
    · rintro ⟨tally, hrun⟩
      obtain ⟨tally', hrun', -⟩ := exists_timed_of_ok _ hrun
      exact ⟨tally', hrun'⟩
  obtain ⟨hiff, hmultiplies⟩ :=
    execute_repeated huntimed hstocked hstatistics hn fileSize
  refine ⟨(hsucceeds n).trans (hiff.trans (hsucceeds 1).symm), ?_⟩
  intro single tally hsingle htally
  obtain ⟨single', hsingle', hcounts⟩ := exists_untimed_of_ok _ hsingle
  obtain ⟨tally', htally', hcounts'⟩ := exists_untimed_of_ok _ htally
  exact (hmultiplies single' tally' hsingle' htally').sameCounts hcounts.symm hcounts'.symm

end Functional

end CellRun
end RoundTrip
