import RoundTrip.Cell
import RoundTrip.Proofs.Exchange
import RoundTrip.Proofs.StepLogic

/-!
# Two runs of one cell

Two runs of the same cell that keep to each other step by step do so chunk by
chunk, and have the same outcome.  Mirroring runs do so without any condition:
their six primitive steps answer alike and keep one relation.  A cell does not
depend on what the console shows, and recording the exchanges with the engine
changes nothing but the record.
-/

namespace RoundTrip

namespace CellRun

variable {σ τ : Type}

/-! ## From chunks to whole cells -/

/-- Two runs of one cell are coupled in every chunk, and keep `R` between chunks. -/
structure Couples (agrees : Workbench σ → Workbench τ → Prop) (run : CellRun σ)
    (run' : CellRun τ) (R : Workbench σ → Workbench τ → Prop) : Prop where
  options : run.options = run'.options
  chunkSize : ∀ {w v}, R w v → w.buffers.chunkSize = v.buffers.chunkSize
  say : ∀ notice,
    Coupled agrees R (Workbench.say notice) (Workbench.say notice) (fun _ => R) R
  rewind : Coupled agrees R Workbench.rewind Workbench.rewind (fun _ => R) R
  chunk : ∀ number tally length,
    Coupled agrees R (run.chunk number tally length) (run'.chunk number tally length)
      (fun _ => R) R

namespace Couples

variable {agrees : Workbench σ → Workbench τ → Prop} {run : CellRun σ} {run' : CellRun τ}
  {R : Workbench σ → Workbench τ → Prop}

/-- Both runs cut the input alike. -/
theorem get_chunkSize (hcouples : Couples agrees run run' R) :
    Coupled agrees R (fun w => .ok w.buffers.chunkSize w : EStateM Fault (Workbench σ) Nat)
      (fun v => .ok v.buffers.chunkSize v) (fun _ => R) R where
  first_agrees _ _ hagrees := hagrees
  second_agrees _ _ hagrees := hagrees
  related _ _ hstates _ := .ok ⟨hcouples.chunkSize hstates, hstates⟩

theorem pass (hcouples : Couples agrees run run' R) (fileSize number : Nat) (tally : Tally) :
    Coupled agrees R (run.pass fileSize number tally) (run'.pass fileSize number tally)
      (fun _ => R) R := by
  have hchunks (size : Nat) : Coupled agrees R
      (Chunks.foldSteps (run.chunk number) size fileSize tally >>= fun tally =>
        pure (if run.options.statistics then tally.finishPass else tally))
      (Chunks.foldSteps (run'.chunk number) size fileSize tally >>= fun tally =>
        pure (if run'.options.statistics then tally.finishPass else tally)) (fun _ => R) R := by
    rw [Chunks.foldSteps_eq, Chunks.foldSteps_eq, ← hcouples.options]
    refine Coupled.bind (Coupled.foldlM (hcouples.chunk number) _ tally) fun tally => ?_
    exact Coupled.pure fun _ _ hstates => hstates
  exact Coupled.bind hcouples.rewind fun _ => Coupled.bind hcouples.get_chunkSize hchunks

theorem passes (hcouples : Couples agrees run run' R) (fileSize left number : Nat)
    (tally : Tally) :
    Coupled agrees R (run.passes fileSize left number tally)
      (run'.passes fileSize left number tally) (fun _ => R) R := by
  induction left generalizing number tally with
  | zero => exact Coupled.pure fun _ _ hstates => hstates
  | succ left ih => exact Coupled.bind (hcouples.pass fileSize number tally) (ih (number + 1))

theorem execute (hcouples : Couples agrees run run' R) (fileSize : Nat) :
    Coupled agrees R (run.execute fileSize) (run'.execute fileSize) (fun _ => R) R := by
  rw [CellRun.execute, CellRun.execute, ← hcouples.options]
  refine Coupled.bind (hcouples.say (.enter .cell)) fun _ => ?_
  refine Coupled.bind (hcouples.passes fileSize _ 0 .empty) fun tally => ?_
  refine Coupled.bind (hcouples.say (.exit .cell)) fun _ => ?_
  exact Coupled.pure fun _ _ hstates => hstates

end Couples

/-! ## From steps to chunks -/

/-- Two runs are coupled in a chunk if they are in each of its steps. -/
theorem chunk_coupled {agrees : Workbench σ → Workbench τ → Prop} {run : CellRun σ}
    {run' : CellRun τ} {before loaded after fail : Workbench σ → Workbench τ → Prop}
    {packed returned : Nat → Workbench σ → Workbench τ → Prop} {length : Nat}
    (hcell : run.cell = run'.cell) (hoptions : run.options = run'.options)
    (hload : Coupled agrees before (Workbench.load length) (Workbench.load length)
      (fun _ => loaded) fail)
    (hcompress : Coupled agrees loaded (run.compress length) (run'.compress length)
      (fun answer => packed answer.1) fail)
    (hdecompress : ∀ size, Coupled agrees (packed size) (run.decompress size length)
      (run'.decompress size length) (fun answer => returned answer.1) fail)
    (hcompare : run.options.verify = true → ∀ size, Coupled agrees (returned size)
      (run.compare length size) (run'.compare length size) (fun _ => after) fail)
    (hsay : ∀ notice,
      Coupled agrees after (Workbench.say notice) (Workbench.say notice) (fun _ => after) fail)
    (hsettles : ∀ {size w v}, returned size w v → after w v) (number : Nat) (tally : Tally) :
    Coupled agrees before (run.chunk number tally length) (run'.chunk number tally length)
      (fun _ => after) fail := by
  have hrecord (notice : Notice) (tally' : Tally) :
      Coupled agrees after
        (Workbench.say notice >>= fun _ =>
          if run.options.statistics then pure tally' else pure tally :
            EStateM Fault (Workbench σ) Tally)
        (Workbench.say notice >>= fun _ =>
          if run.options.statistics then pure tally' else pure tally)
        (fun _ => after) fail := by
    refine Coupled.bind (hsay notice) fun _ => Coupled.ite rfl (fun _ => ?_) fun _ => ?_
    · exact Coupled.pure fun _ _ hstates => hstates
    · exact Coupled.pure fun _ _ hstates => hstates
  simp only [CellRun.chunk, ← hcell, ← hoptions]
  refine Coupled.bind hload fun _ => ?_
  refine Coupled.bind hcompress fun packed => ?_
  refine Coupled.bind (hdecompress packed.1) fun decoded => ?_
  refine Coupled.ite rfl (fun hverify => ?_) fun _ => ?_
  · exact Coupled.bind (hcompare hverify decoded.1) fun _ => hrecord _ _
  · exact (hrecord _ _).mono (fun _ _ hreturned => hsettles hreturned)
      (fun _ _ _ hstates => hstates) fun _ _ hstates => hstates

/-- Two runs of one cell are coupled in every step, and share more while a chunk is under way: once
it is loaded, once it is packed, and once it has come back. -/
structure CouplesSteps (agrees : Workbench σ → Workbench τ → Prop) (run : CellRun σ)
    (run' : CellRun τ) (R : Workbench σ → Workbench τ → Prop)
    (loaded : Nat → Workbench σ → Workbench τ → Prop)
    (packed returned : Nat → Nat → Workbench σ → Workbench τ → Prop) : Prop where
  cell : run.cell = run'.cell
  options : run.options = run'.options
  chunkSize : ∀ {w v}, R w v → w.buffers.chunkSize = v.buffers.chunkSize
  say : ∀ notice,
    Coupled agrees R (Workbench.say notice) (Workbench.say notice) (fun _ => R) R
  rewind : Coupled agrees R Workbench.rewind Workbench.rewind (fun _ => R) R
  load : ∀ length,
    Coupled agrees R (Workbench.load length) (Workbench.load length) (fun _ => loaded length) R
  compress : ∀ length, Coupled agrees (loaded length) (run.compress length) (run'.compress length)
    (fun answer => packed length answer.1) R
  decompress : ∀ length size, Coupled agrees (packed length size) (run.decompress size length)
    (run'.decompress size length) (fun answer => returned length answer.1) R
  compare : run.options.verify = true → ∀ length size, Coupled agrees (returned length size)
    (run.compare length size) (run'.compare length size) (fun _ => R) R
  settles : ∀ {length size w v}, returned length size w v → R w v

theorem CouplesSteps.couples {agrees : Workbench σ → Workbench τ → Prop} {run : CellRun σ}
    {run' : CellRun τ} {R : Workbench σ → Workbench τ → Prop}
    {loaded : Nat → Workbench σ → Workbench τ → Prop}
    {packed returned : Nat → Nat → Workbench σ → Workbench τ → Prop}
    (hsteps : CouplesSteps agrees run run' R loaded packed returned) :
    Couples agrees run run' R where
  options := hsteps.options
  chunkSize := hsteps.chunkSize
  say := hsteps.say
  rewind := hsteps.rewind
  chunk number tally length :=
    chunk_coupled hsteps.cell hsteps.options (hsteps.load length) (hsteps.compress length)
      (hsteps.decompress length) (fun hverify => hsteps.compare hverify length) hsteps.say
      hsteps.settles number tally

/-! ## Runs that mirror each other -/

/-- The primitive steps of two runs answer alike and keep a relation. -/
structure Mirrors (run : CellRun σ) (run' : CellRun τ) (R : Workbench σ → Workbench τ → Prop) :
    Prop where
  cell : run.cell = run'.cell
  options : run.options = run'.options
  chunkSize : ∀ {w v}, R w v → w.buffers.chunkSize = v.buffers.chunkSize
  say : ∀ notice, Simulates R (Workbench.say notice) (Workbench.say notice) (Alike R) R
  rewind : Simulates R Workbench.rewind Workbench.rewind (Alike R) R
  load : ∀ length, Simulates R (Workbench.load length) (Workbench.load length) (Alike R) R
  compress : ∀ length, Simulates R (run.compress length) (run'.compress length) (Alike R) R
  decompress : ∀ packed length,
    Simulates R (run.decompress packed length) (run'.decompress packed length) (Alike R) R
  compare : ∀ length decoded,
    Simulates R (run.compare length decoded) (run'.compare length decoded) (Alike R) R

namespace Mirrors

variable {run : CellRun σ} {run' : CellRun τ} {R : Workbench σ → Workbench τ → Prop}

/-- Mirroring runs are coupled, and nothing has to agree for it. -/
theorem couplesSteps (hmirrors : Mirrors run run' R) :
    CouplesSteps (fun _ _ => True) run run' R (fun _ => R) (fun _ _ => R) (fun _ _ => R) where
  cell := hmirrors.cell
  options := hmirrors.options
  chunkSize := hmirrors.chunkSize
  say notice := .of_simulates (hmirrors.say notice)
  rewind := .of_simulates hmirrors.rewind
  load length := .of_simulates (hmirrors.load length)
  compress length := .of_simulates (hmirrors.compress length)
  decompress length size := .of_simulates (hmirrors.decompress size length)
  compare _ length size := .of_simulates (hmirrors.compare length size)
  settles hstates := hstates

/-- Mirroring runs have the same outcome. -/
theorem execute (hmirrors : Mirrors run run' R) (fileSize : Nat) :
    Simulates R (run.execute fileSize) (run'.execute fileSize) (Alike R) R :=
  (hmirrors.couplesSteps.couples.execute fileSize).simulates

end Mirrors

/-- What every step of a cell keeps, the cell keeps. -/
theorem execute_keeps {run : CellRun σ} {P : Workbench σ → Prop}
    (hsay : ∀ notice, Ensures P (Workbench.say notice) (fun _ => P) (fun _ => P))
    (hrewind : Ensures P Workbench.rewind (fun _ => P) (fun _ => P))
    (hload : ∀ length, Ensures P (Workbench.load length) (fun _ => P) (fun _ => P))
    (hcompress : ∀ length, Ensures P (run.compress length) (fun _ => P) (fun _ => P))
    (hdecompress : ∀ packed length,
      Ensures P (run.decompress packed length) (fun _ => P) (fun _ => P))
    (hcompare : ∀ length decoded,
      Ensures P (run.compare length decoded) (fun _ => P) (fun _ => P)) (fileSize : Nat) :
    Ensures P (run.execute fileSize) (fun _ => P) (fun _ => P) := by
  have hmirrors : Mirrors run run (fun w v => w = v ∧ P w) :=
    { cell := rfl
      options := rfl
      chunkSize := fun hstates => by rw [hstates.1]
      say := fun notice => (hsay notice).simulates_self
      rewind := hrewind.simulates_self
      load := fun length => (hload length).simulates_self
      compress := fun length => (hcompress length).simulates_self
      decompress := fun packed length => (hdecompress packed length).simulates_self
      compare := fun length decoded => (hcompare length decoded).simulates_self }
  exact (hmirrors.execute fileSize).ensures_self

/-! ## What the console shows -/

end CellRun

namespace Workbench

variable {σ : Type}

def withConsole (c : Console) (w : Workbench σ) : Workbench σ := { w with console := c }

theorem rewind_withConsole (c : Console) (w : Workbench σ) :
    rewind (w.withConsole c) = mapState (withConsole c) (rewind w) := by
  unfold rewind withConsole
  cases w.input.rewind with
  | ok _ input => rfl
  | error fault input => rfl

theorem load_withConsole (length : Nat) (c : Console) (w : Workbench σ) :
    load length (w.withConsole c) = mapState (withConsole c) (load length w) := by
  unfold load withConsole
  cases Input.readExact length w.input with
  | ok bytes input => rfl
  | error fault input => rfl

end Workbench

namespace CellRun

open Workbench

variable {σ : Type}

theorem compress_withConsole (run : CellRun σ) (length : Nat) (c : Console) (w : Workbench σ) :
    run.compress length (w.withConsole c) = mapState (withConsole c) (run.compress length w) := by
  simp only [compress, withConsole]
  split
  · rfl
  · rfl

theorem decompress_withConsole (run : CellRun σ) (packed length : Nat) (c : Console)
    (w : Workbench σ) :
    run.decompress packed length (w.withConsole c) =
      mapState (withConsole c) (run.decompress packed length w) := by
  simp only [decompress, withConsole]
  split
  · rfl
  · rfl

theorem compare_withConsole (run : CellRun σ) (length decoded : Nat) (c : Console)
    (w : Workbench σ) :
    run.compare length decoded (w.withConsole c) =
      mapState (withConsole c) (run.compare length decoded w) := by
  simp only [compare, withConsole]
  split
  · rfl
  · rfl

/-- Two workbenches that differ in their consoles only. -/
structure SameWork (w v : Workbench σ) : Prop where
  native : w.native = v.native
  input : w.input = v.input
  buffers : w.buffers = v.buffers

/-- A step that does not touch the console does not depend on it. -/
theorem SameWork.of_silent {α : Type} {step : EStateM Fault (Workbench σ) α}
    (hstep : ∀ c w, step (w.withConsole c) = mapState (withConsole c) (step w)) :
    Simulates SameWork step step (Alike SameWork) SameWork := by
  rintro w ⟨console, native, input, buffers⟩ ⟨rfl, rfl, rfl⟩
  have hrun := hstep console w
  unfold withConsole at hrun
  rw [hrun]
  cases step w with
  | ok a after => exact .ok ⟨rfl, rfl, rfl, rfl⟩
  | error fault after => exact .error fault ⟨rfl, rfl, rfl⟩

/-- Nothing a cell does depends on the console. -/
theorem mirrors_sameWork (run : CellRun σ) : Mirrors run run SameWork where
  cell := rfl
  options := rfl
  chunkSize hstates := by rw [hstates.buffers]
  say notice := fun _ _ hstates => .ok ⟨rfl, hstates.native, hstates.input, hstates.buffers⟩
  rewind := SameWork.of_silent rewind_withConsole
  load length := SameWork.of_silent (load_withConsole length)
  compress length := SameWork.of_silent (run.compress_withConsole length)
  decompress packed length := SameWork.of_silent (run.decompress_withConsole packed length)
  compare length decoded := SameWork.of_silent (run.compare_withConsole length decoded)

/-! ## Recorded exchanges -/

/-- The same run on a native that records. -/
def recorded (run : CellRun σ) : CellRun (σ × List Exchange) :=
  ⟨run.native.recorded, run.entry, run.cell, run.options⟩

end CellRun

namespace Workbench

variable {σ : Type}

/-- A workbench whose engine has a record behind it. -/
def recorded (log : List Exchange) (w : Workbench σ) : Workbench (σ × List Exchange) :=
  ⟨w.console, (w.native, log), w.input, w.buffers⟩

end Workbench

namespace CellRun

variable {σ : Type}

/-- The second workbench is the first with a record behind the engine. -/
structure SameRecorded (w : Workbench σ) (v : Workbench (σ × List Exchange)) : Prop where
  console : w.console = v.console
  native : w.native = v.native.1
  input : w.input = v.input
  buffers : w.buffers = v.buffers

theorem SameRecorded.eq {w : Workbench σ} {v : Workbench (σ × List Exchange)}
    (hsame : SameRecorded w v) : v = w.recorded v.native.2 := by
  obtain ⟨console, native, input, buffers⟩ := w
  obtain ⟨rfl, rfl, rfl, rfl⟩ := hsame
  rfl

/-- To record changes nothing else. -/
theorem mirrors_recorded (run : CellRun σ) : Mirrors run run.recorded SameRecorded where
  cell := rfl
  options := rfl
  chunkSize hstates := by rw [hstates.buffers]
  say notice := by
    rintro ⟨console, native, input, buffers⟩ ⟨_, ⟨_, log⟩, _, _⟩ ⟨rfl, rfl, rfl, rfl⟩
    exact .ok ⟨rfl, rfl, rfl, rfl, rfl⟩
  rewind := by
    rintro ⟨console, native, input, buffers⟩ ⟨_, ⟨_, log⟩, _, _⟩ ⟨rfl, rfl, rfl, rfl⟩
    simp only [Workbench.rewind]
    cases input.rewind with
    | ok _ after => exact .ok ⟨rfl, rfl, rfl, rfl, rfl⟩
    | error cause after => exact .error _ ⟨rfl, rfl, rfl, rfl⟩
  load length := by
    rintro ⟨console, native, input, buffers⟩ ⟨_, ⟨_, log⟩, _, _⟩ ⟨rfl, rfl, rfl, rfl⟩
    simp only [Workbench.load]
    cases Input.readExact length input with
    | ok bytes after => exact .ok ⟨rfl, rfl, rfl, rfl, rfl⟩
    | error cause after => exact .error _ ⟨rfl, rfl, rfl, rfl⟩
  compress length := by
    rintro ⟨console, native, input, buffers⟩ ⟨_, ⟨_, log⟩, _, _⟩ ⟨rfl, rfl, rfl, rfl⟩
    obtain ⟨houtcome, hnative⟩ := EntryPoints.perform_recorded run.native run.entry
      (.compress run.entry.engine run.cell.level run.options.extra) (buffers.input.take length)
      buffers.compressed buffers.compressed.size native log
    simp only [CellRun.compress, CellRun.recorded, EntryPoints.compress, houtcome]
    split
    · exact .ok ⟨rfl, rfl, hnative.symm, rfl, rfl⟩
    · exact .error _ ⟨rfl, hnative.symm, rfl, rfl⟩
  decompress packed length := by
    rintro ⟨console, native, input, buffers⟩ ⟨_, ⟨_, log⟩, _, _⟩ ⟨rfl, rfl, rfl, rfl⟩
    obtain ⟨houtcome, hnative⟩ := EntryPoints.perform_recorded run.native run.entry
      (.decompress run.entry.engine) (buffers.compressed.take packed) buffers.decompressed length
      native log
    simp only [CellRun.decompress, CellRun.recorded, EntryPoints.decompress, houtcome]
    split
    · exact .ok ⟨rfl, rfl, hnative.symm, rfl, rfl⟩
    · exact .error _ ⟨rfl, hnative.symm, rfl, rfl⟩
  compare length decoded := by
    rintro ⟨console, native, input, buffers⟩ ⟨_, ⟨_, log⟩, _, _⟩ ⟨rfl, rfl, rfl, rfl⟩
    simp only [CellRun.compare]
    split
    · exact .ok ⟨rfl, rfl, rfl, rfl, rfl⟩
    · exact .error _ ⟨rfl, rfl, rfl, rfl⟩

/-- A recorded run has the outcome of the run itself, with some record behind it. -/
theorem execute_recorded (run : CellRun σ) (fileSize : Nat) (w : Workbench σ)
    (log : List Exchange) :
    ∃ log', run.recorded.execute fileSize (w.recorded log) =
      mapState (Workbench.recorded log') (run.execute fileSize w) :=
  (run.mirrors_recorded.execute fileSize ⟨rfl, rfl, rfl, rfl⟩).exists_mapState
    fun _ v hsame => ⟨v.native.2, hsame.eq⟩

end CellRun
end RoundTrip
