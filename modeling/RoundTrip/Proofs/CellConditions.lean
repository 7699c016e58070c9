import RoundTrip.Cell
import RoundTrip.Proofs.ChunkCover
import RoundTrip.Proofs.StepLogic

/-!
# What only calls can change

Most steps of a cell leave the engines alone and the blocks at their size.  So a
condition on these is kept by a cell if the two calls for a chunk keep it; it
may depend on the place of the chunk in its pass.
-/

namespace RoundTrip

/-- The fault is not that of a call. -/
def Fault.NotOfCall (fault : Fault) : Prop :=
  ∀ direction codec level cause, fault ≠ .callFailed direction codec level cause

/-- A condition on the engines and on the size of a chunk: nothing but a call can change it. -/
def Workbench.Lasting {σ : Type} (P : Workbench σ → Prop) : Prop :=
  ∀ ⦃w v : Workbench σ⦄, P w → v.buffers.chunkSize = w.buffers.chunkSize →
    v.native = w.native → P v

namespace CellRun

variable {σ : Type} {run : CellRun σ} {fail : Fault → Workbench σ → Prop}

section Lasting

variable {P : Workbench σ → Prop} (hP : Workbench.Lasting P)
  (hfail : ∀ fault w, fault.NotOfCall → P w → fail fault w)

include hP in
theorem say_lasting (notice : Notice) :
    Ensures P (Workbench.say notice) (fun _ => P) fail :=
  fun _ hw => hP hw rfl rfl

include hfail

theorem compare_lasting (length decoded : Nat) :
    Ensures P (run.compare length decoded) (fun _ => P) fail := by
  intro w hw
  simp only [CellRun.compare]
  cases verify (w.buffers.input.take length).toList
      (w.buffers.decompressed.take decoded).toList with
  | ok _ => exact hw
  | error mismatch => exact hfail _ _ nofun hw

include hP

theorem rewind_lasting : Ensures P Workbench.rewind (fun _ => P) fail := by
  intro w hw
  rw [Workbench.rewind]
  cases w.input.rewind with
  | ok _ after => exact hP hw rfl rfl
  | error cause after => exact hfail _ _ nofun (hP hw rfl rfl)

theorem load_lasting (length : Nat) : Ensures P (Workbench.load length) (fun _ => P) fail := by
  intro w hw
  rw [Workbench.load]
  cases Input.readExact length w.input with
  | ok bytes after => exact hP hw (Buffers.chunkSize_load w.buffers bytes) rfl
  | error cause after => exact hfail _ _ nofun (hP hw rfl rfl)

end Lasting

/-! ## From chunks to cells -/

section Chunks

variable {size fileSize : Nat} {between : Workbench σ → Prop} {inPass : Nat → Workbench σ → Prop}

/-- From the rewind to the last chunk, a pass keeps what every chunk of it keeps. -/
theorem pass_of_chunks
    (hchunk : ∀ k, k < Chunks.count size fileSize → ∀ number tally,
      Ensures (inPass k) (run.chunk number tally (Chunks.lengthAt size fileSize k))
        (fun _ => inPass (k + 1)) fail)
    (hrewind : Ensures between Workbench.rewind (fun _ => inPass 0) fail)
    (hsize : ∀ w, inPass 0 w → w.buffers.chunkSize = size) (number : Nat) (tally : Tally) :
    Ensures between (run.pass fileSize number tally)
      (fun _ => inPass (Chunks.count size fileSize)) fail := by
  refine Ensures.bind hrewind fun _ w hw => ?_
  have hchunks : Ensures (inPass 0)
      (Chunks.foldSteps (run.chunk number) w.buffers.chunkSize fileSize tally)
      (fun _ => inPass (Chunks.count size fileSize)) fail := by
    rw [Chunks.foldSteps_eq, Chunks.lengths_eq_map, hsize w hw]
    exact Ensures.foldlM_range (fun k hk tally => hchunk k hk number tally) tally
  have hfinish (tally : Tally) : Ensures (inPass (Chunks.count size fileSize))
      (pure (if run.options.statistics then tally.finishPass else tally) :
        EStateM Fault (Workbench σ) Tally)
      (fun _ => inPass (Chunks.count size fileSize)) fail := Ensures.pure fun _ hdone => hdone
  exact Ensures.bind hchunks hfinish w hw

theorem passes_of_pass
    (hpass : ∀ number tally,
      Ensures between (run.pass fileSize number tally) (fun _ => between) fail)
    (left number : Nat) (tally : Tally) :
    Ensures between (run.passes fileSize left number tally) (fun _ => between) fail := by
  induction left generalizing number tally with
  | zero => exact Ensures.pure fun _ hw => hw
  | succ left ih => exact Ensures.bind (hpass number tally) fun tally => ih (number + 1) tally

/-- What the chunks of a pass keep is kept by a cell, if it is the same before and after a pass. -/
theorem execute_of_chunks
    (hchunk : ∀ k, k < Chunks.count size fileSize → ∀ number tally,
      Ensures (inPass k) (run.chunk number tally (Chunks.lengthAt size fileSize k))
        (fun _ => inPass (k + 1)) fail)
    (hsay : ∀ notice, Ensures between (Workbench.say notice) (fun _ => between) fail)
    (hrewind : Ensures between Workbench.rewind (fun _ => inPass 0) fail)
    (hsize : ∀ w, inPass 0 w → w.buffers.chunkSize = size)
    (hdone : ∀ w, inPass (Chunks.count size fileSize) w → between w) :
    Ensures between (run.execute fileSize) (fun _ => between) fail := by
  have hpass (number : Nat) (tally : Tally) :
      Ensures between (run.pass fileSize number tally) (fun _ => between) fail :=
    (pass_of_chunks hchunk hrewind hsize number tally).mono (fun _ hw => hw) (fun _ => hdone)
      fun _ _ hfails => hfails
  refine Ensures.bind (hsay _) fun _ => Ensures.bind (passes_of_pass hpass _ 0 .empty) fun _ => ?_
  exact Ensures.bind (hsay _) fun _ => Ensures.pure fun _ hw => hw

end Chunks

/-- What holds after both calls for a chunk holds after the chunk. -/
theorem chunk_of_calls {before after : Workbench σ → Prop} {packed : Nat → Workbench σ → Prop}
    {length : Nat} (hbefore : Workbench.Lasting before) (hafter : Workbench.Lasting after)
    (hfail : ∀ fault w, fault.NotOfCall → before w ∨ after w → fail fault w)
    (hcompress : Ensures before (run.compress length) (fun answer => packed answer.1) fail)
    (hdecompress : ∀ size,
      Ensures (packed size) (run.decompress size length) (fun _ => after) fail)
    (number : Nat) (tally : Tally) :
    Ensures before (run.chunk number tally length) (fun _ => after) fail := by
  have hrecord (notice : Notice) (tally' : Tally) : Ensures after
      (Workbench.say notice >>= fun _ =>
        if run.options.statistics then pure tally' else pure tally) (fun _ => after) fail :=
    Ensures.bind (say_lasting hafter notice) fun _ =>
      Ensures.ite (fun _ => Ensures.pure fun _ hw => hw) fun _ => Ensures.pure fun _ hw => hw
  refine Ensures.bind (load_lasting hbefore (fun fault w hother hw => ?_) length) fun _ => ?_
  · exact hfail fault w hother (.inl hw)
  refine Ensures.bind hcompress fun packed => Ensures.bind (hdecompress packed.1) fun decoded => ?_
  refine Ensures.ite (fun _ => ?_) fun _ => hrecord _ _
  refine Ensures.bind (compare_lasting (fun fault w hother hw => ?_) _ _) fun _ => hrecord _ _
  exact hfail fault w hother (.inr hw)

/-- A condition on the calls before chunk `k` of a pass, kept by both calls for it, is kept by a
cell. -/
theorem execute_of_calls {size fileSize : Nat} {between : Workbench σ → Prop}
    {inPass : Nat → Workbench σ → Prop} {packed : Nat → Nat → Workbench σ → Prop}
    (hbetween : Workbench.Lasting between) (hlasting : ∀ k, Workbench.Lasting (inPass k))
    (hfail : ∀ fault w, fault.NotOfCall → between w ∨ (∃ k, inPass k w) → fail fault w)
    (hsize : ∀ w, inPass 0 w → w.buffers.chunkSize = size) (hstart : ∀ w, between w → inPass 0 w)
    (hcompress : ∀ k, k < Chunks.count size fileSize →
      Ensures (inPass k) (run.compress (Chunks.lengthAt size fileSize k))
        (fun answer => packed k answer.1) fail)
    (hdecompress : ∀ k n, k < Chunks.count size fileSize →
      Ensures (packed k n) (run.decompress n (Chunks.lengthAt size fileSize k))
        (fun _ => inPass (k + 1)) fail)
    (hdone : ∀ w, inPass (Chunks.count size fileSize) w → between w) :
    Ensures between (run.execute fileSize) (fun _ => between) fail := by
  have hchunk (k : Nat) (hk : k < Chunks.count size fileSize) (number : Nat) (tally : Tally) :
      Ensures (inPass k) (run.chunk number tally (Chunks.lengthAt size fileSize k))
        (fun _ => inPass (k + 1)) fail := by
    refine chunk_of_calls (hlasting k) (hlasting (k + 1)) (fun fault w hother hw => ?_)
      (hcompress k hk) (fun n => hdecompress k n hk) number tally
    exact hfail fault w hother (.inr (hw.elim (⟨k, ·⟩) (⟨k + 1, ·⟩)))
  have hrewind : Ensures between Workbench.rewind (fun _ => inPass 0) fail := by
    refine (rewind_lasting hbetween fun fault w hother hw => ?_).mono (fun _ hw => hw)
      (fun _ => hstart) fun _ _ hfails => hfails
    exact hfail fault w hother (.inl hw)
  exact execute_of_chunks hchunk (say_lasting hbetween) hrewind hsize hdone

end CellRun

end RoundTrip
