import RoundTrip.Proofs.CellConditions
import RoundTrip.Proofs.Exchange
import RoundTrip.Proofs.Reading
import RoundTrip.Proofs.StepLogic
import RoundTrip.Cell

/-!
# Cells of lossless engines

An engine is lossless if it gives back every block that is not empty, provided
that it is offered the usual room.  What a run offers is the room of the blocks:
the compressed block is always large enough, no length is cut to the engine's
type of lengths, and no empty chunk is ever passed on.  So every cell of a
lossless engine is completed.
-/

namespace RoundTrip

variable {σ : Type}

/-! ## The contract -/

/-- To decompress these bytes gives back the source, and reports its length. -/
def Native.Restores (native : Native σ) (good : σ → Prop) (entry : EntryPoints)
    (source packed : List UInt8) : Prop :=
  ∀ s, good s → ∀ block : Region, block.toList = packed →
    ∃ reply t,
      native ⟨entry, .decompress entry.engine, block, source.length⟩ s = (reply, t) ∧ good t ∧
      entry.engine.interpret reply source.length = .ok source.length ∧
      ∀ room : Region, source.length ≤ room.size →
        (reply.apply source.length room).toList.take source.length = source

/-- With a sixth of its length and the least pad to spare, every source that is not empty is
compressed to some bytes, from which it is restored.  `good` is what the engine keeps of its
own state. -/
def Native.Lossless (native : Native σ) (good : σ → Prop) (entry : EntryPoints)
    (level extra : Int) : Prop :=
  ∀ s, good s → ∀ (source : Region) (capacity : Nat), 0 < source.size →
    source.size + source.size / 6 + minPad ≤ capacity → capacity ≤ entry.engine.lengthLimit →
    ∃ reply t n,
      native ⟨entry, .compress entry.engine level extra, source, capacity⟩ s = (reply, t) ∧
      good t ∧ entry.engine.interpret reply capacity = .ok n ∧ 0 < n ∧
      ∀ room : Region, capacity ≤ room.size →
        native.Restores good entry source.toList ((reply.apply capacity room).toList.take n)

/-! ## Records of the exchanges -/

theorem Native.recorded_eq {native : Native σ} {call : NativeCall} {s : σ × List Exchange}
    {reply : Reply} {t : σ} (hcall : native call s.1 = (reply, t)) :
    native.recorded call s = (reply, t, s.2 ++ [⟨call, reply⟩]) := by
  simp only [recorded, hcall]

/-- An engine restores what it did, whether or not its exchanges are kept. -/
theorem Native.Restores.recorded {native : Native σ} {good : σ → Prop} {entry : EntryPoints}
    {source packed : List UInt8} (hrestores : native.Restores good entry source packed) :
    native.recorded.Restores (fun s => good s.1) entry source packed := by
  intro s hs block hblock
  obtain ⟨reply, t, hcall, hgood, hrestored⟩ := hrestores s.1 hs block hblock
  exact ⟨reply, _, Native.recorded_eq hcall, hgood, hrestored⟩

theorem Native.Lossless.recorded {native : Native σ} {good : σ → Prop} {entry : EntryPoints}
    {level extra : Int} (hlossless : native.Lossless good entry level extra) :
    native.recorded.Lossless (fun s => good s.1) entry level extra := by
  intro s hs source capacity hpos hroom hlimit
  obtain ⟨reply, t, n, hcall, hgood, hreported, hsome, hrestores⟩ :=
    hlossless s.1 hs source capacity hpos hroom hlimit
  refine ⟨reply, _, n, Native.recorded_eq hcall, hgood, hreported, hsome, ?_⟩
  exact fun room hle => (hrestores room hle).recorded

/-! ## The room that is offered -/

/-- The greatest chunk for which no length is cut: one gibibyte. -/
def greatestChunk : Nat := 0x40000000

/-- The compressed form of such a chunk has its full share and the pad, in every engine's type of
lengths. -/
theorem compressionBound_eq {size : Nat} (hsize : size ≤ greatestChunk) (e : Engine) :
    compressionBound size = size + size / 6 + minPad ∧ compressionBound size ≤ e.lengthLimit := by
  have hlimit : 0x7FFFFFFF ≤ e.lengthLimit := by cases e <;> decide
  simp only [compressionBound, minPad, greatestChunk] at hsize ⊢
  omega

/-- A call whose lengths fit the engine's type of lengths is made as it is. -/
theorem EntryPoints.perform_eq {native : Native σ} {entry : EntryPoints} {request : Request}
    {source destination : Region} {room : Nat} {s t : σ} {reply : Reply}
    (hsource : source.size ≤ entry.engine.lengthLimit) (hroom : room ≤ entry.engine.lengthLimit)
    (hcall : native ⟨entry, request, source, room⟩ s = (reply, t)) :
    perform native entry request source destination room s =
      (⟨entry.engine.interpret reply room, reply.apply room destination, reply.span⟩, t) := by
  rw [perform, if_neg (Nat.not_lt_of_le hsource), Nat.min_eq_left hroom]
  simp only [hcall]

namespace CellRun

/-- The input delivers the file, the blocks take chunks of `size` bytes, and the engine's state is
as it should be. -/
structure Ready (good : σ → Prop) (fileSize size : Nat) (w : Workbench σ) : Prop where
  input : w.input.Delivers fileSize
  chunkSize : w.buffers.chunkSize = size
  native : good w.native

/-- What the console shows is of no concern. -/
theorem Ready.silent {good : σ → Prop} {fileSize size : Nat} {w : Workbench σ}
    (hready : Ready good fileSize size w) (console : Console) :
    Ready good fileSize size { w with console := console } :=
  ⟨hready.input, hready.chunkSize, hready.native⟩

section Steps

variable {run : CellRun σ} {good : σ → Prop} {fileSize size position length : Nat}

/-! ## One step after another -/

/-- Ready, with the input at this position. -/
def ReadyAt (good : σ → Prop) (fileSize size position : Nat) (w : Workbench σ) : Prop :=
  Ready good fileSize size w ∧ w.input.position = position

theorem say_ready (notice : Notice) {P : Workbench σ → Prop}
    (hsilent : ∀ w console, P w → P { w with console := console })
    {fail : Fault → Workbench σ → Prop} :
    Ensures P (Workbench.say notice) (fun _ => P) fail :=
  fun w hw => hsilent w _ hw

theorem rewind_ready :
    Ensures (Ready good fileSize size) Workbench.rewind
      (fun _ => ReadyAt good fileSize size 0) (fun _ _ => False) := by
  rintro ⟨console, native, input, buffers⟩ ⟨hinput, hsize, hnative⟩
  obtain ⟨after, hrewind, hdelivers⟩ := hinput.rewind
  obtain ⟨-, hposition⟩ := Input.rewind_ok hrewind
  simp only [Workbench.rewind, hrewind]
  exact ⟨⟨hdelivers, hsize, hnative⟩, hposition⟩

theorem load_ready (hahead : position + length ≤ fileSize) :
    Ensures (ReadyAt good fileSize size position) (Workbench.load length)
      (fun _ => ReadyAt good fileSize size (position + length)) (fun _ _ => False) := by
  rintro ⟨console, native, input, buffers⟩ ⟨⟨hinput, hsize, hnative⟩, rfl⟩
  obtain ⟨bytes, after, hread, hdelivers⟩ := hinput.readExact hahead
  obtain ⟨-, hposition, -, -⟩ := Input.readExact_ok hread
  simp only [Workbench.load, hread]
  exact ⟨⟨hdelivers, (Buffers.chunkSize_load buffers bytes).trans hsize, hnative⟩, hposition⟩

/-- The compressed block begins with bytes from which the chunk is restored. -/
def Holding (run : CellRun σ) (good : σ → Prop) (length packed : Nat) (w : Workbench σ) : Prop :=
  run.native.Restores good run.entry (w.buffers.input.take length).toList
    (w.buffers.compressed.take packed).toList

theorem compress_ready (hsize : size ≤ greatestChunk) (hpos : 0 < length) (hle : length ≤ size)
    (hlossless : run.native.Lossless good run.entry run.cell.level run.options.extra) :
    Ensures (ReadyAt good fileSize size position) (run.compress length)
      (fun answer w => ReadyAt good fileSize size position w ∧ run.Holding good length answer.1 w)
      (fun _ _ => False) := by
  rintro ⟨console, native, input, buffers⟩ ⟨⟨hinput, hchunk, hnative⟩, hposition⟩
  obtain ⟨hbound, hlimit⟩ := compressionBound_eq hsize run.entry.engine
  have hroom : buffers.compressed.size = compressionBound size := by
    rw [buffers.size_compressed]
    exact congrArg compressionBound hchunk
  have hsource : (buffers.input.take length).size = length := by
    rw [Region.size_take]
    exact Nat.min_eq_left (Nat.le_trans hle (Nat.le_of_eq hchunk.symm))
  obtain ⟨reply, after, packed, hcall, hgood, hreported, -, hrestores⟩ :=
    hlossless native hnative (buffers.input.take length) (compressionBound size)
      (by omega) (by omega) hlimit
  have hrun : run.entry.compress run.native run.cell.level run.options.extra
      (buffers.input.take length) buffers.compressed native =
        (⟨.ok packed, reply.apply (compressionBound size) buffers.compressed, reply.span⟩,
          after) := by
    rw [EntryPoints.compress, hroom, EntryPoints.perform_eq (by omega) hlimit hcall, hreported]
  simp only [CellRun.compress, hrun]
  refine ⟨⟨⟨hinput, hchunk, hgood⟩, hposition⟩, ?_⟩
  have hheld := hrestores buffers.compressed (Nat.le_of_eq hroom.symm)
  rwa [← Region.toList_take] at hheld

theorem decompress_ready {packed : Nat} (hsize : size ≤ greatestChunk) (hle : length ≤ size) :
    Ensures
      (fun w => ReadyAt good fileSize size position w ∧ run.Holding good length packed w)
      (run.decompress packed length)
      (fun answer w => ReadyAt good fileSize size position w ∧ answer.1 = length ∧
        (w.buffers.decompressed.take length).toList = (w.buffers.input.take length).toList)
      (fun _ _ => False) := by
  rintro ⟨console, native, input, buffers⟩ ⟨⟨⟨hinput, hchunk, hnative⟩, hposition⟩, hheld⟩
  obtain ⟨hbound, hlimit⟩ := compressionBound_eq hsize run.entry.engine
  have hroom : buffers.compressed.size = compressionBound size := by
    rw [buffers.size_compressed]
    exact congrArg compressionBound hchunk
  have hblock : buffers.decompressed.size = size := buffers.size_decompressed.trans hchunk
  have hlength : (buffers.input.take length).toList.length = length := by
    rw [Region.length_toList, Region.size_take]
    exact Nat.min_eq_left (Nat.le_trans hle (Nat.le_of_eq hchunk.symm))
  have hpacked : (buffers.compressed.take packed).size ≤ run.entry.engine.lengthLimit := by
    rw [Region.size_take]
    omega
  obtain ⟨reply, after, hcall, hgood, hreported, hrestored⟩ := hheld native hnative _ rfl
  simp only [hlength] at hcall hreported hrestored
  have hrun : run.entry.decompress run.native (buffers.compressed.take packed)
      buffers.decompressed length native =
        (⟨.ok length, reply.apply length buffers.decompressed, reply.span⟩, after) := by
    rw [EntryPoints.decompress, EntryPoints.perform_eq hpacked (by omega) hcall, hreported]
  simp only [CellRun.decompress, hrun]
  refine ⟨⟨⟨hinput, hchunk, hgood⟩, hposition⟩, trivial, ?_⟩
  rw [Region.toList_take]
  exact hrestored buffers.decompressed (by omega)

theorem compare_ready :
    Ensures
      (fun w => ReadyAt good fileSize size position w ∧
        (w.buffers.decompressed.take length).toList = (w.buffers.input.take length).toList)
      (run.compare length length) (fun _ => ReadyAt good fileSize size position)
      (fun _ _ => False) := by
  rintro w ⟨hready, hsame⟩
  have hverify : verify (w.buffers.input.take length).toList
      (w.buffers.decompressed.take length).toList = .ok () := verify_eq_ok_iff.mpr hsame.symm
  simp only [CellRun.compare, hverify]
  exact hready

/-! ## A chunk, a pass, the run -/

/-- Where chunk `k` starts, or the end of the file. -/
def startOf (size fileSize k : Nat) : Nat := min (k * size) fileSize

theorem startOf_succ {k : Nat} (hk : k < Chunks.count size fileSize) :
    startOf size fileSize (k + 1) =
      startOf size fileSize k + Chunks.lengthAt size fileSize k := by
  have hstart := (Chunks.lt_count_iff (Chunks.size_pos_of_lt_count hk) fileSize k).mp hk
  rw [startOf, startOf, Nat.min_eq_left (Nat.le_of_lt hstart), Chunks.start_add_lengthAt hk]

theorem chunk_ready (hsize : size ≤ greatestChunk)
    (hlossless : run.native.Lossless good run.entry run.cell.level run.options.extra)
    {k : Nat} (hk : k < Chunks.count size fileSize) (number : Nat) (tally : Tally) :
    Ensures (ReadyAt good fileSize size (startOf size fileSize k))
      (run.chunk number tally (Chunks.lengthAt size fileSize k))
      (fun _ => ReadyAt good fileSize size (startOf size fileSize (k + 1)))
      (fun _ _ => False) := by
  have hpos := Chunks.lengthAt_pos hk
  have hle := Chunks.lengthAt_le size fileSize k
  have hrecord (notice : Notice) (tally' : Tally) :
      Ensures (ReadyAt good fileSize size (startOf size fileSize (k + 1)))
        (Workbench.say notice >>= fun _ =>
          if run.options.statistics then pure tally' else pure tally :
            EStateM Fault (Workbench σ) Tally)
        (fun _ => ReadyAt good fileSize size (startOf size fileSize (k + 1)))
        (fun _ _ => False) := by
    refine Ensures.bind (say_ready notice fun _ console hready =>
      ⟨hready.1.silent console, hready.2⟩) fun _ => ?_
    refine Ensures.ite (fun _ => ?_) fun _ => ?_
    · exact Ensures.pure fun _ hready => hready
    · exact Ensures.pure fun _ hready => hready
  have hahead : startOf size fileSize k + Chunks.lengthAt size fileSize k ≤ fileSize := by
    rw [← startOf_succ hk]
    exact Nat.min_le_right _ _
  rw [startOf_succ hk] at hrecord ⊢
  refine Ensures.bind (load_ready hahead) fun _ => ?_
  refine Ensures.bind (compress_ready hsize hpos hle hlossless) fun packed => ?_
  refine Ensures.bind (decompress_ready hsize hle) fun decoded => ?_
  refine Ensures.ite (fun _ => ?_) fun _ => ?_
  · rintro w ⟨hready, hlength, hsame⟩
    rw [hlength]
    exact Ensures.bind compare_ready (fun _ => hrecord _ _) w ⟨hready, hsame⟩
  · exact (hrecord _ _).mono (fun _ hdone => hdone.1) (fun _ _ hready => hready)
      fun _ _ himpossible => himpossible

/-- A cell of a lossless engine is completed. -/
theorem execute_ready (hsize : size ≤ greatestChunk)
    (hlossless : run.native.Lossless good run.entry run.cell.level run.options.extra) :
    Ensures (Ready good fileSize size) (run.execute fileSize)
      (fun _ => Ready good fileSize size) (fun _ _ => False) := by
  have hrewind : Ensures (Ready good fileSize size) Workbench.rewind
      (fun _ => ReadyAt good fileSize size (startOf size fileSize 0)) (fun _ _ => False) := by
    rw [startOf, Nat.zero_mul, Nat.zero_min]
    exact rewind_ready
  exact execute_of_chunks (fun k hk => chunk_ready hsize hlossless hk)
    (fun notice => say_ready notice fun _ console hready => hready.silent console) hrewind
    (fun _ hready => hready.1.chunkSize) fun _ hdone => hdone.1

end Steps
end CellRun
end RoundTrip
