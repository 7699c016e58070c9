import Mathlib.Data.List.Basic
import RoundTrip.Proofs.CellMirror
import RoundTrip.Proofs.ChunkCover
import RoundTrip.Proofs.Reading

/-!
# The calls of a cell

The reference trace of a cell has two calls for every chunk of every pass: one
that compresses exactly the bytes of the chunk into the whole compressed block,
and one that decompresses what that block then holds, up to the reported
length, into room for exactly the chunk.  The calls that a cell makes are a
beginning of the reference trace, and all of it when the cell succeeds.
-/

namespace RoundTrip

/-- What a cell starts from: the input with its chunks, and what the two blocks
for output hold. -/
structure Outset where
  contents : List UInt8
  fileSize : Nat
  size : Nat
  compressed : Region
  decompressed : Region

namespace Outset

/-- The chunks of one pass. -/
def count (o : Outset) : Nat := Chunks.count o.size o.fileSize

def lengthAt (o : Outset) (k : Nat) : Nat := Chunks.lengthAt o.size o.fileSize k

def bytesAt (o : Outset) (k : Nat) : List UInt8 := Chunks.bytesAt o.contents o.size o.fileSize k

/-- Where chunk `k` starts, or the end of the input. -/
def startAt (o : Outset) (k : Nat) : Nat := min (k * o.size) o.fileSize

theorem startAt_zero (o : Outset) : o.startAt 0 = 0 := by
  rw [startAt, Nat.zero_mul, Nat.zero_min]

theorem startAt_eq {o : Outset} {k : Nat} (hk : k < o.count) : o.startAt k = k * o.size :=
  Nat.min_eq_left (Nat.le_of_lt
    ((Chunks.lt_count_iff (Chunks.size_pos_of_lt_count hk) o.fileSize k).mp hk))

theorem startAt_succ {o : Outset} {k : Nat} (hk : k < o.count) :
    o.startAt (k + 1) = o.startAt k + o.lengthAt k := by
  rw [startAt_eq hk]
  exact (Chunks.start_add_lengthAt hk).symm

theorem bytesAt_eq {o : Outset} {k : Nat} (hk : k < o.count) :
    o.bytesAt k = (o.contents.drop (o.startAt k)).take (o.lengthAt k) := by
  rw [startAt_eq hk]
  exact Chunks.bytesAt_eq hk

end Outset

/-- What a workbench lets a cell start from. -/
def Workbench.outset {σ : Type} (w : Workbench σ) (fileSize : Nat) : Outset :=
  ⟨w.input.contents.toList, fileSize, w.buffers.chunkSize, w.buffers.compressed,
    w.buffers.decompressed⟩

namespace CellRun

variable {σ : Type}

/-! ## The reference trace -/

section Reference

variable (run : CellRun σ) (o : Outset)

/-- The call that compresses chunk `k`. -/
def compressCall (k : Nat) : SeenCall where
  entry := run.entry
  request := .compress run.entry.engine run.cell.level run.options.extra
  source := o.bytesAt k
  capacity := min (compressionBound o.size) run.entry.engine.lengthLimit

/-- The length that the latest exchange reported for the compressed block. -/
def packedAfter (past : List Exchange) : Nat :=
  match past.getLast? with
  | none => 0
  | some e =>
      match run.entry.engine.interpret e.reply (compressionBound o.size) with
      | .ok packed => packed
      | .error _ => 0

/-- The call that decompresses chunk `k` after the exchanges in `past`. -/
def decompressCall (past : List Exchange) (k : Nat) : SeenCall where
  entry := run.entry
  request := .decompress run.entry.engine
  source := (replay .compress past o.compressed).toList.take (run.packedAfter o past)
  capacity := o.lengthAt k

/-- All calls of so many passes; what was packed is read off the exchanges. -/
def reference (passes : Nat) (log : List Exchange) : List SeenCall :=
  (List.range passes).flatMap fun pass =>
    (List.range o.count).flatMap fun k =>
      [run.compressCall o k, run.decompressCall o (log.take (2 * (pass * o.count + k) + 1)) k]

/-- The two calls for a chunk, where chunks are counted on from pass to pass. -/
def roundCalls (log : List Exchange) (i : Nat) : List SeenCall :=
  [run.compressCall o (i % o.count), run.decompressCall o (log.take (2 * i + 1)) (i % o.count)]

/-- The calls of the first `n` rounds. -/
def callsUpTo (n : Nat) (log : List Exchange) : List SeenCall :=
  (List.range n).flatMap (run.roundCalls o log)

variable {run o}

theorem callsUpTo_succ (n : Nat) (log : List Exchange) :
    run.callsUpTo o (n + 1) log = run.callsUpTo o n log ++ run.roundCalls o log n := by
  rw [callsUpTo, List.range_succ, List.flatMap_append, List.flatMap_singleton]
  rfl

theorem reference_eq_callsUpTo (passes : Nat) (log : List Exchange) :
    run.reference o passes log = run.callsUpTo o (passes * o.count) log := by
  induction passes with
  | zero => simp [reference, callsUpTo]
  | succ passes ih =>
      rw [reference, List.range_succ, List.flatMap_append, List.flatMap_singleton, Nat.succ_mul,
        callsUpTo, List.range_add, List.flatMap_append, List.flatMap_map]
      refine congr (congrArg _ ih) (List.flatMap_congr fun k hk => ?_)
      rw [roundCalls, Nat.mul_add_mod_of_lt (List.mem_range.mp hk)]

theorem callsUpTo_mono {n m : Nat} (hle : n ≤ m) (log : List Exchange) :
    run.callsUpTo o n log <+: run.callsUpTo o m log := by
  obtain ⟨extra, rfl⟩ := Nat.exists_eq_add_of_le hle
  rw [callsUpTo, callsUpTo, List.range_add, List.flatMap_append]
  exact List.prefix_append _ _

theorem length_callsUpTo (n : Nat) (log : List Exchange) :
    (run.callsUpTo o n log).length = 2 * n := by
  induction n with
  | zero => rfl
  | succ n ih =>
      rw [callsUpTo_succ, List.length_append, ih]
      rfl

/-- The two calls of round `i`, by their places. -/
theorem getElem?_callsUpTo {n i : Nat} (hi : i < n) (log : List Exchange) :
    (run.callsUpTo o n log)[2 * i]? = some (run.compressCall o (i % o.count)) ∧
      (run.callsUpTo o n log)[2 * i + 1]? =
        some (run.decompressCall o (log.take (2 * i + 1)) (i % o.count)) := by
  induction n with
  | zero => exact absurd hi (Nat.not_lt_zero i)
  | succ n ih =>
      have hlength : (run.callsUpTo o n log).length = 2 * n := length_callsUpTo n log
      rw [callsUpTo_succ]
      rcases Nat.lt_or_eq_of_le (Nat.le_of_lt_succ hi) with hlt | rfl
      · rw [List.getElem?_append_left (by omega), List.getElem?_append_left (by omega)]
        exact ih hlt
      · rw [List.getElem?_append_right (by omega), List.getElem?_append_right (by omega), hlength,
          Nat.sub_self, Nat.add_sub_cancel_left]
        exact ⟨rfl, rfl⟩

/-- The calls of a round depend on the exchanges before it only. -/
theorem callsUpTo_append {n : Nat} {log : List Exchange} (hlength : 2 * n ≤ log.length)
    (more : List Exchange) :
    run.callsUpTo o n (log ++ more) = run.callsUpTo o n log := by
  refine List.flatMap_congr fun i hi => ?_
  have hi := List.mem_range.mp hi
  rw [roundCalls, roundCalls, List.take_append_of_le_length (by omega)]

theorem callsUpTo_concat {n : Nat} {log : List Exchange} (hlength : log.length = 2 * n)
    (c d : Exchange) :
    run.callsUpTo o (n + 1) (log ++ [c, d]) =
      run.callsUpTo o n log ++
        [run.compressCall o (n % o.count), run.decompressCall o (log ++ [c]) (n % o.count)] := by
  rw [callsUpTo_succ, callsUpTo_append (Nat.le_of_eq hlength.symm), roundCalls, ← hlength,
    List.take_length_add_append]
  rfl

end Reference

/-! ## Logs that keep to the reference trace -/

/-- A log of `n` whole rounds; every chunk in them was read in full. -/
structure Traced (run : CellRun σ) (o : Outset) (n : Nat) (log : List Exchange) : Prop where
  length : log.length = 2 * n
  seen : log.map (fun e => e.call.seen) = run.callsUpTo o n log
  full : ∀ i < n, (o.bytesAt (i % o.count)).length = o.lengthAt (i % o.count)

/-- A log that is a beginning of the reference trace; every chunk that was
passed on was read in full. -/
structure Conforms (run : CellRun σ) (o : Outset) (passes : Nat) (log : List Exchange) : Prop where
  seen : log.map (fun e => e.call.seen) <+: run.reference o passes log
  full : ∀ i, 2 * i < log.length → (o.bytesAt (i % o.count)).length = o.lengthAt (i % o.count)

/-- Whatever is compressed is a whole chunk of the input. -/
theorem Conforms.exists_chunk {run : CellRun σ} {o : Outset} {passes : Nat} {log : List Exchange}
    (hconforms : Conforms run o passes log) {call : SeenCall}
    (hcall : call ∈ log.map fun e => e.call.seen)
    (hdirection : call.request.direction = .compress) :
    ∃ k, k < o.count ∧ call = run.compressCall o k ∧ (o.bytesAt k).length = o.lengthAt k := by
  obtain ⟨j, hj⟩ := List.mem_iff_getElem?.mp hcall
  obtain ⟨hlog, hget⟩ := List.getElem?_eq_some_iff.mp hj
  have hsame := List.prefix_iff_getElem?.mp hconforms.seen j hlog
  rw [hget, reference_eq_callsUpTo] at hsame
  rw [List.length_map] at hlog
  have hbound := (List.getElem?_eq_some_iff.mp hsame).1
  rw [length_callsUpTo] at hbound
  obtain ⟨i, rfl | rfl⟩ : ∃ i, j = 2 * i ∨ j = 2 * i + 1 := ⟨j / 2, by omega⟩
  · have hi : i < passes * o.count := by omega
    have hcount : 0 < o.count := Nat.pos_of_mul_pos_left (Nat.zero_lt_of_lt hi)
    rw [(getElem?_callsUpTo hi log).1] at hsame
    exact ⟨i % o.count, Nat.mod_lt i hcount, (Option.some.inj hsame).symm,
      hconforms.full i hlog⟩
  · rw [(getElem?_callsUpTo (show i < passes * o.count by omega) log).2] at hsame
    obtain rfl := Option.some.inj hsame
    rw [decompressCall, Request.direction_decompress] at hdirection
    contradiction

namespace Traced

variable {run : CellRun σ} {o : Outset} {n passes : Nat} {log : List Exchange}

theorem zero (run : CellRun σ) (o : Outset) : Traced run o 0 [] :=
  ⟨rfl, rfl, fun _ hi => absurd hi (Nat.not_lt_zero _)⟩

theorem conforms (htraced : Traced run o n log) (hn : n ≤ passes * o.count) :
    Conforms run o passes log := by
  constructor
  · rw [htraced.seen, reference_eq_callsUpTo]
    exact callsUpTo_mono hn log
  · intro i hi
    rw [htraced.length] at hi
    exact htraced.full i (by omega)

/-- A log that ends within a round. -/
theorem conforms_compress (htraced : Traced run o n log) (hn : n < passes * o.count)
    {c : Exchange} (hseen : c.call.seen = run.compressCall o (n % o.count))
    (hfull : (o.bytesAt (n % o.count)).length = o.lengthAt (n % o.count)) :
    Conforms run o passes (log ++ [c]) := by
  constructor
  · rw [List.map_append, htraced.seen, ← callsUpTo_append (Nat.le_of_eq htraced.length.symm) [c],
      List.map_singleton, hseen, reference_eq_callsUpTo]
    refine List.IsPrefix.trans ?_ (callsUpTo_mono hn _)
    rw [callsUpTo_succ, roundCalls]
    exact List.prefix_append_right_inj _ |>.mpr (List.prefix_append [_] [_])
  · intro i hi
    rw [List.length_append, htraced.length, List.length_singleton] at hi
    rcases Nat.lt_or_eq_of_le (show i ≤ n by omega) with hlt | rfl
    · exact htraced.full i hlt
    · exact hfull

theorem succ (htraced : Traced run o n log) {c d : Exchange}
    (hcompress : c.call.seen = run.compressCall o (n % o.count))
    (hdecompress : d.call.seen = run.decompressCall o (log ++ [c]) (n % o.count))
    (hfull : (o.bytesAt (n % o.count)).length = o.lengthAt (n % o.count)) :
    Traced run o (n + 1) (log ++ [c, d]) := by
  refine ⟨?_, ?_, fun i hi => ?_⟩
  · rw [List.length_append, htraced.length]
    rfl
  · rw [List.map_append, htraced.seen, callsUpTo_concat htraced.length, ← hcompress,
      ← hdecompress]
    rfl
  · rcases Nat.lt_or_eq_of_le (Nat.le_of_lt_succ hi) with hlt | rfl
    · exact htraced.full i hlt
    · exact hfull

end Traced

end CellRun
end RoundTrip
