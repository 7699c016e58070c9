import RoundTrip.Native.StandIn
import RoundTrip.Proofs.CellRounds

/-!
# What a cell passes to its engine

The calls of a cell are a beginning of the reference trace, whatever the engine
and the input do.  A cell that succeeds has made all of them: every pass takes
the input once, chunk by chunk, and only the last chunk may be shorter.
-/

namespace RoundTrip

/-- The chunks of one pass take every byte of the input once. -/
structure Outset.TakesOnce (o : Outset) : Prop where
  available : o.fileSize ≤ o.contents.length
  whole : (List.range o.count).flatMap o.bytesAt = o.contents.take o.fileSize
  once : ∀ offset, offset < o.fileSize →
    ∃ k, Chunks.Covers o.size o.fileSize k offset ∧
      ∀ j, Chunks.Covers o.size o.fileSize j offset → j = k
  shorter : ∀ k, k + 1 < o.count → (o.bytesAt k).length = o.size

namespace CellRun

variable {σ : Type}

/-- The exchanges of a cell, where `done` says that it succeeded. -/
structure Passed (run : CellRun σ) (o : Outset) (passes : Nat) (done : Prop)
    (log : List Exchange) : Prop where
  /-- The calls are a beginning of the reference trace. -/
  seen : log.map (fun e => e.call.seen) <+: run.reference o passes log
  /-- Whatever is compressed is a whole chunk of the input, and not empty. -/
  compressed : ∀ e ∈ log, e.call.request.direction = .compress →
    ∃ k, k < o.count ∧ e.call.seen = run.compressCall o k ∧
      e.call.source.size = o.lengthAt k ∧ 0 < o.lengthAt k
  /-- A cell that succeeds has made all calls. -/
  complete : done → log.map (fun e => e.call.seen) = run.reference o passes log
  /-- And each of its passes takes every byte of the input once. -/
  covered : done → 0 < passes → o.TakesOnce

theorem Conforms.compressed {run : CellRun σ} {o : Outset} {passes : Nat} {log : List Exchange}
    (hconforms : Conforms run o passes log) {e : Exchange} (he : e ∈ log)
    (hdirection : e.call.request.direction = .compress) :
    ∃ k, k < o.count ∧ e.call.seen = run.compressCall o k ∧
      e.call.source.size = o.lengthAt k ∧ 0 < o.lengthAt k := by
  obtain ⟨k, hk, hseen, hfull⟩ :=
    hconforms.exists_chunk (List.mem_map_of_mem he) (show e.call.seen.request.direction = _ from
      hdirection)
  have hsource : e.call.source.toList = o.bytesAt k := congrArg SeenCall.source hseen
  refine ⟨k, hk, hseen, ?_, Chunks.lengthAt_pos hk⟩
  rw [← hfull, ← hsource, Region.length_toList]

/-- Whole passes can only be made over an input that is long enough. -/
theorem Traced.takesOnce {run : CellRun σ} {o : Outset} {passes : Nat} {log : List Exchange}
    (htraced : Traced run o (passes * o.count) log) (hsize : 0 < o.size) (hpasses : 0 < passes) :
    o.TakesOnce := by
  have hfull (k : Nat) (hk : k < o.count) : (o.bytesAt k).length = o.lengthAt k := by
    have hround := htraced.full k (Nat.lt_of_lt_of_le hk (Nat.le_mul_of_pos_left _ hpasses))
    rwa [Nat.mod_eq_of_lt hk] at hround
  refine ⟨Nat.le_of_not_lt fun hshort => ?_, Chunks.flatMap_bytesAt_count hsize,
    fun offset hoffset => Chunks.covers_unique hsize hoffset, fun k hk => ?_⟩
  · -- the chunk with the first byte that is missing was read in full
    obtain ⟨k, ⟨hk, hstart, hstop⟩, -⟩ := Chunks.covers_unique hsize hshort
    have hlength := hfull k hk
    rw [Outset.bytesAt_eq hk, Outset.startAt_eq hk, List.length_take, List.length_drop] at hlength
    change o.contents.length < k * o.size + o.lengthAt k at hstop
    omega
  · rw [hfull k (Nat.lt_of_succ_lt hk)]
    exact Chunks.lengthAt_eq_size hk

/-- Whatever the engine and the input do, the calls of a cell keep to the reference trace. -/
theorem calls_of_execute (run : CellRun σ) (fileSize : Nat) (w : Workbench σ)
    (hsize : 0 < w.buffers.chunkSize) :
    ∃ log, run.recorded.execute fileSize (w.recorded []) =
        mapState (Workbench.recorded log) (run.execute fileSize w) ∧
      run.Passed (w.outset fileSize) run.options.iterations.toNat
        (∃ tally after, run.execute fileSize w = .ok tally after) log := by
  obtain ⟨log, hrecorded⟩ := run.execute_recorded fileSize w []
  have hworking : Working (w.outset fileSize) [] [] (w.recorded []) := ⟨rfl, rfl, rfl, rfl, rfl⟩
  refine ⟨log, hrecorded, ?_⟩
  cases hrun : run.execute fileSize w with
  | ok tally after =>
      rw [hrun] at hrecorded
      obtain ⟨log', hafter, hrounds, -⟩ := (execute_ensures rfl).of_ok hworking hrecorded
      obtain rfl : log = log' := hafter.record
      have htraced := hrounds.traced
      rw [Nat.add_zero] at htraced
      have hconforms := htraced.conforms (Nat.le_refl _)
      refine ⟨hconforms.seen, fun e => hconforms.compressed, fun _ => ?_, fun _ => ?_⟩
      · rw [htraced.seen, reference_eq_callsUpTo]
      · exact htraced.takesOnce hsize
  | error fault after =>
      rw [hrun] at hrecorded
      obtain ⟨log', hafter, hconforms⟩ := (execute_ensures rfl).of_error hworking hrecorded
      obtain rfl : log = log' := hafter.record
      refine ⟨hconforms.seen, fun e => hconforms.compressed, ?_, ?_⟩
      · rintro ⟨tally, after, hok⟩
        contradiction
      · rintro ⟨tally, after, hok⟩
        contradiction

/-- Two passes of a stand-in engine over three bytes in chunks of at most two. -/
theorem calls_of_execute_standIn :
    let run : CellRun Unit :=
      ⟨StandIn.native, ⟨.lz4hc, .process⟩, ⟨"", .lz4hc, 3, "input"⟩, ⟨2, true, true, 0⟩⟩
    let w : Workbench Unit := ⟨.ofThreshold 0, (), .ofList [1, 2, 3], .ofChunkSize 2⟩
    0 < w.buffers.chunkSize ∧
      ∃ log,
        run.recorded.execute 3 (w.recorded []) =
            mapState (Workbench.recorded log) (run.execute 3 w) ∧
        run.Passed (w.outset 3) 2 (∃ tally after, run.execute 3 w = .ok tally after) log :=
  ⟨by decide, calls_of_execute _ 3 _ (by decide)⟩

end CellRun
end RoundTrip
