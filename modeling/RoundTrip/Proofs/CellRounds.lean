import RoundTrip.Proofs.CallTrace

/-!
# The rounds of a cell

A cell makes one round for every chunk of every pass: it loads the chunk, has
it compressed and decompressed, and compares where that is wanted.  The
invariant between rounds ties the input, the blocks and the totals to the
exchanges so far.  Every round keeps it, and so does every pass and the run;
a run that stops leaves exchanges that keep to the reference trace.
-/

namespace RoundTrip

namespace CellRun

variable {σ : Type}

/-! ## What holds at every point -/

/-- The input and the blocks after the exchanges in `log`, which were recorded
behind those in `base`. -/
structure Working (o : Outset) (base log : List Exchange)
    (w : Workbench (σ × List Exchange)) : Prop where
  contents : w.input.contents.toList = o.contents
  size : w.buffers.chunkSize = o.size
  record : w.native.2 = base ++ log
  compressed : w.buffers.compressed = replay .compress log o.compressed
  decompressed : w.buffers.decompressed = replay .decompress log o.decompressed

/-- One more exchange, which changed the blocks as its reply says. -/
theorem Working.concat {o : Outset} {base log : List Exchange}
    {w v : Workbench (σ × List Exchange)} {c : Exchange} (hworking : Working o base log w)
    (hinput : v.input = w.input) (hsize : v.buffers.chunkSize = w.buffers.chunkSize)
    (hrecord : v.native.2 = w.native.2 ++ [c])
    (hcompressed : v.buffers.compressed = replay .compress [c] w.buffers.compressed)
    (hdecompressed : v.buffers.decompressed = replay .decompress [c] w.buffers.decompressed) :
    Working o base (log ++ [c]) v := by
  refine ⟨?_, hsize.trans hworking.size, ?_, ?_, ?_⟩
  · rw [hinput]
    exact hworking.contents
  · rw [hrecord, hworking.record, List.append_assoc]
  · rw [hcompressed, hworking.compressed, ← replay_append]
  · rw [hdecompressed, hworking.decompressed, ← replay_append]

/-- The input may move, as long as its contents stay. -/
theorem Working.moved {o : Outset} {base log : List Exchange}
    {w : Workbench (σ × List Exchange)} (hworking : Working o base log w) {input : Input}
    (hcontents : input.contents = w.input.contents) :
    Working o base log { w with input := input } := by
  refine ⟨?_, hworking.size, hworking.record, hworking.compressed, hworking.decompressed⟩
  rw [← hworking.contents]
  exact congrArg Array.toList hcontents

theorem Working.silent {o : Outset} {base log : List Exchange}
    {w : Workbench (σ × List Exchange)} (hworking : Working o base log w) (console : Console) :
    Working o base log { w with console := console } :=
  ⟨hworking.contents, hworking.size, hworking.record, hworking.compressed, hworking.decompressed⟩

/-- A chunk is in the input block and the position is behind it. -/
structure Loaded (o : Outset) (k : Nat) (w : Workbench (σ × List Exchange)) : Prop where
  position : w.input.position = o.startAt (k + 1)
  source : (w.buffers.input.take (o.lengthAt k)).toList = o.bytesAt k
  full : (o.bytesAt k).length = o.lengthAt k

/-- Round `i` consists of the exchanges `c` and `d`, and both calls succeeded. -/
structure RoundAt (run : CellRun σ) (o : Outset) (log : List Exchange) (i : Nat)
    (c d : Exchange) : Prop where
  compress_at : log[2 * i]? = some c
  decompress_at : log[2 * i + 1]? = some d
  compress_seen : c.call.seen = run.compressCall o (i % o.count)
  decompress_seen :
    d.call.seen = run.decompressCall o (log.take (2 * i + 1)) (i % o.count)
  compress_ok : ∃ packed,
    run.entry.engine.interpret c.reply (compressionBound o.size) = .ok packed
  decompress_ok : ∃ decoded,
    run.entry.engine.interpret d.reply (o.lengthAt (i % o.count)) = .ok decoded
  verified : run.options.verify = true →
    run.entry.engine.interpret d.reply (o.lengthAt (i % o.count)) =
        .ok (o.lengthAt (i % o.count)) ∧
      (replay .decompress (log.take (2 * i + 2)) o.decompressed).toList.take
        (o.lengthAt (i % o.count)) = o.bytesAt (i % o.count)

theorem RoundAt.append {run : CellRun σ} {o : Outset} {log : List Exchange} {i : Nat}
    {c d : Exchange} (hround : RoundAt run o log i c d) (more : List Exchange) :
    RoundAt run o (log ++ more) i c d := by
  have hlength : 2 * i + 2 ≤ log.length := by
    have := (List.getElem?_eq_some_iff.mp hround.decompress_at).1
    omega
  refine ⟨?_, ?_, hround.compress_seen, ?_, hround.compress_ok, hround.decompress_ok, ?_⟩
  · rw [List.getElem?_append_left (by omega)]
    exact hround.compress_at
  · rw [List.getElem?_append_left (by omega)]
    exact hround.decompress_at
  · rw [List.take_append_of_le_length (by omega)]
    exact hround.decompress_seen
  · rw [List.take_append_of_le_length hlength]
    exact hround.verified

/-- A log of `n` rounds that succeeded. -/
structure Rounds (run : CellRun σ) (o : Outset) (n : Nat) (log : List Exchange) : Prop where
  traced : Traced run o n log
  each : ∀ i < n, ∃ c d, RoundAt run o log i c d

/-- The exchange `c` compressed chunk `k` and reported `packed` bytes. -/
structure Packed (run : CellRun σ) (o : Outset) (k : Nat) (c : Exchange) (packed : Nat) :
    Prop where
  seen : c.call.seen = run.compressCall o k
  reported : run.entry.engine.interpret c.reply (compressionBound o.size) = .ok packed
  fits : o.lengthAt k ≤ run.entry.engine.lengthLimit

theorem Rounds.succ {run : CellRun σ} {o : Outset} {n : Nat} {log : List Exchange}
    (hrounds : Rounds run o n log) {c d : Exchange} {packed decoded : Nat}
    (hfull : (o.bytesAt (n % o.count)).length = o.lengthAt (n % o.count))
    (hpacked : Packed run o (n % o.count) c packed)
    (hseen : d.call.seen = run.decompressCall o (log ++ [c]) (n % o.count))
    (hreported : run.entry.engine.interpret d.reply (o.lengthAt (n % o.count)) = .ok decoded)
    (hverified : run.options.verify = true →
      decoded = o.lengthAt (n % o.count) ∧
        (replay .decompress (log ++ [c, d]) o.decompressed).toList.take
          (o.lengthAt (n % o.count)) = o.bytesAt (n % o.count)) :
    Rounds run o (n + 1) (log ++ [c, d]) := by
  have hlength := hrounds.traced.length
  refine ⟨hrounds.traced.succ hpacked.seen hseen hfull, ?_⟩
  intro i hi
  rcases Nat.lt_or_eq_of_le (Nat.le_of_lt_succ hi) with hlt | rfl
  · obtain ⟨c', d', hround⟩ := hrounds.each i hlt
    exact ⟨c', d', hround.append [c, d]⟩
  · refine ⟨c, d, ?_, ?_, hpacked.seen, ?_, ⟨packed, hpacked.reported⟩, ⟨decoded, hreported⟩,
      fun hverify => ?_⟩
    · rw [← hlength, List.getElem?_append_right (Nat.le_refl _), Nat.sub_self]
      rfl
    · rw [← hlength, List.getElem?_append_right (Nat.le_add_right _ 1), Nat.add_sub_cancel_left]
      rfl
    · rw [← hlength, List.take_length_add_append]
      exact hseen
    · obtain ⟨hequal, hbytes⟩ := hverified hverify
      rw [← hlength, List.take_length_add_append]
      exact ⟨hequal ▸ hreported, hbytes⟩

/-- The run stopped, and its exchanges keep to the reference trace. -/
def Stopped (run : CellRun σ) (o : Outset) (base : List Exchange) (passes : Nat)
    (w : Workbench (σ × List Exchange)) : Prop :=
  ∃ log, Working o base log w ∧ Conforms run o passes log

section Steps

variable {run : CellRun σ} {o : Outset} {base log : List Exchange} {passes k n : Nat}

/-! ## One step after another -/

theorem load_ensures (htraced : Traced run o n log) (hn : n < passes * o.count)
    (hk : k < o.count) :
    Ensures (fun w => Working o base log w ∧ w.input.position = o.startAt k)
      (Workbench.load (o.lengthAt k) : EStateM Fault (Workbench (σ × List Exchange)) Unit)
      (fun _ w => Working o base log w ∧ Loaded o k w)
      (fun _ => Stopped run o base passes) := by
  rintro ⟨console, native, input, buffers⟩ ⟨hworking, hposition⟩
  simp only [Workbench.load]
  cases hread : Input.readExact (o.lengthAt k) input with
  | error fault after =>
      exact ⟨log, hworking.moved (Input.readExact_error hread),
        htraced.conforms (Nat.le_of_lt hn)⟩
  | ok bytes after =>
      obtain ⟨hcontents, hmoved, hbytes, hlength⟩ := Input.readExact_ok hread
      have hchunk : bytes = o.bytesAt k := by
        rw [hbytes, Outset.bytesAt_eq hk, Input.ahead, hposition, ← hworking.contents]
      have hafter := hworking.moved hcontents
      refine ⟨⟨hafter.contents, ?_, hafter.record, hafter.compressed, hafter.decompressed⟩,
        ?_, ?_, ?_⟩
      · exact (Buffers.chunkSize_load buffers bytes).trans hworking.size
      · exact hmoved.trans ((congrArg (· + _) hposition).trans (Outset.startAt_succ hk).symm)
      · have hfits : bytes.length ≤ buffers.input.size := by
          have hsize : buffers.input.size = o.size := hworking.size
          rw [hlength, hsize]
          exact Chunks.lengthAt_le _ _ _
        change ((buffers.input.write 0 bytes).take (o.lengthAt k)).toList = o.bytesAt k
        rw [Region.toList_take, Region.toList_write _ _ _ (Nat.zero_le _), ← hchunk, ← hlength,
          List.take_zero, List.nil_append, Nat.sub_zero, List.take_of_length_le hfits,
          List.take_left']
        rfl
      · rw [← hchunk, hlength]

theorem compress_ensures (htraced : Traced run o n log) (hn : n < passes * o.count)
    (hk : n % o.count = k) :
    Ensures (fun w => Working o base log w ∧ Loaded o k w)
      (run.recorded.compress (o.lengthAt k))
      (fun answer w =>
        ∃ c, Working o base (log ++ [c]) w ∧ Loaded o k w ∧ Packed run o k c answer.1)
      (fun _ => Stopped run o base passes) := by
  rintro ⟨console, native, input, buffers⟩ ⟨hworking, hloaded⟩
  have hroom : buffers.compressed.size = compressionBound o.size := by
    rw [buffers.size_compressed]
    exact congrArg compressionBound hworking.size
  have hsource : (buffers.input.take (o.lengthAt k)).toList = o.bytesAt k := hloaded.source
  rcases EntryPoints.perform_recorded_cases run.native run.entry
    (.compress run.entry.engine run.cell.level run.options.extra)
    (buffers.input.take (o.lengthAt k)) buffers.compressed buffers.compressed.size native with
    ⟨-, hrefused⟩ | ⟨hfits, c, inner, hcall, -, hcalled⟩
  · simp only [CellRun.compress, EntryPoints.compress, recorded, hrefused]
    exact ⟨log, ⟨hworking.contents, hworking.size, hworking.record, hworking.compressed,
      hworking.decompressed⟩, htraced.conforms (Nat.le_of_lt hn)⟩
  · have hseen : c.call.seen = run.compressCall o k := by
      rw [hcall, NativeCall.seen, hsource, hroom]
      rfl
    have hdirection : c.call.request.direction = .compress := by
      rw [hcall]
      exact Request.direction_compress _ _ _
    have hcompressed := replay_singleton_of_eq hdirection buffers.compressed
    have hdecompressed := replay_singleton_of_ne
      (hdirection.trans_ne (show Direction.compress ≠ .decompress by decide)) buffers.decompressed
    cases hreported : run.entry.engine.interpret c.reply buffers.compressed.size with
    | error cause =>
        subst hk
        simp only [CellRun.compress, EntryPoints.compress, recorded, hcalled, hreported]
        exact ⟨log ++ [c], hworking.concat rfl rfl rfl hcompressed.symm hdecompressed.symm,
          htraced.conforms_compress hn hseen hloaded.full⟩
    | ok packed =>
        simp only [CellRun.compress, EntryPoints.compress, recorded, hcalled, hreported]
        refine ⟨c, hworking.concat rfl rfl rfl hcompressed.symm hdecompressed.symm,
          ⟨hloaded.position, hloaded.source, hloaded.full⟩, ⟨hseen, ?_, ?_⟩⟩
        · rw [← hroom]
          exact hreported
        · rw [← hloaded.full, ← hsource, Region.length_toList]
          exact hfits

theorem decompress_ensures {c : Exchange} {packed : Nat} (htraced : Traced run o n log)
    (hn : n < passes * o.count) (hk : n % o.count = k) (hpacked : Packed run o k c packed) :
    Ensures (fun w => Working o base (log ++ [c]) w ∧ Loaded o k w)
      (run.recorded.decompress packed (o.lengthAt k))
      (fun answer w =>
        ∃ d, Working o base (log ++ [c, d]) w ∧ Loaded o k w ∧
          d.call.seen = run.decompressCall o (log ++ [c]) k ∧
          run.entry.engine.interpret d.reply (o.lengthAt k) = .ok answer.1)
      (fun _ => Stopped run o base passes) := by
  rintro ⟨console, native, input, buffers⟩ ⟨hworking, hloaded⟩
  have hsource : (buffers.compressed.take packed).toList =
      (replay .compress (log ++ [c]) o.compressed).toList.take packed := by
    rw [Region.toList_take, hworking.compressed]
  have hlength : run.packedAfter o (log ++ [c]) = packed := by
    simp only [packedAfter, List.getLast?_concat, hpacked.reported]
  rcases EntryPoints.perform_recorded_cases run.native run.entry
    (.decompress run.entry.engine) (buffers.compressed.take packed) buffers.decompressed
    (o.lengthAt k) native with
    ⟨hlimit, -⟩ | ⟨-, d, inner, hcall, -, hcalled⟩
  · -- what was packed was reported in the same type of lengths
    have hle := Engine.interpret_le_lengthLimit hpacked.reported
    rw [Region.size_take] at hlimit
    omega
  · have hseen : d.call.seen = run.decompressCall o (log ++ [c]) k := by
      rw [hcall, NativeCall.seen, hsource, decompressCall, hlength, Nat.min_eq_left hpacked.fits]
    have hdirection : d.call.request.direction = .decompress := by
      rw [hcall]
      exact Request.direction_decompress _
    have hcompressed := replay_singleton_of_ne
      (hdirection.trans_ne (show Direction.decompress ≠ .compress by decide)) buffers.compressed
    have hdecompressed := replay_singleton_of_eq hdirection buffers.decompressed
    have hrecord : log ++ [c] ++ [d] = log ++ [c, d] := List.append_assoc _ _ _
    cases hreported : run.entry.engine.interpret d.reply (o.lengthAt k) with
    | error cause =>
        subst hk
        simp only [CellRun.decompress, EntryPoints.decompress, recorded, hcalled, hreported]
        exact ⟨log ++ [c, d],
          hrecord ▸ hworking.concat rfl rfl rfl hcompressed.symm hdecompressed.symm,
          (htraced.succ hpacked.seen hseen hloaded.full).conforms hn⟩
    | ok decoded =>
        simp only [CellRun.decompress, EntryPoints.decompress, recorded, hcalled, hreported]
        exact ⟨d, hrecord ▸ hworking.concat rfl rfl rfl hcompressed.symm hdecompressed.symm,
          ⟨hloaded.position, hloaded.source, hloaded.full⟩, hseen, hreported⟩

/-- A comparison that holds says that the whole chunk came back. -/
theorem compare_ensures {decoded : Nat} (hdecoded : decoded ≤ o.lengthAt k)
    (hconforms : Conforms run o passes log) :
    Ensures (fun w => Working o base log w ∧ Loaded o k w)
      (run.recorded.compare (o.lengthAt k) decoded)
      (fun _ w => Working o base log w ∧ Loaded o k w ∧ decoded = o.lengthAt k ∧
        (replay .decompress log o.decompressed).toList.take (o.lengthAt k) = o.bytesAt k)
      (fun _ => Stopped run o base passes) := by
  rintro w ⟨hworking, hloaded⟩
  cases hverify : verify (w.buffers.input.take (o.lengthAt k)).toList
      (w.buffers.decompressed.take decoded).toList with
  | error mismatch =>
      simp only [CellRun.compare, hverify]
      exact ⟨log, hworking, hconforms⟩
  | ok _ =>
      simp only [CellRun.compare, hverify]
      have hbytes : o.bytesAt k = (replay .decompress log o.decompressed).toList.take decoded := by
        rw [← hloaded.source, ← hworking.decompressed, ← Region.toList_take]
        exact verify_eq_ok_iff.mp hverify
      have hequal : decoded = o.lengthAt k := by
        have hlength := congrArg List.length hbytes
        rw [hloaded.full, List.length_take] at hlength
        omega
      exact ⟨hworking, hloaded, hequal, by rw [← hequal, hbytes]⟩

end Steps

/-! ## A chunk, a pass, the run -/

/-- Chunks are counted on from pass to pass. -/
theorem mul_add_lt {pass passes count k : Nat} (hpass : pass < passes) (hk : k < count) :
    pass * count + k < passes * count := by
  have hnext : (pass + 1) * count ≤ passes * count := Nat.mul_le_mul_right count hpass
  rw [Nat.succ_mul] at hnext
  omega

/-- Where statistics are wanted of a run that compares, every byte is counted. -/
def Counted (run : CellRun σ) (o : Outset) (pass k : Nat) (tally : Tally) : Prop :=
  run.options.verify = true → run.options.statistics = true →
    tally.decompressedBytes = (pass * o.startAt o.count + o.startAt k).toUInt64

theorem Counted.succ {run : CellRun σ} {o : Outset} {pass k decoded : Nat} {tally : Tally}
    (hcounted : Counted run o pass k tally) (hk : k < o.count)
    (hdecoded : run.options.verify = true → decoded = o.lengthAt k) (packed : Nat)
    (compressTime decompressTime : Span) :
    Counted run o pass (k + 1) (tally.recordChunk packed compressTime decoded decompressTime) := by
  intro hverify hstatistics
  rw [Outset.startAt_succ hk, ← Nat.add_assoc, ← hdecoded hverify]
  simp only [Tally.recordChunk, hcounted hverify hstatistics]
  exact (UInt64.ofNat_add _ _).symm

/-- The rounds of `pass` whole passes and of `k` chunks were made. -/
def Reached (run : CellRun σ) (o : Outset) (base : List Exchange) (pass k : Nat) (tally : Tally)
    (w : Workbench (σ × List Exchange)) : Prop :=
  ∃ log, Working o base log w ∧ Rounds run o (pass * o.count + k) log ∧
    Counted run o pass k tally

/-- The end of one pass is the start of the next one. -/
theorem Reached.next {run : CellRun σ} {o : Outset} {base : List Exchange} {pass : Nat}
    {tally tally' : Tally} {w : Workbench (σ × List Exchange)}
    (hreached : Reached run o base pass o.count tally w)
    (hbytes : tally'.decompressedBytes = tally.decompressedBytes) :
    Reached run o base (pass + 1) 0 tally' w := by
  obtain ⟨log, hworking, hrounds, hcounted⟩ := hreached
  refine ⟨log, hworking, ?_, fun hverify hstatistics => ?_⟩
  · rw [Nat.add_zero, Nat.succ_mul]
    exact hrounds
  · rw [hbytes, hcounted hverify hstatistics, Nat.succ_mul, Outset.startAt_zero, Nat.add_zero]

section Runs

variable {run : CellRun σ} {o : Outset} {base : List Exchange} {passes : Nat}

theorem chunk_ensures {pass k : Nat} (hpass : pass < passes) (hk : k < o.count)
    (number : Nat) (tally : Tally) :
    Ensures (fun w => Reached run o base pass k tally w ∧ w.input.position = o.startAt k)
      (run.recorded.chunk number tally (o.lengthAt k))
      (fun tally w =>
        Reached run o base pass (k + 1) tally w ∧ w.input.position = o.startAt (k + 1))
      (fun _ => Stopped run o base passes) := by
  rintro w ⟨⟨log, hworking, hrounds, hcounted⟩, hposition⟩
  have hn : pass * o.count + k < passes * o.count := mul_add_lt hpass hk
  have hmod : (pass * o.count + k) % o.count = k := Nat.mul_add_mod_of_lt hk
  simp only [CellRun.chunk, recorded]
  refine Ensures.bind (load_ensures hrounds.traced hn hk) (fun _ => ?_) w ⟨hworking, hposition⟩
  refine Ensures.bind (compress_ensures hrounds.traced hn hmod) fun packed => ?_
  rintro w ⟨c, hworking, hloaded, hpacked⟩
  refine Ensures.bind (decompress_ensures hrounds.traced hn hmod hpacked) (fun decoded => ?_) w
    ⟨hworking, hloaded⟩
  rintro w ⟨d, hworking, hloaded, hseen, hreported⟩
  have hrecord (hverified : run.options.verify = true → decoded.1 = o.lengthAt k ∧
      (replay .decompress (log ++ [c, d]) o.decompressed).toList.take (o.lengthAt k) =
        o.bytesAt k) (notice : Notice) (compressTime decompressTime : Span) :
      Ensures (fun w => Working o base (log ++ [c, d]) w ∧ Loaded o k w)
        (Workbench.say notice >>= fun _ =>
          if run.options.statistics then
            pure (tally.recordChunk packed.1 compressTime decoded.1 decompressTime)
          else pure tally)
        (fun tally w =>
          Reached run o base pass (k + 1) tally w ∧ w.input.position = o.startAt (k + 1))
        (fun _ => Stopped run o base passes) := by
    rintro w ⟨hworking, hloaded⟩
    have hsucc := hrounds.succ (hmod.symm ▸ hloaded.full) (hmod.symm ▸ hpacked)
      (hmod.symm ▸ hseen) (hmod.symm ▸ hreported) (hmod.symm ▸ hverified)
    have hafter := hworking.silent (w.console.say notice)
    cases hstatistics : run.options.statistics with
    | false =>
        refine ⟨⟨_, hafter, hsucc, fun _ htrue => ?_⟩, hloaded.position⟩
        rw [hstatistics] at htrue
        contradiction
    | true =>
        exact ⟨⟨_, hafter, hsucc, hcounted.succ hk (fun hverify => (hverified hverify).1) _ _ _⟩,
          hloaded.position⟩
  refine (Ensures.ite (fun hverify => ?_) (fun hverify => ?_) :
    Ensures (fun w => Working o base (log ++ [c, d]) w ∧ Loaded o k w) _ _ _) w
    ⟨hworking, hloaded⟩
  · have hconforms : Conforms run o passes (log ++ [c, d]) :=
      (hrounds.traced.succ (hmod.symm ▸ hpacked.seen) (hmod.symm ▸ hseen)
        (hmod.symm ▸ hloaded.full)).conforms hn
    refine Ensures.bind (compare_ensures (Engine.interpret_le hreported) hconforms) fun _ => ?_
    rintro w ⟨hworking, hloaded, hverified⟩
    exact hrecord (fun _ => hverified) _ _ _ w ⟨hworking, hloaded⟩
  · exact hrecord (fun htrue => absurd htrue hverify) _ _ _

theorem rewind_ensures {pass : Nat} (hpass : pass ≤ passes) (tally : Tally) :
    Ensures (Reached run o base pass 0 tally)
      (Workbench.rewind : EStateM Fault (Workbench (σ × List Exchange)) Unit)
      (fun _ w => Reached run o base pass 0 tally w ∧ w.input.position = o.startAt 0)
      (fun _ => Stopped run o base passes) := by
  rintro ⟨console, native, input, buffers⟩ ⟨log, hworking, hrounds, hcounted⟩
  cases hrewind : input.rewind with
  | error fault after =>
      simp only [Workbench.rewind, hrewind]
      exact ⟨log, hworking.moved (Input.rewind_error hrewind),
        hrounds.traced.conforms (Nat.mul_le_mul_right _ hpass)⟩
  | ok _ after =>
      simp only [Workbench.rewind, hrewind]
      obtain ⟨hcontents, hposition⟩ := Input.rewind_ok hrewind
      refine ⟨⟨log, hworking.moved hcontents, hrounds, hcounted⟩, ?_⟩
      rw [Outset.startAt_zero]
      exact hposition

theorem pass_ensures {pass : Nat} (hpass : pass < passes) (number : Nat) (tally : Tally) :
    Ensures (Reached run o base pass 0 tally) (run.recorded.pass o.fileSize number tally)
      (fun tally => Reached run o base (pass + 1) 0 tally)
      (fun _ => Stopped run o base passes) := by
  refine Ensures.bind (rewind_ensures (Nat.le_of_lt hpass) tally) fun _ w hready => ?_
  obtain ⟨⟨log, hworking, hrounds, hcounted⟩, hposition⟩ := hready
  have hsize : w.buffers.chunkSize = o.size := hworking.size
  have hchunks : Ensures
      (fun w => Reached run o base pass 0 tally w ∧ w.input.position = o.startAt 0)
      (Chunks.foldSteps (run.recorded.chunk number) w.buffers.chunkSize o.fileSize tally)
      (fun tally w =>
        Reached run o base pass o.count tally w ∧ w.input.position = o.startAt o.count)
      (fun _ => Stopped run o base passes) := by
    rw [Chunks.foldSteps_eq, Chunks.lengths_eq_map, hsize]
    exact Ensures.foldlM_range (fun k hk tally => chunk_ensures hpass hk number tally) tally
  refine Ensures.bind hchunks (fun tally => Ensures.pure fun w hdone => hdone.1.next ?_) w
    ⟨⟨log, hworking, hrounds, hcounted⟩, hposition⟩
  split <;> rfl

theorem passes_ensures (left pass : Nat) (hpasses : pass + left = passes) (number : Nat)
    (tally : Tally) :
    Ensures (Reached run o base pass 0 tally) (run.recorded.passes o.fileSize left number tally)
      (fun tally => Reached run o base passes 0 tally)
      (fun _ => Stopped run o base passes) := by
  induction left generalizing pass number tally with
  | zero =>
      obtain rfl : pass = passes := hpasses
      exact Ensures.pure fun _ hreached => hreached
  | succ left ih =>
      refine Ensures.bind (pass_ensures (by omega) number tally) fun tally => ?_
      exact ih (pass + 1) (by omega) (number + 1) tally

/-- A run that answers has made all its rounds, and a run that fails has kept to the
reference trace. -/
theorem execute_ensures {fileSize : Nat} (hfile : o.fileSize = fileSize) :
    Ensures (Working o base []) (run.recorded.execute fileSize)
      (fun tally => Reached run o base run.options.iterations.toNat 0 tally)
      (fun _ => Stopped run o base run.options.iterations.toNat) := by
  subst hfile
  have hsilent (notice : Notice) (pass : Nat) (tally : Tally) :
      Ensures (Reached run o base pass 0 tally)
        (Workbench.say notice : EStateM Fault (Workbench (σ × List Exchange)) Unit)
        (fun _ => Reached run o base pass 0 tally)
        (fun _ => Stopped run o base run.options.iterations.toNat) := by
    rintro w ⟨log, hworking, hrounds, hcounted⟩
    exact ⟨log, hworking.silent _, hrounds, hcounted⟩
  have hstart (w : Workbench (σ × List Exchange)) (hworking : Working o base [] w) :
      Reached run o base 0 0 .empty w := by
    refine ⟨[], hworking, ?_, fun _ _ => ?_⟩
    · rw [Nat.zero_mul]
      exact ⟨.zero run o, fun _ hi => absurd hi (Nat.not_lt_zero _)⟩
    · rw [Nat.zero_mul, Outset.startAt_zero]
      rfl
  refine Ensures.mono ?_ hstart (fun _ _ hpost => hpost) (fun _ _ hfail => hfail)
  refine Ensures.bind (hsilent _ 0 .empty) fun _ => ?_
  refine Ensures.bind (passes_ensures _ 0 (Nat.zero_add _) 0 .empty) fun tally => ?_
  refine Ensures.bind (hsilent _ _ tally) fun _ => ?_
  exact Ensures.pure fun _ hreached => hreached

end Runs
end CellRun
end RoundTrip
