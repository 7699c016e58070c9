import RoundTrip.Proofs.StatelessCells
import RoundTrip.Proofs.TallyHistory

/-!
# Cells as lists of round trips

A pass takes a list of chunks there and back, and the totals of a cell are those
lists recorded one after another.  On an engine without a memory and an input that
does not fail every pass of a cell takes the same chunks in the same way, so that
the totals of a cell are those of one pass, as often as it passes over the input.
-/

namespace RoundTrip

/-! ## Totals of whole passes -/

theorem Trip.totalBytes_replicate (d : Direction) (n : Nat) (trips : List Trip) :
    totalBytes d (List.replicate n trips).flatten = n * totalBytes d trips := by
  rw [totalBytes, List.map_flatten, List.map_replicate, List.sum_flatten, List.map_replicate,
    List.sum_replicate_nat]
  rfl

namespace Tally

def recordAll (t : Tally) (trips : List Trip) : Tally :=
  trips.foldl (fun t trip => t.perform (.record trip)) t

/-- Records the chunks of one pass, and ends it. -/
def addPass (t : Tally) (trips : List Trip) : Tally := (t.recordAll trips).perform .finish

/-- The totals of these passes. -/
def ofPasses (passes : List (List Trip)) : Tally := passes.foldl addPass .empty

variable {t : Tally} {h : History} {d : Direction}

theorem Keeps.recordAll (hkeeps : t.Keeps h d) (trips : List Trip) :
    (t.recordAll trips).Keeps { h with pending := h.pending ++ trips } d := by
  induction trips generalizing t h with
  | nil =>
      rw [List.append_nil]
      exact hkeeps
  | cons trip rest ih =>
      have hrest := ih (hkeeps.record trip)
      simp only [History.add, List.append_assoc, List.singleton_append] at hrest
      exact hrest

theorem Keeps.addPass (hkeeps : t.Keeps ⟨h.finished, []⟩ d) (trips : List Trip) :
    (t.addPass trips).Keeps ⟨h.finished ++ [trips], []⟩ d :=
  (hkeeps.recordAll trips).finish

/-- The totals of passes keep these passes, and nothing is pending. -/
theorem keeps_ofPasses (passes : List (List Trip)) (d : Direction) :
    (ofPasses passes).Keeps ⟨passes, []⟩ d := by
  induction passes using List.reverseRecOn with
  | nil => exact keeps_empty d
  | append_singleton past trips ih =>
      rw [ofPasses, List.foldl_concat]
      exact Keeps.addPass (h := ⟨past, []⟩) ih trips

/-- As often as a pass is made, its bytes are counted. -/
theorem bytes_ofPasses_replicate (n : Nat) (trips : List Trip) (d : Direction) :
    (ofPasses (List.replicate n trips)).bytes d = (n * Trip.totalBytes d trips).toUInt64 := by
  have hbytes := (keeps_ofPasses (List.replicate n trips) d).bytes
  rwa [History.trips, List.append_nil, Trip.totalBytes_replicate] at hbytes

theorem passes_ofPasses (passes : List (List Trip)) :
    (ofPasses passes).passes = passes.length.toUInt32 :=
  (keeps_ofPasses passes .compress).passes

/-- Totals of `n` passes that took what a single one took. -/
structure Multiplies (n : UInt32) (single tally : Tally) : Prop where
  passes : tally.passes = n
  bytes : ∀ d, n.toNat * (single.bytes d).toNat < 2 ^ 64 →
    (tally.bytes d).toNat = n.toNat * (single.bytes d).toNat

theorem multiplies_replicate (n : UInt32) (trips : List Trip) :
    Multiplies n (ofPasses [trips]) (ofPasses (List.replicate n.toNat trips)) := by
  constructor
  · rw [passes_ofPasses, List.length_replicate]
    exact UInt32.ofNat_toNat
  · intro d hlimit
    have hsingle : ((ofPasses [trips]).bytes d).toNat = Trip.totalBytes d trips % 2 ^ 64 := by
      have hone := bytes_ofPasses_replicate 1 trips d
      rw [Nat.one_mul] at hone
      exact congrArg UInt64.toNat hone
    rw [hsingle] at hlimit ⊢
    rw [bytes_ofPasses_replicate, Nat.toUInt64, UInt64.toNat_ofNat', ← Nat.mul_mod_mod,
      Nat.mod_eq_of_lt hlimit]

end Tally

/-! ## A cell and its round trips -/

namespace CellRun

variable {σ : Type}

/-- The same cell with that many passes. -/
def repeated (run : CellRun σ) (n : UInt32) : CellRun σ :=
  { run with options := { run.options with iterations := n } }

/-- The round trip of one chunk, without the totals. -/
def trip (run : CellRun σ) (number length : Nat) : EStateM Fault (Workbench σ) Trip := do
  Workbench.load length
  let (packed, compressTime) ← run.compress length
  let (decoded, decompressTime) ← run.decompress packed length
  if run.options.verify then run.compare length decoded
  Workbench.say
    (.chunkDone run.cell number length packed decoded compressTime decompressTime)
  return ⟨packed, compressTime, decoded, decompressTime⟩

/-- The round trips of one pass. -/
def tripsOfPass (run : CellRun σ) (fileSize number : Nat) :
    EStateM Fault (Workbench σ) (List Trip) := do
  Workbench.rewind
  let w ← get
  (Chunks.lengths w.buffers.chunkSize fileSize).mapM (run.trip number)

/-- The round trips of so many passes. -/
def tripsOfPasses (run : CellRun σ) (fileSize : Nat) :
    Nat → Nat → EStateM Fault (Workbench σ) (List (List Trip))
  | 0, _ => pure []
  | left + 1, number => do
      let trips ← run.tripsOfPass fileSize number
      let rest ← run.tripsOfPasses fileSize left (number + 1)
      return trips :: rest

/-- The new totals, if statistics are wanted, and else those from before. -/
def counted (run : CellRun σ) (before new : Tally) : Tally :=
  if run.options.statistics then new else before

variable (run : CellRun σ)

theorem counted_self (tally : Tally) : run.counted tally tally = tally := ite_self tally

theorem counted_counted (tally : Tally) (first second : Tally → Tally) :
    run.counted (run.counted tally (first tally))
        (second (run.counted tally (first tally))) =
      run.counted tally (second (first tally)) := by
  simp only [counted]
  cases run.options.statistics <;> rfl

theorem chunk_eq (number : Nat) (tally : Tally) (length : Nat) :
    run.chunk number tally length =
      run.trip number length >>= fun trip =>
        pure (run.counted tally (tally.perform (.record trip))) := by
  have hcounted (new : Tally) :
      (if run.options.statistics then pure new else pure tally :
        EStateM Fault (Workbench σ) Tally) = pure (run.counted tally new) := by
    rw [counted]
    split <;> rfl
  simp only [chunk, trip, bind_assoc, hcounted]
  congr 1
  funext _
  congr 1
  funext packed
  congr 1
  funext decoded
  cases run.options.verify with
  | false => simp only [Bool.false_eq_true, if_false, bind_assoc, pure_bind, Tally.perform]
  | true => simp only [if_true, bind_assoc, pure_bind, Tally.perform]

theorem foldlM_chunk_eq (number : Nat) (lengths : List Nat) (tally : Tally) :
    lengths.foldlM (run.chunk number) tally =
      lengths.mapM (run.trip number) >>= fun trips =>
        pure (run.counted tally (tally.recordAll trips)) := by
  induction lengths generalizing tally with
  | nil =>
      rw [List.foldlM_nil, List.mapM_nil, pure_bind]
      exact congrArg pure (run.counted_self tally).symm
  | cons length rest ih =>
      simp only [List.foldlM_cons, List.mapM_cons, chunk_eq, ih, bind_assoc, pure_bind]
      congr 1
      funext trip
      congr 1
      funext trips
      exact congrArg pure (run.counted_counted tally (·.perform (.record trip))
        (·.recordAll trips))

theorem pass_eq (fileSize number : Nat) (tally : Tally) :
    run.pass fileSize number tally =
      run.tripsOfPass fileSize number >>= fun trips =>
        pure (run.counted tally (tally.addPass trips)) := by
  simp only [pass, tripsOfPass, bind_assoc, Chunks.foldSteps_eq, foldlM_chunk_eq, pure_bind]
  congr 1
  funext _
  congr 1
  funext w
  congr 1
  funext trips
  exact congrArg pure (run.counted_counted tally (·.recordAll trips) Tally.finishPass)

theorem passes_eq (fileSize left number : Nat) (tally : Tally) :
    run.passes fileSize left number tally =
      run.tripsOfPasses fileSize left number >>= fun passes =>
        pure (run.counted tally (passes.foldl Tally.addPass tally)) := by
  induction left generalizing number tally with
  | zero => rw [passes, tripsOfPasses, pure_bind, List.foldl_nil, counted_self]
  | succ left ih =>
      simp only [passes, tripsOfPasses, pass_eq, ih, bind_assoc, pure_bind, List.foldl_cons]
      congr 1
      funext trips
      congr 1
      funext passes
      exact congrArg pure (run.counted_counted tally (·.addPass trips)
        (passes.foldl Tally.addPass))

/-- The totals of a cell are those of its round trips, or stay empty. -/
theorem execute_eq (fileSize : Nat) :
    run.execute fileSize = do
      Workbench.say (.enter .cell)
      let passes ← run.tripsOfPasses fileSize run.options.iterations.toNat 0
      Workbench.say (.exit .cell)
      return run.counted .empty (.ofPasses passes) := by
  simp only [execute, passes_eq, bind_assoc, pure_bind]
  rfl

/-- A step that is not looked into. -/
theorem ensures_true {α : Type} (step : EStateM Fault (Workbench σ) α) :
    Ensures (fun _ => True) step (fun _ _ => True) (fun _ _ => True) := by
  intro w _
  cases step w <;> trivial

theorem tripsOfPasses_length (fileSize left number : Nat) :
    Ensures (fun _ => True) (run.tripsOfPasses fileSize left number)
      (fun passes _ => passes.length = left) (fun _ _ => True) := by
  induction left generalizing number with
  | zero => exact Ensures.pure fun _ _ => rfl
  | succ left ih =>
      refine Ensures.bind (ensures_true _) fun trips => ?_
      refine Ensures.bind (ih (number + 1)) fun rest => ?_
      exact Ensures.pure fun _ hrest => congrArg Nat.succ hrest

/-- A cell that succeeds has made all its passes. -/
theorem exists_passes_of_execute {fileSize : Nat} {w : Workbench σ} {tally : Tally}
    (hrun : answer (run.execute fileSize) w = .ok tally) :
    ∃ passes : List (List Trip), passes.length = run.options.iterations.toNat ∧
      tally = run.counted .empty (.ofPasses passes) := by
  have hexecute : Ensures (fun _ => True) (run.execute fileSize)
      (fun tally _ => ∃ passes : List (List Trip),
        passes.length = run.options.iterations.toNat ∧
          tally = run.counted .empty (.ofPasses passes)) (fun _ _ => True) := by
    rw [execute_eq]
    refine Ensures.bind (ensures_true _) fun _ => ?_
    refine Ensures.bind (run.tripsOfPasses_length fileSize _ 0) fun passes => ?_
    exact fun w hlength => ⟨passes, hlength, rfl⟩
  exact hexecute.of_ok trivial (eq_of_answer_ok hrun)

/-- Where statistics are wanted, the totals count the passes that were made. -/
theorem passes_of_execute (hstatistics : run.options.statistics = true) {fileSize : Nat}
    {w : Workbench σ} {tally : Tally} (hrun : answer (run.execute fileSize) w = .ok tally) :
    tally.passes = run.options.iterations := by
  obtain ⟨passes, hlength, rfl⟩ := run.exists_passes_of_execute hrun
  rw [counted, if_pos hstatistics, Tally.passes_ofPasses, hlength]
  exact UInt32.ofNat_toNat

/-- Where they are not, the totals stay empty. -/
theorem eq_empty_of_execute (hstatistics : run.options.statistics = false) {fileSize : Nat}
    {w : Workbench σ} {tally : Tally} (hrun : answer (run.execute fileSize) w = .ok tally) :
    tally = .empty := by
  obtain ⟨passes, -, rfl⟩ := run.exists_passes_of_execute hrun
  rw [counted, hstatistics]
  rfl

/-! ## Passes of engines without a memory -/

section Stateless

variable {good : σ → Prop} {stock : Stock} {run} {w v : Workbench σ}

open Workbench

theorem trip_abreast (hstateless : run.native.Stateless good run.entry)
    (number number' length : Nat) :
    Coupled (fun _ _ => True) (Abreast good stock) (run.trip number length)
      (run.trip number' length) (fun _ => Abreast good stock) (Abreast good stock) := by
  have hsay (notice notice' : Notice) (trip : Trip) :
      Coupled (fun _ _ => True) (Abreast good stock)
        (do Workbench.say notice; return trip : EStateM Fault (Workbench σ) Trip)
        (do Workbench.say notice'; return trip) (fun _ => Abreast good stock)
        (Abreast good stock) :=
    .of_related fun w v habreast => .ok ⟨rfl, ⟨habreast.first.input, habreast.first.chunkSize,
      habreast.first.native⟩, ⟨habreast.second.input, habreast.second.chunkSize,
      habreast.second.native⟩, habreast.position⟩
  refine Coupled.bind (load_abreast length) fun _ => ?_
  refine Coupled.bind (compress_abreast hstateless length) fun packed => ?_
  refine Coupled.bind (decompress_abreast hstateless packed.1 length) fun decoded => ?_
  refine Coupled.ite rfl (fun _ => ?_) fun _ => ?_
  · exact Coupled.bind (compare_abreast length decoded.1) fun _ => hsay _ _ _
  · exact (hsay _ _ _).mono (fun _ _ hreturned => hreturned.shared.abreast)
      (fun _ _ _ hstates => hstates) fun _ _ hstates => hstates

/-- Every pass takes the same round trips, or fails in the same way. -/
theorem tripsOfPass_stocked (hstateless : run.native.Stateless good run.entry)
    (fileSize number number' : Nat) :
    Simulates (fun w v => w.Stocked good stock ∧ v.Stocked good stock)
      (run.tripsOfPass fileSize number) (run.tripsOfPass fileSize number')
      (Alike fun w v => w.Stocked good stock ∧ v.Stocked good stock)
      (fun w v => w.Stocked good stock ∧ v.Stocked good stock) := by
  have hpass : Coupled (fun _ _ => True) (fun w v => w.Stocked good stock ∧ v.Stocked good stock)
      (run.tripsOfPass fileSize number) (run.tripsOfPass fileSize number')
      (fun _ => Abreast good stock) (Abreast good stock) := by
    have hcouples : Couples (fun _ _ => True) run run (Abreast good stock) :=
      (couplesSteps_abreast hstateless).couples
    have hchunks (size : Nat) : Coupled (fun _ _ => True) (Abreast good stock)
        ((Chunks.lengths size fileSize).mapM (run.trip number))
        ((Chunks.lengths size fileSize).mapM (run.trip number')) (fun _ => Abreast good stock)
        (Abreast good stock) := Coupled.mapM (trip_abreast hstateless number number') _
    have hcut := Coupled.bind hcouples.get_chunkSize hchunks
    exact Coupled.bind rewind_stocked fun _ => hcut
  exact (hpass.mono (fun _ _ hstates => hstates) (fun _ _ _ hafter => ⟨hafter.first, hafter.second⟩)
    fun _ _ hafter => ⟨hafter.first, hafter.second⟩).simulates

/-- All passes take the round trips of one. -/
theorem tripsOfPasses_of_ok (hstateless : run.native.Stateless good run.entry)
    (hw : w.Stocked good stock) (hv : v.Stocked good stock) {fileSize : Nat} {trips : List Trip}
    (hpass : answer (run.tripsOfPass fileSize 0) v = .ok trips) (left number : Nat) :
    ∃ after, run.tripsOfPasses fileSize left number w = .ok (List.replicate left trips) after := by
  induction left generalizing number w with
  | zero => exact ⟨w, rfl⟩
  | succ left ih =>
      have hrelated := tripsOfPass_stocked hstateless fileSize 0 number ⟨hv, hw⟩
      rw [eq_of_answer_ok hpass] at hrelated
      obtain ⟨_, mid, hfirst, rfl, -, hmid⟩ := hrelated.exists_ok
      obtain ⟨after, hrest⟩ := ih hmid (number + 1)
      refine ⟨after, ?_⟩
      simp only [tripsOfPasses, Bind.bind, EStateM.bind, hfirst, hrest, List.replicate_succ]
      rfl

/-- Where one pass fails, the first one does. -/
theorem tripsOfPasses_of_error (hstateless : run.native.Stateless good run.entry)
    (hw : w.Stocked good stock) (hv : v.Stocked good stock) {fileSize : Nat} {fault : Fault}
    (hpass : answer (run.tripsOfPass fileSize 0) v = .error fault) {left : Nat} (hleft : 0 < left)
    (number : Nat) : ∃ after, run.tripsOfPasses fileSize left number w = .error fault after := by
  obtain ⟨left, rfl⟩ := Nat.exists_eq_add_one_of_ne_zero (Nat.ne_of_gt hleft)
  have hrelated := tripsOfPass_stocked hstateless fileSize 0 number ⟨hv, hw⟩
  rw [eq_of_answer_error hpass] at hrelated
  obtain ⟨after, hfirst, -⟩ := hrelated.exists_error
  refine ⟨after, ?_⟩
  simp only [tripsOfPasses, Bind.bind, EStateM.bind, hfirst]

/-- A cell fails as one pass does, or its totals are those of one pass, as often as it is made. -/
theorem answer_execute_stocked (hstateless : run.native.Stateless good run.entry)
    (hw : w.Stocked good stock) (hv : v.Stocked good stock)
    (hpasses : 0 < run.options.iterations.toNat) (fileSize : Nat) :
    answer (run.execute fileSize) w =
      (answer (run.tripsOfPass fileSize 0) v).map fun trips =>
        run.counted .empty (.ofPasses (List.replicate run.options.iterations.toNat trips)) := by
  have hsaid : Stocked good stock { w with console := w.console.say (.enter .cell) } :=
    ⟨hw.input, hw.chunkSize, hw.native⟩
  rw [execute_eq, answer]
  simp only [Bind.bind, EStateM.bind, Workbench.say]
  cases hpass : answer (run.tripsOfPass fileSize 0) v with
  | error fault =>
      obtain ⟨after, hfails⟩ := tripsOfPasses_of_error hstateless hsaid hv hpass hpasses 0
      simp only [hfails, Except.map]
  | ok trips =>
      obtain ⟨after, hmade⟩ :=
        tripsOfPasses_of_ok hstateless hsaid hv hpass run.options.iterations.toNat 0
      simp only [hmade, Except.map]
      rfl

theorem execute_repeated (hstateless : run.native.Stateless good run.entry)
    (hstocked : w.Stocked good stock) (hstatistics : run.options.statistics = true) {n : UInt32}
    (hn : n ≠ 0) (fileSize : Nat) :
    ((∃ tally, answer ((run.repeated n).execute fileSize) w = .ok tally) ↔
      ∃ single, answer ((run.repeated 1).execute fileSize) w = .ok single) ∧
    ∀ single tally, answer ((run.repeated 1).execute fileSize) w = .ok single →
      answer ((run.repeated n).execute fileSize) w = .ok tally → single.Multiplies n tally := by
  have hcounted (passes : List (List Trip)) (m : UInt32) :
      (run.repeated m).counted .empty (.ofPasses passes) = .ofPasses passes := if_pos hstatistics
  have hanswer (m : UInt32) (hm : m ≠ 0) : answer ((run.repeated m).execute fileSize) w =
      (answer (run.tripsOfPass fileSize 0) w).map fun trips =>
        Tally.ofPasses (List.replicate m.toNat trips) := by
    have hpasses : 0 < (run.repeated m).options.iterations.toNat :=
      Nat.pos_of_ne_zero fun hzero => hm (UInt32.toNat_inj.mp hzero)
    have hsame : (run.repeated m).native.Stateless good (run.repeated m).entry := hstateless
    have hrun := answer_execute_stocked hsame hstocked hstocked hpasses fileSize
    simp only [hcounted] at hrun
    exact hrun
  rw [hanswer n hn, hanswer 1 (by decide)]
  cases answer (run.tripsOfPass fileSize 0) w with
  | error fault => exact ⟨iff_of_false nofun nofun, nofun⟩
  | ok trips =>
      refine ⟨iff_of_true ⟨_, rfl⟩ ⟨_, rfl⟩, ?_⟩
      rintro _ _ ⟨⟩ ⟨⟩
      exact Tally.multiplies_replicate n trips

end Stateless

end CellRun
end RoundTrip
