import RoundTrip.Cell
import RoundTrip.Proofs.ChunkCover
import RoundTrip.Proofs.StepLogic

/-!
# The steps of a cell

A cell takes its steps in a fixed order: every pass rewinds the input, and
every chunk of the pass is read, compressed, decompressed and, where that is
wanted, compared.  The schedule lists them in advance.  Running the cell is
taking the scheduled steps until one fails: the fault is that of the first
step that fails, and the engine and the input stay as that step left them.
-/

namespace RoundTrip

/-- A step of a cell, with the pass and the chunk that it belongs to. -/
inductive CellStep where
  | rewind (pass : Nat)
  | read (pass chunk : Nat)
  | compress (pass chunk : Nat)
  | decompress (pass chunk : Nat)
  | compare (pass chunk : Nat)
  deriving DecidableEq

/-- Where a cell stands between two steps, with the counts that the latest
calls reported. -/
structure Standing (σ : Type) where
  native : σ
  input : Input
  buffers : Buffers
  packed : Nat
  decoded : Nat

namespace Workbench

/-- Where a cell stands before its first step. -/
def standing {σ : Type} (w : Workbench σ) : Standing σ := ⟨w.native, w.input, w.buffers, 0, 0⟩

end Workbench

namespace CellRun

variable {σ : Type}

/-! ## The schedule -/

def chunkSteps (run : CellRun σ) (pass chunk : Nat) : List CellStep :=
  [.read pass chunk, .compress pass chunk, .decompress pass chunk] ++
    if run.options.verify then [.compare pass chunk] else []

def passSteps (run : CellRun σ) (size fileSize pass : Nat) : List CellStep :=
  .rewind pass ::
    (List.range (Chunks.count size fileSize)).flatMap (run.chunkSteps pass)

/-- All steps in order, for chunks of at most `size` bytes. -/
def schedule (run : CellRun σ) (size fileSize : Nat) : List CellStep :=
  (List.range run.options.iterations.toNat).flatMap (run.passSteps size fileSize)

/-! ## One step -/

section Steps

variable (run : CellRun σ) (size fileSize : Nat)

/-- The bytes of the chunk that the input block holds. -/
def source (chunk : Nat) (st : Standing σ) : Region :=
  st.buffers.input.take (Chunks.lengthAt size fileSize chunk)

/-- The bytes that came back. -/
def returned (st : Standing σ) : Region := st.buffers.decompressed.take st.decoded

/-- What comes of compressing a chunk into the whole compressed block. -/
def compressOutcome (chunk : Nat) (st : Standing σ) : Outcome × σ :=
  run.entry.compress run.native run.cell.level run.options.extra
    (source size fileSize chunk st) st.buffers.compressed st.native

/-- What comes of decompressing what was packed, into room for the chunk. -/
def decompressOutcome (chunk : Nat) (st : Standing σ) : Outcome × σ :=
  run.entry.decompress run.native (st.buffers.compressed.take st.packed)
    st.buffers.decompressed (Chunks.lengthAt size fileSize chunk) st.native

/-- Takes one step. -/
def take : CellStep → EStateM Fault (Standing σ) Unit
  | .rewind _ => fun st =>
      match st.input.rewind with
      | .ok () input => .ok () { st with input := input }
      | .error cause input => .error (.io cause) { st with input := input }
  | .read _ chunk => fun st =>
      match Input.readExact (Chunks.lengthAt size fileSize chunk) st.input with
      | .ok bytes input => .ok () { st with input := input, buffers := st.buffers.load bytes }
      | .error cause input => .error (.io cause) { st with input := input }
  | .compress _ chunk => fun st =>
      let outcome := run.compressOutcome size fileSize chunk st
      let after := { st with
        native := outcome.2
        buffers := st.buffers.setCompressed outcome.1.destination (EntryPoints.size_compress ..) }
      match outcome.1.produced with
      | .ok packed => .ok () { after with packed := packed }
      | .error cause => .error (.callFailed .compress run.cell.codec run.cell.level cause) after
  | .decompress _ chunk => fun st =>
      let outcome := run.decompressOutcome size fileSize chunk st
      let after := { st with
        native := outcome.2
        buffers :=
          st.buffers.setDecompressed outcome.1.destination (EntryPoints.size_decompress ..) }
      match outcome.1.produced with
      | .ok decoded => .ok () { after with decoded := decoded }
      | .error cause => .error (.callFailed .decompress run.cell.codec run.cell.level cause) after
  | .compare _ chunk => fun st =>
      match verify (source size fileSize chunk st).toList (returned st).toList with
      | .ok () => .ok () st
      | .error mismatch =>
          .error
            (.verificationFailed run.cell.codec run.cell.level run.cell.fileName mismatch) st

/-- What it means that a step succeeds. -/
def Succeeds : CellStep → Standing σ → Prop
  | .rewind _, st => ∃ input, st.input.rewind = .ok () input
  | .read _ chunk, st =>
      ∃ bytes input,
        Input.readExact (Chunks.lengthAt size fileSize chunk) st.input = .ok bytes input
  | .compress _ chunk, st =>
      ∃ packed, (run.compressOutcome size fileSize chunk st).1.produced = .ok packed
  | .decompress _ chunk, st =>
      ∃ decoded, (run.decompressOutcome size fileSize chunk st).1.produced = .ok decoded
  | .compare _ chunk, st => (source size fileSize chunk st).toList = (returned st).toList

/-- The fault that a step is blamed with when it fails. -/
def Blames : CellStep → Standing σ → Fault → Prop
  | .rewind _, st, fault =>
      ∃ cause input, st.input.rewind = .error cause input ∧ fault = .io cause
  | .read _ chunk, st, fault =>
      ∃ cause input,
        Input.readExact (Chunks.lengthAt size fileSize chunk) st.input = .error cause input ∧
          fault = .io cause
  | .compress _ chunk, st, fault =>
      ∃ cause,
        (run.compressOutcome size fileSize chunk st).1.produced = .error cause ∧
          fault = .callFailed .compress run.cell.codec run.cell.level cause
  | .decompress _ chunk, st, fault =>
      ∃ cause,
        (run.decompressOutcome size fileSize chunk st).1.produced = .error cause ∧
          fault = .callFailed .decompress run.cell.codec run.cell.level cause
  | .compare _ chunk, st, fault =>
      (source size fileSize chunk st).toList ≠ (returned st).toList ∧
        fault = .verificationFailed run.cell.codec run.cell.level run.cell.fileName
          (.between (source size fileSize chunk st).toList (returned st).toList)

variable {run size fileSize}

theorem succeeds_of_take_ok {step : CellStep} {st after : Standing σ}
    (htake : run.take size fileSize step st = .ok () after) :
    run.Succeeds size fileSize step st := by
  cases step with
  | rewind pass =>
      simp only [take] at htake
      split at htake
      · exact ⟨_, ‹_›⟩
      · contradiction
  | read pass chunk =>
      simp only [take] at htake
      split at htake
      · exact ⟨_, _, ‹_›⟩
      · contradiction
  | compress pass chunk =>
      simp only [take] at htake
      split at htake
      · exact ⟨_, ‹_›⟩
      · contradiction
  | decompress pass chunk =>
      simp only [take] at htake
      split at htake
      · exact ⟨_, ‹_›⟩
      · contradiction
  | compare pass chunk =>
      simp only [take] at htake
      split at htake
      · exact verify_eq_ok_iff.mp ‹_›
      · contradiction

theorem blames_of_take_error {step : CellStep} {st after : Standing σ} {fault : Fault}
    (htake : run.take size fileSize step st = .error fault after) :
    run.Blames size fileSize step st fault := by
  cases step with
  | rewind pass =>
      simp only [take] at htake
      split at htake
      · contradiction
      · cases htake
        exact ⟨_, _, ‹_›, rfl⟩
  | read pass chunk =>
      simp only [take] at htake
      split at htake
      · contradiction
      · cases htake
        exact ⟨_, _, ‹_›, rfl⟩
  | compress pass chunk =>
      simp only [take] at htake
      split at htake
      · contradiction
      · cases htake
        exact ⟨_, ‹_›, rfl⟩
  | decompress pass chunk =>
      simp only [take] at htake
      split at htake
      · contradiction
      · cases htake
        exact ⟨_, ‹_›, rfl⟩
  | compare pass chunk =>
      simp only [take, verify] at htake
      split at htake
      · contradiction
      · rename_i mismatch hverify
        cases htake
        split at hverify
        · contradiction
        · rename_i hne
          cases hverify
          exact ⟨fun heq => hne (beq_iff_eq.mpr heq), rfl⟩

/-- A step that is blamed does not succeed. -/
theorem not_succeeds_of_blames {step : CellStep} {st : Standing σ} {fault : Fault}
    (hblames : run.Blames size fileSize step st fault) : ¬ run.Succeeds size fileSize step st := by
  cases step with
  | rewind pass =>
      obtain ⟨cause, input, hrun, -⟩ := hblames
      rintro ⟨after, hok⟩
      rw [hrun] at hok
      contradiction
  | read pass chunk =>
      obtain ⟨cause, input, hrun, -⟩ := hblames
      rintro ⟨bytes, after, hok⟩
      rw [hrun] at hok
      contradiction
  | compress pass chunk =>
      obtain ⟨cause, hrun, -⟩ := hblames
      rintro ⟨packed, hok⟩
      rw [hrun] at hok
      contradiction
  | decompress pass chunk =>
      obtain ⟨cause, hrun, -⟩ := hblames
      rintro ⟨decoded, hok⟩
      rw [hrun] at hok
      contradiction
  | compare pass chunk => exact hblames.1

end Steps

/-! ## The run follows the schedule -/

/-- A cell at work stands where the steps have led, with chunks of one size. -/
structure Follows (size : Nat) (w : Workbench σ) (st : Standing σ) : Prop where
  native : w.native = st.native
  input : w.input = st.input
  buffers : w.buffers = st.buffers
  chunkSize : w.buffers.chunkSize = size

variable {run : CellRun σ} {size fileSize : Nat}

theorem rewind_follows (pass : Nat) :
    Simulates (Follows size) Workbench.rewind (run.take size fileSize (.rewind pass))
      (fun _ _ => Follows size) (Follows size) := by
  rintro ⟨console, native, input, buffers⟩ ⟨_, _, _, packed, decoded⟩ ⟨rfl, rfl, rfl, hsize⟩
  simp only [Workbench.rewind, take]
  cases input.rewind with
  | ok _ after => exact .ok ⟨rfl, rfl, rfl, hsize⟩
  | error cause after => exact .error _ ⟨rfl, rfl, rfl, hsize⟩

theorem load_follows (pass chunk : Nat) :
    Simulates (Follows size) (Workbench.load (Chunks.lengthAt size fileSize chunk))
      (run.take size fileSize (.read pass chunk))
      (fun _ _ => Follows size) (Follows size) := by
  rintro ⟨console, native, input, buffers⟩ ⟨_, _, _, packed, decoded⟩ ⟨rfl, rfl, rfl, hsize⟩
  simp only [Workbench.load, take]
  cases Input.readExact (Chunks.lengthAt size fileSize chunk) input with
  | ok bytes after => exact .ok ⟨rfl, rfl, rfl, (Buffers.chunkSize_load buffers bytes).trans hsize⟩
  | error cause after => exact .error _ ⟨rfl, rfl, rfl, hsize⟩

theorem compress_follows (pass chunk : Nat) :
    Simulates (Follows size) (run.compress (Chunks.lengthAt size fileSize chunk))
      (run.take size fileSize (.compress pass chunk))
      (fun answer _ w st => Follows size w st ∧ answer.1 = st.packed) (Follows size) := by
  rintro ⟨console, native, input, buffers⟩ ⟨_, _, _, packed, decoded⟩ ⟨rfl, rfl, rfl, hsize⟩
  cases hproduced : (run.entry.compress run.native run.cell.level run.options.extra
      (buffers.input.take (Chunks.lengthAt size fileSize chunk)) buffers.compressed
      native).1.produced with
  | ok produced =>
      simp only [CellRun.compress, take, compressOutcome, source, hproduced]
      exact .ok ⟨⟨rfl, rfl, rfl, hsize⟩, rfl⟩
  | error cause =>
      simp only [CellRun.compress, take, compressOutcome, source, hproduced]
      exact .error _ ⟨rfl, rfl, rfl, hsize⟩

theorem decompress_follows (pass chunk packed : Nat) :
    Simulates (fun w st => Follows size w st ∧ packed = st.packed)
      (run.decompress packed (Chunks.lengthAt size fileSize chunk))
      (run.take size fileSize (.decompress pass chunk))
      (fun answer _ w st => Follows size w st ∧ answer.1 = st.decoded) (Follows size) := by
  rintro ⟨console, native, input, buffers⟩ ⟨_, _, _, _, decoded⟩ ⟨⟨rfl, rfl, rfl, hsize⟩, rfl⟩
  cases hproduced : (run.entry.decompress run.native (buffers.compressed.take packed)
      buffers.decompressed (Chunks.lengthAt size fileSize chunk) native).1.produced with
  | ok produced =>
      simp only [CellRun.decompress, take, decompressOutcome, hproduced]
      exact .ok ⟨⟨rfl, rfl, rfl, hsize⟩, rfl⟩
  | error cause =>
      simp only [CellRun.decompress, take, decompressOutcome, hproduced]
      exact .error _ ⟨rfl, rfl, rfl, hsize⟩

theorem compare_follows (pass chunk decoded : Nat) :
    Simulates (fun w st => Follows size w st ∧ decoded = st.decoded)
      (run.compare (Chunks.lengthAt size fileSize chunk) decoded)
      (run.take size fileSize (.compare pass chunk))
      (fun _ _ => Follows size) (Follows size) := by
  rintro ⟨console, native, input, buffers⟩ ⟨_, _, _, packed, _⟩ ⟨⟨rfl, rfl, rfl, hsize⟩, rfl⟩
  cases hverify : verify (buffers.input.take (Chunks.lengthAt size fileSize chunk)).toList
      (buffers.decompressed.take decoded).toList with
  | ok _ =>
      simp only [CellRun.compare, take, source, returned, hverify]
      exact .ok ⟨rfl, rfl, rfl, hsize⟩
  | error mismatch =>
      simp only [CellRun.compare, take, source, returned, hverify]
      exact .error _ ⟨rfl, rfl, rfl, hsize⟩

/-- What is said concerns no step. -/
theorem say_follows (notice : Notice) :
    Simulates (Follows size) ((Workbench.say notice : EStateM Fault (Workbench σ) Unit)) (pure ())
      (fun _ _ => Follows size) (Follows size) :=
  fun _ _ hstates =>
    .ok ⟨hstates.native, hstates.input, hstates.buffers, hstates.chunkSize⟩

theorem chunk_follows (pass chunk : Nat) (tally : Tally) :
    Simulates (Follows size) (run.chunk pass tally (Chunks.lengthAt size fileSize chunk))
      (forM (run.chunkSteps pass chunk) (run.take size fileSize))
      (fun _ _ => Follows size) (Follows size) := by
  have hrecord (notice : Notice) (tally' : Tally) :
      Simulates (Follows size)
        (Workbench.say notice >>= fun _ =>
          if run.options.statistics then pure tally' else pure tally :
            EStateM Fault (Workbench σ) Tally)
        (pure ()) (fun _ _ => Follows size) (Follows size) := by
    refine Simulates.bind_left (say_follows notice) fun _ => ?_
    split <;> exact Simulates.pure fun _ _ hstates => hstates
  simp only [CellRun.chunk, chunkSteps, List.cons_append, List.nil_append, List.forM_cons]
  refine Simulates.bind (load_follows pass chunk) fun _ _ => ?_
  refine Simulates.bind (compress_follows pass chunk) fun ⟨packed, _⟩ _ => ?_
  refine Simulates.bind (decompress_follows pass chunk packed) fun ⟨decoded, _⟩ _ => ?_
  cases run.options.verify with
  | false => exact fun _ _ hstates => hrecord _ _ hstates.1
  | true =>
      rw [if_pos rfl, if_pos rfl, List.forM_cons, List.forM_nil]
      exact Simulates.bind (compare_follows pass chunk decoded) fun _ _ => hrecord _ _

theorem chunks_follow (pass : Nat) (chunks : List Nat) (tally : Tally) :
    Simulates (Follows size)
      ((chunks.map (Chunks.lengthAt size fileSize)).foldlM (run.chunk pass) tally)
      (forM (chunks.flatMap (run.chunkSteps pass)) (run.take size fileSize))
      (fun _ _ => Follows size) (Follows size) := by
  induction chunks generalizing tally with
  | nil => exact Simulates.pure fun _ _ hstates => hstates
  | cons chunk rest ih =>
      rw [List.map_cons, List.foldlM_cons, List.flatMap_cons, List.forM_append]
      exact Simulates.bind (chunk_follows pass chunk tally) fun tally _ => ih tally

theorem pass_follows (pass : Nat) (tally : Tally) :
    Simulates (Follows size) (run.pass fileSize pass tally)
      (forM (run.passSteps size fileSize pass) (run.take size fileSize))
      (fun _ _ => Follows size) (Follows size) := by
  rw [passSteps, List.forM_cons]
  refine Simulates.bind (rewind_follows pass) fun _ _ => ?_
  intro w st hstates
  change Related _ _
    ((Chunks.foldSteps (run.chunk pass) w.buffers.chunkSize fileSize tally >>= fun tally =>
      pure (if run.options.statistics then tally.finishPass else tally)) w) _
  rw [hstates.chunkSize, Chunks.foldSteps_eq, Chunks.lengths_eq_map,
    ← bind_pure (forM (List.flatMap _ _) _)]
  exact Simulates.bind (chunks_follow pass _ tally)
    (fun _ _ => Simulates.pure fun _ _ hafter => hafter) hstates

theorem passes_follow (left number : Nat) (tally : Tally) :
    Simulates (Follows size) (run.passes fileSize left number tally)
      (forM ((List.range' number left).flatMap (run.passSteps size fileSize))
        (run.take size fileSize))
      (fun _ _ => Follows size) (Follows size) := by
  induction left generalizing number tally with
  | zero => exact Simulates.pure fun _ _ hstates => hstates
  | succ left ih =>
      rw [List.range'_succ, List.flatMap_cons, List.forM_append]
      exact Simulates.bind (pass_follows number tally) fun tally _ => ih (number + 1) tally

/-- The run of a cell takes the scheduled steps. -/
theorem execute_follows :
    Simulates (Follows size) (run.execute fileSize)
      (forM (run.schedule size fileSize) (run.take size fileSize))
      (fun _ _ => Follows size) (Follows size) := by
  rw [execute, schedule, List.range_eq_range', ← bind_pure (forM _ _)]
  refine Simulates.bind_left (say_follows (.enter .cell)) fun _ => ?_
  refine Simulates.bind (passes_follow _ 0 .empty) fun tally _ => ?_
  refine Simulates.bind_left (say_follows (.exit .cell)) fun _ => ?_
  exact Simulates.pure fun _ _ hstates => hstates

/-! ## The first step that fails -/

theorem verificationFailed_of_blames {step : CellStep} {st : Standing σ} {codec : Codec}
    {level : Int} {fileName : String} {mismatch : Mismatch}
    (hblames :
      run.Blames size fileSize step st (.verificationFailed codec level fileName mismatch)) :
    ∃ pass chunk, step = .compare pass chunk := by
  cases step with
  | rewind pass =>
      obtain ⟨cause, input, -, hfault⟩ := hblames
      contradiction
  | read pass chunk =>
      obtain ⟨cause, input, -, hfault⟩ := hblames
      contradiction
  | compress pass chunk =>
      obtain ⟨cause, -, hfault⟩ := hblames
      contradiction
  | decompress pass chunk =>
      obtain ⟨cause, -, hfault⟩ := hblames
      contradiction
  | compare pass chunk => exact ⟨pass, chunk, rfl⟩

theorem verify_of_compare_mem_schedule {pass chunk : Nat}
    (hmem : .compare pass chunk ∈ run.schedule size fileSize) : run.options.verify = true := by
  simp only [schedule, passSteps, chunkSteps, List.mem_flatMap, List.mem_cons, List.mem_append,
    reduceCtorEq, false_or, List.not_mem_nil, or_false] at hmem
  obtain ⟨_, -, _, -, hcompare⟩ := hmem
  split at hcompare
  · assumption
  · contradiction

theorem execute_related (run : CellRun σ) (fileSize : Nat) (w : Workbench σ) :
    Related (fun _ _ => Follows w.buffers.chunkSize) (Follows w.buffers.chunkSize)
      (run.execute fileSize w)
      (forM (run.schedule w.buffers.chunkSize fileSize)
        (run.take w.buffers.chunkSize fileSize) w.standing) :=
  execute_follows ⟨rfl, rfl, rfl, rfl⟩

/-- A failed run stops at the first step that fails: the steps before it
succeed, and nothing touches the engine or the input after it. -/
theorem exists_step_of_execute_error {w after : Workbench σ} {fault : Fault}
    (hrun : run.execute fileSize w = .error fault after) :
    ∃ done step rest st left,
      run.schedule w.buffers.chunkSize fileSize = done ++ step :: rest ∧
        forM done (run.take w.buffers.chunkSize fileSize) w.standing = .ok () st ∧
        run.take w.buffers.chunkSize fileSize step st = .error fault left ∧
        after.native = left.native ∧ after.input = left.input := by
  have hrelated := execute_related run fileSize w
  rw [hrun] at hrelated
  obtain ⟨left, hsteps, hleft⟩ := hrelated.exists_error
  obtain ⟨done, step, rest, st, hsplit, hdone, htake⟩ := exists_error_of_forM_error hsteps
  exact ⟨done, step, rest, st, left, hsplit, hdone, htake, hleft.native, hleft.input⟩

/-- The outcome of a cell is that of its first step that fails. -/
theorem execute_first_failure (run : CellRun σ) (fileSize : Nat) (w : Workbench σ) :
    let size := w.buffers.chunkSize
    let steps := run.schedule size fileSize
    let take := run.take size fileSize
    ((∃ tally after, run.execute fileSize w = .ok tally after) ↔
      ∀ done step rest st, steps = done ++ step :: rest →
        forM done take w.standing = .ok () st → run.Succeeds size fileSize step st) ∧
    (∀ fault after, run.execute fileSize w = .error fault after →
      ∃ done step rest st left, steps = done ++ step :: rest ∧
        forM done take w.standing = .ok () st ∧ take step st = .error fault left ∧
        run.Blames size fileSize step st fault ∧
        after.native = left.native ∧ after.input = left.input) ∧
    (run.options.verify = false →
      ∀ fault after, run.execute fileSize w = .error fault after →
        ∀ codec level fileName mismatch,
          fault ≠ .verificationFailed codec level fileName mismatch) := by
  refine ⟨⟨?_, ?_⟩, ?_, ?_⟩
  · rintro ⟨tally, after, hrun⟩ done step rest st hsplit hdone
    have hrelated := execute_related run fileSize w
    rw [hrun, hsplit] at hrelated
    obtain ⟨_, left, hsteps, -⟩ := hrelated.exists_ok
    obtain ⟨after, htake⟩ := exists_ok_of_forM_ok hsteps hdone
    exact succeeds_of_take_ok htake
  · intro hsucceeds
    cases hrun : run.execute fileSize w with
    | ok tally after => exact ⟨tally, after, rfl⟩
    | error fault after =>
        obtain ⟨done, step, rest, st, left, hsplit, hdone, htake, -⟩ :=
          exists_step_of_execute_error hrun
        exact absurd (hsucceeds done step rest st hsplit hdone)
          (not_succeeds_of_blames (blames_of_take_error htake))
  · intro fault after hrun
    obtain ⟨done, step, rest, st, left, hsplit, hdone, htake, hnative, hinput⟩ :=
      exists_step_of_execute_error hrun
    exact ⟨done, step, rest, st, left, hsplit, hdone, htake, blames_of_take_error htake,
      hnative, hinput⟩
  · rintro hverify fault after hrun codec level fileName mismatch rfl
    obtain ⟨done, step, rest, st, left, hsplit, -, htake, -⟩ := exists_step_of_execute_error hrun
    obtain ⟨pass, chunk, rfl⟩ := verificationFailed_of_blames (blames_of_take_error htake)
    have hmem : .compare pass chunk ∈ run.schedule w.buffers.chunkSize fileSize := by
      rw [hsplit]
      exact List.mem_append_right _ List.mem_cons_self
    rw [verify_of_compare_mem_schedule hmem] at hverify
    contradiction

end CellRun
end RoundTrip
