import RoundTrip.Proofs.CellConditions
import RoundTrip.Proofs.CellRounds

/-!
# The bounds of a cell

A checked cell is a cell with a check in front of whatever could go out of
bounds: every slice of a block, every sum of a total and every division.  It is
the cell itself, since no check fails: what an engine reports is held against
the room that it was given before it is used, and the totals grow by no more
than one compressed block for each chunk.
-/

namespace RoundTrip

/-! ## Checks -/

/-- What a check finds. -/
inductive Trap where
  | slice (length size : Nat)
  | overflow (sum limit : Nat)
  | division
  deriving DecidableEq

/-- Why a checked run stops. -/
inductive Stop where
  | trap (trap : Trap)
  | fault (fault : Fault)
  deriving DecidableEq

/-- Stops where a condition does not hold. -/
def check {σ : Type} (condition : σ → Bool) (trap : σ → Trap) : EStateM Stop σ Unit := fun s =>
  if condition s then .ok () s else .error (.trap (trap s)) s

/-- A step that has nothing to check. -/
def unchecked {σ α : Type} (step : EStateM Fault σ α) : EStateM Stop σ α :=
  EStateM.adaptExcept Stop.fault step

theorem unchecked_ne_trap {σ α : Type} (step : EStateM Fault σ α) (s : σ) (trap : Trap)
    (after : σ) : unchecked step s ≠ .error (.trap trap) after := by
  rw [unchecked, EStateM.adaptExcept]
  cases step s with
  | ok a t => exact nofun
  | error fault t => exact nofun

namespace Workbench

variable {σ : Type}

/-- The first `length` bytes of a block are a slice of it. -/
def checkSlice (block : Buffers → Region) (length : Nat) : EStateM Stop (Workbench σ) Unit :=
  check (fun w => length ≤ (block w.buffers).size) fun w => .slice length (block w.buffers).size

end Workbench

/-- A sum is within a type of so many numbers. -/
def checkSum {σ : Type} (sum count : Nat) : EStateM Stop σ Unit :=
  check (fun _ => sum < count) fun _ => .overflow sum count

namespace Tally

variable {σ : Type}

def checkedRecordChunk (t : Tally) (compressed : Nat) (compressTime : Span) (decompressed : Nat)
    (decompressTime : Span) : EStateM Stop σ Tally := do
  checkSum (t.compressedBytes.toNat + compressed) (2 ^ 64)
  checkSum (t.decompressedBytes.toNat + decompressed) (2 ^ 64)
  return t.recordChunk compressed compressTime decompressed decompressTime

def checkedFinishPass (t : Tally) : EStateM Stop σ Tally := do
  checkSum (t.passes.toNat + 1) (2 ^ 32)
  return t.finishPass

/-- The byte totals are divided by the number of passes. -/
def checkedSummarize (t : Tally) (fileSize : Nat) (iterations : UInt32) : Except Trap Summary :=
  if (max iterations 1).toUInt64 = 0 then .error .division
  else .ok (t.summarize fileSize iterations)

end Tally

namespace CellRun

variable {σ : Type}

def checkedChunk (run : CellRun σ) (pass : Nat) (tally : Tally) (length : Nat) :
    EStateM Stop (Workbench σ) Tally := do
  Workbench.checkSlice Buffers.input length
  unchecked (Workbench.load length)
  let (packed, compressTime) ← unchecked (run.compress length)
  Workbench.checkSlice Buffers.compressed packed
  Workbench.checkSlice Buffers.decompressed length
  let (decoded, decompressTime) ← unchecked (run.decompress packed length)
  if run.options.verify then
    Workbench.checkSlice Buffers.decompressed decoded
    unchecked (run.compare length decoded)
  unchecked (Workbench.say
    (.chunkDone run.cell pass length packed decoded compressTime decompressTime))
  if run.options.statistics then
    tally.checkedRecordChunk packed compressTime decoded decompressTime
  else return tally

def checkedPass (run : CellRun σ) (fileSize number : Nat) (tally : Tally) :
    EStateM Stop (Workbench σ) Tally := do
  unchecked Workbench.rewind
  let w ← get
  let tally ← Chunks.foldSteps (run.checkedChunk number) w.buffers.chunkSize fileSize tally
  if run.options.statistics then tally.checkedFinishPass else return tally

def checkedPasses (run : CellRun σ) (fileSize : Nat) :
    Nat → Nat → Tally → EStateM Stop (Workbench σ) Tally
  | 0, _, tally => pure tally
  | left + 1, number, tally => do
      let tally ← run.checkedPass fileSize number tally
      run.checkedPasses fileSize left (number + 1) tally

/-- The cell with all its checks. -/
def checkedExecute (run : CellRun σ) (fileSize : Nat) : EStateM Stop (Workbench σ) Tally := do
  unchecked (Workbench.say (.enter .cell))
  let tally ← run.checkedPasses fileSize run.options.iterations.toNat 0 .empty
  unchecked (Workbench.say (.exit .cell))
  return tally

end CellRun

/-! ## Steps whose checks hold -/

/-- From a state with `pre` the checked step does what the plain one does, and an answer leaves
`post`. -/
def Guards {σ α : Type} (pre : σ → Prop) (checked : EStateM Stop σ α) (plain : EStateM Fault σ α)
    (post : α → σ → Prop) : Prop :=
  ∀ s, pre s → checked s = unchecked plain s ∧ ∀ a t, plain s = .ok a t → post a t

namespace Guards

variable {σ α β γ : Type} {pre : σ → Prop}

theorem pure {post : α → σ → Prop} {a : α} (hpost : ∀ s, pre s → post a s) :
    Guards pre (Pure.pure a) (Pure.pure a) post := by
  refine fun s hs => ⟨rfl, ?_⟩
  rintro _ _ ⟨rfl, rfl⟩
  exact hpost s hs

theorem get : Guards pre (MonadState.get : EStateM Stop σ σ) MonadState.get
    (fun a s => a = s ∧ pre s) := by
  refine fun s hs => ⟨rfl, ?_⟩
  rintro _ _ ⟨rfl, rfl⟩
  exact ⟨rfl, hs⟩

theorem unchecked {step : EStateM Fault σ α} {post : α → σ → Prop}
    (hstep : Ensures pre step post fun _ _ => True) :
    Guards pre (RoundTrip.unchecked step) step post :=
  fun _ hs => ⟨rfl, fun _ _ hrun => hstep.of_ok hs hrun⟩

theorem bind {checked : EStateM Stop σ α} {plain : EStateM Fault σ α}
    {next : α → EStateM Stop σ β} {next' : α → EStateM Fault σ β} {mid : α → σ → Prop}
    {post : β → σ → Prop} (hsteps : Guards pre checked plain mid)
    (hnext : ∀ a, Guards (mid a) (next a) (next' a) post) :
    Guards pre (checked >>= next) (plain >>= next') post := by
  intro s hs
  obtain ⟨hsame, hmid⟩ := hsteps s hs
  simp only [RoundTrip.unchecked, EStateM.adaptExcept] at hsame
  simp only [Bind.bind, EStateM.bind, RoundTrip.unchecked, EStateM.adaptExcept, hsame]
  cases hrun : plain s with
  | ok a t => exact hnext a t (hmid a t hrun)
  | error fault t => exact ⟨rfl, nofun⟩

/-- A check that holds is passed over. -/
theorem check_bind {condition : σ → Bool} {trap : σ → Trap} {rest : EStateM Stop σ α}
    {plain : EStateM Fault σ α} {post : α → σ → Prop} (hcheck : ∀ s, pre s → condition s = true)
    (hrest : Guards pre rest plain post) :
    Guards pre (check condition trap >>= fun _ => rest) plain post := by
  intro s hs
  simp only [Bind.bind, EStateM.bind, check, hcheck s hs, if_true]
  exact hrest s hs

theorem ite {b : Bool} {first second : EStateM Stop σ α} {first' second' : EStateM Fault σ α}
    {post : α → σ → Prop} (htrue : b = true → Guards pre first first' post)
    (hfalse : b = false → Guards pre second second' post) :
    Guards pre (if b then first else second) (if b then first' else second') post := by
  cases b with
  | true => exact htrue rfl
  | false => exact hfalse rfl

theorem foldlM_range' {checked : β → γ → EStateM Stop σ β} {plain : β → γ → EStateM Fault σ β}
    {f : Nat → γ} {inv : Nat → β → σ → Prop} (start count : Nat)
    (hstep : ∀ k, start ≤ k → k < start + count → ∀ b,
      Guards (inv k b) (checked b (f k)) (plain b (f k)) (inv (k + 1))) (b : β) :
    Guards (inv start b) (((List.range' start count).map f).foldlM checked b)
      (((List.range' start count).map f).foldlM plain b) (inv (start + count)) := by
  induction count generalizing start b with
  | zero => exact Guards.pure fun _ hs => hs
  | succ count ih =>
      rw [List.range'_succ, List.map_cons, List.foldlM_cons, List.foldlM_cons]
      refine Guards.bind (hstep start (Nat.le_refl _) (by omega) b) fun b => ?_
      have hrest := ih (start + 1) (fun k hlow hhigh => hstep k (by omega) (by omega)) b
      rwa [show start + 1 + count = start + (count + 1) by omega] at hrest

theorem foldlM_range {checked : β → γ → EStateM Stop σ β} {plain : β → γ → EStateM Fault σ β}
    {f : Nat → γ} {inv : Nat → β → σ → Prop} {count : Nat}
    (hstep : ∀ k, k < count → ∀ b,
      Guards (inv k b) (checked b (f k)) (plain b (f k)) (inv (k + 1))) (b : β) :
    Guards (inv 0 b) (((List.range count).map f).foldlM checked b)
      (((List.range count).map f).foldlM plain b) (inv count) := by
  have hfold := foldlM_range' 0 count (fun k _ hk => hstep k (by omega)) b
  rwa [← List.range_eq_range', Nat.zero_add] at hfold

end Guards

/-! ## Totals -/

namespace Tally

variable {σ : Type}

/-- After so many rounds and passes the totals are within so many blocks of `room` bytes. -/
structure Within (room rounds passes : Nat) (t : Tally) : Prop where
  compressed : t.compressedBytes.toNat ≤ rounds * room
  decompressed : t.decompressedBytes.toNat ≤ rounds * room
  passes : t.passes.toNat ≤ passes

theorem within_empty (room : Nat) : Within room 0 0 empty :=
  ⟨Nat.zero_le _, Nat.zero_le _, Nat.zero_le _⟩

theorem Within.mono {room rounds rounds' passes passes' : Nat} {t : Tally}
    (hwithin : Within room rounds passes t) (hrounds : rounds ≤ rounds')
    (hpasses : passes ≤ passes') : Within room rounds' passes' t :=
  ⟨Nat.le_trans hwithin.compressed (Nat.mul_le_mul_right room hrounds),
    Nat.le_trans hwithin.decompressed (Nat.mul_le_mul_right room hrounds),
    Nat.le_trans hwithin.passes hpasses⟩

theorem toNat_add_toUInt64 {a : UInt64} {n : Nat} (hsum : a.toNat + n < 2 ^ 64) :
    (a + n.toUInt64).toNat = a.toNat + n := by
  rw [UInt64.toNat_add, Nat.toUInt64, UInt64.toNat_ofNat']
  omega

theorem recordChunk_guards {room rounds passes compressed decompressed : Nat} {t : Tally}
    (hwithin : Within room rounds passes t) (hlimit : (rounds + 1) * room < 2 ^ 64)
    (hcompressed : compressed ≤ room) (hdecompressed : decompressed ≤ room)
    (compressTime decompressTime : Span) {pre : σ → Prop} :
    Guards pre (t.checkedRecordChunk compressed compressTime decompressed decompressTime)
      (pure (t.recordChunk compressed compressTime decompressed decompressTime))
      (fun t s => Within room (rounds + 1) passes t ∧ pre s) := by
  have hfirst := hwithin.compressed
  have hsecond := hwithin.decompressed
  rw [Nat.succ_mul] at hlimit
  have hsum : t.compressedBytes.toNat + compressed < 2 ^ 64 := by omega
  have hsum' : t.decompressedBytes.toNat + decompressed < 2 ^ 64 := by omega
  refine Guards.check_bind (fun _ _ => decide_eq_true hsum) ?_
  refine Guards.check_bind (fun _ _ => decide_eq_true hsum') (Guards.pure fun s hs => ⟨?_, hs⟩)
  constructor
  · rw [Nat.succ_mul, recordChunk, toNat_add_toUInt64 hsum]
    exact Nat.add_le_add hfirst hcompressed
  · rw [Nat.succ_mul, recordChunk, toNat_add_toUInt64 hsum']
    exact Nat.add_le_add hsecond hdecompressed
  · exact hwithin.passes

theorem finishPass_guards {room rounds passes : Nat} {t : Tally}
    (hwithin : Within room rounds passes t) (hlimit : passes + 1 < 2 ^ 32) {pre : σ → Prop} :
    Guards pre t.checkedFinishPass (pure t.finishPass)
      (fun t s => Within room rounds (passes + 1) t ∧ pre s) := by
  have hpasses := hwithin.passes
  have hsum : t.passes.toNat + 1 < 2 ^ 32 := by omega
  refine Guards.check_bind (fun _ _ => decide_eq_true hsum) (Guards.pure fun s hs => ⟨?_, hs⟩)
  refine ⟨hwithin.compressed, hwithin.decompressed, ?_⟩
  rw [finishPass, UInt32.toNat_add]
  exact Nat.le_trans (Nat.mod_le _ _) (Nat.succ_le_succ hpasses)

/-- No number of passes makes a divisor of zero. -/
theorem checkedSummarize_eq (t : Tally) (fileSize : Nat) (iterations : UInt32) :
    t.checkedSummarize fileSize iterations = .ok (t.summarize fileSize iterations) := by
  refine if_neg fun hzero => ?_
  have hnone : (max iterations 1).toNat = 0 := by simpa using congrArg UInt64.toNat hzero
  rw [show max iterations 1 = if iterations ≤ 1 then 1 else iterations from rfl] at hnone
  split at hnone
  · contradiction
  · rename_i hmore
    rw [UInt32.le_iff_toNat_le] at hmore
    exact hmore (by omega)

end Tally

/-! ## What is reported -/

/-- A count that is reported is within the engine's type of lengths. -/
theorem EntryPoints.produced_le_lengthLimit {σ : Type} {native : Native σ} {entry : EntryPoints}
    {request : Request} {source destination : Region} {room : Nat} {s : σ} {n : Nat}
    (hok : (perform native entry request source destination room s).1.produced = .ok n) :
    n ≤ entry.engine.lengthLimit := by
  simp only [perform] at hok
  split at hok
  · contradiction
  · exact Engine.interpret_le_lengthLimit hok

/-- No engine can report more bytes of a chunk than its compressed form has room for. -/
theorem Engine.le_compressionBound {e : Engine} {n size : Nat} (hlimit : n ≤ e.lengthLimit)
    (hsize : n ≤ size) : n ≤ compressionBound size := by
  have hword : e.lengthLimit ≤ 0xFFFFFFFFFFFFFFFF := by cases e <;> decide
  simp only [compressionBound]
  omega

namespace CellRun

variable {σ : Type} {run : CellRun σ} {size fileSize length : Nat}

/-- The blocks take chunks of `size` bytes. -/
def Sized (size : Nat) (w : Workbench σ) : Prop := w.buffers.chunkSize = size

theorem Sized.size_input {w : Workbench σ} (hsized : Sized size w) : w.buffers.input.size = size :=
  hsized

theorem Sized.size_compressed {w : Workbench σ} (hsized : Sized size w) :
    w.buffers.compressed.size = compressionBound size := by
  rw [w.buffers.size_compressed, hsized.size_input]

theorem Sized.size_decompressed {w : Workbench σ} (hsized : Sized size w) :
    w.buffers.decompressed.size = size := by
  rw [w.buffers.size_decompressed, hsized.size_input]

theorem sized_lasting : Workbench.Lasting (Sized (σ := σ) size) :=
  fun _ _ hsized hsize _ => hsize.trans hsized

theorem say_sized (notice : Notice) :
    Ensures (Sized (σ := σ) size) (Workbench.say notice) (fun _ => Sized size)
      fun _ _ => True :=
  say_lasting sized_lasting notice

theorem rewind_sized :
    Ensures (Sized (σ := σ) size) Workbench.rewind (fun _ => Sized size) fun _ _ => True :=
  rewind_lasting sized_lasting fun _ _ _ _ => trivial

theorem load_sized :
    Ensures (Sized (σ := σ) size) (Workbench.load length) (fun _ => Sized size)
      fun _ _ => True :=
  load_lasting sized_lasting (fun _ _ _ _ => trivial) length

/-- What is reported of a chunk that was compressed is within the compressed block. -/
theorem compress_sized :
    Ensures (Sized size) (run.compress length)
      (fun answer w => answer.1 ≤ compressionBound size ∧ Sized size w) fun _ _ => True := by
  intro w hsized
  cases hproduced : (run.entry.compress run.native run.cell.level run.options.extra
      (w.buffers.input.take length) w.buffers.compressed w.native).1.produced with
  | ok packed =>
      simp only [CellRun.compress, hproduced]
      refine ⟨?_, hsized⟩
      rw [← hsized.size_compressed]
      exact EntryPoints.produced_le hproduced
  | error cause => simp only [CellRun.compress, hproduced]

/-- What is reported of a chunk that came back is within the room for the chunk. -/
theorem decompress_sized {packed : Nat} :
    Ensures (Sized size) (run.decompress packed length)
      (fun answer w => (answer.1 ≤ length ∧ answer.1 ≤ run.entry.engine.lengthLimit) ∧ Sized size w)
      fun _ _ => True := by
  intro w hsized
  cases hproduced : (run.entry.decompress run.native (w.buffers.compressed.take packed)
      w.buffers.decompressed length w.native).1.produced with
  | ok decoded =>
      simp only [CellRun.decompress, hproduced]
      exact ⟨⟨EntryPoints.produced_le hproduced, EntryPoints.produced_le_lengthLimit hproduced⟩,
        hsized⟩
  | error cause => simp only [CellRun.decompress, hproduced]

theorem compare_sized {decoded : Nat} :
    Ensures (Sized size) (run.compare length decoded) (fun _ => Sized size) fun _ _ => True :=
  compare_lasting (fun _ _ _ _ => trivial) length decoded

/-! ## A chunk, a pass, the run -/

/-- The totals are within the rounds made so far, and the blocks are as they were. -/
def Bounded (size rounds passes : Nat) (tally : Tally) (w : Workbench σ) : Prop :=
  tally.Within (compressionBound size) rounds passes ∧ Sized size w

theorem chunk_guards {rounds passes number : Nat} {tally : Tally} (hlength : length ≤ size)
    (hlimit : (rounds + 1) * compressionBound size < 2 ^ 64) :
    Guards (Bounded size rounds passes tally) (run.checkedChunk number tally length)
      (run.chunk number tally length) (Bounded size (rounds + 1) passes) := by
  rintro w ⟨hwithin, hsized⟩
  have hrecord {packed decoded : Nat} (hpacked : packed ≤ compressionBound size)
      (hdecoded : decoded ≤ compressionBound size) (notice : Notice)
      (compressTime decompressTime : Span) :
      Guards (Sized size)
        (unchecked (Workbench.say notice) >>= fun _ =>
          if run.options.statistics then
            tally.checkedRecordChunk packed compressTime decoded decompressTime
          else pure tally)
        (Workbench.say notice >>= fun _ =>
          if run.options.statistics then
            pure (tally.recordChunk packed compressTime decoded decompressTime)
          else pure tally)
        (Bounded (σ := σ) size (rounds + 1) passes) := by
    refine Guards.bind (.unchecked (say_sized notice)) fun _ =>
      Guards.ite (fun _ => ?_) fun _ => Guards.pure fun w hsized => ?_
    · exact Tally.recordChunk_guards hwithin hlimit hpacked hdecoded _ _
    · exact ⟨hwithin.mono (Nat.le_succ rounds) (Nat.le_refl passes), hsized⟩
  have hchunk : Guards (Sized size) (run.checkedChunk number tally length)
      (run.chunk number tally length) (Bounded size (rounds + 1) passes) := by
    refine Guards.check_bind (fun w hsized => ?_) <| Guards.bind (.unchecked load_sized) fun _ => ?_
    · exact decide_eq_true (hsized.size_input ▸ hlength)
    refine Guards.bind (.unchecked compress_sized) fun packed => ?_
    refine Guards.check_bind (fun w hw => ?_) <| Guards.check_bind (fun w hw => ?_) ?_
    · exact decide_eq_true (hw.2.size_compressed ▸ hw.1)
    · exact decide_eq_true (hw.2.size_decompressed ▸ hlength)
    rintro w ⟨hpacked, hsized⟩
    refine Guards.bind (.unchecked decompress_sized) (fun decoded => ?_) w hsized
    rintro w ⟨⟨hdecoded, hword⟩, hsized⟩
    have hfits : decoded.1 ≤ size := Nat.le_trans hdecoded hlength
    have hrest := hrecord hpacked (Engine.le_compressionBound hword hfits)
    refine Guards.ite (fun _ => ?_) (fun _ => hrest _ _ _) w hsized
    refine Guards.check_bind (fun w hsized => ?_) ?_
    · exact decide_eq_true (hsized.size_decompressed ▸ hfits)
    · exact Guards.bind (.unchecked compare_sized) fun _ => hrest _ _ _
  exact hchunk w hsized

/-- Pass number `pass` of `passes`, where chunks are counted on from pass to pass. -/
theorem pass_guards {pass passes number : Nat} {tally : Tally} (hpass : pass < passes)
    (hpasses : passes < 2 ^ 32)
    (hlimit : passes * Chunks.count size fileSize * compressionBound size < 2 ^ 64) :
    Guards (Bounded size (pass * Chunks.count size fileSize) pass tally)
      (run.checkedPass fileSize number tally) (run.pass fileSize number tally)
      (Bounded size ((pass + 1) * Chunks.count size fileSize) (pass + 1)) := by
  have hchunk (k : Nat) (hk : k < Chunks.count size fileSize) (tally : Tally) :
      Guards (Bounded size (pass * Chunks.count size fileSize + k) pass tally)
        (run.checkedChunk number tally (Chunks.lengthAt size fileSize k))
        (run.chunk number tally (Chunks.lengthAt size fileSize k))
        (Bounded size (pass * Chunks.count size fileSize + (k + 1)) pass) := by
    refine chunk_guards (Chunks.lengthAt_le size fileSize k) (Nat.lt_of_le_of_lt ?_ hlimit)
    exact Nat.mul_le_mul_right _ (mul_add_lt hpass hk)
  have hfinish (tally : Tally) :
      Guards (Bounded size (pass * Chunks.count size fileSize + Chunks.count size fileSize) pass
          tally)
        (if run.options.statistics then tally.checkedFinishPass else pure tally)
        (pure (if run.options.statistics then tally.finishPass else tally))
        (Bounded (σ := σ) size ((pass + 1) * Chunks.count size fileSize) (pass + 1)) := by
    rw [← Nat.succ_mul]
    rintro w ⟨hwithin, hsized⟩
    cases run.options.statistics with
    | false =>
        have hkept := hwithin.mono (Nat.le_refl _) (Nat.le_succ pass)
        exact Guards.pure (fun _ hsized => ⟨hkept, hsized⟩) w hsized
    | true => exact Tally.finishPass_guards hwithin (by omega) w hsized
  rintro w ⟨hwithin, hsized⟩
  refine Guards.bind (.unchecked rewind_sized) (fun _ => ?_) w hsized
  refine Guards.bind Guards.get fun w => ?_
  rintro _ ⟨rfl, rfl⟩
  have hchunks := Guards.foldlM_range hchunk tally
  rw [← Chunks.lengths_eq_map, ← Chunks.foldSteps_eq, ← Chunks.foldSteps_eq] at hchunks
  exact Guards.bind hchunks hfinish w ⟨hwithin, rfl⟩

theorem passes_guards (run : CellRun σ) {passes : Nat} (hpasses : passes < 2 ^ 32)
    (hlimit : passes * Chunks.count size fileSize * compressionBound size < 2 ^ 64)
    (left pass : Nat) (hleft : pass + left = passes) (number : Nat) (tally : Tally) :
    Guards (Bounded size (pass * Chunks.count size fileSize) pass tally)
      (run.checkedPasses fileSize left number tally) (run.passes fileSize left number tally)
      (Bounded size (passes * Chunks.count size fileSize) passes) := by
  induction left generalizing pass number tally with
  | zero =>
      obtain rfl : pass = passes := hleft
      exact Guards.pure fun _ hbounded => hbounded
  | succ left ih =>
      refine Guards.bind (pass_guards (by omega) hpasses hlimit) fun tally => ?_
      exact ih (pass + 1) (by omega) (number + 1) tally

theorem execute_guards
    (hlimit : run.options.iterations.toNat * Chunks.count size fileSize * compressionBound size <
      2 ^ 64) :
    Guards (Sized size) (run.checkedExecute fileSize) (run.execute fileSize)
      (fun _ => Sized size) := by
  refine Guards.bind (.unchecked (say_sized _)) fun _ => ?_
  have hpasses := run.passes_guards (UInt32.toNat_lt _) hlimit _ 0 (Nat.zero_add _) 0 .empty
  rw [Nat.zero_mul] at hpasses
  intro w hsized
  refine Guards.bind hpasses (fun tally => ?_) w ⟨Tally.within_empty _, hsized⟩
  rintro w ⟨-, hsized⟩
  refine Guards.bind (.unchecked (say_sized _)) (fun _ => ?_) w hsized
  exact Guards.pure fun _ hsized => hsized

/-- Whatever the engine reports, a cell is the checked cell: none of its slices leaves its block, no
total goes beyond its type, and no figure is divided by zero, as long as so many compressed blocks
can be counted at all. -/
theorem checkedExecute_eq (run : CellRun σ) (fileSize : Nat) (w : Workbench σ)
    (hlimit : run.options.iterations.toNat * Chunks.count w.buffers.chunkSize fileSize *
      compressionBound w.buffers.chunkSize < 2 ^ 64) :
    run.checkedExecute fileSize w = unchecked (run.execute fileSize) w ∧
      (∀ trap after, run.checkedExecute fileSize w ≠ .error (.trap trap) after) ∧
      ∀ (tally : Tally) (iterations : UInt32),
        tally.checkedSummarize fileSize iterations = .ok (tally.summarize fileSize iterations) := by
  have hsame := (execute_guards hlimit w rfl).1
  refine ⟨hsame, fun trap after => ?_, fun tally => tally.checkedSummarize_eq fileSize⟩
  rw [hsame]
  exact unchecked_ne_trap _ w trap after

/-- An engine that reports the greatest length there is, over three bytes in chunks of two. -/
theorem checkedExecute_eq_boast :
    let native : Native Unit := fun _ s => (⟨0, 0xFFFFFFFFFFFFFFFF, [], 0⟩, s)
    let run : CellRun Unit :=
      ⟨native, ⟨.zlib, .process⟩, ⟨"", .zlib, 6, "input"⟩, ⟨2, true, true, 0⟩⟩
    let w : Workbench Unit := ⟨.ofThreshold 0, (), .ofList [1, 2, 3], .ofChunkSize 2⟩
    run.options.iterations.toNat * Chunks.count w.buffers.chunkSize 3 *
        compressionBound w.buffers.chunkSize < 2 ^ 64 ∧
      run.checkedExecute 3 w = unchecked (run.execute 3) w ∧
      (∀ trap after, run.checkedExecute 3 w ≠ .error (.trap trap) after) ∧
      ∀ (tally : Tally) (iterations : UInt32),
        tally.checkedSummarize 3 iterations = .ok (tally.summarize 3 iterations) := by
  intro native run w
  have hlimit : run.options.iterations.toNat * Chunks.count w.buffers.chunkSize 3 *
      compressionBound w.buffers.chunkSize < 2 ^ 64 := by decide
  exact ⟨hlimit, checkedExecute_eq run 3 w hlimit⟩

end CellRun

end RoundTrip
