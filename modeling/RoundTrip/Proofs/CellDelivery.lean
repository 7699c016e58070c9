import RoundTrip.Proofs.CellMirror
import RoundTrip.Proofs.ChunkCover
import RoundTrip.Proofs.SteadyReading

/-!
# How an input delivers the bytes of a cell

A cell reads the first bytes of its input only, always from the start, and gathers
every chunk from as many reads as it takes.  So two inputs that begin with the
same bytes can stand in for each other, wherever they stand at first, however
little a read of them brings, and however often one is interrupted.  A cell
rewinds both once for every pass, and reads neither any further than it needs.
-/

namespace RoundTrip

namespace Input

/-- The input never fails, and a read brings something as long as there is something. -/
structure Prompt (i : Input) : Prop where
  steady : i.Steady
  progress : ¬ i.Idle

theorem Prompt.deliverable {i : Input} (hprompt : i.Prompt) :
    i.deliverable = i.contents.toList := if_neg hprompt.progress

theorem Prompt.reachable {i : Input} (hprompt : i.Prompt) : i.reachable = i.ahead := by
  rw [Input.reachable, hprompt.deliverable]
  rfl

/-- An input that was once `origin` and was rewound `n` times since then.  It begins with these
bytes, and was read no further than to `size`. -/
structure Reread (size : Nat) (bytes : List UInt8) (n : Nat) (origin i : Input) : Prop where
  prompt : i.Prompt
  bytes : i.contents.toList.take size = bytes
  seeks : i.seeks = origin.seeks + n
  furthest : i.furthest ≤ max origin.furthest size

section Reread

variable {size n : Nat} {bytes : List UInt8} {origin i : Input}

theorem Reread.rewind (hreread : Reread size bytes n origin i) :
    ∃ j, i.rewind = .ok () j ∧ j.position = 0 ∧ Reread size bytes (n + 1) origin j := by
  obtain ⟨⟨hsteady, hprogress⟩, hbytes, hseeks, hfurthest⟩ := hreread
  exact ⟨_, hsteady.rewind, rfl, ⟨hsteady.rewound, hprogress⟩, hbytes, congrArg Nat.succ hseeks,
    hfurthest⟩

/-- What is read within the first bytes depends on these bytes alone. -/
theorem Reread.readExact (hreread : Reread size bytes n origin i) {p wanted : Nat}
    (hposition : i.position = p) (hwithin : p + wanted ≤ size) :
    ∃ j, Reread size bytes n origin j ∧ j.position = p + min wanted (bytes.length - p) ∧
      readExact wanted i =
        if wanted ≤ bytes.length - p then .ok ((bytes.drop p).take wanted) j
        else .error .endOfInput j := by
  subst hposition
  obtain ⟨hprompt, rfl, hseeks, hfurthest⟩ := hreread
  obtain ⟨j, hmoved, hfill⟩ := hprompt.steady.fill wanted #[]
  have hahead : i.ahead.length = i.contents.toList.length - i.position := List.length_drop
  have hlength : (i.contents.toList.take size).length = min size i.contents.toList.length :=
    List.length_take
  have htake : ((i.contents.toList.take size).drop i.position).take wanted =
      i.ahead.take wanted := by
    rw [List.drop_take, List.take_take, Nat.min_eq_left (by omega), ahead]
  rw [hprompt.reachable] at hmoved hfill
  refine ⟨j, ⟨⟨hmoved.steady, ?_⟩, ?_, hmoved.seeks.trans hseeks, ?_⟩, ?_, ?_⟩
  · rw [hmoved.idle]
    exact hprompt.progress
  · rw [hmoved.contents]
  · have hfar := hmoved.furthest
    omega
  · rw [hmoved.position]
    omega
  · rw [Input.readExact, hfill, htake]
    by_cases henough : wanted ≤ i.ahead.length
    · rw [if_pos henough, if_pos (by omega)]
      rfl
    · rw [if_neg henough, if_neg (by omega)]

end Reread
end Input

/-! ## Two workbenches with inputs of their own -/

/-- What two runs have in common: the first bytes of their inputs, cut into chunks of one size. -/
structure Share where
  fileSize : Nat
  size : Nat
  bytes : List UInt8
  first : Input
  second : Input

namespace Share

variable {share : Share} {k : Nat}

/-- Where chunk `k` starts, or the end of the file. -/
def startAt (share : Share) (k : Nat) : Nat := min (k * share.size) share.fileSize

theorem startAt_zero : share.startAt 0 = 0 := by
  rw [startAt, Nat.zero_mul, Nat.zero_min]

theorem startAt_succ (hk : k < Chunks.count share.size share.fileSize) :
    share.startAt (k + 1) = share.startAt k + Chunks.lengthAt share.size share.fileSize k := by
  have hstart := (Chunks.lt_count_iff (Chunks.size_pos_of_lt_count hk) share.fileSize k).mp hk
  rw [startAt, startAt, ← Chunks.start_add_lengthAt hk, Nat.min_eq_left (Nat.le_of_lt hstart)]

/-- The chunks take the whole file, if they are not empty. -/
theorem startAt_count (hcut : 0 < share.fileSize → 0 < share.size) :
    share.startAt (Chunks.count share.size share.fileSize) = share.fileSize := by
  refine Nat.min_eq_right ?_
  rcases Nat.eq_zero_or_pos share.fileSize with hempty | hfile
  · rw [hempty]
    exact Nat.zero_le _
  · exact Chunks.count_mul_ge (hcut hfile) share.fileSize

end Share

namespace Workbench

variable {σ : Type}

/-- The workbenches differ in their inputs only.  Both inputs were rewound `n` times, and stand at
`place` where that is known. -/
structure InStep (share : Share) (n : Nat) (place : Option Nat) (w v : Workbench σ) : Prop where
  console : w.console = v.console
  native : w.native = v.native
  buffers : w.buffers = v.buffers
  chunkSize : w.buffers.chunkSize = share.size
  first : Input.Reread share.fileSize share.bytes n share.first w.input
  second : Input.Reread share.fileSize share.bytes n share.second v.input
  position : ∀ p, place = some p → w.input.position = p ∧ v.input.position = p

/-- In step, after however many rewinds. -/
def Kept (share : Share) (w v : Workbench σ) : Prop := ∃ n, InStep share n none w v

theorem InStep.anywhere {share : Share} {n : Nat} {place : Option Nat} {w v : Workbench σ}
    (hstates : InStep share n place w v) : InStep share n none w v :=
  ⟨hstates.console, hstates.native, hstates.buffers, hstates.chunkSize, hstates.first,
    hstates.second, nofun⟩

theorem InStep.kept {share : Share} {n : Nat} {place : Option Nat} {w v : Workbench σ}
    (hstates : InStep share n place w v) : Kept share w v := ⟨n, hstates.anywhere⟩

end Workbench

namespace CellRun

open Workbench

variable {σ : Type} (run : CellRun σ) {share : Share} {n : Nat} {place : Option Nat}

/-! ## One step after another -/

theorem say_inStep (notice : Notice) :
    Simulates (InStep share n place) (Workbench.say notice) (Workbench.say notice)
      (Alike (InStep share n place)) (Kept (σ := σ) share) := by
  rintro w v ⟨hconsole, hnative, hbuffers, hsize, hfirst, hsecond, hposition⟩
  exact .ok ⟨rfl, congrArg (·.say notice) hconsole, hnative, hbuffers, hsize, hfirst, hsecond,
    hposition⟩

theorem rewind_inStep :
    Simulates (InStep share n place) Workbench.rewind Workbench.rewind
      (Alike (InStep share (n + 1) (some 0))) (Kept (σ := σ) share) := by
  rintro w v ⟨hconsole, hnative, hbuffers, hsize, hfirst, hsecond, -⟩
  obtain ⟨i, hrewind, hstart, hafter⟩ := hfirst.rewind
  obtain ⟨j, hrewind', hstart', hafter'⟩ := hsecond.rewind
  simp only [Workbench.rewind, hrewind, hrewind']
  refine .ok ⟨rfl, hconsole, hnative, hbuffers, hsize, hafter, hafter', ?_⟩
  rintro _ ⟨rfl⟩
  exact ⟨hstart, hstart'⟩

theorem load_inStep {p length : Nat} (hwithin : p + length ≤ share.fileSize) :
    Simulates (InStep share n (some p)) (Workbench.load length) (Workbench.load length)
      (Alike (InStep share n (some (p + length)))) (Kept (σ := σ) share) := by
  rintro ⟨console, native, input, buffers⟩ ⟨_, _, input', _⟩
    ⟨rfl, rfl, rfl, hsize, hfirst, hsecond, hposition⟩
  obtain ⟨hplace, hplace'⟩ := hposition p rfl
  obtain ⟨i, hafter, hmoved, hread⟩ := hfirst.readExact hplace hwithin
  obtain ⟨j, hafter', hmoved', hread'⟩ := hsecond.readExact hplace' hwithin
  simp only [Workbench.load, hread, hread']
  by_cases henough : length ≤ share.bytes.length - p
  · rw [if_pos henough, if_pos henough]
    refine .ok ⟨rfl, rfl, rfl, rfl, ?_, hafter, hafter', ?_⟩
    · rw [Buffers.chunkSize_load]
      exact hsize
    · rintro _ ⟨rfl⟩
      rw [Nat.min_eq_left henough] at hmoved hmoved'
      exact ⟨hmoved, hmoved'⟩
  · rw [if_neg henough, if_neg henough]
    refine .error _ ⟨n, rfl, rfl, rfl, hsize, hafter, hafter', ?_⟩
    rintro _ ⟨⟩

theorem compress_inStep (length : Nat) :
    Simulates (InStep share n place) (run.compress length) (run.compress length)
      (Alike (InStep share n place)) (Kept share) := by
  rintro ⟨console, native, input, buffers⟩ ⟨_, _, input', _⟩
    ⟨rfl, rfl, rfl, hsize, hfirst, hsecond, hposition⟩
  simp only [CellRun.compress]
  split
  · exact .ok ⟨rfl, rfl, rfl, rfl, hsize, hfirst, hsecond, hposition⟩
  · exact .error _ (InStep.kept ⟨rfl, rfl, rfl, hsize, hfirst, hsecond, hposition⟩)

theorem decompress_inStep (packed length : Nat) :
    Simulates (InStep share n place) (run.decompress packed length)
      (run.decompress packed length) (Alike (InStep share n place)) (Kept share) := by
  rintro ⟨console, native, input, buffers⟩ ⟨_, _, input', _⟩
    ⟨rfl, rfl, rfl, hsize, hfirst, hsecond, hposition⟩
  simp only [CellRun.decompress]
  split
  · exact .ok ⟨rfl, rfl, rfl, rfl, hsize, hfirst, hsecond, hposition⟩
  · exact .error _ (InStep.kept ⟨rfl, rfl, rfl, hsize, hfirst, hsecond, hposition⟩)

theorem compare_inStep (length decoded : Nat) :
    Simulates (InStep share n place) (run.compare length decoded) (run.compare length decoded)
      (Alike (InStep share n place)) (Kept share) := by
  rintro ⟨console, native, input, buffers⟩ ⟨_, _, input', _⟩
    ⟨rfl, rfl, rfl, hsize, hfirst, hsecond, hposition⟩
  simp only [CellRun.compare]
  split
  · exact .ok ⟨rfl, rfl, rfl, rfl, hsize, hfirst, hsecond, hposition⟩
  · exact .error _ (InStep.kept ⟨rfl, rfl, rfl, hsize, hfirst, hsecond, hposition⟩)

/-! ## Whole cells -/

theorem chunk_inStep {k : Nat} (hk : k < Chunks.count share.size share.fileSize) (number : Nat)
    (tally : Tally) :
    Coupled (fun _ _ => True) (InStep share n (some (share.startAt k)))
      (run.chunk number tally (Chunks.lengthAt share.size share.fileSize k))
      (run.chunk number tally (Chunks.lengthAt share.size share.fileSize k))
      (fun _ => InStep share n (some (share.startAt (k + 1)))) (Kept share) := by
  have hload : Simulates (InStep share n (some (share.startAt k)))
      (Workbench.load (Chunks.lengthAt share.size share.fileSize k))
      (Workbench.load (Chunks.lengthAt share.size share.fileSize k))
      (Alike (InStep share n (some (share.startAt (k + 1))))) (Kept (σ := σ) share) := by
    rw [Share.startAt_succ hk]
    refine load_inStep ?_
    rw [← Share.startAt_succ hk]
    exact Nat.min_le_right _ _
  exact chunk_coupled rfl rfl (.of_simulates hload) (.of_simulates (compress_inStep run _))
    (fun packed => .of_simulates (decompress_inStep run packed _))
    (fun _ decoded => .of_simulates (compare_inStep run _ decoded))
    (fun notice => .of_simulates (say_inStep notice)) (fun hstates => hstates) number tally

theorem chunks_inStep (hcut : 0 < share.fileSize → 0 < share.size) (number : Nat)
    (tally : Tally) :
    Simulates (InStep share n (some 0))
      (((List.range (Chunks.count share.size share.fileSize)).map
        (Chunks.lengthAt share.size share.fileSize)).foldlM (run.chunk number) tally)
      (((List.range (Chunks.count share.size share.fileSize)).map
        (Chunks.lengthAt share.size share.fileSize)).foldlM (run.chunk number) tally)
      (Alike (InStep share n (some share.fileSize))) (Kept share) := by
  have hchunk (k : Nat) (_ : 0 ≤ k) (hk : k < 0 + Chunks.count share.size share.fileSize)
      (tally : Tally) :
      Coupled (fun _ _ => True) (InStep share n (some (share.startAt k)))
        (run.chunk number tally (Chunks.lengthAt share.size share.fileSize k))
        (run.chunk number tally (Chunks.lengthAt share.size share.fileSize k))
        (fun _ => InStep share n (some (share.startAt (k + 1)))) (Kept share) :=
    chunk_inStep run (Nat.zero_add (Chunks.count _ _) ▸ hk) number tally
  have hfold := Coupled.foldlM_range' 0 (Chunks.count share.size share.fileSize) hchunk tally
  rw [Nat.zero_add, Share.startAt_zero, Share.startAt_count hcut, ← List.range_eq_range'] at hfold
  exact hfold.simulates

/-- A pass takes both inputs from their start to the end of the file. -/
theorem pass_inStep (hcut : 0 < share.fileSize → 0 < share.size) (number : Nat) (tally : Tally) :
    Simulates (InStep share n place) (run.pass share.fileSize number tally)
      (run.pass share.fileSize number tally)
      (Alike (InStep share (n + 1) (some share.fileSize))) (Kept share) := by
  refine Simulates.bind_alike rewind_inStep fun _ => ?_
  intro w v hstates
  change Related _ _
    ((Chunks.foldSteps (run.chunk number) w.buffers.chunkSize share.fileSize tally >>=
      fun tally => pure (if run.options.statistics then tally.finishPass else tally)) w)
    ((Chunks.foldSteps (run.chunk number) v.buffers.chunkSize share.fileSize tally >>=
      fun tally => pure (if run.options.statistics then tally.finishPass else tally)) v)
  rw [← hstates.buffers, hstates.chunkSize, Chunks.foldSteps_eq, Chunks.lengths_eq_map]
  exact Simulates.bind_alike (chunks_inStep run hcut number tally)
    (fun tally => Simulates.pure fun _ _ hafter => ⟨rfl, hafter⟩) hstates

theorem passes_inStep (hcut : 0 < share.fileSize → 0 < share.size) (left number : Nat)
    (tally : Tally) :
    Simulates (InStep share n (some share.fileSize))
      (run.passes share.fileSize left number tally) (run.passes share.fileSize left number tally)
      (Alike (InStep share (n + left) (some share.fileSize))) (Kept share) := by
  induction left generalizing n number tally with
  | zero => exact Simulates.pure fun _ _ hstates => ⟨rfl, hstates⟩
  | succ left ih =>
      refine Simulates.bind_alike (pass_inStep run hcut number tally) fun tally => ?_
      have hrest := ih (n := n + 1) (number + 1) tally
      rwa [Nat.add_assoc, Nat.add_comm 1 left] at hrest

/-- A cell rewinds both inputs once for every pass and leaves them at the end of the file. -/
theorem execute_inStep (hcut : 0 < share.fileSize → 0 < share.size)
    (hpasses : 0 < run.options.iterations.toNat) :
    Simulates (InStep share n place) (run.execute share.fileSize) (run.execute share.fileSize)
      (Alike (InStep share (n + run.options.iterations.toNat) (some share.fileSize)))
      (Kept share) := by
  obtain ⟨left, hleft⟩ := Nat.exists_eq_add_one_of_ne_zero (Nat.ne_of_gt hpasses)
  simp only [CellRun.execute, hleft, CellRun.passes]
  refine Simulates.bind_alike (say_inStep _) fun _ => ?_
  have hall : Simulates (InStep share n place)
      (run.pass share.fileSize 0 .empty >>= run.passes share.fileSize left (0 + 1))
      (run.pass share.fileSize 0 .empty >>= run.passes share.fileSize left (0 + 1))
      (Alike (InStep share (n + (left + 1)) (some share.fileSize))) (Kept share) := by
    refine Simulates.bind_alike (pass_inStep run hcut 0 .empty) fun tally => ?_
    have hrest := passes_inStep (n := n + 1) run hcut left (0 + 1) tally
    rwa [Nat.add_assoc, Nat.add_comm 1 left] at hrest
  refine Simulates.bind_alike hall fun tally => ?_
  refine Simulates.bind_alike (say_inStep _) fun _ => ?_
  exact Simulates.pure fun _ _ hlast => ⟨rfl, hlast⟩

/-- So a cell keeps the workbenches in step. -/
theorem execute_kept (hcut : 0 < share.fileSize → 0 < share.size)
    (hpasses : 0 < run.options.iterations.toNat) :
    Simulates (Kept share) (run.execute share.fileSize) (run.execute share.fileSize)
      (Alike (Kept share)) (Kept share) := by
  rintro w v ⟨n, hstates⟩
  have hrelated := execute_inStep run hcut hpasses hstates
  generalize run.execute share.fileSize w = one at hrelated
  generalize run.execute share.fileSize v = two at hrelated
  cases hrelated with
  | ok hafter => exact .ok ⟨hafter.1, _, hafter.2.anywhere⟩
  | error fault hafter => exact .error fault hafter

/-- A cell that succeeds has rewound its input once for every pass, and leaves it at the end of the
file. -/
theorem execute_counted (hcut : 0 < share.fileSize → 0 < share.size)
    (hpasses : 0 < run.options.iterations.toNat) {w after : Workbench σ} {tally : Tally}
    (hstates : InStep share n place w w)
    (hrun : run.execute share.fileSize w = .ok tally after) :
    InStep share (n + run.options.iterations.toNat) (some share.fileSize) after after := by
  have hrelated := execute_inStep run hcut hpasses hstates
  rw [hrun] at hrelated
  cases hrelated with
  | ok hafter => exact hafter.2

end CellRun
end RoundTrip
