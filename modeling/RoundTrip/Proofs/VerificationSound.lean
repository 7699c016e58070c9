import RoundTrip.Native.StandIn
import RoundTrip.Proofs.SessionMirror
import RoundTrip.Proofs.SweepRounds

/-!
# What a verified cell stands for

A run over an input reports a cell as verified only after every byte of the
input, in every pass of the cell, came back in the one chunk that holds it.
Nothing is asked of the engines, of the sink or of the input.
-/

namespace RoundTrip

namespace Settings

variable {settings : Settings}

theorem positive_of_validate_ok {console after : Console} {dir : LibraryDir}
    (hvalid : settings.validate console = .ok dir after) :
    settings.iterations ≠ 0 ∧ 0 < settings.memoryLimit := by
  simp only [validate] at hvalid
  split at hvalid
  · contradiction
  · rename_i hiterations
    split at hvalid
    · contradiction
    · exact ⟨hiterations, Nat.pos_of_ne_zero ‹_›⟩

theorem effectiveIterations_pos (hiterations : settings.iterations ≠ 0) :
    0 < settings.effectiveIterations.toNat := by
  rw [effectiveIterations]
  split
  · decide
  · refine Nat.pos_of_ne_zero fun hzero => hiterations ?_
    exact UInt32.toNat_inj.mp hzero

theorem chunkSize_pos {fileSize : Nat} (hlimit : 0 < settings.memoryLimit)
    (hfile : 0 < fileSize) : 0 < settings.chunkSize fileSize :=
  Nat.lt_min.mpr ⟨hfile, hlimit⟩

end Settings

namespace CellRun

variable {σ : Type}

/-- Round `i` took chunk `k` there and back by the exchanges `c` and `d`. -/
structure CameBack (run : CellRun σ) (o : Outset) (log : List Exchange) (i k : Nat)
    (c d : Exchange) : Prop where
  compress_at : log[2 * i]? = some c
  decompress_at : log[2 * i + 1]? = some d
  compress_seen : c.call.seen = run.compressCall o k
  decompress_seen : d.call.seen = run.decompressCall o (log.take (2 * i + 1)) k
  /-- The call that compresses succeeded. -/
  compressed : ∃ packed,
    run.entry.engine.interpret c.reply (compressionBound o.size) = .ok packed
  /-- The call that decompresses succeeded with the length of the chunk. -/
  decompressed : run.entry.engine.interpret d.reply (o.lengthAt k) = .ok (o.lengthAt k)
  /-- After it the block holds the bytes of the chunk. -/
  bytes : (replay .decompress (log.take (2 * i + 2)) o.decompressed).toList.take (o.lengthAt k) =
    o.bytesAt k

theorem RoundAt.cameBack {run : CellRun σ} {o : Outset} {log : List Exchange} {t k : Nat}
    {c d : Exchange} (hround : RoundAt run o log (t * o.count + k) c d) (hk : k < o.count)
    (hverify : run.options.verify = true) : CameBack run o log (t * o.count + k) k c d := by
  obtain ⟨hcompress, hdecompress, hseen, hseen', hok, -, hverified⟩ := hround
  have hmod : (t * o.count + k) % o.count = k := Nat.mul_add_mod_of_lt hk
  rw [hmod] at hseen hseen' hverified
  obtain ⟨hreported, hbytes⟩ := hverified hverify
  exact ⟨hcompress, hdecompress, hseen, hseen', hok, hreported, hbytes⟩

end CellRun

namespace Session

variable {σ τ : Type}

/-- What the cells of a run start from. -/
def outset (s : Session σ τ) (settings : Settings) (fileSize : Nat) : Outset :=
  (s.sweepState (.ofChunkSize (settings.chunkSize fileSize))).bench.outset fileSize

/-- Only the host was touched since `s`. -/
structure Fresh (s : Session σ τ) (t : Session (σ × List Exchange) (τ × List (CellId × Event))) :
    Prop where
  native : t.native.2 = []
  input : t.input = s.input
  sink : t.sink.2 = []

/-- Nothing is reported, or the reports are those of a sweep that has backed them. -/
def Vouched (runner : Runner σ τ) (settings : Settings) (fileSize : Nat) (fileName : String)
    (s : Session σ τ) (t : Session (σ × List Exchange) (τ × List (CellId × Event))) : Prop :=
  t.sink.2 = [] ∨
    (0 < fileSize → 0 < settings.chunkSize fileSize) ∧
      ∃ w, (runner.sweepRun t.host.context settings fileSize fileName).Sound
          (s.outset settings fileSize) w ∧
        w.bench.native.2 = t.native.2 ∧ w.sink.2 = t.sink.2

section Runs

variable {runner : Runner σ τ} {settings : Settings} {fileSize : Nat} {fileName : String}
  {s : Session σ τ}

theorem onHost_fresh {α : Type} (step : EStateM Fault Host α) :
    Ensures (Fresh s) (onHost step) (fun _ => Fresh s)
      (fun _ => Vouched runner settings fileSize fileName s) := by
  rintro ⟨host, native, input, sink⟩ ⟨hnative, hinput, hsink⟩
  simp only [onHost, onPart]
  cases step host with
  | ok a after => exact ⟨hnative, hinput, hsink⟩
  | error fault after => exact .inl hsink

theorem validate_fresh :
    Ensures (Fresh s) (onConsole settings.validate)
      (fun _ t => (settings.iterations ≠ 0 ∧ 0 < settings.memoryLimit) ∧ Fresh s t)
      (fun _ => Vouched runner settings fileSize fileName s) := by
  rintro ⟨host, native, input, sink⟩ ⟨hnative, hinput, hsink⟩
  simp only [onConsole, onHost, onPart]
  cases hvalid : settings.validate host.console with
  | ok dir after => exact ⟨Settings.positive_of_validate_ok hvalid, hnative, hinput, hsink⟩
  | error fault after => exact .inl hsink

theorem sweep_vouched (hiterations : settings.iterations ≠ 0) (hlimit : 0 < settings.memoryLimit) :
    Ensures (Fresh s) (sweep runner.observed settings fileSize fileName)
      (fun _ => Vouched runner settings fileSize fileName s)
      (fun _ => Vouched runner settings fileSize fileName s) := by
  rintro t ⟨hnative, hinput, hsink⟩
  have hsize (hfile : 0 < fileSize) : 0 < settings.chunkSize fileSize :=
    Settings.chunkSize_pos hlimit hfile
  obtain ⟨sweepRun, hrun⟩ :
      ∃ sweepRun, sweepRun = runner.sweepRun t.host.context settings fileSize fileName := ⟨_, rfl⟩
  have hpasses : 0 < sweepRun.passes := by
    rw [hrun]
    exact Settings.effectiveIterations_pos hiterations
  have hfile : sweepRun.fileSize = fileSize := by
    rw [hrun]
    rfl
  have hsound := SweepRun.execute_sound hpasses (o := s.outset settings fileSize)
    (by rw [hfile]; exact hsize) hfile.symm
  have hworking : CellRun.Working (s.outset settings fileSize) [] []
      (t.sweepState (.ofChunkSize (settings.chunkSize fileSize))).bench :=
    ⟨congrArg (fun i => i.contents.toList) hinput, rfl, hnative, rfl, rfl⟩
  have hstart := And.intro hworking hsink
  have hvouched (after : SweepState (σ × List Exchange) (τ × List (CellId × Event)))
      (hafter : sweepRun.Sound (s.outset settings fileSize) after) :
      Vouched runner settings fileSize fileName s (t.resumed after) := by
    rw [hrun] at hafter
    exact .inr ⟨hsize, after, hafter, rfl, rfl⟩
  rw [sweep_eq, Runner.sweepRun_observed, ← hrun]
  have hresult := hsound _ hstart
  generalize sweepRun.recorded.logged.execute _ = result at hresult ⊢
  cases result with
  | ok done after => exact hvouched after hresult
  | error fault after => exact hvouched after hresult

theorem run_vouched (runner : Runner σ τ) (settings : Settings) (fileSize : Nat)
    (fileName : String) (s : Session σ τ) :
    Vouched runner settings fileSize fileName s (observe runner settings fileSize fileName s) := by
  have hrun : Ensures (Fresh s) (run runner.observed settings fileSize fileName)
      (fun _ => Vouched runner settings fileSize fileName s)
      (fun _ => Vouched runner settings fileSize fileName s) := by
    refine Ensures.bind validate_fresh fun _ => ?_
    rintro t ⟨⟨hiterations, hlimit⟩, hfresh⟩
    refine Ensures.bind (onHost_fresh _) (fun _ => ?_) t hfresh
    refine Ensures.bind (onHost_fresh _) fun _ => ?_
    exact sweep_vouched hiterations hlimit
  have hfresh : Fresh s (s.observed ([], [])) := ⟨rfl, rfl, rfl⟩
  exact hrun.leaves hfresh

end Runs

/-- What stands behind the report that planned cell `j` was verified. -/
structure CellVerified (runner : Runner σ τ) (settings : Settings) (fileSize : Nat)
    (fileName : String) (s : Session σ τ) (j : Nat) (cell : Cell) : Prop where
  /-- In every pass every offset lies in one chunk, and that chunk came back. -/
  came_back : ∃ entry,
    (observe runner settings fileSize fileName s).host.context.entry? cell.engine = some entry ∧
      ∀ pass, pass < settings.effectiveIterations.toNat → ∀ offset, offset < fileSize →
        ∃ k, Chunks.Covers (settings.chunkSize fileSize) fileSize k offset ∧
          (∀ l, Chunks.Covers (settings.chunkSize fileSize) fileSize l offset → l = k) ∧
          ∃ c d, CellRun.CameBack
            ((runner.sweepRun (observe runner settings fileSize fileName s).host.context settings
              fileSize fileName).cellRun cell entry)
            (s.outset settings fileSize) (observe runner settings fileSize fileName s).native.2
            ((j * settings.effectiveIterations.toNat + pass) *
              Chunks.count (settings.chunkSize fileSize) fileSize + k) k c d
  /-- Statistics of the cell count every byte once for each pass. -/
  counted : settings.statistics = true →
    settings.effectiveIterations.toNat * fileSize < 2 ^ 64 → ∀ summary,
      (⟨settings.label, cell.codec, cell.level, fileName⟩, .statistics summary) ∈
        (observe runner settings fileSize fileName s).sink.2 →
      summary.decompress.size = fileSize

/-- A cell that is reported as verified was verified, byte by byte and pass by pass. -/
theorem cellVerified_of_report (runner : Runner σ τ) (settings : Settings) (fileSize : Nat)
    (fileName : String) (s : Session σ τ) {j : Nat} {cell : Cell}
    (hverify : settings.verify = true) (hcell : (Plan.cells settings)[j]? = some cell)
    (hreport : (⟨settings.label, cell.codec, cell.level, fileName⟩, .verification true) ∈
      (observe runner settings fileSize fileName s).sink.2) :
    CellVerified runner settings fileSize fileName s j cell := by
  rcases run_vouched runner settings fileSize fileName s with
    hnone | ⟨hsize, w, hsound, hlog, hevents⟩
  · rw [hnone] at hreport
    contradiction
  · constructor
    · rw [← hevents] at hreport
      obtain ⟨entry, hentry, hrounds⟩ := hsound.verified hcell hreport
      rw [hlog] at hrounds
      refine ⟨entry, hentry, ?_⟩
      intro pass hpass offset hoffset
      obtain ⟨k, hcovers, hunique⟩ :=
        Chunks.covers_unique (hsize (Nat.zero_lt_of_lt hoffset)) hoffset
      have hk : k < (s.outset settings fileSize).count := hcovers.1
      obtain ⟨c, d, hround⟩ := hrounds (pass * (s.outset settings fileSize).count + k)
        (CellRun.mul_add_lt hpass hk)
      rw [← Nat.add_assoc, ← Nat.add_mul] at hround
      exact ⟨k, hcovers, hunique, c, d, hround.cameBack hk hverify⟩
    · intro _ hlimit summary hsummary
      rw [← hevents] at hsummary
      exact hsound.whole hsummary hverify hlimit

/-- Two passes of a stand-in engine over three bytes in chunks of at most two. -/
theorem cellVerified_of_report_standIn :
    let runner : Runner Unit EventLog := ⟨StandIn.native, EventLog.sink⟩
    let settings := { Settings.default with
      selection := .single .lz4hc, level := 3, iterations := 2, memoryLimit := 2, verify := true,
      statistics := true }
    let s : Session Unit EventLog :=
      ⟨⟨.ofThreshold 0, .ofFiles ⟨[], [], ""⟩, .inProcess .searchPath⟩, (),
        .ofList [1, 2, 3], []⟩
    let cell : Cell := ⟨.lz4hc, 3, 0⟩
    settings.verify = true ∧ (Plan.cells settings)[0]? = some cell ∧
      (⟨settings.label, cell.codec, cell.level, "input"⟩, .verification true) ∈
        (observe runner settings 3 "input" s).sink.2 ∧
      CellVerified runner settings 3 "input" s 0 cell := by
  intro runner settings s cell
  have hcell : (Plan.cells settings)[0]? = some cell := by decide
  have hreport : (⟨settings.label, cell.codec, cell.level, "input"⟩, .verification true) ∈
      (observe runner settings 3 "input" s).sink.2 := by decide +kernel
  exact ⟨rfl, hcell, hreport, cellVerified_of_report runner settings 3 "input" s rfl hcell hreport⟩

end Session
end RoundTrip
