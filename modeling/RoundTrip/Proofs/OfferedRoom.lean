import RoundTrip.Native.StandIn
import RoundTrip.Proofs.CallContract
import RoundTrip.Proofs.CellBounds
import RoundTrip.Proofs.Lossless
import RoundTrip.Proofs.SweepAttempts
import RoundTrip.Proofs.SweepFailure

/-!
# The room that calls are offered

A chunk that is longer than the engine's type of lengths is refused before the
call, and a destination that is longer is offered in part.  Within the greatest
chunk neither happens: the compressed block of a run is offered whole, with room
for the worst case of every engine, and so is the place for what comes back.
-/

namespace RoundTrip

/-! ## Chunks that are refused -/

/-- Where a call failed, it was refused exactly if it was to compress and the chunk is longer than
the engine's type of lengths holds.  Such a chunk is the longest: all are as long as the first but
the last, and a cell goes no further than the first that is refused. -/
def Fault.RefusesLong (engine : Engine) (longest : Nat) (fault : Fault) : Prop :=
  ∀ direction codec level cause, fault = .callFailed direction codec level cause →
    ∀ size limit, cause = .argumentTooLarge size limit ↔
      direction = .compress ∧ engine.lengthLimit < longest ∧ size = longest ∧
        limit = engine.lengthLimit

/-- A fault that is not that of a call says nothing of refusals. -/
theorem Fault.NotOfCall.refusesLong {fault : Fault} (hother : fault.NotOfCall) (engine : Engine)
    (longest : Nat) : fault.RefusesLong engine longest :=
  fun direction codec level cause heq => absurd heq (hother direction codec level cause)

namespace CellRun

variable {σ : Type} {run : CellRun σ} {size fileSize k : Nat}

/-- Chunk `k` of a pass is next, and so the chunks before it, if there are any, were not refused. -/
structure NotRefused (run : CellRun σ) (size fileSize k : Nat) (w : Workbench σ) : Prop where
  sized : Sized size w
  fits : k = 0 ∨ min fileSize size ≤ run.entry.engine.lengthLimit

/-- A cell stopped on blocks of this size, and was refused exactly if its longest chunk is too
long. -/
structure Refuses (run : CellRun σ) (size fileSize : Nat) (fault : Fault) (w : Workbench σ) :
    Prop where
  sized : Sized size w
  refuses : fault.RefusesLong run.entry.engine (min fileSize size)

theorem lengthAt_first (size fileSize : Nat) :
    Chunks.lengthAt size fileSize 0 = min fileSize size := by
  rw [Chunks.lengthAt, Nat.zero_mul, Nat.sub_zero]

theorem lengthAt_le_longest (size fileSize k : Nat) :
    Chunks.lengthAt size fileSize k ≤ min fileSize size := by
  rw [Chunks.lengthAt]
  omega

/-- The chunk in the input block, as it is passed on. -/
theorem Sized.size_chunk {w : Workbench σ} (hsized : Sized size w) (fileSize k : Nat) :
    (w.buffers.input.take (Chunks.lengthAt size fileSize k)).size =
      Chunks.lengthAt size fileSize k := by
  rw [Region.size_take, hsized.size_input]
  exact Nat.min_eq_left (Chunks.lengthAt_le size fileSize k)

/-- A chunk that is compressed is refused if it is too long, and then it is the first. -/
theorem compress_refuses :
    Ensures (NotRefused run size fileSize k) (run.compress (Chunks.lengthAt size fileSize k))
      (fun answer w => NotRefused run size fileSize (k + 1) w ∧
        answer.1 ≤ run.entry.engine.lengthLimit)
      (Refuses run size fileSize) := by
  rintro w ⟨hsized, hfits⟩
  have hlongest := lengthAt_le_longest size fileSize k
  have hrefused := (EntryPoints.perform_keepsContract run.native run.entry
    (.compress run.entry.engine run.cell.level run.options.extra)
    (w.buffers.input.take (Chunks.lengthAt size fileSize k)) w.buffers.compressed
    w.buffers.compressed.size w.native).refused_iff
  rw [hsized.size_chunk] at hrefused
  cases hproduced : (run.entry.compress run.native run.cell.level run.options.extra
      (w.buffers.input.take (Chunks.lengthAt size fileSize k)) w.buffers.compressed
      w.native).1.produced with
  | ok packed =>
      have hshort : Chunks.lengthAt size fileSize k ≤ run.entry.engine.lengthLimit := by
        refine Nat.le_of_not_lt fun hlong => ?_
        cases hproduced.symm.trans ((hrefused _ _).mpr ⟨hlong, rfl, rfl⟩)
      simp only [CellRun.compress, hproduced]
      refine ⟨⟨hsized, .inr ?_⟩, EntryPoints.produced_le_lengthLimit hproduced⟩
      rcases hfits with rfl | hfits
      · rwa [lengthAt_first] at hshort
      · exact hfits
  | error cause =>
      simp only [CellRun.compress, hproduced]
      refine ⟨hsized, ?_⟩
      rintro direction codec level _ ⟨⟩ refusedSize limit
      have hcause := hrefused refusedSize limit
      change (EntryPoints.perform ..).1.produced = .error cause at hproduced
      rw [hproduced, Except.error.injEq] at hcause
      rw [hcause]
      rcases hfits with rfl | hfits
      · rw [lengthAt_first]
        simp only [true_and]
      · exact iff_of_false (fun hlong => by omega) fun hlong => by omega

/-- What was packed is no longer than an engine can report, so it is not refused. -/
theorem decompress_refuses {packed length : Nat} :
    Ensures (fun w => NotRefused run size fileSize (k + 1) w ∧
        packed ≤ run.entry.engine.lengthLimit)
      (run.decompress packed length) (fun _ => NotRefused run size fileSize (k + 1))
      (Refuses run size fileSize) := by
  rintro w ⟨⟨hsized, hfits⟩, hpacked⟩
  have hsource : (w.buffers.compressed.take packed).size ≤ run.entry.engine.lengthLimit := by
    rw [Region.size_take]
    omega
  have hrefused := (EntryPoints.perform_keepsContract run.native run.entry
    (.decompress run.entry.engine) (w.buffers.compressed.take packed) w.buffers.decompressed
    length w.native).refused_iff
  cases hproduced : (run.entry.decompress run.native (w.buffers.compressed.take packed)
      w.buffers.decompressed length w.native).1.produced with
  | ok decoded =>
      simp only [CellRun.decompress, hproduced]
      exact ⟨hsized, hfits⟩
  | error cause =>
      simp only [CellRun.decompress, hproduced]
      refine ⟨hsized, ?_⟩
      rintro direction codec level _ ⟨⟩ refusedSize limit
      refine iff_of_false ?_ fun hcompress => absurd hcompress.1 (by decide)
      rintro rfl
      have hlong := ((hrefused refusedSize limit).mp hproduced).1
      omega

/-- A cell that fails was refused exactly if its first chunk is too long. -/
theorem execute_refuses (run : CellRun σ) (size fileSize : Nat) :
    Ensures (Sized size) (run.execute fileSize) (fun _ => Sized size)
      (Refuses run size fileSize) := by
  have hlasting (k : Nat) : Workbench.Lasting (NotRefused run size fileSize k) :=
    fun _ _ hready hsize _ => ⟨hsize.trans hready.sized, hready.fits⟩
  refine execute_of_calls sized_lasting hlasting (fun fault w hother hw => ?_)
    (fun _ hready => hready.sized) (fun _ hsized => ⟨hsized, .inl rfl⟩)
    (fun _ _ => compress_refuses)
    (fun _ _ _ => decompress_refuses) fun _ hready => hready.sized
  refine ⟨?_, hother.refusesLong _ _⟩
  rcases hw with hsized | ⟨k, hready⟩
  · exact hsized
  · exact hready.sized

end CellRun

/-! ## Calls with all their room -/

/-- Whatever was compressed is a chunk and was offered the whole compressed block, and whatever was
decompressed after it was offered room for just that chunk. -/
inductive Offered (size fileSize : Nat) : List Exchange → Prop where
  | none : Offered size fileSize []
  | compress {log : List Exchange} {c : Exchange} (hbefore : Offered size fileSize log)
      (hdirection : c.call.request.direction = .compress)
      (hchunk : c.call.source.size ∈ Chunks.lengths size fileSize)
      (hroom : c.call.capacity = compressionBound size) : Offered size fileSize (log ++ [c])
  | decompress {log : List Exchange} {c d : Exchange}
      (hbefore : Offered size fileSize (log ++ [c]))
      (hcompress : c.call.request.direction = .compress)
      (hdirection : d.call.request.direction = .decompress)
      (hroom : d.call.capacity = c.call.source.size) : Offered size fileSize (log ++ [c] ++ [d])

namespace CellRun

variable {σ : Type} {run : CellRun σ} {size fileSize k length : Nat}

/-- The blocks take chunks of `size` bytes, and every call so far had all its room. -/
structure Roomy (size fileSize : Nat) (w : Workbench (σ × List Exchange)) : Prop where
  sized : Sized size w
  offered : Offered size fileSize w.native.2

theorem roomy_lasting : Workbench.Lasting (Roomy (σ := σ) size fileSize) :=
  fun _ _ hroomy hchunk hnative => ⟨hchunk.trans hroomy.sized, hnative ▸ hroomy.offered⟩

/-- The last call compressed a chunk of this length. -/
structure RoomyAfter (size fileSize length : Nat) (w : Workbench (σ × List Exchange)) : Prop where
  roomy : Roomy size fileSize w
  last : ∃ log c, w.native.2 = log ++ [c] ∧ c.call.request.direction = .compress ∧
    c.call.source.size = length

theorem mem_lengths_lengthAt (hk : k < Chunks.count size fileSize) :
    Chunks.lengthAt size fileSize k ∈ Chunks.lengths size fileSize := by
  rw [Chunks.lengths_eq_map]
  exact List.mem_map_of_mem (List.mem_range.mpr hk)

/-- Neither a chunk nor its compressed form is too long for any engine. -/
theorem compress_roomy (hsize : size ≤ greatestChunk) (hk : k < Chunks.count size fileSize) :
    Ensures (Roomy size fileSize) (run.recorded.compress (Chunks.lengthAt size fileSize k))
      (fun _ => RoomyAfter size fileSize (Chunks.lengthAt size fileSize k))
      (fun _ => Roomy size fileSize) := by
  rintro ⟨console, native, input, buffers⟩ ⟨hsized, hoffered⟩
  have hchunk := hsized.size_chunk fileSize k
  have hroom : min buffers.compressed.size run.entry.engine.lengthLimit =
      compressionBound size := by
    rw [hsized.size_compressed]
    exact Nat.min_eq_left (compressionBound_eq hsize run.entry.engine).2
  rcases EntryPoints.perform_recorded_cases run.native run.entry
    (.compress run.entry.engine run.cell.level run.options.extra)
    (buffers.input.take (Chunks.lengthAt size fileSize k)) buffers.compressed
    buffers.compressed.size native with ⟨hlong, -⟩ | ⟨-, c, inner, hcall, -, hcalled⟩
  · have hle := Chunks.lengthAt_le size fileSize k
    obtain ⟨hbound, hlimit⟩ := compressionBound_eq hsize run.entry.engine
    rw [hchunk] at hlong
    omega
  · have hdirection : c.call.request.direction = .compress := by
      rw [hcall]
      exact Request.direction_compress _ _ _
    have hsource : c.call.source.size = Chunks.lengthAt size fileSize k := by
      rw [hcall]
      exact hchunk
    have hafter : Offered size fileSize (native.2 ++ [c]) := by
      refine .compress hoffered hdirection ?_ ?_
      · rw [hsource]
        exact mem_lengths_lengthAt hk
      · rw [hcall]
        exact hroom
    cases hreported : run.entry.engine.interpret c.reply buffers.compressed.size with
    | error cause =>
        simp only [CellRun.compress, EntryPoints.compress, recorded, hcalled, hreported]
        exact ⟨hsized, hafter⟩
    | ok packed =>
        simp only [CellRun.compress, EntryPoints.compress, recorded, hcalled, hreported]
        exact ⟨⟨hsized, hafter⟩, _, c, rfl, hdirection, hsource⟩

/-- The place for what comes back is as long as the chunk, and no chunk is too long. -/
theorem decompress_roomy {packed : Nat} (hsize : size ≤ greatestChunk) (hlength : length ≤ size) :
    Ensures (RoomyAfter size fileSize length) (run.recorded.decompress packed length)
      (fun _ => Roomy size fileSize) (fun _ => Roomy size fileSize) := by
  rintro ⟨console, native, input, buffers⟩ ⟨⟨hsized, hoffered⟩, log, c, hlog, hcompress, hsource⟩
  have hroom : min length run.entry.engine.lengthLimit = length := by
    obtain ⟨hbound, hlimit⟩ := compressionBound_eq hsize run.entry.engine
    omega
  rcases EntryPoints.perform_recorded_cases run.native run.entry
    (.decompress run.entry.engine) (buffers.compressed.take packed) buffers.decompressed
    length native with ⟨-, hcalled⟩ | ⟨-, d, inner, hcall, -, hcalled⟩
  · simp only [CellRun.decompress, EntryPoints.decompress, recorded, hcalled]
    exact ⟨hsized, hoffered⟩
  · have hdirection : d.call.request.direction = .decompress := by
      rw [hcall]
      exact Request.direction_decompress _
    have hafter : Offered size fileSize (native.2 ++ [d]) := by
      rw [hlog] at hoffered ⊢
      refine .decompress hoffered hcompress hdirection ?_
      rw [hcall, hsource]
      exact hroom
    cases hreported : run.entry.engine.interpret d.reply length with
    | error cause =>
        simp only [CellRun.decompress, EntryPoints.decompress, recorded, hcalled, hreported]
        exact ⟨hsized, hafter⟩
    | ok decoded =>
        simp only [CellRun.decompress, EntryPoints.decompress, recorded, hcalled, hreported]
        exact ⟨hsized, hafter⟩

theorem execute_roomy (run : CellRun σ) (hsize : size ≤ greatestChunk) (fileSize : Nat) :
    Ensures (Roomy size fileSize) (run.recorded.execute fileSize) (fun _ => Roomy size fileSize)
      (fun _ => Roomy size fileSize) := by
  refine execute_of_calls roomy_lasting (fun _ => roomy_lasting) (fun fault w _ hw => ?_)
    (fun _ hroomy => hroomy.sized) (fun _ hroomy => hroomy) (fun _ => compress_roomy hsize)
    (fun k _ _ => decompress_roomy hsize (Chunks.lengthAt_le size fileSize k))
    fun _ hroomy => hroomy
  rcases hw with hroomy | ⟨k, hroomy⟩
  · exact hroomy
  · exact hroomy

end CellRun

/-! ## A whole run -/

namespace SweepRun

variable {σ τ : Type} {run : SweepRun σ τ} {size : Nat}

/-- What every cell keeps of its workbench, it keeps of what it works on. -/
theorem alone_keeps {P : Rig σ → Prop} {cell : Cell}
    (hexecute : ∀ entry, Ensures (fun w => P w.rig)
      ((run.cellRun cell entry).execute run.fileSize) (fun _ w => P w.rig) (fun _ w => P w.rig))
    {rig : Rig σ} (hrig : P rig) : P (leaves (run.alone cell) rig) := by
  cases hentry : run.context.entry? cell.engine with
  | none =>
      rw [leaves, alone, hentry]
      exact hrig
  | some entry =>
      have halone : run.alone cell rig = mapState Workbench.rig
          ((run.cellRun cell entry).execute run.fileSize rig.bench) := alone_eq hentry rig.bench
      rw [leaves_eq_of_mapState halone]
      exact (hexecute entry).leaves hrig

/-- And then it holds for every cell that a sweep reaches. -/
theorem Reaches.keeps {s mid : SweepState σ τ} {cell : Cell} {P : Rig σ → Prop}
    (hcell : ∀ cell rig, P rig → P (leaves (run.alone cell) rig))
    (hreaches : run.Reaches s cell mid) (hstart : P s.bench.rig) : P mid.bench.rig := by
  obtain ⟨before, rest, -, hbefore⟩ := hreaches
  have hbrief := (run.runCells_brief before 0 (show Brief (run.begun s)
    ((run.begun s).bench.rig, (run.begun s).sink) from ⟨rfl, rfl⟩)).leaves
  rw [leaves, hbefore] at hbrief
  rw [hbrief.rig]
  exact (run.briefCells_keeps hcell before 0).leaves hstart

/-- Every cell that a sweep reaches has blocks for chunks of the same size. -/
theorem Reaches.sized {s mid : SweepState σ τ} {cell : Cell} (hreaches : run.Reaches s cell mid)
    (hstart : CellRun.Sized size s.bench) : CellRun.Sized size mid.bench := by
  refine hreaches.keeps (P := fun rig => CellRun.Sized size rig.bench) (fun cell rig hrig => ?_)
    hstart
  refine alone_keeps (P := fun rig => CellRun.Sized size rig.bench) (fun entry => ?_) hrig
  exact ((run.cellRun cell entry).execute_refuses size run.fileSize).mono (fun _ hw => hw)
    (fun _ _ hw => hw) fun _ _ hw => hw.sized

/-- Within the greatest chunk, no cell is refused. -/
theorem alone_not_refused (hsize : size ≤ greatestChunk) {cell : Cell} {rig : Rig σ}
    (hsized : CellRun.Sized size rig.bench) (direction : Direction) (codec : Codec) (level : Int)
    (refused limit : Nat) :
    answer (run.alone cell) rig ≠
      .error (.callFailed direction codec level (.argumentTooLarge refused limit)) := by
  intro hfails
  cases hentry : run.context.entry? cell.engine with
  | none =>
      rw [answer, alone, hentry] at hfails
      cases hfails
  | some entry =>
      have halone : run.alone cell rig = mapState Workbench.rig
          ((run.cellRun cell entry).execute run.fileSize rig.bench) := alone_eq hentry rig.bench
      rw [answer_eq_of_mapState halone] at hfails
      have hrefuses := ((run.cellRun cell entry).execute_refuses size run.fileSize).of_error hsized
        (eq_of_answer_error hfails)
      obtain ⟨-, hlong, -⟩ :=
        (hrefuses.refuses direction codec level _ rfl refused limit).mp rfl
      obtain ⟨hbound, hlimit⟩ := compressionBound_eq hsize (run.cellRun cell entry).entry.engine
      omega

/-- Whatever the engines do, a sweep offers them all the room there is. -/
theorem execute_offered (run : SweepRun σ τ) (hsize : size ≤ greatestChunk)
    {s : SweepState (σ × List Exchange) τ} (hstart : CellRun.Roomy size run.fileSize s.bench) :
    Offered size run.fileSize (leaves run.recorded.execute s).bench.native.2 := by
  have hcell (cell : Cell) (rig : Rig (σ × List Exchange))
      (hrig : CellRun.Roomy size run.fileSize rig.bench) :
      CellRun.Roomy size run.fileSize (leaves (run.recorded.alone cell) rig).bench := by
    refine alone_keeps (P := fun rig => CellRun.Roomy size run.fileSize rig.bench) (fun entry => ?_)
      hrig
    refine ((run.cellRun cell entry).execute_roomy hsize run.fileSize).mono ?_ ?_ ?_
    · exact fun _ hw => CellRun.roomy_lasting hw rfl rfl
    · exact fun _ _ hw => CellRun.roomy_lasting hw rfl rfl
    · exact fun _ _ hw => CellRun.roomy_lasting hw rfl rfl
  have hkept := (run.recorded.briefCells_keeps hcell (Plan.cells run.settings) 0).leaves
    (s := (s.bench.rig, s.sink)) (CellRun.roomy_lasting hstart rfl rfl)
  have hbrief := (run.recorded.leaves_execute_brief s).rig
  change Offered size run.fileSize (leaves run.recorded.execute s).bench.rig.native.2
  rw [hbrief]
  exact hkept.offered

end SweepRun

/-- The room that an engine needs for the compressed form of `n` bytes, whatever they are, as its
library documents it. -/
def Engine.worstCase (n : Nat) : Engine → Nat
  | .lz4 | .lz4hc => n + n / 255 + 16
  | .zlib => n + n / 4096 + n / 16384 + n / 33554432 + 13
  | .bzip2 => n + (n + 99) / 100 + 600

theorem Engine.worstCase_le {n size : Nat} (hn : n ≤ size) (hsize : size ≤ greatestChunk)
    (e : Engine) : e.worstCase n ≤ compressionBound size := by
  rw [(compressionBound_eq hsize e).1, minPad]
  cases e <;> simp only [worstCase] <;> omega

namespace Session

variable {σ τ : Type}

/-- Every call of a run has all the room there is, and that is enough for every engine. -/
structure HasRoom (runner : Runner σ τ) (settings : Settings) (fileSize : Nat) (fileName : String)
    (s : Session σ τ) : Prop where
  /-- A chunk is as long as the file, or as the memory limit if that is less. -/
  chunkSize : settings.chunkSize fileSize = min fileSize settings.memoryLimit
  chunkSize_eq_zero : settings.chunkSize fileSize = 0 ↔ fileSize = 0
  /-- Each cell has blocks for just such chunks. -/
  blocks : ∀ ready cell mid, prepare settings fileSize fileName s = .ok () ready →
    (runner.sweepRun ready.host.context settings fileSize fileName).Reaches
      (ready.sweepState (.ofChunkSize (settings.chunkSize fileSize))) cell mid →
    mid.bench.buffers.chunkSize = settings.chunkSize fileSize
  /-- And no call for it is refused. -/
  unrefused : ∀ ready cell mid, prepare settings fileSize fileName s = .ok () ready →
    (runner.sweepRun ready.host.context settings fileSize fileName).Reaches
      (ready.sweepState (.ofChunkSize (settings.chunkSize fileSize))) cell mid →
    ∀ direction codec level size limit,
      answer ((runner.sweepRun ready.host.context settings fileSize fileName).alone cell)
          mid.bench.rig ≠
        .error (.callFailed direction codec level (.argumentTooLarge size limit))
  offered : Offered (settings.chunkSize fileSize) fileSize
    (observe runner settings fileSize fileName s).native.2
  worstCase : ∀ n ∈ Chunks.lengths (settings.chunkSize fileSize) fileSize, ∀ engine : Engine,
    engine.worstCase n ≤ compressionBound (settings.chunkSize fileSize)

section HasRoom

variable {runner : Runner σ τ} {settings : Settings} {fileSize : Nat} {fileName : String}
  {s : Session σ τ}

/-- Whatever the engines do, the records of a run show calls with all their room. -/
theorem offered_of_observe (hsize : settings.chunkSize fileSize ≤ greatestChunk) :
    Offered (settings.chunkSize fileSize) fileSize
      (observe runner settings fileSize fileName s).native.2 := by
  rcases observe_cases runner settings fileSize fileName s with
    hnone | ⟨ready, -, huntouched, hobserve⟩
  · rw [hnone.native]
    exact .none
  · rw [hobserve]
    refine SweepRun.execute_offered
      (runner.sweepRun ready.host.context settings fileSize fileName).logged hsize ⟨rfl, ?_⟩
    change Offered _ _ ready.native.2
    rw [huntouched.native]
    exact .none

theorem hasRoom (hpositive : 0 < settings.memoryLimit)
    (hlimit : settings.memoryLimit ≤ greatestChunk) :
    s.HasRoom runner settings fileSize fileName := by
  have hsize : settings.chunkSize fileSize ≤ greatestChunk :=
    Nat.le_trans (settings.chunkSize_le fileSize) hlimit
  refine ⟨rfl, ?_, ?_, ?_, offered_of_observe hsize, ?_⟩
  · rw [Settings.chunkSize]
    omega
  · intro ready cell mid hready hreaches
    exact hreaches.sized rfl
  · intro ready cell mid hready hreaches
    exact SweepRun.alone_not_refused hsize (hreaches.sized rfl)
  · intro n hn engine
    rw [Chunks.lengths_eq_map] at hn
    obtain ⟨k, -, rfl⟩ := List.mem_map.mp hn
    exact engine.worstCase_le (Chunks.lengthAt_le _ _ k) hsize

end HasRoom

/-- Within a memory limit of the greatest chunk, no call of a run is refused and none is offered
less than its destination; and the compressed block is long enough for the worst case of every
engine.  Beyond that limit, a cell that fails was refused exactly if it was to compress a chunk that
is longer than the engine's type of lengths holds. -/
theorem calls_have_room (runner : Runner σ τ) :
    (∀ (settings : Settings) (fileSize : Nat) (fileName : String) (s : Session σ τ),
      0 < settings.memoryLimit → settings.memoryLimit ≤ greatestChunk →
      s.HasRoom runner settings fileSize fileName) ∧
    ∀ (run : CellRun σ) (fileSize : Nat) (w : Workbench σ) (fault : Fault),
      answer (run.execute fileSize) w = .error fault →
      fault.RefusesLong run.entry.engine (min fileSize w.buffers.chunkSize) := by
  refine ⟨fun settings fileSize fileName s hpositive hlimit => hasRoom hpositive hlimit, ?_⟩
  intro run fileSize w fault hfails
  have hrefuses := (run.execute_refuses w.buffers.chunkSize fileSize).of_error rfl
    (eq_of_answer_error hfails)
  exact hrefuses.refuses

/-- One pass of a stand-in engine over three bytes in chunks of at most two, and a pass of an engine
that reports nothing. -/
theorem calls_have_room_standIn :
    let runner : Runner Unit EventLog := ⟨StandIn.native, EventLog.sink⟩
    let settings := { Settings.default with
      selection := .single .lz4, iterations := 1, memoryLimit := 2 }
    let s : Session Unit EventLog :=
      ⟨⟨.ofThreshold 0, .ofFiles ⟨[], [], ""⟩, .inProcess .searchPath⟩, (),
        .ofList [1, 2, 3], []⟩
    let mute : CellRun Unit := ⟨fun _ s => (⟨0, 0, [], 0⟩, s), ⟨.lz4, .process⟩,
      ⟨settings.label, .lz4, 0, "input"⟩, ⟨1, false, false, 0⟩⟩
    let w : Workbench Unit := ⟨.ofThreshold 0, (), .ofList [1, 2, 3], .ofChunkSize 2⟩
    let fault : Fault := .callFailed .compress .lz4 0 (.length 0)
    (0 < settings.memoryLimit ∧ settings.memoryLimit ≤ greatestChunk ∧
      s.HasRoom runner settings 3 "input") ∧
    (observe runner settings 3 "input" s).native.2.length = 4 ∧
    answer (mute.execute 3) w = .error fault ∧ fault.RefusesLong .lz4 2 := by
  intro runner settings s mute w fault
  have hpositive : 0 < settings.memoryLimit := by decide
  have hlimit : settings.memoryLimit ≤ greatestChunk := by decide
  have hfails : answer (mute.execute 3) w = .error fault := by decide +kernel
  obtain ⟨hroom, hrefused⟩ := calls_have_room runner
  exact ⟨⟨hpositive, hlimit, hroom settings 3 "input" s hpositive hlimit⟩, by decide +kernel,
    hfails, hrefused mute 3 w fault hfails⟩

end Session
end RoundTrip
