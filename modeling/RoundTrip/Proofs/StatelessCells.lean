import RoundTrip.Proofs.Leftovers
import RoundTrip.Proofs.SteadyReading

/-!
# Cells of engines without a memory

An engine has no memory if what it reports depends on the arguments of a call
alone, and it writes every byte that it reports.  On such an engine and a steady
input a cell has one outcome: neither the position of the input, nor the bytes in
the blocks, nor what the engine did before has a part in it.
-/

namespace RoundTrip

/-! ## The contract -/

/-- Two replies have the same outcome: one result and, if the call succeeded, the same bytes, all of
them written.  The times that they took may differ. -/
structure Reply.SameOutcome (engine : Engine) (capacity : Nat) (r r' : Reply) : Prop where
  produced : engine.interpret r capacity = engine.interpret r' capacity
  written : ∀ n, engine.interpret r capacity = .ok n → ∀ i < n, r.Wrote capacity i
  bytes : ∀ n, engine.interpret r capacity = .ok n → ∀ block : Region,
    (r.apply capacity block).toList.take n = (r'.apply capacity block).toList.take n

/-- Two replies report the same: one outcome and one time. -/
structure Reply.SameReport (engine : Engine) (capacity : Nat) (r r' : Reply) : Prop
    extends Reply.SameOutcome engine capacity r r' where
  span : r.span = r'.span

/-- The outcomes of an engine are functions of the arguments of a call, whatever times the calls
take.  `good` is what it keeps of its own state. -/
structure Native.Functional {σ : Type} (native : Native σ) (good : σ → Prop)
    (entry : EntryPoints) : Prop where
  keeps : ∀ call s, call.entry = entry → good s → good (native call s).2
  outcome : ∀ call call' s s', call.entry = entry → call.seen = call'.seen → good s → good s' →
    Reply.SameOutcome entry.engine call.capacity (native call s).1 (native call' s').1

/-- What an engine reports depends on the arguments of a call alone.  `good` is what it keeps of its
own state. -/
structure Native.Stateless {σ : Type} (native : Native σ) (good : σ → Prop)
    (entry : EntryPoints) : Prop where
  keeps : ∀ call s, call.entry = entry → good s → good (native call s).2
  report : ∀ call call' s s', call.entry = entry → call.seen = call'.seen → good s → good s' →
    Reply.SameReport entry.engine call.capacity (native call s).1 (native call' s').1

theorem Native.Stateless.functional {σ : Type} {native : Native σ} {good : σ → Prop}
    {entry : EntryPoints} (hstateless : native.Stateless good entry) :
    native.Functional good entry where
  keeps := hstateless.keeps
  outcome call call' s s' hentry hseen hs hs' :=
    (hstateless.report call call' s s' hentry hseen hs hs').toSameOutcome

/-- To record the exchanges gives an engine no memory. -/
theorem Native.Stateless.recorded {σ : Type} {native : Native σ} {good : σ → Prop}
    {entry : EntryPoints} (hstateless : native.Stateless good entry) :
    native.recorded.Stateless (fun s => good s.1) entry where
  keeps call s := hstateless.keeps call s.1
  report call call' s s' := hstateless.report call call' s.1 s'.1

/-- No length is cut that an engine could report. -/
theorem Engine.interpret_min_eq (e : Engine) (r : Reply) (room : Nat) :
    e.interpret r (min room e.lengthLimit) = e.interpret r room := by
  have hreturned : r.returned.toInt < 2 ^ 31 := Int32.toInt_lt r.returned
  have hlength := e.lengthOf_le r
  cases e <;> simp only [interpret, convention, lengthLimit] at hlength ⊢ <;> grind

namespace EntryPoints

/-- Two calls of one function on the same source differ in nothing that is reported. -/
theorem perform_stateless {σ : Type} {native : Native σ} {good : σ → Prop} {entry : EntryPoints}
    (hstateless : native.Stateless good entry) (request : Request)
    {source source' destination destination' : Region} (room : Nat) {s s' : σ}
    (hsource : source.toList = source'.toList) (hsize : destination.size = destination'.size)
    (hs : good s) (hs' : good s') :
    ∃ produced span first second t t',
      perform native entry request source destination room s = (⟨produced, first, span⟩, t) ∧
      perform native entry request source' destination' room s' = (⟨produced, second, span⟩, t') ∧
      good t ∧ good t' ∧
      ∀ n, produced = .ok n → first.toList.take n = second.toList.take n := by
  have hlength : source.size = source'.size := Region.size_eq_of_toList hsource
  by_cases hlimit : entry.engine.lengthLimit < source.size
  · refine ⟨.error (.argumentTooLarge source.size entry.engine.lengthLimit), 0, destination,
      destination', s, s', ?_, ?_, hs, hs', nofun⟩
    · rw [perform, if_pos hlimit]
    · rw [perform, if_pos (hlength ▸ hlimit), ← hlength]
  · obtain ⟨capacity, hcapacity⟩ :
        ∃ capacity, capacity = min room entry.engine.lengthLimit := ⟨_, rfl⟩
    have hseen : NativeCall.seen ⟨entry, request, source, capacity⟩ =
        NativeCall.seen ⟨entry, request, source', capacity⟩ := by
      rw [NativeCall.seen, NativeCall.seen, hsource]
    obtain ⟨⟨hproduced, hwritten, hbytes⟩, hspan⟩ := hstateless.report _ _ s s' rfl hseen hs hs'
    have hkept := hstateless.keeps ⟨entry, request, source, capacity⟩ s rfl hs
    have hkept' := hstateless.keeps ⟨entry, request, source', capacity⟩ s' rfl hs'
    generalize hreply : native ⟨entry, request, source, capacity⟩ s = reply at *
    generalize hreply' : native ⟨entry, request, source', capacity⟩ s' = reply' at *
    refine ⟨entry.engine.interpret reply.1 room, reply.1.span, reply.1.apply capacity destination,
      reply'.1.apply capacity destination', reply.2, reply'.2, ?_, ?_, hkept, hkept', ?_⟩
    · simp only [perform, hlimit, if_false, ← hcapacity, hreply]
    · simp only [perform, ← hlength, hlimit, if_false, ← hcapacity, hreply', hspan]
      rw [hcapacity, Engine.interpret_min_eq, Engine.interpret_min_eq] at hproduced
      rw [hproduced]
    · intro n hok
      rw [← Engine.interpret_min_eq, ← hcapacity] at hok
      calc (reply.1.apply capacity destination).toList.take n
          = (reply.1.apply capacity destination').toList.take n :=
            Reply.take_apply_eq hsize (hwritten n hok)
        _ = (reply'.1.apply capacity destination').toList.take n := hbytes n hok destination'

end EntryPoints

/-! ## Two workbenches -/

/-- What stays as it is through a run: the bytes that the input can deliver, and the size of a
chunk. -/
structure Stock where
  bytes : List UInt8
  chunkSize : Nat

namespace Workbench

variable {σ : Type} {good : σ → Prop} {stock : Stock} {w v : Workbench σ}

/-- An input with these bytes that never fails, blocks for chunks of this size, and engines in
order. -/
structure Stocked (good : σ → Prop) (stock : Stock) (w : Workbench σ) : Prop where
  input : w.input.Holds stock.bytes
  chunkSize : w.buffers.chunkSize = stock.chunkSize
  native : good w.native

/-- Two workbenches with the same stock, and the inputs at the same position. -/
structure Abreast (good : σ → Prop) (stock : Stock) (w v : Workbench σ) : Prop where
  first : w.Stocked good stock
  second : v.Stocked good stock
  position : w.input.position = v.input.position

/-- Both have the same chunk in the input block. -/
structure SharesChunk (good : σ → Prop) (stock : Stock) (length : Nat) (w v : Workbench σ) :
    Prop where
  abreast : Abreast good stock w v
  chunk : (w.buffers.input.take length).toList = (v.buffers.input.take length).toList

/-- Both have the same bytes at the start of the compressed block as well. -/
structure SharesPacked (good : σ → Prop) (stock : Stock) (length packed : Nat)
    (w v : Workbench σ) : Prop where
  shared : SharesChunk good stock length w v
  packed : (w.buffers.compressed.take packed).toList = (v.buffers.compressed.take packed).toList

/-- Both have the chunk, and the same bytes came back. -/
structure SharesReturn (good : σ → Prop) (stock : Stock) (length decoded : Nat)
    (w v : Workbench σ) : Prop where
  shared : SharesChunk good stock length w v
  returned :
    (w.buffers.decompressed.take decoded).toList = (v.buffers.decompressed.take decoded).toList

theorem Stocked.size_compressed (hstocked : w.Stocked good stock) :
    w.buffers.compressed.size = compressionBound stock.chunkSize := by
  rw [w.buffers.size_compressed]
  exact congrArg compressionBound hstocked.chunkSize

theorem Stocked.size_decompressed (hstocked : w.Stocked good stock) :
    w.buffers.decompressed.size = stock.chunkSize := by
  rw [w.buffers.size_decompressed]
  exact hstocked.chunkSize

theorem Stocked.rewound (hstocked : w.Stocked good stock) :
    Stocked good stock { w with input := { w.input with position := 0 } } := by
  obtain ⟨⟨hsteady, hbytes⟩, hsize, hnative⟩ := hstocked
  constructor
  · exact ⟨⟨hsteady.seeks, hsteady.reads, hsteady.even⟩, hbytes⟩
  · exact hsize
  · exact hnative

end Workbench

namespace CellRun

variable {σ : Type} {good : σ → Prop} {stock : Stock} {run : CellRun σ}

open Workbench

/-! ## One step after another -/

theorem say_abreast (notice : Notice) :
    Coupled (fun _ _ => True) (Abreast good stock) (Workbench.say notice) (Workbench.say notice)
      (fun _ => Abreast good stock) (Abreast good stock) := by
  refine .of_related fun w v habreast => ?_
  obtain ⟨⟨hinput, hsize, hnative⟩, ⟨hinput', hsize', hnative'⟩, hposition⟩ := habreast
  exact .ok ⟨rfl, ⟨hinput, hsize, hnative⟩, ⟨hinput', hsize', hnative'⟩, hposition⟩

/-- A rewind brings the inputs to the same position, wherever they stand. -/
theorem rewind_stocked :
    Coupled (fun _ _ => True) (fun w v => w.Stocked good stock ∧ v.Stocked good stock)
      Workbench.rewind Workbench.rewind (fun _ => Abreast good stock) (Abreast good stock) := by
  refine .of_related fun w v hstocked => ?_
  obtain ⟨⟨hinput, hsize, hnative⟩, ⟨hinput', hsize', hnative'⟩⟩ := hstocked
  have hrewind := hinput.rewind hinput'
  simp only [Workbench.rewind]
  generalize w.input.rewind = one at hrewind
  generalize v.input.rewind = two at hrewind
  cases hrewind with
  | ok hafter =>
      obtain ⟨-, hfirst, hsecond, hposition⟩ := hafter
      exact .ok ⟨trivial, ⟨hfirst, hsize, hnative⟩, ⟨hsecond, hsize', hnative'⟩, hposition⟩
  | error cause hafter =>
      obtain ⟨hfirst, hsecond, hposition⟩ := hafter
      exact .error _ ⟨⟨hfirst, hsize, hnative⟩, ⟨hsecond, hsize', hnative'⟩, hposition⟩

theorem rewind_abreast :
    Coupled (fun _ _ => True) (Abreast good stock) Workbench.rewind Workbench.rewind
      (fun _ => Abreast good stock) (Abreast good stock) :=
  rewind_stocked.mono (fun _ _ habreast => ⟨habreast.first, habreast.second⟩)
    (fun _ _ _ hafter => hafter) fun _ _ hafter => hafter

theorem load_abreast (length : Nat) :
    Coupled (fun _ _ => True) (Abreast good stock) (Workbench.load length)
      (Workbench.load length) (fun _ => SharesChunk good stock length) (Abreast good stock) := by
  refine .of_related fun w v habreast => ?_
  obtain ⟨⟨hinput, hsize, hnative⟩, ⟨hinput', hsize', hnative'⟩, hposition⟩ := habreast
  have hread := Input.Abreast.readExact ⟨hinput, hinput', hposition⟩ length
  simp only [Workbench.load]
  cases hleft : Input.readExact length w.input with
  | error cause after =>
      rw [hleft] at hread
      obtain ⟨after', hright, hfirst, hsecond, hafter⟩ := hread.exists_error
      rw [hright]
      exact .error _ ⟨⟨hfirst, hsize, hnative⟩, ⟨hsecond, hsize', hnative'⟩, hafter⟩
  | ok bytes after =>
      rw [hleft] at hread
      obtain ⟨_, after', hright, rfl, hfirst, hsecond, hafter⟩ := hread.exists_ok
      rw [hright]
      obtain ⟨-, -, -, hlength⟩ := Input.readExact_ok hleft
      refine .ok ⟨trivial, ⟨⟨hfirst, ?_, hnative⟩, ⟨hsecond, ?_, hnative'⟩, hafter⟩, ?_⟩
      · rw [Buffers.chunkSize_load]
        exact hsize
      · rw [Buffers.chunkSize_load]
        exact hsize'
      · subst hlength
        change ((w.buffers.input.write 0 bytes).take bytes.length).toList =
          ((v.buffers.input.write 0 bytes).take bytes.length).toList
        rw [Region.toList_take_write, Region.toList_take_write]
        exact congrArg bytes.take (hsize.trans hsize'.symm)

theorem compress_abreast (hstateless : run.native.Stateless good run.entry) (length : Nat) :
    Coupled (fun _ _ => True) (SharesChunk good stock length) (run.compress length)
      (run.compress length) (fun answer => SharesPacked good stock length answer.1)
      (Abreast good stock) := by
  refine .of_related fun w v hshares => ?_
  obtain ⟨⟨hfirst, hsecond, hposition⟩, hchunk⟩ := hshares
  have hroom : w.buffers.compressed.size = v.buffers.compressed.size := by
    rw [hfirst.size_compressed, hsecond.size_compressed]
  obtain ⟨produced, span, packed, packed', s, t, hleft, hright, hs, ht, hbytes⟩ :=
    EntryPoints.perform_stateless hstateless
      (.compress run.entry.engine run.cell.level run.options.extra) w.buffers.compressed.size
      hchunk hroom hfirst.native hsecond.native
  simp only [CellRun.compress, EntryPoints.compress, ← hroom, hleft, hright]
  cases produced with
  | error cause =>
      exact .error _ ⟨⟨hfirst.input, hfirst.chunkSize, hs⟩, ⟨hsecond.input, hsecond.chunkSize, ht⟩,
        hposition⟩
  | ok n =>
      refine .ok ⟨rfl, ⟨⟨⟨hfirst.input, hfirst.chunkSize, hs⟩,
        ⟨hsecond.input, hsecond.chunkSize, ht⟩, hposition⟩, hchunk⟩, ?_⟩
      rw [Region.toList_take, Region.toList_take]
      exact hbytes n rfl

theorem decompress_abreast (hstateless : run.native.Stateless good run.entry)
    (packed length : Nat) :
    Coupled (fun _ _ => True) (SharesPacked good stock length packed)
      (run.decompress packed length) (run.decompress packed length)
      (fun answer => SharesReturn good stock length answer.1) (Abreast good stock) := by
  refine .of_related fun w v hshares => ?_
  obtain ⟨⟨⟨hfirst, hsecond, hposition⟩, hchunk⟩, hpacked⟩ := hshares
  have hroom : w.buffers.decompressed.size = v.buffers.decompressed.size := by
    rw [hfirst.size_decompressed, hsecond.size_decompressed]
  obtain ⟨produced, span, decoded, decoded', s, t, hleft, hright, hs, ht, hbytes⟩ :=
    EntryPoints.perform_stateless hstateless (.decompress run.entry.engine) length hpacked hroom
      hfirst.native hsecond.native
  simp only [CellRun.decompress, EntryPoints.decompress, hleft, hright]
  cases produced with
  | error cause =>
      exact .error _ ⟨⟨hfirst.input, hfirst.chunkSize, hs⟩, ⟨hsecond.input, hsecond.chunkSize, ht⟩,
        hposition⟩
  | ok n =>
      refine .ok ⟨rfl, ⟨⟨⟨hfirst.input, hfirst.chunkSize, hs⟩,
        ⟨hsecond.input, hsecond.chunkSize, ht⟩, hposition⟩, hchunk⟩, ?_⟩
      rw [Region.toList_take, Region.toList_take]
      exact hbytes n rfl

theorem compare_abreast (length decoded : Nat) :
    Coupled (fun _ _ => True) (SharesReturn good stock length decoded)
      (run.compare length decoded) (run.compare length decoded) (fun _ => Abreast good stock)
      (Abreast good stock) := by
  refine .of_related fun w v hshares => ?_
  obtain ⟨⟨habreast, hchunk⟩, hreturned⟩ := hshares
  simp only [CellRun.compare, ← hchunk, ← hreturned]
  split
  · exact .ok ⟨trivial, habreast⟩
  · exact .error _ habreast

theorem couplesSteps_abreast (hstateless : run.native.Stateless good run.entry) :
    CouplesSteps (fun _ _ => True) run run (Abreast good stock) (SharesChunk good stock)
      (SharesPacked good stock) (SharesReturn good stock) where
  cell := rfl
  options := rfl
  chunkSize habreast := habreast.first.chunkSize.trans habreast.second.chunkSize.symm
  say := say_abreast
  rewind := rewind_abreast
  load := load_abreast
  compress := compress_abreast hstateless
  decompress length size := decompress_abreast hstateless size length
  compare _ := compare_abreast
  settles hshares := hshares.shared.abreast

/-! ## Whole cells -/

/-- A cell that makes a pass at all starts with a rewind. -/
theorem execute_rewound (hpasses : 0 < run.options.iterations.toNat) (fileSize : Nat)
    {w : Workbench σ} (hsteady : w.input.Steady) :
    run.execute fileSize w =
      run.execute fileSize { w with input := { w.input with position := 0 } } := by
  obtain ⟨left, hleft⟩ := Nat.exists_eq_add_one_of_ne_zero (Nat.ne_of_gt hpasses)
  have hrewound : ({ w.input with position := 0 } : Input).Steady :=
    ⟨hsteady.seeks, hsteady.reads, hsteady.even⟩
  simp only [CellRun.execute, hleft, CellRun.passes, CellRun.pass, Bind.bind, EStateM.bind,
    Workbench.say, Workbench.rewind, hsteady.rewind, hrewound.rewind]

/-- Wherever it starts, a cell has the same outcome, and leaves the stock as it was. -/
theorem execute_stocked (hstateless : run.native.Stateless good run.entry)
    (hpasses : 0 < run.options.iterations.toNat) (fileSize : Nat) :
    Simulates (fun w v => w.Stocked good stock ∧ v.Stocked good stock) (run.execute fileSize)
      (run.execute fileSize) (Alike fun w v => w.Stocked good stock ∧ v.Stocked good stock)
      (fun w v => w.Stocked good stock ∧ v.Stocked good stock) := by
  rintro w v ⟨hfirst, hsecond⟩
  rw [execute_rewound hpasses fileSize hfirst.input.steady,
    execute_rewound hpasses fileSize hsecond.input.steady]
  have hrelated := ((couplesSteps_abreast hstateless).couples.execute fileSize).simulates
    ⟨hfirst.rewound, hsecond.rewound, rfl⟩
  generalize run.execute fileSize { w with input := { w.input with position := 0 } } = one at *
  generalize run.execute fileSize { v with input := { v.input with position := 0 } } = two at *
  cases hrelated with
  | ok hafter => exact .ok ⟨hafter.1, hafter.2.first, hafter.2.second⟩
  | error fault hafter => exact .error fault ⟨hafter.first, hafter.second⟩

end CellRun
end RoundTrip
