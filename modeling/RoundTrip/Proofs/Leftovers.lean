import Mathlib.Data.List.Basic
import RoundTrip.Native.StandIn
import RoundTrip.Proofs.CellMirror
import RoundTrip.Proofs.Reading

/-!
# Bytes left over in the blocks

The blocks of a run keep their bytes from chunk to chunk and from cell to cell,
and a length that an engine reports says nothing about what it wrote.  So a cell
may depend on what was left over in the blocks, but only through bytes that a
call reported and did not write: where every call that decompresses writes what
it reports, the same writes and reports give the same outcome.
-/

namespace RoundTrip

/-! ## What a call writes -/

namespace Reply

/-- The call put a byte at place `i` of its destination. -/
def Wrote (r : Reply) (capacity i : Nat) : Prop :=
  ∃ w ∈ r.writes, w.1 ≤ i ∧ i < w.1 + (upTo (capacity - w.1) w.2).length

instance (r : Reply) (capacity i : Nat) : Decidable (r.Wrote capacity i) :=
  inferInstanceAs (Decidable (∃ w ∈ r.writes, _))

/-- After a call two destinations are alike where it wrote and where they were alike before. -/
theorem getElem?_apply_eq {r : Reply} {capacity i : Nat} {d d' : Region} (hsize : d.size = d'.size)
    (halike : r.Wrote capacity i ∨ d.toList[i]? = d'.toList[i]?) :
    (r.apply capacity d).toList[i]? = (r.apply capacity d').toList[i]? := by
  rw [Wrote] at halike
  simp only [apply]
  generalize r.writes = writes at halike ⊢
  induction writes generalizing d d' with
  | nil => simpa using halike
  | cons w rest ih =>
      refine ih (by simpa using hsize) ?_
      rw [Region.getElem?_write, Region.getElem?_write, ← hsize]
      split
      · exact .inr rfl
      · rename_i hnot
        rcases halike with ⟨v, hv, hcovers⟩ | hsame
        · rcases List.mem_cons.mp hv with rfl | hv
          · -- the call reaches past the end of both blocks
            have hbeyond : d.size ≤ i := by omega
            refine .inr ?_
            rw [List.getElem?_eq_none (by simpa using hbeyond),
              List.getElem?_eq_none (by simpa [← hsize] using hbeyond)]
          · exact .inl ⟨v, hv, hcovers⟩
        · exact .inr hsame

theorem take_apply_eq {r : Reply} {capacity n : Nat} {d d' : Region} (hsize : d.size = d'.size)
    (hwrote : ∀ i < n, r.Wrote capacity i) :
    (r.apply capacity d).toList.take n = (r.apply capacity d').toList.take n := by
  apply List.ext_getElem?
  intro i
  rw [List.getElem?_take, List.getElem?_take]
  split
  · exact getElem?_apply_eq hsize (.inl (hwrote i ‹_›))
  · rfl

end Reply

/-- A length that is reported fits the engine's type of lengths, so the room may be cut to it. -/
theorem Engine.interpret_min {e : Engine} {r : Reply} {room n : Nat}
    (hok : e.interpret r room = .ok n) : e.interpret r (min room e.lengthLimit) = .ok n := by
  have hlimit := interpret_le_lengthLimit hok
  have hroom := interpret_le hok
  simp only [interpret] at hok ⊢
  grind

/-- A call that succeeded wrote every byte that it reported. -/
def Exchange.Faithful (e : Exchange) : Prop :=
  ∀ n, e.call.entry.engine.interpret e.reply e.call.capacity = .ok n →
    ∀ i < n, e.reply.Wrote e.call.capacity i

instance (e : Exchange) : Decidable e.Faithful :=
  match h : e.call.entry.engine.interpret e.reply e.call.capacity with
  | .ok n =>
      decidable_of_iff (∀ i < n, e.reply.Wrote e.call.capacity i) (by simp [Exchange.Faithful, h])
  | .error _ => .isTrue (by simp [Exchange.Faithful, h])

deriving instance DecidableEq for Reply

/-- The same replies call by call, as far as both logs go. -/
def SameReplies (log log' : List Exchange) : Prop :=
  ∀ (i : Nat) (e e' : Exchange), log[i]? = some e → log'[i]? = some e' → e.reply = e'.reply

theorem SameReplies.of_append {log log' more more' : List Exchange}
    (hsame : SameReplies (log ++ more) (log' ++ more')) : SameReplies log log' := by
  intro i e e' he he'
  refine hsame i e e' ?_ ?_
  · rw [List.getElem?_append_left (List.getElem?_eq_some_iff.mp he).1]
    exact he
  · rw [List.getElem?_append_left (List.getElem?_eq_some_iff.mp he').1]
    exact he'

theorem SameReplies.last {log log' : List Exchange} {e e' : Exchange}
    (hlength : log.length = log'.length) (hsame : SameReplies (log ++ [e]) (log' ++ [e'])) :
    e.reply = e'.reply := by
  refine hsame log.length e e' List.getElem?_concat_length ?_
  rw [hlength]
  exact List.getElem?_concat_length

theorem SameReplies.of_map_eq {log log' : List Exchange}
    (hmap : log.map Exchange.reply = log'.map Exchange.reply) : SameReplies log log' := by
  intro i e e' he he'
  have hsame := congrArg (fun replies : List Reply => replies[i]?) hmap
  simpa [he, he'] using hsame

namespace EntryPoints

variable {σ τ : Type} {native : Native σ} {native' : Native τ} {entry : EntryPoints}
  {request : Request} {source source' destination destination' : Region} {room : Nat}

/-- A call adds to the log, if anything. -/
theorem exists_log_perform (s : σ × List Exchange) :
    ∃ more, (perform native.recorded entry request source destination room s).2.2 =
      s.2 ++ more := by
  rcases perform_recorded_cases native entry request source destination room s with
    ⟨-, hrun⟩ | ⟨-, c, inner, -, -, hrun⟩
  · exact ⟨[], by rw [hrun, List.append_nil]⟩
  · exact ⟨[c], by rw [hrun]⟩

/-- Two calls with the same replies have the same outcome up to the destination, and where the
call is faithful the bytes that it reports are the same as well. -/
theorem perform_alike {s : σ × List Exchange} {t : τ × List Exchange}
    (hsource : source.size = source'.size) (hdestination : destination.size = destination'.size)
    (hlength : s.2.length = t.2.length)
    (hsame : SameReplies (perform native.recorded entry request source destination room s).2.2
      (perform native'.recorded entry request source' destination' room t).2.2) :
    ∃ produced span first second s' t',
      perform native.recorded entry request source destination room s =
        (⟨produced, first, span⟩, s') ∧
      perform native'.recorded entry request source' destination' room t =
        (⟨produced, second, span⟩, t') ∧
      s'.2.length = t'.2.length ∧
      ∀ n, produced = .ok n →
        (∀ e ∈ s'.2, e.call.request.direction = request.direction → e.Faithful) →
          first.toList.take n = second.toList.take n := by
  rcases perform_recorded_cases native entry request source destination room s with
    ⟨hlimit, hrun⟩ | ⟨hlimit, c, inner, hcall, -, hrun⟩
  · rcases perform_recorded_cases native' entry request source' destination' room t with
      ⟨-, hrun'⟩ | ⟨hlimit', -⟩
    · rw [← hsource] at hrun'
      exact ⟨_, _, _, _, _, _, hrun, hrun', hlength, nofun⟩
    · omega
  · rcases perform_recorded_cases native' entry request source' destination' room t with
      ⟨hlimit', -⟩ | ⟨-, c', inner', hcall', -, hrun'⟩
    · omega
    · rw [hrun, hrun'] at hsame
      have hreply : c.reply = c'.reply := hsame.last hlength
      rw [← hreply] at hrun'
      refine ⟨_, _, _, _, _, _, hrun, hrun', ?_, fun n hok hfaithful => ?_⟩
      · rw [List.length_append, List.length_append, hlength]
        rfl
      · have hc : c.Faithful := by
          refine hfaithful c (List.mem_append_right _ (List.mem_singleton_self c)) ?_
          rw [hcall]
        have hcapacity : c'.call.capacity = c.call.capacity := by rw [hcall, hcall']
        rw [hcapacity]
        refine Reply.take_apply_eq hdestination (hc n ?_)
        rw [hcall]
        exact Engine.interpret_min hok

end EntryPoints

namespace CellRun

variable {σ τ : Type}

/-! ## Two cells on different blocks -/

/-- The same run with other code behind its functions. -/
def withNative (run : CellRun σ) (native : Native τ) : CellRun τ :=
  ⟨native, run.entry, run.cell, run.options⟩

/-- The exchanges of a cell with its engine, in order. -/
def exchanges (run : CellRun σ) (fileSize : Nat) (w : Workbench σ) : List Exchange :=
  (leaves (run.recorded.execute fileSize) (w.recorded [])).native.2

/-- The engines of both cells do the same, and those that are checked for it are faithful. -/
structure Agrees (verify : Prop) (w : Workbench (σ × List Exchange))
    (v : Workbench (τ × List Exchange)) : Prop where
  replies : SameReplies w.native.2 v.native.2
  faithful : verify → ∀ e ∈ w.native.2, e.call.request.direction = .decompress → e.Faithful

/-- Both cells are equally far, over the same input and with blocks of one size. -/
structure Aligned (w : Workbench (σ × List Exchange)) (v : Workbench (τ × List Exchange)) :
    Prop where
  calls : w.native.2.length = v.native.2.length
  input : w.input = v.input
  size : w.buffers.chunkSize = v.buffers.chunkSize

/-- Both have the same chunk in the input block. -/
structure SameChunk (length : Nat) (w : Workbench (σ × List Exchange))
    (v : Workbench (τ × List Exchange)) : Prop where
  aligned : Aligned w v
  source : (w.buffers.input.take length).toList = (v.buffers.input.take length).toList

/-- A chunk that is to be compared came back alike. -/
structure SameReturn (verify : Prop) (length decoded : Nat) (w : Workbench (σ × List Exchange))
    (v : Workbench (τ × List Exchange)) : Prop where
  chunk : SameChunk length w v
  returned : verify →
    (w.buffers.decompressed.take decoded).toList = (v.buffers.decompressed.take decoded).toList

/-- A step may only add to the exchanges. -/
def Extends {α : Type} (step : EStateM Fault (Workbench (σ × List Exchange)) α) : Prop :=
  ∀ w, ∃ more, (leaves step w).native.2 = w.native.2 ++ more

section Steps

variable {α : Type} {verify : Prop} {run : CellRun σ} {native' : Native τ}

theorem Agrees.of_append {w w' : Workbench (σ × List Exchange)}
    {v v' : Workbench (τ × List Exchange)} (hagrees : Agrees verify w' v')
    (hleft : ∃ more, w'.native.2 = w.native.2 ++ more)
    (hright : ∃ more, v'.native.2 = v.native.2 ++ more) : Agrees verify w v := by
  obtain ⟨more, hleft⟩ := hleft
  obtain ⟨more', hright⟩ := hright
  obtain ⟨hreplies, hfaithful⟩ := hagrees
  rw [hleft, hright] at hreplies
  rw [hleft] at hfaithful
  exact ⟨hreplies.of_append, fun hverify e he => hfaithful hverify e (List.mem_append_left _ he)⟩

theorem coupled_of_extends {step : EStateM Fault (Workbench (σ × List Exchange)) α}
    {step' : EStateM Fault (Workbench (τ × List Exchange)) α}
    {pre : Workbench (σ × List Exchange) → Workbench (τ × List Exchange) → Prop}
    {post : α → Workbench (σ × List Exchange) → Workbench (τ × List Exchange) → Prop}
    {fail : Workbench (σ × List Exchange) → Workbench (τ × List Exchange) → Prop}
    (hleft : Extends step) (hright : Extends step')
    (hrelated : ∀ w v, pre w v → Agrees verify (leaves step w) (leaves step' v) →
      Related (fun a b w v => a = b ∧ post a w v) fail (step w) (step' v)) :
    Coupled (Agrees verify) pre step step' post fail where
  first_agrees w _ hagrees := hagrees.of_append (hleft w) ⟨[], (List.append_nil _).symm⟩
  second_agrees _ v hagrees := hagrees.of_append ⟨[], (List.append_nil _).symm⟩ (hright v)
  related := hrelated

/-- A step that leaves the engine alone makes no exchanges. -/
theorem extends_of_native {step : EStateM Fault (Workbench (σ × List Exchange)) α}
    (hnative : ∀ w, (leaves step w).native = w.native) : Extends step :=
  fun w => ⟨[], by rw [hnative, List.append_nil]⟩

theorem extends_say (notice : Notice) :
    Extends (Workbench.say notice : EStateM Fault (Workbench (σ × List Exchange)) Unit) :=
  extends_of_native fun _ => rfl

theorem extends_rewind :
    Extends (Workbench.rewind : EStateM Fault (Workbench (σ × List Exchange)) Unit) := by
  refine extends_of_native fun w => ?_
  simp only [leaves, Workbench.rewind]
  cases w.input.rewind with
  | ok _ after => rfl
  | error cause after => rfl

theorem extends_load (length : Nat) :
    Extends (Workbench.load length : EStateM Fault (Workbench (σ × List Exchange)) Unit) := by
  refine extends_of_native fun w => ?_
  simp only [leaves, Workbench.load]
  cases Input.readExact length w.input with
  | ok bytes after => rfl
  | error cause after => rfl

theorem native_leaves_compress (run : CellRun σ) (length : Nat) (w : Workbench σ) :
    (leaves (run.compress length) w).native =
      (run.entry.compress run.native run.cell.level run.options.extra
        (w.buffers.input.take length) w.buffers.compressed w.native).2 := by
  cases hproduced : (run.entry.compress run.native run.cell.level run.options.extra
      (w.buffers.input.take length) w.buffers.compressed w.native).1.produced with
  | ok packed => simp only [leaves, CellRun.compress, hproduced]
  | error cause => simp only [leaves, CellRun.compress, hproduced]

theorem native_leaves_decompress (run : CellRun σ) (packed length : Nat) (w : Workbench σ) :
    (leaves (run.decompress packed length) w).native =
      (run.entry.decompress run.native (w.buffers.compressed.take packed)
        w.buffers.decompressed length w.native).2 := by
  cases hproduced : (run.entry.decompress run.native (w.buffers.compressed.take packed)
      w.buffers.decompressed length w.native).1.produced with
  | ok decoded => simp only [leaves, CellRun.decompress, hproduced]
  | error cause => simp only [leaves, CellRun.decompress, hproduced]

theorem extends_compress (run : CellRun σ) (length : Nat) :
    Extends (run.recorded.compress length) := by
  intro w
  rw [native_leaves_compress]
  exact EntryPoints.exists_log_perform _

theorem extends_decompress (run : CellRun σ) (packed length : Nat) :
    Extends (run.recorded.decompress packed length) := by
  intro w
  rw [native_leaves_decompress]
  exact EntryPoints.exists_log_perform _

theorem extends_compare (run : CellRun σ) (length decoded : Nat) :
    Extends (run.recorded.compare length decoded) := by
  refine extends_of_native fun w => ?_
  cases hverify : RoundTrip.verify (w.buffers.input.take length).toList
      (w.buffers.decompressed.take decoded).toList with
  | ok _ => simp only [leaves, CellRun.compare, hverify]
  | error mismatch => simp only [leaves, CellRun.compare, hverify]

/-! ### One step after another -/

theorem say_coupled (notice : Notice) :
    Coupled (Agrees verify) (Aligned (σ := σ) (τ := τ)) (Workbench.say notice)
      (Workbench.say notice) (fun _ => Aligned) Aligned :=
  coupled_of_extends (extends_say notice) (extends_say notice)
    fun _ _ haligned _ => .ok ⟨rfl, haligned.calls, haligned.input, haligned.size⟩

theorem rewind_coupled :
    Coupled (Agrees verify) (Aligned (σ := σ) (τ := τ)) Workbench.rewind Workbench.rewind
      (fun _ => Aligned) Aligned := by
  refine coupled_of_extends extends_rewind extends_rewind ?_
  rintro ⟨console, native, input, buffers⟩ ⟨console', native', _, buffers'⟩ ⟨hcalls, rfl, hsize⟩ -
  simp only [Workbench.rewind]
  cases input.rewind with
  | ok _ after => exact .ok ⟨trivial, hcalls, rfl, hsize⟩
  | error cause after => exact .error _ ⟨hcalls, rfl, hsize⟩

theorem load_coupled (length : Nat) :
    Coupled (Agrees verify) (Aligned (σ := σ) (τ := τ)) (Workbench.load length)
      (Workbench.load length) (fun _ => SameChunk length) Aligned := by
  refine coupled_of_extends (extends_load length) (extends_load length) ?_
  rintro ⟨console, native, input, buffers⟩ ⟨console', native', _, buffers'⟩ ⟨hcalls, rfl, hsize⟩ -
  simp only [Workbench.load]
  cases hread : Input.readExact length input with
  | error cause after => exact .error _ ⟨hcalls, rfl, hsize⟩
  | ok bytes after =>
      obtain ⟨-, -, -, hlength⟩ := Input.readExact_ok hread
      refine .ok ⟨trivial, ⟨hcalls, rfl, ?_⟩, ?_⟩
      · rw [Buffers.chunkSize_load, Buffers.chunkSize_load]
        exact hsize
      · subst hlength
        change ((buffers.input.write 0 bytes).take bytes.length).toList =
          ((buffers'.input.write 0 bytes).take bytes.length).toList
        rw [Region.toList_take_write, Region.toList_take_write]
        exact congrArg bytes.take hsize

theorem compress_coupled (length : Nat) :
    Coupled (Agrees verify) (SameChunk length) (run.recorded.compress length)
      ((run.withNative native').recorded.compress length) (fun _ => SameChunk length)
      Aligned := by
  refine coupled_of_extends (extends_compress _ length) (extends_compress _ length) ?_
  rintro ⟨console, native, input, buffers⟩ ⟨console', engine, input', buffers'⟩
    ⟨⟨hcalls, hinput, hsize⟩, hsource⟩ ⟨hreplies, -⟩
  have hroom : buffers.compressed.size = buffers'.compressed.size := by
    rw [buffers.size_compressed, buffers'.size_compressed]
    exact congrArg compressionBound hsize
  rw [native_leaves_compress, native_leaves_compress] at hreplies
  simp only [recorded, withNative, EntryPoints.compress, ← hroom] at hreplies
  obtain ⟨produced, span, first, second, s', t', hrun, hrun', hlength, -⟩ :=
    EntryPoints.perform_alike (congrArg (min length) hsize) hroom hcalls hreplies
  simp only [CellRun.compress, recorded, withNative, EntryPoints.compress, ← hroom, hrun, hrun']
  cases produced with
  | ok packed => exact .ok ⟨rfl, ⟨hlength, hinput, hsize⟩, hsource⟩
  | error cause => exact .error _ ⟨hlength, hinput, hsize⟩

theorem decompress_coupled (packed length : Nat) :
    Coupled (Agrees verify) (SameChunk length) (run.recorded.decompress packed length)
      ((run.withNative native').recorded.decompress packed length)
      (fun answer => SameReturn verify length answer.1) Aligned := by
  refine coupled_of_extends (extends_decompress _ packed length)
    (extends_decompress _ packed length) ?_
  rintro ⟨console, native, input, buffers⟩ ⟨console', engine, input', buffers'⟩
    ⟨⟨hcalls, hinput, hsize⟩, hsource⟩ ⟨hreplies, hfaithful⟩
  have hpacked : buffers.compressed.size = buffers'.compressed.size := by
    rw [buffers.size_compressed, buffers'.size_compressed]
    exact congrArg compressionBound hsize
  have hroom : buffers.decompressed.size = buffers'.decompressed.size := by
    rw [buffers.size_decompressed, buffers'.size_decompressed]
    exact hsize
  rw [native_leaves_decompress] at hreplies hfaithful
  rw [native_leaves_decompress] at hreplies
  simp only [recorded, withNative, EntryPoints.decompress] at hreplies hfaithful
  obtain ⟨produced, span, first, second, s', t', hrun, hrun', hlength, hreturned⟩ :=
    EntryPoints.perform_alike (congrArg (min packed) hpacked) hroom hcalls hreplies
  rw [hrun] at hfaithful
  simp only [CellRun.decompress, recorded, withNative, EntryPoints.decompress, hrun, hrun']
  cases produced with
  | error cause => exact .error _ ⟨hlength, hinput, hsize⟩
  | ok decoded =>
      refine .ok ⟨rfl, ⟨⟨hlength, hinput, hsize⟩, hsource⟩, fun hverify => ?_⟩
      rw [Region.toList_take, Region.toList_take]
      refine hreturned decoded rfl fun e he hdirection => hfaithful hverify e he ?_
      rw [hdirection, Request.direction_decompress]

theorem compare_coupled (hverify : verify) (length decoded : Nat) :
    Coupled (Agrees verify) (SameReturn verify length decoded)
      (run.recorded.compare length decoded)
      ((run.withNative native').recorded.compare length decoded) (fun _ => Aligned) Aligned := by
  refine coupled_of_extends (extends_compare _ length decoded) (extends_compare _ length decoded)
    fun w v hstates _ => ?_
  obtain ⟨⟨haligned, hsource⟩, hreturned⟩ := hstates
  simp only [CellRun.compare, recorded, withNative, ← hsource, ← hreturned hverify]
  split
  · exact .ok ⟨trivial, haligned⟩
  · exact .error _ haligned

theorem couplesSteps_withNative (run : CellRun σ) (native' : Native τ) :
    CouplesSteps (Agrees (run.options.verify = true)) run.recorded (run.withNative native').recorded
      Aligned SameChunk (fun length _ => SameChunk length)
      (SameReturn (run.options.verify = true)) where
  cell := rfl
  options := rfl
  chunkSize haligned := haligned.size
  say := say_coupled
  rewind := rewind_coupled
  load := load_coupled
  compress := compress_coupled
  decompress length size := decompress_coupled size length
  compare := compare_coupled
  settles hreturn := hreturn.chunk.aligned

theorem couples_withNative (run : CellRun σ) (native' : Native τ) :
    Couples (Agrees (run.options.verify = true)) run.recorded (run.withNative native').recorded
      Aligned :=
  (run.couplesSteps_withNative native').couples

end Steps

/-- The outcome of a cell does not depend on what the blocks held before, for the same writes and
reports call by call, unless a chunk that is compared was reported and not written. -/
theorem answer_eq_of_sameReplies (run : CellRun σ) (native' : Native τ) (fileSize : Nat)
    (w : Workbench σ) (v : Workbench τ) (hinput : w.input = v.input)
    (hsize : w.buffers.chunkSize = v.buffers.chunkSize)
    (hsame : SameReplies (run.exchanges fileSize w)
      ((run.withNative native').exchanges fileSize v))
    (hfaithful : run.options.verify = true → ∀ e ∈ run.exchanges fileSize w,
      e.call.request.direction = .decompress → e.Faithful) :
    answer (run.execute fileSize) w = answer ((run.withNative native').execute fileSize) v := by
  have hstart : Aligned (w.recorded []) (v.recorded []) := ⟨rfl, hinput, hsize⟩
  have hrelated := ((run.couples_withNative native').execute fileSize).related hstart
    ⟨hsame, hfaithful⟩
  obtain ⟨log, hleft⟩ := run.execute_recorded fileSize w []
  obtain ⟨log', hright⟩ := (run.withNative native').execute_recorded fileSize v []
  calc answer (run.execute fileSize) w
      = answer (run.recorded.execute fileSize) (w.recorded []) := (answer_eq_of_mapState hleft).symm
    _ = answer ((run.withNative native').recorded.execute fileSize) (v.recorded []) :=
        hrelated.answer_eq
    _ = answer ((run.withNative native').execute fileSize) v := answer_eq_of_mapState hright

/-- Two passes of a stand-in engine over three bytes, in fresh blocks and in used ones. -/
theorem answer_eq_of_sameReplies_standIn :
    let run : CellRun Unit :=
      ⟨StandIn.native, ⟨.lz4hc, .process⟩, ⟨"", .lz4hc, 3, "input"⟩, ⟨2, true, true, 0⟩⟩
    let w : Workbench Unit := ⟨.ofThreshold 0, (), .ofList [1, 2, 3], .ofChunkSize 2⟩
    let used : Buffers := ⟨.ofList [7, 7], ⟨compressionBound 2, [7, 7], by decide⟩, .ofList [7, 7],
      rfl, rfl⟩
    let v : Workbench Unit := ⟨.ofThreshold 0, (), .ofList [1, 2, 3], used⟩
    SameReplies (run.exchanges 3 w) ((run.withNative StandIn.native).exchanges 3 v) ∧
      (∀ e ∈ run.exchanges 3 w, e.call.request.direction = .decompress → e.Faithful) ∧
      answer (run.execute 3) w = answer ((run.withNative StandIn.native).execute 3) v := by
  intro run w used v
  have hsame : SameReplies (run.exchanges 3 w) ((run.withNative StandIn.native).exchanges 3 v) :=
    .of_map_eq (by decide +kernel)
  have hfaithful : ∀ e ∈ run.exchanges 3 w, e.call.request.direction = .decompress →
      e.Faithful := by decide +kernel
  exact ⟨hsame, hfaithful,
    answer_eq_of_sameReplies run StandIn.native 3 w v rfl rfl hsame fun _ => hfaithful⟩

/-- An engine that writes nothing and reports three bytes is believed where the right bytes were
left over. -/
theorem not_answer_eq_of_sameReplies :
    ¬ ∀ (run : CellRun Unit) (native' : Native Unit) (fileSize : Nat) (w v : Workbench Unit),
      w.input = v.input → w.buffers.chunkSize = v.buffers.chunkSize →
      SameReplies (run.exchanges fileSize w) ((run.withNative native').exchanges fileSize v) →
      answer (run.execute fileSize) w = answer ((run.withNative native').execute fileSize) v := by
  intro hindependent
  have hequal := hindependent
    ⟨fun _ s => (⟨3, 0, [], 0⟩, s), ⟨.lz4, .process⟩, ⟨"NATIVE", .lz4, 0, "sample.bin"⟩,
      ⟨1, true, false, 0⟩⟩
    (fun _ s => (⟨3, 0, [], 0⟩, s)) 3
    ⟨.ofThreshold 0, (), .ofList [97, 98, 99], .ofChunkSize 3⟩
    ⟨.ofThreshold 0, (), .ofList [97, 98, 99],
      ⟨.zeros 3, .zeros (compressionBound 3), .ofList [97, 98, 99], rfl, rfl⟩⟩
    rfl rfl (.of_map_eq (by decide +kernel))
  exact absurd hequal (by decide +kernel)

end CellRun
end RoundTrip
