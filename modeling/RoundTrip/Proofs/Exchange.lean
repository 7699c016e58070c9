import RoundTrip.Native.Call

/-!
# Exchanges with an engine

An exchange is a call with the reply to it.  A native that records its
exchanges replies as before, so its log is what passed between the program and
the engines.  Replaying the writes of a log gives what a block of memory holds.
-/

namespace RoundTrip

/-- A call as bytes: what an engine is shown. -/
structure SeenCall where
  entry : EntryPoints
  request : Request
  source : List UInt8
  capacity : Nat
  deriving DecidableEq

def NativeCall.seen (call : NativeCall) : SeenCall :=
  ⟨call.entry, call.request, call.source.toList, call.capacity⟩

/-- A call with the reply to it. -/
structure Exchange where
  call : NativeCall
  reply : Reply

/-- A native that also keeps every exchange, in order. -/
def Native.recorded {σ : Type} (native : Native σ) : Native (σ × List Exchange) := fun call s =>
  let (reply, inner) := native call s.1
  (reply, inner, s.2 ++ [⟨call, reply⟩])

/-- A block after the writes of all calls in one direction. -/
def replay (direction : Direction) (log : List Exchange) (block : Region) : Region :=
  log.foldl (fun block e =>
    if e.call.request.direction = direction then e.reply.apply e.call.capacity block else block)
    block

theorem replay_append (direction : Direction) (first second : List Exchange) (block : Region) :
    replay direction (first ++ second) block =
      replay direction second (replay direction first block) :=
  List.foldl_append

theorem replay_singleton_of_eq {direction : Direction} {e : Exchange}
    (hdirection : e.call.request.direction = direction) (block : Region) :
    replay direction [e] block = e.reply.apply e.call.capacity block :=
  if_pos hdirection

theorem replay_singleton_of_ne {direction : Direction} {e : Exchange}
    (hdirection : e.call.request.direction ≠ direction) (block : Region) :
    replay direction [e] block = block :=
  if_neg hdirection

/-- A length that was left is cut to the engine's type. -/
theorem Engine.lengthOf_le (e : Engine) (r : Reply) : e.lengthOf r ≤ e.lengthLimit :=
  Nat.le_of_lt_succ (Nat.mod_lt _ (Nat.succ_pos _))

/-- No engine can report more than its type of lengths holds. -/
theorem Engine.interpret_le_lengthLimit {e : Engine} {r : Reply} {room n : Nat}
    (hok : e.interpret r room = .ok n) : n ≤ e.lengthLimit := by
  have hreturned : r.returned.toInt < 2 ^ 31 := Int32.toInt_lt r.returned
  have hlength := e.lengthOf_le r
  cases e <;> simp only [interpret, convention, lengthLimit] at hok hlength ⊢ <;> grind

namespace EntryPoints

variable {σ : Type} (native : Native σ) (entry : EntryPoints) (request : Request)
  (source destination : Region) (room : Nat)

/-- To record changes neither the outcome nor the engine's own state. -/
theorem perform_recorded (s : σ) (log : List Exchange) :
    (perform native.recorded entry request source destination room (s, log)).1 =
        (perform native entry request source destination room s).1 ∧
      (perform native.recorded entry request source destination room (s, log)).2.1 =
        (perform native entry request source destination room s).2 := by
  simp only [perform]
  split <;> exact ⟨rfl, rfl⟩

/-- A source beyond the engine's type of lengths is refused and nothing changes; any other
makes one call, whose reply decides the outcome. -/
theorem perform_recorded_cases (s : σ × List Exchange) :
    (entry.engine.lengthLimit < source.size ∧
      perform native.recorded entry request source destination room s =
        (⟨.error (.argumentTooLarge source.size entry.engine.lengthLimit), destination, 0⟩, s)) ∨
    (source.size ≤ entry.engine.lengthLimit ∧ ∃ c inner,
      c.call = ⟨entry, request, source, min room entry.engine.lengthLimit⟩ ∧
      native c.call s.1 = (c.reply, inner) ∧
      perform native.recorded entry request source destination room s =
        (⟨entry.engine.interpret c.reply room, c.reply.apply c.call.capacity destination,
            c.reply.span⟩, inner, s.2 ++ [c])) := by
  by_cases hlimit : entry.engine.lengthLimit < source.size
  · exact .inl ⟨hlimit, by simp only [perform, hlimit, if_true]⟩
  · obtain ⟨call, hcall⟩ :
        ∃ call : NativeCall, call = ⟨entry, request, source, min room entry.engine.lengthLimit⟩ :=
      ⟨_, rfl⟩
    refine .inr ⟨Nat.le_of_not_lt hlimit, ⟨call, (native call s.1).1⟩, (native call s.1).2, hcall,
      rfl, ?_⟩
    simp only [perform, hlimit, if_false, Native.recorded, hcall]

end EntryPoints
end RoundTrip
