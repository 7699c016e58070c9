import RoundTrip.Proofs.Exchange

/-!
# One contract for all engines

Whatever the engine, the direction and the code behind it, a call is refused
before it is made, or made once and read off its reply by the convention of the
engine.  The reply is measured against the whole destination, while the engine
may have been told of less room than that.  It makes no difference: no reply says
more than the engine's own type of lengths holds.
-/

namespace RoundTrip

namespace Engine

/-- The greatest number in the type in which an engine takes and leaves lengths: a signed word of
32 bits, an unsigned one of 32 bits, or one of 64. -/
def greatestLength : Engine → Int
  | .lz4 | .lz4hc => Int32.maxValue.toInt
  | .bzip2 => UInt32.size - 1
  | .zlib => UInt64.size - 1

theorem lengthLimit_eq (e : Engine) : e.lengthLimit = e.greatestLength := by
  cases e <;> decide

/-- How a returned length is read, where `capacity` of the `room` bytes were offered: it is the
fault itself, the number of bytes, or more than there was room for. -/
structure ReadsLength (returned : Int) (room capacity : Nat) (produced : Except CallFault Nat) :
    Prop where
  ok_iff : ∀ n : Nat, produced = .ok n ↔ 1 ≤ returned ∧ returned ≤ capacity ∧ returned = n
  length_iff : ∀ r, produced = .error (.length r) ↔ returned ≤ 0 ∧ returned = r
  overflow_iff : ∀ n size : Nat, produced = .error (.overflow n size) ↔
    capacity < returned ∧ returned = n ∧ size = room

/-- How a status is read beside the length that was left: any but zero is the fault, whatever the
length. -/
structure ReadsStatus (returned : Int) (length room capacity : Nat)
    (produced : Except CallFault Nat) : Prop where
  ok_iff : ∀ n, produced = .ok n ↔ returned = 0 ∧ length ≤ capacity ∧ length = n
  status_iff : ∀ s, produced = .error (.status s) ↔ returned ≠ 0 ∧ returned = s
  overflow_iff : ∀ n size, produced = .error (.overflow n size) ↔
    returned = 0 ∧ capacity < length ∧ length = n ∧ size = room

/-- What a reply comes to by the convention of an engine. -/
def Reads (e : Engine) (reply : Reply) (room capacity : Nat) (produced : Except CallFault Nat) :
    Prop :=
  match e.convention with
  | .returnsLength => ReadsLength reply.returned.toInt room capacity produced
  | .statusWithLength => ReadsStatus reply.returned.toInt (e.lengthOf reply) room capacity produced

/-- A returned length is beyond the room if it is beyond what was offered of it. -/
theorem readsLength_interpret {e : Engine} (hconvention : e.convention = .returnsLength)
    (reply : Reply) (room : Nat) :
    ReadsLength reply.returned.toInt room (min room e.lengthLimit) (e.interpret reply room) := by
  have hlimit : reply.returned.toInt ≤ e.lengthLimit := by
    have hword : reply.returned.toInt < 2 ^ 31 := Int32.toInt_lt _
    cases e <;> simp only [convention, lengthLimit, reduceCtorEq] at hconvention ⊢ <;> omega
  simp only [interpret, hconvention]
  generalize reply.returned.toInt = returned at hlimit
  constructor
  · intro n
    grind
  · intro r
    grind
  · intro n size
    grind

/-- So is the length beside a status. -/
theorem readsStatus_interpret {e : Engine} (hconvention : e.convention = .statusWithLength)
    (reply : Reply) (room : Nat) :
    ReadsStatus reply.returned.toInt (e.lengthOf reply) room (min room e.lengthLimit)
      (e.interpret reply room) := by
  have hlimit := e.lengthOf_le reply
  simp only [interpret, hconvention]
  generalize reply.returned.toInt = returned
  generalize e.lengthOf reply = length at hlimit
  constructor
  · intro n
    grind
  · intro s
    grind
  · intro n size
    grind

theorem reads_interpret (e : Engine) (reply : Reply) (room : Nat) :
    e.Reads reply room (min room e.lengthLimit) (e.interpret reply room) := by
  rw [Reads]
  cases hconvention : e.convention with
  | returnsLength => exact readsLength_interpret hconvention reply room
  | statusWithLength => exact readsStatus_interpret hconvention reply room

/-- By either convention no more is produced than was offered. -/
theorem Reads.le_capacity {e : Engine} {reply : Reply} {room capacity n : Nat}
    {produced : Except CallFault Nat} (hreads : e.Reads reply room capacity produced)
    (hok : produced = .ok n) : n ≤ capacity := by
  rw [Reads] at hreads
  cases hconvention : e.convention with
  | returnsLength =>
      rw [hconvention] at hreads
      obtain ⟨-, hfits, heq⟩ := (hreads.ok_iff n).mp hok
      omega
  | statusWithLength =>
      rw [hconvention] at hreads
      obtain ⟨-, hfits, heq⟩ := (hreads.ok_iff n).mp hok
      omega

end Engine

namespace EntryPoints

/-- What a call for `request` does with a source and `room` bytes of a destination: `made` are the
calls of the engine's function, with their replies. -/
structure KeepsContract (entry : EntryPoints) (request : Request) (source : Region) (room : Nat)
    (made : List Exchange) (produced : Except CallFault Nat) : Prop where
  refused_iff : ∀ size limit, produced = .error (.argumentTooLarge size limit) ↔
    entry.engine.lengthLimit < source.size ∧ size = source.size ∧ limit = entry.engine.lengthLimit
  uncalled_iff : made = [] ↔ entry.engine.lengthLimit < source.size
  /-- Any other source is passed on whole, in one call that is told how much fits its type. -/
  called : source.size ≤ entry.engine.lengthLimit → ∃ reply,
    made = [⟨⟨entry, request, source, min room entry.engine.lengthLimit⟩, reply⟩] ∧
      entry.engine.Reads reply room (min room entry.engine.lengthLimit) produced
  /-- What is produced is within what the call was told, and that within the destination. -/
  within : ∀ n, produced = .ok n → ∃ e, made = [e] ∧ n ≤ e.call.capacity ∧ e.call.capacity ≤ room

variable {σ : Type}

theorem perform_keepsContract (native : Native σ) (entry : EntryPoints) (request : Request)
    (source destination : Region) (room : Nat) (s : σ) :
    entry.KeepsContract request source room
      (perform native.recorded entry request source destination room (s, [])).2.2
      (perform native entry request source destination room s).1.produced := by
  rw [← (perform_recorded native entry request source destination room s []).1]
  rcases perform_recorded_cases native entry request source destination room (s, []) with
    ⟨hlong, hrun⟩ | ⟨hfits, c, inner, hcall, -, hrun⟩
  · rw [hrun]
    constructor
    · simp only [Except.error.injEq, CallFault.argumentTooLarge.injEq, hlong, true_and, eq_comm,
        implies_true]
    · exact iff_of_true rfl hlong
    · exact fun hfits => absurd hlong (Nat.not_lt.mpr hfits)
    · exact nofun
  · have hreads := entry.engine.reads_interpret c.reply room
    have hshort := Nat.not_lt.mpr hfits
    rw [hrun]
    constructor
    · intro size limit
      refine iff_of_false (fun hrefused => ?_) fun hlong => hshort hlong.1
      simp only [Engine.interpret] at hrefused
      grind
    · exact iff_of_false (List.cons_ne_nil _ _) hshort
    · intro _
      obtain ⟨call, reply⟩ := c
      obtain rfl := hcall
      exact ⟨reply, rfl, hreads⟩
    · intro n hok
      refine ⟨c, rfl, ?_, ?_⟩
      · rw [hcall]
        exact hreads.le_capacity hok
      · rw [hcall]
        exact Nat.min_le_left ..

/-- Every call keeps the contract, in both directions and on any code behind the engine; and the
limit in it is the greatest number of the engine's type of lengths. -/
theorem calls_keep_contract (native : Native σ) (entry : EntryPoints) (level extra : Int)
    (source destination : Region) (room : Nat) (s : σ) :
    entry.KeepsContract (.compress entry.engine level extra) source destination.size
        (entry.compress native.recorded level extra source destination (s, [])).2.2
        (entry.compress native level extra source destination s).1.produced ∧
      entry.KeepsContract (.decompress entry.engine) source room
        (entry.decompress native.recorded source destination room (s, [])).2.2
        (entry.decompress native source destination room s).1.produced ∧
      entry.engine.lengthLimit = entry.engine.greatestLength :=
  ⟨perform_keepsContract .., perform_keepsContract .., entry.engine.lengthLimit_eq⟩

end EntryPoints
end RoundTrip
