import RoundTrip.IoFault

/-! # Inputs

A seekable input delivers its contents from a position on, no more in one read than that read is
allowed. Chosen reads and seeks can fail. `readExact` reads until everything wanted is there: a read
that was interrupted is made again, and a read that delivers nothing is the end of the input.
-/
namespace RoundTrip

/-- How the reads and the seeks of an input go, each counted from one. -/
structure Delivery where
  /-- The most that a read delivers. -/
  limit : Nat → Option Nat
  /-- Which reads fail, and how. -/
  readFaults : List (Nat × IoFault)
  /-- Which seeks fail, and how. -/
  seekFaults : List (Nat × IoFault)

/-- No read is limited, and nothing fails. -/
def Delivery.plain : Delivery := ⟨fun _ => none, [], []⟩

structure Input where
  contents : Array UInt8
  position : Nat
  delivery : Delivery
  reads : Nat
  seeks : Nat
  /-- The furthest position that a read has reached. -/
  furthest : Nat

namespace Input

/-- An input at its start whose reads and seeks go as given. -/
def ofDelivery (delivery : Delivery) (contents : List UInt8) : Input :=
  ⟨contents.toArray, 0, delivery, 0, 0, 0⟩

/-- An input at its start that never fails. -/
def ofList (contents : List UInt8) : Input := ofDelivery .plain contents

/-- The fault of call number `n`. -/
def faultAt? (faults : List (Nat × IoFault)) (n : Nat) : Option IoFault :=
  (faults.find? fun fault => fault.1 == n).map Prod.snd

/-- Moves to the start. -/
def rewind : EStateM IoFault Input Unit := fun i =>
  let i := { i with seeks := i.seeks + 1 }
  match faultAt? i.delivery.seekFaults i.seeks with
  | some fault => .error fault i
  | none => .ok () { i with position := 0 }

/-- The most that the read made last delivers where it wants so many bytes. -/
def allowance (i : Input) (wanted : Nat) : Nat :=
  match i.delivery.limit i.reads with
  | none => wanted
  | some limit => min wanted limit

/-- One read of at most `wanted` bytes. -/
def read (wanted : Nat) : EStateM IoFault Input (Array UInt8) := fun i =>
  let i := { i with reads := i.reads + 1 }
  match faultAt? i.delivery.readFaults i.reads with
  | some fault => .error fault i
  | none =>
      let bytes := i.contents.extract i.position (i.position + i.allowance wanted)
      let position := i.position + bytes.size
      .ok bytes { i with position := position, furthest := max i.furthest position }

/-- How many of the chosen faults lie ahead. -/
def faultsAhead (i : Input) : Nat :=
  i.delivery.readFaults.countP fun fault => i.reads < fault.1

theorem countP_lt_of_mem {α : Type} {p q : α → Bool} {xs : List α} {x : α}
    (imp : ∀ a, q a = true → p a = true) (mem : x ∈ xs) (hp : p x = true) (hq : q x = false) :
    xs.countP q < xs.countP p := by
  induction xs with
  | nil => contradiction
  | cons a rest ih =>
      have le : rest.countP q ≤ rest.countP p := List.countP_mono_left fun b _ => imp b
      rcases List.mem_cons.mp mem with rfl | inRest
      · rw [List.countP_cons_of_pos hp, List.countP_cons_of_neg (ne_true_of_eq_false hq)]
        exact Nat.lt_succ_of_le le
      · have shorter := ih inRest
        by_cases hqa : q a = true
        · rw [List.countP_cons_of_pos hqa, List.countP_cons_of_pos (imp a hqa)]
          exact Nat.succ_lt_succ shorter
        · rw [List.countP_cons_of_neg hqa]
          exact Nat.lt_of_lt_of_le shorter (List.Sublist.countP_le (List.sublist_cons_self a rest))

/-- A read that fails has used up one of the faults ahead. -/
theorem faultsAhead_lt {wanted : Nat} {i j : Input} {fault : IoFault}
    (h : read wanted i = .error fault j) : j.faultsAhead < i.faultsAhead := by
  simp only [read, faultAt?] at h
  cases found : i.delivery.readFaults.find? fun f => f.1 == i.reads + 1 with
  | none => simp [found] at h
  | some f =>
      simp only [found, Option.map_some, EStateM.Result.error.injEq] at h
      obtain ⟨-, rfl⟩ := h
      have here : f.1 = i.reads + 1 := by simpa using List.find?_some found
      exact countP_lt_of_mem (fun a => by simp; omega) (List.mem_of_find?_eq_some found)
        (by simp; omega) (by simp; omega)

/-- A read that delivers leaves the faults ahead where they are, or behind. -/
theorem faultsAhead_le {wanted : Nat} {i j : Input} {bytes : Array UInt8}
    (h : read wanted i = .ok bytes j) : j.faultsAhead ≤ i.faultsAhead := by
  simp only [read] at h
  split at h
  · contradiction
  · cases h
    refine List.countP_mono_left fun fault _ => ?_
    simp only [decide_eq_true_eq]
    exact Nat.lt_of_succ_lt

/-- Reads on until `wanted` more bytes are there. -/
def fill (wanted : Nat) (got : Array UInt8) (i : Input) :
    EStateM.Result IoFault Input (List UInt8) :=
  if wanted = 0 then .ok got.toList i
  else
    match h : read wanted i with
    | .error fault j =>
        have := faultsAhead_lt h
        if fault.kind = .interrupted then fill wanted got j else .error fault j
    | .ok bytes j =>
        have := faultsAhead_le h
        if bytes.size = 0 then .error .endOfInput j
        else fill (wanted - bytes.size) (got ++ bytes) j
termination_by wanted + i.faultsAhead
decreasing_by
  · exact Nat.add_lt_add_left this wanted
  · omega

/-- Reads exactly so many bytes; no read is made for none. -/
def readExact (wanted : Nat) : EStateM IoFault Input (List UInt8) := fill wanted #[]

end Input
end RoundTrip
