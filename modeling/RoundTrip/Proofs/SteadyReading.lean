import RoundTrip.Proofs.Reading
import RoundTrip.Proofs.StepLogic

/-!
# Inputs that never fail

An input is steady if no fault lies ahead of it, except for reads that are
interrupted, which are made again.  What is read from it, and whether it ends
first, depends on the bytes that it can deliver and its position alone: not on how
many reads it takes, and after a rewind not on where anyone left it.
-/

namespace RoundTrip

namespace Input

/-- The next read brings nothing, whatever is wanted of it. -/
def Idle (i : Input) : Prop := i.delivery.limit (i.reads + 1) = some 0

instance (i : Input) : Decidable i.Idle := decEq _ _

/-- From now on no seek fails, and no read except for one that is interrupted.  As far as their
limits go, either all reads bring something or none does. -/
structure Steady (i : Input) : Prop where
  seeks : ∀ fault ∈ i.delivery.seekFaults, fault.1 ≤ i.seeks
  reads : ∀ fault ∈ i.delivery.readFaults, fault.1 ≤ i.reads ∨ fault.2.kind = .interrupted
  even : ∀ n, i.reads < n → (i.delivery.limit n = some 0 ↔ i.Idle)

/-- The bytes that reads from the start can deliver. -/
def deliverable (i : Input) : List UInt8 := if i.Idle then [] else i.contents.toList

/-- The bytes that reads can still deliver. -/
def reachable (i : Input) : List UInt8 := i.deliverable.drop i.position

/-- The second input is the first after so many bytes were read. -/
structure Moved (n : Nat) (i j : Input) : Prop where
  steady : j.Steady
  contents : j.contents = i.contents
  idle : j.Idle ↔ i.Idle
  position : j.position = i.position + n
  seeks : j.seeks = i.seeks
  furthest : j.furthest ≤ max i.furthest (i.position + n)

theorem Moved.trans {n m : Nat} {i j k : Input} (hfirst : Moved n i j) (hsecond : Moved m j k) :
    Moved (n + m) i k where
  steady := hsecond.steady
  contents := hsecond.contents.trans hfirst.contents
  idle := hsecond.idle.trans hfirst.idle
  position := by rw [hsecond.position, hfirst.position, Nat.add_assoc]
  seeks := hsecond.seeks.trans hfirst.seeks
  furthest := by
    have hnear := hfirst.furthest
    have hfar := hsecond.furthest
    rw [hfirst.position] at hfar
    omega

theorem Moved.deliverable {n : Nat} {i j : Input} (hmoved : Moved n i j) :
    j.deliverable = i.deliverable := by
  simp only [Input.deliverable, hmoved.idle, hmoved.contents]

theorem Moved.reachable {n : Nat} {i j : Input} (hmoved : Moved n i j) :
    j.reachable = i.reachable.drop n := by
  rw [Input.reachable, Input.reachable, hmoved.deliverable, hmoved.position, List.drop_drop]

/-! ## Reading -/

/-- Once a read is made the input is as steady as before. -/
theorem Steady.afterRead {i : Input} (hsteady : i.Steady) (position furthest : Nat) :
    let j := { i with position := position, reads := i.reads + 1, furthest := furthest }
    j.Steady ∧ (j.Idle ↔ i.Idle) := by
  intro j
  have hidle : j.Idle ↔ i.Idle := hsteady.even (i.reads + 1 + 1) (by omega)
  refine ⟨⟨hsteady.seeks, ?_, ?_⟩, hidle⟩
  · exact fun fault hmem => (hsteady.reads fault hmem).imp_left Nat.le_succ_of_le
  · exact fun n hn => (hsteady.even n (Nat.lt_of_succ_lt hn)).trans hidle.symm

theorem allowance_eq_zero {i : Input} (hidle : i.Idle) (wanted : Nat) :
    allowance { i with reads := i.reads + 1 } wanted = 0 := by
  have hlimit : i.delivery.limit (i.reads + 1) = some 0 := hidle
  simp only [allowance, hlimit]
  exact Nat.min_zero wanted

/-- A read is interrupted, or brings some of the bytes that can be reached. -/
theorem Steady.read {i : Input} (hsteady : i.Steady) (wanted : Nat) :
    (∃ fault j, read wanted i = .error fault j ∧ fault.kind = .interrupted ∧ Moved 0 i j) ∨
      ∃ bytes j, read wanted i = .ok bytes j ∧ Moved bytes.size i j ∧
        bytes.toList = i.reachable.take bytes.size ∧ bytes.size ≤ wanted ∧
        (bytes.size = 0 → 0 < wanted → i.reachable = []) := by
  cases hfault : faultAt? i.delivery.readFaults (i.reads + 1) with
  | some fault =>
      have hrun : Input.read wanted i = .error fault { i with reads := i.reads + 1 } := by
        simp only [Input.read, hfault]
      obtain ⟨hafter, hidle⟩ := hsteady.afterRead i.position i.furthest
      refine .inl ⟨_, _, hrun, ?_, hafter, rfl, hidle, rfl, rfl, Nat.le_max_left _ _⟩
      rcases hsteady.reads _ (exists_of_faultAt? hfault) with hbehind | hinterrupted
      · omega
      · exact hinterrupted
  | none =>
      obtain ⟨bytes, j, hrun, hsize, hmoved⟩ : ∃ bytes j, Input.read wanted i = .ok bytes j ∧
          bytes.size = min (allowance { i with reads := i.reads + 1 } wanted)
            (i.contents.size - i.position) ∧ Moved bytes.size i j := by
        simp only [Input.read, hfault]
        obtain ⟨hafter, hidle⟩ := hsteady.afterRead _ _
        refine ⟨_, _, rfl, ?_, hafter, rfl, hidle, rfl, rfl, Nat.le_refl _⟩
        simp only [Array.size_extract]
        omega
      obtain ⟨-, -, hbytes, hwanted⟩ := read_ok hrun
      have hahead : i.ahead.length = i.contents.size - i.position := by
        rw [ahead, List.length_drop, Array.length_toList]
      refine .inr ⟨bytes, j, hrun, hmoved, ?_, hwanted, fun hempty hpos => ?_⟩
      · by_cases hidle : i.Idle
        · -- without any allowance nothing was read
          have hnone : bytes.size = 0 := by
            rw [hsize, allowance_eq_zero hidle, Nat.zero_min]
          rw [hbytes, hnone, List.take_zero, List.take_zero]
        · rw [reachable, deliverable, if_neg hidle]
          exact hbytes
      · rw [reachable, deliverable]
        split
        · exact List.drop_nil
        · rename_i hidle
          have hallowed : 0 < allowance { i with reads := i.reads + 1 } wanted :=
            allowance_pos (i := { i with reads := i.reads + 1 }) hidle hpos
          apply List.eq_nil_of_length_eq_zero
          change i.ahead.length = 0
          omega

/-- Filling up brings what is wanted, or all there is before the input ends. -/
theorem Steady.fill {i : Input} (hsteady : i.Steady) (wanted : Nat) (got : Array UInt8) :
    ∃ j, Moved (min wanted i.reachable.length) i j ∧
      fill wanted got i =
        if wanted ≤ i.reachable.length then .ok (got.toList ++ i.reachable.take wanted) j
        else .error .endOfInput j := by
  fun_induction Input.fill wanted got i with
  | case1 got i =>
      refine ⟨i, ⟨hsteady, rfl, Iff.rfl, ?_, rfl, Nat.le_max_left _ _⟩, ?_⟩
      · rw [Nat.zero_min, Nat.add_zero]
      · rw [if_pos (Nat.zero_le _), List.take_zero, List.append_nil]
  | case2 wanted got i hwanted fault j' hread _ _ ih =>
      rcases hsteady.read wanted with ⟨fault', j'', hread', -, hmoved⟩ | ⟨bytes, j'', hread', -⟩
      · rw [hread] at hread'
        cases hread'
        obtain ⟨j, hrest, hfill⟩ := ih hmoved.steady
        rw [hmoved.reachable, List.drop_zero] at hrest hfill
        refine ⟨j, ?_, hfill⟩
        have hall := hmoved.trans hrest
        rwa [Nat.zero_add] at hall
      · rw [hread] at hread'
        contradiction
  | case3 wanted got i hwanted fault j' hread _ hother =>
      rcases hsteady.read wanted with ⟨fault', j'', hread', hkind, -⟩ | ⟨bytes, j'', hread', -⟩
      · rw [hread] at hread'
        cases hread'
        contradiction
      · rw [hread] at hread'
        contradiction
  | case4 wanted got i hwanted bytes j' hread _ hempty =>
      rcases hsteady.read wanted with ⟨fault', j'', hread', -⟩ |
        ⟨some, j'', hread', hmoved, -, -, hend⟩
      · rw [hread] at hread'
        contradiction
      · rw [hread] at hread'
        cases hread'
        have hnothing := hend hempty (Nat.pos_of_ne_zero hwanted)
        rw [hempty] at hmoved
        rw [hnothing, List.length_nil, Nat.min_zero]
        exact ⟨j', hmoved, (if_neg (by omega)).symm⟩
  | case5 wanted got i hwanted bytes j' hread _ hsome ih =>
      rcases hsteady.read wanted with ⟨fault', j'', hread', -⟩ |
        ⟨some, j'', hread', hmoved, hbytes, hle, -⟩
      · rw [hread] at hread'
        contradiction
      · rw [hread] at hread'
        cases hread'
        obtain ⟨j, hrest, hfill⟩ := ih hmoved.steady
        have hreached : bytes.size ≤ i.reachable.length := by
          have hsize := congrArg List.length hbytes
          rw [Array.length_toList, List.length_take] at hsize
          omega
        rw [hmoved.reachable, List.length_drop] at hrest hfill
        refine ⟨j, ?_, ?_⟩
        · have hall := hmoved.trans hrest
          rwa [show bytes.size + min (wanted - bytes.size) (i.reachable.length - bytes.size) =
            min wanted i.reachable.length by omega] at hall
        · rw [hfill, Array.toList_append, List.append_assoc]
          by_cases henough : wanted ≤ i.reachable.length
          · rw [if_pos (by omega), if_pos henough, hbytes, ← List.take_add,
              Nat.add_sub_cancel' hle]
          · rw [if_neg (by omega), if_neg henough]

/-! ## Two inputs that deliver the same bytes -/

/-- A steady input that delivers these bytes from its start. -/
structure Holds (bytes : List UInt8) (i : Input) : Prop where
  steady : i.Steady
  bytes : i.deliverable = bytes

/-- Both inputs hold these bytes and stand at the same position. -/
structure Abreast (bytes : List UInt8) (i j : Input) : Prop where
  first : i.Holds bytes
  second : j.Holds bytes
  position : i.position = j.position

section Abreast

variable {bytes : List UInt8} {i j : Input}

theorem Holds.moved {n : Nat} (hholds : i.Holds bytes) (hmoved : Moved n i j) : j.Holds bytes where
  steady := hmoved.steady
  bytes := hmoved.deliverable.trans hholds.bytes

theorem Abreast.reachable (habreast : Abreast bytes i j) : i.reachable = j.reachable := by
  obtain ⟨hfirst, hsecond, hposition⟩ := habreast
  rw [Input.reachable, Input.reachable, hfirst.bytes, hsecond.bytes, hposition]

/-- They deliver the same bytes, or end both. -/
theorem Abreast.readExact (habreast : Abreast bytes i j) (wanted : Nat) :
    Related (Alike (Abreast bytes)) (Abreast bytes) (readExact wanted i) (readExact wanted j) := by
  obtain ⟨i', hmoved, hleft⟩ := habreast.first.steady.fill wanted #[]
  obtain ⟨j', hmoved', hright⟩ := habreast.second.steady.fill wanted #[]
  rw [← habreast.reachable] at hmoved' hright
  have hafter : Abreast bytes i' j' := by
    constructor
    · exact habreast.first.moved hmoved
    · exact habreast.second.moved hmoved'
    · rw [hmoved.position, hmoved'.position, habreast.position]
  change Related _ _ (Input.fill wanted #[] i) (Input.fill wanted #[] j)
  rw [hleft, hright]
  split
  · exact .ok ⟨rfl, hafter⟩
  · exact .error _ hafter

theorem Steady.rewind (hsteady : i.Steady) :
    i.rewind = .ok () { i with seeks := i.seeks + 1, position := 0 } := by
  cases hfault : faultAt? i.delivery.seekFaults (i.seeks + 1) with
  | some fault =>
      have hbehind := hsteady.seeks _ (exists_of_faultAt? hfault)
      omega
  | none => simp only [Input.rewind, hfault]

theorem Steady.rewound (hsteady : i.Steady) :
    Steady { i with seeks := i.seeks + 1, position := 0 } where
  seeks fault hmem := Nat.le_succ_of_le (hsteady.seeks fault hmem)
  reads := hsteady.reads
  even := hsteady.even

/-- A rewind brings them to the same position, wherever they stand. -/
theorem Holds.rewind (hfirst : i.Holds bytes) (hsecond : j.Holds bytes) :
    Related (Alike (Abreast bytes)) (Abreast bytes) i.rewind j.rewind := by
  rw [hfirst.steady.rewind, hsecond.steady.rewind]
  exact .ok ⟨rfl, ⟨hfirst.steady.rewound, hfirst.bytes⟩, ⟨hsecond.steady.rewound, hsecond.bytes⟩,
    rfl⟩

end Abreast
end Input
end RoundTrip
