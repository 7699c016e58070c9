import RoundTrip.Input

/-!
# What reading does to an input

Neither a rewind nor a read changes the contents.  A rewind that succeeds puts
the position at the start.  A read of `wanted` bytes that succeeds delivers
exactly the bytes from the position on and moves the position behind them; an
input with fewer bytes left makes it fail.  An input that delivers so many bytes
can be rewound and read up to there as often as is wanted.
-/

namespace RoundTrip

namespace Input

/-- The bytes from the position on. -/
def ahead (i : Input) : List UInt8 := i.contents.toList.drop i.position

theorem rewind_ok {i j : Input} (hrun : i.rewind = .ok () j) :
    j.contents = i.contents ∧ j.position = 0 := by
  simp only [rewind] at hrun
  split at hrun
  · contradiction
  · cases hrun
    exact ⟨rfl, rfl⟩

theorem rewind_error {i j : Input} {fault : IoFault} (hrun : i.rewind = .error fault j) :
    j.contents = i.contents := by
  simp only [rewind] at hrun
  split at hrun
  · cases hrun
    rfl
  · contradiction

theorem read_error {wanted : Nat} {i j : Input} {fault : IoFault}
    (hrun : read wanted i = .error fault j) :
    j.contents = i.contents ∧ j.position = i.position := by
  simp only [read] at hrun
  split at hrun
  · cases hrun
    exact ⟨rfl, rfl⟩
  · contradiction

theorem allowance_le (i : Input) (wanted : Nat) : i.allowance wanted ≤ wanted := by
  unfold allowance
  split
  · exact Nat.le_refl _
  · exact Nat.min_le_left _ _

/-- One read delivers the first bytes ahead, no more than wanted. -/
theorem read_ok {wanted : Nat} {i j : Input} {bytes : Array UInt8}
    (hrun : read wanted i = .ok bytes j) :
    j.contents = i.contents ∧ j.position = i.position + bytes.size ∧
      bytes.toList = i.ahead.take bytes.size ∧ bytes.size ≤ wanted := by
  simp only [read] at hrun
  split at hrun
  · contradiction
  · cases hrun
    have hallowed := allowance_le { i with reads := i.reads + 1 } wanted
    refine ⟨rfl, rfl, ?_, ?_⟩
    · simp only [ahead, Array.toList_extract, List.extract_eq_take_drop,
        Nat.add_sub_cancel_left, Array.size_extract]
      rw [List.take_eq_take_iff]
      simp only [List.length_drop, Array.length_toList]
      omega
    · simp only [Array.size_extract]
      omega

/-- Filling up goes on where the bytes already there end. -/
theorem fill_ok {wanted : Nat} {got : Array UInt8} {i j : Input} {bytes : List UInt8}
    (hrun : fill wanted got i = .ok bytes j) :
    j.contents = i.contents ∧ j.position = i.position + wanted ∧
      bytes = got.toList ++ i.ahead.take wanted ∧ wanted ≤ i.ahead.length := by
  fun_induction fill wanted got i with
  | case1 got i =>
      cases hrun
      simp
  | case2 wanted got i _ fault j' hread _ _ ih =>
      obtain ⟨hcontents, hposition⟩ := read_error hread
      obtain ⟨hafter, hmoved, hbytes, hlength⟩ := ih hrun
      simp only [ahead, hcontents, hposition] at hafter hmoved hbytes hlength ⊢
      exact ⟨hafter, hmoved, hbytes, hlength⟩
  | case3 => contradiction
  | case4 => contradiction
  | case5 wanted got i _ some j' hread _ _ ih =>
      obtain ⟨hcontents, hposition, hsome, hle⟩ := read_ok hread
      obtain ⟨hafter, hmoved, hbytes, hlength⟩ := ih hrun
      have hahead : j'.ahead = i.ahead.drop some.size := by
        rw [ahead, ahead, hcontents, hposition, List.drop_drop]
      have hgot : some.size ≤ i.ahead.length := by
        have hsize := congrArg List.length hsome
        rw [Array.length_toList, List.length_take] at hsize
        omega
      rw [hahead] at hbytes hlength
      rw [List.length_drop] at hlength
      refine ⟨hafter.trans hcontents, by omega, ?_, by omega⟩
      rw [hbytes, Array.toList_append, List.append_assoc, hsome, ← List.take_add,
        Nat.add_sub_cancel' hle]

theorem fill_error {wanted : Nat} {got : Array UInt8} {i j : Input} {fault : IoFault}
    (hrun : fill wanted got i = .error fault j) : j.contents = i.contents := by
  fun_induction fill wanted got i with
  | case1 => contradiction
  | case2 wanted got i _ fault' j' hread _ _ ih => exact (ih hrun).trans (read_error hread).1
  | case3 wanted got i _ fault' j' hread _ _ =>
      cases hrun
      exact (read_error hread).1
  | case4 wanted got i _ some j' hread _ _ =>
      cases hrun
      exact (read_ok hread).1
  | case5 wanted got i _ some j' hread _ _ ih => exact (ih hrun).trans (read_ok hread).1

/-- What was read are the bytes ahead, and there were enough of them. -/
theorem readExact_ok {wanted : Nat} {i j : Input} {bytes : List UInt8}
    (hrun : readExact wanted i = .ok bytes j) :
    j.contents = i.contents ∧ j.position = i.position + wanted ∧
      bytes = i.ahead.take wanted ∧ bytes.length = wanted := by
  obtain ⟨hcontents, hposition, hbytes, hlength⟩ := fill_ok hrun
  rw [List.nil_append] at hbytes
  refine ⟨hcontents, hposition, hbytes, ?_⟩
  rw [hbytes, List.length_take, Nat.min_eq_left hlength]

theorem readExact_error {wanted : Nat} {i j : Input} {fault : IoFault}
    (hrun : readExact wanted i = .error fault j) : j.contents = i.contents :=
  fill_error hrun

/-! ## Inputs that do not fail -/

/-- The input has so many bytes, and from now on no seek fails and no read except for one that is
interrupted, which is made again. -/
structure Delivers (n : Nat) (i : Input) : Prop where
  enough : n ≤ i.contents.size
  seeks : ∀ fault ∈ i.delivery.seekFaults, fault.1 ≤ i.seeks
  reads : ∀ fault ∈ i.delivery.readFaults, fault.1 ≤ i.reads ∨ fault.2.kind = .interrupted
  progress : ∀ k, i.reads < k → i.delivery.limit k ≠ some 0

theorem exists_of_faultAt? {faults : List (Nat × IoFault)} {n : Nat} {fault : IoFault}
    (hfault : faultAt? faults n = some fault) : (n, fault) ∈ faults := by
  obtain ⟨entry, hfind, rfl⟩ := Option.map_eq_some_iff.mp hfault
  obtain rfl : entry.1 = n := by simpa using List.find?_some hfind
  exact List.mem_of_find?_eq_some hfind

theorem allowance_pos {i : Input} (hlimit : i.delivery.limit i.reads ≠ some 0) {wanted : Nat}
    (hwanted : 0 < wanted) : 0 < i.allowance wanted := by
  rw [allowance]
  cases hsome : i.delivery.limit i.reads with
  | none => exact hwanted
  | some limit =>
      have hne : limit ≠ 0 := fun hzero => hlimit (hsome.trans (congrArg some hzero))
      exact Nat.lt_min.mpr ⟨hwanted, Nat.pos_of_ne_zero hne⟩

theorem Delivers.rewind {n : Nat} {i : Input} (hdelivers : i.Delivers n) :
    ∃ j, i.rewind = .ok () j ∧ j.Delivers n := by
  obtain ⟨henough, hseeks, hreads, hprogress⟩ := hdelivers
  cases hfault : faultAt? i.delivery.seekFaults (i.seeks + 1) with
  | some fault =>
      have hbehind := hseeks _ (exists_of_faultAt? hfault)
      omega
  | none =>
      refine ⟨{ i with seeks := i.seeks + 1, position := 0 }, ?_, henough, ?_, hreads, hprogress⟩
      · simp only [Input.rewind, hfault]
      · exact fun fault hmem => Nat.le_succ_of_le (hseeks fault hmem)

/-- A read either is interrupted or brings something, where there is something to bring. -/
theorem Delivers.read {n wanted : Nat} {i : Input} (hdelivers : i.Delivers n)
    (hwanted : 0 < wanted) (hahead : i.position < i.contents.size) :
    (∃ fault j, read wanted i = .error fault j ∧ fault.kind = .interrupted ∧ j.Delivers n) ∨
      ∃ bytes j, read wanted i = .ok bytes j ∧ 0 < bytes.size ∧ j.Delivers n := by
  obtain ⟨henough, hseeks, hreads, hprogress⟩ := hdelivers
  have hreads' : ∀ fault ∈ i.delivery.readFaults,
      fault.1 ≤ i.reads + 1 ∨ fault.2.kind = .interrupted :=
    fun fault hmem => (hreads fault hmem).imp_left Nat.le_succ_of_le
  have hprogress' : ∀ k, i.reads + 1 < k → i.delivery.limit k ≠ some 0 :=
    fun k hk => hprogress k (Nat.lt_of_succ_lt hk)
  cases hfault : faultAt? i.delivery.readFaults (i.reads + 1) with
  | some fault =>
      have hrun : Input.read wanted i = .error fault { i with reads := i.reads + 1 } := by
        simp only [Input.read, hfault]
      refine .inl ⟨_, _, hrun, ?_, henough, hseeks, hreads', hprogress'⟩
      rcases hreads _ (exists_of_faultAt? hfault) with hbehind | hinterrupted
      · omega
      · exact hinterrupted
  | none =>
      obtain ⟨bytes, j, hrun, hsize, hdelivers⟩ : ∃ bytes j, Input.read wanted i = .ok bytes j ∧
          bytes.size = min (allowance { i with reads := i.reads + 1 } wanted)
            (i.contents.size - i.position) ∧ j.Delivers n := by
        simp only [Input.read, hfault]
        refine ⟨_, _, rfl, ?_, henough, hseeks, hreads', hprogress'⟩
        simp only [Array.size_extract]
        omega
      refine .inr ⟨bytes, j, hrun, ?_, hdelivers⟩
      have hallowed : 0 < allowance { i with reads := i.reads + 1 } wanted :=
        allowance_pos (i := { i with reads := i.reads + 1 })
          (hprogress (i.reads + 1) (Nat.lt_succ_self _)) hwanted
      omega

theorem Delivers.fill {n wanted : Nat} {got : Array UInt8} {i : Input} (hdelivers : i.Delivers n)
    (hahead : i.position + wanted ≤ i.contents.size) :
    ∃ bytes j, fill wanted got i = .ok bytes j ∧ j.Delivers n := by
  fun_induction Input.fill wanted got i with
  | case1 got i => exact ⟨_, _, rfl, hdelivers⟩
  | case2 wanted got i hwanted fault j hread _ _ ih =>
      obtain ⟨hcontents, hposition⟩ := read_error hread
      rcases hdelivers.read (Nat.pos_of_ne_zero hwanted) (by omega) with
        ⟨fault', j', hread', -, hafter⟩ | ⟨bytes, j', hread', -⟩
      · rw [hread] at hread'
        cases hread'
        exact ih hafter (by rw [hcontents, hposition]; exact hahead)
      · rw [hread] at hread'
        contradiction
  | case3 wanted got i hwanted fault j hread _ hother =>
      rcases hdelivers.read (Nat.pos_of_ne_zero hwanted) (by omega) with
        ⟨fault', j', hread', hinterrupted, -⟩ | ⟨bytes, j', hread', -⟩
      · rw [hread] at hread'
        cases hread'
        exact absurd hinterrupted hother
      · rw [hread] at hread'
        contradiction
  | case4 wanted got i hwanted bytes j hread _ hempty =>
      rcases hdelivers.read (Nat.pos_of_ne_zero hwanted) (by omega) with
        ⟨fault, j', hread', -⟩ | ⟨some, j', hread', hsome, -⟩
      · rw [hread] at hread'
        contradiction
      · rw [hread] at hread'
        cases hread'
        omega
  | case5 wanted got i hwanted bytes j hread _ hsome ih =>
      obtain ⟨hcontents, hposition, -, hle⟩ := read_ok hread
      rcases hdelivers.read (Nat.pos_of_ne_zero hwanted) (by omega) with
        ⟨fault, j', hread', -⟩ | ⟨some, j', hread', -, hafter⟩
      · rw [hread] at hread'
        contradiction
      · rw [hread] at hread'
        cases hread'
        exact ih hafter (by rw [hcontents, hposition]; omega)

/-- Whatever is wanted of the first bytes is read. -/
theorem Delivers.readExact {n wanted : Nat} {i : Input} (hdelivers : i.Delivers n)
    (hahead : i.position + wanted ≤ n) :
    ∃ bytes j, readExact wanted i = .ok bytes j ∧ j.Delivers n :=
  hdelivers.fill (Nat.le_trans hahead hdelivers.enough)

end Input
end RoundTrip
