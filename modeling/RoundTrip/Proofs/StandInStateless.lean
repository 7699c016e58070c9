import RoundTrip.Native.StandIn
import RoundTrip.Proofs.StatelessCells

/-!
# Stand-in engines have no memory

A reply of a stand-in engine is made from the bytes of the source and nothing
else of it.  The number that it reports is cut to the engine's own type of
lengths, which makes it no greater, so all bytes that it reports are written.
-/

namespace RoundTrip

namespace Algorithm

/-! ## What an algorithm sees of its source -/

theorem expand_zeros (room : Nat) (done : List UInt8) (pairs : Nat) :
    expand room done (List.replicate (2 * pairs) 0) = ⟨done.reverse, true⟩ := by
  induction pairs with
  | zero => rw [Nat.mul_zero, List.replicate_zero, expand]; exact nofun
  | succ pairs ih =>
      rw [Nat.mul_succ, List.replicate_succ, List.replicate_succ, expand]
      exact ih

/-- Runs of no bytes at the end add nothing. -/
theorem expand_append_zeros (room : Nat) (done bytes : List UInt8) (pairs : Nat)
    (heven : bytes.length % 2 = 0) :
    expand room done (bytes ++ List.replicate (2 * pairs) 0) = expand room done bytes := by
  fun_induction expand room done bytes with
  | case1 room done count byte rest hroom =>
      rw [List.cons_append, List.cons_append, expand, if_pos hroom]
  | case2 room done count byte rest hroom ih =>
      rw [List.cons_append, List.cons_append, expand, if_neg hroom]
      refine ih ?_
      rw [List.length_cons, List.length_cons] at heven
      omega
  | case3 bytes room done hshort =>
      match bytes with
      | [] => exact expand_zeros room done pairs
      | [byte] => contradiction
      | count :: byte :: rest => exact (hshort count byte rest rfl).elim

/-- The zeros that are not looked at would make no difference. -/
theorem runsDecompress_eq (source : Region) (capacity : Nat) :
    runsDecompress source capacity =
      if source.size % 2 = 1 then .failed else expand capacity [] source.toList := by
  rw [runsDecompress]
  split
  · rfl
  · have hfront := source.front_le
    obtain ⟨looked, hlooked⟩ :
        ∃ looked, looked = source.front.length + source.front.length % 2 := ⟨_, rfl⟩
    obtain ⟨pairs, hpairs⟩ : ∃ pairs, source.size - looked = 2 * pairs :=
      ⟨(source.size - looked) / 2, by omega⟩
    have hzeros : source.toList = source.toList.take looked ++ List.replicate (2 * pairs) 0 := by
      rw [← hpairs]
      conv_lhs => rw [← List.take_append_drop looked source.toList]
      rw [Region.toList, join_eq_append, List.drop_append, List.drop_eq_nil_of_le (by omega),
        List.nil_append, List.drop_replicate]
      congr 2
      omega
    have hlength : (source.toList.take looked).length % 2 = 0 := by
      rw [List.length_take, source.length_toList]
      omega
    conv_rhs => rw [hzeros]
    rw [expand_append_zeros capacity [] _ pairs hlength, Region.toList_take, hlooked]

/-- An algorithm is given its source as bytes. -/
theorem run_eq_of_toList (a : Algorithm) (direction : Direction) {source source' : Region}
    (hsource : source.toList = source'.toList) (capacity : Nat) :
    a.run direction source capacity = a.run direction source' capacity := by
  have hsize : source.size = source'.size := Region.size_eq_of_toList hsource
  cases a with
  | copy =>
      cases direction <;>
        simp only [run, copyCompress, copyDecompress, Region.toList_take, hsource, hsize]
  | runs =>
      cases direction <;>
        simp only [run, runsCompress, runsDecompress_eq, Region.toList_take, hsource, hsize]
  | raw => simp only [run, unchanged, hsource, hsize]
  | idle => rfl

end Algorithm

/-! ## What a reply reports -/

/-- The length that a successful reply reports. -/
theorem Engine.eq_of_interpret_ok {e : Engine} {r : Reply} {room n : Nat}
    (hok : e.interpret r room = .ok n) :
    n = match e.convention with
      | .returnsLength => r.returned.toInt.toNat
      | .statusWithLength => e.lengthOf r := by
  simp only [interpret] at hok
  grind

/-- A returned word that no convention takes for success. -/
def Engine.Fails (e : Engine) (returned : Int) : Prop :=
  returned < 0 ∨ e.convention = .returnsLength ∧ returned = 0

theorem Engine.interpret_of_fails {e : Engine} {r : Reply} (hfails : e.Fails r.returned.toInt)
    (room n : Nat) : e.interpret r room ≠ .ok n := by
  intro hok
  rw [interpret] at hok
  rcases hfails with hnegative | ⟨hconvention, hzero⟩
  · cases hconvention : e.convention with
    | returnsLength =>
        simp only [hconvention, if_pos (Int.le_of_lt hnegative)] at hok
        contradiction
    | statusWithLength =>
        simp only [hconvention, ne_eq, if_pos (Int.ne_of_lt hnegative)] at hok
        contradiction
  · simp only [hconvention, if_pos (Int.le_of_eq hzero)] at hok
    contradiction

theorem Algorithm.fails_failureCode (e : Engine) (direction : Direction) :
    e.Fails (Int32.ofInt (failureCode e direction)).toInt := by
  cases e <;> cases direction <;> unfold Engine.Fails <;> decide

namespace StandIn

/-- A number that is wrapped around is no greater than before. -/
theorem toNat_returned_le (n : Nat) : (Int32.ofInt n).toInt.toNat ≤ n := by
  have hn : (0 : Int) ≤ n := Int.natCast_nonneg n
  rw [Int32.toInt_ofInt, Int.bmod, Int32.size]
  split <;> omega

theorem toNat_length_le (n : Nat) : (UInt64.ofInt n).toNat ≤ n := by
  rw [UInt64.ofInt, UInt64.toNat_ofNat']
  omega

variable {call : NativeCall} {product : Product}

theorem reply_of_refused (hrefused : ¬ acceptable call.request = true) :
    (reply call).returned = Int32.ofInt badArgument := by
  rw [reply, if_neg hrefused, Behaviour.reply]
  cases call.entry.engine.convention with
  | returnsLength => rfl
  | statusWithLength => rfl

/-- The reply to arguments that are accepted is made from the product of the algorithm. -/
theorem reply_of_accepted (haccepted : acceptable call.request = true)
    (hproduct : (Algorithm.ofEngine call.entry.engine).run call.request.direction call.source
      call.capacity = product) :
    (reply call).writes = [(0, product.written)] ∧
      if product.complete then
        match call.entry.engine.convention with
        | .returnsLength => (reply call).returned = Int32.ofInt product.written.length
        | .statusWithLength => (reply call).length = UInt64.ofInt product.written.length
      else (reply call).returned =
        Int32.ofInt (Algorithm.failureCode call.entry.engine call.request.direction) := by
  simp only [reply, if_pos haccepted, Behaviour.reply, Behaviour.plain, Option.getD_none, hproduct,
    Behaviour.flip, List.foldl_nil, Int.add_zero, ite_self]
  cases call.entry.engine.convention <;> cases product.complete <;> exact ⟨rfl, rfl⟩

/-- All that a reply reports is there. -/
theorem reported_le {n : Nat}
    (hok : call.entry.engine.interpret (reply call) call.capacity = .ok n) :
    ∃ written, (reply call).writes = [(0, written)] ∧ n ≤ written.length := by
  by_cases haccepted : acceptable call.request = true
  · obtain ⟨hwrites, hreported⟩ := reply_of_accepted haccepted rfl
    refine ⟨_, hwrites, ?_⟩
    split at hreported
    · rw [Engine.eq_of_interpret_ok hok]
      cases hconvention : call.entry.engine.convention with
      | returnsLength =>
          simp only [hconvention] at hreported
          rw [hreported]
          exact toNat_returned_le _
      | statusWithLength =>
          simp only [hconvention] at hreported
          simp only [Engine.lengthOf, hreported]
          exact Nat.le_trans (Nat.mod_le _ _) (toNat_length_le _)
    · refine absurd hok (Engine.interpret_of_fails ?_ _ n)
      rw [hreported]
      exact Algorithm.fails_failureCode _ _
  · refine absurd hok (Engine.interpret_of_fails ?_ _ n)
    rw [reply_of_refused haccepted]
    exact .inl (by decide)

theorem reply_eq_of_seen {call call' : NativeCall} (hseen : call.seen = call'.seen) :
    reply call = reply call' := by
  obtain ⟨entry, request, source, capacity⟩ := call
  obtain ⟨entry', request', source', capacity'⟩ := call'
  obtain ⟨rfl, rfl, hsource, rfl⟩ := SeenCall.mk.inj hseen
  have hsize : source.size = source'.size := Region.size_eq_of_toList hsource
  simp only [reply, Behaviour.reply, hsize, Algorithm.run_eq_of_toList _ _ hsource]

/-- The stand-ins have no memory. -/
theorem stateless {σ : Type} (entry : EntryPoints) :
    (native : Native σ).Stateless (fun _ => True) entry where
  keeps _ _ _ _ := trivial
  report call call' s s' hentry hseen _ _ := by
    have hreply : reply call = reply call' := reply_eq_of_seen hseen
    simp only [native, ← hreply, ← hentry]
    refine ⟨⟨rfl, ?_, fun _ _ _ => rfl⟩, rfl⟩
    intro n hok i hi
    obtain ⟨written, hwrites, hle⟩ := reported_le hok
    have hcapacity := Engine.interpret_le hok
    rw [Reply.Wrote, hwrites]
    refine ⟨(0, written), List.mem_singleton_self _, Nat.zero_le i, ?_⟩
    simp only [upTo_eq_take, List.length_take, Nat.sub_zero, Nat.zero_add]
    omega

end StandIn
end RoundTrip
