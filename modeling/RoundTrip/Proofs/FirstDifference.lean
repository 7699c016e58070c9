import Mathlib.Order.Bounds.Basic
import RoundTrip.Bytes.Mismatch
import RoundTrip.Proofs.DigestPlaces

/-!
# The first difference

Two byte strings that are not equal have a longest common beginning.  Behind it
they part: with a byte each, or because one of them ends there.  A mismatch tells
that place, and what is told of the two sides changes places when they do.
-/

namespace RoundTrip

namespace Mismatch

/-! ## The longest common beginning -/

theorem agreeing_eq (offset : Nat) (first second : List UInt8) :
    agreeing offset first second = offset + agreeing 0 first second := by
  induction first generalizing offset second with
  | nil => rfl
  | cons a first ih =>
      cases second with
      | nil => rfl
      | cons b second =>
          rw [agreeing, agreeing]
          split
          · rw [ih (offset + 1), ih (0 + 1)]
            omega
          · rfl

theorem agreeing_cons (a b : UInt8) (first second : List UInt8) :
    agreeing 0 (a :: first) (b :: second) = if a = b then agreeing 0 first second + 1 else 0 := by
  rw [agreeing, agreeing_eq (0 + 1), Nat.zero_add, Nat.add_comm]

theorem agreeing_comm (first second : List UInt8) :
    agreeing 0 first second = agreeing 0 second first := by
  induction first generalizing second with
  | nil => cases second <;> rfl
  | cons a first ih =>
      cases second with
      | nil => rfl
      | cons b second =>
          rw [agreeing_cons, agreeing_cons, ih second]
          simp only [eq_comm]

/-- Whatever both strings begin with is no longer. -/
theorem length_le_agreeing {front first second : List UInt8} (hfirst : front <+: first)
    (hsecond : front <+: second) : front.length ≤ agreeing 0 first second := by
  induction front generalizing first second with
  | nil => exact Nat.zero_le _
  | cons a front ih =>
      obtain ⟨first, rfl⟩ := hfirst
      obtain ⟨second, rfl⟩ := hsecond
      rw [List.cons_append, List.cons_append, agreeing_cons, if_pos rfl]
      exact Nat.succ_le_succ (ih (List.prefix_append ..) (List.prefix_append ..))

theorem take_agreeing (first second : List UInt8) :
    first.take (agreeing 0 first second) = second.take (agreeing 0 first second) := by
  induction first generalizing second with
  | nil => rfl
  | cons a first ih =>
      cases second with
      | nil => rfl
      | cons b second =>
          rw [agreeing_cons]
          split
          · rename_i hsame
            rw [List.take_succ_cons, List.take_succ_cons, hsame, ih second]
          · rfl

theorem agreeing_le (first second : List UInt8) : agreeing 0 first second ≤ first.length := by
  induction first generalizing second with
  | nil => exact Nat.le_refl 0
  | cons a first ih =>
      cases second with
      | nil => exact Nat.zero_le _
      | cons b second =>
          rw [agreeing_cons]
          split
          · exact Nat.succ_le_succ (ih second)
          · exact Nat.zero_le _

/-- The ways in which two strings part behind what they have in common. -/
inductive Part (offset : Nat) (first second : List UInt8) : Prop where
  /-- Both go on, with different bytes. -/
  | bytes {a b : UInt8} (hfirst : first[offset]? = some a) (hsecond : second[offset]? = some b)
      (hdiffer : a ≠ b)
  /-- One of them ends there and the other goes on. -/
  | ends (hshorter : offset = min first.length second.length)
      (hbegins : first <+: second ∨ second <+: first) (hlengths : first.length ≠ second.length)

theorem part_agreeing {first second : List UInt8} (hdiffer : first ≠ second) :
    Part (agreeing 0 first second) first second := by
  induction first generalizing second with
  | nil =>
      cases second with
      | nil => contradiction
      | cons b second => exact .ends rfl (.inl List.nil_prefix) nofun
  | cons a first ih =>
      cases second with
      | nil => exact .ends rfl (.inr List.nil_prefix) nofun
      | cons b second =>
          rw [agreeing_cons]
          by_cases hsame : a = b
          · subst hsame
            rw [if_pos rfl]
            cases ih fun heq => hdiffer (by rw [heq]) with
            | bytes hfirst hsecond hbytes => exact .bytes hfirst hsecond hbytes
            | ends hshorter hbegins hlengths =>
                refine .ends ?_ ?_ ?_
                · rw [List.length_cons, List.length_cons]
                  omega
                · exact hbegins.imp (List.cons_prefix_cons.mpr ⟨rfl, ·⟩)
                    (List.cons_prefix_cons.mpr ⟨rfl, ·⟩)
                · exact fun heq => hlengths (Nat.succ.inj heq)
          · rw [if_neg hsame]
            exact .bytes rfl rfl hsame

/-! ## What a mismatch tells -/

/-- The mismatch tells where the two strings part, and what they are. -/
structure Tells (m : Mismatch) (expected actual : List UInt8) : Prop where
  longest : IsGreatest
    {n | ∃ front, front <+: expected ∧ front <+: actual ∧ front.length = n} m.offset
  within : m.offset ≤ expected.length ∧ m.offset ≤ actual.length
  agree : expected.take m.offset = actual.take m.offset
  part : Part m.offset expected actual
  lengths : m.expectedLength = expected.length ∧ m.actualLength = actual.length
  digests : m.expectedDigest = Digest.xxh64 expected ∧ m.actualDigest = Digest.xxh64 actual

/-- The two sides change places. -/
def exchanged (m : Mismatch) : Mismatch where
  offset := m.offset
  expectedLength := m.actualLength
  actualLength := m.expectedLength
  expectedDigest := m.actualDigest
  actualDigest := m.expectedDigest

theorem tells_between {expected actual : List UInt8} (hdiffer : expected ≠ actual) :
    (between expected actual).Tells expected actual where
  longest := by
    refine ⟨⟨expected.take (agreeing 0 expected actual), List.take_prefix _ _, ?_, ?_⟩, ?_⟩
    · rw [take_agreeing]
      exact List.take_prefix _ _
    · exact List.length_take_of_le (agreeing_le expected actual)
    · rintro n ⟨front, hexpected, hactual, rfl⟩
      exact length_le_agreeing hexpected hactual
  within := ⟨agreeing_le expected actual, by
    rw [between, agreeing_comm]
    exact agreeing_le actual expected⟩
  agree := take_agreeing expected actual
  part := part_agreeing hdiffer
  lengths := ⟨rfl, rfl⟩
  digests := ⟨Digest.ofBytes_eq_xxh64 expected, Digest.ofBytes_eq_xxh64 actual⟩

theorem Part.ne {offset : Nat} {first second : List UInt8} (hpart : Part offset first second) :
    first ≠ second := by
  rintro rfl
  cases hpart with
  | bytes hfirst hsecond hdiffer => exact hdiffer (Option.some.inj (hfirst.symm.trans hsecond))
  | ends _ _ hlengths => exact hlengths rfl

/-- There is one mismatch that tells of two strings. -/
theorem Tells.eq_between {m : Mismatch} {expected actual : List UInt8}
    (htells : m.Tells expected actual) : m = between expected actual := by
  have hbetween := tells_between htells.part.ne
  cases m with
  | mk offset expectedLength actualLength expectedDigest actualDigest =>
      obtain rfl : offset = agreeing 0 expected actual := htells.longest.unique hbetween.longest
      obtain ⟨rfl, rfl⟩ := htells.lengths
      obtain ⟨rfl, rfl⟩ := htells.digests
      rw [← Digest.ofBytes_eq_xxh64, ← Digest.ofBytes_eq_xxh64]
      rfl

theorem tells_iff {m : Mismatch} {expected actual : List UInt8} :
    m.Tells expected actual ↔ expected ≠ actual ∧ between expected actual = m := by
  constructor
  · intro htells
    exact ⟨htells.part.ne, htells.eq_between.symm⟩
  · rintro ⟨hdiffer, rfl⟩
    exact tells_between hdiffer

theorem exchanged_between (expected actual : List UInt8) :
    (between expected actual).exchanged = between actual expected := by
  rw [between, between, agreeing_comm]
  rfl

theorem exchanged_inj {m n : Mismatch} : m.exchanged = n.exchanged ↔ m = n :=
  ⟨congrArg exchanged, congrArg exchanged⟩

end Mismatch

theorem verify_eq_error_iff {chunk decoded : List UInt8} {m : Mismatch} :
    verify chunk decoded = .error m ↔ chunk ≠ decoded ∧ Mismatch.between chunk decoded = m := by
  rw [verify]
  split <;> simp_all

/-- Bytes pass exactly where they are equal.  Otherwise the one mismatch that tells
where and what they are is found, and the other way round it is the same with its
sides exchanged. -/
theorem verify_tells (chunk decoded : List UInt8) :
    (verify chunk decoded = .ok () ↔ chunk = decoded) ∧
      ∀ m, (verify chunk decoded = .error m ↔ m.Tells chunk decoded) ∧
        (verify decoded chunk = .error m.exchanged ↔ verify chunk decoded = .error m) := by
  refine ⟨verify_eq_ok_iff, fun m => ⟨?_, ?_⟩⟩
  · rw [verify_eq_error_iff, Mismatch.tells_iff]
  · rw [verify_eq_error_iff, verify_eq_error_iff, ← Mismatch.exchanged_between,
      Mismatch.exchanged_inj, ne_comm]

end RoundTrip
