import Mathlib.Algebra.Ring.Nat
import RoundTrip.Chunks

/-!
# What the chunks cover

Chunk `k` of an input of `remaining` bytes is the range from `k * size` up to
`(k + 1) * size` or to the end of the input.  The lengths that are cut one
after another are the lengths of these ranges, the ranges are not empty, and
every offset lies in exactly one of them.
-/

namespace RoundTrip

namespace Chunks

/-- The length of chunk `k`. -/
def lengthAt (size remaining k : Nat) : Nat := min (remaining - k * size) size

/-- Chunk `k` is cut from the input and holds the byte at `offset`. -/
def Covers (size remaining k offset : Nat) : Prop :=
  k < count size remaining ∧ k * size ≤ offset ∧ offset < k * size + lengthAt size remaining k

/-- The bytes of chunk `k`. -/
def bytesAt (contents : List UInt8) (size remaining k : Nat) : List UInt8 :=
  contents.extract (k * size) (min ((k + 1) * size) remaining)

theorem lt_count_iff {size : Nat} (hsize : 0 < size) (remaining k : Nat) :
    k < count size remaining ↔ k * size < remaining := by
  have hne : size ≠ 0 := by omega
  rw [count, if_neg hne, Nat.lt_div_iff_mul_lt hsize]
  omega

theorem size_pos_of_lt_count {size remaining k : Nat} (hk : k < count size remaining) :
    0 < size := by
  rcases Nat.eq_zero_or_pos size with rfl | hsize
  · simp [count] at hk
  · exact hsize

theorem lengthAt_pos {size remaining k : Nat} (hk : k < count size remaining) :
    0 < lengthAt size remaining k := by
  have hsize := size_pos_of_lt_count hk
  have hstart := (lt_count_iff hsize remaining k).mp hk
  simp only [lengthAt]
  omega

theorem lengthAt_le (size remaining k : Nat) : lengthAt size remaining k ≤ size :=
  Nat.min_le_right _ _

/-- Only the last chunk may be shorter than the size. -/
theorem lengthAt_eq_size {size remaining k : Nat} (hk : k + 1 < count size remaining) :
    lengthAt size remaining k = size := by
  have hsize := size_pos_of_lt_count hk
  have hnext := (lt_count_iff hsize remaining (k + 1)).mp hk
  rw [Nat.succ_mul] at hnext
  simp only [lengthAt]
  omega

/-- A chunk ends where the next one starts, or at the end of the input. -/
theorem start_add_lengthAt {size remaining k : Nat} (hk : k < count size remaining) :
    k * size + lengthAt size remaining k = min ((k + 1) * size) remaining := by
  have hstart := (lt_count_iff (size_pos_of_lt_count hk) remaining k).mp hk
  rw [Nat.succ_mul]
  simp only [lengthAt]
  omega

theorem count_mul_ge {size : Nat} (hsize : 0 < size) (remaining : Nat) :
    remaining ≤ count size remaining * size :=
  Nat.le_of_not_lt fun hlt =>
    Nat.lt_irrefl _ ((lt_count_iff hsize remaining (count size remaining)).mpr hlt)

/-! ## The lengths that are cut -/

theorem cut_eq_map (size start count remaining : Nat) :
    cut size count (remaining - start * size) =
      (List.range' start count).map (lengthAt size remaining) := by
  induction count generalizing start with
  | zero => rfl
  | succ count ih =>
      rw [cut, List.range'_succ, List.map_cons, ← ih (start + 1)]
      refine congrArg (List.cons _) (congrArg (cut size count) ?_)
      rw [Nat.succ_mul]
      omega

/-- The lengths are those of the chunks in order. -/
theorem lengths_eq_map (size remaining : Nat) :
    lengths size remaining =
      (List.range (count size remaining)).map (lengthAt size remaining) := by
  have hcut := cut_eq_map size 0 (count size remaining) remaining
  rwa [Nat.zero_mul, Nat.sub_zero, ← List.range_eq_range'] at hcut

/-- The lengths add up to the whole. -/
theorem sum_lengths {size : Nat} (hs : 0 < size) (remaining : Nat) :
    (lengths size remaining).sum = remaining := by
  induction remaining using Nat.strongRecOn with
  | ind remaining ih =>
      rcases Nat.eq_zero_or_pos remaining with rfl | hr
      · rw [lengths_zero]
        rfl
      · rw [lengths_cons hs hr, List.sum_cons, ih _ (by omega)]
        omega

/-! ## Offsets -/

/-- Every offset lies in exactly one chunk. -/
theorem covers_unique {size remaining offset : Nat} (hsize : 0 < size)
    (hoffset : offset < remaining) :
    ∃ k, Covers size remaining k offset ∧ ∀ j, Covers size remaining j offset → j = k := by
  have hlow : offset / size * size ≤ offset := Nat.div_mul_le_self offset size
  have hhigh : offset < (offset / size + 1) * size := by
    rw [Nat.mul_comm]
    exact Nat.lt_mul_div_succ offset hsize
  refine ⟨offset / size, ⟨?_, hlow, ?_⟩, ?_⟩
  · exact (lt_count_iff hsize remaining _).mpr (by omega)
  · rw [Nat.succ_mul] at hhigh
    simp only [lengthAt]
    omega
  · rintro j ⟨-, hstart, hstop⟩
    have hlength := lengthAt_le size remaining j
    refine (Nat.div_eq_of_lt_le hstart ?_).symm
    rw [Nat.succ_mul]
    omega

/-! ## Bytes -/

theorem bytesAt_eq {contents : List UInt8} {size remaining k : Nat}
    (hk : k < count size remaining) :
    bytesAt contents size remaining k =
      (contents.drop (k * size)).take (lengthAt size remaining k) := by
  rw [bytesAt, List.extract_eq_take_drop, ← start_add_lengthAt hk, Nat.add_sub_cancel_left]

/-- The first chunks together are the first bytes. -/
theorem flatMap_bytesAt {contents : List UInt8} {size remaining k : Nat}
    (hk : k ≤ count size remaining) :
    (List.range k).flatMap (bytesAt contents size remaining) =
      contents.take (min (k * size) remaining) := by
  induction k with
  | zero => simp
  | succ k ih =>
      have hstart := (lt_count_iff (size_pos_of_lt_count hk) remaining k).mp hk
      rw [List.range_succ, List.flatMap_append, ih (Nat.le_of_succ_le hk),
        List.flatMap_singleton, bytesAt_eq hk, ← start_add_lengthAt hk,
        Nat.min_eq_left (Nat.le_of_lt hstart), ← List.take_add]

/-- The chunks together are the input. -/
theorem flatMap_bytesAt_count {contents : List UInt8} {size remaining : Nat} (hsize : 0 < size) :
    (List.range (count size remaining)).flatMap (bytesAt contents size remaining) =
      contents.take remaining := by
  rw [flatMap_bytesAt (Nat.le_refl _), Nat.min_eq_right (count_mul_ge hsize remaining)]

end Chunks
end RoundTrip
