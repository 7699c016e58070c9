/-! # Regions of memory

A region is a block of a fixed size whose bytes past `front` are zero, so that a fresh block of any
size costs nothing. `toList` is the view that all operations are described by.
-/
namespace RoundTrip

/-- The first `n` bytes; a list that is no longer stays as it is. -/
def upTo (n : Nat) (bytes : List UInt8) : List UInt8 :=
  if bytes.length ≤ n then bytes else bytes.take n

@[simp] theorem upTo_eq_take (n : Nat) (bytes : List UInt8) : upTo n bytes = bytes.take n := by
  unfold upTo
  split
  · exact (List.take_of_length_le ‹_›).symm
  · rfl

/-- Two byte strings in a row; a first one that nothing follows stays as it is. -/
def join (first second : List UInt8) : List UInt8 :=
  if second.isEmpty then first else first ++ second

@[simp] theorem join_eq_append (first second : List UInt8) :
    join first second = first ++ second := by
  unfold join
  split
  · rename_i h
    rw [List.isEmpty_iff.mp h, List.append_nil]
  · rfl

structure Region where
  size : Nat
  front : List UInt8
  front_le : front.length ≤ size

namespace Region

/-- Every byte of the block. -/
def toList (r : Region) : List UInt8 :=
  join r.front (List.replicate (r.size - r.front.length) 0)

@[simp] theorem length_toList (r : Region) : r.toList.length = r.size := by
  simp [toList, Nat.add_sub_cancel' r.front_le]

theorem size_eq_of_toList {r r' : Region} (h : r.toList = r'.toList) : r.size = r'.size := by
  rw [← length_toList, ← length_toList, h]

/-- A block of zeros. -/
def zeros (size : Nat) : Region := ⟨size, [], Nat.zero_le size⟩

@[simp] theorem toList_zeros (size : Nat) : (zeros size).toList = List.replicate size 0 := by
  simp [zeros, toList]

/-- A block that holds just these bytes. -/
def ofList (bytes : List UInt8) : Region := ⟨bytes.length, bytes, Nat.le_refl _⟩

@[simp] theorem toList_ofList (bytes : List UInt8) : (ofList bytes).toList = bytes := by
  simp [ofList, toList]

/-- The first `n` bytes of the block, or all of them. -/
def take (r : Region) (n : Nat) : Region :=
  ⟨min n r.size, upTo n r.front, by
    have := r.front_le
    simp only [upTo_eq_take, List.length_take]
    omega⟩

@[simp] theorem size_take (r : Region) (n : Nat) : (r.take n).size = min n r.size := rfl

@[simp] theorem toList_take (r : Region) (n : Nat) : (r.take n).toList = r.toList.take n := by
  have := r.front_le
  simp only [take, toList, upTo_eq_take, join_eq_append, List.take_append, List.take_replicate,
    List.length_take]
  congr 2
  omega

/-- Puts `bytes` at `offset`; what would fall past the end of the block is dropped. -/
def write (r : Region) (offset : Nat) (bytes : List UInt8) : Region :=
  if h : r.size ≤ offset then r
  else
    let kept := upTo (r.size - offset) bytes
    ⟨r.size,
      r.front.take offset ++ (List.replicate (offset - r.front.length) 0 ++
        join kept (r.front.drop (offset + kept.length))), by
      have := r.front_le
      have kept_le : kept.length ≤ r.size - offset := by
        simp only [kept, upTo_eq_take, List.length_take]
        omega
      simp only [join_eq_append, List.length_append, List.length_take, List.length_replicate,
        List.length_drop]
      omega⟩

@[simp] theorem size_write (r : Region) (offset : Nat) (bytes : List UInt8) :
    (r.write offset bytes).size = r.size := by
  simp only [write]
  split <;> rfl

/-- Bytes before the offset stay, the written ones follow, and the rest of the block stays. -/
theorem toList_write (r : Region) (offset : Nat) (bytes : List UInt8) (h : offset ≤ r.size) :
    (r.write offset bytes).toList =
      r.toList.take offset ++ bytes.take (r.size - offset) ++
        r.toList.drop (offset + (bytes.take (r.size - offset)).length) := by
  have front_le := r.front_le
  by_cases full : r.size ≤ offset
  · obtain rfl : offset = r.size := Nat.le_antisymm h full
    simp [write, List.take_of_length_le]
  · simp only [write, full, dite_false, toList, upTo_eq_take, join_eq_append]
    generalize kept_eq : bytes.take (r.size - offset) = kept
    have kept_le : kept.length ≤ r.size - offset := kept_eq ▸ List.length_take_le ..
    apply List.ext_getElem?
    intro i
    simp only [List.getElem?_append, List.getElem?_take, List.getElem?_drop,
      List.getElem?_replicate, List.length_append, List.length_take, List.length_replicate,
      List.length_drop]
    grind

/-- Written places have the new bytes, and all others the old ones. -/
theorem getElem?_write (r : Region) (offset : Nat) (bytes : List UInt8) (i : Nat) :
    (r.write offset bytes).toList[i]? =
      if offset ≤ i ∧ i < offset + bytes.length ∧ i < r.size then bytes[i - offset]?
      else r.toList[i]? := by
  by_cases hoffset : offset ≤ r.size
  · have hlength := r.length_toList
    rw [toList_write r offset bytes hoffset, List.append_assoc, List.getElem?_append,
      List.getElem?_append, List.length_take, List.length_take, hlength, Nat.min_eq_left hoffset]
    by_cases hbefore : i < offset
    · rw [if_pos hbefore, if_neg (by omega), List.getElem?_take_of_lt hbefore]
    · rw [if_neg hbefore]
      by_cases hinside : i - offset < min (r.size - offset) bytes.length
      · rw [if_pos hinside, if_pos (by omega), List.getElem?_take_of_lt (by omega)]
      · rw [if_neg hinside, List.getElem?_drop]
        by_cases hend : i < r.size
        · rw [if_neg (by omega)]
          congr 1
          omega
        · rw [if_neg (by omega), List.getElem?_eq_none (by omega),
            List.getElem?_eq_none (by omega)]
  · have hunchanged : r.write offset bytes = r := by
      rw [write, dif_pos (by omega)]
    rw [hunchanged, if_neg (by omega)]

/-- What was written at the start of a block is there, as far as the block goes. -/
theorem toList_take_write (r : Region) (bytes : List UInt8) :
    ((r.write 0 bytes).take bytes.length).toList = bytes.take r.size := by
  have hlength := r.length_toList
  rw [toList_take, toList_write _ _ _ (Nat.zero_le _), List.take_zero, List.nil_append,
    Nat.sub_zero, Nat.zero_add]
  rcases Nat.le_total bytes.length r.size with hfits | hover
  · rw [List.take_of_length_le hfits, List.take_left]
  · rw [List.length_take, Nat.min_eq_left hover, List.drop_of_length_le (by omega),
      List.append_nil, List.take_take, Nat.min_eq_right hover]

end Region
end RoundTrip
