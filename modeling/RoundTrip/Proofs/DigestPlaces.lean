import Mathlib.Algebra.Ring.Nat
import RoundTrip.Bytes.Digest

/-!
# A digest by places

The words of a byte string stand at every eighth place.  They go to the four lanes
in turn, so a lane takes every fourth word; the words behind the last whole stripe,
then four bytes, then single bytes go to the sum.  Said so, the digest reads each
word at its place, and nothing is cut off the string on the way.
-/

namespace RoundTrip

namespace Digest

/-! ## Numbers from bytes -/

/-- The number that bytes write, the least significant first. -/
def littleEndian : List UInt8 → Nat
  | [] => 0
  | byte :: rest => byte.toNat + 256 * littleEndian rest

/-- A number shifted past another one, with no bit of it lost, is added to it. -/
theorem toNat_or_shiftLeft {low high shift : UInt64} {m k n : Nat} (hlow : low.toNat = m)
    (hhigh : high.toNat = k) (hshift : shift.toNat = n) (hn : n < 64) (hm : m < 2 ^ n)
    (hk : k * 2 ^ n < 2 ^ 64) : (low ||| high <<< shift).toNat = m + k * 2 ^ n := by
  subst hlow hhigh hshift
  rw [UInt64.toNat_or, UInt64.toNat_shiftLeft, Nat.mod_eq_of_lt hn, Nat.shiftLeft_eq,
    Nat.mod_eq_of_lt hk, Nat.or_comm, ← Nat.shiftLeft_eq, ← Nat.shiftLeft_add_eq_or_of_lt hm,
    Nat.shiftLeft_eq, Nat.add_comm]

theorem toNat_word32 (a b c d : UInt8) : (word32 a b c d).toNat = littleEndian [a, b, c, d] := by
  have ha := a.toNat_lt
  have hb := b.toNat_lt
  have hc := c.toNat_lt
  have hd := d.toNat_lt
  have hab : (a.toUInt64 ||| b.toUInt64 <<< 8).toNat = a.toNat + b.toNat * 2 ^ 8 :=
    toNat_or_shiftLeft rfl rfl rfl (by decide) (by omega) (by omega)
  have habc : (a.toUInt64 ||| b.toUInt64 <<< 8 ||| c.toUInt64 <<< 16).toNat =
      a.toNat + b.toNat * 2 ^ 8 + c.toNat * 2 ^ 16 :=
    toNat_or_shiftLeft hab rfl rfl (by decide) (by omega) (by omega)
  have habcd : (word32 a b c d).toNat =
      a.toNat + b.toNat * 2 ^ 8 + c.toNat * 2 ^ 16 + d.toNat * 2 ^ 24 :=
    toNat_or_shiftLeft habc rfl rfl (by decide) (by omega) (by omega)
  rw [habcd]
  simp only [littleEndian]
  omega

theorem littleEndian_four_lt (a b c d : UInt8) : littleEndian [a, b, c, d] < 2 ^ 32 := by
  have ha := a.toNat_lt
  have hb := b.toNat_lt
  have hc := c.toNat_lt
  have hd := d.toNat_lt
  simp only [littleEndian]
  omega

theorem toNat_word64 (a b c d e f g h : UInt8) :
    (word64 a b c d e f g h).toNat = littleEndian [a, b, c, d, e, f, g, h] := by
  have hlow := littleEndian_four_lt a b c d
  have hhigh := littleEndian_four_lt e f g h
  have hsum : (word64 a b c d e f g h).toNat =
      littleEndian [a, b, c, d] + littleEndian [e, f, g, h] * 2 ^ 32 :=
    toNat_or_shiftLeft (toNat_word32 ..) (toNat_word32 ..) rfl (by decide) hlow (by omega)
  rw [hsum]
  simp only [littleEndian]
  omega

/-! ## Words in their places -/

/-- The word that the next `width` bytes from `offset` write. -/
def wordAt (bytes : List UInt8) (offset width : Nat) : UInt64 :=
  .ofNat (littleEndian ((bytes.drop offset).take width))

/-- The words of eight bytes, each in its place. -/
def wholeWords (bytes : List UInt8) : List UInt64 :=
  (List.range (bytes.length / 8)).map fun i => wordAt bytes (8 * i) 8

theorem wordAt_zero_eight (a b c d e f g h : UInt8) (rest : List UInt8) :
    wordAt (a :: b :: c :: d :: e :: f :: g :: h :: rest) 0 8 = word64 a b c d e f g h := by
  rw [← UInt64.ofNat_toNat (x := word64 a b c d e f g h), toNat_word64]
  rfl

theorem wholeWords_cons (a b c d e f g h : UInt8) (rest : List UInt8) :
    wholeWords (a :: b :: c :: d :: e :: f :: g :: h :: rest) =
      word64 a b c d e f g h :: wholeWords rest := by
  have hlength : (a :: b :: c :: d :: e :: f :: g :: h :: rest).length / 8 =
      rest.length / 8 + 1 := by
    simp only [List.length_cons]
    omega
  rw [wholeWords, hlength, List.range_succ_eq_map, List.map_cons, wordAt_zero_eight, List.map_map]
  rfl

theorem wholeWords_of_short {bytes : List UInt8} (hshort : bytes.length < 8) :
    wholeWords bytes = [] := by
  rw [wholeWords, Nat.div_eq_of_lt hshort]
  rfl

theorem exists_eight {bytes : List UInt8} (hlong : 8 ≤ bytes.length) :
    ∃ a b c d e f g h rest, bytes = a :: b :: c :: d :: e :: f :: g :: h :: rest := by
  match bytes, hlong with
  | a :: b :: c :: d :: e :: f :: g :: h :: rest, _ => exact ⟨a, b, c, d, e, f, g, h, rest, rfl⟩

/-- Cutting gives the words in their order, and the bytes behind the last of them. -/
theorem cut_eq (done : List UInt64) (bytes : List UInt8) :
    cut done bytes = (done.reverse ++ wholeWords bytes, bytes.drop (bytes.length / 8 * 8)) := by
  fun_induction cut done bytes with
  | case1 done a b c d e f g h rest ih =>
      have hlength : (a :: b :: c :: d :: e :: f :: g :: h :: rest).length / 8 * 8 =
          rest.length / 8 * 8 + 8 := by
        simp only [List.length_cons]
        omega
      rw [ih, wholeWords_cons, List.reverse_cons, List.append_assoc, hlength]
      rfl
  | case2 done rest hshort =>
      have hlength : rest.length < 8 := by
        refine Nat.lt_of_not_le fun hlong => ?_
        obtain ⟨a, b, c, d, e, f, g, h, tail, heq⟩ := exists_eight hlong
        exact hshort a b c d e f g h tail heq
      rw [wholeWords_of_short hlength, Nat.div_eq_of_lt hlength, List.append_nil]
      rfl

/-! ## Words in their lanes -/

/-- What a lane holds once the `k`-th word of every stripe has gone to it. -/
def column (word : Nat → UInt64) (stripes k : Nat) (lane : UInt64) : UInt64 :=
  (List.range stripes).foldl (fun lane i => round lane (word (4 * i + k))) lane

/-- The lanes after some stripes, each from its own column. -/
def Lanes.after (lanes : Lanes) (word : Nat → UInt64) (stripes : Nat) : Lanes where
  first := column word stripes 0 lanes.first
  second := column word stripes 1 lanes.second
  third := column word stripes 2 lanes.third
  fourth := column word stripes 3 lanes.fourth

theorem column_succ (word : Nat → UInt64) (stripes k : Nat) (lane : UInt64) :
    column word (stripes + 1) k lane =
      column (fun i => word (4 + i)) stripes k (round lane (word k)) := by
  have hplace (i : Nat) : 4 * i.succ + k = 4 + (4 * i + k) := by omega
  simp only [column, List.range_succ_eq_map, List.foldl_cons, List.foldl_map, Nat.mul_zero,
    Nat.zero_add, hplace]

theorem absorb_range (lanes : Lanes) (word : Nat → UInt64) (stripes : Nat) {left : Nat}
    (hleft : left < 4) :
    lanes.absorb ((List.range (4 * stripes + left)).map word) =
      (lanes.after word stripes, (List.range left).map fun i => word (4 * stripes + i)) := by
  induction stripes generalizing lanes word with
  | zero =>
      match left, hleft with
      | 0, _ | 1, _ | 2, _ | 3, _ => rfl
  | succ stripes ih =>
      rw [show 4 * (stripes + 1) + left = 4 + (4 * stripes + left) by omega, List.range_add,
        List.map_append, List.map_map]
      have hstep := ih ⟨round lanes.first (word 0), round lanes.second (word 1),
        round lanes.third (word 2), round lanes.fourth (word 3)⟩ fun i => word (4 + i)
      refine Eq.trans hstep (Prod.ext ?_ ?_)
      · rw [Lanes.after, Lanes.after, column_succ, column_succ, column_succ, column_succ]
      · simp only [Nat.mul_add, Nat.mul_one, Nat.add_assoc, Nat.add_left_comm 4]

/-! ## The sum -/

theorem wordAt_zero_four (a b c d : UInt8) (rest : List UInt8) :
    wordAt (a :: b :: c :: d :: rest) 0 4 = word32 a b c d := by
  rw [← UInt64.ofNat_toNat (x := word32 a b c d), toNat_word32]
  rfl

/-- Fewer than eight bytes are a word of four, if there are so many, and single bytes. -/
theorem addTail_eq (sum : UInt64) {tail : List UInt8} (hshort : tail.length < 8) :
    addTail sum tail = (tail.drop (tail.length / 4 * 4)).foldl addByte
      (if 4 ≤ tail.length then addWord32 sum (wordAt tail 0 4) else sum) := by
  match tail, hshort with
  | [], _ | [_], _ | [_, _], _ | [_, _, _], _ => simp [addTail]
  | a :: b :: c :: d :: rest, hshort =>
      have hlength : (a :: b :: c :: d :: rest).length / 4 * 4 = 4 := by
        simp only [List.length_cons] at hshort ⊢
        omega
      have hlong : 4 ≤ (a :: b :: c :: d :: rest).length := Nat.le_add_left 4 rest.length
      rw [if_pos hlong, hlength, wordAt_zero_four]
      rfl

/-- XXH64 with seed zero, each word read at its place. -/
def xxh64 (bytes : List UInt8) : UInt64 :=
  let word i := wordAt bytes (8 * i) 8
  let stripes := bytes.length / 32
  let start := if bytes.length < 32 then prime5 else (Lanes.start.after word stripes).merge
  let sum := (List.range (bytes.length % 32 / 8)).foldl
    (fun sum i => addWord64 sum (word (4 * stripes + i))) (start + .ofNat bytes.length)
  let sum := if 4 ≤ bytes.length % 8 then
    addWord32 sum (wordAt bytes (bytes.length / 8 * 8) 4) else sum
  avalanche ((bytes.drop (bytes.length / 4 * 4)).foldl addByte sum)

theorem ofBytes_eq_xxh64 (bytes : List UInt8) : ofBytes bytes = xxh64 bytes := by
  have hwords : bytes.length / 8 = 4 * (bytes.length / 32) + bytes.length % 32 / 8 := by omega
  have hleft : bytes.length % 32 / 8 < 4 := by omega
  have htail : (bytes.drop (bytes.length / 8 * 8)).length = bytes.length % 8 := by
    rw [List.length_drop]
    omega
  have hbytes : bytes.length / 8 * 8 + bytes.length % 8 / 4 * 4 = bytes.length / 4 * 4 := by omega
  have hword : wordAt (bytes.drop (bytes.length / 8 * 8)) 0 4 =
      wordAt bytes (bytes.length / 8 * 8) 4 := rfl
  rw [ofBytes, cut_eq]
  simp only [List.reverse_nil, List.nil_append, wholeWords, hwords]
  rw [absorb_range _ _ _ hleft, ← hwords, addTail_eq _ (by omega), htail, List.drop_drop, hbytes,
    hword, List.foldl_map]
  rfl

/-- One stripe, one word of four bytes, and three single bytes. -/
example : xxh64 "Nobody inspects the spammish repetition".toUTF8.toList = 0xFBCEA83C8A378BF1 := by
  decide +kernel

end Digest

end RoundTrip
