import RoundTrip.Text.Blank
import RoundTrip.Text.Number

/-!
# Decimal numerals

A numeral is at least one digit, perhaps behind a sign.  A reader that goes from
digit to digit and refuses the first one that leads out of the range accepts
exactly the numerals whose numbers are in the range: on the way to its number a
numeral only moves away from zero.
-/

namespace RoundTrip.Text

/-! ## Numerals and their numbers -/

/-- Characters that are written for a number. -/
inductive Numeral : List Char → Int → Prop where
  | plain {digits : List Char} (hsome : digits ≠ []) (hdigits : ∀ c ∈ digits, c.isDigit = true) :
      Numeral digits (Nat.ofDigitChars 10 digits 0)
  | plus {digits : List Char} (hsome : digits ≠ []) (hdigits : ∀ c ∈ digits, c.isDigit = true) :
      Numeral ('+' :: digits) (Nat.ofDigitChars 10 digits 0)
  | minus {digits : List Char} (hsome : digits ≠ []) (hdigits : ∀ c ∈ digits, c.isDigit = true) :
      Numeral ('-' :: digits) (-(Nat.ofDigitChars 10 digits 0 : Nat))

theorem toNat_of_isDigit {c : Char} (hdigit : c.isDigit = true) :
    48 ≤ c.toNat ∧ c.toNat ≤ 57 := by
  simpa [Char.isDigit, UInt32.le_iff_toNat_le] using hdigit

theorem isDigit_iff (c : Char) : c.isDigit = true ↔ '0' ≤ c ∧ c ≤ '9' := by
  simp only [Char.isDigit, Bool.and_eq_true, decide_eq_true_eq, Char.le_def, ge_iff_le]

theorem digit?_of_isDigit {c : Char} (hdigit : c.isDigit = true) :
    digit? c = some (c.toNat - '0'.toNat) := if_pos ((isDigit_iff c).mp hdigit)

theorem digit?_of_not_isDigit {c : Char} (hother : ¬ c.isDigit = true) : digit? c = none :=
  if_neg fun hdigit => hother ((isDigit_iff c).mpr hdigit)

theorem isBlank_of_isDigit {c : Char} (hdigit : c.isDigit = true) : isBlank c = false := by
  have hcode := toNat_of_isDigit hdigit
  simp only [isBlank, Bool.or_eq_false_iff, Bool.and_eq_false_iff, decide_eq_false_iff_not,
    beq_eq_false_iff_ne]
  omega

theorem Numeral.ne_nil {cs : List Char} {v : Int} (hnumeral : Numeral cs v) : cs ≠ [] := by
  cases hnumeral with
  | plain hsome => exact hsome
  | plus => exact List.cons_ne_nil _ _
  | minus => exact List.cons_ne_nil _ _

/-- There is no blank in a numeral. -/
theorem Numeral.isBlank_eq_false {cs : List Char} {v : Int} (hnumeral : Numeral cs v) :
    ∀ c ∈ cs, isBlank c = false := by
  cases hnumeral with
  | plain hsome hdigits => exact fun c hc => isBlank_of_isDigit (hdigits c hc)
  | plus hsome hdigits =>
      exact List.forall_mem_cons.mpr ⟨rfl, fun c hc => isBlank_of_isDigit (hdigits c hc)⟩
  | minus hsome hdigits =>
      exact List.forall_mem_cons.mpr ⟨rfl, fun c hc => isBlank_of_isDigit (hdigits c hc)⟩

theorem Numeral.colon_not_mem {cs : List Char} {v : Int} (hnumeral : Numeral cs v) :
    ':' ∉ cs := by
  have hother {digits : List Char} (hdigits : ∀ c ∈ digits, c.isDigit = true) : ':' ∉ digits :=
    fun hmem => absurd (hdigits _ hmem) (by decide)
  cases hnumeral with
  | plain hsome hdigits => exact hother hdigits
  | plus hsome hdigits => exact List.not_mem_cons_of_ne_of_not_mem (by decide) (hother hdigits)
  | minus hsome hdigits => exact List.not_mem_cons_of_ne_of_not_mem (by decide) (hother hdigits)

/-- Every number has a numeral: the one that it is printed with. -/
theorem numeral_toString (v : Int) : Numeral (toString v).toList v := by
  have hdigits (n : Nat) : ∀ c ∈ Nat.toDigits 10 n, c.isDigit = true :=
    fun _ hc => Nat.isDigit_of_mem_toDigits (by omega) (by omega) hc
  have hvalue (n : Nat) : Nat.ofDigitChars 10 (Nat.toDigits 10 n) 0 = n :=
    Nat.ofDigitChars_toDigits (by omega) (by omega)
  rw [Int.toString_eq_repr, Int.repr_eq_if]
  split
  · have hplain := Numeral.plain Nat.toDigits_ne_nil (hdigits v.toNat)
    rw [hvalue, Int.toNat_of_nonneg ‹_›] at hplain
    rwa [Nat.toList_repr]
  · have hminus := Numeral.minus Nat.toDigits_ne_nil (hdigits (-v).toNat)
    rw [hvalue, Int.toNat_of_nonneg (by omega), Int.neg_neg] at hminus
    rwa [String.toList_append, Nat.toList_repr]

/-! ## Reading -/

/-- The number of digits on the side of the sign. -/
def signed (negative : Bool) (n : Nat) : Int := if negative then -n else n

/-- More digits lead no closer to zero. -/
theorem le_ofDigitChars (digits : List Char) (n : Nat) : n ≤ Nat.ofDigitChars 10 digits n := by
  induction digits generalizing n with
  | nil => exact Nat.le_refl n
  | cons c rest ih =>
      rw [Nat.ofDigitChars_cons]
      exact Nat.le_trans (by omega) (ih _)

section Reading

variable {low high : Int}

/-- Whatever is closer to zero than a number in the range is in the range. -/
theorem signed_within {negative : Bool} {n m : Nat} (hle : n ≤ m) (hlow : low ≤ 0)
    (hhigh : 0 ≤ high) (hrange : low ≤ signed negative m ∧ signed negative m ≤ high) :
    low ≤ signed negative n ∧ signed negative n ≤ high := by
  cases negative <;> simp only [signed, Bool.false_eq_true, if_false, if_true] at hrange ⊢ <;> omega

theorem readDigits_cons (negative : Bool) {c : Char} (hdigit : c.isDigit = true)
    (rest : List Char) (n : Nat) :
    readDigits low high negative (signed negative n) (c :: rest) =
      if signed negative (10 * n + (c.toNat - '0'.toNat)) < low then .error .tooSmall
      else if high < signed negative (10 * n + (c.toNat - '0'.toNat)) then .error .tooLarge
      else
        readDigits low high negative (signed negative (10 * n + (c.toNat - '0'.toNat))) rest := by
  have hnext : (if negative then signed negative n * 10 - ((c.toNat - '0'.toNat : Nat) : Int)
      else signed negative n * 10 + ((c.toNat - '0'.toNat : Nat) : Int)) =
        signed negative (10 * n + (c.toNat - '0'.toNat)) := by
    cases negative <;> simp only [signed, Bool.false_eq_true, if_false, if_true] <;> omega
  simp only [readDigits, digit?_of_isDigit hdigit, hnext]

/-- From a number in the range on, digits are read as the number that they lead to. -/
theorem readDigits_eq_ok_iff (hlow : low ≤ 0) (hhigh : 0 ≤ high) (negative : Bool)
    (digits : List Char) {n : Nat} (hrange : low ≤ signed negative n ∧ signed negative n ≤ high)
    (v : Int) :
    readDigits low high negative (signed negative n) digits = .ok v ↔
      (∀ c ∈ digits, c.isDigit = true) ∧ signed negative (Nat.ofDigitChars 10 digits n) = v ∧
        low ≤ v ∧ v ≤ high := by
  induction digits generalizing n with
  | nil =>
      rw [readDigits, Except.ok.injEq, Nat.ofDigitChars_nil]
      constructor
      · rintro rfl
        exact ⟨nofun, rfl, hrange⟩
      · exact fun hread => hread.2.1
  | cons c rest ih =>
      rw [List.forall_mem_cons]
      by_cases hdigit : c.isDigit = true
      · rw [readDigits_cons negative hdigit, Nat.ofDigitChars_cons]
        generalize 10 * n + (c.toNat - '0'.toNat) = next
        by_cases hnext : low ≤ signed negative next ∧ signed negative next ≤ high
        · rw [if_neg (by omega), if_neg (by omega), ih hnext]
          simp only [hdigit, true_and]
        · have hfails : (if signed negative next < low then .error .tooSmall
              else if high < signed negative next then .error .tooLarge
              else readDigits low high negative (signed negative next) rest) ≠ .ok v := by
            split
            · nofun
            · split
              · nofun
              · omega
          refine iff_of_false hfails ?_
          rintro ⟨-, rfl, hwithin⟩
          exact hnext (signed_within (le_ofDigitChars rest next) hlow hhigh hwithin)
      · simp only [readDigits, digit?_of_not_isDigit hdigit, reduceCtorEq, hdigit, false_and]

/-- From nothing on, digits are read as their number. -/
theorem readDigits_zero_iff (hlow : low ≤ 0) (hhigh : 0 ≤ high) (negative : Bool)
    (digits : List Char) (v : Int) :
    readDigits low high negative 0 digits = .ok v ↔
      (∀ c ∈ digits, c.isDigit = true) ∧ signed negative (Nat.ofDigitChars 10 digits 0) = v ∧
        low ≤ v ∧ v ≤ high := by
  have hzero : signed negative 0 = 0 := by cases negative <;> rfl
  have hrange : low ≤ signed negative 0 ∧ signed negative 0 ≤ high := hzero.symm ▸ ⟨hlow, hhigh⟩
  rw [← readDigits_eq_ok_iff hlow hhigh negative digits hrange v, hzero]

theorem numeral_plus_iff {digits : List Char} {v : Int} :
    Numeral ('+' :: digits) v ↔ digits ≠ [] ∧ (∀ c ∈ digits, c.isDigit = true) ∧
      signed false (Nat.ofDigitChars 10 digits 0) = v := by
  constructor
  · intro hnumeral
    cases hnumeral with
    | plain _ hdigits => exact absurd (hdigits '+' List.mem_cons_self) (by decide)
    | plus hsome hdigits => exact ⟨hsome, hdigits, rfl⟩
  · rintro ⟨hsome, hdigits, rfl⟩
    exact .plus hsome hdigits

theorem numeral_minus_iff {digits : List Char} {v : Int} :
    Numeral ('-' :: digits) v ↔ digits ≠ [] ∧ (∀ c ∈ digits, c.isDigit = true) ∧
      signed true (Nat.ofDigitChars 10 digits 0) = v := by
  constructor
  · intro hnumeral
    cases hnumeral with
    | plain _ hdigits => exact absurd (hdigits '-' List.mem_cons_self) (by decide)
    | minus hsome hdigits => exact ⟨hsome, hdigits, rfl⟩
  · rintro ⟨hsome, hdigits, rfl⟩
    exact .minus hsome hdigits

theorem numeral_unsigned_iff {cs : List Char} {v : Int} (hsome : cs ≠ [])
    (hplus : ∀ rest, cs ≠ '+' :: rest) (hminus : ∀ rest, cs ≠ '-' :: rest) :
    Numeral cs v ↔ (∀ c ∈ cs, c.isDigit = true) ∧
      signed false (Nat.ofDigitChars 10 cs 0) = v := by
  constructor
  · intro hnumeral
    cases hnumeral with
    | plain _ hdigits => exact ⟨hdigits, rfl⟩
    | plus => exact absurd rfl (hplus _)
    | minus => exact absurd rfl (hminus _)
  · rintro ⟨hdigits, rfl⟩
    exact .plain hsome hdigits

/-- A text is read as a number exactly if it is a numeral for it and the number is in the range. -/
theorem readNumber_eq_ok_iff (hlow : low < 0) (hhigh : 0 ≤ high) (cs : List Char) (v : Int) :
    readNumber low high cs = .ok v ↔ Numeral cs v ∧ low ≤ v ∧ v ≤ high := by
  have hread := readDigits_zero_iff (Int.le_of_lt hlow) hhigh
  rw [readNumber.eq_def]
  split
  · exact iff_of_false nofun fun hnumeral => hnumeral.1.ne_nil rfl
  · rename_i rest
    rw [numeral_plus_iff]
    cases rest with
    | nil => simp
    | cons c rest => simp [hread, and_assoc]
  · rename_i rest
    rw [numeral_minus_iff]
    cases rest with
    | nil => simp
    | cons c rest => simp [hread, hlow, and_assoc]
  · rw [numeral_unsigned_iff ‹_› ‹_› ‹_›, hread, and_assoc]

end Reading

/-! ## Blanks around -/

/-- What is left of a text stands between the blanks at its ends. -/
theorem exists_trim (cs : List Char) : ∃ before after, cs = before ++ trim cs ++ after ∧
    ∀ c ∈ before ++ after, isBlank c = true := by
  obtain ⟨rest, hrest⟩ : ∃ rest, rest = cs.dropWhile isBlank := ⟨_, rfl⟩
  have hfront : cs.takeWhile isBlank ++ rest = cs := hrest ▸ List.takeWhile_append_dropWhile
  have hback : trim cs ++ (rest.reverse.takeWhile isBlank).reverse = rest := by
    rw [trim, ← hrest, ← List.reverse_append, List.takeWhile_append_dropWhile, List.reverse_reverse]
  refine ⟨cs.takeWhile isBlank, (rest.reverse.takeWhile isBlank).reverse, ?_, ?_⟩
  · rw [List.append_assoc, hback, hfront]
  · intro c hc
    rcases List.mem_append.mp hc with hc | hc
    · exact List.all_eq_true.mp List.all_takeWhile c hc
    · exact List.all_eq_true.mp List.all_takeWhile c (List.mem_reverse.mp hc)

theorem dropWhile_isBlank_of_not {core : List Char} (hsome : core ≠ [])
    (hcore : ∀ c ∈ core, isBlank c = false) (after : List Char) :
    (core ++ after).dropWhile isBlank = core ++ after := by
  cases core with
  | nil => contradiction
  | cons c rest =>
      exact List.dropWhile_cons_of_neg (Bool.not_eq_true _ ▸ hcore c List.mem_cons_self)

/-- A word without a blank is what is left of it between blanks. -/
theorem trim_eq {before core after : List Char} (hblank : ∀ c ∈ before ++ after, isBlank c = true)
    (hsome : core ≠ []) (hcore : ∀ c ∈ core, isBlank c = false) :
    trim (before ++ core ++ after) = core := by
  have hbefore : ∀ c ∈ before, isBlank c = true := fun c hc => hblank c (List.mem_append_left _ hc)
  have hafter : ∀ c ∈ after.reverse, isBlank c = true :=
    fun c hc => hblank c (List.mem_append_right _ (List.mem_reverse.mp hc))
  have hback : core.reverse.dropWhile isBlank = core.reverse := by
    have hkept := dropWhile_isBlank_of_not (List.reverse_ne_nil_iff.mpr hsome)
      (fun c hc => hcore c (List.mem_reverse.mp hc)) []
    rwa [List.append_nil] at hkept
  rw [trim, List.append_assoc, List.dropWhile_append_of_pos hbefore,
    dropWhile_isBlank_of_not hsome hcore, List.reverse_append,
    List.dropWhile_append_of_pos hafter, hback, List.reverse_reverse]

end RoundTrip.Text
