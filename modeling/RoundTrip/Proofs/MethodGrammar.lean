import Mathlib.Algebra.Ring.Int.Defs
import RoundTrip.CommandLine.Method
import RoundTrip.Proofs.Numerals

/-!
# The grammar of methods

A method is spelled by a name, a level and an extra parameter between colons, of
which the last two may be left out.  Every text spells one method, or there is a
leftmost field to blame.  So a method is read exactly from the texts that spell
it, and the fault of any other text is that of the field to blame.
-/

namespace RoundTrip

namespace Method

open Text

/-! ## Fields -/

theorem fields_eq_splitOn (cs : List Char) : fields cs = cs.splitOn ':' := by
  induction cs with
  | nil => rfl
  | cons c rest ih =>
      rw [List.splitOn, List.splitOnP_cons_eq_if_modifyHead, ← List.splitOn, ← ih, fields]
      by_cases hcolon : c = ':'
      · rw [if_pos hcolon, if_pos (beq_iff_eq.mpr hcolon)]
      · rw [if_neg hcolon, if_neg fun heq => hcolon (beq_iff_eq.mp heq)]
        cases hrest : fields rest with
        | nil => exact absurd hrest (fields_ne_nil rest)
        | cons field others => rfl

/-- Up to the case of ASCII letters, the field is the name of the codec. -/
def Names (field : List Char) (codec : Codec) : Prop :=
  field.map Char.toLower = codec.name.toList.map Char.toLower

/-- Between blanks the field is a numeral, and its number fits 32 bits. -/
def Holds (field : List Char) (v : Int) : Prop :=
  ∃ before numeral after, field = before ++ numeral ++ after ∧
    (∀ c ∈ before ++ after, isBlank c = true) ∧ Numeral numeral v ∧ -2 ^ 31 ≤ v ∧ v < 2 ^ 31

/-- What a field gives for a parameter, where there is one. -/
def Gives : Option (List Char) → Int → Prop
  | none, v => v = notGiven
  | some field, v => Holds field v

/-! ## Texts that spell a method, and others -/

/-- The text between its colons is a name and at most two parameters. -/
structure Spells (text : String) (method : Method) : Prop where
  few : (text.toList.splitOn ':').length ≤ 3
  name : ∃ field, (text.toList.splitOn ':')[0]? = some field ∧ Names field method.codec
  level : Gives (text.toList.splitOn ':')[1]? method.level
  extra : Gives (text.toList.splitOn ':')[2]? method.extra

/-- The first field of a text that is not as it should be, with what is reported of it. -/
inductive Blames (text : String) : MethodFault → Prop where
  | name {field : List Char} (hfield : (text.toList.splitOn ':')[0]? = some field)
      (hfault : ∀ codec, ¬ Names field codec) : Blames text (.unknownName (String.ofList field))
  | level {name field : List Char} {codec : Codec} {cause : NumberFault}
      (hname : (text.toList.splitOn ':')[0]? = some name) (hcodec : Names name codec)
      (hfield : (text.toList.splitOn ':')[1]? = some field) (hfault : ∀ v, ¬ Holds field v)
      (hcause : readInt32 (trim field) = .error cause) :
      Blames text (.badLevel (String.ofList field) codec cause)
  | extra {name field : List Char} {codec : Codec} {level : Int} {cause : NumberFault}
      (hname : (text.toList.splitOn ':')[0]? = some name) (hcodec : Names name codec)
      (hlevel : Gives (text.toList.splitOn ':')[1]? level)
      (hfield : (text.toList.splitOn ':')[2]? = some field) (hfault : ∀ v, ¬ Holds field v)
      (hcause : readInt32 (trim field) = .error cause) :
      Blames text (.badExtra (String.ofList field) codec cause)
  | surplus {name : List Char} {codec : Codec} {level extra : Int}
      (hname : (text.toList.splitOn ':')[0]? = some name) (hcodec : Names name codec)
      (hlevel : Gives (text.toList.splitOn ':')[1]? level)
      (hextra : Gives (text.toList.splitOn ':')[2]? extra)
      (hfault : 3 < (text.toList.splitOn ':').length) : Blames text (.surplusField text)

/-! ## Reading one field -/

/-- Whether a codec is found depends on the letters of the name alone. -/
theorem ofName?_eq_some_iff (field : List Char) (codec : Codec) :
    Codec.ofName? (String.ofList field) = some codec ↔ Names field codec := by
  constructor
  · intro hfound
    have hsame := List.find?_some hfound
    simp only [Codec.sameLetters, beq_iff_eq, String.toList_ofList] at hsame
    exact hsame.symm
  · intro hnames
    have hsame (c : Codec) :
        Codec.sameLetters c.name (String.ofList field) = Codec.sameLetters c.name codec.name := by
      rw [Codec.sameLetters, Codec.sameLetters, String.toList_ofList, hnames]
    simp only [Codec.ofName?, hsame]
    exact Codec.ofName?_name codec

/-- A field is read as the number that it holds. -/
theorem number_eq_ok_iff (fault : NumberFault → MethodFault) (field : List Char) (v : Int) :
    number fault field = .ok v ↔ Holds field v := by
  have hread : number fault field = .ok v ↔ readInt32 (trim field) = .ok v := by
    rw [number]
    cases readInt32 (trim field) with
    | ok n =>
        change (Except.ok n : Except MethodFault Int) = .ok v ↔ _
        rw [Except.ok.injEq, Except.ok.injEq]
    | error cause => exact iff_of_false (fun hread => by cases hread) fun hread => by cases hread
  rw [hread, readInt32, readNumber_eq_ok_iff (by decide) (by decide)]
  constructor
  · rintro ⟨hnumeral, hrange⟩
    obtain ⟨before, after, hfield, hblank⟩ := exists_trim field
    exact ⟨before, trim field, after, hfield, hblank, hnumeral, by omega⟩
  · rintro ⟨before, numeral, after, rfl, hblank, hnumeral, hrange⟩
    rw [trim_eq hblank hnumeral.ne_nil hnumeral.isBlank_eq_false]
    exact ⟨hnumeral, by omega⟩

theorem number_of_fault (fault : NumberFault → MethodFault) {field : List Char}
    {cause : NumberFault} (hcause : readInt32 (trim field) = .error cause) :
    number fault field = .error (fault cause) := by
  rw [number, hcause]
  rfl

/-- A parameter is read from its field, where there is one. -/
def parameter (fault : List Char → NumberFault → MethodFault) :
    Option (List Char) → Except MethodFault Int
  | none => .ok notGiven
  | some field => number (fault field) field

theorem parameter_eq_ok_iff (fault : List Char → NumberFault → MethodFault)
    (field : Option (List Char)) (v : Int) : parameter fault field = .ok v ↔ Gives field v := by
  cases field with
  | none =>
      rw [parameter, Except.ok.injEq]
      exact eq_comm
  | some field => exact number_eq_ok_iff (fault field) field v

/-! ## Reading a text -/

/-- A text is read field by field, and only then its fields are counted. -/
theorem ofText?_eq {text : String} {name : List Char}
    (hname : (text.toList.splitOn ':')[0]? = some name) :
    ofText? text =
      match Codec.ofName? (String.ofList name) with
      | none => .error (.unknownName (String.ofList name))
      | some codec => do
          let level ← parameter (fun field => .badLevel (String.ofList field) codec)
            (text.toList.splitOn ':')[1]?
          let extra ← parameter (fun field => .badExtra (String.ofList field) codec)
            (text.toList.splitOn ':')[2]?
          if 3 < (text.toList.splitOn ':').length then throw (.surplusField text)
          return ⟨codec, level, extra⟩ := by
  rw [ofText?, fields_eq_splitOn]
  generalize text.toList.splitOn ':' = split at hname ⊢
  cases split with
  | nil => contradiction
  | cons first rest =>
      obtain rfl := Option.some.inj hname
      cases hcodec : Codec.ofName? (String.ofList first) with
      | none => simp only [List.headD_cons, hcodec]
      | some codec =>
          simp only [List.headD_cons, List.tail_cons, hcodec]
          match rest with
          | [] => rfl
          | [level] =>
              simp only [parameter, List.getElem?_cons_succ, List.getElem?_cons_zero]
              cases number _ level with
              | error fault => rfl
              | ok v => rfl
          | [level, extra] =>
              simp only [parameter, List.getElem?_cons_succ, List.getElem?_cons_zero]
              cases number _ level with
              | error fault => rfl
              | ok v => cases number _ extra <;> rfl
          | level :: extra :: surplus :: more =>
              have hmany : 3 < (first :: level :: extra :: surplus :: more).length := by simp
              simp only [parameter, List.getElem?_cons_succ, List.getElem?_cons_zero, if_pos hmany]
              cases number _ level with
              | error fault => rfl
              | ok v => cases number _ extra <;> rfl

/-- A text that spells a method is read as that method. -/
theorem ofText?_of_spells {text : String} {method : Method} (hspells : Spells text method) :
    ofText? text = .ok method := by
  obtain ⟨hfew, ⟨name, hname, hcodec⟩, hlevel, hextra⟩ := hspells
  rw [ofText?_eq hname, (ofName?_eq_some_iff name method.codec).mpr hcodec]
  simp only [(parameter_eq_ok_iff _ _ _).mpr hlevel, (parameter_eq_ok_iff _ _ _).mpr hextra,
    if_neg (Nat.not_lt_of_le hfew)]
  rfl

/-- A text with a field to blame is not read, and the fault is that of the field. -/
theorem ofText?_of_blames {text : String} {fault : MethodFault} (hblames : Blames text fault) :
    ofText? text = .error fault := by
  cases hblames with
  | @name field hname hfault =>
      have hnone : Codec.ofName? (String.ofList field) = none :=
        Option.eq_none_iff_forall_ne_some.mpr fun codec hsome =>
          hfault codec ((ofName?_eq_some_iff field codec).mp hsome)
      rw [ofText?_eq hname, hnone]
  | level hname hcodec hfield _ hcause =>
      rw [ofText?_eq hname, (ofName?_eq_some_iff _ _).mpr hcodec, hfield]
      simp only [parameter, number_of_fault _ hcause]
      rfl
  | extra hname hcodec hlevel hfield _ hcause =>
      rw [ofText?_eq hname, (ofName?_eq_some_iff _ _).mpr hcodec, hfield]
      simp only [(parameter_eq_ok_iff _ _ _).mpr hlevel]
      simp only [parameter, number_of_fault _ hcause]
      rfl
  | surplus hname hcodec hlevel hextra hfault =>
      rw [ofText?_eq hname, (ofName?_eq_some_iff _ _).mpr hcodec]
      simp only [(parameter_eq_ok_iff _ _ _).mpr hlevel, (parameter_eq_ok_iff _ _ _).mpr hextra,
        if_pos hfault]
      rfl

/-- A field that holds no number of 32 bits is refused for a cause. -/
theorem exists_cause {field : List Char} (hfault : ∀ v, ¬ Holds field v) :
    ∃ cause, readInt32 (trim field) = .error cause := by
  cases hread : readInt32 (trim field) with
  | error cause => exact ⟨cause, rfl⟩
  | ok v =>
      refine absurd ((number_eq_ok_iff (fun _ => .surplusField "") field v).mp ?_) (hfault v)
      rw [number, hread]
      rfl

/-- A parameter is given, or its field is there and holds none. -/
theorem gives_or_fault (field? : Option (List Char)) :
    (∃ v, Gives field? v) ∨ ∃ field, field? = some field ∧ ∀ v, ¬ Holds field v := by
  cases field? with
  | none => exact .inl ⟨notGiven, rfl⟩
  | some field =>
      by_cases hholds : ∃ v, Holds field v
      · exact .inl hholds
      · exact .inr ⟨field, rfl, not_exists.mp hholds⟩

/-- Every text spells a method, or there is a field to blame. -/
theorem spells_or_blames (text : String) :
    (∃ method, Spells text method) ∨ ∃ fault, Blames text fault := by
  obtain ⟨name, hname⟩ : ∃ name, (text.toList.splitOn ':')[0]? = some name := by
    rw [← fields_eq_splitOn]
    exact ⟨_, List.getElem?_eq_getElem (List.length_pos_iff.mpr (fields_ne_nil _))⟩
  by_cases hcodec : ∃ codec, Names name codec
  · obtain ⟨codec, hcodec⟩ := hcodec
    obtain ⟨level, hlevel⟩ | ⟨field, hfield, hfault⟩ :=
      gives_or_fault (text.toList.splitOn ':')[1]?
    · obtain ⟨extra, hextra⟩ | ⟨field, hfield, hfault⟩ :=
        gives_or_fault (text.toList.splitOn ':')[2]?
      · by_cases hfew : (text.toList.splitOn ':').length ≤ 3
        · exact .inl ⟨⟨codec, level, extra⟩, hfew, ⟨name, hname, hcodec⟩, hlevel, hextra⟩
        · exact .inr ⟨_, .surplus hname hcodec hlevel hextra (Nat.lt_of_not_le hfew)⟩
      · obtain ⟨cause, hcause⟩ := exists_cause hfault
        exact .inr ⟨_, .extra hname hcodec hlevel hfield hfault hcause⟩
    · obtain ⟨cause, hcause⟩ := exists_cause hfault
      exact .inr ⟨_, .level hname hcodec hfield hfault hcause⟩
  · exact .inr ⟨_, .name hname (not_exists.mp hcodec)⟩

/-! ## Written methods -/

theorem Names.colon_not_mem {name : List Char} {codec : Codec} (hnames : Names name codec) :
    ':' ∉ name := by
  intro hmem
  have hlower : ':' ∈ name.map Char.toLower := List.mem_map.mpr ⟨':', hmem, rfl⟩
  rw [hnames] at hlower
  exact absurd hlower (by cases codec <;> decide)

theorem Holds.colon_not_mem {field : List Char} {v : Int} (hholds : Holds field v) :
    ':' ∉ field := by
  obtain ⟨before, numeral, after, rfl, hblank, hnumeral, -⟩ := hholds
  intro hmem
  rw [List.append_assoc, List.mem_append, List.mem_append] at hmem
  obtain hbefore | hcore | hafter := hmem
  · exact absurd (hblank _ (List.mem_append_left _ hbefore)) (by decide)
  · exact hnumeral.colon_not_mem hcore
  · exact absurd (hblank _ (List.mem_append_right _ hafter)) (by decide)

/-- The fields with colons between them. -/
def written (fields : List (List Char)) : String := String.ofList ([':'].intercalate fields)

/-- Fields that name a codec and hold two numbers are written as a spelling of their method. -/
theorem spells_written {name level extra : List Char} {method : Method}
    (hname : Names name method.codec) (hlevel : Holds level method.level)
    (hextra : Holds extra method.extra) : Spells (written [name, level, extra]) method := by
  have hclean : ∀ field ∈ [name, level, extra], ':' ∉ field := by
    simp only [List.forall_mem_cons]
    exact ⟨hname.colon_not_mem, hlevel.colon_not_mem, hextra.colon_not_mem,
      fun _ hnone => absurd hnone List.not_mem_nil⟩
  have hsplit : (written [name, level, extra]).toList.splitOn ':' = [name, level, extra] := by
    rw [written, String.toList_ofList, List.splitOn_intercalate ':' hclean (List.cons_ne_nil _ _)]
  constructor <;> rw [hsplit]
  · exact Nat.le_refl 3
  · exact ⟨name, rfl, hname⟩
  · exact hlevel
  · exact hextra

/-- A number of 32 bits is held by the field that it is printed in, with blanks around. -/
theorem holds_toString {before after : List Char} {v : Int}
    (hblank : ∀ c ∈ before ++ after, isBlank c = true) (hrange : -2 ^ 31 ≤ v ∧ v < 2 ^ 31) :
    Holds (before ++ (toString v).toList ++ after) v :=
  ⟨before, (toString v).toList, after, rfl, hblank, numeral_toString v, hrange⟩

/-- A method is read from the texts that spell it, any other text has a field to blame, which is
the leftmost, and a printed method is read back whatever the letter case and the blanks. -/
theorem read_iff_spells :
    (∀ text method, ofText? text = .ok method ↔ Spells text method) ∧
    (∀ text fault, ofText? text = .error fault ↔ Blames text fault) ∧
    ∀ (codec : Codec) (level extra : Int) (name before₁ after₁ before₂ after₂ : List Char),
      Names name codec → -2 ^ 31 ≤ level ∧ level < 2 ^ 31 → -2 ^ 31 ≤ extra ∧ extra < 2 ^ 31 →
      (∀ c ∈ before₁ ++ after₁ ++ (before₂ ++ after₂), isBlank c = true) →
      ofText? (written [name, before₁ ++ (toString level).toList ++ after₁,
        before₂ ++ (toString extra).toList ++ after₂]) = .ok ⟨codec, level, extra⟩ := by
  refine ⟨fun text method => ⟨fun hread => ?_, ofText?_of_spells⟩,
    fun text fault => ⟨fun hread => ?_, ofText?_of_blames⟩, ?_⟩
  · obtain ⟨other, hspells⟩ | ⟨fault, hblames⟩ := spells_or_blames text
    · cases hread.symm.trans (ofText?_of_spells hspells)
      exact hspells
    · cases hread.symm.trans (ofText?_of_blames hblames)
  · obtain ⟨method, hspells⟩ | ⟨other, hblames⟩ := spells_or_blames text
    · cases hread.symm.trans (ofText?_of_spells hspells)
    · cases hread.symm.trans (ofText?_of_blames hblames)
      exact hblames
  · intro codec level extra name before₁ after₁ before₂ after₂ hname hlevel hextra hblank
    obtain ⟨hblank₁, hblank₂⟩ := List.forall_mem_append.mp hblank
    exact ofText?_of_spells
      (spells_written hname (holds_toString hblank₁ hlevel) (holds_toString hblank₂ hextra))

theorem read_zlib_in_blanks :
    ofText? "zLiB: 6\t:\u2003-2147483648" = .ok ⟨.zlib, 6, -2147483648⟩ := by
  have htext : "zLiB: 6\t:\u2003-2147483648" =
      written ["zLiB".toList, [' '] ++ (toString (6 : Int)).toList ++ ['\t'],
        ['\u2003'] ++ (toString (-2147483648 : Int)).toList ++ []] := by decide +kernel
  rw [htext]
  exact read_iff_spells.2.2 .zlib 6 (-2147483648) "zLiB".toList [' '] ['\t'] ['\u2003'] []
    (by unfold Names; decide) (by decide) (by decide) (List.all_eq_true.mp (by decide))

end Method
end RoundTrip
