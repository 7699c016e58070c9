import RoundTrip.Proofs.CommandReading
import RoundTrip.Proofs.CompletedWords
import RoundTrip.Proofs.Numerals

/-!
# The word of the verbosity

The letter of the verbosity has its level behind it in the same word.  A bare
`-v` is completed and means level one.  At the end of a cluster the letter stays
bare, and takes the level from the next word.  In all three cases the words that
are left mean what they would mean without it.
-/

namespace RoundTrip

/-- The options with this level. -/
def Options.withLevel (level : Option Nat) (options : Options) : Options :=
  { options with verbosity := level }

namespace CommandLine

/-! ## Levels as they are written -/

/-- The word is the text of a numeral, of a number of 32 bits without a sign. -/
def SpellsLevel (word : Word) (level : Nat) : Prop :=
  ∃ text, Text.utf8Text? word = some text ∧ Text.Numeral text.toList level ∧ level < 0x100000000

theorem textValue_eq_ok_iff {word : Word} {text : String} :
    textValue word = .ok text ↔ Text.utf8Text? word = some text := by
  rw [textValue]
  cases Text.utf8Text? word with
  | none => exact ⟨nofun, nofun⟩
  | some other => rw [Except.ok.injEq, Option.some.injEq]

theorem numberValue_eq_ok_iff {argument : Argument}
    {read : List Char → Except Text.NumberFault Int} {word : Word} {n : Int} :
    numberValue argument read word = .ok n ↔
      ∃ text, Text.utf8Text? word = some text ∧ read text.toList = .ok n := by
  rw [numberValue, bind_eq_ok_iff]
  refine exists_congr fun text => and_congr textValue_eq_ok_iff ?_
  cases read text.toList with
  | ok m =>
      change (Except.ok m : Except Refusal Int) = .ok n ↔ _
      rw [Except.ok.injEq, Except.ok.injEq]
  | error fault => exact ⟨nofun, nofun⟩

theorem word32Value_eq_ok_iff {argument : Argument} {word : Word} {level : Nat} :
    word32Value argument word = .ok level ↔ SpellsLevel word level := by
  have hread (text : String) (n : Int) : Text.readInt64 text.toList = .ok n ↔
      Text.Numeral text.toList n ∧ -0x8000000000000000 ≤ n ∧ n ≤ 0x7FFFFFFFFFFFFFFF :=
    Text.readNumber_eq_ok_iff (by decide) (by decide) _ _
  rw [word32Value, bind_eq_ok_iff]
  constructor
  · rintro ⟨n, hn, hlevel⟩
    obtain ⟨text, htext, hnumeral⟩ := numberValue_eq_ok_iff.mp hn
    split at hlevel
    · cases hlevel
      refine ⟨text, htext, ?_, by omega⟩
      rw [Int.toNat_of_nonneg (by omega)]
      exact ((hread text n).mp hnumeral).1
    · obtain ⟨_, -, hfault⟩ := bind_eq_ok_iff.mp hlevel
      cases hfault
  · rintro ⟨text, htext, hnumeral, hsmall⟩
    have hn : Text.readInt64 text.toList = .ok level := (hread text level).mpr ⟨hnumeral, by omega⟩
    refine ⟨level, numberValue_eq_ok_iff.mpr ⟨text, htext, hn⟩, ?_⟩
    rw [if_pos (by omega)]
    rfl

/-- A word spells one level only. -/
theorem SpellsLevel.unique {word : Word} {level other : Nat} (hlevel : SpellsLevel word level)
    (hother : SpellsLevel word other) : level = other := by
  have hread : word32Value (.valued .verbosity) word = .ok level :=
    word32Value_eq_ok_iff.mpr hlevel
  exact Except.ok.inj (hread.symm.trans (word32Value_eq_ok_iff.mpr hother))

theorem spellsLevel_one : SpellsLevel (ascii "1") 1 :=
  ⟨toString (1 : Int), by decide +kernel, Text.numeral_toString 1, by decide⟩

/-! ## Arguments apart from the level -/

/-- No other argument depends on the level or changes it. -/
theorem store_withLevel {valued : Valued} (hother : valued ≠ .verbosity) (level : Option Nat)
    (options : Options) (word : Word) :
    store (options.withLevel level) valued word =
      (store options valued word).map (Options.withLevel level) := by
  cases valued with
  | verbosity => contradiction
  | method =>
      simp only [store]
      cases textValue word with
      | error refusal => rfl
      | ok text =>
          dsimp only [bind, Except.bind]
          cases Method.ofText? text <;> rfl
  | iterations =>
      simp only [store]
      cases word32Value (.valued .iterations) word <;> rfl
  | memory =>
      simp only [store]
      cases numberValue (.valued .memory) _ word <;> rfl
  | libraryDir =>
      simp only [store]
      cases textValue word <;> rfl
  | label =>
      simp only [store]
      cases textValue word <;> rfl

theorem raise_withLevel (level : Option Nat) (options : Options) (flag : Flag) :
    raise (options.withLevel level) flag = (raise options flag).map (Options.withLevel level) := by
  cases flag <;> rfl

theorem store_verbosity_eq_ok_iff {options stored : Options} {word : Word} :
    store options .verbosity word = .ok stored ↔
      ∃ level, SpellsLevel word level ∧ stored = options.withLevel (some level) := by
  rw [store, bind_eq_ok_iff]
  refine exists_congr fun level => and_congr word32Value_eq_ok_iff ⟨fun heq => ?_, fun heq => ?_⟩
  · cases heq
    rfl
  · rw [heq]
    rfl

/-- What does not depend on the level does not change it. -/
theorem verbosity_of_withLevel (change : Options → Except Refusal Options)
    (hchange : ∀ level options, change (options.withLevel level) =
      (change options).map (Options.withLevel level))
    {options changed : Options} (hchanged : change options = .ok changed) :
    changed.verbosity = options.verbosity := by
  have hsame : change options = (change options).map (Options.withLevel options.verbosity) :=
    hchange options.verbosity options
  rw [hchanged] at hsame
  change Except.ok changed = Except.ok (changed.withLevel options.verbosity) at hsame
  exact (congrArg Options.verbosity (Except.ok.inj hsame) :)

/-! ## Runs with a level and without -/

/-- The run to which no level was given. -/
def unlevelled (p : Progress) : Progress :=
  { p with
    options := p.options.withLevel none
    given := p.given.filter (· ≠ .valued .verbosity) }

theorem mem_unlevelled {argument : Argument} (hother : argument ≠ .valued .verbosity)
    (p : Progress) : argument ∈ (unlevelled p).given ↔ argument ∈ p.given := by
  simp [unlevelled, hother]

/-- One run was given the level and the other one was not, and apart from that they agree. -/
def Apart (level : Nat) (p p' : Progress) : Prop :=
  p' = unlevelled p ∧ .valued .verbosity ∈ p.given ∧ p.options.verbosity = some level

/-- Runs that are apart by a level stay so, as no second level is taken. -/
theorem kept_apart (level : Nat) : Kept (fun _ => True) (Apart level) where
  long _ := trivial
  operandsOnly := by
    rintro p _ ⟨rfl, -⟩
    rfl
  inputMet := by
    rintro p _ ⟨rfl, -⟩
    rfl
  pending := by
    rintro p _ ⟨rfl, -⟩
    rfl
  begun _ _ _ := trivial
  begin := by
    rintro p _ ⟨rfl, hgiven, hlevel⟩ pending -
    exact ⟨rfl, hgiven, hlevel⟩
  meet := by
    rintro p _ ⟨rfl, hgiven, hlevel⟩
    exact ⟨rfl, hgiven, hlevel⟩
  input := by
    rintro p _ ⟨rfl, hgiven, hlevel⟩ word
    exact ⟨rfl, List.mem_cons_of_mem _ hgiven, hlevel⟩
  raised flag := by
    rintro p _ q ⟨rfl, hgiven, hlevel⟩ hraised
    obtain ⟨hnew, options, hraise, rfl⟩ := raised_eq_ok_iff.mp hraised
    have hflag : Argument.flag flag ≠ .valued .verbosity := nofun
    refine ⟨_, raised_eq_ok_iff.mpr ⟨(not_congr (mem_unlevelled hflag p)).mpr hnew,
      options.withLevel none, ?_, rfl⟩, rfl, List.mem_cons_of_mem _ hgiven, ?_⟩
    · rw [unlevelled, raise_withLevel, hraise]
      rfl
    · exact (verbosity_of_withLevel (raise · flag) (raise_withLevel · · flag) hraise).trans hlevel
  assign {valued} _ word := by
    rintro p _ q ⟨rfl, hgiven, hlevel⟩ hassign
    obtain ⟨hnew, options, hstore, rfl⟩ := assign_eq_ok_iff.mp hassign
    have hother : valued ≠ .verbosity := fun heq => hnew (heq ▸ hgiven)
    have hvalued : Argument.valued valued ≠ .valued .verbosity :=
      fun heq => hother (Argument.valued.inj heq)
    have hfilter : (Argument.valued valued :: p.given).filter (· ≠ .valued .verbosity) =
        .valued valued :: p.given.filter (· ≠ .valued .verbosity) :=
      List.filter_cons_of_pos (decide_eq_true hvalued)
    refine ⟨_, assign_eq_ok_iff.mpr ⟨(not_congr (mem_unlevelled hvalued p)).mpr hnew,
      options.withLevel none, ?_, rfl⟩, ?_, List.mem_cons_of_mem _ hgiven, ?_⟩
    · rw [unlevelled, store_withLevel hother, hstore]
      rfl
    · simp only [unlevelled, hfilter]
    · exact (verbosity_of_withLevel (store · valued word) (store_withLevel hother · · word)
        hstore).trans hlevel

/-- The options have not ended, and a level in them was given. -/
structure Open (p : Progress) : Prop where
  operandsOnly : p.operandsOnly = false
  level : .valued .verbosity ∉ p.given → p.options.verbosity = none

theorem open_start : Open .start := ⟨rfl, fun _ => rfl⟩

theorem upheld_open : Upheld (fun _ => True) Open where
  long _ := trivial
  begun _ _ _ := trivial
  begin hopen _ _ := ⟨hopen.operandsOnly, hopen.level⟩
  meet hopen := ⟨hopen.operandsOnly, hopen.level⟩
  input hopen _ := ⟨hopen.operandsOnly,
    fun hnew => hopen.level fun hgiven => hnew (List.mem_cons_of_mem _ hgiven)⟩
  raised flag {p q} hopen hraised := by
    obtain ⟨-, options, hraise, rfl⟩ := raised_eq_ok_iff.mp hraised
    refine ⟨hopen.operandsOnly, fun hnew => ?_⟩
    rw [verbosity_of_withLevel (raise · flag) (raise_withLevel · · flag) hraise]
    exact hopen.level fun hgiven => hnew (List.mem_cons_of_mem _ hgiven)
  assign {valued} _ word {p q} hopen hassign := by
    obtain ⟨-, options, hstore, rfl⟩ := assign_eq_ok_iff.mp hassign
    refine ⟨hopen.operandsOnly, fun hnew => ?_⟩
    have hother : valued ≠ .verbosity := fun heq => hnew (heq ▸ List.mem_cons_self)
    rw [verbosity_of_withLevel (store · valued word) (store_withLevel hother · · word) hstore]
    exact hopen.level fun hgiven => hnew (List.mem_cons_of_mem _ hgiven)

/-- No level was given and none is waited for. -/
structure Silent (p : Progress) : Prop where
  level : p.options.verbosity = none
  pending : p.pending.valued? ≠ some .verbosity

theorem silent_start : Silent .start := ⟨rfl, nofun⟩

theorem upheld_silent : Upheld (· ≠ .verbosity) Silent where
  long {name valued} hname := by
    rintro rfl
    grind [Argument.ofLongName?]
  begun := by
    rintro p hsilent valued hbegun rfl
    exact hsilent.pending hbegun
  begin hsilent _ hallowed := ⟨hsilent.level, fun hbegun => hallowed _ hbegun rfl⟩
  meet hsilent := ⟨hsilent.level, hsilent.pending⟩
  input hsilent _ := ⟨hsilent.level, nofun⟩
  raised flag {p q} hsilent hraised := by
    obtain ⟨-, options, hraise, rfl⟩ := raised_eq_ok_iff.mp hraised
    refine ⟨?_, hsilent.pending⟩
    exact (verbosity_of_withLevel (raise · flag) (raise_withLevel · · flag) hraise).trans
      hsilent.level
  assign {valued} hother word {p q} hsilent hassign := by
    obtain ⟨-, options, hstore, rfl⟩ := assign_eq_ok_iff.mp hassign
    refine ⟨?_, nofun⟩
    exact (verbosity_of_withLevel (store · valued word) (store_withLevel hother · · word)
      hstore).trans hsilent.level

/-! ## The last check -/

theorem check_eq_ok {p : Progress} {options : Options} (hcheck : check p = .ok options) :
    options = p.options := by
  rw [check] at hcheck
  split at hcheck
  · contradiction
  · split at hcheck
    · contradiction
    · exact (Except.ok.inj hcheck).symm

/-- The level has no part in the last check. -/
theorem check_unlevelled (p : Progress) :
    check (unlevelled p) = (check p).map (Options.withLevel none) := by
  have hgiven : (unlevelled p).given.reverse.filter
      (fun a => a = .flag .all || a = .valued .method) =
        p.given.reverse.filter fun a => a = .flag .all || a = .valued .method := by
    rw [unlevelled, ← List.filter_reverse, List.filter_filter]
    refine List.filter_congr fun argument _ => ?_
    by_cases hlevel : argument = .valued .verbosity
    · subst hlevel
      rfl
    · simp only [ne_eq, hlevel, not_false_iff, decide_true, Bool.and_true]
  simp only [check, hgiven]
  split
  · rfl
  · change (if p.options.input.isNone && !p.options.list then _ else _) = _
    split <;> rfl

/-! ## The letter in its word -/

/-- The letter of the verbosity. -/
def verbosityLetter : UInt8 := 0x76

/-- A hyphen, letters of flags, the letter of the verbosity, and what follows it in its word. -/
def cluster (flags value : Word) : Word := hyphen :: (flags ++ verbosityLetter :: value)

/-- The word of the flags, if there are any. -/
def bundle (flags : Word) : List Word := if flags.isEmpty then [] else [hyphen :: flags]

theorem ofLetter?_verbosityLetter :
    Argument.ofLetter? verbosityLetter = some (.valued .verbosity) := by decide

theorem IsFlag.ne_hyphen {letter : UInt8} (hflag : IsFlag letter) : letter ≠ hyphen := by
  rintro rfl
  obtain ⟨flag, hflag⟩ := hflag
  have hnone : Argument.ofLetter? hyphen = none := by decide
  cases hnone.symm.trans hflag

theorem IsFlag.ne_verbosityLetter {letter : UInt8} (hflag : IsFlag letter) :
    letter ≠ verbosityLetter := by
  rintro rfl
  obtain ⟨flag, hflag⟩ := hflag
  cases ofLetter?_verbosityLetter.symm.trans hflag

section Cluster

variable {p : Progress} {flags : Word} (hflags : ∀ flag ∈ flags, IsFlag flag)
include hflags

/-- Flags are raised one after another, before the letters behind them are read. -/
theorem takeLetters_append (letters : Word) :
    takeLetters p (flags ++ letters) = takeLetters p flags >>= fun q => takeLetters q letters := by
  induction flags generalizing p with
  | nil => rfl
  | cons letter rest ih =>
      obtain ⟨⟨flag, hflag⟩, hrest⟩ := List.forall_mem_cons.mp hflags
      simp only [List.cons_append, takeLetters, hflag, bind_assoc, ih hrest]

theorem takeWord_cluster (hopen : p.operandsOnly = false) (value : Word) :
    takeWord p (cluster flags value) =
      takeLetters p flags >>= fun q => takeValued q .verbosity (attached value) := by
  have hletters := takeLetters_append hflags (p := p) (verbosityLetter :: value)
  have hlevel (q : Progress) : takeLetters q (verbosityLetter :: value) =
      takeValued q .verbosity (attached value) := by
    rw [takeLetters, ofLetter?_verbosityLetter]
  simp only [hlevel] at hletters
  rw [← hletters, cluster]
  cases flags with
  | nil => exact takeWord_letters hopen (by decide) value
  | cons letter rest =>
      exact takeWord_letters hopen (hflags letter List.mem_cons_self).ne_hyphen _

theorem finish_bundle (hopen : p.operandsOnly = false) (words : List Word) :
    finish p (bundle flags ++ words) = takeLetters p flags >>= fun q => finish q words := by
  cases flags with
  | nil => rfl
  | cons letter rest =>
      change finish p ((hyphen :: letter :: rest) :: words) = _
      rw [finish_cons, takeWord_letters hopen (hflags letter List.mem_cons_self).ne_hyphen]

end Cluster

/-- Once a level is put in, it is that of the options, and the rest is read as without it. -/
theorem finish_of_assign {r q : Progress} {word : Word} (hnothing : r.pending = .nothing)
    (hopen : Open r) (hassign : assign r .verbosity word = .ok q) {words : List Word}
    {options : Options} (hfinish : finish q words = .ok options) :
    ∃ level, SpellsLevel word level ∧ options.verbosity = some level ∧
      finish r words = .ok (options.withLevel none) := by
  obtain ⟨hnew, stored, hstore, rfl⟩ := assign_eq_ok_iff.mp hassign
  obtain ⟨level, hlevel, rfl⟩ := store_verbosity_eq_ok_iff.mp hstore
  have hapart : Apart level { r with
      options := r.options.withLevel (some level)
      given := .valued .verbosity :: r.given
      pending := .nothing } r := by
    refine ⟨?_, List.mem_cons_self, rfl⟩
    have hfilter : (.valued .verbosity :: r.given).filter (· ≠ .valued .verbosity) = r.given := by
      rw [List.filter_cons_of_neg (by decide), List.filter_eq_self]
      exact fun argument hargument => decide_eq_true fun heq => hnew (heq ▸ hargument)
    calc r = { r with options := r.options.withLevel none, pending := .nothing } := by
          rw [← hopen.level hnew, ← hnothing]
          rfl
      _ = _ := by
          rw [unlevelled, hfilter]
          rfl
  obtain ⟨e, _, ⟨rfl, -, hverbosity⟩, hcheck, hwithout⟩ :=
    (kept_apart level).finish (fun ⟨hsame, hgiven, hlevel⟩ => ⟨by rw [hsame]; rfl, hgiven, hlevel⟩)
      hapart (.inr fun _ _ => trivial) hfinish
  refine ⟨level, hlevel, ?_, ?_⟩
  · rw [check_eq_ok hcheck]
    exact hverbosity
  · rw [hwithout, check_unlevelled, hcheck]
    rfl

theorem eq_verbosityLetter {letter : UInt8}
    (hletter : Argument.ofLetter? letter = some (.valued .verbosity)) :
    letter = verbosityLetter := by
  have hall : ∀ code : Fin 256, Argument.ofLetter? (.ofFin code) = some (.valued .verbosity) →
      UInt8.ofFin code = verbosityLetter := by decide +kernel
  exact hall letter.toFin hletter

section Level

variable {before : List Word} (hbefore : endOfOptions ∉ before) {flags : Word}
  (hflags : ∀ flag ∈ flags, IsFlag flag) {value : Word} {after : List Word} {options : Options}
  (hfinish : finish .start (before ++ cluster flags value :: after) = .ok options)
include hbefore hflags hfinish

/-- Before the level all that stands before its letter is settled, and from there the rest is read
as it is without the letter. -/
theorem exists_settled : ∃ r s, Open r ∧ r.pending = .nothing ∧
    given .verbosity (attached value) r = .ok s ∧ finish s after = .ok options ∧
      ∀ words, finish .start (before ++ (bundle flags ++ words)) = finish r words := by
  rw [finish_append] at hfinish
  obtain ⟨p, hp, hfinish⟩ := bind_eq_ok_iff.mp hfinish
  obtain ⟨_, -, -, hopen⟩ := upheld_open.kept.foldlM (fun hmem => absurd hmem hbefore)
    ⟨rfl, open_start⟩ (.inr fun _ _ => trivial) hp
  rw [finish_cons, takeWord_cluster hflags hopen.operandsOnly] at hfinish
  obtain ⟨s, hs, hfinish⟩ := bind_eq_ok_iff.mp hfinish
  obtain ⟨q, hq, hs⟩ := bind_eq_ok_iff.mp hs
  rw [takeValued_eq] at hs
  obtain ⟨r, hr, hs⟩ := bind_eq_ok_iff.mp hs
  have hsame (words : List Word) :
      finish .start (before ++ (bundle flags ++ words)) = finish r words := by
    rw [finish_append, hp, ← finish_of_settle hr]
    change finish p (bundle flags ++ words) = _
    rw [finish_bundle hflags hopen.operandsOnly, hq]
    rfl
  obtain ⟨_, -, -, hopen⟩ := upheld_open.kept.takeLetters (fun _ _ => trivial) ⟨rfl, hopen⟩ hq
  obtain ⟨_, -, -, hopen⟩ := upheld_open.kept.settle ⟨rfl, hopen⟩ hr
  exact ⟨r, s, hopen, (settle_eq_ok hr).1, hs, hfinish, hsame⟩

/-- What follows the letter in its word is the level, and without both the rest is the same. -/
theorem level_attached {word : Word} (hvalue : attached value = some word) :
    ∃ level, SpellsLevel word level ∧ options.verbosity = some level ∧
      finish .start (before ++ (bundle flags ++ after)) = .ok (options.withLevel none) := by
  obtain ⟨r, s, hopen, hnothing, hs, hfinish, hsame⟩ := exists_settled hbefore hflags hfinish
  rw [hvalue] at hs
  rw [hsame]
  exact finish_of_assign hnothing hopen hs hfinish

/-- Where nothing follows the letter, the level is the next word, which begins no option. -/
theorem level_detached (hvalue : attached value = none) :
    ∃ next rest, after = next :: rest ∧ Plain next ∧
      ∃ level, SpellsLevel next level ∧ options.verbosity = some level ∧
        finish .start (before ++ (bundle flags ++ rest)) = .ok (options.withLevel none) := by
  obtain ⟨r, s, hopen, hnothing, hs, hfinish, hsame⟩ := exists_settled hbefore hflags hfinish
  rw [hvalue] at hs
  cases hs
  obtain ⟨next, rest, rfl, -, hplain, hfinish⟩ := exists_value_of_awaiting rfl hfinish
  obtain ⟨t, ht⟩ := exists_settle_of_finish (fun _ hawaiting => by cases hawaiting) hfinish
  rw [finish_of_settle ht] at hfinish
  refine ⟨next, rest, rfl, hplain, ?_⟩
  rw [hsame]
  exact finish_of_assign hnothing hopen ht hfinish

end Level

/-! ## Completed command lines -/

theorem parse_of_ended (words : List Word) :
    parse (endOfOptions :: words) = finish .start words := by
  rw [parse, attachVerbosity_of_ended]
  rfl

theorem parse_of_open {program : Word} (hopen : program ≠ endOfOptions) (words : List Word) :
    parse (program :: words) = finish .start (attachVerbosity words) := by
  rw [parse, attachVerbosity_cons hopen]
  rfl

theorem cluster_ne_endOfOptions {flags : Word} (hflags : ∀ flag ∈ flags, IsFlag flag)
    (value : Word) : cluster flags value ≠ endOfOptions := by
  intro heq
  obtain ⟨-, hrest⟩ := List.cons.inj heq
  cases flags with
  | nil => exact absurd (List.cons.inj hrest).1 (by decide)
  | cons letter rest =>
      exact (hflags letter List.mem_cons_self).ne_hyphen (List.cons.inj hrest).1

theorem cluster_eq_bare_iff {flags value : Word} :
    cluster flags value = ascii "-v" ↔ flags = [] ∧ value = [] := by
  constructor
  · intro heq
    have hlength : flags.length + (value.length + 1) + 1 = 2 := by
      rw [← List.length_cons, ← List.length_append, ← List.length_cons]
      exact congrArg List.length heq
    exact ⟨List.eq_nil_of_length_eq_zero (by omega), List.eq_nil_of_length_eq_zero (by omega)⟩
  · rintro ⟨rfl, rfl⟩
    rfl

/-- Only the letter by itself is completed. -/
theorem completed_cluster (flags value : Word) :
    completed (cluster flags value) =
      if flags = [] ∧ value = [] then cluster [] (ascii "1") else cluster flags value := by
  simp only [completed, cluster_eq_bare_iff]
  rfl

theorem attachVerbosity_cluster {before : List Word} (hbefore : endOfOptions ∉ before)
    {flags : Word} (hflags : ∀ flag ∈ flags, IsFlag flag) (value : Word) (after : List Word) :
    attachVerbosity (before ++ cluster flags value :: after) =
      attachVerbosity before ++ completed (cluster flags value) :: attachVerbosity after := by
  rw [attachVerbosity_append, if_neg hbefore,
    attachVerbosity_cons (cluster_ne_endOfOptions hflags value)]

theorem attachVerbosity_bundle {flags : Word} (hflags : ∀ flag ∈ flags, IsFlag flag)
    (words : List Word) :
    attachVerbosity (bundle flags ++ words) = bundle flags ++ attachVerbosity words := by
  cases flags with
  | nil => rfl
  | cons letter rest =>
      have hflag := hflags letter List.mem_cons_self
      have hopen : hyphen :: letter :: rest ≠ endOfOptions := fun heq =>
        hflag.ne_hyphen (List.cons.inj (List.cons.inj heq).2).1
      have hbare : hyphen :: letter :: rest ≠ ascii "-v" := fun heq =>
        hflag.ne_verbosityLetter (List.cons.inj (List.cons.inj heq).2).1
      change attachVerbosity ((hyphen :: letter :: rest) :: words) = _
      rw [attachVerbosity_cons hopen, completed, if_neg hbare]
      rfl

/-- A word that begins no option stands for itself. -/
theorem exists_of_plain {words : List Word} {next : Word} {rest : List Word}
    (heq : attachVerbosity words = next :: rest) (hplain : Plain next) :
    ∃ back, words = next :: back ∧ rest = attachVerbosity back := by
  cases words with
  | nil => contradiction
  | cons word back =>
      by_cases hended : word = endOfOptions
      · subst hended
        rw [attachVerbosity_of_ended] at heq
        exact absurd (List.cons.inj heq).1.symm (hplain hyphen [])
      · rw [attachVerbosity_cons hended, completed] at heq
        obtain ⟨hnext, hrest⟩ := List.cons.inj heq
        split at hnext
        · exact absurd hnext.symm (hplain verbosityLetter (ascii "1"))
        · exact ⟨back, by rw [hnext], hrest.symm⟩

theorem attached_eq_none_iff {value : Word} : attached value = none ↔ value = [] := by
  cases value with
  | nil => exact ⟨fun _ => rfl, fun _ => rfl⟩
  | cons byte rest => exact ⟨nofun, nofun⟩

/-! ## Where a level comes from -/

/-- A command line with the letter of the verbosity in it: in a word before the end of the options,
and behind letters of flags only. -/
structure Mention where
  program : Word
  before : List Word
  flags : Word
  value : Word
  after : List Word
  options_open : endOfOptions ∉ before
  flags_only : ∀ flag ∈ flags, IsFlag flag

namespace Mention

def words (m : Mention) : List Word := m.program :: (m.before ++ cluster m.flags m.value :: m.after)

/-- The command line without the letter and what follows it in its word. -/
def without (m : Mention) : List Word := m.program :: (m.before ++ (bundle m.flags ++ m.after))

/-- The level that is meant by the letter, and the command line that is left without both. -/
inductive Source (m : Mention) : Nat → List Word → Prop where
  /-- What follows in the word is the level. -/
  | attached {word : Word} {level : Nat} (hvalue : attached m.value = some word)
      (hlevel : SpellsLevel word level) : Source m level m.without
  /-- A bare `-v` means level one. -/
  | bare (hvalue : m.value = []) (hflags : m.flags = []) (hprogram : m.program ≠ endOfOptions) :
      Source m 1 m.without
  /-- At the end of a cluster, or if the program's own name ends the options, the letter stays bare,
  and the next word is the level. -/
  | next {word : Word} {rest : List Word} {level : Nat} (hvalue : m.value = [])
      (hbare : m.flags ≠ [] ∨ m.program = endOfOptions) (hafter : m.after = word :: rest)
      (hplain : Plain word) (hlevel : SpellsLevel word level) :
      Source m level { m with after := rest }.without

variable {m : Mention} {options : Options}

/-- The letter is read where it stands, and everything else as it would be without it. -/
theorem exists_source (hparse : parse m.words = .ok options) :
    ∃ level rest, m.Source level rest ∧ options.verbosity = some level ∧
      parse rest = .ok (options.withLevel none) := by
  obtain ⟨program, before, flags, value, after, hbefore, hflags⟩ := m
  by_cases hprogram : program = endOfOptions
  · subst hprogram
    rw [words, parse_of_ended] at hparse
    cases hvalue : CommandLine.attached value with
    | none =>
        obtain ⟨next, rest, rfl, hplain, level, hlevel, hverbosity, hrest⟩ :=
          level_detached hbefore hflags hparse hvalue
        exact ⟨level, _, .next (attached_eq_none_iff.mp hvalue) (.inr rfl) rfl hplain hlevel,
          hverbosity, (parse_of_ended _).trans hrest⟩
    | some word =>
        obtain ⟨level, hlevel, hverbosity, hrest⟩ := level_attached hbefore hflags hparse hvalue
        exact ⟨level, _, .attached hvalue hlevel, hverbosity, (parse_of_ended _).trans hrest⟩
  · have hcompleted : endOfOptions ∉ attachVerbosity before :=
      (not_congr (endOfOptions_mem_attachVerbosity_iff before)).mpr hbefore
    have hwithout (words : List Word) : parse (program :: (before ++ (bundle flags ++ words))) =
        finish .start (attachVerbosity before ++ (bundle flags ++ attachVerbosity words)) := by
      rw [parse_of_open hprogram, attachVerbosity_append, if_neg hbefore,
        attachVerbosity_bundle hflags]
    rw [words, parse_of_open hprogram, attachVerbosity_cluster hbefore hflags,
      completed_cluster] at hparse
    by_cases hbare : flags = [] ∧ value = []
    · rw [if_pos hbare] at hparse
      obtain ⟨rfl, rfl⟩ := hbare
      obtain ⟨level, hlevel, hverbosity, hrest⟩ := level_attached hcompleted hflags hparse rfl
      obtain rfl := hlevel.unique spellsLevel_one
      exact ⟨1, _, .bare rfl rfl hprogram, hverbosity, (hwithout after).trans hrest⟩
    · rw [if_neg hbare] at hparse
      cases hvalue : CommandLine.attached value with
      | none =>
          obtain ⟨next, rest, hafter, hplain, level, hlevel, hverbosity, hrest⟩ :=
            level_detached hcompleted hflags hparse hvalue
          obtain ⟨back, rfl, rfl⟩ := exists_of_plain hafter hplain
          have hnone := attached_eq_none_iff.mp hvalue
          exact ⟨level, _, .next hnone (.inl fun hflags => hbare ⟨hflags, hnone⟩) rfl hplain hlevel,
            hverbosity, (hwithout back).trans hrest⟩
      | some word =>
          obtain ⟨level, hlevel, hverbosity, hrest⟩ :=
            level_attached hcompleted hflags hparse hvalue
          exact ⟨level, _, .attached hvalue hlevel, hverbosity, (hwithout after).trans hrest⟩

/-- The words that are read have the letter only where the command line has it. -/
theorem exists_of_mentions {line : List Word}
    (hmentions : Mentions (attachVerbosity line).tail .verbosity) :
    ∃ m : Mention, m.words = line := by
  obtain ⟨before, letters, after, heq, hbefore, flags, letter, value, rfl, hflags, hletter⟩ :=
    hmentions
  obtain rfl := eq_verbosityLetter hletter
  cases line with
  | nil => cases before <;> contradiction
  | cons program words =>
      by_cases hprogram : program = endOfOptions
      · subst hprogram
        rw [attachVerbosity_of_ended, List.tail_cons] at heq
        exact ⟨⟨endOfOptions, before, flags, value, after, hbefore, hflags⟩, by rw [heq]; rfl⟩
      · rw [attachVerbosity_cons hprogram, List.tail_cons] at heq
        obtain ⟨front, original, back, rfl, hfront, hword⟩ := exists_of_attachVerbosity heq hbefore
        rw [completed] at hword
        split at hword
        · rename_i hbare
          exact ⟨⟨program, front, [], [], back, hfront, List.forall_mem_nil _⟩, by rw [hbare]; rfl⟩
        · exact ⟨⟨program, front, flags, value, back, hfront, hflags⟩, by rw [← hword]; rfl⟩

/-- Without the letter in a command line no level is given. -/
theorem verbosity_eq_none {line : List Word} (hnone : ∀ m : Mention, m.words ≠ line)
    (hparse : parse line = .ok options) : options.verbosity = none := by
  have hother : ∀ valued, Mentions (attachVerbosity line).tail valued → valued ≠ .verbosity := by
    rintro valued hmentions rfl
    obtain ⟨m, hwords⟩ := exists_of_mentions hmentions
    exact hnone m hwords
  obtain ⟨e, _, ⟨-, hsilent⟩, hcheck, -⟩ := upheld_silent.kept.finish
    (fun ⟨hsame, hsilent⟩ => ⟨by rw [hsame], hsilent.level, hsilent.pending⟩)
    ⟨rfl, silent_start⟩ (.inr hother) hparse
  rw [check_eq_ok hcheck]
  exact hsilent.level

end Mention

/-- A command line gives a level exactly if it has the letter of the verbosity.  The level stands
behind the letter in its word, or is one for a bare `-v`, and everything else is as it would be
without the letter.  A letter that is left bare, at the end of a cluster, takes its level from the
next word instead. -/
theorem level_of_parse {line : List Word} {options : Options} (hparse : parse line = .ok options) :
    (options.verbosity = none ↔ ∀ m : Mention, m.words ≠ line) ∧
      ∀ m : Mention, m.words = line → ∃ level rest, m.Source level rest ∧
        options.verbosity = some level ∧ parse rest = .ok (options.withLevel none) := by
  refine ⟨⟨?_, fun hnone => Mention.verbosity_eq_none hnone hparse⟩, ?_⟩
  · rintro hnone m rfl
    obtain ⟨level, -, -, hsome, -⟩ := Mention.exists_source hparse
    rw [hnone] at hsome
    contradiction
  · rintro m rfl
    exact Mention.exists_source hparse

/-- A bare `-v` between a flag and the input. -/
def bareLine : Mention where
  program := ascii "codec_bench"
  before := [ascii "-t"]
  flags := []
  value := []
  after := [ascii "in.bin"]
  options_open := by decide
  flags_only := nofun

theorem level_of_parse_bare :
    ∃ options, parse (["codec_bench", "-t", "-v", "in.bin"].map ascii) = .ok options ∧
      options.verbosity = some 1 ∧
      parse (["codec_bench", "-t", "in.bin"].map ascii) = .ok (options.withLevel none) := by
  have hparse : parse bareLine.words = .ok { Options.default with
      verify := true, verbosity := some 1, input := some (ascii "in.bin") } := rfl
  obtain ⟨level, rest, hsource, hverbosity, hrest⟩ := (level_of_parse hparse).2 bareLine rfl
  cases hsource with
  | attached hvalue => contradiction
  | bare => exact ⟨_, hparse, hverbosity, hrest⟩
  | next _ hbare => exact absurd hbare (by decide)

/-- A bare letter at the end of a cluster, with a word after it. -/
def clusterLine : Mention where
  program := ascii "codec_bench"
  before := []
  flags := ascii "l"
  value := []
  after := [ascii "3"]
  options_open := nofun
  flags_only := by
    intro letter hletter
    obtain rfl := List.mem_singleton.mp hletter
    exact ⟨.list, by decide⟩

/-- A bare letter does not always mean level one and leave the next word as it would be without it:
in a cluster it takes that word. -/
theorem not_level_one_of_bare : ¬ ∀ (m : Mention) (options : Options),
    parse m.words = .ok options → m.value = [] →
      options.verbosity = some 1 ∧ parse m.without = .ok (options.withLevel none) := by
  intro hlevel
  have hparse : parse clusterLine.words = .ok { Options.default with
      list := true, verbosity := some 3 } := rfl
  exact absurd (hlevel clusterLine _ hparse rfl).1 (by decide)

end CommandLine
end RoundTrip
