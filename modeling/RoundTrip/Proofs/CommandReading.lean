import RoundTrip.CommandLine.Parse

/-!
# Reading words

Almost every word first settles what was begun before it.  So a run goes on
alike if that is settled early, and what a run keeps is what single arguments
keep.
-/

namespace RoundTrip.CommandLine

theorem bind_eq_ok_iff {ε α β : Type} {first : Except ε α} {next : α → Except ε β} {b : β} :
    first >>= next = .ok b ↔ ∃ a, first = .ok a ∧ next a = .ok b := by
  cases first with
  | error fault => exact ⟨nofun, fun ⟨_, hfirst, _⟩ => by cases hfirst⟩
  | ok a =>
      refine ⟨fun hnext => ⟨a, rfl, hnext⟩, ?_⟩
      rintro ⟨_, ⟨rfl⟩, hnext⟩
      exact hnext

/-! ## The rest of a command line -/

/-- Reads the words that are left, and settles and checks what came of them. -/
def finish (p : Progress) (words : List Word) : Except Refusal Options := do
  let p ← words.foldlM takeWord p
  let p ← settle p
  check p

theorem finish_nil (p : Progress) : finish p [] = settle p >>= check := rfl

theorem finish_append (p : Progress) (first rest : List Word) :
    finish p (first ++ rest) = first.foldlM takeWord p >>= fun q => finish q rest := by
  rw [finish, List.foldlM_append, bind_assoc]
  rfl

theorem finish_cons (p : Progress) (word : Word) (rest : List Word) :
    finish p (word :: rest) = takeWord p word >>= fun q => finish q rest := by
  rw [finish, List.foldlM_cons, bind_assoc]
  rfl

/-! ## Single arguments -/

/-- A flag is raised if it was not given before. -/
def raised (flag : Flag) (p : Progress) : Except Refusal Progress :=
  if .flag flag ∈ p.given then .error (.repeated (.flag flag))
  else do
    let options ← raise p.options flag
    return { p with options := options, given := .flag flag :: p.given }

theorem takeFlag_eq (p : Progress) (flag : Flag) : takeFlag p flag = settle p >>= raised flag := rfl

/-- An argument is settled exactly if it was not given before and its change of the options is
one. -/
theorem once_eq_ok_iff {argument : Argument} {p q : Progress} {change : Except Refusal Options}
    {next : Options → Progress} :
    (if argument ∈ p.given then .error (.repeated argument)
      else change >>= fun options => .ok (next options)) = Except.ok q ↔
      argument ∉ p.given ∧ ∃ options, change = .ok options ∧ q = next options := by
  split
  · exact ⟨nofun, fun ⟨hnew, _⟩ => absurd ‹_› hnew⟩
  · rename_i hnew
    rw [bind_eq_ok_iff, and_iff_right hnew]
    simp only [Except.ok.injEq, eq_comm]

theorem raised_eq_ok_iff {flag : Flag} {p q : Progress} :
    raised flag p = .ok q ↔ .flag flag ∉ p.given ∧ ∃ options, raise p.options flag = .ok options ∧
      q = { p with options := options, given := .flag flag :: p.given } :=
  once_eq_ok_iff

theorem assign_eq_ok_iff {p q : Progress} {valued : Valued} {word : Word} :
    assign p valued word = .ok q ↔
      .valued valued ∉ p.given ∧ ∃ options, store p.options valued word = .ok options ∧
        q = { p with
          options := options
          given := .valued valued :: p.given
          pending := .nothing } :=
  once_eq_ok_iff

/-- Puts the value in that came in the same word, or waits for one. -/
def given (valued : Valued) (value : Option Word) (p : Progress) : Except Refusal Progress :=
  match value with
  | none => .ok { p with pending := .awaiting valued }
  | some word => assign p valued word

theorem takeValued_eq (p : Progress) (valued : Valued) (value : Option Word) :
    takeValued p valued value = settle p >>= given valued value := by
  rw [takeValued]
  cases value <;> rfl

/-! ## Kinds of words -/

/-- The word begins no option and does not end the options. -/
def Plain (word : Word) : Prop := ∀ second rest, word ≠ hyphen :: second :: rest

/-- The four kinds of words before the end of the options. -/
inductive Kind : Word → Prop where
  | ended : Kind endOfOptions
  | long {text : Word} (hname : text ≠ []) : Kind (hyphen :: hyphen :: text)
  | letters {letter : UInt8} {rest : Word} (hletter : letter ≠ hyphen) :
      Kind (hyphen :: letter :: rest)
  | plain {word : Word} (hplain : Plain word) : Kind word

theorem kind : (word : Word) → Kind word
  | [] => .plain nofun
  | [_] => .plain nofun
  | first :: second :: rest => by
      by_cases hfirst : first = hyphen
      · subst hfirst
        by_cases hsecond : second = hyphen
        · subst hsecond
          cases rest with
          | nil => exact .ended
          | cons next more => exact .long (List.cons_ne_nil _ _)
        · exact .letters hsecond
      · exact .plain fun _ _ hword => hfirst (List.cons.inj hword).1

section Dispatch

variable {p : Progress}

theorem takeWord_operand (hended : p.operandsOnly = true) (word : Word) :
    takeWord p word = takeOperand p word := if_pos hended

theorem takeWord_ended (hopen : p.operandsOnly = false) :
    takeWord p endOfOptions = .ok { p with operandsOnly := true } := by
  rw [takeWord.eq_def, hopen, if_neg Bool.false_ne_true, if_pos rfl]

theorem takeWord_long (hopen : p.operandsOnly = false) {text : Word} (hname : text ≠ []) :
    takeWord p (hyphen :: hyphen :: text) = takeLong p text := by
  have hword : hyphen :: hyphen :: text ≠ endOfOptions := fun heq =>
    hname (List.cons.inj (List.cons.inj heq).2).2
  rw [takeWord, hopen, if_neg Bool.false_ne_true, if_neg hword]
  exact (if_pos rfl).trans (if_pos rfl)

theorem takeWord_letters (hopen : p.operandsOnly = false) {letter : UInt8}
    (hletter : letter ≠ hyphen) (rest : Word) :
    takeWord p (hyphen :: letter :: rest) = takeLetters p (letter :: rest) := by
  have hword : hyphen :: letter :: rest ≠ endOfOptions := fun heq =>
    hletter (List.cons.inj (List.cons.inj heq).2).1
  rw [takeWord, hopen, if_neg Bool.false_ne_true, if_neg hword]
  exact (if_pos rfl).trans (if_neg hletter)

theorem takeWord_plain (hopen : p.operandsOnly = false) {word : Word} (hplain : Plain word) :
    takeWord p word = takePlain p word := by
  have hword : word ≠ endOfOptions := hplain hyphen []
  rw [takeWord.eq_def, hopen, if_neg Bool.false_ne_true, if_neg hword]
  split
  · rename_i first second rest
    rw [if_neg fun hfirst => hplain second rest (by rw [hfirst])]
  · rfl

end Dispatch

/-! ## Settling early -/

theorem settle_of_nothing {p : Progress} (hnothing : p.pending = .nothing) :
    settle p = .ok p := by
  rw [settle, hnothing]

/-- Settling only adds an argument. -/
theorem settle_eq_ok {p r : Progress} (hsettle : settle p = .ok r) :
    r.pending = .nothing ∧ r.operandsOnly = p.operandsOnly ∧ r.inputMet = p.inputMet ∧
      ∀ valued, p.pending ≠ .awaiting valued := by
  rw [settle] at hsettle
  cases hpending : p.pending with
  | nothing =>
      rw [hpending] at hsettle
      cases hsettle
      exact ⟨hpending, rfl, rfl, nofun⟩
  | awaiting valued =>
      rw [hpending] at hsettle
      contradiction
  | holding valued word =>
      rw [hpending] at hsettle
      obtain ⟨-, options, -, rfl⟩ := assign_eq_ok_iff.mp hsettle
      exact ⟨rfl, rfl, rfl, nofun⟩
  | input word =>
      rw [hpending] at hsettle
      dsimp only at hsettle
      split at hsettle
      · contradiction
      · cases hsettle
        exact ⟨rfl, rfl, rfl, nofun⟩

theorem settle_settled {p r : Progress} (hsettle : settle p = .ok r) : settle r = .ok r :=
  settle_of_nothing (settle_eq_ok hsettle).1

/-- The step begins by settling: it needs that to succeed, and is the same from then on. -/
structure Settling (step : Progress → Except Refusal Progress) : Prop where
  same : ∀ {p r}, settle p = .ok r → step p = step r
  settles : ∀ {p q}, step p = .ok q → ∃ r, settle p = .ok r

namespace Settling

theorem settle : Settling settle where
  same hsettle := hsettle.trans (settle_settled hsettle).symm
  settles htake := ⟨_, htake⟩

theorem bind {first next : Progress → Except Refusal Progress} (hfirst : Settling first) :
    Settling fun p => first p >>= next where
  same hsettle := by rw [hfirst.same hsettle]
  settles htake := by
    obtain ⟨q, hq, -⟩ := bind_eq_ok_iff.mp htake
    exact hfirst.settles hq

theorem refused (refusal : Refusal) : Settling fun _ => .error refusal where
  same _ := rfl
  settles := nofun

theorem takeFlag (flag : Flag) : Settling (takeFlag · flag) := by
  simp only [takeFlag_eq]
  exact settle.bind

theorem takeValued (valued : Valued) (value : Option Word) :
    Settling (takeValued · valued value) := by
  simp only [takeValued_eq]
  exact settle.bind

theorem takeLetters (letter : UInt8) (rest : Word) :
    Settling (takeLetters · (letter :: rest)) := by
  simp only [CommandLine.takeLetters]
  split
  · exact (takeFlag _).bind
  · exact takeValued _ _
  · exact refused _

theorem takeLong (text : Word) : Settling (takeLong · text) := by
  simp only [CommandLine.takeLong]
  split
  · split
    · exact takeFlag _
    · exact refused _
  · exact takeValued _ _
  · exact refused _

theorem takeOperand (word : Word) : Settling (takeOperand · word) where
  same hsettle := by
    rw [CommandLine.takeOperand, CommandLine.takeOperand, hsettle, settle_settled hsettle,
      (settle_eq_ok hsettle).2.2.1]
  settles htake := by
    rw [CommandLine.takeOperand] at htake
    split at htake
    · contradiction
    · obtain ⟨r, hsettle, -⟩ := bind_eq_ok_iff.mp htake
      exact ⟨r, hsettle⟩

end Settling

/-- A word settles first, unless it ends the options or is the value that is waited for. -/
theorem exists_settling {operandsOnly : Bool} {word : Word}
    (hword : operandsOnly = true ∨ word ≠ endOfOptions) :
    ∃ step, Settling step ∧ ∀ p : Progress, p.operandsOnly = operandsOnly →
      (operandsOnly = false → Plain word → ∀ valued, p.pending ≠ .awaiting valued) →
      takeWord p word = step p := by
  cases operandsOnly with
  | true => exact ⟨_, .takeOperand word, fun p hended _ => takeWord_operand hended word⟩
  | false =>
      cases kind word with
      | ended => exact absurd rfl (hword.resolve_left Bool.false_ne_true)
      | long hname => exact ⟨_, .takeLong _, fun p hopen _ => takeWord_long hopen hname⟩
      | letters hletter =>
          exact ⟨_, .takeLetters _ _, fun p hopen _ => takeWord_letters hopen hletter _⟩
      | plain hplain =>
          refine ⟨_, .takeOperand word, fun p hopen hbegun => ?_⟩
          rw [takeWord_plain hopen hplain, takePlain]
          split
          · exact absurd ‹_› (hbegun rfl hplain _)
          · rfl

theorem takeWord_of_settle {p r : Progress} (hsettle : settle p = .ok r) {word : Word}
    (hword : p.operandsOnly = true ∨ word ≠ endOfOptions) :
    takeWord p word = takeWord r word := by
  obtain ⟨hnothing, hsame, -, hbegun⟩ := settle_eq_ok hsettle
  obtain ⟨step, hstep, htake⟩ := exists_settling hword
  rw [htake p rfl fun _ _ => hbegun, hstep.same hsettle,
    htake r hsame fun _ _ valued hawaiting => by rw [hnothing] at hawaiting; contradiction]

/-- What a word can do: end the options, be the value that is waited for, or settle what was begun
and go on from there. -/
theorem takeWord_cases {p q : Progress} {word : Word} (htake : takeWord p word = .ok q) :
    (p.operandsOnly = false ∧ word = endOfOptions ∧ q = { p with operandsOnly := true }) ∨
      (∃ valued, p.operandsOnly = false ∧ Plain word ∧ p.pending = .awaiting valued ∧
        q = { p with pending := .holding valued word }) ∨
      ∃ r, settle p = .ok r ∧ takeWord r word = .ok q := by
  by_cases hended : p.operandsOnly = false ∧ word = endOfOptions
  · obtain ⟨hopen, rfl⟩ := hended
    rw [takeWord_ended hopen] at htake
    cases htake
    exact .inl ⟨hopen, rfl, rfl⟩
  · have hword : p.operandsOnly = true ∨ word ≠ endOfOptions := by
      by_cases hopen : p.operandsOnly = false
      · exact .inr fun hword => hended ⟨hopen, hword⟩
      · exact .inl (Bool.not_eq_false _ ▸ hopen)
    by_cases hvalue : ∃ valued, p.operandsOnly = false ∧ Plain word ∧ p.pending = .awaiting valued
    · obtain ⟨valued, hopen, hplain, hpending⟩ := hvalue
      rw [takeWord_plain hopen hplain, takePlain, hpending] at htake
      cases htake
      exact .inr (.inl ⟨valued, hopen, hplain, hpending, rfl⟩)
    · obtain ⟨step, hstep, hsame⟩ := exists_settling hword
      rw [hsame p rfl fun hopen hplain valued hpending => hvalue ⟨valued, hopen, hplain, hpending⟩]
        at htake
      obtain ⟨r, hsettle⟩ := hstep.settles htake
      refine .inr (.inr ⟨r, hsettle, ?_⟩)
      obtain ⟨hnothing, hopen, -⟩ := settle_eq_ok hsettle
      rw [hsame r hopen fun _ _ valued hpending => by rw [hnothing] at hpending; contradiction,
        ← hstep.same hsettle]
      exact htake

theorem settle_operandsOnly (p : Progress) (operandsOnly : Bool) :
    settle { p with operandsOnly := operandsOnly } =
      (settle p).map fun r => { r with operandsOnly := operandsOnly } := by
  obtain ⟨options, given, pending, -, inputMet⟩ := p
  rw [settle, settle]
  cases pending with
  | nothing => rfl
  | awaiting valued => rfl
  | holding valued word =>
      simp only [assign]
      split
      · rfl
      · cases store options valued word <;> rfl
  | input word =>
      dsimp only
      split <;> rfl

/-- The rest of a command line is read alike if what was begun is settled early. -/
theorem finish_of_settle {p r : Progress} (hsettle : settle p = .ok r) (words : List Word) :
    finish p words = finish r words := by
  induction words generalizing p r with
  | nil => rw [finish_nil, finish_nil, hsettle, settle_settled hsettle]
  | cons word rest ih =>
      rw [finish_cons, finish_cons]
      by_cases hword : p.operandsOnly = true ∨ word ≠ endOfOptions
      · rw [takeWord_of_settle hsettle hword]
      · obtain ⟨hopen, hended⟩ := not_or.mp hword
        have hopen : p.operandsOnly = false := Bool.not_eq_true _ ▸ hopen
        obtain rfl := Decidable.not_not.mp hended
        rw [takeWord_ended hopen, takeWord_ended ((settle_eq_ok hsettle).2.1.trans hopen)]
        refine ih ?_
        rw [settle_operandsOnly, hsettle]
        rfl

/-- A command line is read to its end only if what was begun can be settled. -/
theorem exists_settle_of_finish {p : Progress} (hbegun : ∀ valued, p.pending ≠ .awaiting valued)
    {words : List Word} {options : Options} (hfinish : finish p words = .ok options) :
    ∃ r, settle p = .ok r := by
  induction words generalizing p with
  | nil =>
      rw [finish_nil] at hfinish
      obtain ⟨r, hsettle, -⟩ := bind_eq_ok_iff.mp hfinish
      exact ⟨r, hsettle⟩
  | cons word rest ih =>
      rw [finish_cons] at hfinish
      obtain ⟨q, htake, hfinish⟩ := bind_eq_ok_iff.mp hfinish
      obtain ⟨-, -, rfl⟩ | ⟨valued, -, -, hpending, -⟩ | ⟨r, hsettle, -⟩ := takeWord_cases htake
      · obtain ⟨r, hsettle⟩ := ih (p := { p with operandsOnly := true }) hbegun hfinish
        rw [settle_operandsOnly] at hsettle
        cases hp : settle p with
        | ok r => exact ⟨r, rfl⟩
        | error refusal =>
            rw [hp] at hsettle
            contradiction
      · exact absurd hpending (hbegun valued)
      · exact ⟨r, hsettle⟩

/-- An argument that waits for its value has it from the next word, which begins no option. -/
theorem exists_value_of_awaiting {p : Progress} {valued : Valued}
    (hpending : p.pending = .awaiting valued) {words : List Word} {options : Options}
    (hfinish : finish p words = .ok options) :
    ∃ word rest, words = word :: rest ∧ p.operandsOnly = false ∧ Plain word ∧
      finish { p with pending := .holding valued word } rest = .ok options := by
  induction words generalizing p with
  | nil =>
      rw [finish_nil] at hfinish
      obtain ⟨r, hsettle, -⟩ := bind_eq_ok_iff.mp hfinish
      exact absurd hpending ((settle_eq_ok hsettle).2.2.2 valued)
  | cons word rest ih =>
      rw [finish_cons] at hfinish
      obtain ⟨q, htake, hfinish⟩ := bind_eq_ok_iff.mp hfinish
      obtain ⟨-, -, rfl⟩ | ⟨other, hopen, hplain, hother, rfl⟩ | ⟨r, hsettle, -⟩ :=
        takeWord_cases htake
      · -- After the end of the options no value is taken any more.
        obtain ⟨-, -, -, hopen, -⟩ := ih (p := { p with operandsOnly := true }) hpending hfinish
        contradiction
      · cases hpending.symm.trans hother
        exact ⟨word, rest, rfl, hopen, hplain, hfinish⟩
      · exact absurd hpending ((settle_eq_ok hsettle).2.2.2 valued)

/-! ## What words keep -/

/-- A step of one run is taken by a related run too, and they stay related. -/
def Follows (R : Progress → Progress → Prop) (step : Progress → Except Refusal Progress) : Prop :=
  ∀ ⦃p p' q⦄, R p p' → step p = .ok q → ∃ q', step p' = .ok q' ∧ R q q'

/-- The argument that waits for its value, or has it and is not settled. -/
def Pending.valued? : Pending → Option Valued
  | .awaiting valued | .holding valued _ => some valued
  | .nothing | .input _ => none

/-- The operand is put in. -/
def withInput (word : Word) (p : Progress) : Progress :=
  { p with
    options := { p.options with input := some word }
    given := .input :: p.given
    pending := .nothing }

/-- What single arguments keep, as long as those with a value are among the allowed ones. -/
structure Kept (allowed : Valued → Prop) (R : Progress → Progress → Prop) : Prop where
  long : ∀ {name valued}, Argument.ofLongName? name = some (.valued valued) → allowed valued
  operandsOnly : ∀ {p p'}, R p p' → p'.operandsOnly = p.operandsOnly
  inputMet : ∀ {p p'}, R p p' → p'.inputMet = p.inputMet
  pending : ∀ {p p'}, R p p' → p'.pending = p.pending
  begun : ∀ {p p'}, R p p' → ∀ valued, p.pending.valued? = some valued → allowed valued
  begin : ∀ {p p'}, R p p' → ∀ pending : Pending,
    (∀ valued, pending.valued? = some valued → allowed valued) →
      R { p with pending := pending } { p' with pending := pending }
  meet : ∀ {p p'}, R p p' → R { p with inputMet := true } { p' with inputMet := true }
  input : ∀ {p p'}, R p p' → ∀ word, R (withInput word p) (withInput word p')
  raised : ∀ flag, Follows R (raised flag)
  assign : ∀ {valued}, allowed valued → ∀ word, Follows R (assign · valued word)

/-- What single arguments keep of one run, as long as those with a value are among the allowed
ones. -/
structure Upheld (allowed : Valued → Prop) (holds : Progress → Prop) : Prop where
  long : ∀ {name valued}, Argument.ofLongName? name = some (.valued valued) → allowed valued
  begun : ∀ {p}, holds p → ∀ valued, p.pending.valued? = some valued → allowed valued
  begin : ∀ {p}, holds p → ∀ pending : Pending,
    (∀ valued, pending.valued? = some valued → allowed valued) →
      holds { p with pending := pending }
  meet : ∀ {p}, holds p → holds { p with inputMet := true }
  input : ∀ {p}, holds p → ∀ word, holds (withInput word p)
  raised : ∀ flag {p q}, holds p → raised flag p = .ok q → holds q
  assign : ∀ {valued}, allowed valued → ∀ word {p q}, holds p → assign p valued word = .ok q →
    holds q

/-- What holds of single runs is kept by a run and itself. -/
theorem Upheld.kept {allowed : Valued → Prop} {holds : Progress → Prop}
    (hupheld : Upheld allowed holds) : Kept allowed fun p p' => p' = p ∧ holds p where
  long := hupheld.long
  operandsOnly h := by rw [h.1]
  inputMet h := by rw [h.1]
  pending h := by rw [h.1]
  begun h := hupheld.begun h.2
  begin := by
    rintro p _ ⟨rfl, hp⟩ pending hpending
    exact ⟨rfl, hupheld.begin hp pending hpending⟩
  meet := by
    rintro p _ ⟨rfl, hp⟩
    exact ⟨rfl, hupheld.meet hp⟩
  input := by
    rintro p _ ⟨rfl, hp⟩ word
    exact ⟨rfl, hupheld.input hp word⟩
  raised flag := by
    rintro p _ q ⟨rfl, hp⟩ hraised
    exact ⟨q, hraised, rfl, hupheld.raised flag hp hraised⟩
  assign hallowed word := by
    rintro p _ q ⟨rfl, hp⟩ hassign
    exact ⟨q, hassign, rfl, hupheld.assign hallowed word hp hassign⟩

/-- A letter of a flag. -/
def IsFlag (letter : UInt8) : Prop := ∃ flag, Argument.ofLetter? letter = some (.flag flag)

/-- Behind letters of flags stands the letter of the argument, with a value or without. -/
def Names (letters : Word) (valued : Valued) : Prop :=
  ∃ flags letter value, letters = flags ++ letter :: value ∧ (∀ flag ∈ flags, IsFlag flag) ∧
    Argument.ofLetter? letter = some (.valued valued)

theorem Follows.bind {R : Progress → Progress → Prop}
    {first next : Progress → Except Refusal Progress} (hfirst : Follows R first)
    (hnext : Follows R next) : Follows R fun p => first p >>= next := by
  intro p p' q hR htake
  obtain ⟨r, hr, hq⟩ := bind_eq_ok_iff.mp htake
  obtain ⟨r', hr', hR⟩ := hfirst hR hr
  obtain ⟨q', hq', hR⟩ := hnext hR hq
  exact ⟨q', bind_eq_ok_iff.mpr ⟨r', hr', hq'⟩, hR⟩

theorem Follows.refused {R : Progress → Progress → Prop} (refusal : Refusal) :
    Follows R fun _ => .error refusal := fun _ _ _ _ htake => by contradiction

namespace Kept

variable {allowed : Valued → Prop} {R : Progress → Progress → Prop}

theorem settle (hkept : Kept allowed R) : Follows R settle := by
  intro p p' q hR hsettle
  rw [CommandLine.settle] at hsettle
  rw [CommandLine.settle, hkept.pending hR]
  cases hpending : p.pending with
  | nothing =>
      rw [hpending] at hsettle
      cases hsettle
      exact ⟨p', rfl, hR⟩
  | awaiting valued =>
      rw [hpending] at hsettle
      contradiction
  | holding valued word =>
      rw [hpending] at hsettle
      exact hkept.assign (hkept.begun hR valued (by rw [hpending]; rfl)) word hR hsettle
  | input word =>
      rw [hpending] at hsettle
      dsimp only at hsettle ⊢
      split at hsettle
      · contradiction
      · cases hsettle
        exact ⟨_, if_neg ‹_›, hkept.input hR word⟩

theorem takeFlag (hkept : Kept allowed R) (flag : Flag) : Follows R (takeFlag · flag) := by
  simp only [takeFlag_eq]
  exact hkept.settle.bind (hkept.raised flag)

theorem takeValued (hkept : Kept allowed R) {valued : Valued} (hallowed : allowed valued)
    (value : Option Word) : Follows R (takeValued · valued value) := by
  simp only [takeValued_eq]
  refine hkept.settle.bind ?_
  cases value with
  | some word => exact hkept.assign hallowed word
  | none =>
      intro p p' q hR htake
      cases htake
      refine ⟨_, rfl, hkept.begin hR (.awaiting valued) fun other hother => ?_⟩
      cases hother
      exact hallowed

theorem takeLetters (hkept : Kept allowed R) {letters : Word}
    (hnamed : ∀ valued, Names letters valued → allowed valued) :
    Follows R (takeLetters · letters) := by
  induction letters with
  | nil =>
      intro p p' q hR htake
      cases htake
      exact ⟨p', rfl, hR⟩
  | cons letter rest ih =>
      simp only [CommandLine.takeLetters]
      split
      · rename_i flag hflag
        refine (hkept.takeFlag flag).bind (ih fun valued hnames => hnamed valued ?_)
        obtain ⟨flags, other, value, rfl, hflags, hother⟩ := hnames
        exact ⟨letter :: flags, other, value, rfl,
          List.forall_mem_cons.mpr ⟨⟨flag, hflag⟩, hflags⟩, hother⟩
      · rename_i valued hvalued
        exact hkept.takeValued (hnamed valued ⟨[], letter, rest, rfl, nofun, hvalued⟩) _
      · exact Follows.refused _

theorem takeLong (hkept : Kept allowed R) (text : Word) : Follows R (takeLong · text) := by
  simp only [CommandLine.takeLong]
  split
  · split
    · exact hkept.takeFlag _
    · exact Follows.refused _
  · exact hkept.takeValued (hkept.long ‹_›) _
  · exact Follows.refused _

theorem takeOperand (hkept : Kept allowed R) (word : Word) : Follows R (takeOperand · word) := by
  intro p p' q hR htake
  dsimp only at htake ⊢
  rw [CommandLine.takeOperand] at htake
  rw [CommandLine.takeOperand, hkept.inputMet hR]
  split at htake
  · contradiction
  · rename_i hmet
    obtain ⟨r, hr, hq⟩ := bind_eq_ok_iff.mp htake
    obtain ⟨r', hr', hR⟩ := hkept.settle hR hr
    cases hq
    rw [if_neg hmet, hr']
    exact ⟨_, rfl, hkept.meet (hkept.begin hR (.input word) nofun)⟩

theorem takePlain (hkept : Kept allowed R) (word : Word) : Follows R (takePlain · word) := by
  intro p p' q hR htake
  dsimp only at htake ⊢
  rw [CommandLine.takePlain] at htake
  rw [CommandLine.takePlain, hkept.pending hR]
  split at htake
  · rename_i valued hpending
    cases htake
    refine ⟨_, rfl, hkept.begin hR (.holding valued word) fun other hother => ?_⟩
    refine hkept.begun hR other ?_
    rw [hpending]
    exact hother
  · exact hkept.takeOperand word hR htake

/-- A word keeps what single arguments keep, if its letters name allowed ones only. -/
theorem takeWord (hkept : Kept allowed R) {p p' q : Progress} (hR : R p p') {word : Word}
    (hword : p.operandsOnly = true ∨ word ≠ endOfOptions ∧
      ∀ letters valued, word = hyphen :: letters → Names letters valued → allowed valued)
    (htake : takeWord p word = .ok q) : ∃ q', CommandLine.takeWord p' word = .ok q' ∧ R q q' := by
  have hsame := hkept.operandsOnly hR
  cases hopen : p.operandsOnly with
  | true =>
      rw [takeWord_operand hopen] at htake
      rw [takeWord_operand (hsame.trans hopen)]
      exact hkept.takeOperand word hR htake
  | false =>
      obtain ⟨hended, hnamed⟩ := hword.resolve_left (by rw [hopen]; exact Bool.false_ne_true)
      cases kind word with
      | ended => contradiction
      | long hname =>
          rw [takeWord_long hopen hname] at htake
          rw [takeWord_long (hsame.trans hopen) hname]
          exact hkept.takeLong _ hR htake
      | letters hletter =>
          rw [takeWord_letters hopen hletter] at htake
          rw [takeWord_letters (hsame.trans hopen) hletter]
          exact hkept.takeLetters (fun valued => hnamed _ valued rfl) hR htake
      | plain hplain =>
          rw [takeWord_plain hopen hplain] at htake
          rw [takeWord_plain (hsame.trans hopen) hplain]
          exact hkept.takePlain word hR htake

end Kept

/-- Before the end of the options, letters after one hyphen name the argument. -/
def Mentions (words : List Word) (valued : Valued) : Prop :=
  ∃ before letters after, words = before ++ (hyphen :: letters) :: after ∧
    endOfOptions ∉ before ∧ Names letters valued

theorem Mentions.cons {word : Word} {rest : List Word} {valued : Valued}
    (hmentions : Mentions rest valued) (hopen : word ≠ endOfOptions) :
    Mentions (word :: rest) valued := by
  obtain ⟨before, letters, after, rfl, hbefore, hnames⟩ := hmentions
  exact ⟨word :: before, letters, after, rfl,
    List.not_mem_cons_of_ne_of_not_mem (Ne.symm hopen) hbefore, hnames⟩

theorem operandsOnly_of_takeOperand {p q : Progress} {word : Word}
    (htake : takeOperand p word = .ok q) : q.operandsOnly = p.operandsOnly := by
  rw [takeOperand] at htake
  split at htake
  · contradiction
  · obtain ⟨r, hsettle, hq⟩ := bind_eq_ok_iff.mp htake
    cases hq
    exact (settle_eq_ok hsettle).2.1

namespace Kept

variable {allowed : Valued → Prop} {R : Progress → Progress → Prop}

/-- Words keep what single arguments keep, if those that they mention are allowed. -/
theorem foldlM (hkept : Kept allowed R) {words : List Word}
    (hended : endOfOptions ∈ words → ∀ {p p'}, R p p' →
      R { p with operandsOnly := true } { p' with operandsOnly := true })
    {p p' q : Progress} (hR : R p p')
    (hnamed : p.operandsOnly = true ∨ ∀ valued, Mentions words valued → allowed valued)
    (htake : words.foldlM CommandLine.takeWord p = .ok q) :
    ∃ q', words.foldlM CommandLine.takeWord p' = .ok q' ∧ R q q' := by
  induction words generalizing p p' with
  | nil =>
      cases htake
      exact ⟨p', rfl, hR⟩
  | cons word rest ih =>
      have hlater := fun hmem : endOfOptions ∈ rest => @hended (List.mem_cons_of_mem word hmem)
      rw [List.foldlM_cons] at htake ⊢
      obtain ⟨r, hr, hq⟩ := bind_eq_ok_iff.mp htake
      cases hopen : p.operandsOnly with
      | true =>
          obtain ⟨r', hr', hR'⟩ := hkept.takeWord hR (.inl hopen) hr
          rw [takeWord_operand hopen] at hr
          have hsame := operandsOnly_of_takeOperand hr
          obtain ⟨q', hq', hR⟩ := ih hlater hR' (.inl (hsame.trans hopen)) hq
          exact ⟨q', bind_eq_ok_iff.mpr ⟨r', hr', hq'⟩, hR⟩
      | false =>
          have hnamed := hnamed.resolve_left (by rw [hopen]; exact Bool.false_ne_true)
          by_cases hword : word = endOfOptions
          · subst hword
            rw [takeWord_ended hopen] at hr
            cases hr
            rw [takeWord_ended ((hkept.operandsOnly hR).trans hopen)]
            exact ih hlater (hended List.mem_cons_self hR) (.inl rfl) hq
          · have hletters : ∀ letters valued, word = hyphen :: letters → Names letters valued →
                allowed valued := by
              rintro letters valued rfl hnames
              exact hnamed valued ⟨[], letters, rest, rfl, List.not_mem_nil, hnames⟩
            obtain ⟨r', hr', hR'⟩ := hkept.takeWord hR (.inr ⟨hword, hletters⟩) hr
            obtain ⟨q', hq', hR⟩ :=
              ih hlater hR' (.inr fun valued hmentions => hnamed valued (hmentions.cons hword)) hq
            exact ⟨q', bind_eq_ok_iff.mpr ⟨r', hr', hq'⟩, hR⟩

/-- What is kept up to the end of a command line is kept until the last check. -/
theorem finish (hkept : Kept allowed R)
    (hended : ∀ {p p'}, R p p' →
      R { p with operandsOnly := true } { p' with operandsOnly := true })
    {p p' : Progress} (hR : R p p') {words : List Word}
    (hnamed : p.operandsOnly = true ∨ ∀ valued, Mentions words valued → allowed valued)
    {options : Options} (hfinish : finish p words = .ok options) :
    ∃ q q', R q q' ∧ check q = .ok options ∧ CommandLine.finish p' words = check q' := by
  obtain ⟨r, hr, hfinish⟩ := bind_eq_ok_iff.mp hfinish
  obtain ⟨q, hq, hcheck⟩ := bind_eq_ok_iff.mp hfinish
  obtain ⟨r', hr', hR⟩ := hkept.foldlM (fun _ => hended) hR hnamed hr
  obtain ⟨q', hq', hR⟩ := hkept.settle hR hq
  refine ⟨q, q', hR, hcheck, ?_⟩
  rw [CommandLine.finish, hr']
  exact (congrArg (· >>= check) hq' :)

end Kept

end RoundTrip.CommandLine
