import RoundTrip.Step

/-!
# Reasoning about steps

A step that keeps its state on a fault is described in three ways.  `Ensures`
says what holds after one run, with one condition for answers and one for
faults.  `Simulates` compares two runs: they answer or fail alike, and a
relation between their states is kept.  `Coupled` does so for runs that may
part, as far as what they leave agrees.  All are closed under sequencing, so
that only the primitive steps need proofs.
-/

namespace RoundTrip

variable {σ τ ε α β γ δ : Type}

/-! ## Answers and states -/

theorem eq_of_answer_ok {step : EStateM ε σ α} {s : σ} {a : α} (h : answer step s = .ok a) :
    step s = .ok a (leaves step s) := by
  simp only [answer, leaves] at h ⊢
  cases hrun : step s with
  | ok b t =>
      rw [hrun] at h
      cases h
      rfl
  | error e t =>
      rw [hrun] at h
      contradiction

theorem eq_of_answer_error {step : EStateM ε σ α} {s : σ} {e : ε} (h : answer step s = .error e) :
    step s = .error e (leaves step s) := by
  simp only [answer, leaves] at h ⊢
  cases hrun : step s with
  | ok a t =>
      rw [hrun] at h
      contradiction
  | error f t =>
      rw [hrun] at h
      cases h
      rfl

/-! ## One run -/

/-- From a state with `pre`, an answer leaves `post` and a fault leaves `fail`. -/
def Ensures (pre : σ → Prop) (step : EStateM ε σ α) (post : α → σ → Prop)
    (fail : ε → σ → Prop) : Prop :=
  ∀ s, pre s →
    match step s with
    | .ok a t => post a t
    | .error e t => fail e t

namespace Ensures

variable {pre : σ → Prop} {fail : ε → σ → Prop}

theorem of_ok {step : EStateM ε σ α} {post : α → σ → Prop} {s t : σ} {a : α}
    (hstep : Ensures pre step post fail) (hs : pre s) (hrun : step s = .ok a t) :
    post a t := by
  have hresult := hstep s hs
  rwa [hrun] at hresult

theorem of_error {step : EStateM ε σ α} {post : α → σ → Prop} {s t : σ} {e : ε}
    (hstep : Ensures pre step post fail) (hs : pre s) (hrun : step s = .error e t) :
    fail e t := by
  have hresult := hstep s hs
  rwa [hrun] at hresult

/-- What holds after an answer and after a fault holds of what the step leaves. -/
theorem leaves {step : EStateM ε σ α} {post : σ → Prop} {s : σ}
    (hstep : Ensures pre step (fun _ => post) (fun _ => post)) (hs : pre s) :
    post (RoundTrip.leaves step s) := by
  rw [RoundTrip.leaves]
  cases hrun : step s with
  | ok a t => exact hstep.of_ok hs hrun
  | error e t => exact hstep.of_error hs hrun

theorem pure {post : α → σ → Prop} {a : α} (hpost : ∀ s, pre s → post a s) :
    Ensures pre (Pure.pure a : EStateM ε σ α) post fail :=
  fun s hs => hpost s hs

theorem get : Ensures pre (MonadState.get : EStateM ε σ σ) (fun a s => a = s ∧ pre s) fail :=
  fun _ hs => ⟨rfl, hs⟩

theorem bind {step : EStateM ε σ α} {next : α → EStateM ε σ β}
    {mid : α → σ → Prop} {post : β → σ → Prop}
    (hstep : Ensures pre step mid fail)
    (hnext : ∀ a, Ensures (mid a) (next a) post fail) :
    Ensures pre (step >>= next) post fail := by
  intro s hs
  have hresult := hstep s hs
  cases hrun : step s with
  | ok a t =>
      rw [hrun] at hresult
      simpa only [Bind.bind, EStateM.bind, hrun] using hnext a t hresult
  | error e t =>
      rw [hrun] at hresult
      simpa only [Bind.bind, EStateM.bind, hrun] using hresult

theorem ite {p : Prop} [Decidable p] {first second : EStateM ε σ α} {post : α → σ → Prop}
    (hfirst : p → Ensures pre first post fail) (hsecond : ¬ p → Ensures pre second post fail) :
    Ensures pre (if p then first else second) post fail := by
  split
  · exact hfirst ‹_›
  · exact hsecond ‹_›

theorem mono {step : EStateM ε σ α} {pre' : σ → Prop} {post post' : α → σ → Prop}
    {fail' : ε → σ → Prop} (hstep : Ensures pre step post fail)
    (hpre : ∀ s, pre' s → pre s) (hpost : ∀ a s, post a s → post' a s)
    (hfail : ∀ e s, fail e s → fail' e s) :
    Ensures pre' step post' fail' := by
  intro s hs
  have hresult := hstep s (hpre s hs)
  cases hrun : step s with
  | ok a t =>
      rw [hrun] at hresult
      exact hpost a t hresult
  | error e t =>
      rw [hrun] at hresult
      exact hfail e t hresult

/-- A step over a part of the state is described by what it does to that part. -/
theorem onPart {ρ : Type} {part : σ → ρ} {replace : ρ → σ → σ} {step : EStateM ε ρ α}
    {inner : ρ → Prop} {good : α → ρ → Prop} {bad : ε → ρ → Prop} {post : α → σ → Prop}
    (hstep : Ensures inner step good bad) (hpre : ∀ s, pre s → inner (part s))
    (hpost : ∀ s a r, pre s → good a r → post a (replace r s))
    (hfail : ∀ s e r, pre s → bad e r → fail e (replace r s)) :
    Ensures pre (RoundTrip.onPart part replace step) post fail := by
  intro s hs
  have hresult := hstep (part s) (hpre s hs)
  rw [RoundTrip.onPart]
  cases hrun : step (part s) with
  | ok a r =>
      rw [hrun] at hresult
      exact hpost s a r hs hresult
  | error e r =>
      rw [hrun] at hresult
      exact hfail s e r hs hresult

/-- The outcome of a step that was attempted: an answer with `good`, or a fault with `bad`. -/
inductive Settled (good : α → σ → Prop) (bad : ε → σ → Prop) : Except ε α → σ → Prop where
  | ok {a : α} {s : σ} (answer : good a s) : Settled good bad (.ok a) s
  | error {e : ε} {s : σ} (fault : bad e s) : Settled good bad (.error e) s

/-- To attempt a step makes both conditions answers. -/
theorem attempt {φ : Type} {step : EStateM ε σ α} {post : α → σ → Prop}
    {fail' : φ → σ → Prop} (hstep : Ensures pre step post fail) :
    Ensures pre (RoundTrip.attempt step : EStateM φ σ (Except ε α)) (Settled post fail) fail' := by
  intro s hs
  have hresult := hstep s hs
  rw [RoundTrip.attempt]
  cases hrun : step s with
  | ok a t =>
      rw [hrun] at hresult
      exact .ok hresult
  | error e t =>
      rw [hrun] at hresult
      exact .error hresult

/-- A fold keeps an invariant that knows how many elements were taken. -/
theorem foldlM_range' {step : β → γ → EStateM ε σ β} {f : Nat → γ}
    {inv : Nat → β → σ → Prop} (start count : Nat)
    (hstep : ∀ k, start ≤ k → k < start + count → ∀ b,
      Ensures (inv k b) (step b (f k)) (inv (k + 1)) fail) (b : β) :
    Ensures (inv start b) (((List.range' start count).map f).foldlM step b)
      (inv (start + count)) fail := by
  induction count generalizing start b with
  | zero => exact Ensures.pure fun _ hs => hs
  | succ count ih =>
      rw [List.range'_succ, List.map_cons, List.foldlM_cons]
      refine Ensures.bind (hstep start (Nat.le_refl _) (by omega) b) fun b => ?_
      have hrest := ih (start + 1) (fun k hlow hhigh => hstep k (by omega) (by omega)) b
      rwa [show start + 1 + count = start + (count + 1) by omega] at hrest

theorem foldlM_range {step : β → γ → EStateM ε σ β} {f : Nat → γ}
    {inv : Nat → β → σ → Prop} {count : Nat}
    (hstep : ∀ k, k < count → ∀ b,
      Ensures (inv k b) (step b (f k)) (inv (k + 1)) fail) (b : β) :
    Ensures (inv 0 b) (((List.range count).map f).foldlM step b)
      (inv count) fail := by
  have hfold := foldlM_range' 0 count (fun k _ hk => hstep k (by omega)) b
  rwa [← List.range_eq_range', Nat.zero_add] at hfold

end Ensures

/-! ## Steps one after another -/

/-- Where all steps succeed, each one succeeds where the ones before it end. -/
theorem exists_ok_of_forM_ok {step : γ → EStateM ε σ Unit} {done rest : List γ} {c : γ}
    {s mid t : σ} (hall : forM (done ++ c :: rest) step s = .ok () t)
    (hdone : forM done step s = .ok () mid) : ∃ after, step c mid = .ok () after := by
  rw [List.forM_append, List.forM_cons] at hall
  simp only [Bind.bind, EStateM.bind, hdone] at hall
  cases hstep : step c mid with
  | ok _ after => exact ⟨after, rfl⟩
  | error e after =>
      rw [hstep] at hall
      contradiction

/-- A fault is that of one step, and the steps before it succeed. -/
theorem exists_error_of_forM_error {step : γ → EStateM ε σ Unit} {steps : List γ} {s t : σ}
    {e : ε} (hrun : forM steps step s = .error e t) :
    ∃ done c rest mid, steps = done ++ c :: rest ∧ forM done step s = .ok () mid ∧
      step c mid = .error e t := by
  induction steps generalizing s with
  | nil => contradiction
  | cons c steps ih =>
      simp only [List.forM_cons, Bind.bind, EStateM.bind] at hrun
      cases hstep : step c s with
      | ok _ after =>
          rw [hstep] at hrun
          obtain ⟨done, failing, rest, mid, rfl, hdone, hfails⟩ := ih hrun
          refine ⟨c :: done, failing, rest, mid, rfl, ?_, hfails⟩
          simp only [List.forM_cons, Bind.bind, EStateM.bind, hstep, hdone]
      | error e' after =>
          rw [hstep] at hrun
          cases hrun
          exact ⟨[], c, steps, s, rfl, rfl, hstep⟩

/-! ## Two runs -/

/-- Both results are answers, and `post` holds of them and of the states they
leave, or both are the same fault and leave states in `fail`. -/
inductive Related (post : α → β → σ → τ → Prop) (fail : σ → τ → Prop) :
    EStateM.Result ε σ α → EStateM.Result ε τ β → Prop where
  | ok {a : α} {b : β} {s : σ} {t : τ} (answers : post a b s t) :
      Related post fail (.ok a s) (.ok b t)
  | error (e : ε) {s : σ} {t : τ} (states : fail s t) :
      Related post fail (.error e s) (.error e t)

namespace Related

variable {post : α → β → σ → τ → Prop} {fail : σ → τ → Prop}

theorem exists_ok {a : α} {s : σ} {second : EStateM.Result ε τ β}
    (hrelated : Related post fail (.ok a s) second) :
    ∃ b t, second = .ok b t ∧ post a b s t := by
  cases hrelated with
  | ok hanswers => exact ⟨_, _, rfl, hanswers⟩

theorem exists_error {e : ε} {s : σ} {second : EStateM.Result ε τ β}
    (hrelated : Related post fail (.error e s : EStateM.Result ε σ α) second) :
    ∃ t, second = .error e t ∧ fail s t := by
  cases hrelated with
  | error _ hstates => exact ⟨_, rfl, hstates⟩

end Related

/-- From states in `pre`, the two steps have related results. -/
def Simulates (pre : σ → τ → Prop) (first : EStateM ε σ α) (second : EStateM ε τ β)
    (post : α → β → σ → τ → Prop) (fail : σ → τ → Prop) : Prop :=
  ∀ ⦃s t⦄, pre s t → Related post fail (first s) (second t)

/-- Equal answers, and states in `R`. -/
def Alike (R : σ → τ → Prop) (a b : α) (s : σ) (t : τ) : Prop := a = b ∧ R s t

/-- A result with another state. -/
def mapState (f : σ → τ) : EStateM.Result ε σ α → EStateM.Result ε τ α
  | .ok a s => .ok a (f s)
  | .error e s => .error e (f s)

theorem Related.map {σ' τ' : Type} {post : α → β → σ → τ → Prop} {fail : σ → τ → Prop}
    {post' : α → β → σ' → τ' → Prop} {fail' : σ' → τ' → Prop} {f : σ → σ'} {g : τ → τ'}
    {first : EStateM.Result ε σ α} {second : EStateM.Result ε τ β}
    (hrelated : Related post fail first second)
    (hpost : ∀ a b s t, post a b s t → post' a b (f s) (g t))
    (hfail : ∀ s t, fail s t → fail' (f s) (g t)) :
    Related post' fail' (mapState f first) (mapState g second) := by
  cases hrelated with
  | ok hanswers => exact .ok (hpost _ _ _ _ hanswers)
  | error e hstates => exact .error e (hfail _ _ hstates)

theorem answer_eq_of_mapState {f : σ → τ} {first : EStateM ε σ α} {second : EStateM ε τ α}
    {s : σ} {t : τ} (hrun : second t = mapState f (first s)) :
    answer second t = answer first s := by
  simp only [answer, hrun]
  cases first s with
  | ok a after => rfl
  | error e after => rfl

theorem leaves_eq_of_mapState {f : σ → τ} {first : EStateM ε σ α} {second : EStateM ε τ α}
    {s : σ} {t : τ} (hrun : second t = mapState f (first s)) :
    leaves second t = f (leaves first s) := by
  simp only [leaves, hrun]
  cases first s with
  | ok a after => rfl
  | error e after => rfl

theorem Related.answer_eq {post : α → σ → τ → Prop} {fail : σ → τ → Prop}
    {first : EStateM ε σ α} {second : EStateM ε τ α} {s : σ} {t : τ}
    (hrelated : Related (fun a b s t => a = b ∧ post a s t) fail (first s) (second t)) :
    answer first s = answer second t := by
  simp only [answer]
  generalize first s = one at hrelated
  generalize second t = two at hrelated
  cases hrelated with
  | ok hanswers => exact congrArg Except.ok hanswers.1
  | error e hstates => rfl

theorem Related.leaves {R : σ → τ → Prop} {first : EStateM ε σ α} {second : EStateM ε τ α} {s : σ}
    {t : τ} (hrelated : Related (Alike R) R (first s) (second t)) :
    R (RoundTrip.leaves first s) (RoundTrip.leaves second t) := by
  simp only [RoundTrip.leaves]
  generalize first s = one at hrelated
  generalize second t = two at hrelated
  cases hrelated with
  | ok hanswers => exact hanswers.2
  | error e hstates => exact hstates

/-- Where the second state is made from the first, so is the second result. -/
theorem Related.exists_mapState {κ : Type} {f : κ → σ → τ} {R : σ → τ → Prop}
    {first : EStateM.Result ε σ α} {second : EStateM.Result ε τ α}
    (hrelated : Related (Alike R) R first second)
    (hstates : ∀ s t, R s t → ∃ k, t = f k s) : ∃ k, second = mapState (f k) first := by
  cases hrelated with
  | ok hanswers =>
      obtain ⟨rfl, hafter⟩ := hanswers
      obtain ⟨k, rfl⟩ := hstates _ _ hafter
      exact ⟨k, rfl⟩
  | error e hafter =>
      obtain ⟨k, rfl⟩ := hstates _ _ hafter
      exact ⟨k, rfl⟩

namespace Simulates

variable {pre fail : σ → τ → Prop}

theorem pure {post : α → β → σ → τ → Prop} {a : α} {b : β}
    (hpost : ∀ s t, pre s t → post a b s t) :
    Simulates pre (Pure.pure a : EStateM ε σ α) (Pure.pure b) post fail :=
  fun s t hpre => .ok (hpost s t hpre)

/-- A step mirrors itself. -/
theorem refl (step : EStateM ε σ α) : Simulates Eq step step (Alike Eq) Eq := by
  rintro s _ rfl
  cases step s with
  | ok a t => exact .ok ⟨rfl, rfl⟩
  | error e t => exact .error e rfl

theorem bind {mid : α → β → σ → τ → Prop} {post : γ → δ → σ → τ → Prop}
    {first : EStateM ε σ α} {second : EStateM ε τ β}
    {next : α → EStateM ε σ γ} {next' : β → EStateM ε τ δ}
    (hsteps : Simulates pre first second mid fail)
    (hnext : ∀ a b, Simulates (mid a b) (next a) (next' b) post fail) :
    Simulates pre (first >>= next) (second >>= next') post fail := by
  intro s t hpre
  have hresult := hsteps hpre
  simp only [Bind.bind, EStateM.bind]
  generalize first s = one at hresult
  generalize second t = two at hresult
  cases hresult with
  | ok hanswers => exact hnext _ _ hanswers
  | error e hstates => exact .error e hstates

/-- After steps with one answer, both runs go on from it. -/
theorem bind_alike {R : σ → τ → Prop} {post : β → γ → σ → τ → Prop}
    {first : EStateM ε σ α} {second : EStateM ε τ α}
    {next : α → EStateM ε σ β} {next' : α → EStateM ε τ γ}
    (hsteps : Simulates pre first second (Alike R) fail)
    (hnext : ∀ a, Simulates R (next a) (next' a) post fail) :
    Simulates pre (first >>= next) (second >>= next') post fail := by
  refine Simulates.bind hsteps fun a _ => ?_
  rintro s t ⟨rfl, hstates⟩
  exact hnext a hstates

/-- Steps over parts of two states keep a relation that follows from one between the parts. -/
theorem onPart {ρ ρ' : Type} {part : σ → ρ} {replace : ρ → σ → σ} {part' : τ → ρ'}
    {replace' : ρ' → τ → τ} {first : EStateM ε ρ α} {second : EStateM ε ρ' α}
    {Q : ρ → ρ' → Prop} (hsteps : Simulates Q first second (Alike Q) Q)
    (hpart : ∀ s t, pre s t → Q (part s) (part' t))
    (hreplace : ∀ s t r r', pre s t → Q r r' → pre (replace r s) (replace' r' t)) :
    Simulates pre (RoundTrip.onPart part replace first) (RoundTrip.onPart part' replace' second)
      (Alike pre) pre := by
  intro s t hstates
  have hresult := hsteps (hpart s t hstates)
  simp only [RoundTrip.onPart]
  generalize first (part s) = one at hresult
  generalize second (part' t) = two at hresult
  cases hresult with
  | ok hanswers => exact .ok ⟨hanswers.1, hreplace s t _ _ hstates hanswers.2⟩
  | error e hafter => exact .error e (hreplace s t _ _ hstates hafter)

/-- To attempt alike steps is to have the same outcome. -/
theorem attempt {φ : Type} {R : σ → τ → Prop} {first : EStateM ε σ α} {second : EStateM ε τ α}
    (hsteps : Simulates R first second (Alike R) R) :
    Simulates R (RoundTrip.attempt first : EStateM φ σ (Except ε α)) (RoundTrip.attempt second)
      (Alike R) R := by
  intro s t hstates
  have hresult := hsteps hstates
  simp only [RoundTrip.attempt]
  generalize first s = one at hresult
  generalize second t = two at hresult
  cases hresult with
  | ok hanswers => exact .ok ⟨congrArg Except.ok hanswers.1, hanswers.2⟩
  | error e hafter => exact .ok ⟨rfl, hafter⟩

/-- Two folds keep a relation between what they carry, and one between the states. -/
theorem foldlM {R : σ → τ → Prop} {Q : α → β → Prop} {step : α → γ → EStateM ε σ α}
    {step' : β → γ → EStateM ε τ β}
    (hstep : ∀ a b c, Q a b →
      Simulates R (step a c) (step' b c) (fun a b s t => Q a b ∧ R s t) fail)
    (elements : List γ) {a : α} {b : β} (hcarried : Q a b) :
    Simulates R (elements.foldlM step a) (elements.foldlM step' b)
      (fun a b s t => Q a b ∧ R s t) fail := by
  induction elements generalizing a b with
  | nil => exact Simulates.pure fun _ _ hstates => ⟨hcarried, hstates⟩
  | cons c rest ih =>
      rw [List.foldlM_cons, List.foldlM_cons]
      refine Simulates.bind (hstep a b c hcarried) fun a b => ?_
      rintro s t ⟨hcarried, hstates⟩
      exact ih hcarried hstates

/-- A step that the second run has no counterpart for. -/
theorem bind_left {mid : α → σ → τ → Prop} {post : γ → δ → σ → τ → Prop}
    {first : EStateM ε σ α} {next : α → EStateM ε σ γ} {second : EStateM ε τ δ}
    (hfirst : Simulates pre first (Pure.pure () : EStateM ε τ Unit) (fun a _ => mid a) fail)
    (hnext : ∀ a, Simulates (mid a) (next a) second post fail) :
    Simulates pre (first >>= next) second post fail := by
  rw [← pure_bind () fun _ => second]
  exact Simulates.bind hfirst fun a _ => hnext a

end Simulates

/-! ## One run beside itself -/

/-- A run that keeps a condition mirrors itself from states with that condition. -/
theorem Ensures.simulates_self {P : σ → Prop} {step : EStateM ε σ α}
    (hstep : Ensures P step (fun _ => P) (fun _ => P)) :
    Simulates (fun s t => s = t ∧ P s) step step (Alike fun s t => s = t ∧ P s)
      (fun s t => s = t ∧ P s) := by
  rintro s _ ⟨rfl, hs⟩
  cases hrun : step s with
  | ok a t => exact .ok ⟨rfl, rfl, hstep.of_ok hs hrun⟩
  | error e t => exact .error e ⟨rfl, hstep.of_error hs hrun⟩

theorem Simulates.ensures_self {P : σ → Prop} {step : EStateM ε σ α}
    (hstep : Simulates (fun s t => s = t ∧ P s) step step (Alike fun s t => s = t ∧ P s)
      (fun s t => s = t ∧ P s)) : Ensures P step (fun _ => P) (fun _ => P) := by
  intro s hs
  have hresult := hstep ⟨rfl, hs⟩
  generalize step s = result at hresult ⊢
  cases hresult with
  | ok hanswers => exact hanswers.2.2
  | error e hstates => exact hstates.2

/-! ## Two runs that need not stay together -/

/-- Two steps that answer or fail alike if what they leave agrees.  Nothing is
known of runs that part; but steps only add to what has to agree, so states
that agree in the end have agreed before. -/
structure Coupled (agrees pre : σ → τ → Prop) (first : EStateM ε σ α) (second : EStateM ε τ α)
    (post : α → σ → τ → Prop) (fail : σ → τ → Prop) : Prop where
  first_agrees : ∀ s t, agrees (leaves first s) t → agrees s t
  second_agrees : ∀ s t, agrees s (leaves second t) → agrees s t
  related : ∀ ⦃s t⦄, pre s t → agrees (leaves first s) (leaves second t) →
    Related (fun a b s t => a = b ∧ post a s t) fail (first s) (second t)

/-- A sequence leaves what its second step leaves, or what its first does if that fails. -/
theorem leaves_bind (step : EStateM ε σ α) (next : α → EStateM ε σ β) (s : σ) :
    (∃ a t, step s = .ok a t ∧ leaves (step >>= next) s = leaves (next a) t) ∨
      ∃ e t, step s = .error e t ∧ (step >>= next) s = .error e t := by
  simp only [leaves, Bind.bind, EStateM.bind]
  cases hrun : step s with
  | ok a t => exact .inl ⟨a, t, rfl, rfl⟩
  | error e t => exact .inr ⟨e, t, rfl, rfl⟩

/-- What agrees after a sequence has agreed after its first step. -/
theorem agrees_of_leaves_bind (agrees : σ → Prop) {step : EStateM ε σ α}
    {next : α → EStateM ε σ β} {s : σ}
    (hnext : ∀ a t, agrees (leaves (next a) t) → agrees t)
    (hafter : agrees (leaves (step >>= next) s)) : agrees (leaves step s) := by
  rcases leaves_bind step next s with ⟨a, t, hrun, hleaves⟩ | ⟨e, t, hrun, hbind⟩
  · rw [hleaves] at hafter
    rw [leaves, hrun]
    exact hnext a t hafter
  · rw [leaves, hbind] at hafter
    rwa [leaves, hrun]

namespace Coupled

variable {agrees pre fail : σ → τ → Prop}

/-- Without a condition of agreement, two steps are coupled if one simulates the other. -/
theorem of_simulates {first : EStateM ε σ α} {second : EStateM ε τ α} {R : σ → τ → Prop}
    (hsteps : Simulates pre first second (Alike R) fail) :
    Coupled (fun _ _ => True) pre first second (fun _ => R) fail where
  first_agrees _ _ hagrees := hagrees
  second_agrees _ _ hagrees := hagrees
  related _ _ hpre _ := hsteps hpre

theorem of_related {first : EStateM ε σ α} {second : EStateM ε τ α} {post : α → σ → τ → Prop}
    (hsteps : ∀ s t, pre s t →
      Related (fun a b s t => a = b ∧ post a s t) fail (first s) (second t)) :
    Coupled (fun _ _ => True) pre first second post fail where
  first_agrees _ _ hagrees := hagrees
  second_agrees _ _ hagrees := hagrees
  related s t hpre _ := hsteps s t hpre

theorem simulates {first : EStateM ε σ α} {second : EStateM ε τ α} {R : σ → τ → Prop}
    (hsteps : Coupled (fun _ _ => True) pre first second (fun _ => R) fail) :
    Simulates pre first second (Alike R) fail :=
  fun _ _ hpre => hsteps.related hpre trivial

theorem pure {post : α → σ → τ → Prop} {a : α} (hpost : ∀ s t, pre s t → post a s t) :
    Coupled agrees pre (Pure.pure a : EStateM ε σ α) (Pure.pure a) post fail where
  first_agrees _ _ hagrees := hagrees
  second_agrees _ _ hagrees := hagrees
  related _ _ hpre _ := .ok ⟨rfl, hpost _ _ hpre⟩

theorem mono {pre' fail' : σ → τ → Prop} {post post' : α → σ → τ → Prop}
    {first : EStateM ε σ α} {second : EStateM ε τ α}
    (hsteps : Coupled agrees pre first second post fail) (hpre : ∀ s t, pre' s t → pre s t)
    (hpost : ∀ a s t, post a s t → post' a s t) (hfail : ∀ s t, fail s t → fail' s t) :
    Coupled agrees pre' first second post' fail' where
  first_agrees := hsteps.first_agrees
  second_agrees := hsteps.second_agrees
  related := by
    intro s t hstart hagrees
    have hresult := hsteps.related (hpre s t hstart) hagrees
    generalize first s = one at hresult
    generalize second t = two at hresult
    cases hresult with
    | ok hanswers => exact .ok ⟨hanswers.1, hpost _ _ _ hanswers.2⟩
    | error e hstates => exact .error e (hfail _ _ hstates)

theorem bind {mid : α → σ → τ → Prop} {post : β → σ → τ → Prop}
    {first : EStateM ε σ α} {second : EStateM ε τ α}
    {next : α → EStateM ε σ β} {next' : α → EStateM ε τ β}
    (hsteps : Coupled agrees pre first second mid fail)
    (hnext : ∀ a, Coupled agrees (mid a) (next a) (next' a) post fail) :
    Coupled agrees pre (first >>= next) (second >>= next') post fail where
  first_agrees s t hagrees := hsteps.first_agrees s t
    (agrees_of_leaves_bind (agrees · t) (fun a s => (hnext a).first_agrees s t) hagrees)
  second_agrees s t hagrees := hsteps.second_agrees s t
    (agrees_of_leaves_bind (agrees s) (fun a t => (hnext a).second_agrees s t) hagrees)
  related := by
    intro s t hpre hagrees
    have hmid : agrees (leaves first s) (leaves second t) := by
      refine agrees_of_leaves_bind (agrees (leaves first s))
        (fun a t => (hnext a).second_agrees _ t) ?_
      exact agrees_of_leaves_bind (agrees · _) (fun a s => (hnext a).first_agrees s _) hagrees
    have hresult := hsteps.related hpre hmid
    simp only [leaves, Bind.bind, EStateM.bind] at hagrees ⊢
    generalize first s = one at hresult hagrees
    generalize second t = two at hresult hagrees
    cases hresult with
    | ok hanswers =>
        obtain ⟨rfl, hafter⟩ := hanswers
        exact (hnext _).related hafter hagrees
    | error e hstates => exact .error e hstates

theorem ite {b b' : Bool} {post : α → σ → τ → Prop} {first first' : EStateM ε σ α}
    {second second' : EStateM ε τ α} (hsame : b = b')
    (htrue : b = true → Coupled agrees pre first second post fail)
    (hfalse : b = false → Coupled agrees pre first' second' post fail) :
    Coupled agrees pre (if b then first else first') (if b' then second else second') post
      fail := by
  subst hsame
  cases b with
  | true => exact htrue rfl
  | false => exact hfalse rfl

theorem foldlM {inv : σ → τ → Prop} {step : α → γ → EStateM ε σ α} {step' : α → γ → EStateM ε τ α}
    (hstep : ∀ a c, Coupled agrees inv (step a c) (step' a c) (fun _ => inv) fail)
    (elements : List γ) (a : α) :
    Coupled agrees inv (elements.foldlM step a) (elements.foldlM step' a) (fun _ => inv) fail := by
  induction elements generalizing a with
  | nil => exact Coupled.pure fun _ _ hinv => hinv
  | cons c rest ih =>
      rw [List.foldlM_cons, List.foldlM_cons]
      exact Coupled.bind (hstep a c) ih

theorem mapM {inv : σ → τ → Prop} {step : γ → EStateM ε σ α} {step' : γ → EStateM ε τ α}
    (hstep : ∀ c, Coupled agrees inv (step c) (step' c) (fun _ => inv) fail) (elements : List γ) :
    Coupled agrees inv (elements.mapM step) (elements.mapM step') (fun _ => inv) fail := by
  induction elements with
  | nil =>
      rw [List.mapM_nil, List.mapM_nil]
      exact Coupled.pure fun _ _ hinv => hinv
  | cons c rest ih =>
      rw [List.mapM_cons, List.mapM_cons]
      refine Coupled.bind (hstep c) fun _ => Coupled.bind ih fun _ => ?_
      exact Coupled.pure fun _ _ hinv => hinv

/-- A fold keeps a relation that knows how many elements were taken. -/
theorem foldlM_range' {inv : Nat → σ → τ → Prop} {step : α → γ → EStateM ε σ α}
    {step' : α → γ → EStateM ε τ α} {f : Nat → γ} (start count : Nat)
    (hstep : ∀ k, start ≤ k → k < start + count → ∀ a,
      Coupled agrees (inv k) (step a (f k)) (step' a (f k)) (fun _ => inv (k + 1)) fail) (a : α) :
    Coupled agrees (inv start) (((List.range' start count).map f).foldlM step a)
      (((List.range' start count).map f).foldlM step' a) (fun _ => inv (start + count)) fail := by
  induction count generalizing start a with
  | zero => exact Coupled.pure fun _ _ hinv => hinv
  | succ count ih =>
      rw [List.range'_succ, List.map_cons, List.foldlM_cons, List.foldlM_cons]
      refine Coupled.bind (hstep start (Nat.le_refl _) (by omega) a) fun a => ?_
      have hrest := ih (start + 1) (fun k hlow hhigh => hstep k (by omega) (by omega)) a
      rwa [show start + 1 + count = start + (count + 1) by omega] at hrest

end Coupled

end RoundTrip
