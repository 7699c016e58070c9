import RoundTrip.CommandLine.Words

/-!
# Completed words

A bare `-v` before the end of the options is completed, and every other word
stays.  What becomes of a word depends on the words before it by one thing only:
whether the end of the options is among them.
-/

namespace RoundTrip

/-- What becomes of a word that is read as an option. -/
def completed (word : Word) : Word := if word = ascii "-v" then ascii "-v1" else word

/-- A completed word neither ends the options nor is completed again. -/
theorem completed_ne {word : Word} (hopen : word ≠ endOfOptions) :
    completed word ≠ endOfOptions ∧ completed word ≠ ascii "-v" := by
  rw [completed]
  split
  · decide
  · exact ⟨hopen, ‹_›⟩

theorem attachVerbosity_of_ended (rest : List Word) :
    attachVerbosity (endOfOptions :: rest) = endOfOptions :: rest := by
  rw [attachVerbosity, if_pos rfl]

/-- A word that does not end the options is completed, and so are the words after it. -/
theorem attachVerbosity_cons {word : Word} (hopen : word ≠ endOfOptions) (rest : List Word) :
    attachVerbosity (word :: rest) = completed word :: attachVerbosity rest := by
  rw [attachVerbosity, if_neg hopen, completed]
  split <;> rfl

/-- The first word is completed, since the end of the options is not completed either. -/
theorem head?_attachVerbosity (words : List Word) :
    (attachVerbosity words).head? = words.head?.map completed := by
  cases words with
  | nil => rfl
  | cons word rest =>
      by_cases hended : word = endOfOptions
      · subst hended
        rfl
      · rw [attachVerbosity_cons hended]
        rfl

/-- Words are completed on their own up to the end of the options, and stay from there on. -/
theorem attachVerbosity_append (first rest : List Word) :
    attachVerbosity (first ++ rest) =
      attachVerbosity first ++ if endOfOptions ∈ first then rest else attachVerbosity rest := by
  induction first with
  | nil => rfl
  | cons word first ih =>
      by_cases hended : word = endOfOptions
      · subst hended
        rw [List.cons_append, attachVerbosity_of_ended, attachVerbosity_of_ended,
          if_pos List.mem_cons_self, List.cons_append]
      · have hmem : endOfOptions ∈ word :: first ↔ endOfOptions ∈ first :=
          ⟨fun hmem => (List.mem_cons.mp hmem).resolve_left (Ne.symm hended),
            List.mem_cons_of_mem word⟩
        rw [List.cons_append, attachVerbosity_cons hended, attachVerbosity_cons hended, ih,
          List.cons_append]
        simp only [hmem]

theorem endOfOptions_mem_attachVerbosity_iff (words : List Word) :
    endOfOptions ∈ attachVerbosity words ↔ endOfOptions ∈ words := by
  induction words with
  | nil => exact Iff.rfl
  | cons word rest ih =>
      by_cases hended : word = endOfOptions
      · subst hended
        rw [attachVerbosity_of_ended]
      · have hcompleted := Ne.symm (completed_ne hended).1
        rw [attachVerbosity_cons hended, List.mem_cons, List.mem_cons, ih,
          or_iff_right hcompleted, or_iff_right (Ne.symm hended)]

/-- A word before the end of the options comes from one before the end of the options. -/
theorem exists_of_attachVerbosity {words before after : List Word} {word : Word}
    (heq : attachVerbosity words = before ++ word :: after) (hbefore : endOfOptions ∉ before) :
    ∃ front original back, words = front ++ original :: back ∧ endOfOptions ∉ front ∧
      word = completed original := by
  induction before generalizing words with
  | nil =>
      cases words with
      | nil => contradiction
      | cons original back =>
          have hhead := head?_attachVerbosity (original :: back)
          rw [heq] at hhead
          exact ⟨[], original, back, rfl, List.not_mem_nil, Option.some.inj hhead⟩
  | cons first before ih =>
      rw [List.mem_cons, not_or] at hbefore
      obtain ⟨hfirst, hbefore⟩ := hbefore
      cases words with
      | nil => contradiction
      | cons original rest =>
          by_cases hended : original = endOfOptions
          · subst hended
            rw [attachVerbosity_of_ended] at heq
            exact absurd (List.cons.inj heq).1 hfirst
          · rw [attachVerbosity_cons hended] at heq
            obtain ⟨front, word, back, rfl, hfront, hword⟩ := ih (List.cons.inj heq).2 hbefore
            exact ⟨original :: front, word, back, rfl,
              List.not_mem_cons_of_ne_of_not_mem (Ne.symm hended) hfront, hword⟩

theorem attachVerbosity_idem (words : List Word) :
    attachVerbosity (attachVerbosity words) = attachVerbosity words := by
  induction words with
  | nil => rfl
  | cons word rest ih =>
      by_cases hended : word = endOfOptions
      · subst hended
        rw [attachVerbosity_of_ended, attachVerbosity_of_ended]
      · obtain ⟨hopen, hfull⟩ := completed_ne hended
        rw [attachVerbosity_cons hended, attachVerbosity_cons hopen, completed, if_neg hfull, ih]

/-- The word at a place, from the words before that place. -/
theorem getElem?_attachVerbosity (words : List Word) (i : Nat) :
    (attachVerbosity words)[i]? =
      words[i]?.map fun word =>
        if word = ascii "-v" ∧ endOfOptions ∉ words.take i then ascii "-v1" else word := by
  by_cases hplace : i < words.length
  · have hfront : (attachVerbosity (words.take i)).length = i := by
      rw [length_attachVerbosity, List.length_take, Nat.min_eq_left (Nat.le_of_lt hplace)]
    have hsplit := attachVerbosity_append (words.take i) (words.drop i)
    rw [List.take_append_drop] at hsplit
    rw [hsplit, List.getElem?_append_right (Nat.le_of_eq hfront), hfront, Nat.sub_self,
      ← List.head?_eq_getElem?]
    by_cases hended : endOfOptions ∈ words.take i
    · simp only [hended, not_true, and_false, if_true, if_false, Option.map_id', List.head?_drop]
    · simp only [hended, not_false_iff, and_true, if_false, head?_attachVerbosity, List.head?_drop]
      rfl
  · rw [List.getElem?_eq_none (by rw [length_attachVerbosity]; exact Nat.le_of_not_lt hplace),
      List.getElem?_eq_none (Nat.le_of_not_lt hplace)]
    rfl

/-- There are as many words as before, each at its place: completed where it is a bare `-v` and the
options have not ended before it, and the same otherwise.  Completing twice is completing once, and
a command line is completed part by part. -/
theorem attachVerbosity_only_completes :
    (∀ words, (attachVerbosity words).length = words.length ∧
      (∀ i, (attachVerbosity words)[i]? =
        words[i]?.map fun word =>
          if word = ascii "-v" ∧ endOfOptions ∉ words.take i then ascii "-v1" else word) ∧
      attachVerbosity (attachVerbosity words) = attachVerbosity words) ∧
    ∀ first rest, attachVerbosity (first ++ rest) =
      attachVerbosity first ++ if endOfOptions ∈ first then rest else attachVerbosity rest :=
  ⟨fun words => ⟨length_attachVerbosity words, getElem?_attachVerbosity words,
    attachVerbosity_idem words⟩, attachVerbosity_append⟩

end RoundTrip
