/-! # Chunks

An input of so many bytes is cut into chunks of one size, of which only the last may be shorter.
With chunks of no bytes there are none.
-/
namespace RoundTrip

/-- What is left to cut, and the size of a chunk. -/
structure Chunks where
  remaining : Nat
  size : Nat

namespace Chunks

/-- The next length and what is left then. -/
def next? (c : Chunks) : Option (Nat × Chunks) :=
  if c.remaining = 0 ∨ c.size = 0 then none
  else some (min c.remaining c.size, { c with remaining := c.remaining - min c.remaining c.size })

/-- The first `n` lengths and what is left then. -/
def first : Nat → Chunks → List Nat × Chunks
  | 0, c => ([], c)
  | n + 1, c =>
      match c.next? with
      | none => ([], c)
      | some (length, c) =>
          let (lengths, c) := first n c
          (length :: lengths, c)

/-- How many chunks so many bytes are cut into. -/
def count (size remaining : Nat) : Nat :=
  if size = 0 then 0 else (remaining + size - 1) / size

theorem count_zero (size : Nat) : count size 0 = 0 := by
  unfold count
  split
  · rfl
  · exact Nat.div_eq_of_lt (by omega)

/-- Taking one chunk off leaves one chunk less. -/
theorem count_eq_succ {size remaining : Nat} (hs : 0 < size) (hr : 0 < remaining) :
    count size remaining = count size (remaining - min remaining size) + 1 := by
  have positive : size ≠ 0 := by omega
  simp only [count, positive, if_false]
  by_cases fits : remaining ≤ size
  · rw [Nat.min_eq_left fits, Nat.sub_self, Nat.zero_add,
      show remaining + size - 1 = remaining - 1 + size by omega, Nat.add_div_right _ hs,
      Nat.div_eq_of_lt (show remaining - 1 < size by omega),
      Nat.div_eq_of_lt (show size - 1 < size by omega)]
  · rw [Nat.min_eq_right (by omega),
      show remaining + size - 1 = remaining - size + size - 1 + size by omega,
      Nat.add_div_right _ hs]

/-- So many lengths, cut from what remains. -/
def cut (size : Nat) : Nat → Nat → List Nat
  | 0, _ => []
  | n + 1, remaining => min remaining size :: cut size n (remaining - min remaining size)

/-- All lengths. -/
def lengths (size remaining : Nat) : List Nat := cut size (count size remaining) remaining

theorem lengths_zero (size : Nat) : lengths size 0 = [] := by
  rw [lengths, count_zero]
  rfl

theorem lengths_cons {size remaining : Nat} (hs : 0 < size) (hr : 0 < remaining) :
    lengths size remaining =
      min remaining size :: lengths size (remaining - min remaining size) := by
  rw [lengths, count_eq_succ hs hr]
  rfl

/-- No chunk is empty or longer than the size. -/
theorem mem_lengths {size remaining length : Nat} (hs : 0 < size)
    (h : length ∈ lengths size remaining) : 0 < length ∧ length ≤ size := by
  induction remaining using Nat.strongRecOn with
  | ind remaining ih =>
      rcases Nat.eq_zero_or_pos remaining with rfl | hr
      · rw [lengths_zero] at h
        contradiction
      · rw [lengths_cons hs hr] at h
        rcases List.mem_cons.mp h with rfl | inRest
        · omega
        · exact ih _ (by omega) inRest

/-- Takes so many steps, one for each length cut from what remains, until one fails. -/
def steps {σ ε β : Type} (step : β → Nat → EStateM ε σ β) (size : Nat) :
    Nat → Nat → β → σ → EStateM.Result ε σ β
  | 0, _, b, s => .ok b s
  | n + 1, remaining, b, s =>
      match step b (min remaining size) s with
      | .ok b s => steps step size n (remaining - min remaining size) b s
      | .error e s => .error e s

theorem steps_eq {σ ε β : Type} (step : β → Nat → EStateM ε σ β) (size n remaining : Nat) (b : β)
    (s : σ) : steps step size n remaining b s = (cut size n remaining).foldlM step b s := by
  induction n generalizing remaining b s with
  | zero => rfl
  | succ n ih =>
      simp only [steps, cut, List.foldlM_cons, bind, EStateM.bind]
      cases step b (min remaining size) s with
      | ok b s => exact ih (remaining - min remaining size) b s
      | error e s => rfl

/-- Takes a step for each length in turn, without laying out the lengths. -/
def foldSteps {σ ε β : Type} (step : β → Nat → EStateM ε σ β) (size remaining : Nat) (b : β) :
    EStateM ε σ β := steps step size (count size remaining) remaining b

theorem foldSteps_eq {σ ε β : Type} (step : β → Nat → EStateM ε σ β) (size remaining : Nat)
    (b : β) : foldSteps step size remaining b = (lengths size remaining).foldlM step b :=
  funext (steps_eq step size (count size remaining) remaining b)

end Chunks
end RoundTrip
