/-! # Steps over a part of a state

A step is a computation that may fail and keeps its state either way. A step over one part of a
larger state runs on the whole by `onPart`.
-/
namespace RoundTrip

/-- Runs a step on a part of the state, which is put back whatever the outcome. -/
@[inline] def onPart {σ ρ ε α : Type} (part : σ → ρ) (replace : ρ → σ → σ) (step : EStateM ε ρ α) :
    EStateM ε σ α := fun s =>
  match step (part s) with
  | .ok a r => .ok a (replace r s)
  | .error e r => .error e (replace r s)

/-- Runs a step and goes on with its answer or its fault. -/
@[inline] def attempt {σ ε φ α : Type} (step : EStateM ε σ α) : EStateM φ σ (Except ε α) := fun s =>
  match step s with
  | .ok a s => .ok (.ok a) s
  | .error e s => .ok (.error e) s

/-- Changes the state by a function that also answers. -/
@[inline] def change {σ ε α : Type} (f : σ → α × σ) : EStateM ε σ α := fun s =>
  let (a, s) := f s
  .ok a s

/-- What a step answers, without the state it leaves. -/
def answer {σ ε α : Type} (step : EStateM ε σ α) (s : σ) : Except ε α :=
  match step s with
  | .ok a _ => .ok a
  | .error e _ => .error e

/-- The state that a step leaves, whether it failed or not. -/
def leaves {σ ε α : Type} (step : EStateM ε σ α) (s : σ) : σ :=
  match step s with
  | .ok _ t => t
  | .error _ t => t

end RoundTrip
