import RoundTrip.Notice

/-! # The console

A console shows the notices whose level is within its threshold, in the order in which they come,
and drops the others. Nothing reads it back.
-/
namespace RoundTrip

structure Console where
  threshold : Nat
  shown : Array Notice

namespace Console

def ofThreshold (threshold : Nat) : Console := ⟨threshold, #[]⟩

/-- The verbosity in use for a requested one: anything but one to four means errors only. -/
def clampVerbosity (requested : Nat) : Nat :=
  if 1 ≤ requested ∧ requested ≤ 4 then requested else 1

theorem clampVerbosity_idem (n : Nat) : clampVerbosity (clampVerbosity n) = clampVerbosity n := by
  unfold clampVerbosity
  split <;> simp_all

def say (c : Console) (notice : Notice) : Console :=
  if notice.level.rank ≤ c.threshold then { c with shown := c.shown.push notice } else c

theorem say_of_le {c : Console} {notice : Notice} (h : notice.level.rank ≤ c.threshold) :
    c.say notice = { c with shown := c.shown.push notice } := if_pos h

theorem say_of_lt {c : Console} {notice : Notice} (h : c.threshold < notice.level.rank) :
    c.say notice = c := if_neg (Nat.not_le.mpr h)

@[simp] theorem threshold_say (c : Console) (notice : Notice) :
    (c.say notice).threshold = c.threshold := by
  unfold say
  split <;> rfl

/-- Everything shown, as one text. -/
def text (c : Console) : String := String.join (c.shown.toList.map Notice.text)

end Console
end RoundTrip
