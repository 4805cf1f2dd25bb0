import Mathlib.Logic.Function.Iterate
import Mathlib.Tactic.Common

/-!
# Countdowns

A countdown has `lag` deadlines to go, and `time` ticks left before the next one.  A tick uses
up time; a tick without time left meets the deadline, and a period `T` is granted for the one
after it.  Nothing happens once no deadline is left.

`remaining` is the number of ticks to the end.  Every tick takes one off (`remaining_tick`), so
the state after any number of ticks is known without looking at the ticks in between
(`lag_iterate_eq_zero_iff`).
-/

/-- The deadlines to go, and the time left before the next. -/
structure Countdown where
  lag : ℕ
  time : ℕ
deriving DecidableEq, Repr

namespace Countdown

variable (T : ℕ) (c : Countdown)

/-- A tick meets a deadline. -/
def Due : Prop := c.lag ≠ 0 ∧ c.time = 0

instance : Decidable c.Due := inferInstanceAs (Decidable (_ ∧ _))

def tick : Countdown :=
  if c.lag = 0 then c else if c.time = 0 then ⟨c.lag - 1, T⟩ else ⟨c.lag, c.time - 1⟩

/-- The ticks needed to meet all deadlines. -/
def remaining : ℕ := if c.lag = 0 then 0 else (c.time + 1) + (c.lag - 1) * (T + 1)

@[simp] lemma remaining_eq_zero_iff : c.remaining T = 0 ↔ c.lag = 0 := by
  unfold remaining
  split <;> simp [*]

/-- A tick meets at most one deadline: there is one fewer to go where it was due, and as many
as before otherwise. -/
lemma lag_tick : (c.tick T).lag + (if c.Due then 1 else 0) = c.lag := by
  unfold tick Due
  by_cases hl : c.lag = 0
  · simp [hl]
  · by_cases ht : c.time = 0
    · simp [hl, ht]
      omega
    · simp [hl, ht]

/-- **A tick takes one off the ticks that remain.** -/
lemma remaining_tick : (c.tick T).remaining T = c.remaining T - 1 := by
  unfold tick
  split_ifs with hl ht
  · simp [remaining, hl]
  · obtain ⟨d, hd⟩ : ∃ d, c.lag = d + 1 := Nat.exists_eq_succ_of_ne_zero hl
    cases d with
    | zero => simp [remaining, hd, ht]
    | succ d =>
      simp only [remaining, hd, ht, Nat.add_sub_cancel, Nat.add_one_ne_zero, if_false,
        Nat.add_mul]
      omega
  · simp only [remaining, hl, if_false]
    omega

lemma remaining_iterate (n : ℕ) : ((tick T)^[n] c).remaining T = c.remaining T - n := by
  induction n with
  | zero => rfl
  | succ n ih => rw [Function.iterate_succ_apply', remaining_tick, ih, Nat.sub_sub]

/-- **The end is reached exactly when the remaining ticks have passed.** -/
theorem lag_iterate_eq_zero_iff (n : ℕ) : ((tick T)^[n] c).lag = 0 ↔ c.remaining T ≤ n := by
  rw [← remaining_eq_zero_iff T, remaining_iterate, Nat.sub_eq_zero_iff_le]

end Countdown
