import Mathlib.Algebra.Order.Group.Abs
import Mathlib.Algebra.Order.Group.Unbundled.Abs
import Mathlib.Data.List.Pairwise

/-!
# The closest key of a table

A scan that keeps the first of the keys closest to a point. When the keys increase, the middle
between a key and the next one decides between the two, and the scan is a search by intervals.
-/

namespace Closest

section Scan

variable {K V : Type*} [AddCommGroup K] [LinearOrder K]

/-- Keep the best entry unless the next one is strictly closer to `x`. -/
def closer (x : K) (best entry : K × V) : K × V :=
  if |x - entry.1| < |x - best.1| then entry else best

def closest (x : K) (best : K × V) (entries : List (K × V)) : K × V :=
  entries.foldl (closer x) best

variable {x : K} {a best : K × V} {entries : List (K × V)}

@[simp] lemma closest_nil : closest x best [] = best := rfl

@[simp] lemma closest_cons :
    closest x best (a :: entries) = closest x (closer x best a) entries := rfl

/-- Nothing replaces an entry that is as close as all later ones. -/
lemma closest_eq_self (h : ∀ e ∈ entries, |x - best.1| ≤ |x - e.1|) :
    closest x best entries = best := by
  induction entries with
  | nil => simp
  | cons e entries ih =>
    have hfirst : closer x best e = best := if_neg (not_lt.mpr (h e (by simp)))
    rw [closest_cons, hfirst]
    exact ih fun e' he' => h e' (by simp [he'])

end Scan

/-! ## Increasing keys -/

section Increasing

variable {K V : Type*} [AddCommGroup K] [LinearOrder K] [IsOrderedAddMonoid K]

variable {x a b : K}

/-- Up to the middle of two points the lower one is as close. -/
lemma abs_sub_le_of_add_le (hab : a ≤ b) (hx : x + x ≤ a + b) : |x - a| ≤ |x - b| := by
  have hmid : x - a ≤ b - x := by
    rw [sub_le_sub_iff, add_comm b a]
    exact hx
  have hlow : a - x ≤ b - x := sub_le_sub_right hab x
  calc |x - a| ≤ b - x := abs_sub_le_iff.mpr ⟨hmid, hlow⟩
    _ ≤ |b - x| := le_abs_self _
    _ = |x - b| := abs_sub_comm b x

/-- Past the middle the upper one is strictly closer. -/
lemma abs_sub_lt_of_add_lt (hab : a < b) (hx : a + b < x + x) : |x - b| < |x - a| := by
  have hmid : b - x < x - a := by
    rw [sub_lt_sub_iff, add_comm b a]
    exact hx
  have hhigh : x - b < x - a := sub_lt_sub_left hab x
  calc |x - b| < x - a := abs_sub_lt_iff.mpr ⟨hhigh, hmid⟩
    _ ≤ |x - a| := le_abs_self _

/-- The scan of a table with increasing keys goes on past an entry only beyond the middle between
its key and the next one. -/
lemma closest_of_increasing {x : K} {a b : K × V} {entries : List (K × V)}
    (h : (a :: b :: entries).Pairwise fun e e' => e.1 < e'.1) :
    closest x a (b :: entries) = if x + x ≤ a.1 + b.1 then a else closest x b entries := by
  obtain ⟨ha, hb⟩ := List.pairwise_cons.mp h
  split
  case isTrue hx =>
    refine closest_eq_self fun e he => abs_sub_le_of_add_le (ha e he).le (hx.trans ?_)
    have hbe : b.1 ≤ e.1 := by
      rcases List.mem_cons.mp he with rfl | he
      · exact le_rfl
      · exact ((List.pairwise_cons.mp hb).1 e he).le
    exact add_le_add_right hbe a.1
  case isFalse hx =>
    have hnext : closer x a b = b :=
      if_pos (abs_sub_lt_of_add_lt (ha b (by simp)) (not_le.mp hx))
    rw [closest_cons, hnext]

end Increasing

end Closest
