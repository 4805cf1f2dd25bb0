import Mathlib.Algebra.Order.Field.Power
import Mathlib.Data.Int.Log
import Mathlib.Data.Rat.Floor
import Mathlib.Tactic.FieldSimp
import Mathlib.Tactic.Linarith
import Mathlib.Tactic.NormNum
import Mathlib.Tactic.Positivity

/-!
# Rounding to binary64

The value of a floating-point operation is the exact value rounded to the nearest number with 53
significant bits, halfway to the even one.  The range of the exponent is left open: there is no
overflow and no underflow.  What is used of the rounding is that it keeps what needs no rounding
(`round_of_dyadic`), that it is monotone (`round_mono`), how far off it is at most
(`abs_round_sub_le`), and when a sum is rounded up to the next whole number
(`round_natCast_add_lt_iff`).
-/

namespace Binary64

/-- The whole number nearest to `y`, halfway the even one. -/
def nearest (y : ℚ) : ℤ :=
  if Int.fract y < 1 / 2 then ⌊y⌋
  else if 1 / 2 < Int.fract y then ⌊y⌋ + 1
  else if Even ⌊y⌋ then ⌊y⌋ else ⌊y⌋ + 1

/-- The distance between neighbours where `x` lies. -/
def ulp (x : ℚ) : ℚ := 2 ^ (Int.log 2 |x| - 52)

def round (x : ℚ) : ℚ := nearest (x / ulp x) * ulp x

/-- `x` rounded to a multiple of `u`, as a sum is that has `u` for the distance between its
neighbours. -/
def onGrid (u x : ℚ) : ℚ := nearest (x / u) * u

lemma nearest_intCast (n : ℤ) : nearest n = n := by
  simp [nearest]

lemma floor_le_nearest (y : ℚ) : ⌊y⌋ ≤ nearest y := by
  unfold nearest
  split_ifs <;> omega

lemma nearest_le_floor_add_one (y : ℚ) : nearest y ≤ ⌊y⌋ + 1 := by
  unfold nearest
  split_ifs <;> omega

lemma nearest_mono {y z : ℚ} (h : y ≤ z) : nearest y ≤ nearest z := by
  rcases (Int.floor_mono h).eq_or_lt with heq | hlt
  · -- between the same whole numbers the fractions decide
    have hfract : Int.fract y ≤ Int.fract z := by
      rw [Int.fract, Int.fract, heq]
      exact sub_le_sub_right h _
    unfold nearest
    rw [heq]
    split_ifs <;> first | omega | (exfalso; linarith)
  · calc nearest y ≤ ⌊y⌋ + 1 := nearest_le_floor_add_one y
      _ ≤ ⌊z⌋ := hlt
      _ ≤ nearest z := floor_le_nearest z

lemma abs_nearest_sub_le (y : ℚ) : |(nearest y : ℚ) - y| ≤ 1 / 2 := by
  have hy := Int.floor_add_fract y
  have h₀ := Int.fract_nonneg y
  have h₁ := Int.fract_lt_one y
  unfold nearest
  rw [abs_le]
  split_ifs <;> push_cast <;> constructor <;> linarith

lemma nearest_add_of_even {n : ℤ} (h : Even n) (y : ℚ) : nearest (n + y) = n + nearest y := by
  have heven : Even (n + ⌊y⌋) ↔ Even ⌊y⌋ := by simp [Int.even_add, h]
  unfold nearest
  simp only [Int.fract_intCast_add, Int.floor_intCast_add, heven]
  split_ifs <;> ring

/-- The middle below an even number is rounded up to it. -/
lemma nearest_sub_half {n : ℤ} (h : Even n) : nearest (n - 1 / 2) = n := by
  have hfloor : ⌊(n : ℚ) - 1 / 2⌋ = n - 1 := by
    rw [Int.floor_eq_iff]
    push_cast
    constructor <;> linarith
  have hodd : ¬ Even (n - 1) := by simp [h]
  have hfract : Int.fract ((n : ℚ) - 1 / 2) = 1 / 2 := by
    rw [Int.fract, hfloor]
    push_cast
    ring
  rw [nearest, hfract, hfloor, if_neg (lt_irrefl _), if_neg (lt_irrefl _), if_neg hodd]
  omega

lemma nearest_lt_iff {n : ℤ} (h : Even n) {y : ℚ} : nearest y < n ↔ y < n - 1 / 2 := by
  constructor
  · intro hlt
    by_contra hge
    have hmono := nearest_mono (not_lt.mp hge)
    rw [nearest_sub_half h] at hmono
    omega
  · intro hlt
    have herror := (abs_le.mp (abs_nearest_sub_le y)).2
    have hcast : (nearest y : ℚ) < n := by linarith
    exact_mod_cast hcast

@[simp] lemma round_zero : round 0 = 0 := by
  simp [round, nearest]

lemma ulp_pos (x : ℚ) : 0 < ulp x := by
  unfold ulp
  positivity

lemma zpow_log_eq (x : ℚ) : (2 : ℚ) ^ Int.log 2 |x| = (2 ^ 52 : ℤ) * ulp x := by
  have hexp : Int.log 2 |x| = (52 : ℕ) + (Int.log 2 |x| - 52) := by omega
  conv_lhs => rw [hexp, zpow_add₀ two_ne_zero, zpow_natCast]
  rw [ulp]
  norm_cast

lemma zpow_log_le {x : ℚ} (h : 0 < x) : (2 : ℚ) ^ Int.log 2 |x| ≤ x := by
  have hle := Int.zpow_log_le_self (b := 2) Nat.one_lt_two (abs_pos.mpr h.ne')
  rw [abs_of_pos h] at hle ⊢
  exact_mod_cast hle

lemma lt_zpow_succ_log (x : ℚ) : x < (2 : ℚ) ^ (Int.log 2 |x| + 1) := by
  exact_mod_cast (le_abs_self x).trans_lt (Int.lt_zpow_succ_log_self (b := 2) Nat.one_lt_two |x|)

/-- A number that is a multiple of the distance between its neighbours needs no rounding. -/
lemma round_of_eq {x : ℚ} {n : ℤ} (h : x = n * ulp x) : round x = x := by
  have hdiv : x / ulp x = n := by rw [div_eq_iff (ulp_pos x).ne', ← h]
  rw [round, hdiv, nearest_intCast, ← h]

/-- **No rounding** of a number with at most 53 significant bits.  Whole numbers below `2 ^ 53` are
such, and so are their products with powers of two. -/
theorem round_of_dyadic {m : ℤ} (e : ℤ) (hm : |m| < 2 ^ 53) :
    round ((m : ℚ) * 2 ^ e) = m * 2 ^ e := by
  rcases eq_or_ne m 0 with rfl | hne
  · simp
  -- the spacing of the floats next to the number is at most `2 ^ e`
  have hlog : Int.log 2 |(m : ℚ) * 2 ^ e| - 52 ≤ e := by
    have hpos : 0 < |(m : ℚ) * 2 ^ e| := by positivity
    have hlt : (2 : ℚ) ^ Int.log 2 |(m : ℚ) * 2 ^ e| < 2 ^ (53 + e) := by
      calc (2 : ℚ) ^ Int.log 2 |(m : ℚ) * 2 ^ e| ≤ |(m : ℚ) * 2 ^ e| := by
            exact_mod_cast Int.zpow_log_le_self (b := 2) Nat.one_lt_two hpos
        _ = |(m : ℚ)| * 2 ^ e := by rw [abs_mul, abs_of_pos (by positivity : (0 : ℚ) < 2 ^ e)]
        _ < 2 ^ 53 * 2 ^ e := by
            have hcast : |(m : ℚ)| < 2 ^ 53 := by exact_mod_cast hm
            gcongr
        _ = 2 ^ (53 + e) := by rw [zpow_add₀ two_ne_zero]; rfl
    have := (zpow_lt_zpow_iff_right₀ one_lt_two).mp hlt
    omega
  obtain ⟨d, hd⟩ := Int.le.dest hlog
  refine round_of_eq (n := m * 2 ^ d) ?_
  have hsplit : (2 : ℚ) ^ e = 2 ^ d * ulp ((m : ℚ) * 2 ^ e) := by
    conv_lhs => rw [← hd]
    rw [zpow_add₀ two_ne_zero, zpow_natCast, mul_comm]
    rfl
  conv_lhs => rw [hsplit]
  push_cast
  ring

lemma round_natCast {n : ℕ} (hn : n < 2 ^ 53) : round n = n := by
  have hround := round_of_dyadic (m := n) 0 (by rw [Nat.abs_cast]; exact_mod_cast hn)
  simpa using hround

lemma onGrid_nonneg {u x : ℚ} (hu : 0 ≤ u) (h : 0 ≤ x) : 0 ≤ onGrid u x := by
  have hdiv : 0 ≤ ⌊x / u⌋ := Int.floor_nonneg.mpr (div_nonneg h hu)
  exact mul_nonneg (by exact_mod_cast hdiv.trans (floor_le_nearest _)) hu

lemma round_nonneg {x : ℚ} (h : 0 ≤ x) : 0 ≤ round x := onGrid_nonneg (ulp_pos x).le h

/-- Rounding does not leave the powers of two on either side. -/
lemma zpow_le_round {x : ℚ} (h : 0 < x) : 2 ^ Int.log 2 |x| ≤ round x := by
  have hle := zpow_log_le h
  rw [zpow_log_eq] at hle ⊢
  have hdiv : ((2 ^ 52 : ℤ) : ℚ) ≤ x / ulp x := (le_div_iff₀ (ulp_pos x)).mpr hle
  have hnearest : 2 ^ 52 ≤ nearest (x / ulp x) :=
    (nearest_intCast (2 ^ 52)).symm.le.trans (nearest_mono hdiv)
  exact mul_le_mul_of_nonneg_right (by exact_mod_cast hnearest) (ulp_pos x).le

lemma round_le_zpow (x : ℚ) : round x ≤ 2 ^ (Int.log 2 |x| + 1) := by
  have hlt := (lt_zpow_succ_log x).le
  have heq : (2 : ℚ) ^ (Int.log 2 |x| + 1) = (2 ^ 53 : ℤ) * ulp x := by
    rw [zpow_add_one₀ two_ne_zero, zpow_log_eq]
    push_cast
    ring
  rw [heq] at hlt ⊢
  have hdiv : x / ulp x ≤ ((2 ^ 53 : ℤ) : ℚ) := (div_le_iff₀ (ulp_pos x)).mpr hlt
  have hnearest : nearest (x / ulp x) ≤ 2 ^ 53 :=
    (nearest_mono hdiv).trans (nearest_intCast (2 ^ 53)).le
  exact mul_le_mul_of_nonneg_right (by exact_mod_cast hnearest) (ulp_pos x).le

/-- **Rounding is monotone**, here where no number is negative.  Together with the first rule it
keeps a comparison with a number that needs no rounding. -/
theorem round_mono {x y : ℚ} (h₀ : 0 ≤ x) (h : x ≤ y) : round x ≤ round y := by
  rcases h₀.eq_or_lt with rfl | hx
  · simpa using round_nonneg h
  have hlog : Int.log 2 |x| ≤ Int.log 2 |y| := by
    rw [abs_of_pos hx, abs_of_pos (hx.trans_le h)]
    exact Int.log_mono_right hx h
  rcases hlog.eq_or_lt with heq | hlt
  · have hulp : ulp x = ulp y := by rw [ulp, ulp, heq]
    have hle : nearest (x / ulp y) ≤ nearest (y / ulp y) :=
      nearest_mono (div_le_div_of_nonneg_right h (ulp_pos y).le)
    rw [round, round, hulp]
    exact mul_le_mul_of_nonneg_right (by exact_mod_cast hle) (ulp_pos y).le
  · -- a power of two lies between them
    calc round x ≤ 2 ^ (Int.log 2 |x| + 1) := round_le_zpow x
      _ ≤ 2 ^ Int.log 2 |y| := zpow_le_zpow_right₀ one_le_two hlt
      _ ≤ round y := zpow_le_round (hx.trans_le h)

/-- A whole number below is not passed: it needs no rounding itself, and rounding is monotone. -/
lemma natCast_le_round {n : ℕ} {x : ℚ} (hn : n < 2 ^ 53) (h : (n : ℚ) ≤ x) : (n : ℚ) ≤ round x := by
  calc (n : ℚ) = round n := (round_natCast hn).symm
    _ ≤ round x := round_mono (Nat.cast_nonneg n) h

/-- **The error** is at most half the distance between neighbours. -/
theorem abs_round_sub_le {x : ℚ} (h : 0 ≤ x) : |round x - x| ≤ x / 2 ^ 53 := by
  rcases h.eq_or_lt with rfl | hx
  · simp
  have hnearest := abs_nearest_sub_le (x / ulp x)
  have hulp : ulp x ≤ x / 2 ^ 52 := by
    have hle := zpow_log_le hx
    rw [zpow_log_eq] at hle
    rw [le_div_iff₀ (by positivity)]
    push_cast at hle
    linarith
  have hsub : round x - x = (nearest (x / ulp x) - x / ulp x) * ulp x := by
    rw [round, sub_mul, div_mul_cancel₀ _ (ulp_pos x).ne']
  calc |round x - x| = |(nearest (x / ulp x) : ℚ) - x / ulp x| * ulp x := by
        rw [hsub, abs_mul, abs_of_pos (ulp_pos x)]
    _ ≤ 1 / 2 * (x / 2 ^ 52) := mul_le_mul hnearest hulp (ulp_pos x).le (by norm_num)
    _ = x / 2 ^ 53 := by ring

/-- Below `2 ^ 52` a half is a multiple of the distance between neighbours. -/
lemma exists_even_mul_ulp {x : ℚ} (h₀ : 0 < x) (h : x < 2 ^ 52) (n : ℤ) :
    ∃ m : ℤ, Even m ∧ (n : ℚ) = m * ulp x := by
  have hlog : Int.log 2 |x| < 52 := by
    have hlt : (2 : ℚ) ^ Int.log 2 |x| < 2 ^ (52 : ℤ) :=
      (zpow_log_le h₀).trans_lt (by exact_mod_cast h)
    exact (zpow_lt_zpow_iff_right₀ one_lt_two).mp hlt
  obtain ⟨d, hd⟩ := Int.le.dest (Int.add_one_le_iff.mpr hlog)
  refine ⟨n * 2 ^ (d + 1), ((even_two.pow_of_ne_zero d.succ_ne_zero).mul_left n), ?_⟩
  have hulp : ulp x = (2 ^ (d + 1))⁻¹ := by
    have hexp : Int.log 2 |x| - 52 = -((d + 1 : ℕ) : ℤ) := by push_cast; omega
    rw [ulp, hexp, zpow_neg, zpow_natCast]
  rw [hulp]
  push_cast
  field_simp

lemma round_natCast_add {n : ℕ} {y : ℚ} (h₀ : 0 < n + y) (h : n + y < 2 ^ 52) :
    round (n + y) = n + onGrid (ulp (n + y)) y := by
  obtain ⟨m, heven, hm⟩ := exists_even_mul_ulp h₀ h n
  have hulp := (ulp_pos (n + y)).ne'
  have hdiv : ((n : ℚ) + y) / ulp (n + y) = m + y / ulp (n + y) := by
    rw [add_div]
    congr 1
    rw [div_eq_iff hulp]
    exact_mod_cast hm
  rw [round, hdiv, nearest_add_of_even heven, onGrid]
  push_cast
  rw [add_mul, ← hm]
  norm_cast

lemma ulp_natCast_add {n : ℕ} (hn : 0 < n) {y : ℚ} (h₀ : 0 ≤ y) (h₁ : y < 1) :
    ulp (n + y) = ulp n := by
  have hone : (1 : ℚ) ≤ n := by exact_mod_cast hn
  have hfloor : ⌊(n : ℚ) + y⌋₊ = n := by
    rw [Nat.floor_eq_iff (by positivity)]
    constructor <;> linarith
  have hlog : Int.log 2 ((n : ℚ) + y) = Int.log 2 (n : ℚ) := by
    rw [Int.log_of_one_le_right _ (hone.trans (le_add_of_nonneg_right h₀)), hfloor,
      Int.log_natCast]
  rw [ulp, ulp, abs_of_nonneg (by positivity), abs_of_nonneg (Nat.cast_nonneg n), hlog]

/-- **A whole number is not reached** from the one before exactly if what is added stays away from 1
by more than half the distance between the neighbours. -/
theorem round_natCast_add_lt_iff {n : ℕ} (hn : 0 < n) (h : (n : ℚ) + 1 < 2 ^ 52) {y : ℚ}
    (h₀ : 0 ≤ y) : round (n + y) < n + 1 ↔ y < 1 - ulp n / 2 := by
  have hpos : (0 : ℚ) < n := by exact_mod_cast hn
  have hulp := ulp_pos (n : ℚ)
  rcases lt_or_ge y 1 with h₁ | h₁
  · obtain ⟨m, heven, hm⟩ := exists_even_mul_ulp hpos (lt_trans (lt_add_one _) h) (n + 1)
    push_cast at hm
    rw [round, ulp_natCast_add hn h₀ h₁]
    calc (nearest ((n + y) / ulp n) : ℚ) * ulp n < n + 1
        ↔ nearest ((n + y) / ulp n) < m := by
          rw [hm, mul_lt_mul_iff_left₀ hulp, Int.cast_lt]
      _ ↔ (n + y) / ulp n < m - 1 / 2 := nearest_lt_iff heven
      _ ↔ n + y < (m - 1 / 2) * ulp n := div_lt_iff₀ hulp
      _ ↔ y < 1 - ulp n / 2 := by
          rw [sub_mul, ← hm]
          constructor <;> intro hlt <;> linarith
  · refine iff_of_false (not_lt.mpr ?_) (by linarith)
    have hle : (((n + 1 : ℕ) : ℚ)) ≤ round (n + y) := by
      refine natCast_le_round ?_ ?_
      · have : ((n + 1 : ℕ) : ℚ) < (2 ^ 53 : ℕ) := by push_cast; linarith
        exact_mod_cast this
      · push_cast
        linarith
    exact_mod_cast hle

end Binary64
