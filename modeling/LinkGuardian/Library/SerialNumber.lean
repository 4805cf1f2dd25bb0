import Mathlib.Data.BitVec
import Mathlib.Tactic

/-!
# Wrap-around numbers with an era bit

An unbounded counter `n` is carried as its low `w` bits (`wire w n`) and one more bit, the
parity of its number of wraps (`era w n`).  Two counters that lie within half a range of each
other are compared from their carried parts alone: with equal eras by the plain unsigned
order, with different eras after both have been shifted back by half a range.

`eraLe_stamp_iff` is the correctness of that comparison, `wire_inj_of_near` the uniqueness of
the counter denoted inside a window, and `era_succ_of_ne` / `era_succ_of_eq` say when the era
of a counter follows its successor.
-/

namespace SerialNumber

/-- The low `w` bits of a counter. -/
def wire (w n : ℕ) : BitVec w := BitVec.ofNat w n

/-- The parity of the number of times a `w`-bit register has wrapped when it counts to `n`. -/
def era (w n : ℕ) : BitVec 1 := BitVec.ofNat 1 (n / 2 ^ w)

/-- The two counters are at most `h` apart. -/
def Within (h m n : ℕ) : Prop := m ≤ n + h ∧ n ≤ m + h

instance (h m n : ℕ) : Decidable (Within h m n) := inferInstanceAs (Decidable (_ ∧ _))

lemma Within.symm {h m n : ℕ} (hw : Within h m n) : Within h n m := ⟨hw.2, hw.1⟩

lemma Within.mono {h h' m n : ℕ} (hw : Within h m n) (hh : h ≤ h') : Within h' m n :=
  ⟨by have := hw.1; omega, by have := hw.2; omega⟩

/-! ## The carried number -/

lemma wire_toNat (w n : ℕ) : (wire w n).toNat = n % 2 ^ w := BitVec.toNat_ofNat n w

lemma wire_eq_iff {w m n : ℕ} : wire w m = wire w n ↔ m % 2 ^ w = n % 2 ^ w := by
  rw [← BitVec.toNat_inj, wire_toNat, wire_toNat]

lemma wire_add (w m n : ℕ) : wire w m + wire w n = wire w (m + n) := by
  apply BitVec.eq_of_toNat_eq
  rw [BitVec.toNat_add, wire_toNat, wire_toNat, wire_toNat, ← Nat.add_mod]

lemma wire_succ (w n : ℕ) : wire w n + 1 = wire w (n + 1) := wire_add w n 1

lemma wire_sub {w m n : ℕ} (h : m ≤ n) : wire w n - wire w m = wire w (n - m) := by
  have hadd : wire w (n - m) + wire w m = wire w n := by
    rw [wire_add, Nat.sub_add_cancel h]
  rw [← hadd, BitVec.add_sub_cancel]

/-- The carried difference of two counters less than a range apart is their difference. -/
lemma wire_sub_toNat {w m n : ℕ} (h : m ≤ n) (hd : n - m < 2 ^ w) :
    (wire w n - wire w m).toNat = n - m := by
  rw [wire_sub h, wire_toNat, Nat.mod_eq_of_lt hd]

/-- Less than a range apart, the carried number determines the counter. -/
lemma wire_inj_of_near {w m n : ℕ} (h : wire w m = wire w n) (h₁ : m < n + 2 ^ w)
    (h₂ : n < m + 2 ^ w) : m = n := by
  rw [wire_eq_iff] at h
  have hm := Nat.div_add_mod m (2 ^ w)
  have hn := Nat.div_add_mod n (2 ^ w)
  rw [h] at hm
  rcases Nat.lt_trichotomy (m / 2 ^ w) (n / 2 ^ w) with hlt | heq | hgt
  · have hstep : 2 ^ w * (m / 2 ^ w) + 2 ^ w ≤ 2 ^ w * (n / 2 ^ w) := by
      rw [← Nat.mul_succ]; exact Nat.mul_le_mul_left _ hlt
    omega
  · rw [heq] at hm; omega
  · have hstep : 2 ^ w * (n / 2 ^ w) + 2 ^ w ≤ 2 ^ w * (m / 2 ^ w) := by
      rw [← Nat.mul_succ]; exact Nat.mul_le_mul_left _ hgt
    omega

/-! ## The era -/

lemma ofNat_one_eq_iff {a b : ℕ} : BitVec.ofNat 1 a = BitVec.ofNat 1 b ↔ a % 2 = b % 2 := by
  rw [← BitVec.toNat_inj, BitVec.toNat_ofNat, BitVec.toNat_ofNat, pow_one]

lemma ofNat_one_succ (a : ℕ) : BitVec.ofNat 1 (a + 1) = ~~~ BitVec.ofNat 1 a := by
  apply BitVec.eq_of_toNat_eq
  rw [BitVec.toNat_not, BitVec.toNat_ofNat, BitVec.toNat_ofNat, pow_one]
  omega

/-- Away from the top of the range the successor keeps the era. -/
lemma era_succ_of_ne {w n : ℕ} (h : wire w n ≠ BitVec.allOnes w) : era w (n + 1) = era w n := by
  have hpos : 0 < 2 ^ w := Nat.two_pow_pos w
  have hne : n % 2 ^ w ≠ 2 ^ w - 1 := by
    intro hc
    apply h
    apply BitVec.eq_of_toNat_eq
    rw [wire_toNat, BitVec.toNat_allOnes, hc]
  have hdiv : (n + 1) / 2 ^ w = n / 2 ^ w := by
    have hn := Nat.div_add_mod n (2 ^ w)
    have hlt := Nat.mod_lt n hpos
    apply Nat.div_eq_of_lt_le
    · rw [Nat.mul_comm]; omega
    · rw [Nat.succ_mul, Nat.mul_comm]; omega
  rw [era, era, hdiv]

/-- At the top of the range the successor starts a new era. -/
lemma era_succ_of_eq {w n : ℕ} (h : wire w n = BitVec.allOnes w) :
    era w (n + 1) = ~~~ era w n := by
  have hpos : 0 < 2 ^ w := Nat.two_pow_pos w
  have heq : n % 2 ^ w = 2 ^ w - 1 := by
    have := congrArg BitVec.toNat h
    rwa [wire_toNat, BitVec.toNat_allOnes] at this
  have hdiv : (n + 1) / 2 ^ w = n / 2 ^ w + 1 := by
    have hn := Nat.div_add_mod n (2 ^ w)
    apply Nat.div_eq_of_lt_le
    · rw [Nat.succ_mul, Nat.mul_comm]; omega
    · rw [Nat.succ_mul, Nat.succ_mul, Nat.mul_comm]; omega
  rw [era, era, hdiv, ofNat_one_succ]

@[simp] lemma era_zero (w : ℕ) : era w 0 = 0 := by simp [era]

@[simp] lemma wire_zero (w : ℕ) : wire w 0 = 0 := by simp [wire]

/-- The carried successor of `n` is zero exactly when `n` is at the top of the range. -/
lemma wire_succ_eq_zero_iff (w n : ℕ) : wire w (n + 1) = 0 ↔ wire w n = BitVec.allOnes w := by
  have hpos := Nat.two_pow_pos w
  have hlt := Nat.mod_lt n hpos
  rw [← BitVec.toNat_inj, ← BitVec.toNat_inj, wire_toNat, wire_toNat, BitVec.toNat_allOnes,
    show (0 : BitVec w).toNat = 0 from BitVec.toNat_zero, Nat.add_mod_eq_ite]
  rcases Nat.lt_or_ge 1 (2 ^ w) with h1 | h1
  · rw [Nat.mod_eq_of_lt h1]
    split <;> omega
  · have h1' : 2 ^ w = 1 := by omega
    rw [h1']
    simp [Nat.mod_one]

/-! ## Comparison across a wrap -/

/-- The era-corrected test `x ≤ y` on carried pairs: plain unsigned comparison inside one
era, comparison after a shift by half a range across two. -/
def eraLe {w : ℕ} (x : BitVec w) (ex : BitVec 1) (y : BitVec w) (ey : BitVec 1) : Prop :=
  if ex = ey then x ≤ y
  else x - BitVec.ofNat w (2 ^ (w - 1)) ≤ y - BitVec.ofNat w (2 ^ (w - 1))

instance {w : ℕ} (x : BitVec w) (ex : BitVec 1) (y : BitVec w) (ey : BitVec 1) :
    Decidable (eraLe x ex y ey) := by
  unfold eraLe; infer_instance

/-- Subtracting half a range exchanges the halves of the range. -/
lemma toNat_sub_half {w : ℕ} (hw : 0 < w) (x : BitVec w) :
    (x - BitVec.ofNat w (2 ^ (w - 1))).toNat =
      if x.toNat < 2 ^ (w - 1) then x.toNat + 2 ^ (w - 1) else x.toNat - 2 ^ (w - 1) := by
  have hsplit : 2 ^ w = 2 ^ (w - 1) + 2 ^ (w - 1) := by
    rw [← Nat.two_mul, ← Nat.pow_succ']; congr 1; omega
  have hlt := x.isLt
  rw [BitVec.toNat_sub, BitVec.toNat_ofNat]
  have hpos := Nat.two_pow_pos (w - 1)
  generalize 2 ^ (w - 1) = h at *
  rw [hsplit] at hlt ⊢
  rw [Nat.mod_eq_of_lt (a := h) (by omega)]
  split
  · rw [Nat.mod_eq_of_lt (by omega)]; omega
  · rw [show h + h - h + x.toNat = (x.toNat - h) + (h + h) by omega, Nat.add_mod_right,
      Nat.mod_eq_of_lt (by omega)]

/-- **The comparison is the true order** of counters at most half a range apart.  This is what the
few bits of a header can be used for; outside the window they say nothing. -/
theorem eraLe_stamp_iff {w m n : ℕ} (hw : 0 < w) (hwin : Within (2 ^ (w - 1)) m n) :
    eraLe (wire w m) (era w m) (wire w n) (era w n) ↔ m ≤ n := by
  obtain ⟨hmn, hnm⟩ := hwin
  have hsplit : 2 ^ w = 2 ^ (w - 1) + 2 ^ (w - 1) := by
    rw [← Nat.two_mul, ← Nat.pow_succ']; congr 1; omega
  have hpos := Nat.two_pow_pos (w - 1)
  have hm := Nat.div_add_mod m (2 ^ w)
  have hn := Nat.div_add_mod n (2 ^ w)
  have hmlt := Nat.mod_lt m (Nat.two_pow_pos w)
  have hnlt := Nat.mod_lt n (Nat.two_pow_pos w)
  unfold eraLe
  simp only [era, ofNat_one_eq_iff, BitVec.le_def, toNat_sub_half hw, wire_toNat]
  -- the two wrap counts differ by at most one, since the counters are half a range apart
  generalize hq : m / 2 ^ w = q at *
  generalize hr : n / 2 ^ w = r at *
  generalize m % 2 ^ w = a at *
  generalize n % 2 ^ w = b at *
  rw [hsplit] at hm hn hmlt hnlt
  generalize 2 ^ (w - 1) = h at *
  have hcases : q = r ∨ r = q + 1 ∨ q = r + 1 := by
    rcases Nat.lt_trichotomy q r with hlt | heq | hgt
    · right; left
      by_contra hne
      have h2 : (h + h) * (q + 2) ≤ (h + h) * r := Nat.mul_le_mul_left _ (by omega)
      rw [Nat.mul_add] at h2
      omega
    · exact Or.inl heq
    · right; right
      by_contra hne
      have h2 : (h + h) * (r + 2) ≤ (h + h) * q := Nat.mul_le_mul_left _ (by omega)
      rw [Nat.mul_add] at h2
      omega
  rcases hcases with rfl | rfl | rfl
  · rw [if_pos rfl]; omega
  · rw [if_neg (by omega)]
    rw [Nat.mul_add, Nat.mul_one] at hn
    generalize (h + h) * q = p at *
    split <;> split <;> omega
  · rw [if_neg (by omega)]
    rw [Nat.mul_add, Nat.mul_one] at hm
    generalize (h + h) * r = p at *
    split <;> split <;> omega

end SerialNumber
