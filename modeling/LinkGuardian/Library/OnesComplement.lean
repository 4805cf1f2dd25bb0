import Mathlib.Data.BitVec
import Mathlib.Algebra.BigOperators.Group.List.Basic
import Mathlib.Tactic

/-!
# Ones' complement sums

The arithmetic of Internet checksums: words are added with an end-around carry, and the
checksum is the complement of the sum.  The sum of a list is zero exactly when every word is,
and otherwise it is the plain sum reduced modulo `2 ^ w - 1` into `1, …, 2 ^ w - 1`; from this
`sum_checksum_congr` says that recomputing a checksum keeps the header valid.
-/

namespace OnesComplement

variable {w : ℕ}

/-- Addition with an end-around carry. -/
def add (a b : BitVec w) : BitVec w :=
  if a.toNat + b.toNat < 2 ^ w then a + b else a + b + 1

/-- The ones' complement sum of a list of words. -/
def sum (ws : List (BitVec w)) : BitVec w := ws.foldr add 0

/-- The complement of the sum. -/
def checksum (ws : List (BitVec w)) : BitVec w := ~~~ sum ws

/-- The plain sum of the words as natural numbers. -/
def total (ws : List (BitVec w)) : ℕ := (ws.map BitVec.toNat).sum

@[simp] lemma sum_nil : sum ([] : List (BitVec w)) = 0 := rfl
@[simp] lemma sum_cons (a : BitVec w) (ws : List (BitVec w)) : sum (a :: ws) = add a (sum ws) := rfl
@[simp] lemma total_nil : total ([] : List (BitVec w)) = 0 := rfl
@[simp] lemma total_cons (a : BitVec w) (ws : List (BitVec w)) :
    total (a :: ws) = a.toNat + total ws := by simp [total]
@[simp] lemma total_append (us ws : List (BitVec w)) :
    total (us ++ ws) = total us + total ws := by simp [total]

lemma toNat_add (a b : BitVec w) :
    (add a b).toNat =
      if a.toNat + b.toNat < 2 ^ w then a.toNat + b.toNat else a.toNat + b.toNat + 1 - 2 ^ w := by
  have ha := a.isLt
  have hb := b.isLt
  unfold add
  split
  · rw [BitVec.toNat_add, Nat.mod_eq_of_lt (by assumption)]
  · rename_i h
    have hw : 1 < 2 ^ w := by omega
    have h1 : (1 : BitVec w).toNat = 1 := by
      change (BitVec.ofNat w 1).toNat = 1
      rw [BitVec.toNat_ofNat, Nat.mod_eq_of_lt hw]
    rw [BitVec.toNat_add, BitVec.toNat_add, h1, Nat.add_mod_eq_ite (n := 1),
      Nat.mod_mod, Nat.mod_eq_of_lt hw]
    have hs : (a.toNat + b.toNat) % 2 ^ w = a.toNat + b.toNat - 2 ^ w := by
      rw [Nat.mod_eq_sub_mod (by omega), Nat.mod_eq_of_lt (by omega)]
    rw [hs, if_neg (by omega)]
    omega

/-- End-around carry: no residue modulo `2 ^ w - 1` is lost. -/
lemma toNat_sum_mod (ws : List (BitVec w)) :
    (sum ws).toNat % (2 ^ w - 1) = total ws % (2 ^ w - 1) := by
  induction ws with
  | nil => simp
  | cons a ws ih =>
    rw [sum_cons, total_cons, toNat_add, Nat.add_mod a.toNat (total ws), ← ih, ← Nat.add_mod]
    split
    · rfl
    · have hpos := Nat.two_pow_pos w
      rw [show a.toNat + (sum ws).toNat = a.toNat + (sum ws).toNat + 1 - 2 ^ w + (2 ^ w - 1) by
        omega, Nat.add_mod_right]
      congr 1
      omega

lemma toNat_sum_eq_zero_iff (ws : List (BitVec w)) : (sum ws).toNat = 0 ↔ total ws = 0 := by
  induction ws with
  | nil => simp
  | cons a ws ih =>
    rw [sum_cons, total_cons, toNat_add]
    have hpos := Nat.two_pow_pos w
    -- with a carry the end-around one keeps the sum from being zero
    split
    · constructor
      · intro h
        have := ih.mp (by omega)
        omega
      · intro h
        have := ih.mpr (by omega)
        omega
    · constructor
      · intro h; omega
      · intro h
        have := ih.mpr (by omega)
        have := a.isLt
        omega

/-- A list sums to all ones exactly when its plain total is a nonzero multiple of the modulus. -/
lemma sum_eq_allOnes_iff (hw : 1 < w) (ws : List (BitVec w)) :
    sum ws = BitVec.allOnes w ↔ total ws ≠ 0 ∧ total ws % (2 ^ w - 1) = 0 := by
  have hlt := (sum ws).isLt
  have h4 : 4 ≤ 2 ^ w := by
    calc 4 = 2 ^ 2 := rfl
      _ ≤ 2 ^ w := Nat.pow_le_pow_right (by omega) hw
  rw [← toNat_sum_mod, ne_eq, ← toNat_sum_eq_zero_iff, ← BitVec.toNat_inj, BitVec.toNat_allOnes]
  constructor
  · intro h
    rw [h, Nat.mod_self]
    exact ⟨by omega, rfl⟩
  · rintro ⟨h0, hm⟩
    by_contra hne
    rw [Nat.mod_eq_of_lt (by omega)] at hm
    exact h0 hm

lemma toNat_checksum (ws : List (BitVec w)) :
    (checksum ws).toNat = 2 ^ w - 1 - (sum ws).toNat := by
  rw [checksum, BitVec.toNat_not]

/-- Words together with their own checksum add up to a multiple of the modulus. -/
lemma total_add_checksum_mod (ws : List (BitVec w)) :
    (total ws + (checksum ws).toNat) % (2 ^ w - 1) = 0 := by
  have hlt := (sum ws).isLt
  rw [Nat.add_mod, ← toNat_sum_mod, ← Nat.add_mod, toNat_checksum,
    show (sum ws).toNat + (2 ^ w - 1 - (sum ws).toNat) = 2 ^ w - 1 by omega, Nat.mod_self]

/-- **Recomputing a checksum keeps validity**: if words `us` with their own checksum and some
further words `rest` sum to all ones, so do any words `vs` with theirs. -/
theorem sum_checksum_congr (hw : 1 < w) {us vs rest : List (BitVec w)}
    (h : sum (us ++ checksum us :: rest) = BitVec.allOnes w)
    (hvs : total vs ≠ 0) : sum (vs ++ checksum vs :: rest) = BitVec.allOnes w := by
  rw [sum_eq_allOnes_iff hw] at h ⊢
  simp only [total_append, total_cons] at h ⊢
  refine ⟨by omega, ?_⟩
  have hu := total_add_checksum_mod us
  have hv := total_add_checksum_mod vs
  have hrest : total rest % (2 ^ w - 1) = 0 := by
    have h2 := h.2
    rw [← Nat.add_assoc, Nat.add_mod, hu, Nat.zero_add, Nat.mod_mod] at h2
    exact h2
  rw [← Nat.add_assoc, Nat.add_mod, hv, hrest, Nat.zero_add, Nat.zero_mod]

end OnesComplement
