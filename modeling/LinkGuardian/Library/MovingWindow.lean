import Mathlib.Algebra.BigOperators.Group.List.Basic
import Mathlib.Algebra.Order.BigOperators.Group.List
import Mathlib.Algebra.Order.Group.Int
import Mathlib.Data.List.Infix
import Mathlib.Tactic.Common
import Mathlib.Tactic.Linarith

/-!
# Moving windows with a budget

Samples with a weight arrive one after the other.  The window over them is the longest suffix
whose total weight is within a budget (`IsRecent`), so that a new sample pushes old ones out.
`greedy` keeps instead every sample that still fits behind what it has kept: it agrees with the
window only until the budget is used up, and only if it was given the samples themselves
(`greedy_isRecent_iff`).
-/

namespace MovingWindow

variable {α : Type*} (weight : α → ℤ) (budget : ℤ)

def total (l : List α) : ℤ := (l.map weight).sum

@[simp] lemma total_nil : total weight [] = 0 := rfl

@[simp] lemma total_cons (x : α) (l : List α) : total weight (x :: l) = weight x + total weight l :=
  List.sum_cons

@[simp] lemma total_append (l l' : List α) :
    total weight (l ++ l') = total weight l + total weight l' := by
  simp [total]

lemma total_nonneg {l : List α} (h : ∀ x ∈ l, 0 ≤ weight x) : 0 ≤ total weight l := by
  refine List.sum_nonneg fun y hy => ?_
  obtain ⟨x, hx, rfl⟩ := List.mem_map.mp hy
  exact h x hx

/-- `v` is the longest suffix of `l` within the budget.  It is determined by the list and the
budget, and does not depend on how a program keeps it. -/
structure IsRecent (l v : List α) : Prop where
  suffix : v <:+ l
  within : total weight v ≤ budget
  longest : ∀ u, u <:+ l → total weight u ≤ budget → u.length ≤ v.length

variable {weight budget}

lemma IsRecent.of_total_le {l : List α} (h : total weight l ≤ budget) :
    IsRecent weight budget l l :=
  ⟨List.suffix_refl l, h, fun _ hu _ => hu.length_le⟩

variable (weight budget)

/-- The samples that fit, each behind those kept before it. -/
def greedy (l : List α) : List α :=
  l.foldl (fun kept x => if total weight kept + weight x ≤ budget then kept ++ [x] else kept) []

@[simp] lemma greedy_nil : greedy weight budget [] = [] := rfl

lemma greedy_concat (l : List α) (x : α) : greedy weight budget (l ++ [x]) =
    if total weight (greedy weight budget l) + weight x ≤ budget then
      greedy weight budget l ++ [x]
    else greedy weight budget l := by
  rw [greedy, List.foldl_append]
  rfl

variable {weight budget}

lemma greedy_total_le (hbudget : 0 ≤ budget) (l : List α) :
    total weight (greedy weight budget l) ≤ budget := by
  induction l using List.reverseRecOn with
  | nil => simpa using hbudget
  | append_singleton l x ih =>
    rw [greedy_concat]
    split
    · simpa
    · exact ih

/-- As long as everything fits, everything is kept. -/
lemma greedy_eq_self {l : List α} (hweight : ∀ x ∈ l, 0 ≤ weight x)
    (h : total weight l ≤ budget) : greedy weight budget l = l := by
  induction l using List.reverseRecOn with
  | nil => rfl
  | append_singleton l x ih =>
    have hx : 0 ≤ weight x := hweight x (by simp)
    simp only [total_append, total_cons, total_nil] at h
    have hkept := ih (fun y hy => hweight y (by simp [hy])) (by omega)
    rw [greedy_concat, hkept, if_pos (by omega)]

/-- What is dropped has a weight, since it did not fit. -/
lemma exists_dropped (hbudget : 0 ≤ budget) (l : List α) :
    ∃ dropped, (greedy weight budget l ++ dropped).Perm l ∧ ∀ x ∈ dropped, 0 < weight x := by
  induction l using List.reverseRecOn with
  | nil => exact ⟨[], List.Perm.refl _, by simp⟩
  -- a sample is kept or dropped when it comes, and never looked at again
  | append_singleton l x ih =>
    obtain ⟨dropped, hperm, hpos⟩ := ih
    rw [greedy_concat]
    split
    · have hswap : (greedy weight budget l ++ [x] ++ dropped).Perm
          (greedy weight budget l ++ dropped ++ [x]) := by
        rw [List.append_assoc, List.append_assoc]
        exact List.perm_append_comm.append_left _
      exact ⟨dropped, hswap.trans (hperm.append_right [x]), hpos⟩
    · next hfits =>
      refine ⟨dropped ++ [x], by simpa using hperm.append_right [x], fun y hy => ?_⟩
      rcases List.mem_append.mp hy with hold | hnew
      · exact hpos y hold
      · have hle : total weight (greedy weight budget l) ≤ budget := greedy_total_le hbudget l
        rw [List.mem_singleton.mp hnew]
        omega

/-- Samples of no weight are never dropped, since they fit into any budget. -/
lemma countP_greedy (hbudget : 0 ≤ budget) (l : List α) :
    (greedy weight budget l).countP (weight · = 0) = l.countP (weight · = 0) := by
  obtain ⟨dropped, hperm, hpos⟩ := exists_dropped hbudget l
  have hnone : dropped.countP (weight · = 0) = 0 :=
    List.countP_eq_zero.mpr fun x hx => by simpa using (hpos x hx).ne'
  rw [← hperm.countP_eq, List.countP_append, hnone, Nat.add_zero]

/-- What drops nothing has kept within the budget. -/
lemma greedy_eq_self_of_length (hbudget : 0 ≤ budget) {l : List α}
    (h : l.length ≤ (greedy weight budget l).length) : greedy weight budget l = l := by
  induction l using List.reverseRecOn with
  | nil => rfl
  | append_singleton l x ih =>
    obtain ⟨dropped, hperm, -⟩ : ∃ dropped, (greedy weight budget l ++ dropped).Perm l ∧
        ∀ y ∈ dropped, 0 < weight y := exists_dropped hbudget l
    have hle : (greedy weight budget l).length ≤ l.length := by
      rw [← hperm.length_eq, List.length_append]
      exact Nat.le_add_right _ _
    rw [greedy_concat] at h ⊢
    split at h
    · next hfits =>
      rw [if_pos hfits, ih (by simpa using h)]
    · rw [List.length_append, List.length_singleton] at h
      omega

/-- A window with all samples of no weight starts with the first sample, if that is one. -/
lemma IsRecent.eq_of_countP {l v : List α} (h : IsRecent weight budget l v)
    (hhead : ∀ x ∈ l.head?, weight x = 0)
    (hcount : l.countP (weight · = 0) ≤ v.countP (weight · = 0)) : v = l := by
  obtain ⟨old, hold⟩ := h.suffix
  cases old with
  | nil => exact hold
  | cons x old =>
    have hx : weight x = 0 := hhead x (by rw [← hold]; simp)
    rw [← hold, List.countP_append, List.countP_cons_of_pos (by simpa using hx)] at hcount
    omega

/-- **Keeping what fits does not move the window**: after a first sample of no weight, what is
kept of `l'` is the window over `l` exactly as long as everything fits and the samples are the
same, provided that `l'` makes no sample of no weight weigh. -/
theorem greedy_isRecent_iff {l l' : List α} (hbudget : 0 ≤ budget)
    (hweight : ∀ x ∈ l, 0 ≤ weight x) (hhead : ∀ x ∈ l.head?, weight x = 0)
    (hlength : l.length = l'.length)
    (hcount : l.countP (weight · = 0) ≤ l'.countP (weight · = 0)) :
    IsRecent weight budget l (greedy weight budget l') ↔ l' = l ∧ total weight l ≤ budget := by
  constructor
  · intro h
    have hall : greedy weight budget l' = l :=
      h.eq_of_countP hhead (hcount.trans (countP_greedy hbudget l').ge)
    have hself : greedy weight budget l' = l' :=
      greedy_eq_self_of_length hbudget (by rw [hall, hlength])
    exact ⟨hself.symm.trans hall, hall ▸ h.within⟩
  · rintro ⟨rfl, h⟩
    rw [greedy_eq_self hweight h]
    exact .of_total_le h

end MovingWindow
