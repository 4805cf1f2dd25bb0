import Mathlib.Algebra.BigOperators.Group.Finset.Basic
import Mathlib.Algebra.Order.BigOperators.Group.Finset
import Mathlib.Algebra.Order.Ring.Defs
import Mathlib.Tactic.Common

/-!
# Removing elements from a network that feeds consumers

A `Network` says how much each consumer still gets when a set of elements is removed.  Removing
more never gives more, and removing an element matters only to the consumers it affects.  A set
is *feasible* when every consumer keeps at least a given amount; feasibility passes to subsets.

Two arguments about choosing a feasible set of largest weight among some candidates live here.
`Feasible.union_harmless` is an exchange: the candidates that affect no consumer in need when
all are removed can join any feasible choice.  `Search` enumerates sets and skips those
that contain a rejected one, and `found_visitAll` says that no feasible set is ever skipped.

`TwoTier` is the network of the paths that go up over two tiers of elements.
-/

namespace Removal

variable {E T A : Type*} [DecidableEq E]

/-! ## Networks -/

structure Network (E T : Type*) [DecidableEq E] where
  /-- what a consumer gets when the set is removed -/
  supply : T → Finset E → ℕ
  affects : E → T → Prop
  supply_anti : ∀ t, Antitone (supply t)
  supply_insert : ∀ {t e} (D : Finset E), ¬ affects e t → supply t (insert e D) = supply t D

namespace Network

variable (N : Network E T)

lemma supply_union {t : T} (D : Finset E) {S : Finset E} (hS : ∀ e ∈ S, ¬ N.affects e t) :
    N.supply t (D ∪ S) = N.supply t D := by
  induction S using Finset.induction_on with
  | empty => rw [Finset.union_empty]
  | insert e S _ ih =>
    rw [Finset.union_insert, N.supply_insert _ (hS e (Finset.mem_insert_self e S))]
    exact ih fun e' he' => hS e' (Finset.mem_insert_of_mem he')

/-- Each of the consumers keeps at least `m` when the set is removed. -/
def Feasible (consumers : Set T) (m : ℤ) (D : Finset E) : Prop :=
  ∀ t ∈ consumers, m ≤ N.supply t D

variable {N} {consumers : Set T} {m : ℤ} {C D F S : Finset E}

lemma Feasible.anti (hF : N.Feasible consumers m F) (h : D ⊆ F) : N.Feasible consumers m D := by
  intro t ht
  exact (hF t ht).trans (Int.ofNat_le.mpr (N.supply_anti t h))

/-- A set is feasible as soon as the consumers that it affects keep enough. -/
lemma Feasible.union_of_affected (hD : N.Feasible consumers m D)
    (h : ∀ t ∈ consumers, (∃ e ∈ S, N.affects e t) → m ≤ N.supply t (D ∪ S)) :
    N.Feasible consumers m (D ∪ S) := by
  intro t ht
  by_cases hA : ∃ e ∈ S, N.affects e t
  · exact h t ht hA
  · rw [N.supply_union D fun e he ha => hA ⟨e, he, ha⟩]
    exact hD t ht

/-- The elements of `S` affect no consumer that gets too little when all of `C` is removed. -/
def Harmless (N : Network E T) (consumers : Set T) (m : ℤ) (D C S : Finset E) : Prop :=
  S ⊆ C ∧ ∀ e ∈ S, ∀ t ∈ consumers, (N.supply t (D ∪ C) : ℤ) < m → ¬ N.affects e t

/-- **Exchange**: the harmless candidates can join any feasible choice.  Removing
them costs no consumer anything that it needs, whatever else is removed. -/
theorem Feasible.union_harmless (hS : Harmless N consumers m D C S) (hFC : F ⊆ C)
    (hF : N.Feasible consumers m (D ∪ F)) : N.Feasible consumers m (D ∪ F ∪ S) := by
  intro t ht
  by_cases hneed : (N.supply t (D ∪ C) : ℤ) < m
  · -- no harmless candidate touches a consumer in need
    rw [N.supply_union _ fun e he => hS.2 e he t ht hneed]
    exact hF t ht
  · -- the others keep enough even without all the candidates
    have hsub : D ∪ F ∪ S ⊆ D ∪ C := by
      rw [Finset.union_assoc]
      exact Finset.union_subset_union_right (Finset.union_subset hFC hS.1)
    exact (Int.not_lt.mp hneed).trans (Int.ofNat_le.mpr (N.supply_anti t hsub))

/-- A choice that adds the best of the rest to the harmless candidates is the best of all. -/
theorem sum_le_of_harmless {R : Type*} [AddCommMonoid R] [PartialOrder R]
    [IsOrderedAddMonoid R] {w : E → R} {best : Finset E}
    (hw : ∀ e ∈ C, 0 ≤ w e) (hS : Harmless N consumers m D C S) (hdisj : Disjoint S best)
    (hbest : ∀ G, G ⊆ C \ S → N.Feasible consumers m (D ∪ S ∪ G) →
      ∑ e ∈ G, w e ≤ ∑ e ∈ best, w e)
    (hFC : F ⊆ C) (hF : N.Feasible consumers m (D ∪ F)) :
    ∑ e ∈ F, w e ≤ ∑ e ∈ S ∪ best, w e := by
  have hrest : N.Feasible consumers m (D ∪ S ∪ (F \ S)) := by
    refine (hF.union_harmless hS hFC).anti (le_of_eq ?_)
    rw [Finset.union_assoc, Finset.union_sdiff_self_eq_union, Finset.union_comm S F,
      Finset.union_assoc]
  -- the harmless candidates join the choice, and the rest of it weighs at most what the best does
  calc ∑ e ∈ F, w e
      ≤ ∑ e ∈ S ∪ F \ S, w e := by
        refine Finset.sum_le_sum_of_subset_of_nonneg ?_ fun e he _ => hw e ?_
        · rw [Finset.union_sdiff_self_eq_union]
          exact Finset.subset_union_right
        · rw [Finset.union_sdiff_self_eq_union] at he
          exact Finset.union_subset hS.1 hFC he
    _ = ∑ e ∈ S, w e + ∑ e ∈ F \ S, w e := Finset.sum_union Finset.disjoint_sdiff
    _ ≤ ∑ e ∈ S, w e + ∑ e ∈ best, w e :=
        add_le_add_right (hbest _ (Finset.sdiff_subset_sdiff hFC le_rfl) hrest) _
    _ = ∑ e ∈ S ∪ best, w e := (Finset.sum_union hdisj).symm

end Network

/-! ## Enumerating sets with a reject cache -/

structure Search (E : Type*) where
  rejects : List (Finset E) := []
  found : List (Finset E) := []

namespace Search

variable (P : Finset E → Prop) [DecidablePred P]

/-- One set of the enumeration: skipped when it contains a rejected set. -/
def visit (s : Search E) (F : Finset E) : Search E :=
  if ∃ R ∈ s.rejects, R ⊆ F then s
  else if P F then { s with found := s.found ++ [F] }
  else { s with rejects := s.rejects ++ [F] }

variable {P}

lemma rejects_visit {s : Search E} (F : Finset E) (hs : ∀ R ∈ s.rejects, ¬ P R) :
    ∀ R ∈ (s.visit P F).rejects, ¬ P R := by
  intro R hR
  unfold visit at hR
  split at hR
  · exact hs R hR
  · split at hR
    · exact hs R hR
    · case isFalse hF =>
      rcases List.mem_append.mp hR with hR | hR
      · exact hs R hR
      · rw [List.mem_singleton.mp hR]
        exact hF

/-- **The cache is sound**: when `P` passes to subsets, a set with `P` is never skipped. -/
lemma found_visit (hP : ∀ {F G : Finset E}, G ⊆ F → P F → P G) {s : Search E} (F : Finset E)
    (hs : ∀ R ∈ s.rejects, ¬ P R) :
    (s.visit P F).found = s.found ++ if P F then [F] else [] := by
  unfold visit
  split
  · case isTrue hskip =>
    obtain ⟨R, hR, hRF⟩ := hskip
    rw [if_neg fun hF => hs R hR (hP hRF hF), List.append_nil]
  · split
    · rfl
    · exact (List.append_nil _).symm

theorem found_visitAll (hP : ∀ {F G : Finset E}, G ⊆ F → P F → P G) (s : Search E)
    (sets : List (Finset E)) (hs : ∀ R ∈ s.rejects, ¬ P R) :
    (sets.foldl (visit P) s).found = s.found ++ sets.filter P := by
  induction sets generalizing s with
  | nil => exact (List.append_nil _).symm
  | cons F sets ih =>
    rw [List.foldl_cons, ih _ (rejects_visit F hs), found_visit hP F hs, List.append_assoc,
      List.filter_cons]
    by_cases hF : P F
    · rw [if_pos hF, if_pos (decide_eq_true hF)]
      rfl
    · rw [if_neg hF, if_neg (by simpa using hF)]
      rfl

end Search

omit [DecidableEq E] in
/-- Looking at the singletons with `P` and at the larger sets of such elements is enough. -/
lemma mem_of_singletons {P : Finset E → Prop} {Q : Set (Finset E)} {C : Finset E}
    (hP : ∀ {F G : Finset E}, G ⊆ F → P F → P G)
    (hone : ∀ e ∈ C, P {e} → {e} ∈ Q)
    (hmany : ∀ F, F ⊆ C → (∀ e ∈ F, P {e}) → 2 ≤ F.card → P F → F ∈ Q)
    {F : Finset E} (hFC : F ⊆ C) (hF : P F) (hne : F.Nonempty) : F ∈ Q := by
  have hsingle : ∀ e ∈ F, P {e} := fun e he => hP (Finset.singleton_subset_iff.mpr he) hF
  rcases Nat.lt_or_eq_of_le (Nat.succ_le_of_lt (Finset.card_pos.mpr hne)) with hcard | hcard
  · exact hmany F hFC hsingle hcard hF
  · obtain ⟨e, rfl⟩ := Finset.card_eq_one.mp hcard.symm
    have he := Finset.mem_singleton_self e
    exact hone e (hFC he) (hsingle e he)

/-! ## Paths over two tiers -/

/-- Elements in two tiers: `low t` lead up from the consumer `t`, each to the node `via`, and
`up` lead on from a node. -/
structure TwoTier (E T A : Type*) where
  low : T → Finset E
  via : E → A
  up : A → Finset E

namespace TwoTier

variable (N : TwoTier E T A)

/-- The number of paths from `t` that avoid a removed set. -/
def paths (t : T) (D : Finset E) : ℕ :=
  ∑ e ∈ N.low t \ D, (N.up (N.via e) \ D).card

/-- The element is on some path from `t`. -/
def OnPath (e : E) (t : T) : Prop :=
  e ∈ N.low t ∨ ∃ e' ∈ N.low t, e ∈ N.up (N.via e')

lemma paths_anti (t : T) : Antitone (N.paths t) := by
  intro D D' h
  calc N.paths t D'
      ≤ ∑ e ∈ N.low t \ D, (N.up (N.via e) \ D').card :=
        Finset.sum_le_sum_of_subset (Finset.sdiff_subset_sdiff le_rfl h)
    _ ≤ N.paths t D :=
        Finset.sum_le_sum fun e _ => Finset.card_le_card (Finset.sdiff_subset_sdiff le_rfl h)

lemma sdiff_insert_of_notMem {X D : Finset E} {e : E} (h : e ∉ X) : X \ insert e D = X \ D := by
  rw [Finset.sdiff_insert, Finset.erase_eq_of_notMem]
  exact fun he => h (Finset.mem_sdiff.mp he).1

lemma paths_insert {t : T} {e : E} (D : Finset E) (h : ¬ N.OnPath e t) :
    N.paths t (insert e D) = N.paths t D := by
  unfold paths
  rw [sdiff_insert_of_notMem fun he => h (.inl he)]
  refine Finset.sum_congr rfl fun e' he' => ?_
  rw [sdiff_insert_of_notMem fun he => h (.inr ⟨e', (Finset.mem_sdiff.mp he').1, he⟩)]

/-- The network whose supply is the number of paths. -/
def network : Network E T where
  supply := N.paths
  affects := N.OnPath
  supply_anti := N.paths_anti
  supply_insert := N.paths_insert

end TwoTier

end Removal
