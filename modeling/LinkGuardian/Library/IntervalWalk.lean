import Mathlib.Algebra.BigOperators.Group.List.Basic
import Mathlib.Data.Finset.Card
import Mathlib.Data.Finset.Range
import Mathlib.Data.Finset.Union
import Mathlib.Tactic.Linarith

/-!
# Walks through intervals

A list of half-open intervals of integers, walked from each to the next.  The lengths of the
intervals, less the overlaps of neighbours, are the number of integers in the union when the walk
climbs it like a staircase.  In general they fall short of it: `total_sub_overlaps` says by how
much, `missed_eq_zero` when they do not.
-/

namespace IntervalWalk

/-- The integers from `r.1` on, below `r.2`. -/
def interval (r : ℤ × ℤ) : Finset ℤ := (Finset.range (r.2 - r.1).toNat).image fun i : ℕ => r.1 + i

/-- The union of the intervals. -/
def covered (rs : List (ℤ × ℤ)) : Finset ℤ := rs.toFinset.biUnion interval

/-- The sum of the lengths. -/
def total (rs : List (ℤ × ℤ)) : ℤ := (rs.map fun r => r.2 - r.1).sum

/-- Each interval with the next one. -/
def neighbours (rs : List (ℤ × ℤ)) : List ((ℤ × ℤ) × (ℤ × ℤ)) := rs.zip rs.tail

def overlaps (rs : List (ℤ × ℤ)) : ℤ := ((neighbours rs).map fun p => max 0 (p.1.2 - p.2.1)).sum

/-- What goes wrong between neighbours: the gap holds elements of `s`, or the overlap other
numbers. -/
def detour (s : Finset ℤ) (p : (ℤ × ℤ) × (ℤ × ℤ)) : ℕ :=
  (s ∩ interval (p.1.2, p.2.1)).card + (interval (p.2.1, p.1.2) \ s).card

def detours (s : Finset ℤ) (rs : List (ℤ × ℤ)) : ℕ := ((neighbours rs).map (detour s)).sum

/-- What the walk misses: on its detours, before its first interval, and after its last. -/
def missed : List (ℤ × ℤ) → ℕ
  | [] => 0
  | r :: rs =>
    let s := covered (r :: rs)
    (s.filter (· < r.1)).card + detours s (r :: rs) +
      (s.filter (((r :: rs).getLast (List.cons_ne_nil r rs)).2 ≤ ·)).card

/-- A walk from the least to the greatest element, over gaps that no interval fills and overlaps
that intervals do. -/
structure Staircase (rs : List (ℤ × ℤ)) : Prop where
  first : ∀ r ∈ rs.head?, ∀ x ∈ covered rs, r.1 ≤ x
  gap : ∀ p ∈ neighbours rs, ∀ x ∈ covered rs, p.1.2 ≤ x → p.2.1 ≤ x
  overlap : ∀ p ∈ neighbours rs, interval (p.2.1, p.1.2) ⊆ covered rs
  last : ∀ r ∈ rs.getLast?, ∀ x ∈ covered rs, x < r.2

variable {rs : List (ℤ × ℤ)} {s : Finset ℤ}

@[simp] lemma mem_interval {r : ℤ × ℤ} {x : ℤ} : x ∈ interval r ↔ r.1 ≤ x ∧ x < r.2 := by
  simp only [interval, Finset.mem_image, Finset.mem_range]
  constructor
  · rintro ⟨i, hi, rfl⟩
    omega
  · rintro ⟨hle, hlt⟩
    exact ⟨(x - r.1).toNat, by omega, by omega⟩

lemma card_interval (r : ℤ × ℤ) : (interval r).card = (r.2 - r.1).toNat := by
  rw [interval, Finset.card_image_of_injective _ fun i j hij => by simpa using hij,
    Finset.card_range]

lemma interval_eq_empty {r : ℤ × ℤ} (h : r.2 ≤ r.1) : interval r = ∅ := by
  rw [← Finset.card_eq_zero, card_interval]
  omega

@[simp] lemma mem_covered {x : ℤ} : x ∈ covered rs ↔ ∃ r ∈ rs, r.1 ≤ x ∧ x < r.2 := by
  simp only [covered, Finset.mem_biUnion, List.mem_toFinset, mem_interval]

lemma interval_subset_covered {r : ℤ × ℤ} (hr : r ∈ rs) : interval r ⊆ covered rs := by
  intro x hx
  exact mem_covered.mpr ⟨r, hr, mem_interval.mp hx⟩

@[simp] lemma covered_reverse : covered rs.reverse = covered rs := by
  ext x
  simp

@[simp] lemma total_reverse : total rs.reverse = total rs := by
  rw [total, total, List.map_reverse, List.sum_reverse]

@[simp] lemma total_cons (r : ℤ × ℤ) : total (r :: rs) = r.2 - r.1 + total rs := by
  rw [total, List.map_cons, List.sum_cons, total]

@[simp] lemma neighbours_cons_cons (r r' : ℤ × ℤ) :
    neighbours (r :: r' :: rs) = (r, r') :: neighbours (r' :: rs) := rfl

@[simp] lemma overlaps_singleton (r : ℤ × ℤ) : overlaps [r] = 0 := rfl

@[simp] lemma overlaps_cons_cons (r r' : ℤ × ℤ) :
    overlaps (r :: r' :: rs) = max 0 (r.2 - r'.1) + overlaps (r' :: rs) := rfl

@[simp] lemma detours_singleton (s : Finset ℤ) (r : ℤ × ℤ) : detours s [r] = 0 := rfl

@[simp] lemma detours_cons_cons (s : Finset ℤ) (r r' : ℤ × ℤ) :
    detours s (r :: r' :: rs) = detour s (r, r') + detours s (r' :: rs) := rfl

/-! ## Ranks -/

/-- The number of elements below `x`. -/
def rank (s : Finset ℤ) (x : ℤ) : ℕ := (s.filter (· < x)).card

lemma rank_add_card (s : Finset ℤ) {x y : ℤ} (hxy : x ≤ y) :
    rank s x + (s ∩ interval (x, y)).card = rank s y := by
  have hunion : s.filter (· < y) = s.filter (· < x) ∪ s ∩ interval (x, y) := by
    ext z
    simp only [Finset.mem_filter, Finset.mem_union, Finset.mem_inter, mem_interval]
    constructor
    · rintro ⟨hz, hlt⟩
      rcases lt_or_ge z x with hzx | hzx
      · exact .inl ⟨hz, hzx⟩
      · exact .inr ⟨hz, hzx, hlt⟩
    · rintro (⟨hz, hzx⟩ | ⟨hz, -, hlt⟩)
      · exact ⟨hz, hzx.trans_le hxy⟩
      · exact ⟨hz, hlt⟩
  have hdisjoint : Disjoint (s.filter (· < x)) (s ∩ interval (x, y)) := by
    rw [Finset.disjoint_left]
    intro z hz hz'
    exact absurd (Finset.mem_filter.mp hz).2
      (not_lt.mpr (mem_interval.mp (Finset.mem_inter.mp hz').2).1)
  rw [rank, rank, hunion, Finset.card_union_of_disjoint hdisjoint]

lemma rank_add_card_le (s : Finset ℤ) (x : ℤ) : rank s x + (s.filter (x ≤ ·)).card = s.card := by
  have hsplit := Finset.card_filter_add_card_filter_not (s := s) (· < x)
  simpa only [rank, not_lt] using hsplit

/-- An interval inside the set adds its length to the rank. -/
lemma rank_of_subset {r : ℤ × ℤ} (hr : r.1 ≤ r.2) (hsub : interval r ⊆ s) :
    (rank s r.2 : ℤ) = rank s r.1 + (r.2 - r.1) := by
  have hadd := rank_add_card s hr
  rw [Finset.inter_eq_right.mpr hsub, card_interval] at hadd
  omega

/-- From the end of an interval to the beginning of its neighbour. -/
lemma rank_of_neighbours (s : Finset ℤ) (r r' : ℤ × ℤ) :
    (rank s r'.1 : ℤ) = rank s r.2 + detour s (r, r') - max 0 (r.2 - r'.1) := by
  rcases le_total r.2 r'.1 with hle | hle
  · have hadd := rank_add_card s hle
    have hempty : interval (r'.1, r.2) = ∅ := interval_eq_empty hle
    simp only [detour, hempty, Finset.empty_sdiff, Finset.card_empty]
    omega
  · have hadd := rank_add_card s hle
    have hsplit := Finset.card_inter_add_card_sdiff (interval (r'.1, r.2)) s
    rw [Finset.inter_comm, card_interval] at hsplit
    have hempty : interval (r.2, r'.1) = ∅ := interval_eq_empty hle
    simp only [detour, hempty, Finset.inter_empty, Finset.card_empty]
    omega

/-- The ranks telescope along the walk. -/
lemma rank_getLast (r : ℤ × ℤ) (rs : List (ℤ × ℤ))
    (h : ∀ r' ∈ r :: rs, r'.1 ≤ r'.2 ∧ interval r' ⊆ s) :
    (rank s ((r :: rs).getLast (List.cons_ne_nil r rs)).2 : ℤ) =
      rank s r.1 + (total (r :: rs) - overlaps (r :: rs) + detours s (r :: rs)) := by
  induction rs generalizing r with
  | nil =>
    have hr := h r (by simp)
    simp [total, rank_of_subset hr.1 hr.2]
  | cons r' rs ih =>
    have hr := h r (by simp)
    have hlen := rank_of_subset hr.1 hr.2
    have hnext := rank_of_neighbours s r r'
    have hrest := ih r' fun q hq => h q (List.mem_cons_of_mem _ hq)
    rw [List.getLast_cons_cons, hrest, total_cons r, overlaps_cons_cons, detours_cons_cons]
    push_cast
    linarith

/-! ## The size of the union -/

/-- **The lengths less the overlaps** miss the size of the union by what the walk misses. -/
theorem total_sub_overlaps (h : ∀ r ∈ rs, r.1 ≤ r.2) :
    total rs - overlaps rs + missed rs = (covered rs).card := by
  cases rs with
  | nil => rfl
  | cons r rs =>
    have hwalk := rank_getLast r rs fun r' hr' => ⟨h r' hr', interval_subset_covered hr'⟩
    have hafter := rank_add_card_le (covered (r :: rs))
      ((r :: rs).getLast (List.cons_ne_nil r rs)).2
    have hbefore : rank (covered (r :: rs)) r.1 = ((covered (r :: rs)).filter (· < r.1)).card := rfl
    simp only [missed]
    omega

lemma detours_eq_zero : detours s rs = 0 ↔
    (∀ p ∈ neighbours rs, ∀ x ∈ s, p.1.2 ≤ x → p.2.1 ≤ x) ∧
      ∀ p ∈ neighbours rs, interval (p.2.1, p.1.2) ⊆ s := by
  have hgap : ∀ p : (ℤ × ℤ) × (ℤ × ℤ), s ∩ interval (p.1.2, p.2.1) = ∅ ↔
      ∀ x ∈ s, p.1.2 ≤ x → p.2.1 ≤ x := by
    intro p
    simp only [Finset.eq_empty_iff_forall_notMem, Finset.mem_inter, mem_interval, not_and,
      not_lt]
  simp only [detours, List.sum_eq_zero_iff_forall_eq_nat, List.mem_map, forall_exists_index,
    and_imp, forall_apply_eq_imp_iff₂, detour, Nat.add_eq_zero_iff, Finset.card_eq_zero, hgap,
    Finset.sdiff_eq_empty_iff_subset, ← forall_and]

/-- The walks that miss nothing. -/
theorem missed_eq_zero : missed rs = 0 ↔ Staircase rs := by
  cases rs with
  | nil => exact ⟨fun _ => ⟨by simp, by simp [neighbours], by simp [neighbours], by simp⟩,
      fun _ => rfl⟩
  | cons r rs =>
    have hlast : (r :: rs).getLast? = some ((r :: rs).getLast (List.cons_ne_nil r rs)) :=
      List.getLast?_eq_some_getLast _
    simp only [missed, Nat.add_eq_zero_iff, Finset.card_eq_zero, Finset.filter_eq_empty_iff,
      not_lt, not_le, detours_eq_zero]
    constructor
    · rintro ⟨⟨hfirst, hgap, hoverlap⟩, hend⟩
      refine ⟨fun r' hr' x hx => ?_, hgap, hoverlap, fun r' hr' x hx => ?_⟩
      · obtain rfl : r = r' := by simpa using hr'
        exact hfirst hx
      · obtain rfl : (r :: rs).getLast (List.cons_ne_nil r rs) = r' := by simpa [hlast] using hr'
        exact hend hx
    · intro h
      exact ⟨⟨fun x hx => h.first r rfl x hx, h.gap, h.overlap⟩, fun x hx => h.last _ hlast x hx⟩

/-! ## Ascending intervals -/

lemma exists_of_mem_neighbours {p : (ℤ × ℤ) × (ℤ × ℤ)} (h : p ∈ neighbours rs) :
    ∃ before after, rs = before ++ p.1 :: p.2 :: after := by
  induction rs with
  | nil => simp [neighbours] at h
  | cons r rs ih =>
    cases rs with
    | nil => simp [neighbours] at h
    | cons r' rs =>
      rw [neighbours_cons_cons, List.mem_cons] at h
      rcases h with rfl | h
      · exact ⟨[], rs, rfl⟩
      · obtain ⟨before, after, heq⟩ := ih h
        exact ⟨r :: before, after, by rw [heq, List.cons_append]⟩

/-- When both ends ascend, nothing is missed. -/
theorem staircase_of_ascending (h : rs.Pairwise fun r r' => r.1 ≤ r'.1 ∧ r.2 ≤ r'.2) :
    Staircase rs := by
  refine ⟨fun r hr x hx => ?_, fun p hp x hx hle => ?_, fun p hp => ?_, fun r hr x hx => ?_⟩
  · obtain ⟨rest, rfl⟩ := List.head?_eq_some_iff.mp hr
    obtain ⟨q, hq, hin⟩ := mem_covered.mp hx
    rcases List.mem_cons.mp hq with rfl | hq
    · exact hin.1
    · exact ((List.pairwise_cons.mp h).1 q hq).1.trans hin.1
  · obtain ⟨before, after, rfl⟩ := exists_of_mem_neighbours hp
    obtain ⟨q, hq, hin⟩ := mem_covered.mp hx
    obtain ⟨-, hright, hcross⟩ := List.pairwise_append.mp h
    rcases List.mem_append.mp hq with hq | hq
    · -- a point of an earlier interval lies below the end of the first of the two
      have hup := (hcross q hq p.1 (by simp)).2
      omega
    · rcases List.mem_cons.mp hq with rfl | hq
      · omega
      · rcases List.mem_cons.mp hq with rfl | hq
        · exact hin.1
        · have hup := ((List.pairwise_cons.mp (List.pairwise_cons.mp hright).2).1 q hq).1
          omega
  · obtain ⟨before, after, rfl⟩ := exists_of_mem_neighbours hp
    obtain ⟨-, hright, -⟩ := List.pairwise_append.mp h
    have hup := ((List.pairwise_cons.mp hright).1 p.2 (by simp)).2
    intro x hx
    rw [mem_interval] at hx
    exact mem_covered.mpr ⟨p.2, by simp, hx.1, hx.2.trans_le hup⟩
  · obtain ⟨rest, rfl⟩ := List.getLast?_eq_some_iff.mp hr
    obtain ⟨q, hq, hin⟩ := mem_covered.mp hx
    rcases List.mem_append.mp hq with hq | hq
    · exact hin.2.trans_le ((List.pairwise_append.mp h).2.2 q hq r (by simp)).2
    · rw [List.mem_singleton] at hq
      exact hq ▸ hin.2

end IntervalWalk
