import LinkGuardian.Simulator.Topology
import Mathlib.Data.Finset.Card
import Mathlib.Data.List.Nodup

/-!
# Folded Clos networks

What both builders build.  A pod has ToRs and aggs, each ToR is joined to each agg of its pod,
and the aggs at one position of their pods form a plane with core switches of its own, each
joined to every agg of the plane.  Switches are numbered pod by pod, the ToRs of a pod before
its aggs, and the core switches at the end.
-/

namespace LinkGuardian.Simulator

structure Clos where
  pods : ℕ
  /-- ToRs of a pod -/
  tors : ℕ
  /-- aggs of a pod, which is the number of planes -/
  aggs : ℕ
  /-- core switches of a plane -/
  cores : ℕ

namespace Clos

variable (C : Clos)

/-! ## Switches -/

def podSize : ℕ := C.tors + C.aggs

def torId (p i : ℕ) : ℕ := p * C.podSize + i

def aggId (p j : ℕ) : ℕ := p * C.podSize + (C.tors + j)

def coreId (j i : ℕ) : ℕ := C.pods * C.podSize + (j * C.cores + i)

def numSwitches : ℕ := C.pods * C.podSize + C.aggs * C.cores

def typeOf (sw : ℕ) : SwitchType :=
  if sw < C.pods * C.podSize then if sw % C.podSize < C.tors then .TOR else .AGG else .CORE

variable {C}

lemma block_lt {n m p x : ℕ} (hp : p < n) (hx : x < m) : p * m + x < n * m := by
  calc p * m + x < p * m + m := Nat.add_lt_add_left hx _
    _ = (p + 1) * m := (Nat.succ_mul p m).symm
    _ ≤ n * m := Nat.mul_le_mul_right m hp

lemma block_div {m p x : ℕ} (hx : x < m) : (p * m + x) / m = p := by
  rw [Nat.mul_comm, Nat.mul_add_div (Nat.zero_lt_of_lt hx), Nat.div_eq_of_lt hx, Nat.add_zero]

lemma block_mod {m p x : ℕ} (hx : x < m) : (p * m + x) % m = x := by
  rw [Nat.mul_comm, Nat.mul_add_mod, Nat.mod_eq_of_lt hx]

section Positions

variable {p p' i i' j j' : ℕ}

lemma tor_lt_podSize (hi : i < C.tors) : i < C.podSize := Nat.lt_add_right _ hi

lemma agg_lt_podSize (hj : j < C.aggs) : C.tors + j < C.podSize := Nat.add_lt_add_left hj _

lemma typeOf_torId (hp : p < C.pods) (hi : i < C.tors) : C.typeOf (C.torId p i) = .TOR := by
  have hlt : C.torId p i < C.pods * C.podSize := block_lt hp (tor_lt_podSize hi)
  rw [typeOf, if_pos hlt, torId, block_mod (tor_lt_podSize hi), if_pos hi]

lemma typeOf_aggId (hp : p < C.pods) (hj : j < C.aggs) : C.typeOf (C.aggId p j) = .AGG := by
  have hlt : C.aggId p j < C.pods * C.podSize := block_lt hp (agg_lt_podSize hj)
  rw [typeOf, if_pos hlt, aggId, block_mod (agg_lt_podSize hj),
    if_neg (Nat.not_lt.mpr (Nat.le_add_right _ _))]

lemma typeOf_coreId : C.typeOf (C.coreId j i) = .CORE :=
  if_neg (Nat.not_lt.mpr (Nat.le_add_right _ _))

lemma torId_lt (hp : p < C.pods) (hi : i < C.tors) : C.torId p i < C.numSwitches :=
  Nat.lt_add_right _ (block_lt hp (tor_lt_podSize hi))

lemma aggId_lt (hp : p < C.pods) (hj : j < C.aggs) : C.aggId p j < C.numSwitches :=
  Nat.lt_add_right _ (block_lt hp (agg_lt_podSize hj))

lemma coreId_lt (hj : j < C.aggs) (hi : i < C.cores) : C.coreId j i < C.numSwitches :=
  Nat.add_lt_add_left (block_lt hj hi) _

lemma aggId_inj (hj : j < C.aggs) (hj' : j' < C.aggs) (h : C.aggId p j = C.aggId p' j') :
    p = p' ∧ j = j' := by
  have hdiv := congrArg (· / C.podSize) h
  have hmod := congrArg (· % C.podSize) h
  simp only [aggId, block_div (agg_lt_podSize hj), block_div (agg_lt_podSize hj'),
    block_mod (agg_lt_podSize hj), block_mod (agg_lt_podSize hj')] at hdiv hmod
  exact ⟨hdiv, Nat.add_left_cancel hmod⟩

lemma torId_inj (hi : i < C.tors) (hi' : i' < C.tors) (h : C.torId p i = C.torId p' i') :
    p = p' ∧ i = i' := by
  have hdiv := congrArg (· / C.podSize) h
  have hmod := congrArg (· % C.podSize) h
  simp only [torId, block_div (tor_lt_podSize hi), block_div (tor_lt_podSize hi'),
    block_mod (tor_lt_podSize hi), block_mod (tor_lt_podSize hi')] at hdiv hmod
  exact ⟨hdiv, hmod⟩

lemma coreId_inj (hi : i < C.cores) (hi' : i' < C.cores) (h : C.coreId j i = C.coreId j' i') :
    j = j' ∧ i = i' := by
  have h : j * C.cores + i = j' * C.cores + i' := Nat.add_left_cancel h
  have hdiv := congrArg (· / C.cores) h
  have hmod := congrArg (· % C.cores) h
  simp only [block_div hi, block_div hi', block_mod hi, block_mod hi'] at hdiv hmod
  exact ⟨hdiv, hmod⟩

end Positions

/-- Each switch is a ToR, an agg or a core switch at some position. -/
lemma switch_cases {sw : ℕ} (h : sw < C.numSwitches) :
    (∃ p < C.pods, ∃ i < C.tors, sw = C.torId p i) ∨
      (∃ p < C.pods, ∃ j < C.aggs, sw = C.aggId p j) ∨
      ∃ j < C.aggs, ∃ i < C.cores, sw = C.coreId j i := by
  by_cases hpod : sw < C.pods * C.podSize
  · have hp : sw / C.podSize < C.pods := Nat.div_lt_of_lt_mul (by rwa [Nat.mul_comm])
    have hm : 0 < C.podSize := Nat.pos_of_mul_pos_left (Nat.zero_lt_of_lt hpod)
    have hsw : sw = sw / C.podSize * C.podSize + sw % C.podSize :=
      (Nat.div_add_mod' sw C.podSize).symm
    have hlt := Nat.mod_lt sw hm
    by_cases htor : sw % C.podSize < C.tors
    · exact .inl ⟨_, hp, _, htor, hsw⟩
    · refine .inr (.inl ⟨_, hp, sw % C.podSize - C.tors, ?_, ?_⟩)
      · unfold podSize at hlt htor ⊢
        omega
      · rw [aggId, Nat.add_sub_cancel' (Nat.not_lt.mp htor)]
        exact hsw
  · have hsub : sw - C.pods * C.podSize < C.aggs * C.cores := by
      unfold numSwitches at h
      omega
    have hcores : 0 < C.cores := Nat.pos_of_mul_pos_left (Nat.zero_lt_of_lt hsub)
    have hj : (sw - C.pods * C.podSize) / C.cores < C.aggs :=
      (Nat.div_lt_iff_lt_mul hcores).mpr hsub
    refine .inr (.inr ⟨_, hj, (sw - C.pods * C.podSize) % C.cores, Nat.mod_lt _ hcores, ?_⟩)
    rw [coreId, Nat.div_add_mod' (sw - C.pods * C.podSize) C.cores]
    omega

/-! ## Links -/

variable (C)

/-- The switches of each link of a pod, in the order in which a builder adds them. -/
def podPairs (p : ℕ) : List (ℕ × ℕ) :=
  (List.range C.tors).flatMap fun i => (List.range C.aggs).map fun j => (C.torId p i, C.aggId p j)

def planePairs (j : ℕ) : List (ℕ × ℕ) :=
  (List.range C.cores).flatMap fun i =>
    (List.range C.pods).map fun p => (C.coreId j i, C.aggId p j)

def lowPairs : List (ℕ × ℕ) := (List.range C.pods).flatMap C.podPairs

def upPairs : List (ℕ × ℕ) := (List.range C.aggs).flatMap C.planePairs

def pairs : List (ℕ × ℕ) := C.lowPairs ++ C.upPairs

variable {C}

lemma mem_podPairs {p : ℕ} {x : ℕ × ℕ} : x ∈ C.podPairs p ↔
    ∃ i < C.tors, ∃ j < C.aggs, x = (C.torId p i, C.aggId p j) := by
  simp only [podPairs, List.mem_flatMap, List.mem_map, List.mem_range, eq_comm]

lemma mem_lowPairs {x : ℕ × ℕ} : x ∈ C.lowPairs ↔
    ∃ p < C.pods, ∃ i < C.tors, ∃ j < C.aggs, x = (C.torId p i, C.aggId p j) := by
  simp only [lowPairs, List.mem_flatMap, List.mem_range, mem_podPairs]

lemma mem_planePairs {j : ℕ} {x : ℕ × ℕ} : x ∈ C.planePairs j ↔
    ∃ i < C.cores, ∃ p < C.pods, x = (C.coreId j i, C.aggId p j) := by
  simp only [planePairs, List.mem_flatMap, List.mem_map, List.mem_range, eq_comm]

lemma mem_upPairs {x : ℕ × ℕ} : x ∈ C.upPairs ↔
    ∃ j < C.aggs, ∃ i < C.cores, ∃ p < C.pods, x = (C.coreId j i, C.aggId p j) := by
  simp only [upPairs, List.mem_flatMap, List.mem_range, mem_planePairs]

lemma typeOf_of_mem_lowPairs {x : ℕ × ℕ} (h : x ∈ C.lowPairs) :
    C.typeOf x.1 = .TOR ∧ C.typeOf x.2 = .AGG := by
  obtain ⟨p, hp, i, hi, j, hj, rfl⟩ := mem_lowPairs.mp h
  exact ⟨typeOf_torId hp hi, typeOf_aggId hp hj⟩

lemma typeOf_of_mem_upPairs {x : ℕ × ℕ} (h : x ∈ C.upPairs) :
    C.typeOf x.1 = .CORE ∧ C.typeOf x.2 = .AGG := by
  obtain ⟨j, hj, i, -, p, hp, rfl⟩ := mem_upPairs.mp h
  exact ⟨typeOf_coreId, typeOf_aggId hp hj⟩

/-- Parts that can be told apart by a key have nothing in common. -/
lemma nodup_flatMap_of_key {α β : Type} {xs : List α} {g : α → List β} (key : β → α)
    (hxs : xs.Nodup) (hg : ∀ x ∈ xs, (g x).Nodup) (hkey : ∀ x ∈ xs, ∀ y ∈ g x, key y = x) :
    (xs.flatMap g).Nodup := by
  refine List.nodup_flatMap.mpr ⟨hg, ?_⟩
  refine List.Pairwise.imp_of_mem (fun {x x'} hx hx' hne y hy hy' => ?_) hxs
  exact hne ((hkey x hx y hy).symm.trans (hkey x' hx' y hy'))

lemma nodup_lowPairs : C.lowPairs.Nodup := by
  refine nodup_flatMap_of_key (fun y => y.1 / C.podSize) List.nodup_range (fun p _ => ?_) ?_
  · refine nodup_flatMap_of_key (fun y => y.1 % C.podSize) List.nodup_range (fun i _ => ?_) ?_
    · refine List.Nodup.map_on (fun j hj j' hj' heq => ?_) List.nodup_range
      exact (aggId_inj (List.mem_range.mp hj) (List.mem_range.mp hj') (congrArg Prod.snd heq)).2
    · intro i hi y hy
      obtain ⟨j, -, rfl⟩ := List.mem_map.mp hy
      exact block_mod (tor_lt_podSize (List.mem_range.mp hi))
  · intro p _ y hy
    obtain ⟨i, hi, j, -, rfl⟩ := mem_podPairs.mp hy
    exact block_div (tor_lt_podSize hi)

lemma nodup_upPairs : C.upPairs.Nodup := by
  have hsub : ∀ j i, C.coreId j i - C.pods * C.podSize = j * C.cores + i :=
    fun j i => Nat.add_sub_cancel_left ..
  refine nodup_flatMap_of_key (fun y => (y.1 - C.pods * C.podSize) / C.cores)
    List.nodup_range (fun j hj => ?_) ?_
  · refine nodup_flatMap_of_key (fun y => (y.1 - C.pods * C.podSize) % C.cores)
      List.nodup_range (fun i _ => ?_) ?_
    · refine List.Nodup.map_on (fun p _ p' _ heq => ?_) List.nodup_range
      have hj := List.mem_range.mp hj
      exact (aggId_inj hj hj (congrArg Prod.snd heq)).1
    · intro i hi y hy
      obtain ⟨p, -, rfl⟩ := List.mem_map.mp hy
      show (C.coreId j i - _) % _ = i
      rw [hsub, block_mod (List.mem_range.mp hi)]
  · intro j _ y hy
    obtain ⟨i, hi, p, -, rfl⟩ := mem_planePairs.mp hy
    show (C.coreId j i - _) / _ = j
    rw [hsub, block_div hi]

/-- **No two links join the same switches.**  Links can therefore be counted by the pairs that they
join. -/
theorem nodup_pairs : C.pairs.Nodup := by
  refine List.nodup_append.mpr ⟨nodup_lowPairs, nodup_upPairs, fun x hx y hy heq => ?_⟩
  have htor := (typeOf_of_mem_lowPairs hx).1
  rw [heq, (typeOf_of_mem_upPairs hy).1] at htor
  cases htor

lemma length_pairs :
    C.pairs.length = C.pods * (C.tors * C.aggs) + C.aggs * (C.cores * C.pods) := by
  simp [pairs, lowPairs, upPairs, podPairs, planePairs, List.length_flatMap]

/-! ## The links of a switch -/

section Degrees

variable {p i j : ℕ}

lemma filter_torId (hp : p < C.pods) (hi : i < C.tors) :
    C.pairs.toFinset.filter (fun x => x.1 = C.torId p i) =
      (Finset.range C.aggs).image fun j => (C.torId p i, C.aggId p j) := by
  ext x
  simp only [Finset.mem_filter, List.mem_toFinset, pairs, List.mem_append, Finset.mem_image,
    Finset.mem_range]
  constructor
  · rintro ⟨hlow | hup, heq⟩
    · obtain ⟨p', -, i', hi', j, hj, rfl⟩ := mem_lowPairs.mp hlow
      obtain ⟨rfl, rfl⟩ := torId_inj hi' hi heq
      exact ⟨j, hj, rfl⟩
    · have hcore := (typeOf_of_mem_upPairs hup).1
      rw [heq, typeOf_torId hp hi] at hcore
      cases hcore
  · rintro ⟨j, hj, rfl⟩
    exact ⟨.inl (mem_lowPairs.mpr ⟨p, hp, i, hi, j, hj, rfl⟩), rfl⟩

lemma filter_aggId_low (hp : p < C.pods) (hj : j < C.aggs) :
    C.lowPairs.toFinset.filter (fun x => x.2 = C.aggId p j) =
      (Finset.range C.tors).image fun i => (C.torId p i, C.aggId p j) := by
  ext x
  simp only [Finset.mem_filter, List.mem_toFinset, mem_lowPairs, Finset.mem_image,
    Finset.mem_range]
  constructor
  · rintro ⟨⟨p', -, i, hi, j', hj', rfl⟩, heq⟩
    obtain ⟨rfl, rfl⟩ := aggId_inj hj' hj heq
    exact ⟨i, hi, rfl⟩
  · rintro ⟨i, hi, rfl⟩
    exact ⟨⟨p, hp, i, hi, j, hj, rfl⟩, rfl⟩

lemma filter_aggId_up (hp : p < C.pods) (hj : j < C.aggs) :
    C.upPairs.toFinset.filter (fun x => x.2 = C.aggId p j) =
      (Finset.range C.cores).image fun i => (C.coreId j i, C.aggId p j) := by
  ext x
  simp only [Finset.mem_filter, List.mem_toFinset, mem_upPairs, Finset.mem_image,
    Finset.mem_range]
  constructor
  · rintro ⟨⟨j', hj', i, hi, p', -, rfl⟩, heq⟩
    obtain ⟨rfl, rfl⟩ := aggId_inj hj' hj heq
    exact ⟨i, hi, rfl⟩
  · rintro ⟨i, hi, rfl⟩
    exact ⟨⟨j, hj, i, hi, p, hp, rfl⟩, rfl⟩

lemma filter_coreId (hj : j < C.aggs) (hi : i < C.cores) :
    C.pairs.toFinset.filter (fun x => x.1 = C.coreId j i) =
      (Finset.range C.pods).image fun p => (C.coreId j i, C.aggId p j) := by
  ext x
  simp only [Finset.mem_filter, List.mem_toFinset, pairs, List.mem_append, Finset.mem_image,
    Finset.mem_range]
  constructor
  · rintro ⟨hlow | hup, heq⟩
    · have htor := (typeOf_of_mem_lowPairs hlow).1
      rw [heq, typeOf_coreId] at htor
      cases htor
    · obtain ⟨j', -, i', hi', p, hp, rfl⟩ := mem_upPairs.mp hup
      obtain ⟨rfl, rfl⟩ := coreId_inj hi' hi heq
      exact ⟨p, hp, rfl⟩
  · rintro ⟨p, hp, rfl⟩
    exact ⟨.inr (mem_upPairs.mpr ⟨j, hj, i, hi, p, hp, rfl⟩), rfl⟩

end Degrees

end Clos

end LinkGuardian.Simulator
