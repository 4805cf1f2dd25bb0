import LinkGuardian.Simulator.Checks
import LinkGuardian.Simulator.DisableAll

/-!
# The optimizer

CorrOpt's optimizer disables the corrupting links that are upstream of no ToR in need, then
searches the subsets of the others.  The search refines `Removal.Search`, whose cache of
rejected sets is sound, and the heap returns a subset that leaves the least loss rate.  Together
with the exchange of `Removal.Network.sum_le_of_harmless` this makes the set of links that the
optimizer disables the best of all that keep the constraint.

Two things could make the search miss the best set: the cache, and the restriction to links that are
candidates by themselves.  Neither does, since what a set of links takes away from a ToR grows with
the set: a set that keeps the constraint has only subsets that keep it.
-/

namespace LinkGuardian.Simulator

open Removal Fabric

instance (f : Fabric) (m : ℤ) : DecidablePred (f.Kept m) := fun D =>
  inferInstanceAs (Decidable (∀ t ∈ f.switchTypewiseList .TOR, m ≤ (f.tiers.paths t D : ℤ)))

/-! ## The queue -/

/-- Between equal rates the comparison is by inclusion; the rates are never out of order. -/
lemma compat_candidateLt : Heapq.Compat candidateLt Prod.fst := by
  constructor
  · intro a b h
    unfold candidateLt at h
    split at h
    · next heq => exact heq.le
    · exact (of_decide_eq_true h).le
  · intro a b h
    unfold candidateLt at h
    split at h
    · next heq => exact heq.ge
    · exact not_lt.mp (of_decide_eq_false h)

namespace CorrOptSolution

variable {topo : Topology} (sol : CorrOptSolution)

/-- A further set of links that can be disabled. -/
def Spare (topo : Topology) (F : Finset ℕ) : Prop :=
  topo.fabric.Kept sol.minActivePathsConstraint (topo.disabledLinks ∪ F)

instance (topo : Topology) : DecidablePred (sol.Spare topo) := fun _ =>
  inferInstanceAs (Decidable (topo.fabric.Kept _ _))

lemma Spare.anti {F G : Finset ℕ} (hsub : G ⊆ F) (h : sol.Spare topo F) : sol.Spare topo G :=
  Fabric.Kept.anti h (Finset.union_subset_union_right hsub)

/-! ## The search -/

/-- The entry of a subset in the queue. -/
def candidate (topo : Topology) (F : Finset ℕ) : ℚ × Finset ℕ :=
  (topo.totalLossRate - ∑ link ∈ F, topo.getLinkLossRate link, F)

/-- The search of the optimizer, as an enumeration with a cache of rejected sets.  The cache is the
list of rejected sets, and the heap holds the sets that were found. -/
structure Refines (topo : Topology) (search : SubsetSearch) (s : Search ℕ) : Prop where
  rejects : search.rejectCache = s.rejects
  sound : ∀ R ∈ s.rejects, ¬ sol.Spare topo R
  found : Heapq.items search.candidateSubsetQueue.queue =
    (s.found.map (candidate topo) : Multiset (ℚ × Finset ℕ))
  ordered : Heapq.Ordered Prod.fst search.candidateSubsetQueue.queue

variable {sol} {search : SubsetSearch} {s : Search ℕ}

/-- Where a set is looked at, the constraint is kept: it is kept now, and the links of the set
are enabled. -/
structure Ready (sol : CorrOptSolution) (topo : Topology) : Prop where
  coherent : Coherent topo
  charted : topo.fabric.Charted
  kept : topo.fabric.Kept sol.minActivePathsConstraint topo.disabledLinks

lemma Ready.check_eq (h : Ready sol topo) (order : SetOrder) {F : Finset ℕ}
    (hF : F ⊆ topo.enabledLinks) : ∃ violation,
    sol.getTorsWithCapacityConstraintViolation order topo F = some violation ∧
      (violation = ∅ ↔ sol.Spare topo F) := by
  refine ⟨_, getTorsWithCapacityConstraintViolation_eq sol h.coherent order hF, ?_⟩
  rw [Finset.filter_eq_empty_iff, Spare, kept_union_iff h.coherent h.charted hF h.kept]

/-- **One set of the enumeration.**  Whatever the cache answers, the verdict is the one that a check
of the set would give. -/
lemma Refines.process (h : Ready sol topo) (hR : Refines sol topo search s) (order : SetOrder)
    {F : Finset ℕ} (hF : F ⊆ topo.enabledLinks) : ∃ search',
    sol.processCurrSubsetOfLinks order topo search F =
      some (decide (sol.Spare topo F), search') ∧
    Refines sol topo search' (s.visit (sol.Spare topo) F) ∧
    search'.candidateSingleLinks = search.candidateSingleLinks := by
  have hsound := Search.rejects_visit F hR.sound
  have hcache : search.rejectCache.any (· ⊆ F) = true ↔ ∃ R ∈ s.rejects, R ⊆ F := by
    rw [hR.rejects, List.any_eq_true]
    simp only [decide_eq_true_iff]
  obtain ⟨violation, hcheck, hspare⟩ := h.check_eq order hF
  unfold processCurrSubsetOfLinks
  -- a hit in the cache is no loss: a rejected subset makes the set infeasible
  by_cases hskip : search.rejectCache.any (· ⊆ F) = true
  · obtain ⟨R, hmem, hsub⟩ := hcache.mp hskip
    have hnot : ¬ sol.Spare topo F := fun hspare => hR.sound R hmem (hspare.anti sol hsub)
    refine ⟨search, ?_, ?_, rfl⟩
    · rw [if_pos hskip, decide_eq_false hnot]
      rfl
    · rw [Search.visit, if_pos (hcache.mp hskip)]
      exact hR
  · have hvisit : ¬ ∃ R ∈ s.rejects, R ⊆ F := fun hex => hskip (hcache.mpr hex)
    rw [if_neg hskip, hcheck, Option.bind_eq_bind, Option.bind_some]
    rw [Search.visit, if_neg hvisit] at hsound ⊢
    by_cases hyes : sol.Spare topo F
    · rw [if_pos (hspare.mpr hyes), decide_eq_true hyes]
      rw [if_pos hyes] at hsound ⊢
      refine ⟨_, rfl, ⟨hR.rejects, hsound, ?_, ?_⟩, rfl⟩
      · show Heapq.items (Heapq.heappush candidateLt _ _) = _
        rw [Heapq.items_heappush, hR.found, List.map_append, ← Multiset.coe_add, add_comm]
        rfl
      · exact Heapq.ordered_heappush compat_candidateLt hR.ordered _
    · rw [if_neg (fun h0 => hyes (hspare.mp h0)), decide_eq_false hyes]
      rw [if_neg hyes] at hsound ⊢
      exact ⟨_, rfl, ⟨congrArg (· ++ [F]) hR.rejects, hsound, hR.found, hR.ordered⟩, rfl⟩

lemma refines_empty : Refines sol topo {} {} where
  rejects := rfl
  sound := nofun
  found := rfl
  ordered := Heapq.ordered_empty

/-- **The pass over the single links.**  The links that pass are the material of the second pass. -/
lemma Ready.searchSingleLinks (h : Ready sol topo) (orders : SetOrders) : ∃ search,
    sol.searchSingleLinks orders topo = some search ∧
    Refines sol topo search (((orders.corruptingLinks.toList topo.corruptingLinks).map
      fun l => {l}).foldl (Search.visit (sol.Spare topo)) {}) ∧
    search.candidateSingleLinks = topo.corruptingLinks.filter fun l => sol.Spare topo {l} := by
  have hset : (orders.corruptingLinks.toList topo.corruptingLinks).toFinset =
      topo.corruptingLinks := by
    ext l
    rw [List.mem_toFinset, orders.corruptingLinks.mem_toList]
  suffices hloop : ∃ search, sol.searchSingleLinks orders topo = some search ∧
      Refines sol topo search (((orders.corruptingLinks.toList topo.corruptingLinks).map
        fun l => {l}).foldl (Search.visit (sol.Spare topo)) {}) ∧
      search.candidateSingleLinks = (orders.corruptingLinks.toList
        topo.corruptingLinks).toFinset.filter fun l => sol.Spare topo {l} by
    rwa [hset] at hloop
  refine Loop.total (P := fun done search =>
    Refines sol topo search ((done.map fun l => {l}).foldl (Search.visit (sol.Spare topo)) {}) ∧
    search.candidateSingleLinks = done.toFinset.filter fun l => sol.Spare topo {l})
    ⟨refines_empty, rfl⟩ fun pre l post search hxs hP => ?_
  have hl : {l} ⊆ topo.enabledLinks := by
    rw [Finset.singleton_subset_iff]
    refine h.coherent.enabled_of_corrupting ((orders.corruptingLinks.mem_toList _ _).mp ?_)
    rw [hxs]
    exact List.mem_append_right _ List.mem_cons_self
  obtain ⟨search', hs, hR, hsingle⟩ := hP.1.process h orders.linksToDisable hl
  refine ⟨_, Option.bind_eq_some_iff.mpr ⟨_, hs, rfl⟩, ?_, ?_⟩
  · rw [List.map_append, List.foldl_append]
    split
    · exact ⟨hR.rejects, hR.sound, hR.found, hR.ordered⟩
    · exact hR
  · have hone : [l].toFinset.filter (fun l => sol.Spare topo {l}) =
        if sol.Spare topo {l} then {l} else ∅ := Finset.filter_singleton _ _
    rw [List.toFinset_append, Finset.filter_union, hone, ← hP.2, ← hsingle]
    by_cases hyes : sol.Spare topo {l}
    · rw [if_pos hyes, if_pos (decide_eq_true hyes), Finset.union_comm, ← Finset.insert_eq]
    · rw [if_neg hyes, if_neg (by simpa using hyes), Finset.union_empty]

/-- The sets of the second pass. -/
def combinationSets (order : SetOrder) (S : Finset ℕ) : List (Finset ℕ) :=
  (getAllCorruptingLinkSubsets order S).flatten.map List.toFinset

lemma subset_of_mem_combinationSets (order : SetOrder) {S F : Finset ℕ}
    (hF : F ∈ combinationSets order S) : F ⊆ S := by
  obtain ⟨xs, hxs, rfl⟩ := List.mem_map.mp hF
  obtain ⟨ys, hys, hxs⟩ := List.mem_flatten.mp hxs
  obtain ⟨length, -, rfl⟩ := List.mem_map.mp hys
  have hsub := (List.mem_sublistsLen.mp (List.mem_reverse.mp hxs)).1
  intro l hl
  exact (order.mem_toList S l).mp (hsub.subset (List.mem_toFinset.mp hl))

/-- Every larger subset is among them, however the set of the candidates is iterated over. -/
lemma mem_combinationSets {order : SetOrder} {S F : Finset ℕ} (hF : F ⊆ S) (hcard : 2 ≤ F.card) :
    F ∈ combinationSets order S := by
  have hset : ((order.toList S).filter (· ∈ F)).toFinset = F := by
    ext l
    rw [List.mem_toFinset, List.mem_filter, order.mem_toList, decide_eq_true_iff]
    exact and_iff_right_of_imp fun hl => hF hl
  have hlength : ((order.toList S).filter (· ∈ F)).length = F.card := by
    rw [← List.toFinset_card_of_nodup ((order.nodup S).filter _), hset]
  have hle := Finset.card_le_card hF
  refine List.mem_map.mpr ⟨_, List.mem_flatten.mpr ⟨_, List.mem_map.mpr ⟨F.card, ?_, rfl⟩,
    List.mem_reverse.mpr (List.mem_sublistsLen.mpr ⟨List.filter_sublist, hlength⟩)⟩, hset⟩
  rw [List.mem_range'_1]
  omega

/-- **The pass over the larger sets.**  A set is looked at even when a smaller one was found, since
it may leave less. -/
lemma Ready.searchCombinations (h : Ready sol topo) (orders : SetOrders)
    (hR : Refines sol topo search s) (hsingle : search.candidateSingleLinks ⊆ topo.enabledLinks) :
    ∃ search', sol.searchCombinations orders topo search = some search' ∧
      Refines sol topo search' ((combinationSets orders.candidateSingleLinks
        search.candidateSingleLinks).foldl (Search.visit (sol.Spare topo)) s) := by
  refine Loop.total (P := fun done search' =>
    Refines sol topo search' ((done.map List.toFinset).foldl (Search.visit (sol.Spare topo)) s))
    hR fun pre xs post search' hxs hP => ?_
  have hF : xs.toFinset ⊆ topo.enabledLinks := by
    refine (subset_of_mem_combinationSets orders.candidateSingleLinks ?_).trans hsingle
    rw [combinationSets, hxs]
    exact List.mem_map_of_mem (List.mem_append_right _ List.mem_cons_self)
  obtain ⟨search'', hs, hR', -⟩ := hP.process h orders.linksToDisable hF
  refine ⟨search'', Option.bind_eq_some_iff.mpr ⟨_, hs, rfl⟩, ?_⟩
  rw [List.map_append, List.foldl_append]
  exact hR'

/-- What the search finds: candidates only, and each subset that can be disabled.  The heap has each
of them under the loss rate that it would leave. -/
structure Found (sol : CorrOptSolution) (topo : Topology) (search : SubsetSearch)
    (found : List (Finset ℕ)) : Prop where
  items : Heapq.items search.candidateSubsetQueue.queue =
    (found.map (candidate topo) : Multiset (ℚ × Finset ℕ))
  ordered : Heapq.Ordered Prod.fst search.candidateSubsetQueue.queue
  candidates : ∀ F ∈ found, F ⊆ topo.corruptingLinks ∧ sol.Spare topo F
  complete : ∀ F ⊆ topo.corruptingLinks, F.Nonempty → sol.Spare topo F → F ∈ found

lemma isNotEmpty_iff {q : CandidateSubsetQueue} : q.isNotEmpty = true ↔ q.queue ≠ #[] := by
  rw [CandidateSubsetQueue.isNotEmpty, decide_eq_true_iff, Array.size_pos_iff]

/-- **The search is complete**, in spite of the cache and the restriction to single candidates. -/
theorem Ready.searchSubsets (h : Ready sol topo) (orders : SetOrders) : ∃ search found,
    sol.searchSubsets orders topo = some search ∧ Found sol topo search found := by
  obtain ⟨search, hsearch, hR, hsingle⟩ := h.searchSingleLinks orders
  set singles := (orders.corruptingLinks.toList topo.corruptingLinks).map
    fun l => ({l} : Finset ℕ) with hsingles
  have hanti : ∀ {F G : Finset ℕ}, G ⊆ F → sol.Spare topo F → sol.Spare topo G :=
    fun hsub hF => hF.anti sol hsub
  have hfound : (singles.foldl (Search.visit (sol.Spare topo)) {}).found =
      singles.filter (sol.Spare topo) := by
    rw [Search.found_visitAll hanti {} singles nofun]
    rfl
  have hmem : ∀ l ∈ topo.corruptingLinks, sol.Spare topo {l} →
      {l} ∈ singles.filter (sol.Spare topo) := fun l hl hspare =>
    List.mem_filter.mpr ⟨List.mem_map.mpr ⟨l, (orders.corruptingLinks.mem_toList _ _).mpr hl, rfl⟩,
      decide_eq_true hspare⟩
  have hcandidates : ∀ F ∈ singles.filter (sol.Spare topo),
      F ⊆ topo.corruptingLinks ∧ sol.Spare topo F := by
    intro F hF
    obtain ⟨hF, hspare⟩ := List.mem_filter.mp hF
    obtain ⟨l, hl, rfl⟩ := List.mem_map.mp hF
    exact ⟨Finset.singleton_subset_iff.mpr ((orders.corruptingLinks.mem_toList _ _).mp hl),
      of_decide_eq_true hspare⟩
  by_cases hempty : search.candidateSubsetQueue.isNotEmpty = true
  · -- the second pass looks at the larger sets of single candidates
    have hsub : search.candidateSingleLinks ⊆ topo.corruptingLinks := by
      rw [hsingle]
      exact Finset.filter_subset _ _
    obtain ⟨search', hsearch', hR'⟩ := h.searchCombinations orders hR
      (hsub.trans fun l hl => h.coherent.enabled_of_corrupting hl)
    refine ⟨search', _, Option.bind_eq_some_iff.mpr ⟨_, hsearch, (if_pos hempty).trans hsearch'⟩,
      hR'.found, hR'.ordered, ?_, ?_⟩
    · rw [Search.found_visitAll hanti _ _ hR.sound, hfound]
      intro F hF
      rcases List.mem_append.mp hF with hF | hF
      · exact hcandidates F hF
      · obtain ⟨hF, hspare⟩ := List.mem_filter.mp hF
        exact ⟨(subset_of_mem_combinationSets _ hF).trans hsub, of_decide_eq_true hspare⟩
    · rw [Search.found_visitAll hanti _ _ hR.sound, hfound]
      intro F hFC hne hspare
      refine mem_of_singletons (Q := {F | F ∈ singles.filter (sol.Spare topo) ++ _}) hanti
        (fun l hl hone => List.mem_append_left _ (hmem l hl hone))
        (fun G hG hones hcard hGspare => List.mem_append_right _ ?_) hFC hspare hne
      refine List.mem_filter.mpr ⟨mem_combinationSets ?_ hcard, decide_eq_true hGspare⟩
      rw [hsingle]
      exact fun l hl => Finset.mem_filter.mpr ⟨hG hl, hones l hl⟩
  · -- no single link is a candidate, so no set is
    have hnil : singles.filter (sol.Spare topo) = [] := by
      have hitems := hR.found
      rw [not_not.mp (mt isNotEmpty_iff.mpr hempty), hfound] at hitems
      exact List.map_eq_nil_iff.mp ((Multiset.coe_eq_zero _).mp hitems.symm)
    refine ⟨search, [], Option.bind_eq_some_iff.mpr ⟨_, hsearch, if_neg hempty⟩, ?_, hR.ordered,
      nofun, fun F hFC ⟨l, hl⟩ hspare => ?_⟩
    · rw [hR.found, hfound, hnil]
    · have hone := hmem l (hFC hl) (hspare.anti sol (Finset.singleton_subset_iff.mpr hl))
      rw [hnil] at hone
      cases hone

/-! ## The choice -/

/-- The links of a list are disabled, and they are a best choice among the corrupting links.  That
it is best is claimed for loss rates that are not negative, as all are in a run. -/
structure Choice (sol : CorrOptSolution) (a : Acting) (links : List ℕ) (a' : Acting) : Prop where
  nodup : links.Nodup
  subset : ∀ l ∈ links, l ∈ a.topo.corruptingLinks
  disabled : DisabledAll a links a'
  spare : sol.Spare a.topo links.toFinset
  best : (∀ l ∈ a.topo.corruptingLinks, 0 ≤ a.topo.getLinkLossRate l) →
    ∀ F ⊆ a.topo.corruptingLinks, sol.Spare a.topo F →
      ∑ l ∈ F, a.topo.getLinkLossRate l ≤ ∑ l ∈ links.toFinset, a.topo.getLinkLossRate l

variable {a a' : Acting}

lemma Ready.spare_empty (h : Ready sol topo) : sol.Spare topo ∅ := by
  rw [Spare, Finset.union_empty]
  exact h.kept

/-- Nothing is disabled where nothing can be, and then the empty set is the best choice. -/
lemma Ready.choice_nil (h : Ready sol a.topo)
    (hnone : ∀ F ⊆ a.topo.corruptingLinks, sol.Spare a.topo F → F = ∅) : Choice sol a [] a where
  nodup := List.nodup_nil
  subset := nofun
  disabled := disabledAll_nil h.coherent
  spare := h.spare_empty
  best _ F hF hspare := by
    rw [hnone F hF hspare]
    exact le_rfl

/-- **Step 3 is a best choice**: the heap returns a candidate with the least remaining rate. -/
theorem Ready.disableBestSubset (h : Ready sol a.topo) (orders : SetOrders) (time : ℤ) :
    ∃ a' links, sol.disableBestSubset orders time a = some a' ∧ Choice sol a links a' := by
  obtain ⟨search, found, hsearch, hfound⟩ := h.searchSubsets orders
  by_cases hempty : search.candidateSubsetQueue.isNotEmpty = true
  · obtain ⟨⟨best, heap⟩, hpop⟩ := Option.ne_none_iff_exists'.mp
      (mt Heapq.heappop_eq_none.mp (isNotEmpty_iff.mp hempty))
    have hitems := Heapq.items_heappop hpop
    rw [hfound.items] at hitems
    have hbest : best ∈ found.map (candidate a.topo) := by
      rw [← Multiset.mem_coe, hitems]
      exact Multiset.mem_cons_self _ _
    obtain ⟨B, hB, rfl⟩ := List.mem_map.mp hbest
    obtain ⟨hBC, hspare⟩ := hfound.candidates B hB
    have hset : (orders.leastSubset.toList B).toFinset = B := by
      ext l
      rw [List.mem_toFinset, orders.leastSubset.mem_toList]
    have hsub : ∀ l ∈ orders.leastSubset.toList B, l ∈ a.topo.corruptingLinks := fun l hl =>
      hBC ((orders.leastSubset.mem_toList B l).mp hl)
    obtain ⟨a', hs, hdis⟩ := disableAll_total h.coherent (orders.leastSubset.nodup B) hsub time
    refine ⟨a', orders.leastSubset.toList B, ?_, orders.leastSubset.nodup B, hsub, hdis,
      hset.symm ▸ hspare, fun hnonneg F hF hFspare => ?_⟩
    · refine Option.bind_eq_some_iff.mpr ⟨search, hsearch, (if_pos hempty).trans ?_⟩
      refine Option.bind_eq_some_iff.mpr ⟨candidate a.topo B, ?_, hs⟩
      rw [CandidateSubsetQueue.getLeastLossrateSubset, hpop]
      rfl
    · rw [hset]
      rcases F.eq_empty_or_nonempty with rfl | hne
      · rw [Finset.sum_empty]
        exact Finset.sum_nonneg fun l hl => hnonneg l (hBC hl)
      · have hmem : candidate a.topo F ∈ Heapq.items search.candidateSubsetQueue.queue := by
          rw [hfound.items]
          exact List.mem_map_of_mem (hfound.complete F hF hne hFspare)
        have hle := Heapq.heappop_key_le hfound.ordered hpop hmem
        exact (sub_le_sub_iff_left _).mp hle
  · have hnil : found = [] := by
      have hitems := hfound.items
      rw [not_not.mp (mt isNotEmpty_iff.mpr hempty)] at hitems
      exact List.map_eq_nil_iff.mp ((Multiset.coe_eq_zero _).mp hitems.symm)
    refine ⟨a, [], Option.bind_eq_some_iff.mpr ⟨search, hsearch, if_neg hempty⟩,
      h.choice_nil fun F hF hspare => ?_⟩
    rcases F.eq_empty_or_nonempty with rfl | hne
    · rfl
    · have hmem := hfound.complete F hF hne hspare
      rw [hnil] at hmem
      cases hmem

/-! ## Both steps -/

/-- Every ToR. -/
def tors (f : Fabric) : Set ℕ := {t | t ∈ f.switchTypewiseList .TOR}

/-- The links that step 2 disables affect no ToR in need. -/
def Harmless (sol : CorrOptSolution) (topo : Topology) (S : Finset ℕ) : Prop :=
  Network.Harmless topo.fabric.tiers.network (tors topo.fabric) sol.minActivePathsConstraint
    topo.disabledLinks topo.corruptingLinks S

/-- **Step 2 disables harmless links.**  They affect no ToR that is short, so disabling them takes
nothing from the sets of step 3. -/
lemma Ready.disableNotUpstream (h : Ready sol a.topo) (order order' : SetOrder) (time : ℤ) :
    ∃ violation a' links, sol.getTorsWithCapacityConstraintViolation order a.topo
        a.topo.corruptingLinks = some violation ∧
      CorrOptSolution.disableNotUpstream order' violation time a = some a' ∧
      links.Nodup ∧ DisabledAll a links a' ∧ Harmless sol a.topo links.toFinset := by
  have hC : a.topo.corruptingLinks ⊆ a.topo.enabledLinks := fun l hl =>
    h.coherent.enabled_of_corrupting hl
  have hviolation := getTorsWithCapacityConstraintViolation_eq sol h.coherent order hC
  set violation := (a.topo.corruptingLinks.biUnion a.topo.fabric.linkIdToAffectedTors).filter
    (sol.Short a.topo a.topo.corruptingLinks) with hset
  obtain ⟨a', hs, hd⟩ := disableIf_total h.coherent (order'.nodup a.topo.corruptingLinks)
    (fun l hl => (order'.mem_toList _ l).mp hl)
    (fun f l => violation ∩ f.linkIdToAffectedTors l = ∅) time
  refine ⟨violation, a', _, hviolation, hs, (order'.nodup _).filter _, hd, fun l hl => ?_,
    fun l hl t _ hneed haffects => ?_⟩
  · exact (order'.mem_toList _ l).mp (List.mem_filter.mp (List.mem_toFinset.mp hl)).1
  · obtain ⟨hl, hnone⟩ := List.mem_filter.mp (List.mem_toFinset.mp hl)
    have hl := (order'.mem_toList _ l).mp hl
    have ht := (h.coherent.wired.affectedTors l (h.coherent.corrupting_subset hl) t).mpr haffects
    -- a ToR in need below the link is among those that step 2 spares
    have hmem : t ∈ violation :=
      Finset.mem_filter.mpr ⟨Finset.mem_biUnion.mpr ⟨l, hl, ht⟩, hneed⟩
    have hinter : t ∈ violation ∩ a.topo.fabric.linkIdToAffectedTors l :=
      Finset.mem_inter.mpr ⟨hmem, ht⟩
    rw [of_decide_eq_true hnone] at hinter
    exact Finset.notMem_empty t hinter

/-- The constraint is kept after step 2, which is where step 3 starts from. -/
lemma Ready.of_harmless (h : Ready sol a.topo) {links : List ℕ} (hd : DisabledAll a links a')
    (hharmless : Harmless sol a.topo links.toFinset) : Ready sol a'.topo where
  coherent := hd.coherent
  charted := hd.fabric ▸ h.charted
  kept := by
    have hkept := Network.Feasible.union_harmless hharmless (Finset.empty_subset _) h.spare_empty
    rw [Finset.union_empty] at hkept
    rw [hd.fabric, hd.disabledLinks]
    exact hkept

/-- **Exchange**: a best choice after step 2 makes a best choice of all. -/
lemma Choice.after {b : Acting} {links links' : List ℕ} (hc : Coherent a.topo)
    (hnodup : links.Nodup) (hd : DisabledAll a links b)
    (hharmless : Harmless sol a.topo links.toFinset) (hchoice : Choice sol b links' a') :
    Choice sol a (links ++ links') a' := by
  have hrest : ∀ l ∈ links', l ∈ a.topo.corruptingLinks ∧ l ∉ links := by
    intro l hl
    have hmem := hchoice.subset l hl
    rw [hd.corruptingLinks] at hmem
    obtain ⟨hC, hnot⟩ := Finset.mem_sdiff.mp hmem
    exact ⟨hC, fun hmem => hnot (List.mem_toFinset.mpr hmem)⟩
  have hdisj : Disjoint links.toFinset links'.toFinset := Finset.disjoint_right.mpr fun l hl hmem =>
    (hrest l (List.mem_toFinset.mp hl)).2 (List.mem_toFinset.mp hmem)
  have hspare : ∀ F, sol.Spare b.topo F ↔ a.topo.fabric.Kept sol.minActivePathsConstraint
      (a.topo.disabledLinks ∪ links.toFinset ∪ F) := by
    intro F
    rw [Spare, hd.fabric, hd.disabledLinks]
  have hrate : ∀ F ⊆ a.topo.corruptingLinks,
      ∑ l ∈ F, b.topo.getLinkLossRate l = ∑ l ∈ F, a.topo.getLinkLossRate l := fun F hF =>
    Finset.sum_congr rfl fun l hl => hd.lossRate l (hc.corrupting_subset (hF hl))
  have hsub : links'.toFinset ⊆ a.topo.corruptingLinks := fun l hl =>
    (hrest l (List.mem_toFinset.mp hl)).1
  constructor
  case nodup =>
    refine List.nodup_append.mpr ⟨hnodup, hchoice.nodup, fun l hl l' hl' heq => ?_⟩
    exact (hrest l' hl').2 (heq ▸ hl)
  case subset =>
    intro l hl
    rcases List.mem_append.mp hl with hl | hl
    · exact hharmless.1 (List.mem_toFinset.mpr hl)
    · exact (hrest l hl).1
  case disabled => exact hd.trans hc hchoice.disabled fun l hl => (hrest l hl).1
  case spare =>
    rw [Spare, List.toFinset_append, ← Finset.union_assoc]
    exact (hspare _).mp hchoice.spare
  case best =>
    intro hnonneg F hF hFspare
    rw [List.toFinset_append]
    -- a link that is harmless can be added to any feasible set, so a best set contains them all
    refine Network.sum_le_of_harmless hnonneg hharmless hdisj (fun G hG hGkept => ?_) hF hFspare
    have hGC : G ⊆ a.topo.corruptingLinks := hG.trans Finset.sdiff_subset
    rw [← hrate G hGC, ← hrate _ hsub]
    refine hchoice.best (fun l hl => ?_) G (hd.corruptingLinks ▸ hG) ((hspare G).mpr hGkept)
    rw [hd.corruptingLinks] at hl
    have hl := (Finset.mem_sdiff.mp hl).1
    rw [hd.lossRate l (hc.corrupting_subset hl)]
    exact hnonneg l hl

/-- **The optimizer disables a best choice of corrupting links.** -/
theorem Ready.corroptOptimizer (h : Ready sol topo) (orders : SetOrders) (gen : RandGen)
    (time : ℤ) : ∃ a' links, sol.corroptOptimizer orders topo gen time = some a' ∧
      Choice sol { topo := topo, gen := gen } links a' := by
  have h' : Ready sol ({ topo := topo, gen := gen } : Acting).topo := h
  unfold CorrOptSolution.corroptOptimizer
  by_cases hC : topo.corruptingLinks = ∅
  · refine ⟨_, [], if_pos hC, h'.choice_nil fun F hF _ => ?_⟩
    exact Finset.subset_empty.mp (hC ▸ hF)
  · obtain ⟨violation, b, links, hviolation, hs, hnodup, hd, hharmless⟩ :=
      h'.disableNotUpstream orders.linksToDisable orders.copy time
    have hready := h'.of_harmless hd hharmless
    obtain ⟨a', links', hs', hchoice⟩ : ∃ a' links', (if b.topo.corruptingLinks = ∅ then some b
        else sol.disableBestSubset orders time b) = some a' ∧ Choice sol b links' a' := by
      by_cases hb : b.topo.corruptingLinks = ∅
      · refine ⟨b, [], if_pos hb, hready.choice_nil fun F hF _ => ?_⟩
        exact Finset.subset_empty.mp (hb ▸ hF)
      · rw [if_neg hb]
        exact hready.disableBestSubset orders time
    refine ⟨a', links ++ links', ?_, hchoice.after h.coherent hnodup hd hharmless⟩
    rw [if_neg hC]
    exact Option.bind_eq_some_iff.mpr ⟨violation, hviolation,
      Option.bind_eq_some_iff.mpr ⟨b, hs, hs'⟩⟩

end CorrOptSolution

end LinkGuardian.Simulator
