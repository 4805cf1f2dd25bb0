import LinkGuardian.Simulator.Limits
import LinkGuardian.Simulator.Simulation

/-!
# The built topologies are symmetric

CorrOpt derives its constraint for all ToRs from a single one, which is right for a symmetric
folded Clos network.  `SymmetricClos` states the symmetry in terms of what the solutions can ask
the topology, and `builders_symmetric` says that both builders create such a network, for all
parameters that leave enough IDs.
-/

namespace LinkGuardian.Simulator

open Fabric Removal

/-- The topology is the symmetric network, and its tables describe it.  It is stated by pods and
planes, and so says more than that all ToRs have equally many paths. -/
structure SymmetricClos (C : Clos) (topo : Topology) : Prop where
  tors : ∀ t, t ∈ topo.fabric.switchTypewiseList .TOR ↔
    ∃ p < C.pods, ∃ i < C.tors, t = C.torId p i
  aggs : ∀ a, a ∈ topo.fabric.switchTypewiseList .AGG ↔
    ∃ p < C.pods, ∃ j < C.aggs, a = C.aggId p j
  cores : ∀ c, c ∈ topo.fabric.switchTypewiseList .CORE ↔
    ∃ j < C.aggs, ∃ i < C.cores, c = C.coreId j i
  tor_pod : ∀ p < C.pods, ∀ i < C.tors, (topo.fabric.nodes (C.torId p i)).pod = p
  agg_pod : ∀ p < C.pods, ∀ j < C.aggs, (topo.fabric.nodes (C.aggId p j)).pod = p
  /-- a ToR is joined to the aggs of its pod -/
  tor_links : ∀ t ∈ topo.fabric.switchTypewiseList .TOR,
    (∀ a, a ∈ topo.fabric.getAdjacentSwitchIds t .ALL ↔
      a ∈ topo.fabric.switchTypewiseList .AGG ∧
        (topo.fabric.nodes a).pod = (topo.fabric.nodes t).pod) ∧
    (topo.fabric.getAdjacentSwitchIds t .ALL).card = C.aggs
  /-- an agg is joined to the core switches of its plane -/
  agg_links : ∀ p < C.pods, ∀ j < C.aggs,
    topo.fabric.getAdjacentSwitchIds (C.aggId p j) .CORE =
      (Finset.range C.cores).image (C.coreId j) ∧
    (topo.fabric.getAdjacentSwitchIds (C.aggId p j) .CORE).card = C.cores
  /-- a core switch is joined to one agg of each pod -/
  core_links : ∀ c ∈ topo.fabric.switchTypewiseList .CORE,
    (∀ a ∈ topo.fabric.getAdjacentSwitchIds c .ALL, a ∈ topo.fabric.switchTypewiseList .AGG) ∧
    ∀ p < C.pods, ∃! a, a ∈ topo.fabric.getAdjacentSwitchIds c .ALL ∧
      (topo.fabric.nodes a).pod = p
  one_link : ∀ l ∈ topo.fabric.links, ∀ l' ∈ topo.fabric.links,
    topo.fabric.edgeOf l = topo.fabric.edgeOf l' → l = l'
  numPathsToCore : ∀ t ∈ topo.fabric.switchTypewiseList .TOR,
    topo.numPathsToCore t = C.aggs * C.cores
  affectedTors : ∀ l ∈ topo.fabric.links, ∀ t, t ∈ topo.fabric.linkIdToAffectedTors l ↔
    t ∈ topo.fabric.switchTypewiseList .TOR ∧ ∃ path ∈ topo.fabric.pathsToCore t, l ∈ path

/-! ## Pairs of switches that are joined -/

namespace Clos

variable {C : Clos} {p i j b : ℕ}

lemma mem_pairs_torId (hp : p < C.pods) (hi : i < C.tors) :
    (C.torId p i, b) ∈ C.pairs ↔ ∃ j < C.aggs, b = C.aggId p j := by
  have hfilter := Finset.ext_iff.mp (filter_torId hp hi) (C.torId p i, b)
  simpa [eq_comm] using hfilter

lemma mem_pairs_coreId (hj : j < C.aggs) (hi : i < C.cores) :
    (C.coreId j i, b) ∈ C.pairs ↔ ∃ p < C.pods, b = C.aggId p j := by
  have hfilter := Finset.ext_iff.mp (filter_coreId hj hi) (C.coreId j i, b)
  simpa [eq_comm] using hfilter

/-- The first switch of a pair is no agg, the second one is. -/
lemma typeOf_of_mem_pairs {x : ℕ × ℕ} (h : x ∈ C.pairs) :
    C.typeOf x.1 ≠ .AGG ∧ C.typeOf x.2 = .AGG := by
  rcases List.mem_append.mp h with hlow | hup
  · obtain ⟨htor, hagg⟩ := typeOf_of_mem_lowPairs hlow
    exact ⟨by simp [htor], hagg⟩
  · obtain ⟨hcore, hagg⟩ := typeOf_of_mem_upPairs hup
    exact ⟨by simp [hcore], hagg⟩

lemma mem_pairs_aggId (hp : p < C.pods) (hj : j < C.aggs) (hcore : C.typeOf b = .CORE) :
    (b, C.aggId p j) ∈ C.pairs ↔ ∃ i < C.cores, b = C.coreId j i := by
  have hfilter := Finset.ext_iff.mp (filter_aggId_up hp hj) (b, C.aggId p j)
  have hup : (b, C.aggId p j) ∈ C.pairs ↔ (b, C.aggId p j) ∈ C.upPairs := by
    refine ⟨fun h => (List.mem_append.mp h).resolve_left fun hlow => ?_,
      fun h => List.mem_append_right _ h⟩
    have htor := (typeOf_of_mem_lowPairs hlow).1
    simp [hcore] at htor
  rw [hup]
  simpa [eq_comm] using hfilter

end Clos

namespace Stage

variable {C : Clos} {kind : TopoType × TopoParams × ℚ} {topo topo' : Topology} {a b : ℕ}

section Wiring

variable (h : Stage C kind C.numSwitches C.pairs topo)
include h

lemma mem_neighbors : b ∈ topo.fabric.neighbors a ↔ (a, b) ∈ C.pairs ∨ (b, a) ∈ C.pairs := by
  have hpairs : ∀ x, x ∈ C.pairs ↔
      ∃ l ∈ topo.fabric.links, (topo.fabric.outer l, topo.fabric.agg l) = x := fun x => by
    rw [← h.pairs, Fabric.mem_pairs]
  rw [h.fresh.charted.neighbors, List.mem_map, hpairs, hpairs]
  constructor
  · rintro ⟨l, hl, rfl⟩
    obtain ⟨hl, hends⟩ := mem_linksAt.mp hl
    by_cases houter : topo.fabric.outer l = a
    · exact .inl ⟨l, hl, by simp [opposite, houter]⟩
    · exact .inr ⟨l, hl, by simp [opposite, houter, hends.resolve_left houter]⟩
  · rintro (⟨l, hl, hends⟩ | ⟨l, hl, hends⟩)
    · obtain ⟨rfl, rfl⟩ := Prod.mk.inj hends
      exact ⟨l, mem_linksAt.mpr ⟨hl, .inl rfl⟩, by simp [opposite]⟩
    · obtain ⟨rfl, rfl⟩ := Prod.mk.inj hends
      refine ⟨l, mem_linksAt.mpr ⟨hl, .inr rfl⟩, ?_⟩
      simp [opposite, h.fresh.wired.outer_ne_agg hl hl]

/-- A switch that is no agg is the first of each pair that it is in. -/
lemma mem_neighbors_of_ne (hne : C.typeOf a ≠ .AGG) :
    b ∈ topo.fabric.neighbors a ↔ (a, b) ∈ C.pairs := by
  rw [h.mem_neighbors]
  exact or_iff_left fun hab => hne (Clos.typeOf_of_mem_pairs hab).2

/-- **The neighbours of a ToR** are the aggs of its pod. -/
lemma adjacent_torId {p i : ℕ} (hp : p < C.pods) (hi : i < C.tors) :
    topo.fabric.getAdjacentSwitchIds (C.torId p i) .ALL =
      (Finset.range C.aggs).image (C.aggId p) := by
  ext b
  rw [getAdjacentSwitchIds, if_pos rfl, List.mem_toFinset,
    h.mem_neighbors_of_ne (by simp [Clos.typeOf_torId hp hi]), Clos.mem_pairs_torId hp hi]
  simp [eq_comm]

/-- **The neighbours of a core switch** are the aggs of its plane. -/
lemma adjacent_coreId {j i : ℕ} (hj : j < C.aggs) (hi : i < C.cores) :
    topo.fabric.getAdjacentSwitchIds (C.coreId j i) .ALL =
      (Finset.range C.pods).image (C.aggId · j) := by
  ext b
  rw [getAdjacentSwitchIds, if_pos rfl, List.mem_toFinset,
    h.mem_neighbors_of_ne (by simp [Clos.typeOf_coreId]), Clos.mem_pairs_coreId hj hi]
  simp [eq_comm]

/-- **The core switches next to an agg** are those of its plane. -/
lemma adjacent_aggId {p j : ℕ} (hp : p < C.pods) (hj : j < C.aggs) :
    topo.fabric.getAdjacentSwitchIds (C.aggId p j) .CORE =
      (Finset.range C.cores).image (C.coreId j) := by
  ext b
  rw [getAdjacentSwitchIds, if_neg (by decide), List.mem_toFinset, List.mem_filter,
    h.mem_neighbors, decide_eq_true_iff, Finset.mem_image]
  have hfirst : (C.aggId p j, b) ∉ C.pairs := fun hab =>
    (Clos.typeOf_of_mem_pairs hab).1 (Clos.typeOf_aggId hp hj)
  constructor
  · rintro ⟨hpair, hcore⟩
    have hpair := hpair.resolve_left hfirst
    have hlt : b < C.numSwitches := by
      rw [← h.pairs, Fabric.mem_pairs] at hpair
      obtain ⟨l, hl, hends⟩ := hpair
      rw [← h.globalSwitchId, ← (Prod.mk.inj hends).1]
      exact h.fresh.wired.lt_globalSwitchId l hl _ (.inl rfl)
    rw [h.types b hlt] at hcore
    obtain ⟨i, hi, rfl⟩ := (Clos.mem_pairs_aggId hp hj hcore).mp hpair
    exact ⟨i, Finset.mem_range.mpr hi, rfl⟩
  · rintro ⟨i, hi, rfl⟩
    have hi := Finset.mem_range.mp hi
    refine ⟨.inr ((Clos.mem_pairs_aggId hp hj Clos.typeOf_coreId).mpr ⟨i, hi, rfl⟩), ?_⟩
    rw [h.types _ (Clos.coreId_lt hj hi), Clos.typeOf_coreId]

end Wiring

end Stage

/-! ## Paths through a link -/

namespace Fabric

variable {f : Fabric} {disabled : ℕ → Bool} {t : ℕ}

/-- While no link is disabled, the paths of a ToR are its links followed by those of their aggs. -/
lemma mem_getPathsToCore (hw : f.Wired) (hc : f.Charted) (htiers : f.type.tiers = 3)
    (hen : ∀ l ∈ f.links, disabled l = false) (ht : f.getSwitchType t = .TOR) {path : List ℕ} :
    path ∈ f.getPathsToCore disabled t ↔
      ∃ l ∈ f.tiers.low t, ∃ m ∈ f.tiers.up (f.agg l), path = [l, m] := by
  rw [getPathsToCore, List.mem_flatMap]
  constructor
  · rintro ⟨c, hcore, hpath⟩
    have hcore := ((hc.mem_switchTypewiseList .CORE c).mp hcore).2
    rw [getPathsToCoreSwitch_eq hw hc htiers ht hcore] at hpath
    obtain ⟨l, hl, hpath⟩ := List.mem_flatMap.mp (List.mem_filter.mp hpath).1
    obtain ⟨m, hm, rfl⟩ := List.mem_map.mp hpath
    obtain ⟨hm, heq⟩ := List.mem_filter.mp hm
    exact ⟨l, torAgg_of_mem_linksAt hw ht hl, m,
      (aggCore_of_mem_linksAt hw hcore hm (of_decide_eq_true heq)).1, rfl⟩
  · rintro ⟨l, hl, m, hm, rfl⟩
    obtain ⟨⟨hl, -⟩, houter⟩ := mem_low.mp hl
    obtain ⟨⟨hm, htype⟩, hagg⟩ := mem_up.mp hm
    have hcore := hw.outer_core hm htype
    refine ⟨f.outer m, (hc.mem_switchTypewiseList .CORE _).mpr
      ⟨hw.lt_globalSwitchId m hm _ (.inl rfl), hcore⟩, ?_⟩
    rw [getPathsToCoreSwitch_eq hw hc htiers ht hcore, List.mem_filter, List.mem_flatMap]
    refine ⟨⟨l, mem_linksAt.mpr ⟨hl, .inl houter⟩, List.mem_map.mpr ⟨m, ?_, rfl⟩⟩,
      by simp [hen l hl, hen m hm]⟩
    refine List.mem_filter.mpr ⟨mem_linksAt.mpr ⟨hm, .inr hagg⟩, ?_⟩
    simp [opposite, ← hagg, hw.outer_ne_agg hm hm]

end Fabric

namespace Stage

variable {C : Clos} {kind : TopoType × TopoParams × ℚ} {topo topo' : Topology}

lemma pathsToCore_initMetrics {numPods t : ℕ} (hs : topo.initMetrics numPods = some topo')
    (ht : t ∈ topo.fabric.switchTypewiseList .TOR) :
    topo'.fabric.pathsToCore t = topo.getPathsToCore t := by
  obtain ⟨topo₁, hpop, hs⟩ := Option.bind_eq_some_iff.mp hs
  obtain ⟨-, -, hpop⟩ := Option.bind_eq_some_iff.mp hpop
  obtain ⟨-, -, hpop⟩ := Option.bind_eq_some_iff.mp hpop
  cases hpop
  cases hs
  exact foldl_update ht

section Paths

variable (h : Stage C kind C.numSwitches C.pairs topo) (htiers : kind.1.tiers = 3)
include h htiers

/-- **The ToRs below a link** are those with a path through it. -/
lemma onPath_iff (hcores : 0 < C.cores) {l t : ℕ} : topo.fabric.tiers.OnPath l t ↔
    t ∈ topo.fabric.switchTypewiseList .TOR ∧ ∃ path ∈ topo.getPathsToCore t, l ∈ path := by
  have hw := h.fresh.wired
  have hkind : topo.fabric.type = kind.1 := congrArg Prod.fst h.kind
  have htype : topo.fabric.type.tiers = 3 := hkind ▸ htiers
  have hen : ∀ l ∈ topo.fabric.links, topo.isLinkDisabled l = false := fun l hl => by
    simp [Topology.isLinkDisabled, h.fresh.link l hl, initialLink]
  have hmem := h.fresh.charted.mem_switchTypewiseList
  constructor
  · intro hpath
    have htor := hw.tor_of_onPath hpath
    obtain ⟨m, hm⟩ : ∃ m, m ∈ topo.fabric.tiers.low t := by
      rcases hpath with hl | ⟨m, hm, -⟩
      · exact ⟨l, hl⟩
      · exact ⟨m, hm⟩
    have hlt := hw.lt_globalSwitchId m (mem_low.mp hm).1.1 t (.inl (mem_low.mp hm).2)
    refine ⟨(hmem .TOR t).mpr ⟨hlt, htor⟩, ?_⟩
    rcases hpath with hl | ⟨m, hm, hl⟩
    · -- the agg of a link has uplinks
      have hlinks := (mem_low.mp hl).1.1
      obtain ⟨p, hp, j, hj, hagg⟩ := h.mem_aggs.mp ((hmem .AGG _).mpr
        ⟨hw.lt_globalSwitchId l hlinks _ (.inr rfl), hw.agg_type l hlinks⟩)
      have hcard := h.card_up hp hj
      rw [← hagg] at hcard
      obtain ⟨m, hm⟩ := Finset.card_pos.mp (hcard ▸ hcores)
      exact ⟨[l, m], (mem_getPathsToCore hw h.fresh.charted htype hen htor).mpr
        ⟨l, hl, m, hm, rfl⟩, by simp⟩
    · exact ⟨[m, l], (mem_getPathsToCore hw h.fresh.charted htype hen htor).mpr
        ⟨m, hm, l, hl, rfl⟩, by simp⟩
  · rintro ⟨ht, path, hpath, hl⟩
    obtain ⟨l', hl', m, hm, rfl⟩ := (mem_getPathsToCore hw h.fresh.charted htype hen
      ((hmem .TOR t).mp ht).2).mp hpath
    rcases List.mem_pair.mp hl with rfl | rfl
    · exact .inl hl'
    · exact .inr ⟨l', hl', hm⟩

end Paths

/-! ## The whole network -/

section Network

variable (h : Stage C kind C.numSwitches C.pairs topo) (hrec : PodsRecorded C topo)
include h hrec

lemma pod_torId {p i : ℕ} (hp : p < C.pods) (hi : i < C.tors) :
    (topo.fabric.nodes (C.torId p i)).pod = p :=
  (hrec _ (h.globalSwitchId ▸ Clos.torId_lt hp hi)
    (Clos.block_lt hp (Clos.tor_lt_podSize hi))).trans (Clos.block_div (Clos.tor_lt_podSize hi))

lemma pod_aggId {p j : ℕ} (hp : p < C.pods) (hj : j < C.aggs) :
    (topo.fabric.nodes (C.aggId p j)).pod = p :=
  (hrec _ (h.globalSwitchId ▸ Clos.aggId_lt hp hj)
    (Clos.block_lt hp (Clos.agg_lt_podSize hj))).trans (Clos.block_div (Clos.agg_lt_podSize hj))

lemma tor_links {t : ℕ} (ht : t ∈ topo.fabric.switchTypewiseList .TOR) :
    (∀ a, a ∈ topo.fabric.getAdjacentSwitchIds t .ALL ↔
      a ∈ topo.fabric.switchTypewiseList .AGG ∧
        (topo.fabric.nodes a).pod = (topo.fabric.nodes t).pod) ∧
    (topo.fabric.getAdjacentSwitchIds t .ALL).card = C.aggs := by
  obtain ⟨p, hp, i, hi, rfl⟩ := h.mem_tors.mp ht
  rw [h.adjacent_torId hp hi, h.pod_torId hrec hp hi]
  refine ⟨fun a => ?_, ?_⟩
  · rw [h.mem_aggs, Finset.mem_image]
    constructor
    · rintro ⟨j, hj, rfl⟩
      have hj := Finset.mem_range.mp hj
      exact ⟨⟨p, hp, j, hj, rfl⟩, h.pod_aggId hrec hp hj⟩
    · rintro ⟨⟨p', hp', j, hj, rfl⟩, hpod⟩
      rw [h.pod_aggId hrec hp' hj] at hpod
      exact ⟨j, Finset.mem_range.mpr hj, by rw [hpod]⟩
  · rw [Finset.card_image_of_injOn, Finset.card_range]
    intro j hj j' hj' heq
    exact (Clos.aggId_inj (Finset.mem_range.mp hj) (Finset.mem_range.mp hj') heq).2

omit hrec in
lemma card_adjacent_aggId {p j : ℕ} (hp : p < C.pods) (hj : j < C.aggs) :
    (topo.fabric.getAdjacentSwitchIds (C.aggId p j) .CORE).card = C.cores := by
  rw [h.adjacent_aggId hp hj, Finset.card_image_of_injOn, Finset.card_range]
  intro i hi i' hi' heq
  exact (Clos.coreId_inj (Finset.mem_range.mp hi) (Finset.mem_range.mp hi') heq).2

lemma core_links {c : ℕ} (hc : c ∈ topo.fabric.switchTypewiseList .CORE) :
    (∀ a ∈ topo.fabric.getAdjacentSwitchIds c .ALL, a ∈ topo.fabric.switchTypewiseList .AGG) ∧
    ∀ p < C.pods, ∃! a, a ∈ topo.fabric.getAdjacentSwitchIds c .ALL ∧
      (topo.fabric.nodes a).pod = p := by
  obtain ⟨j, hj, i, hi, rfl⟩ := h.mem_cores.mp hc
  rw [h.adjacent_coreId hj hi]
  refine ⟨fun a ha => ?_, fun p hp => ⟨C.aggId p j, ⟨?_, h.pod_aggId hrec hp hj⟩, ?_⟩⟩
  · obtain ⟨p, hp, rfl⟩ := Finset.mem_image.mp ha
    exact h.mem_aggs.mpr ⟨p, Finset.mem_range.mp hp, j, hj, rfl⟩
  · exact Finset.mem_image_of_mem _ (Finset.mem_range.mpr hp)
  · rintro a ⟨ha, hpod⟩
    obtain ⟨p', hp', rfl⟩ := Finset.mem_image.mp ha
    rw [h.pod_aggId hrec (Finset.mem_range.mp hp') hj] at hpod
    rw [hpod]

end Network

/-- **What a builder has put together is symmetric.**  The stage says which switches and links there
are, and the rest of the tables follow from these. -/
theorem symmetricClos (h : Stage C kind C.numSwitches C.pairs topo) (htiers : kind.1.tiers = 3)
    (hs : topo.initMetrics C.pods = some topo') (hbuilt : Built topo')
    (hrec : PodsRecorded C topo') : SymmetricClos C topo' := by
  have hf := fabric_initMetrics hs
  have hlist : topo'.fabric.switchTypewiseList = topo.fabric.switchTypewiseList := by rw [hf]
  have hnetwork : topo'.fabric.tiers = topo.fabric.tiers := by
    rw [hf]
    rfl
  have hrec : PodsRecorded C topo := by
    rw [PodsRecorded, hf] at hrec
    exact hrec
  have hcores := Nat.pos_of_mul_pos_left (h.pos_of_initMetrics hs).1
  constructor
  case tors => exact fun t => hf ▸ h.mem_tors
  case aggs => exact fun a => hf ▸ h.mem_aggs
  case cores => exact fun c => hf ▸ h.mem_cores
  case tor_pod => exact fun p hp i hi => hf ▸ h.pod_torId hrec hp hi
  case agg_pod => exact fun p hp j hj => hf ▸ h.pod_aggId hrec hp hj
  case tor_links =>
    rw [hf]
    exact fun t => h.tor_links hrec
  case agg_links =>
    rw [hf]
    exact fun p hp j hj => ⟨h.adjacent_aggId hp hj, h.card_adjacent_aggId hp hj⟩
  case core_links =>
    rw [hf]
    exact fun c => h.core_links hrec
  case one_link => exact hbuilt.fresh.wired.edgeOf_inj
  case numPathsToCore =>
    intro t ht
    rw [hbuilt.numPathsToCore t ht, hnetwork]
    rw [hlist] at ht
    obtain ⟨p, hp, i, hi, rfl⟩ := h.mem_tors.mp ht
    rw [h.paths_torId hp hi, Nat.cast_mul]
  case affectedTors =>
    intro l hl t
    rw [hbuilt.fresh.wired.affectedTors l hl t, hnetwork, h.onPath_iff htiers hcores, hlist]
    refine and_congr_right fun ht => ?_
    rw [pathsToCore_initMetrics hs ht]

end Stage

/-! ## The builders -/

lemma length_pairs_fattree {k : ℕ} (heven : Even k) :
    (fattreeClos k).pairs.length = k ^ 3 / 2 := by
  obtain ⟨h, rfl⟩ := heven
  have hhalf : (h + h) / 2 = h := by omega
  have hcube : (h + h) ^ 3 = 2 * ((h + h) * (h * h) + h * (h * (h + h))) := by ring
  rw [Clos.length_pairs, hcube, Nat.mul_div_cancel_left _ Nat.two_pos]
  simp only [fattreeClos, hhalf]

/-- Parameters of a FatTree of even `k` that leave enough IDs. -/
structure FattreeParams (topoParams : TopoParams) (k : ℕ) : Prop where
  k_eq : topoParams.k = some k
  linkCapacity : topoParams.linkCapacity.isSome
  even : Even k
  two_le : 2 ≤ k
  links : k ^ 3 / 2 ≤ maxNumberOfLinks

/-- Parameters of an FbFabric with `c` core switches in a plane that leave enough IDs. -/
structure FbfabricParams (topoParams : TopoParams) (numPods torsPerPod c : ℕ) : Prop where
  numPods_eq : topoParams.numPods = some numPods
  torsPerPod_eq : topoParams.torsPerPod = some torsPerPod
  cores : ∃ oversubscription, topoParams.oversubscription = some oversubscription ∧
    Topology.coreSwitchesPerSpinePlane torsPerPod oversubscription = c
  linkCapacity : topoParams.linkCapacity.isSome
  deploymentPercent : topoParams.deploymentPercent.isSome
  one_le : 1 ≤ numPods ∧ 1 ≤ c
  switches : numPods * (torsPerPod + 4) + 4 * c ≤ maxNumberOfSwitches
  links : numPods * (torsPerPod * 4 + 4 * c) ≤ maxNumberOfLinks

/-- A FatTree runs out of link IDs long before it runs out of switch IDs. -/
lemma FattreeParams.switches {topoParams : TopoParams} {k : ℕ} (h : FattreeParams topoParams k) :
    (fattreeClos k).numSwitches ≤ maxNumberOfSwitches := by
  have hk : k ≤ 125 := by
    by_contra hlarge
    have hcube : 126 ^ 3 ≤ k ^ 3 := Nat.pow_le_pow_left (by omega) 3
    have hlinks := h.links
    unfold maxNumberOfLinks at hlinks
    omega
  have hpods : k * (k / 2 + k / 2) ≤ 125 * 125 := Nat.mul_le_mul hk (by omega)
  have hcores : k / 2 * (k / 2) ≤ 62 * 62 := Nat.mul_le_mul (by omega) (by omega)
  simp only [Clos.numSwitches, Clos.podSize, fattreeClos, maxNumberOfSwitches]
  omega

/-- **The built topologies are the symmetric Clos networks** that the solutions assume. -/
theorem builders_symmetric (topoParams : TopoParams) (shuffle : List ℕ → List ℕ) :
    (∀ k, FattreeParams topoParams k →
      ∃ topo, (Topology.new .FatTree).build topoParams shuffle = some topo ∧
        SymmetricClos ⟨k, k / 2, k / 2, k / 2⟩ topo) ∧
    ∀ numPods torsPerPod c, FbfabricParams topoParams numPods torsPerPod c →
      ∃ topo, (Topology.new .FbFabric).build topoParams shuffle = some topo ∧
        SymmetricClos ⟨numPods, torsPerPod, 4, c⟩ topo := by
  constructor
  · intro k h
    obtain ⟨capacity, hcap⟩ := Option.isSome_iff_exists.mp h.linkCapacity
    obtain ⟨topo, hs, hrec⟩ := exists_buildTopoFattree h.k_eq hcap h.two_le h.switches
      (by rw [length_pairs_fattree h.even]; exact h.links)
    obtain ⟨k', topo₃, hk', hstage, -, hinit⟩ := stage_fattree hs
    obtain rfl : k = k' := Option.some_inj.mp (h.k_eq.symm.trans hk')
    exact ⟨topo, hs, hstage.symmetricClos rfl hinit (built_fattree hs).1 hrec⟩
  · intro numPods torsPerPod c h
    obtain ⟨oversubscription, hover, rfl⟩ := h.cores
    obtain ⟨capacity, hcap⟩ := Option.isSome_iff_exists.mp h.linkCapacity
    obtain ⟨deploymentPercent, hpercent⟩ := Option.isSome_iff_exists.mp h.deploymentPercent
    have htors : 0 < torsPerPod := by
      refine Nat.pos_of_ne_zero fun h0 => ?_
      subst h0
      have hcores := h.one_le.2
      simp [Topology.coreSwitchesPerSpinePlane_zero_left] at hcores
    obtain ⟨topo, hs, hrec⟩ := exists_buildTopoFbfabric shuffle h.numPods_eq h.torsPerPod_eq hover
      hcap hpercent ⟨h.one_le.1, htors⟩ h.one_le.2 h.switches
      (by rw [length_pairs_fbfabric]; exact h.links)
    obtain ⟨numPods', torsPerPod', oversubscription', topo₃, hpods', htors', hover', hstage, -,
      hinit⟩ := stage_fbfabric hs
    obtain rfl : numPods = numPods' := Option.some_inj.mp (h.numPods_eq.symm.trans hpods')
    obtain rfl : torsPerPod = torsPerPod' := Option.some_inj.mp (h.torsPerPod_eq.symm.trans htors')
    obtain rfl : oversubscription = oversubscription' :=
      Option.some_inj.mp (hover.symm.trans hover')
    exact ⟨topo, hs, hstage.symmetricClos rfl hinit (built_fbfabric hs).1 hrec⟩

/-- Two pods of four ToRs at an oversubscription of two. -/
def twoPods : TopoParams where
  numPods := some 2
  torsPerPod := some 4
  oversubscription := some 2
  linkCapacity := some 100
  deploymentPercent := some 100

/-- The smallest FatTree, and an FbFabric with two core switches in a plane. -/
theorem builders_symmetric_small : (∃ topo,
    (Topology.new .FatTree).build { k := some 2, linkCapacity := some 100 } id = some topo ∧
      SymmetricClos ⟨2, 1, 1, 1⟩ topo) ∧
    ∃ topo, (Topology.new .FbFabric).build twoPods id = some topo ∧
      SymmetricClos ⟨2, 4, 4, 2⟩ topo :=
  ⟨(builders_symmetric _ id).1 2 ⟨rfl, rfl, even_two, le_rfl, by decide⟩,
    (builders_symmetric _ id).2 2 4 2 ⟨rfl, rfl, ⟨2, rfl, by decide +kernel⟩, rfl, rfl, by decide,
      by decide, by decide⟩⟩

/-! ## Beyond the limits -/

/-- An FbFabric with one ToR in each of many pods, or of none. -/
def manyPods (numPods : ℕ) : TopoParams where
  numPods := some numPods
  torsPerPod := some 1
  oversubscription := some 1
  linkCapacity := some 100
  deploymentPercent := some 100

/-- **Not all parameters lead to a network**: the link IDs of a FatTree of `k = 126` and of an
FbFabric with 250000 pods run out, and an FbFabric without pods has no ToRs. -/
theorem builders_raise :
    (Topology.new .FatTree).build { k := some 126, linkCapacity := some 100 } id = none ∧
      (Topology.new .FbFabric).build (manyPods 250000) id = none ∧
      (Topology.new .FbFabric).build (manyPods 0) id = none := by
  refine ⟨?_, ?_, ?_⟩
  · refine Option.eq_none_iff_forall_ne_some.mpr fun topo hs => ?_
    have hle := length_pairs_le_fattree hs rfl
    rw [length_pairs_fattree (by decide)] at hle
    exact absurd hle (by decide)
  · refine Option.eq_none_iff_forall_ne_some.mpr fun topo hs => ?_
    have hle := (length_pairs_le_fbfabric hs rfl rfl rfl).2
    rw [length_pairs_fbfabric] at hle
    exact absurd hle (by decide +kernel)
  · refine Option.eq_none_iff_forall_ne_some.mpr fun topo hs => ?_
    exact absurd (length_pairs_le_fbfabric hs rfl rfl rfl).1 (Nat.lt_irrefl 0)

end LinkGuardian.Simulator
