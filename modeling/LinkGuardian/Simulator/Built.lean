import LinkGuardian.Library.Binary64
import LinkGuardian.Simulator.Assembly
import Mathlib.Algebra.Order.Ring.Rat
import Mathlib.Tactic.Ring

/-!
# Built topologies

What is true of a topology when a builder returns it: every ToR has the same number of paths to
the core, no switch has more links than ports, and the sums are those of the initial values.
-/

namespace LinkGuardian.Simulator

open Removal Fabric

structure Built (topo : Topology) : Prop where
  fresh : Fresh topo
  tiers : topo.fabric.type.tiers = 3
  tors : topo.fabric.switchTypewiseList .TOR ≠ []
  uniform : ∃ m, 0 < m ∧
    ∀ t ∈ topo.fabric.switchTypewiseList .TOR, topo.fabric.tiers.paths t ∅ = m
  numPathsToCore : ∀ t ∈ topo.fabric.switchTypewiseList .TOR,
    topo.numPathsToCore t = topo.fabric.tiers.paths t ∅
  pathsToCore : ∀ t ∈ topo.fabric.switchTypewiseList .TOR, topo.fabric.pathsToCore t ≠ []
  affects : ∀ l ∈ topo.fabric.links, ∃ t, topo.fabric.tiers.OnPath l t
  numTors : topo.fabric.numTors ≠ 0
  numPods : topo.fabric.numPods ≠ 0
  totalLossRate : topo.totalLossRate = topo.fabric.numLinks * initialLinkLossRate
  totalEffectiveLossRate :
    topo.totalEffectiveLossRate = topo.fabric.numLinks * initialLinkLossRate
  ports : ∀ sw < topo.fabric.globalSwitchId, (topo.fabric.nodes sw).linkIdList.length ≤
    (topo.fabric.nodes sw).numPipes * (topo.fabric.nodes sw).portsPerPipe

/-- The number of links of the switches of a type. -/
def Clos.degree (C : Clos) : SwitchType → ℕ
  | .TOR => C.aggs
  | .AGG => C.tors + C.cores
  | .CORE => C.pods
  | _ => 0

namespace Stage

variable {C : Clos} {kind : TopoType × TopoParams × ℚ} {topo topo' : Topology}

/-! ## Counting the links -/

section Counting

variable (h : Stage C kind C.numSwitches C.pairs topo)
include h

/-- Links are counted by the pairs that they join. -/
lemma card_filter_links (p : ℕ × ℕ → Prop) [DecidablePred p] :
    (topo.fabric.links.filter fun l => p (topo.fabric.outer l, topo.fabric.agg l)).card =
      (C.pairs.toFinset.filter p).card := by
  have hset : C.pairs.toFinset.filter p =
      (topo.fabric.links.filter fun l => p (topo.fabric.outer l, topo.fabric.agg l)).image
        fun l => (topo.fabric.outer l, topo.fabric.agg l) := by
    ext x
    rw [Finset.mem_filter, List.mem_toFinset, ← h.pairs, mem_pairs, Finset.mem_image]
    constructor
    · rintro ⟨⟨l, hl, rfl⟩, hp⟩
      exact ⟨l, Finset.mem_filter.mpr ⟨hl, hp⟩, rfl⟩
    · rintro ⟨l, hl, rfl⟩
      obtain ⟨hl, hp⟩ := Finset.mem_filter.mp hl
      exact ⟨⟨l, hl, rfl⟩, hp⟩
  rw [hset, Finset.card_image_of_injOn]
  intro l hl l' hl' heq
  exact h.fresh.wired.eq_of_ends (Finset.mem_filter.mp hl).1 (Finset.mem_filter.mp hl').1
    (congrArg Prod.fst heq) (congrArg Prod.snd heq)

lemma type_eq {l sw : ℕ} (hl : l ∈ topo.fabric.links) (hends : topo.fabric.Ends l sw) :
    topo.fabric.getSwitchType sw = C.typeOf sw :=
  h.types sw (h.globalSwitchId ▸ h.fresh.wired.lt_globalSwitchId l hl sw hends)

lemma low_torId {p i : ℕ} (hp : p < C.pods) (hi : i < C.tors) :
    topo.fabric.tiers.low (C.torId p i) =
      topo.fabric.links.filter fun l => topo.fabric.outer l = C.torId p i := by
  ext l
  rw [mem_low, Finset.mem_filter, and_right_comm, and_iff_left_of_imp]
  rintro ⟨hl, ho⟩
  have htype := h.fresh.wired.outer_type l hl
  rw [h.type_eq hl (.inl rfl), ho, Clos.typeOf_torId hp hi] at htype
  cases hlink : topo.fabric.getLinkType l with
  | TOR_AGG => rfl
  | AGG_CORE => rw [hlink] at htype; cases htype

lemma card_low {p i : ℕ} (hp : p < C.pods) (hi : i < C.tors) :
    (topo.fabric.tiers.low (C.torId p i)).card = C.aggs := by
  rw [h.low_torId hp hi, h.card_filter_links fun x => x.1 = C.torId p i,
    Clos.filter_torId hp hi, Finset.card_image_of_injOn, Finset.card_range]
  intro j hj j' hj' heq
  exact (Clos.aggId_inj (Finset.mem_range.mp hj) (Finset.mem_range.mp hj')
    (congrArg Prod.snd heq)).2

lemma card_up {p j : ℕ} (hp : p < C.pods) (hj : j < C.aggs) :
    (topo.fabric.tiers.up (C.aggId p j)).card = C.cores := by
  have hup : topo.fabric.tiers.up (C.aggId p j) = topo.fabric.links.filter fun l =>
      C.typeOf (topo.fabric.outer l) = .CORE ∧ topo.fabric.agg l = C.aggId p j := by
    ext l
    rw [mem_up, Finset.mem_filter, and_assoc]
    refine and_congr_right fun hl => and_congr_left fun _ => ?_
    have htype := h.fresh.wired.outer_type l hl
    rw [h.type_eq hl (.inl rfl)] at htype
    rw [htype]
    cases topo.fabric.getLinkType l <;> simp
  have hfilter : (C.pairs.toFinset.filter fun x => C.typeOf x.1 = .CORE ∧ x.2 = C.aggId p j) =
      C.upPairs.toFinset.filter fun x => x.2 = C.aggId p j := by
    ext x
    simp only [Finset.mem_filter, List.mem_toFinset, Clos.pairs, List.mem_append]
    constructor
    · rintro ⟨hlow | hx, hcore, hagg⟩
      · rw [(Clos.typeOf_of_mem_lowPairs hlow).1] at hcore
        cases hcore
      · exact ⟨hx, hagg⟩
    · rintro ⟨hx, hagg⟩
      exact ⟨.inr hx, (Clos.typeOf_of_mem_upPairs hx).1, hagg⟩
  rw [hup, h.card_filter_links fun x => C.typeOf x.1 = .CORE ∧ x.2 = C.aggId p j, hfilter,
    Clos.filter_aggId_up hp hj, Finset.card_image_of_injOn, Finset.card_range]
  intro i hi i' hi' heq
  exact (Clos.coreId_inj (Finset.mem_range.mp hi) (Finset.mem_range.mp hi')
    (congrArg Prod.fst heq)).2

/-- **All ToRs have the same number of paths**: over each agg, to each core of its plane.  This
symmetry is why CorrOpt may take its constraint from any ToR. -/
theorem paths_torId {p i : ℕ} (hp : p < C.pods) (hi : i < C.tors) :
    topo.fabric.tiers.paths (C.torId p i) ∅ = C.aggs * C.cores := by
  rw [← h.card_low hp hi, TwoTier.paths, Finset.sdiff_empty]
  refine Finset.sum_const_nat fun l hl => ?_
  have hpair : (topo.fabric.outer l, topo.fabric.agg l) ∈
      C.pairs.toFinset.filter fun x => x.1 = C.torId p i := by
    rw [Finset.mem_filter, List.mem_toFinset, ← h.pairs, mem_pairs]
    exact ⟨⟨l, (mem_low.mp hl).1.1, rfl⟩, (mem_low.mp hl).2⟩
  rw [Clos.filter_torId hp hi] at hpair
  obtain ⟨j, hj, heq⟩ := Finset.mem_image.mp hpair
  have hagg : C.aggId p j = topo.fabric.agg l := congrArg Prod.snd heq
  rw [Finset.sdiff_empty]
  show (topo.fabric.tiers.up (topo.fabric.agg l)).card = _
  rw [← hagg]
  exact h.card_up hp (Finset.mem_range.mp hj)

/-- There is a ToR below every link. -/
lemma exists_onPath (htors : 0 < C.tors) {l : ℕ} (hl : l ∈ topo.fabric.links) :
    ∃ t, topo.fabric.tiers.OnPath l t := by
  cases htype : topo.fabric.getLinkType l with
  | TOR_AGG => exact ⟨_, (onPath_torAgg hl htype).mpr rfl⟩
  | AGG_CORE =>
    have hcore := h.type_eq hl (.inl rfl)
    rw [h.fresh.wired.outer_core hl htype] at hcore
    have hpair : (topo.fabric.outer l, topo.fabric.agg l) ∈ C.pairs := by
      rw [← h.pairs, mem_pairs]
      exact ⟨l, hl, rfl⟩
    rcases List.mem_append.mp hpair with hlow | hup
    · have htor := (Clos.typeOf_of_mem_lowPairs hlow).1
      rw [← hcore] at htor
      cases htor
    · obtain ⟨j, hj, i, -, p, hp, heq⟩ := Clos.mem_upPairs.mp hup
      -- the first ToR of the pod is joined to the agg
      have hfirst : (C.torId p 0, C.aggId p j) ∈ C.pairs :=
        List.mem_append_left _ (Clos.mem_lowPairs.mpr ⟨p, hp, 0, htors, j, hj, rfl⟩)
      rw [← h.pairs, mem_pairs] at hfirst
      obtain ⟨m, hm, hends⟩ := hfirst
      refine ⟨C.torId p 0, (onPath_aggCore hl htype).mpr ⟨m, ?_, ?_⟩⟩
      · rw [h.low_torId hp htors]
        exact Finset.mem_filter.mpr ⟨hm, congrArg Prod.fst hends⟩
      · exact (congrArg Prod.snd hends).trans (congrArg Prod.snd heq).symm

lemma length_linkIdList {sw : ℕ} (hsw : sw < C.numSwitches) :
    (topo.fabric.nodes sw).linkIdList.length ≤ C.degree (C.typeOf sw) := by
  have hlt : sw < topo.fabric.globalSwitchId := h.globalSwitchId ▸ hsw
  have hset : (topo.fabric.linksAt sw).toFinset = topo.fabric.links.filter fun l =>
      topo.fabric.outer l = sw ∨ topo.fabric.agg l = sw := by
    ext l
    rw [List.mem_toFinset, mem_linksAt, Finset.mem_filter]
    rfl
  rw [h.fresh.wired.linkIdList sw hlt, ← List.toFinset_card_of_nodup (nodup_linksAt sw), hset,
    h.card_filter_links fun x => x.1 = sw ∨ x.2 = sw]
  -- a switch is on one side of its links only
  have hagg : C.typeOf sw ≠ .AGG → (C.pairs.toFinset.filter fun x => x.1 = sw ∨ x.2 = sw) =
      C.pairs.toFinset.filter fun x => x.1 = sw := fun hne =>
    Finset.filter_congr fun x hx => or_iff_left fun hx2 => by
      have hx := List.mem_append.mp (List.mem_toFinset.mp hx)
      have htype : C.typeOf x.2 = .AGG :=
        hx.elim (fun h => (Clos.typeOf_of_mem_lowPairs h).2)
          fun h => (Clos.typeOf_of_mem_upPairs h).2
      exact hne (hx2 ▸ htype)
  rcases Clos.switch_cases hsw with ⟨p, hp, i, hi, rfl⟩ | ⟨p, hp, j, hj, rfl⟩ | ⟨j, hj, i, hi, rfl⟩
  · rw [hagg (by rw [Clos.typeOf_torId hp hi]; decide), Clos.typeOf_torId hp hi,
      Clos.filter_torId hp hi]
    exact Finset.card_image_le.trans (Finset.card_range _).le
  · have hfilter : (C.pairs.toFinset.filter fun x => x.1 = C.aggId p j ∨ x.2 = C.aggId p j) ⊆
        (C.lowPairs.toFinset.filter fun x => x.2 = C.aggId p j) ∪
          C.upPairs.toFinset.filter fun x => x.2 = C.aggId p j := by
      intro x hx
      obtain ⟨hx, hends⟩ := Finset.mem_filter.mp hx
      rw [Finset.mem_union, Finset.mem_filter, Finset.mem_filter, List.mem_toFinset,
        List.mem_toFinset]
      have hagg := Clos.typeOf_aggId hp hj
      rcases List.mem_append.mp (List.mem_toFinset.mp hx) with hlow | hup
      · refine .inl ⟨hlow, hends.resolve_left fun ho => ?_⟩
        rw [← ho, (Clos.typeOf_of_mem_lowPairs hlow).1] at hagg
        cases hagg
      · refine .inr ⟨hup, hends.resolve_left fun ho => ?_⟩
        rw [← ho, (Clos.typeOf_of_mem_upPairs hup).1] at hagg
        cases hagg
    rw [Clos.typeOf_aggId hp hj]
    refine (Finset.card_le_card hfilter).trans ((Finset.card_union_le _ _).trans ?_)
    rw [Clos.filter_aggId_low hp hj, Clos.filter_aggId_up hp hj]
    exact Nat.add_le_add (Finset.card_image_le.trans (Finset.card_range _).le)
      (Finset.card_image_le.trans (Finset.card_range _).le)
  · rw [hagg (by rw [Clos.typeOf_coreId]; decide), Clos.typeOf_coreId, Clos.filter_coreId hj hi]
    exact Finset.card_image_le.trans (Finset.card_range _).le

end Counting

/-! ## The switches of a type -/

section Switches

variable (h : Stage C kind C.numSwitches C.pairs topo)
include h

lemma mem_switches {sw : ℕ} {type : SwitchType} :
    sw ∈ topo.fabric.switchTypewiseList type ↔ sw < C.numSwitches ∧ C.typeOf sw = type := by
  rw [h.fresh.charted.mem_switchTypewiseList, h.globalSwitchId]
  exact and_congr_right fun hlt => by rw [h.types sw hlt]

lemma mem_tors {t : ℕ} : t ∈ topo.fabric.switchTypewiseList .TOR ↔
    ∃ p < C.pods, ∃ i < C.tors, t = C.torId p i := by
  rw [h.mem_switches]
  constructor
  · rintro ⟨hlt, htype⟩
    rcases Clos.switch_cases hlt with hsw | ⟨p, hp, j, hj, rfl⟩ | ⟨j, hj, i, hi, rfl⟩
    · exact hsw
    · simp [Clos.typeOf_aggId hp hj] at htype
    · simp [Clos.typeOf_coreId] at htype
  · rintro ⟨p, hp, i, hi, rfl⟩
    exact ⟨Clos.torId_lt hp hi, Clos.typeOf_torId hp hi⟩

lemma mem_aggs {a : ℕ} : a ∈ topo.fabric.switchTypewiseList .AGG ↔
    ∃ p < C.pods, ∃ j < C.aggs, a = C.aggId p j := by
  rw [h.mem_switches]
  constructor
  · rintro ⟨hlt, htype⟩
    rcases Clos.switch_cases hlt with ⟨p, hp, i, hi, rfl⟩ | hsw | ⟨j, hj, i, hi, rfl⟩
    · simp [Clos.typeOf_torId hp hi] at htype
    · exact hsw
    · simp [Clos.typeOf_coreId] at htype
  · rintro ⟨p, hp, j, hj, rfl⟩
    exact ⟨Clos.aggId_lt hp hj, Clos.typeOf_aggId hp hj⟩

lemma mem_cores {c : ℕ} : c ∈ topo.fabric.switchTypewiseList .CORE ↔
    ∃ j < C.aggs, ∃ i < C.cores, c = C.coreId j i := by
  rw [h.mem_switches]
  constructor
  · rintro ⟨hlt, htype⟩
    rcases Clos.switch_cases hlt with ⟨p, hp, i, hi, rfl⟩ | ⟨p, hp, j, hj, rfl⟩ | hsw
    · simp [Clos.typeOf_torId hp hi] at htype
    · simp [Clos.typeOf_aggId hp hj] at htype
    · exact hsw
  · rintro ⟨j, hj, i, hi, rfl⟩
    exact ⟨Clos.coreId_lt hj hi, Clos.typeOf_coreId⟩

omit h in
lemma nonempty_of_initMetrics {numPods : ℕ} (hs : topo.initMetrics numPods = some topo') :
    topo.fabric.switchTypewiseList .TOR ≠ [] ∧ topo.fabric.switchTypewiseList .CORE ≠ [] := by
  obtain ⟨topo₁, hpop, -⟩ := Option.bind_eq_some_iff.mp hs
  obtain ⟨_, htor, hpop⟩ := Option.bind_eq_some_iff.mp hpop
  obtain ⟨_, hcore, -⟩ := Option.bind_eq_some_iff.mp hpop
  exact ⟨fun h0 => by simp [guard, h0] at htor, fun h0 => by simp [guard, h0] at hcore⟩

omit h in
/-- The metrics leave the network as it is. -/
lemma fabric_initMetrics {numPods : ℕ} (hs : topo.initMetrics numPods = some topo') :
    topo'.fabric = { topo.fabric with
      pathsToCore := topo'.fabric.pathsToCore
      numTors := topo'.fabric.numTors
      numPods := topo'.fabric.numPods } := by
  obtain ⟨topo₁, hpop, hs⟩ := Option.bind_eq_some_iff.mp hs
  obtain ⟨-, -, hpop⟩ := Option.bind_eq_some_iff.mp hpop
  obtain ⟨-, -, hpop⟩ := Option.bind_eq_some_iff.mp hpop
  cases hpop
  cases hs
  rfl

lemma numLinks_initMetrics {numPods : ℕ} (hs : topo.initMetrics numPods = some topo') :
    topo'.fabric.numLinks = kind.2.2 := by
  rw [fabric_initMetrics hs]
  exact congrArg (fun k => k.2.2) h.kind

/-- The metrics are computed only for a network that has ToRs and core switches. -/
lemma pos_of_initMetrics {numPods : ℕ} (hs : topo.initMetrics numPods = some topo') :
    0 < C.aggs * C.cores ∧ 0 < C.pods ∧ 0 < C.tors := by
  obtain ⟨htor, hcore⟩ := nonempty_of_initMetrics hs
  obtain ⟨t, ht⟩ := List.exists_mem_of_ne_nil _ htor
  obtain ⟨p, hp, k, hk, -⟩ := h.mem_tors.mp ht
  obtain ⟨c, hc⟩ := List.exists_mem_of_ne_nil _ hcore
  obtain ⟨j, hj, i, hi, -⟩ := h.mem_cores.mp hc
  exact ⟨Nat.mul_pos (Nat.zero_lt_of_lt hj) (Nat.zero_lt_of_lt hi), Nat.zero_lt_of_lt hp,
    Nat.zero_lt_of_lt hk⟩

end Switches

/-! ## The metrics of a built topology -/

lemma foldl_update {α : Type} {g : ℕ → α} {xs : List ℕ} {m : ℕ → α} {t : ℕ} (ht : t ∈ xs) :
    xs.foldl (fun m t => Function.update m t (g t)) m t = g t := by
  suffices hfold : ∀ m : ℕ → α, (t ∈ xs ∨ m t = g t) →
      xs.foldl (fun m t => Function.update m t (g t)) m t = g t from hfold m (.inl ht)
  clear ht
  induction xs with
  | nil => exact fun m h => h.resolve_left List.not_mem_nil
  | cons x xs ih =>
    intro m h
    refine ih _ ?_
    show t ∈ xs ∨ Function.update m x (g x) t = g t
    by_cases hx : t = x
    · exact .inr (by rw [hx, Function.update_self])
    · rw [Function.update_of_ne hx]
      exact h.imp (fun hmem => (List.mem_cons.mp hmem).resolve_left hx) id

/-- Freshness does not depend on what `initMetrics` sets. -/
lemma fresh_of_metrics (h : Fresh topo) {pathsToCore : ℕ → List (List ℕ)} {numTors numPods : ℕ}
    {totalLossRate totalEffectiveLossRate : ℚ} {numPathsToCore : ℕ → ℤ} :
    Fresh { topo with
      fabric := { topo.fabric with
        pathsToCore := pathsToCore
        numTors := numTors
        numPods := numPods }
      totalLossRate := totalLossRate
      totalEffectiveLossRate := totalEffectiveLossRate
      numPathsToCore := numPathsToCore } where
  wired := ⟨h.wired.outer_type, h.wired.agg_type, h.wired.lt_globalSwitchId, h.wired.edgeOf_inj,
    h.wired.affectedTors, h.wired.linkIdList, h.wired.numPipes⟩
  charted := ⟨h.charted.id, h.charted.neighbors, h.charted.nodup,
    h.charted.mem_switchTypewiseList⟩
  switches := h.switches
  attached := ⟨h.attached.aggSwitches, h.attached.numActiveUplinks⟩
  link := h.link
  perPodCapacity := h.perPodCapacity
  disabledLinks := h.disabledLinks
  corruptingLinks := h.corruptingLinks
  lgPortsPerPipe := h.lgPortsPerPipe
  topLossRatesHeap := h.topLossRatesHeap
  topLgPortsPerPipeHeap := h.topLgPortsPerPipeHeap

/-- **What a builder returns.**  It is proved once for both builders, from the last stage and what
they compute at the end. -/
theorem built (h : Stage C kind C.numSwitches C.pairs topo) (htiers : kind.1.tiers = 3)
    (hports : ∀ type numPipes numLinks, Topology.numPipesAndLinks kind.1 kind.2.1 type =
      some (numPipes, numLinks) → C.degree type ≤ numLinks)
    (hs : topo.initMetrics C.pods = some topo') : Built topo' ∧
      topo'.fabric.numLinks = kind.2.2 ∧ topo'.fabric.globalLinkId = C.pairs.length := by
  have hs' := hs
  obtain ⟨htor, -⟩ := nonempty_of_initMetrics hs
  obtain ⟨topo₁, hpop, hs⟩ := Option.bind_eq_some_iff.mp hs
  obtain ⟨-, -, hpop⟩ := Option.bind_eq_some_iff.mp hpop
  obtain ⟨-, -, hpop⟩ := Option.bind_eq_some_iff.mp hpop
  have hkind : topo.fabric.type = kind.1 := congrArg Prod.fst h.kind
  have hparams : topo.fabric.topoParams = kind.2.1 := congrArg (fun k => k.2.1) h.kind
  have hnumLinks := h.numLinks_initMetrics hs'
  obtain ⟨hcoresPos, hpodsPos, htorsPos⟩ := h.pos_of_initMetrics hs'
  have hpaths : ∀ t ∈ topo.fabric.switchTypewiseList .TOR,
      topo.fabric.tiers.paths t ∅ = C.aggs * C.cores := by
    intro t ht
    obtain ⟨p, hp, i, hi, rfl⟩ := h.mem_tors.mp ht
    exact h.paths_torId hp hi
  have hlength : ∀ t ∈ topo.fabric.switchTypewiseList .TOR,
      (topo.getPathsToCore t).length = topo.fabric.tiers.paths t ∅ := by
    intro t ht
    refine length_getPathsToCore h.fresh.wired h.fresh.charted (hkind ▸ htiers) (fun l hl => ?_)
      ((h.fresh.charted.mem_switchTypewiseList .TOR t).mp ht).2
    rw [Topology.isLinkDisabled, h.fresh.link l hl]
    simp [initialLink]
  cases hpop
  cases hs
  refine ⟨⟨fresh_of_metrics h.fresh, hkind ▸ htiers, htor, ⟨_, hcoresPos, hpaths⟩,
    fun t ht => ?_, fun t ht => ?_, fun l hl => h.exists_onPath htorsPos hl, ?_, hpodsPos.ne', rfl,
    rfl, fun sw hsw => ?_⟩, hnumLinks, h.globalLinkId⟩
  · refine (foldl_update ht).trans (congrArg _ ?_)
    exact (congrArg List.length (foldl_update ht)).trans (hlength t ht)
  · intro hnil
    have hlen := hlength t ht
    rw [(foldl_update ht).symm.trans hnil, hpaths t ht] at hlen
    exact hcoresPos.ne hlen
  · exact fun h0 => htor (List.length_eq_zero_iff.mp h0)
  · obtain ⟨hnum, hle⟩ := h.fresh.switches sw hsw
    rw [hkind, hparams] at hnum
    have hn : sw < C.numSwitches := h.globalSwitchId ▸ hsw
    refine (h.length_linkIdList hn).trans (le_trans ?_ hle)
    rw [← h.types sw hn]
    exact hports _ _ _ hnum

end Stage

/-! ## The builders -/

/-- The links to the core, plane by plane, core switch by core switch and pod by pod. -/
lemma foldlM_upPairs {C : Clos} {f : Topology → ℕ × ℕ → Option Topology} {s : Topology} :
    C.upPairs.foldlM f s = (List.range C.aggs).foldlM (fun s j =>
      (List.range C.cores).foldlM (fun s i =>
        (List.range C.pods).foldlM (fun s p => f s (C.coreId j i, C.aggId p j)) s) s) s := by
  simp only [Clos.upPairs, Clos.planePairs, Loop.flatMap, List.foldlM_map]

/-- Before the first switch. -/
lemma stage_new (C : Clos) (type : TopoType) (topoParams : TopoParams) (numLinks : ℚ) :
    Stage C (type, topoParams, numLinks) 0 [] { Topology.new type with
      fabric := { Fabric.empty type with
        topoParams := topoParams
        numLinks := numLinks } } where
  fresh :=
    { wired := ⟨nofun, nofun, nofun, nofun, nofun, nofun, nofun⟩
      charted := ⟨nofun, fun _ => rfl, fun _ => List.nodup_nil,
        fun _ sw => ⟨nofun, fun h => absurd h.1 (Nat.not_lt_zero sw)⟩⟩
      switches := nofun
      attached := ⟨fun _ _ => rfl, fun _ _ => rfl⟩
      link := nofun
      perPodCapacity := fun _ _ => rfl
      disabledLinks := rfl
      corruptingLinks := rfl
      lgPortsPerPipe := fun _ _ => rfl
      topLossRatesHeap := rfl
      topLgPortsPerPipeHeap := rfl }
  kind := rfl
  globalSwitchId := rfl
  types := nofun
  pairs := rfl

lemma getElem?_map_range {α : Type} {g : ℕ → α} {n i : ℕ} (h : i < n) :
    ((List.range n).map g)[i]? = some (g i) := by
  rw [List.getElem?_map, List.getElem?_range h]
  rfl

/-- The network of a FatTree. -/
def fattreeClos (k : ℕ) : Clos := ⟨k, k / 2, k / 2, k / 2⟩

/-- The loop over the core switches and the pods is one over the links to the core. -/
lemma foldlM_fattree {k : ℕ} {capacity : ℚ} {coreIds : List ℕ} {podAggs : ℕ → List ℕ}
    (hids : coreIds = (List.range (k / 2 * (k / 2))).map (k * (fattreeClos k).podSize + ·))
    (haggs : ∀ p < k, podAggs p = (List.range (k / 2)).map ((fattreeClos k).aggId p))
    (s : Topology) : (List.range (k / 2 * (k / 2))).foldlM (fun topo idx => do
      let coreId ← coreIds[idx]?
      let stride := idx / (k / 2)
      (List.range k).foldlM (fun topo pod => do
        let aggId ← (podAggs pod)[stride]?
        topo.connectCoreAgg pod capacity true coreId aggId) topo) s =
      (fattreeClos k).upPairs.foldlM (fun s x =>
        s.connectCoreAgg (x.2 / (fattreeClos k).podSize) capacity true x.1 x.2) s := by
  rw [Loop.range_mul, foldlM_upPairs]
  refine Loop.congr fun j hj s => Loop.congr fun i hi s => ?_
  have hj : j < k / 2 := List.mem_range.mp hj
  have hi : i < k / 2 := List.mem_range.mp hi
  have hcore : coreIds[j * (k / 2) + i]? = some ((fattreeClos k).coreId j i) := by
    rw [hids]
    exact getElem?_map_range (Clos.block_lt hj hi)
  have hdiv : (j * (k / 2) + i) / (k / 2) = j := Clos.block_div hi
  rw [hcore]
  refine Loop.congr fun p hp s => ?_
  have hp := List.mem_range.mp hp
  have hagg : (podAggs p)[(j * (k / 2) + i) / (k / 2)]? = some ((fattreeClos k).aggId p j) := by
    rw [hdiv, haggs p hp]
    exact getElem?_map_range hj
  have hpod : (fattreeClos k).aggId p j / (fattreeClos k).podSize = p :=
    Clos.block_div (Clos.agg_lt_podSize hj)
  rw [hagg, hpod]
  rfl

/-- A FatTree before its metrics are computed: all switches and links are there, in the order of the
loops of the source. -/
lemma stage_fattree {topoParams : TopoParams} {topo : Topology}
    (hs : (Topology.new .FatTree).buildTopoFattree topoParams = some topo) :
    ∃ k topo₃, topoParams.k = some k ∧
      Stage (fattreeClos k) (.FatTree, topoParams, Binary64.round ((k : ℚ) ^ 3 / 2))
        (fattreeClos k).numSwitches (fattreeClos k).pairs topo₃ ∧
      ((fattreeClos k).upPairs ≠ [] → topo₃.fabric.globalLinkId ≤ maxNumberOfLinks) ∧
      topo₃.initMetrics k = some topo := by
  obtain ⟨-, -, hs⟩ := Option.bind_eq_some_iff.mp hs
  obtain ⟨k, hk, hs⟩ := Option.bind_eq_some_iff.mp hs
  obtain ⟨capacity, -, hs⟩ := Option.bind_eq_some_iff.mp hs
  obtain ⟨⟨topo₁, podAggs⟩, hpods, hs⟩ := Option.bind_eq_some_iff.mp hs
  obtain ⟨⟨topo₂, coreIds⟩, hcores, hs⟩ := Option.bind_eq_some_iff.mp hs
  obtain ⟨topo₃, hlinks, hs⟩ := Option.bind_eq_some_iff.mp hs
  have h₀ := stage_new (fattreeClos k) .FatTree topoParams (Binary64.round ((k : ℚ) ^ 3 / 2))
  obtain ⟨h₁, haggs⟩ := h₀.buildPods (fun _ _ => rfl) hpods
  obtain ⟨h₂, hids, -⟩ := h₁.addSwitches
    (fun i _ => if_neg (Nat.not_lt.mpr (Nat.le_add_right _ i))) hcores
  have hsq : (k / 2) ^ 2 = k / 2 * (k / 2) := sq _
  rw [hsq] at h₂ hids hlinks
  have hloop := (foldlM_fattree hids haggs topo₂).symm.trans hlinks
  exact ⟨k, topo₃, hk, h₂.connectPlanes hloop,
    fun hne => Stage.globalLinkId_le_of_connectPlanes hne hloop, hs⟩

lemma Clos.upPairs_ne_nil {C : Clos} (h : 0 < C.aggs * C.cores) (hpods : 0 < C.pods) :
    C.upPairs ≠ [] :=
  List.ne_nil_of_mem (mem_upPairs.mpr
    ⟨0, Nat.pos_of_mul_pos_right h, 0, Nat.pos_of_mul_pos_left h, 0, hpods, rfl⟩)

/-- A FatTree that is built has at most as many links as there are IDs. -/
lemma length_pairs_le_fattree {topoParams : TopoParams} {k : ℕ} {topo : Topology}
    (hs : (Topology.new .FatTree).buildTopoFattree topoParams = some topo)
    (hk : topoParams.k = some k) : (fattreeClos k).pairs.length ≤ maxNumberOfLinks := by
  obtain ⟨k', topo₃, hk', hstage, hlimit, hinit⟩ := stage_fattree hs
  obtain rfl : k = k' := Option.some_inj.mp (hk.symm.trans hk')
  obtain ⟨hcores, hpods, -⟩ := hstage.pos_of_initMetrics hinit
  rw [← hstage.globalLinkId]
  exact hlimit (Clos.upPairs_ne_nil hcores hpods)

/-- The number of links in the source is a half of a number that floats hold. -/
lemma round_cube_half {topoParams : TopoParams} {k : ℕ} {topo : Topology}
    (hs : (Topology.new .FatTree).buildTopoFattree topoParams = some topo)
    (hk : topoParams.k = some k) : Binary64.round ((k : ℚ) ^ 3 / 2) = (k : ℚ) ^ 3 / 2 := by
  have hsmall : k < 1000 := by
    by_contra hlarge
    have hlinks := length_pairs_le_fattree hs hk
    have hhalf : 500 ≤ k / 2 := by omega
    have hup : 500 * 500 * 1000 ≤ k / 2 * (k / 2) * k :=
      Nat.mul_le_mul (Nat.mul_le_mul hhalf hhalf) (by omega)
    rw [Clos.length_pairs] at hlinks
    simp only [fattreeClos, maxNumberOfLinks] at hlinks
    nlinarith
  have hcube : |((k ^ 3 : ℕ) : ℤ)| < 2 ^ 53 := by
    have hle : k ^ 3 ≤ 1000 ^ 3 := Nat.pow_le_pow_left hsmall.le 3
    rw [Nat.abs_cast]
    exact_mod_cast hle.trans_lt (by norm_num)
  have hround := Binary64.round_of_dyadic (-1) hcube
  rw [zpow_neg_one, ← div_eq_mul_inv] at hround
  push_cast at hround
  exact hround

/-- The number of links in the source is right when `k` is even. -/
theorem built_fattree {topoParams : TopoParams} {topo : Topology}
    (hs : (Topology.new .FatTree).buildTopoFattree topoParams = some topo) : Built topo ∧
      ((∀ k, topoParams.k = some k → Even k) →
        topo.fabric.numLinks = topo.fabric.globalLinkId) := by
  have hbuild := hs
  obtain ⟨k, topo₃, hk, h₃, -, hs⟩ := stage_fattree hs
  have hports : ∀ type numPipes numLinks, Topology.numPipesAndLinks .FatTree topoParams type =
      some (numPipes, numLinks) → (fattreeClos k).degree type ≤ numLinks := by
    intro type numPipes numLinks hnum
    obtain ⟨k', hk', hnum⟩ := Option.bind_eq_some_iff.mp hnum
    rw [hk, Option.some_inj] at hk'
    cases hnum
    subst hk'
    cases type <;> simp only [Clos.degree, fattreeClos] <;> omega
  obtain ⟨hbuilt, hnumLinks, hcount⟩ := h₃.built rfl hports hs
  refine ⟨hbuilt, fun heven => ?_⟩
  rw [hnumLinks, hcount, round_cube_half hbuild hk]
  obtain ⟨h, rfl⟩ := heven k hk
  have hhalf : (h + h) / 2 = h := by omega
  rw [Clos.length_pairs]
  simp only [fattreeClos, hhalf]
  push_cast
  ring

/-- The network of an FbFabric. -/
def fbfabricClos (numPods torsPerPod : ℕ) (oversubscription : ℚ) : Clos :=
  ⟨numPods, torsPerPod, 4, Topology.coreSwitchesPerSpinePlane torsPerPod oversubscription⟩

lemma length_pairs_fbfabric (numPods torsPerPod : ℕ) (oversubscription : ℚ) :
    (fbfabricClos numPods torsPerPod oversubscription).pairs.length =
      numPods * (torsPerPod * 4 +
        4 * Topology.coreSwitchesPerSpinePlane torsPerPod oversubscription) := by
  rw [Clos.length_pairs]
  simp only [fbfabricClos]
  ring

/-- The loop that adds the core switches plane by plane. -/
lemma Stage.addPlanes {C : Clos} {kind : TopoType × TopoParams × ℚ} {P : List (ℕ × ℕ)}
    {topo topo' : Topology} {planes : List (List ℕ)}
    (h : Stage C kind (C.pods * C.podSize) P topo)
    (hs : (List.range C.aggs).foldlM (fun (s : Topology × List (List ℕ)) _ => do
      let (topo, coreSwIds) ← s.1.addSwitches .CORE 0 C.cores
      return (topo, s.2 ++ [coreSwIds])) (topo, []) = some (topo', planes)) :
    Stage C kind C.numSwitches P topo' ∧
      planes = (List.range C.aggs).map fun j => (List.range C.cores).map (C.coreId j) := by
  refine Loop.range_invariant (P := fun j (s : Topology × List (List ℕ)) =>
    Stage C kind (C.pods * C.podSize + j * C.cores) P s.1 ∧
      s.2 = (List.range j).map fun j => (List.range C.cores).map (C.coreId j))
    ⟨by rwa [Nat.zero_mul], rfl⟩ (fun j hj s s' hP hstep => ?_) hs
  obtain ⟨⟨topo₁, ids⟩, hadd, hstep⟩ := Option.bind_eq_some_iff.mp hstep
  obtain ⟨hstage, hids, -⟩ := hP.1.addSwitches
    (fun i _ => by rw [Nat.add_assoc]; exact Clos.typeOf_coreId) hadd
  cases hstep
  refine ⟨?_, ?_⟩
  · rw [Nat.succ_mul, ← Nat.add_assoc]
    exact hstage
  · rw [List.range_succ, List.map_append, hP.2, hids]
    refine congrArg (_ ++ ·) (congrArg (fun x => [x]) ?_)
    exact List.map_congr_left fun i _ => Nat.add_assoc _ _ _

/-- The loop over the planes is one over the links to the core. -/
lemma foldlM_fbfabric {C : Clos} {capacity : ℚ} {isLgLink : Bool} {planes : List (List ℕ)}
    {podAggs : ℕ → List ℕ}
    (hplanes : planes = (List.range C.aggs).map fun j => (List.range C.cores).map (C.coreId j))
    (haggs : ∀ p < C.pods, podAggs p = (List.range C.aggs).map (C.aggId p)) (s : Topology) :
    (List.range C.aggs).foldlM (fun topo spinePlaneId => do
      let coreSwitches ← planes[spinePlaneId]?
      let currSpinePlaneAggSwIds ← (List.range C.pods).mapM fun pod =>
        (podAggs pod)[spinePlaneId]?
      coreSwitches.foldlM (fun topo coreId =>
        currSpinePlaneAggSwIds.foldlM (fun topo aggId =>
          topo.connectCoreAgg (topo.fabric.nodes aggId).pod capacity isLgLink coreId aggId)
            topo) topo) s =
      C.upPairs.foldlM (fun s x =>
        s.connectCoreAgg (s.fabric.nodes x.2).pod capacity isLgLink x.1 x.2) s := by
  rw [foldlM_upPairs]
  refine Loop.congr fun j hj s => ?_
  have hj := List.mem_range.mp hj
  have hplane : planes[j]? = some ((List.range C.cores).map (C.coreId j)) := by
    rw [hplanes]
    exact getElem?_map_range hj
  have hmapM : ((List.range C.pods).mapM fun pod => (podAggs pod)[j]?) =
      some ((List.range C.pods).map (C.aggId · j)) := by
    refine Loop.mapM_eq_some fun p hp => ?_
    rw [haggs p (List.mem_range.mp hp)]
    exact getElem?_map_range hj
  simp only [hplane, hmapM, Option.bind_eq_bind, Option.bind_some, List.foldlM_map]

/-- An FbFabric before its metrics are computed.  The fabric has four planes, and the core switches
of a plane come from the rounded quotient. -/
lemma stage_fbfabric {topoParams : TopoParams} {shuffle : List ℕ → List ℕ} {topo : Topology}
    (hs : (Topology.new .FbFabric).buildTopoFbfabric topoParams shuffle = some topo) :
    ∃ numPods torsPerPod oversubscription topo₃, topoParams.numPods = some numPods ∧
      topoParams.torsPerPod = some torsPerPod ∧
      topoParams.oversubscription = some oversubscription ∧
      Stage (fbfabricClos numPods torsPerPod oversubscription) (.FbFabric, topoParams,
          (numPods * (torsPerPod * 4 + 4 *
            Topology.coreSwitchesPerSpinePlane torsPerPod oversubscription : ℕ) : ℚ))
        (fbfabricClos numPods torsPerPod oversubscription).numSwitches
        (fbfabricClos numPods torsPerPod oversubscription).pairs topo₃ ∧
      ((fbfabricClos numPods torsPerPod oversubscription).upPairs ≠ [] →
        topo₃.fabric.globalLinkId ≤ maxNumberOfLinks) ∧
      topo₃.initMetrics numPods = some topo := by
  obtain ⟨-, -, hs⟩ := Option.bind_eq_some_iff.mp hs
  obtain ⟨capacity, -, hs⟩ := Option.bind_eq_some_iff.mp hs
  obtain ⟨oversubscription, hover, hs⟩ := Option.bind_eq_some_iff.mp hs
  obtain ⟨numPods, hpods, hs⟩ := Option.bind_eq_some_iff.mp hs
  obtain ⟨torsPerPod, htors, hs⟩ := Option.bind_eq_some_iff.mp hs
  obtain ⟨deploymentPercent, -, hs⟩ := Option.bind_eq_some_iff.mp hs
  obtain ⟨-, -, hs⟩ := Option.bind_eq_some_iff.mp hs
  obtain ⟨⟨topo₁, podAggs⟩, hbuild, hs⟩ := Option.bind_eq_some_iff.mp hs
  obtain ⟨⟨topo₂, planes⟩, hcores, hs⟩ := Option.bind_eq_some_iff.mp hs
  obtain ⟨topo₃, hlinks, hs⟩ := Option.bind_eq_some_iff.mp hs
  have h₀ := stage_new (fbfabricClos numPods torsPerPod oversubscription) .FbFabric topoParams
    (numPods * (torsPerPod * 4 + 4 *
      Topology.coreSwitchesPerSpinePlane torsPerPod oversubscription : ℕ))
  obtain ⟨h₁, haggs⟩ := h₀.buildPods (fun _ _ => rfl) hbuild
  obtain ⟨h₂, hplanes⟩ := h₁.addPlanes hcores
  have hloop := (foldlM_fbfabric hplanes haggs topo₂).symm.trans hlinks
  exact ⟨numPods, torsPerPod, oversubscription, topo₃, hpods, htors, hover,
    h₂.connectPlanes hloop, fun hne => Stage.globalLinkId_le_of_connectPlanes hne hloop, hs⟩

theorem built_fbfabric {topoParams : TopoParams} {shuffle : List ℕ → List ℕ} {topo : Topology}
    (hs : (Topology.new .FbFabric).buildTopoFbfabric topoParams shuffle = some topo) :
    Built topo ∧ topo.fabric.numLinks = topo.fabric.globalLinkId := by
  obtain ⟨numPods, torsPerPod, oversubscription, topo₃, hpods, htors, hover, h₃, -, hs⟩ :=
    stage_fbfabric hs
  have hports : ∀ type numPipes numLinks, Topology.numPipesAndLinks .FbFabric topoParams type =
      some (numPipes, numLinks) →
        (fbfabricClos numPods torsPerPod oversubscription).degree type ≤ numLinks := by
    intro type numPipes numLinks hnum
    obtain ⟨_, ho', hnum⟩ := Option.bind_eq_some_iff.mp hnum
    obtain ⟨_, hp', hnum⟩ := Option.bind_eq_some_iff.mp hnum
    obtain ⟨_, ht', hnum⟩ := Option.bind_eq_some_iff.mp hnum
    obtain ⟨-, -, hnum⟩ := Option.bind_eq_some_iff.mp hnum
    rw [hover, Option.some_inj] at ho'
    rw [hpods, Option.some_inj] at hp'
    rw [htors, Option.some_inj] at ht'
    subst ho' hp' ht'
    cases type <;> cases hnum <;> exact le_rfl
  obtain ⟨hbuilt, hnumLinks, hcount⟩ := h₃.built rfl hports hs
  refine ⟨hbuilt, ?_⟩
  rw [hnumLinks, hcount, Clos.length_pairs]
  simp only [fbfabricClos]
  push_cast
  ring

lemma length_pairs_le_fbfabric {topoParams : TopoParams} {numPods torsPerPod : ℕ}
    {oversubscription : ℚ} {shuffle : List ℕ → List ℕ} {topo : Topology}
    (hs : (Topology.new .FbFabric).buildTopoFbfabric topoParams shuffle = some topo)
    (hpods : topoParams.numPods = some numPods) (htors : topoParams.torsPerPod = some torsPerPod)
    (hover : topoParams.oversubscription = some oversubscription) :
    0 < numPods ∧
      (fbfabricClos numPods torsPerPod oversubscription).pairs.length ≤ maxNumberOfLinks := by
  obtain ⟨numPods', torsPerPod', oversubscription', topo₃, hpods', htors', hover', hstage, hlimit,
    hinit⟩ := stage_fbfabric hs
  obtain rfl : numPods = numPods' := Option.some_inj.mp (hpods.symm.trans hpods')
  obtain rfl : torsPerPod = torsPerPod' := Option.some_inj.mp (htors.symm.trans htors')
  obtain rfl : oversubscription = oversubscription' :=
    Option.some_inj.mp (hover.symm.trans hover')
  obtain ⟨hcores, hpos, -⟩ := hstage.pos_of_initMetrics hinit
  refine ⟨hpos, ?_⟩
  rw [← hstage.globalLinkId]
  exact hlimit (Clos.upPairs_ne_nil hcores hpos)

end LinkGuardian.Simulator
