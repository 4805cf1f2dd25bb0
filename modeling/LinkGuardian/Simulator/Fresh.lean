import LinkGuardian.Simulator.Construction

/-!
# Fresh topologies

A topology is `Fresh` while it is being built: its fabric is wired and charted, nothing is
disabled, and all numbers are the initial ones.  Each step of a builder adds a switch or a link
and keeps the topology fresh.

`Wired` and `Charted` are kept for the run that follows.  The rest of `Fresh` is about initial
values and is lost with the first failure, after it has given the coherence of the built topology.
-/

namespace LinkGuardian.Simulator

open Removal

/-! ## Capacity of a pod -/

/-- The links that count towards one of the two capacities of a pod. -/
def Fabric.linksOfPod (f : Fabric) (pod : ℕ) (type : PodCapacityType) : Finset ℕ :=
  f.links.filter fun l => f.linkIdToPodId l = pod ∧ (f.getLinkType l).podCapacityType = type

lemma Topology.perPodCapacity_addPodCapacity (topo : Topology) (l : ℕ) (c : ℚ) (pod : ℕ)
    (type : PodCapacityType) : (topo.addPodCapacity l c).perPodCapacity pod type =
      topo.perPodCapacity pod type + if topo.fabric.linkIdToPodId l = pod ∧
        (topo.fabric.getLinkType l).podCapacityType = type then c else 0 := by
  unfold addPodCapacity
  by_cases hpod : topo.fabric.linkIdToPodId l = pod
  · subst hpod
    by_cases htype : (topo.fabric.getLinkType l).podCapacityType = type
    · subst htype
      simp only [Function.update_self, and_self, if_true]
    · simp only [Function.update_self, Function.update_of_ne (Ne.symm htype), htype, and_false,
        if_false, add_zero]
  · simp only [Function.update_of_ne (Ne.symm hpod), hpod, false_and, if_false, add_zero]

/-! ## Freshness -/

/-- The state of a link that was never used. -/
def initialLink (capacity : ℚ) : LinkState where
  effectiveCapacity := capacity
  lossRate := initialLinkLossRate
  effectiveLossRate := initialLinkLossRate

structure Fresh (topo : Topology) : Prop where
  wired : topo.fabric.Wired
  charted : topo.fabric.Charted
  switches : ∀ sw < topo.fabric.globalSwitchId,
    Topology.numPipesAndLinks topo.fabric.type topo.fabric.topoParams
      (topo.fabric.getSwitchType sw) =
        some ((topo.fabric.nodes sw).numPipes, (topo.fabric.nodes sw).numLinks) ∧
    (topo.fabric.nodes sw).numLinks ≤
      (topo.fabric.nodes sw).numPipes * (topo.fabric.nodes sw).portsPerPipe
  attached : Attached topo.fabric topo.aggSwitches topo.numActiveUplinks ∅
  link : ∀ l ∈ topo.fabric.links, topo.link l = initialLink (topo.fabric.getLinkCapacity l)
  perPodCapacity : ∀ pod type, topo.perPodCapacity pod type =
    ∑ l ∈ topo.fabric.linksOfPod pod type, topo.fabric.getLinkCapacity l
  disabledLinks : topo.disabledLinks = ∅
  corruptingLinks : topo.corruptingLinks = ∅
  lgPortsPerPipe : ∀ sw pipe, topo.lgPortsPerPipe sw pipe = 0
  topLossRatesHeap : topo.topLossRatesHeap = #[initialLinkLossRate]
  topLgPortsPerPipeHeap : topo.topLgPortsPerPipeHeap = #[0]

/-! ## One link more -/

/-- What both ways to add a link do to the topology, besides telling its switches.  The lists of
aggs and the uplinks are left out, where the two ways differ. -/
structure LinkAdded (topo : Topology) (x : NewLink) (topo' : Topology) : Prop where
  fabric : topo'.fabric = topo.fabric.add x
  linkStates : topo'.linkStates =
    setEdge topo.linkStates s(x.outer, x.agg) (initialLink x.capacity)
  perPodCapacity : ∀ pod type, topo'.perPodCapacity pod type = topo.perPodCapacity pod type +
    if x.pod = pod ∧ x.type.podCapacityType = type then x.capacity else 0
  disabledLinks : topo'.disabledLinks = topo.disabledLinks
  corruptingLinks : topo'.corruptingLinks = topo.corruptingLinks
  lgPortsPerPipe : topo'.lgPortsPerPipe = topo.lgPortsPerPipe
  topLossRatesHeap : topo'.topLossRatesHeap = topo.topLossRatesHeap
  topLgPortsPerPipeHeap : topo'.topLgPortsPerPipeHeap = topo.topLgPortsPerPipeHeap

namespace Fresh

open Fabric

variable {topo topo' : Topology} {x : NewLink}

section Add

variable (h : Fresh topo) (hx : topo.fabric.Fits x)
include h hx

lemma getLinkCapacity_add_old {l : ℕ} (hl : l ∈ topo.fabric.links) :
    (topo.fabric.add x).getLinkCapacity l = topo.fabric.getLinkCapacity l :=
  congrArg LinkAttributes.capacity (edge_add_old h.wired hx hl)

omit h hx in
lemma getLinkCapacity_add_new :
    (topo.fabric.add x).getLinkCapacity topo.fabric.globalLinkId = x.capacity := by
  rw [getLinkCapacity, edge_add_new]

lemma linksOfPod_add (pod : ℕ) (type : PodCapacityType) : (topo.fabric.add x).linksOfPod pod type =
    if x.pod = pod ∧ x.type.podCapacityType = type then
      insert topo.fabric.globalLinkId (topo.fabric.linksOfPod pod type)
    else topo.fabric.linksOfPod pod type := by
  have hpod : (topo.fabric.add x).linkIdToPodId topo.fabric.globalLinkId = x.pod :=
    Function.update_self _ _ _
  rw [linksOfPod, links_add, Finset.filter_insert, hpod, getLinkType_add_new,
    Finset.filter_congr fun l hl => by
      rw [getLinkType_add_old h.wired hx hl, show (topo.fabric.add x).linkIdToPodId l =
        topo.fabric.linkIdToPodId l from Function.update_of_ne (ne_of_mem_links hl) _ _]]
  rfl

/-- A link that is added keeps the topology fresh.  Whether it is a link to an agg or to the core
matters for the wiring and for the lists of aggs alone, which are therefore left to the two
cases. -/
lemma of_linkAdded (hadd : LinkAdded topo x topo') (hw : (topo.fabric.add x).Wired)
    (hat : Attached (topo.fabric.add x) topo'.aggSwitches topo'.numActiveUplinks ∅) :
    Fresh topo' where
  wired := hadd.fabric ▸ hw
  charted := hadd.fabric ▸ h.charted.add h.wired hx
  switches sw hsw := by
    rw [hadd.fabric] at hsw ⊢
    rw [getSwitchType_add]
    show _ = some (((topo.fabric.add x).nodes sw).withoutLinks.numPipes,
        ((topo.fabric.add x).nodes sw).withoutLinks.numLinks) ∧
      ((topo.fabric.add x).nodes sw).withoutLinks.numLinks ≤
        ((topo.fabric.add x).nodes sw).withoutLinks.numPipes *
          ((topo.fabric.add x).nodes sw).withoutLinks.portsPerPipe
    rw [withoutLinks_add]
    exact h.switches sw hsw
  attached := hadd.fabric ▸ hat
  link l hl := by
    rw [hadd.fabric] at hl ⊢
    unfold Topology.link
    rw [hadd.fabric, hadd.linkStates]
    rcases Finset.mem_insert.mp (links_add _ x ▸ hl) with rfl | hl
    · rw [edgeOf_add_new, getLinkCapacity_add_new]
      exact if_pos rfl
    · rw [edgeOf_add_old hl, getLinkCapacity_add_old h hx hl, ← h.link l hl]
      exact if_neg (hx.edgeOf_ne h.wired hl)
  perPodCapacity pod type := by
    have hmem : ∀ l ∈ topo.fabric.linksOfPod pod type, l ∈ topo.fabric.links := fun l hl =>
      (Finset.mem_filter.mp hl).1
    have hold : ∑ l ∈ topo.fabric.linksOfPod pod type, (topo.fabric.add x).getLinkCapacity l =
        topo.perPodCapacity pod type := by
      rw [h.perPodCapacity]
      exact Finset.sum_congr rfl fun l hl => getLinkCapacity_add_old h hx (hmem l hl)
    rw [hadd.perPodCapacity, hadd.fabric, linksOfPod_add h hx]
    split
    · rw [Finset.sum_insert fun hn => (mem_links.mp (hmem _ hn)).false, hold,
        getLinkCapacity_add_new, add_comm]
    · rw [hold, add_zero]
  disabledLinks := hadd.disabledLinks.trans h.disabledLinks
  corruptingLinks := hadd.corruptingLinks.trans h.corruptingLinks
  lgPortsPerPipe sw pipe := by
    rw [hadd.lgPortsPerPipe]
    exact h.lgPortsPerPipe sw pipe
  topLossRatesHeap := hadd.topLossRatesHeap.trans h.topLossRatesHeap
  topLgPortsPerPipeHeap := hadd.topLgPortsPerPipeHeap.trans h.topLgPortsPerPipeHeap

omit h hx in
lemma map_agg_low_add (t : ℕ) : (topo.fabric.tiers.low t).val.map (topo.fabric.add x).agg =
    (topo.fabric.tiers.low t).val.map topo.fabric.agg :=
  Multiset.map_congr rfl fun _ hm => agg_add_old (mem_low.mp hm).1.1

omit h hx in
lemma notMem_low (t : ℕ) : topo.fabric.globalLinkId ∉ topo.fabric.tiers.low t := fun hn =>
  (mem_links.mp (mem_low.mp hn).1.1).false

omit h hx in
lemma notMem_up (a : ℕ) : topo.fabric.globalLinkId ∉ topo.fabric.tiers.up a := fun hn =>
  (mem_links.mp (mem_up.mp hn).1.1).false

/-- A ToR-Agg link adds its agg to the list of its ToR. -/
lemma attached_torAgg (htype : x.type = .TOR_AGG) : Attached (topo.fabric.add x)
    (Function.update topo.aggSwitches x.outer (topo.aggSwitches x.outer ++ [x.agg]))
    topo.numActiveUplinks ∅ where
  aggSwitches t ht := by
    rw [getSwitchType_add] at ht
    have hold := h.attached.aggSwitches t ht
    rw [Finset.sdiff_empty] at hold ⊢
    rw [low_add h.wired hx]
    by_cases hto : x.outer = t
    · subst hto
      rw [if_pos ⟨htype, rfl⟩, Function.update_self, Finset.insert_val_of_notMem (notMem_low _),
        Multiset.map_cons, map_agg_low_add, agg_add_new, ← hold, ← Multiset.coe_add, add_comm]
      rfl
    · rw [if_neg fun hc => hto hc.2, Function.update_of_ne (Ne.symm hto), map_agg_low_add]
      exact hold
  numActiveUplinks a ha := by
    rw [getSwitchType_add] at ha
    rw [up_add h.wired hx, if_neg]
    · exact h.attached.numActiveUplinks a ha
    · rw [htype]
      exact fun hc => by cases hc.1

/-- An Agg-Core link adds one uplink to its agg. -/
lemma attached_aggCore (htype : x.type = .AGG_CORE) : Attached (topo.fabric.add x)
    topo.aggSwitches
    (Function.update topo.numActiveUplinks x.agg (topo.numActiveUplinks x.agg + 1)) ∅ where
  aggSwitches t ht := by
    rw [getSwitchType_add] at ht
    have hold := h.attached.aggSwitches t ht
    rw [Finset.sdiff_empty] at hold ⊢
    rw [low_add h.wired hx, if_neg, map_agg_low_add]
    · exact hold
    · rw [htype]
      exact fun hc => by cases hc.1
  numActiveUplinks a ha := by
    rw [getSwitchType_add] at ha
    have hold := h.attached.numActiveUplinks a ha
    rw [Finset.sdiff_empty] at hold ⊢
    rw [up_add h.wired hx]
    by_cases hxa : x.agg = a
    · subst hxa
      rw [if_pos ⟨htype, rfl⟩, Function.update_self, Finset.card_insert_of_notMem (notMem_up _),
        hold, Nat.cast_succ]
    · rw [if_neg fun hc => hxa hc.2, Function.update_of_ne (Ne.symm hxa)]
      exact hold

end Add

/-! ## Connecting two switches -/

/-- The capacity of the new link goes to its pod. -/
lemma perPodCapacity_newLink (topo : Topology) (x : NewLink) (topo₁ : Topology)
    (hf : topo₁.fabric = topo.fabric.add x)
    (hl : topo₁.linkStates = setEdge topo.linkStates s(x.outer, x.agg) (initialLink x.capacity))
    (hp : topo₁.perPodCapacity = topo.perPodCapacity) (p : ℕ) (type : PodCapacityType) :
    (topo₁.updatePodCapacityOnLinkStatusChange topo.fabric.globalLinkId true).perPodCapacity p
        type = topo.perPodCapacity p type +
      if x.pod = p ∧ x.type.podCapacityType = type then x.capacity else 0 := by
  have hpod : (topo.fabric.add x).linkIdToPodId topo.fabric.globalLinkId = x.pod :=
    Function.update_self _ _ _
  have hcap : topo₁.getEffectiveLinkCapacity topo.fabric.globalLinkId = x.capacity := by
    unfold Topology.getEffectiveLinkCapacity Topology.link
    rw [hf, hl, edgeOf_add_new]
    exact congrArg LinkState.effectiveCapacity (if_pos rfl)
  show (topo₁.addPodCapacity _ (topo₁.getEffectiveLinkCapacity _)).perPodCapacity p type = _
  rw [Topology.perPodCapacity_addPodCapacity, hcap, hf, hpod, getLinkType_add_new, hp]

variable {pod : ℕ} {capacity : ℚ} {isLgLink : Bool} {t c a : ℕ}

lemma connectTorAgg (h : Fresh topo) (hlow : ∀ l ∈ topo.fabric.links,
      topo.fabric.getLinkType l = .TOR_AGG)
    (hx : topo.fabric.Fits ⟨t, a, .TOR_AGG, capacity, isLgLink, {t}, pod⟩)
    (hs : topo.connectTorAgg pod capacity isLgLink t a = some topo') :
    Fresh topo' ∧ LinkAdded topo ⟨t, a, .TOR_AGG, capacity, isLgLink, {t}, pod⟩ topo' := by
  obtain ⟨⟨topo₁, l⟩, h₁, hs⟩ := Option.bind_eq_some_iff.mp hs
  obtain ⟨-, -, h₁⟩ := Option.bind_eq_some_iff.mp h₁
  obtain ⟨topo₂, h₂, hs⟩ := Option.bind_eq_some_iff.mp hs
  obtain ⟨-, -, h₂⟩ := Option.bind_eq_some_iff.mp h₂
  obtain ⟨-, -, h₂⟩ := Option.bind_eq_some_iff.mp h₂
  cases h₁
  cases h₂
  have hadd : LinkAdded topo ⟨t, a, .TOR_AGG, capacity, isLgLink, {t}, pod⟩ topo' := by
    cases hs
    refine ⟨rfl, rfl, fun p type => ?_, rfl, rfl, rfl, rfl, rfl⟩
    refine perPodCapacity_newLink topo ⟨t, a, .TOR_AGG, capacity, isLgLink, {t}, pod⟩ _ ?_ ?_ ?_
      p type <;> rfl
  have hat := h.attached_torAgg hx rfl
  refine ⟨h.of_linkAdded hx hadd (h.wired.add_torAgg hx rfl rfl hlow) ?_, hadd⟩
  cases hs
  exact hat

lemma connectCoreAgg (h : Fresh topo)
    (hxdef : x = ⟨c, a, .AGG_CORE, capacity, isLgLink,
      topo.fabric.getAdjacentSwitchIds a .TOR, pod⟩) (hx : topo.fabric.Fits x)
    (hs : topo.connectCoreAgg pod capacity isLgLink c a = some topo') :
    Fresh topo' ∧ LinkAdded topo x topo' := by
  obtain ⟨⟨topo₁, l⟩, h₁, hs⟩ := Option.bind_eq_some_iff.mp hs
  obtain ⟨-, -, h₁⟩ := Option.bind_eq_some_iff.mp h₁
  obtain ⟨topo₂, h₂, hs⟩ := Option.bind_eq_some_iff.mp hs
  obtain ⟨-, -, h₂⟩ := Option.bind_eq_some_iff.mp h₂
  cases h₁
  cases h₂
  have hf : topo'.fabric = topo.fabric.add { x with
      affectedTors := (topo.fabric.add x).getAdjacentSwitchIds x.agg .TOR } := by
    cases hs
    cases hxdef
    rfl
  have htype : x.type = .AGG_CORE := congrArg NewLink.type hxdef
  have hadd : LinkAdded topo x topo' := by
    rw [getAdjacentSwitchIds_add_aggCore hx htype] at hf
    have hx' : { x with affectedTors := topo.fabric.getAdjacentSwitchIds x.agg .TOR } = x := by
      rw [hxdef]
    rw [hx'] at hf
    cases hs
    cases hxdef
    refine ⟨hf, rfl, fun p type => ?_, rfl, rfl, rfl, rfl, rfl⟩
    refine perPodCapacity_newLink topo _ _ ?_ ?_ ?_ p type
    · exact hf
    · rfl
    · rfl
  have hat := h.attached_aggCore hx htype
  refine ⟨h.of_linkAdded hx hadd (h.wired.add_aggCore hx htype fun t => ?_) ?_, hadd⟩
  · rw [← mem_adjacent_tors h.wired h.charted hx.agg_type, hxdef]
  · cases hs
    cases hxdef
    exact hat

end Fresh

/-! ## One switch more -/

/-- What adding a switch does to the topology.  The new switch has no links, so nothing that is said
of links changes. -/
structure SwitchAdded (topo : Topology) (type : SwitchType) (topo' : Topology) : Prop where
  fabric : ∃ nodes, topo'.fabric = { topo.fabric with
      globalSwitchId := topo.fabric.globalSwitchId + 1
      switchTypewiseList := Function.update topo.fabric.switchTypewiseList type
        (topo.fabric.switchTypewiseList type ++ [topo.fabric.globalSwitchId])
      nodes := nodes }
  old_node : ∀ sw, sw ≠ topo.fabric.globalSwitchId →
    topo'.fabric.nodes sw = topo.fabric.nodes sw
  new_type : topo'.fabric.getSwitchType topo.fabric.globalSwitchId = type
  linkIdList : (topo'.fabric.nodes topo.fabric.globalSwitchId).linkIdList = []
  numPipes : (topo'.fabric.nodes topo.fabric.globalSwitchId).numPipes ≠ 0
  numLinks : Topology.numPipesAndLinks topo.fabric.type topo.fabric.topoParams type =
      some ((topo'.fabric.nodes topo.fabric.globalSwitchId).numPipes,
        (topo'.fabric.nodes topo.fabric.globalSwitchId).numLinks) ∧
    (topo'.fabric.nodes topo.fabric.globalSwitchId).numLinks ≤
      (topo'.fabric.nodes topo.fabric.globalSwitchId).numPipes *
        (topo'.fabric.nodes topo.fabric.globalSwitchId).portsPerPipe
  aggSwitches : topo'.aggSwitches =
    Function.update topo.aggSwitches topo.fabric.globalSwitchId []
  numActiveUplinks : topo'.numActiveUplinks =
    Function.update topo.numActiveUplinks topo.fabric.globalSwitchId 0
  lgPortsPerPipe : ∀ sw pipe, topo.lgPortsPerPipe sw pipe = 0 → topo'.lgPortsPerPipe sw pipe = 0
  linkStates : topo'.linkStates = topo.linkStates
  perPodCapacity : topo'.perPodCapacity = topo.perPodCapacity
  disabledLinks : topo'.disabledLinks = topo.disabledLinks
  corruptingLinks : topo'.corruptingLinks = topo.corruptingLinks
  topLossRatesHeap : topo'.topLossRatesHeap = topo.topLossRatesHeap
  topLgPortsPerPipeHeap : topo'.topLgPortsPerPipeHeap = topo.topLgPortsPerPipeHeap

/-- A number of links fits on the ports that are set aside for them. -/
lemma le_mul_ports {numLinks numPipes : ℕ} (h : numPipes ≠ 0) : numLinks ≤
    numPipes * (numLinks / numPipes + if numLinks % numPipes ≠ 0 then 1 else 0) := by
  have hdiv := Nat.div_add_mod numLinks numPipes
  have hlt := Nat.mod_lt numLinks (Nat.pos_of_ne_zero h)
  rw [Nat.mul_add]
  split
  · omega
  · omega

lemma switchAdded {topo topo' : Topology} {type : SwitchType} {pod id : ℕ}
    (hs : topo.addSwitch type pod = some (topo', id)) :
    SwitchAdded topo type topo' ∧ id = topo.fabric.globalSwitchId := by
  obtain ⟨-, -, hs⟩ := Option.bind_eq_some_iff.mp hs
  obtain ⟨⟨numPipes, numLinks⟩, hnum, hs⟩ := Option.bind_eq_some_iff.mp hs
  obtain ⟨_, hguard, hs⟩ := Option.bind_eq_some_iff.mp hs
  have hpipes : numPipes ≠ 0 := fun h0 => by simp [guard, h0] at hguard
  have hnode : topo'.fabric.nodes topo.fabric.globalSwitchId =
      { type := type
        pod := pod
        linkIdList := []
        numPipes := numPipes
        numLinks := numLinks
        portsPerPipe := numLinks / numPipes + if numLinks % numPipes ≠ 0 then 1 else 0 } := by
    cases hs
    exact Function.update_self _ _ _
  have hold : ∀ sw, sw ≠ topo.fabric.globalSwitchId →
      topo'.fabric.nodes sw = topo.fabric.nodes sw := by
    intro sw hsw
    cases hs
    exact Function.update_of_ne hsw _ _
  have hports : ∀ sw pipe, topo.lgPortsPerPipe sw pipe = 0 →
      topo'.lgPortsPerPipe sw pipe = 0 := by
    intro sw pipe h0
    cases hs
    show Function.update topo.lgPortsPerPipe topo.fabric.globalSwitchId (fun _ => 0) sw pipe = 0
    by_cases hsw : sw = topo.fabric.globalSwitchId
    · rw [hsw, Function.update_self]
    · rw [Function.update_of_ne hsw]
      exact h0
  refine ⟨⟨?_, hold, ?_, ?_, ?_, ?_, ?_, ?_, hports, ?_, ?_, ?_, ?_, ?_, ?_⟩, ?_⟩
  · cases hs
    exact ⟨_, rfl⟩
  · rw [Fabric.getSwitchType, hnode]
  · rw [hnode]
  · rw [hnode]
    exact hpipes
  · rw [hnode]
    exact ⟨hnum, le_mul_ports hpipes⟩
  all_goals
    cases hs
    rfl

namespace SwitchAdded

open Fabric

variable {topo topo' : Topology} {type : SwitchType} (ha : SwitchAdded topo type topo')
include ha

lemma old_type {sw : ℕ} (hsw : sw ≠ topo.fabric.globalSwitchId) :
    topo'.fabric.getSwitchType sw = topo.fabric.getSwitchType sw :=
  congrArg SwitchAttributes.type (ha.old_node sw hsw)

lemma globalSwitchId : topo'.fabric.globalSwitchId = topo.fabric.globalSwitchId + 1 := by
  obtain ⟨nodes, hf⟩ := ha.fabric
  rw [hf]

lemma tiers : topo'.fabric.tiers = topo.fabric.tiers := by
  obtain ⟨nodes, hf⟩ := ha.fabric
  rw [hf]
  rfl

lemma links : topo'.fabric.links = topo.fabric.links := by
  obtain ⟨nodes, hf⟩ := ha.fabric
  rw [hf]
  rfl

omit ha in
/-- The new switch is not the end of a link. -/
lemma ne_of_ends (hw : topo.fabric.Wired) {l sw : ℕ} (hl : l ∈ topo.fabric.links)
    (hends : topo.fabric.Ends l sw) : sw ≠ topo.fabric.globalSwitchId :=
  (hw.lt_globalSwitchId l hl sw hends).ne

omit ha in
lemma linksAt_new (hw : topo.fabric.Wired) :
    topo.fabric.linksAt topo.fabric.globalSwitchId = [] := by
  refine List.eq_nil_iff_forall_not_mem.mpr fun l hl => ?_
  obtain ⟨hl, hends⟩ := mem_linksAt.mp hl
  exact (hw.lt_globalSwitchId l hl _ hends).false

lemma wired (hw : topo.fabric.Wired) : topo'.fabric.Wired where
  outer_type l hl := by
    rw [ha.links] at hl
    have hold := ha.old_type (ne_of_ends hw hl (.inl rfl))
    have htype := hw.outer_type l hl
    obtain ⟨nodes, hf⟩ := ha.fabric
    rw [hf] at hold ⊢
    exact hold.trans htype
  agg_type l hl := by
    rw [ha.links] at hl
    have hold := ha.old_type (ne_of_ends hw hl (.inr rfl))
    have htype := hw.agg_type l hl
    obtain ⟨nodes, hf⟩ := ha.fabric
    rw [hf] at hold ⊢
    exact hold.trans htype
  lt_globalSwitchId l hl sw hends := by
    rw [ha.links] at hl
    rw [ha.globalSwitchId]
    obtain ⟨nodes, hf⟩ := ha.fabric
    rw [hf] at hends
    exact Nat.lt_succ_of_lt (hw.lt_globalSwitchId l hl sw hends)
  edgeOf_inj := by
    rw [ha.links]
    have hinj := hw.edgeOf_inj
    obtain ⟨nodes, hf⟩ := ha.fabric
    rw [hf]
    exact hinj
  affectedTors := by
    rw [ha.links, ha.tiers]
    have haffected := hw.affectedTors
    obtain ⟨nodes, hf⟩ := ha.fabric
    rw [hf]
    exact haffected
  linkIdList sw hsw := by
    have hlinksAt : topo'.fabric.linksAt sw = topo.fabric.linksAt sw := by
      obtain ⟨nodes, hf⟩ := ha.fabric
      rw [hf]
      rfl
    rw [hlinksAt]
    by_cases hnew : sw = topo.fabric.globalSwitchId
    · rw [hnew, ha.linkIdList, linksAt_new hw]
    · rw [ha.globalSwitchId] at hsw
      rw [ha.old_node sw hnew]
      exact hw.linkIdList sw (by omega)
  numPipes sw hsw := by
    by_cases hnew : sw = topo.fabric.globalSwitchId
    · rw [hnew]
      exact ha.numPipes
    · rw [ha.globalSwitchId] at hsw
      rw [ha.old_node sw hnew]
      exact hw.numPipes sw (by omega)

lemma charted (hc : topo.fabric.Charted) : topo'.fabric.Charted where
  id := by
    rw [ha.links]
    have hid := hc.id
    obtain ⟨nodes, hf⟩ := ha.fabric
    rw [hf]
    exact hid
  neighbors := by
    have hneighbors := hc.neighbors
    obtain ⟨nodes, hf⟩ := ha.fabric
    rw [hf]
    exact hneighbors
  nodup type' := by
    obtain ⟨nodes, hf⟩ := ha.fabric
    rw [hf]
    show (Function.update topo.fabric.switchTypewiseList type _ type').Nodup
    by_cases htype : type' = type
    · rw [htype, Function.update_self]
      refine List.nodup_append.mpr ⟨hc.nodup type, List.nodup_singleton _,
        fun sw hsw sw' hsw' => ?_⟩
      rw [List.mem_singleton.mp hsw']
      exact ((hc.mem_switchTypewiseList type sw).mp hsw).1.ne
    · rw [Function.update_of_ne htype]
      exact hc.nodup type'
  mem_switchTypewiseList type' sw := by
    have hlist : sw ∈ topo'.fabric.switchTypewiseList type' ↔
        sw ∈ topo.fabric.switchTypewiseList type' ∨
          type' = type ∧ sw = topo.fabric.globalSwitchId := by
      obtain ⟨nodes, hf⟩ := ha.fabric
      rw [hf]
      show sw ∈ Function.update topo.fabric.switchTypewiseList type _ type' ↔ _
      by_cases htype : type' = type
      · rw [htype, Function.update_self, List.mem_append, List.mem_singleton]
        simp only [true_and]
      · rw [Function.update_of_ne htype]
        simp only [htype, false_and, or_false]
    rw [hlist, hc.mem_switchTypewiseList, ha.globalSwitchId]
    by_cases hnew : sw = topo.fabric.globalSwitchId
    · rw [hnew, ha.new_type]
      simp only [lt_irrefl, false_and, false_or, and_true, lt_add_one, true_and, eq_comm]
    · rw [ha.old_type hnew]
      have hlt : sw < topo.fabric.globalSwitchId + 1 ↔ sw < topo.fabric.globalSwitchId := by omega
      simp only [hnew, and_false, or_false, hlt]

lemma attached (hw : topo.fabric.Wired)
    (hat : Attached topo.fabric topo.aggSwitches topo.numActiveUplinks ∅) :
    Attached topo'.fabric topo'.aggSwitches topo'.numActiveUplinks ∅ where
  aggSwitches t ht := by
    have hagg : topo'.fabric.agg = topo.fabric.agg := by
      obtain ⟨nodes, hf⟩ := ha.fabric
      rw [hf]
      rfl
    rw [ha.tiers, hagg, ha.aggSwitches]
    by_cases hnew : t = topo.fabric.globalSwitchId
    · have hempty : topo.fabric.tiers.low t = ∅ := by
        refine Finset.eq_empty_of_forall_notMem fun l hl => ?_
        obtain ⟨⟨hl, -⟩, ho⟩ := mem_low.mp hl
        exact ne_of_ends hw hl (.inl ho) hnew
      rw [hempty, hnew, Function.update_self, Finset.empty_sdiff]
      rfl
    · rw [Function.update_of_ne hnew]
      rw [ha.old_type hnew] at ht
      exact hat.aggSwitches t ht
  numActiveUplinks a hagg := by
    rw [ha.tiers, ha.numActiveUplinks]
    by_cases hnew : a = topo.fabric.globalSwitchId
    · have hempty : topo.fabric.tiers.up a = ∅ := by
        refine Finset.eq_empty_of_forall_notMem fun l hl => ?_
        obtain ⟨⟨hl, -⟩, hends⟩ := mem_up.mp hl
        exact ne_of_ends hw hl (.inr hends) hnew
      rw [hempty, hnew, Function.update_self, Finset.empty_sdiff]
      rfl
    · rw [Function.update_of_ne hnew]
      rw [ha.old_type hnew] at hagg
      exact hat.numActiveUplinks a hagg

/-- A switch that is added keeps the topology fresh. -/
theorem fresh (h : Fresh topo) : Fresh topo' where
  wired := ha.wired h.wired
  charted := ha.charted h.charted
  switches sw hsw := by
    have hkind : topo'.fabric.type = topo.fabric.type ∧
        topo'.fabric.topoParams = topo.fabric.topoParams := by
      obtain ⟨nodes, hf⟩ := ha.fabric
      rw [hf]
      exact ⟨rfl, rfl⟩
    rw [hkind.1, hkind.2]
    by_cases hnew : sw = topo.fabric.globalSwitchId
    · rw [hnew, ha.new_type]
      exact ha.numLinks
    · rw [ha.globalSwitchId] at hsw
      rw [ha.old_type hnew, ha.old_node sw hnew]
      exact h.switches sw (by omega)
  attached := ha.attached h.wired h.attached
  link := by
    rw [ha.links]
    have hlink := h.link
    obtain ⟨nodes, hf⟩ := ha.fabric
    unfold Topology.link
    rw [hf, ha.linkStates]
    exact hlink
  perPodCapacity := by
    have hcap := h.perPodCapacity
    obtain ⟨nodes, hf⟩ := ha.fabric
    rw [hf, ha.perPodCapacity]
    exact hcap
  disabledLinks := ha.disabledLinks.trans h.disabledLinks
  corruptingLinks := ha.corruptingLinks.trans h.corruptingLinks
  lgPortsPerPipe sw pipe := ha.lgPortsPerPipe sw pipe (h.lgPortsPerPipe sw pipe)
  topLossRatesHeap := ha.topLossRatesHeap.trans h.topLossRatesHeap
  topLgPortsPerPipeHeap := ha.topLgPortsPerPipeHeap.trans h.topLgPortsPerPipeHeap

end SwitchAdded

end LinkGuardian.Simulator
