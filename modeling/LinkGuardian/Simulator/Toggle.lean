import LinkGuardian.Simulator.Coherence

/-!
# Disabling and enabling links

What `disableLink` does to a coherent topology when the link is corrupting, and `enableLink` when
it is disabled: neither raises, and both keep the topology coherent.
-/

namespace LinkGuardian.Simulator

open Removal Fabric

namespace Topology

variable {topo : Topology} {D : Finset ℕ} {l : ℕ}

/-! ## The switches of the link -/

lemma getSwitchPairTypes_eq (hw : topo.fabric.Wired) (hl : l ∈ topo.fabric.links) :
    topo.fabric.getSwitchPairTypes l =
      match topo.fabric.getLinkType l with
      | .TOR_AGG => {.TOR, .AGG}
      | .AGG_CORE => {.AGG, .CORE} := by
  have hagg := hw.agg_type l hl
  show {topo.fabric.getSwitchType (topo.fabric.outer l),
    topo.fabric.getSwitchType (topo.fabric.agg l)} = _
  cases htype : topo.fabric.getLinkType l with
  | TOR_AGG => rw [hw.outer_tor hl htype, hagg]
  | AGG_CORE => rw [hw.outer_core hl htype, hagg, Finset.pair_comm]

lemma notMem_up_of_torAgg (htype : topo.fabric.getLinkType l = .TOR_AGG) (a : ℕ) :
    l ∉ topo.fabric.tiers.up a := fun h => by
  rw [(mem_up.mp h).1.2] at htype
  cases htype

lemma notMem_low_of_aggCore (htype : topo.fabric.getLinkType l = .AGG_CORE) (t : ℕ) :
    l ∉ topo.fabric.tiers.low t := fun h => by
  rw [(mem_low.mp h).1.2] at htype
  cases htype

lemma sdiff_erase_of_notMem {X : Finset ℕ} (h : l ∉ X) : X \ D.erase l = X \ D := by
  ext m
  rw [Finset.mem_sdiff, Finset.mem_sdiff, Finset.mem_erase]
  refine and_congr_right fun hm => not_congr (and_iff_right ?_)
  rintro rfl
  exact h hm

section Switches

variable (hw : topo.fabric.Wired)
  (hat : Attached topo.fabric topo.aggSwitches topo.numActiveUplinks D)
  (hl : l ∈ topo.fabric.links)
include hw hat hl

lemma detach_torAgg (htype : topo.fabric.getLinkType l = .TOR_AGG) (hD : l ∉ D) :
    topo.fabric.agg l ∈ topo.aggSwitches (topo.fabric.outer l) ∧
      Attached topo.fabric (Function.update topo.aggSwitches (topo.fabric.outer l)
        ((topo.aggSwitches (topo.fabric.outer l)).erase (topo.fabric.agg l)))
        topo.numActiveUplinks (insert l D) := by
  have hlow : l ∈ topo.fabric.tiers.low (topo.fabric.outer l) := mem_low.mpr ⟨⟨hl, htype⟩, rfl⟩
  have hmem : l ∈ topo.fabric.tiers.low (topo.fabric.outer l) \ D :=
    Finset.mem_sdiff.mpr ⟨hlow, hD⟩
  have haggs := hat.aggSwitches _ (hw.outer_tor hl htype)
  refine ⟨?_, fun t ht => ?_, fun a ha => ?_⟩
  · rw [← Multiset.mem_coe, haggs]
    exact Multiset.mem_map_of_mem _ hmem
  · by_cases hto : t = topo.fabric.outer l
    · subst hto
      rw [Function.update_self, ← Multiset.coe_erase, haggs, Finset.sdiff_insert, Finset.erase_val,
        ← Multiset.cons_erase hmem, Multiset.map_cons, Multiset.erase_cons_head,
        Multiset.erase_cons_head]
    · rw [Function.update_of_ne hto, hat.aggSwitches t ht,
        TwoTier.sdiff_insert_of_notMem fun h => hto (mem_low.mp h).2.symm]
  · rw [hat.numActiveUplinks a ha,
      TwoTier.sdiff_insert_of_notMem (notMem_up_of_torAgg htype a)]

omit hw in
lemma detach_aggCore (htype : topo.fabric.getLinkType l = .AGG_CORE) (hD : l ∉ D) :
    Attached topo.fabric topo.aggSwitches
      (Function.update topo.numActiveUplinks (topo.fabric.agg l)
        (topo.numActiveUplinks (topo.fabric.agg l) - 1)) (insert l D) := by
  have hmem : l ∈ topo.fabric.tiers.up (topo.fabric.agg l) \ D :=
    Finset.mem_sdiff.mpr ⟨mem_up.mpr ⟨⟨hl, htype⟩, rfl⟩, hD⟩
  refine ⟨fun t ht => ?_, fun a ha => ?_⟩
  · rw [hat.aggSwitches t ht, TwoTier.sdiff_insert_of_notMem (notMem_low_of_aggCore htype t)]
  · by_cases hto : a = topo.fabric.agg l
    · subst hto
      rw [Function.update_self, hat.numActiveUplinks _ ha, Finset.sdiff_insert,
        Finset.card_erase_of_mem hmem, Nat.cast_pred (Finset.card_pos.mpr ⟨l, hmem⟩)]
    · rw [Function.update_of_ne hto, hat.numActiveUplinks a ha,
        TwoTier.sdiff_insert_of_notMem fun h => hto (mem_up.mp h).2.symm]

variable (topo) in
/-- The switches of a link that is disabled know that it is gone. -/
lemma detachSwitches_eq (hD : l ∉ D) : ∃ aggSwitches numActiveUplinks,
    topo.detachSwitches l = some { topo with
      aggSwitches := aggSwitches
      numActiveUplinks := numActiveUplinks } ∧
      Attached topo.fabric aggSwitches numActiveUplinks (insert l D) := by
  have htypes := getSwitchPairTypes_eq hw hl
  have hagg := hw.agg_type l hl
  unfold detachSwitches
  cases htype : topo.fabric.getLinkType l with
  | TOR_AGG =>
    rw [htype] at htypes
    have htor := hw.outer_tor hl htype
    obtain ⟨hmem, hat'⟩ := detach_torAgg hw hat hl htype hD
    refine ⟨_, _, ?_, hat'⟩
    rw [htypes, if_pos rfl, connectedSwitch_outer htor, hw.connectedSwitch_agg hl]
    simp [removeAggSwitchFromTor, guard, htor, hagg, listRemove, hmem]
  | AGG_CORE =>
    rw [htype] at htypes
    refine ⟨_, _, ?_, detach_aggCore hat hl htype hD⟩
    rw [htypes, if_neg (by decide), if_pos rfl, hw.connectedSwitch_agg hl]
    simp [decrementNumActiveUplinks, guard, hagg]

omit hw in
lemma attach_torAgg (htype : topo.fabric.getLinkType l = .TOR_AGG) (hD : l ∈ D) :
    Attached topo.fabric (Function.update topo.aggSwitches (topo.fabric.outer l)
      (topo.aggSwitches (topo.fabric.outer l) ++ [topo.fabric.agg l]))
      topo.numActiveUplinks (D.erase l) := by
  have hlow : l ∈ topo.fabric.tiers.low (topo.fabric.outer l) := mem_low.mpr ⟨⟨hl, htype⟩, rfl⟩
  refine ⟨fun t ht => ?_, fun a ha => ?_⟩
  · by_cases hto : t = topo.fabric.outer l
    · subst hto
      rw [Function.update_self, ← Multiset.coe_add, hat.aggSwitches _ ht, Finset.sdiff_erase hlow,
        Finset.insert_val_of_notMem fun h => (Finset.mem_sdiff.mp h).2 hD, Multiset.map_cons,
        add_comm]
      rfl
    · rw [Function.update_of_ne hto, hat.aggSwitches t ht,
        sdiff_erase_of_notMem fun h => hto (mem_low.mp h).2.symm]
  · rw [hat.numActiveUplinks a ha, sdiff_erase_of_notMem (notMem_up_of_torAgg htype a)]

omit hw in
lemma attach_aggCore (htype : topo.fabric.getLinkType l = .AGG_CORE) (hD : l ∈ D) :
    Attached topo.fabric topo.aggSwitches
      (Function.update topo.numActiveUplinks (topo.fabric.agg l)
        (topo.numActiveUplinks (topo.fabric.agg l) + 1)) (D.erase l) := by
  have hup : l ∈ topo.fabric.tiers.up (topo.fabric.agg l) := mem_up.mpr ⟨⟨hl, htype⟩, rfl⟩
  refine ⟨fun t ht => ?_, fun a ha => ?_⟩
  · rw [hat.aggSwitches t ht, sdiff_erase_of_notMem (notMem_low_of_aggCore htype t)]
  · by_cases hto : a = topo.fabric.agg l
    · subst hto
      rw [Function.update_self, hat.numActiveUplinks _ ha, Finset.sdiff_erase hup,
        Finset.card_insert_of_notMem fun h => (Finset.mem_sdiff.mp h).2 hD, Nat.cast_succ]
    · rw [Function.update_of_ne hto, hat.numActiveUplinks a ha,
        sdiff_erase_of_notMem fun h => hto (mem_up.mp h).2.symm]

variable (topo) in
/-- The switches of a link that is enabled know that it is back. -/
lemma attachSwitches_eq (hD : l ∈ D) : ∃ aggSwitches numActiveUplinks,
    topo.attachSwitches l = some { topo with
      aggSwitches := aggSwitches
      numActiveUplinks := numActiveUplinks } ∧
      Attached topo.fabric aggSwitches numActiveUplinks (D.erase l) := by
  have htypes := getSwitchPairTypes_eq hw hl
  have hagg := hw.agg_type l hl
  unfold attachSwitches
  cases htype : topo.fabric.getLinkType l with
  | TOR_AGG =>
    rw [htype] at htypes
    have htor := hw.outer_tor hl htype
    refine ⟨_, _, ?_, attach_torAgg hat hl htype hD⟩
    rw [htypes, if_pos rfl, connectedSwitch_outer htor, hw.connectedSwitch_agg hl]
    simp [addAggSwitchToTor, guard, htor, hagg]
  | AGG_CORE =>
    rw [htype] at htypes
    refine ⟨_, _, ?_, attach_aggCore hat hl htype hD⟩
    rw [htypes, if_neg (by decide), if_pos rfl, hw.connectedSwitch_agg hl]
    simp [incrementNumActiveUplinks, guard, hagg]

/-! ## The paths of the ToRs below the link -/

variable (topo) in
/-- Only the ToRs below the link are counted again. -/
lemma updateNumPathsToCore_eq : ∃ numPathsToCore,
    topo.updateNumPathsToCore l = some { topo with numPathsToCore := numPathsToCore } ∧
      ∀ t, numPathsToCore t = if t ∈ topo.fabric.linkIdToAffectedTors l then
        (topo.fabric.tiers.paths t D : ℤ) else topo.numPathsToCore t := by
  suffices hloop : ∃ topo', topo.updateNumPathsToCore l = some topo' ∧
      ∃ num, topo' = { topo with numPathsToCore := num } ∧
        ∀ t, num t = if t ∈ setToList (topo.fabric.linkIdToAffectedTors l) then
          (topo.fabric.tiers.paths t D : ℤ) else topo.numPathsToCore t by
    obtain ⟨topo', hloop, num, rfl, hnum⟩ := hloop
    simp only [mem_setToList] at hnum
    exact ⟨num, hloop, hnum⟩
  -- the ToRs that are done have the new count, and what is counted does not depend on the counts
  refine Loop.total (P := fun done (s : Topology) =>
    ∃ num, s = { topo with numPathsToCore := num } ∧
      ∀ t, num t = if t ∈ done then (topo.fabric.tiers.paths t D : ℤ) else topo.numPathsToCore t)
    ⟨topo.numPathsToCore, rfl, fun t => rfl⟩ fun pre t post s hxs hP => ?_
  obtain ⟨num, rfl, hnum⟩ := hP
  have hmem : t ∈ topo.fabric.linkIdToAffectedTors l := by
    rw [← mem_setToList, hxs]
    exact List.mem_append_right _ List.mem_cons_self
  have htor := hw.tor_of_onPath ((hw.affectedTors l hl t).mp hmem)
  have hcount : getCurrNumPathsToCore { topo with numPathsToCore := num } t =
      some (topo.fabric.tiers.paths t D : ℤ) :=
    getCurrNumPathsToCore_eq hw ⟨hat.aggSwitches, hat.numActiveUplinks⟩ htor
  refine ⟨_, ?_, Function.update num t (topo.fabric.tiers.paths t D), rfl, fun t' => ?_⟩
  · show Option.bind (getCurrNumPathsToCore _ t) _ = _
    rw [hcount]
    rfl
  · by_cases ht : t' = t
    · subst ht
      rw [Function.update_self, if_pos (List.mem_append_right _ (List.mem_singleton_self _))]
    · rw [Function.update_of_ne ht, hnum t']
      simp only [List.mem_append, List.mem_singleton, ht, or_false]

end Switches

/-! ## LinkGuardian on the link -/

lemma setEdge_self {α : Type} (m : Sym2 ℕ → α) (e : Sym2 ℕ) : setEdge m e (m e) = m := by
  funext e'
  unfold setEdge
  split
  · next h => rw [h]
  · rfl

/-- LinkGuardian is off on the link, and its ports are not counted any more. -/
lemma disableLinkguardian_eq (topo : Topology) {enabled enabled' : ℕ → Bool}
    (hw : topo.fabric.Wired) (hl : l ∈ topo.fabric.links)
    (hports : PortsExact topo.fabric enabled topo.lgPortsPerPipe)
    (hheap : PortsHeap topo.fabric topo.lgPortsPerPipe topo.topLgPortsPerPipeHeap)
    (henabled : topo.getLinkguardianEnabled l = enabled l) (hoff : enabled' l = false)
    (hother : ∀ m ∈ topo.fabric.links, m ≠ l → enabled' m = enabled m) : ∃ ports heap,
    topo.disableLinkguardian l = some { topo with
      linkStates := setEdge topo.linkStates (topo.fabric.edgeOf l)
        { topo.link l with lgEnabled := false }
      lgPortsPerPipe := ports
      topLgPortsPerPipeHeap := heap } ∧
      PortsExact topo.fabric enabled' ports ∧ PortsHeap topo.fabric ports heap := by
  unfold disableLinkguardian
  cases hon : topo.getLinkguardianEnabled l with
  | true =>
    obtain ⟨ports, heap, heq, hports', hheap'⟩ :=
      decrBoth_eq topo hw hl hheap hports (henabled ▸ hon) hoff hother
    refine ⟨ports, heap, ?_, hports', hheap'⟩
    show (Option.bind (decrLgPortsPerPipe topo (topo.fabric.outer l) l) fun topo =>
      Option.bind (decrLgPortsPerPipe topo (topo.fabric.agg l) l) fun topo =>
        some (topo.setLink l fun a => { a with lgEnabled := false })) = _
    rw [← Option.bind_assoc, heq]
    rfl
  | false =>
    have hlink : { topo.link l with lgEnabled := false } = topo.link l := by
      rw [← hon]
      rfl
    refine ⟨topo.lgPortsPerPipe, topo.topLgPortsPerPipeHeap, ?_, hports.congr fun m hm => ?_, hheap⟩
    · rw [hlink, link, setEdge_self]
      rfl
    · by_cases hml : m = l
      · rw [hml, hoff, ← henabled, hon]
      · exact hother m hm hml

end Topology

/-! ## Disabling a link -/

/-- What disabling a link changes.  What LinkGuardian had set on the link is taken back, but for its
effective loss rate and capacity, which nothing counts any more. -/
structure Disabled (topo : Topology) (l : ℕ) (topo' : Topology) : Prop where
  set : LinkSet topo l { topo.link l with disabled := true, lgEnabled := false } topo'
  disabledLinks : topo'.disabledLinks = insert l topo.disabledLinks
  corruptingLinks : topo'.corruptingLinks = topo.corruptingLinks.erase l
  attached : Attached topo.fabric topo'.aggSwitches topo'.numActiveUplinks
    (insert l topo.disabledLinks)
  numPathsToCore : ∀ t, topo'.numPathsToCore t =
    if t ∈ topo.fabric.linkIdToAffectedTors l then
      (topo.fabric.tiers.paths t (insert l topo.disabledLinks) : ℤ)
    else topo.numPathsToCore t
  totalLossRate : topo'.totalLossRate = topo.totalLossRate - topo.getLinkLossRate l
  totalEffectiveLossRate : topo'.totalEffectiveLossRate =
    topo.totalEffectiveLossRate - topo.getLinkEffectiveLossRate l
  perPodCapacity : ∀ pod type, topo'.perPodCapacity pod type = topo.perPodCapacity pod type +
    if topo.fabric.linkIdToPodId l = pod ∧ (topo.fabric.getLinkType l).podCapacityType = type then
      -topo.getEffectiveLinkCapacity l
    else 0
  topLossRates : Heapq.items topo'.topLossRatesHeap =
    (Heapq.items topo.topLossRatesHeap).erase (topo.getLinkLossRate l)
  lgPorts : PortsExact topo.fabric
    (fun m => if m = l then false else topo.getLinkguardianEnabled m) topo'.lgPortsPerPipe
  lgPortsHeap : PortsHeap topo.fabric topo'.lgPortsPerPipe topo'.topLgPortsPerPipeHeap

open LinkGuardian.Simulator.Topology

/-- **A corrupting link can be disabled.**  Nothing is asked of the capacity constraint: that is up
to the solution that disables it. -/
theorem Coherent.disableLink {topo : Topology} {l : ℕ} (h : Coherent topo)
    (hl : l ∈ topo.corruptingLinks) :
    ∃ topo', topo.disableLink l = some topo' ∧ Disabled topo l topo' := by
  have hlinks := h.corrupting_subset hl
  have hD := (Coherent.mem_enabledLinks.mp (h.enabled_of_corrupting hl)).2
  have hrate : topo.getLinkLossRate l ∈ Heapq.items topo.topLossRatesHeap := by
    rw [h.topLossRates]
    exact Multiset.mem_cons_of_mem (Multiset.mem_map_of_mem _ hl)
  obtain ⟨rates, hrates⟩ := Heapq.remove_isSome hrate
  -- the topology between the steps of the source
  let marked : Topology := { topo.setLink l fun a => { a with disabled := true } with
    disabledLinks := insert l topo.disabledLinks
    corruptingLinks := topo.corruptingLinks.erase l }
  let base : Topology := { marked with
    topLossRatesHeap := Heapq.heapify (· < ·) rates
    totalLossRate := topo.totalLossRate - topo.getLinkLossRate l
    totalEffectiveLossRate := topo.totalEffectiveLossRate - marked.getLinkEffectiveLossRate l }
  have hlink : marked.link l = { topo.link l with disabled := true } := if_pos rfl
  have hremove : marked.removeFromTopLossRates (topo.getLinkLossRate l) =
      some { marked with topLossRatesHeap := Heapq.heapify (· < ·) rates } := by
    show Option.bind (Heapq.remove topo.topLossRatesHeap _) _ = _
    rw [hrates]
    rfl
  obtain ⟨aggs, uplinks, hdetach, hat⟩ := detachSwitches_eq base h.wired
    ⟨h.attached.aggSwitches, h.attached.numActiveUplinks⟩ hlinks hD
  let detached : Topology := { base with aggSwitches := aggs, numActiveUplinks := uplinks }
  obtain ⟨num, hupdate, hnum⟩ := updateNumPathsToCore_eq detached h.wired hat hlinks
  let counted : Topology := { detached with numPathsToCore := num }
  have henabled : (counted.updatePodCapacityOnLinkStatusChange l false).getLinkguardianEnabled l =
      topo.getLinkguardianEnabled l := by
    show (marked.link l).lgEnabled = _
    rw [hlink]
    rfl
  obtain ⟨ports, heap, hoff, hports, hheap⟩ := disableLinkguardian_eq
    (counted.updatePodCapacityOnLinkStatusChange l false) h.wired hlinks h.lgPorts h.lgPortsHeap
    henabled (if_pos rfl : (fun m => if m = l then false else topo.getLinkguardianEnabled m) l = _)
    fun m _ hne => if_neg hne
  refine ⟨_, Option.bind_eq_some_iff.mpr ⟨(), if_pos hl, Option.bind_eq_some_iff.mpr ⟨_, hremove,
    Option.bind_eq_some_iff.mpr ⟨_, hdetach, Option.bind_eq_some_iff.mpr ⟨_, hupdate, hoff⟩⟩⟩⟩,
    ⟨rfl, ?_⟩, rfl, rfl, hat, hnum, rfl, ?_, fun pod type => ?_, ?_, hports, hheap⟩
  · show setEdge (setEdge _ _ _) _ { marked.link l with lgEnabled := false } = _
    rw [hlink]
    exact setEdge_setEdge _ _ _ _
  · show topo.totalEffectiveLossRate - (marked.link l).effectiveLossRate = _
    rw [hlink]
    rfl
  · show (counted.addPodCapacity l (-(marked.link l).effectiveCapacity)).perPodCapacity pod type = _
    rw [perPodCapacity_addPodCapacity, hlink]
    rfl
  · show Heapq.items (Heapq.heapify _ rates) = _
    rw [Heapq.items_heapify, (Heapq.items_remove hrates).2]

/-- The ToRs that are not below the link keep their paths. -/
lemma Coherent.numPathsToCore_of_affected {topo topo' : Topology} {l : ℕ} (h : Coherent topo)
    (hlinks : l ∈ topo.fabric.links) (hf : topo'.fabric = topo.fabric)
    (hD : insert l topo'.disabledLinks = insert l topo.disabledLinks)
    (hnum : ∀ t, topo'.numPathsToCore t = if t ∈ topo.fabric.linkIdToAffectedTors l then
      (topo.fabric.tiers.paths t topo'.disabledLinks : ℤ) else topo.numPathsToCore t) :
    ∀ t ∈ topo'.fabric.switchTypewiseList .TOR,
      topo'.numPathsToCore t = topo'.fabric.tiers.paths t topo'.disabledLinks := by
  intro t ht
  rw [hf] at ht ⊢
  rw [hnum]
  split
  · rfl
  · next hnot =>
    have hpath : ¬ topo.fabric.tiers.OnPath l t := fun hp =>
      hnot ((h.wired.affectedTors l hlinks t).mpr hp)
    -- such a ToR has the same paths with the link and without it
    rw [h.numPathsToCore t ht, ← TwoTier.paths_insert _ topo.disabledLinks hpath, ← hD,
      TwoTier.paths_insert _ _ hpath]

/-- **Disabling a link keeps the topology coherent.** -/
theorem Disabled.coherent {topo topo' : Topology} {l : ℕ} (h : Coherent topo)
    (hl : l ∈ topo.corruptingLinks) (hd : Disabled topo l topo') : Coherent topo' := by
  have hlinks := h.corrupting_subset hl
  have hD := (Coherent.mem_enabledLinks.mp (h.enabled_of_corrupting hl)).2
  have hsame : ∀ m, m ≠ l → (m ∈ topo'.disabledLinks ↔ m ∈ topo.disabledLinks) := fun m hne => by
    rw [hd.disabledLinks, Finset.mem_insert, or_iff_right hne]
  have hgone : l ∈ topo'.disabledLinks := by
    rw [hd.disabledLinks]
    exact Finset.mem_insert_self l _
  have hf := hd.set.fabric
  constructor
  case wired => exact hf ▸ h.wired
  case disabled_subset =>
    rw [hf, hd.disabledLinks]
    exact Finset.insert_subset hlinks h.disabled_subset
  case corrupting_subset =>
    rw [hf, hd.corruptingLinks]
    exact (Finset.erase_subset _ _).trans h.corrupting_subset
  case disjoint =>
    rw [hd.disabledLinks, hd.corruptingLinks, Finset.disjoint_insert_left]
    exact ⟨Finset.notMem_erase l _, h.disjoint.mono_right (Finset.erase_subset _ _)⟩
  case disabled => exact hd.set.isLinkDisabled_iff h hlinks (iff_of_true rfl hgone) hsame
  case attached => exact hf ▸ hd.disabledLinks ▸ hd.attached
  case numPathsToCore =>
    refine h.numPathsToCore_of_affected hlinks hf ?_ fun t => ?_
    · rw [hd.disabledLinks, Finset.insert_idem]
    · rw [hd.disabledLinks, hd.numPathsToCore]
  case totalLossRate =>
    rw [hd.totalLossRate, h.totalLossRate, enabledLinks, enabledLinks, hf, hd.disabledLinks,
      sum_sdiff_insert hlinks hD (hd.set.getLinkLossRate h.wired hlinks), add_sub_assoc]
  case totalEffectiveLossRate =>
    rw [hd.totalEffectiveLossRate, h.totalEffectiveLossRate, enabledLinks, enabledLinks, hf,
      hd.disabledLinks,
      sum_sdiff_insert hlinks hD (hd.set.getLinkEffectiveLossRate h.wired hlinks), add_sub_assoc]
  case perPodCapacity =>
    intro pod type
    have hcap := hd.set.getEffectiveLinkCapacity h.wired hlinks pod type
    rw [hd.perPodCapacity, h.perPodCapacity, hf]
    refine sum_linksOfPod hlinks hsame hcap fun hmem => ?_
    rw [hd.disabledLinks, sum_sdiff_insert hmem hD hcap, sub_eq_add_neg]
  case plain =>
    exact hd.set.plain h hlinks
      (fun hen => absurd hgone (Coherent.mem_enabledLinks.mp hen).2) hsame
  case lgEnabled =>
    refine hd.set.lgEnabled h hlinks (fun hon => by cases hon) fun m hne hm => ?_
    rw [hd.corruptingLinks]
    exact Finset.mem_erase.mpr ⟨hne, hm⟩
  -- the rate of the link left the heap; the old rates of the others are unchanged
  case topLossRates =>
    have hrest := hd.set.map_getLinkLossRate h.wired hlinks
      ((Finset.erase_subset l _).trans h.corrupting_subset) (Finset.notMem_erase l _)
    rw [hd.topLossRates, h.topLossRates, hd.corruptingLinks, hrest, Finset.erase_val,
      ← Multiset.cons_erase (Finset.mem_val.mpr hl), Multiset.map_cons, Multiset.cons_swap,
      Multiset.erase_cons_head, Multiset.erase_cons_head]
  case lgPorts =>
    rw [hf]
    exact hd.lgPorts.congr fun m hm => hd.set.getLinkguardianEnabled h.wired hlinks hm
  case lgPortsHeap => exact hf ▸ hd.lgPortsHeap

/-! ## Enabling a link -/

/-- What enabling a link changes.  The link starts again with its initial attributes, whatever it
had when it was disabled. -/
structure Enabled (topo : Topology) (l : ℕ) (topo' : Topology) : Prop where
  set : LinkSet topo l { topo.link l with
    effectiveCapacity := topo.fabric.getLinkCapacity l
    lossRate := initialLinkLossRate
    effectiveLossRate := initialLinkLossRate
    disabled := false } topo'
  disabledLinks : topo'.disabledLinks = topo.disabledLinks.erase l
  corruptingLinks : topo'.corruptingLinks = topo.corruptingLinks
  attached : Attached topo.fabric topo'.aggSwitches topo'.numActiveUplinks
    (topo.disabledLinks.erase l)
  numPathsToCore : ∀ t, topo'.numPathsToCore t =
    if t ∈ topo.fabric.linkIdToAffectedTors l then
      (topo.fabric.tiers.paths t (topo.disabledLinks.erase l) : ℤ)
    else topo.numPathsToCore t
  totalLossRate : topo'.totalLossRate = topo.totalLossRate + initialLinkLossRate
  totalEffectiveLossRate :
    topo'.totalEffectiveLossRate = topo.totalEffectiveLossRate + initialLinkLossRate
  perPodCapacity : ∀ pod type, topo'.perPodCapacity pod type = topo.perPodCapacity pod type +
    if topo.fabric.linkIdToPodId l = pod ∧ (topo.fabric.getLinkType l).podCapacityType = type then
      topo.fabric.getLinkCapacity l
    else 0
  topLossRatesHeap : topo'.topLossRatesHeap = topo.topLossRatesHeap
  lgPortsPerPipe : topo'.lgPortsPerPipe = topo.lgPortsPerPipe
  topLgPortsPerPipeHeap : topo'.topLgPortsPerPipeHeap = topo.topLgPortsPerPipeHeap

/-- **A disabled link can be enabled.**  A link that is not disabled would raise, at the removal
from the set. -/
theorem Coherent.enableLink {topo : Topology} {l : ℕ} (h : Coherent topo)
    (hl : l ∈ topo.disabledLinks) :
    ∃ topo', topo.enableLink l = some topo' ∧ Enabled topo l topo' := by
  have hlinks := h.disabled_subset hl
  let reset : Topology :=
    ((topo.resetLossRate l).resetEffectiveLinkCapacity l).setLink l
      fun a => { a with disabled := false }
  let base : Topology := { reset with
    disabledLinks := topo.disabledLinks.erase l
    totalLossRate := topo.totalLossRate + initialLinkLossRate
    totalEffectiveLossRate := topo.totalEffectiveLossRate + initialLinkLossRate }
  have hlink : LinkSet topo l { topo.link l with
      effectiveCapacity := topo.fabric.getLinkCapacity l
      lossRate := initialLinkLossRate
      effectiveLossRate := initialLinkLossRate
      disabled := false } reset := by
    have hreset : reset = topo.setLink l fun a => { a with
        effectiveCapacity := topo.fabric.getLinkCapacity l
        lossRate := initialLinkLossRate
        effectiveLossRate := initialLinkLossRate
        disabled := false } := by
      show ((topo.setLink l _).setLink l _).setLink l _ = _
      rw [setLink_setLink, setLink_setLink]
      rfl
    rw [hreset]
    exact ⟨rfl, rfl⟩
  obtain ⟨aggs, uplinks, hattach, hat⟩ := attachSwitches_eq base h.wired
    ⟨h.attached.aggSwitches, h.attached.numActiveUplinks⟩ hlinks hl
  let attached : Topology := { base with aggSwitches := aggs, numActiveUplinks := uplinks }
  obtain ⟨num, hupdate, hnum⟩ := updateNumPathsToCore_eq attached h.wired hat hlinks
  let counted : Topology := { attached with numPathsToCore := num }
  refine ⟨_, Option.bind_eq_some_iff.mpr ⟨(), if_pos hl, Option.bind_eq_some_iff.mpr ⟨_, hattach,
    Option.bind_eq_some_iff.mpr ⟨_, hupdate, rfl⟩⟩⟩, ⟨rfl, hlink.linkStates⟩, rfl, rfl, hat, hnum,
    rfl, rfl, fun pod type => ?_, rfl, rfl, rfl⟩
  show (counted.addPodCapacity l (reset.link l).effectiveCapacity).perPodCapacity pod type = _
  rw [perPodCapacity_addPodCapacity, hlink.link_self]
  rfl

/-- **Enabling a link keeps the topology coherent.** -/
theorem Enabled.coherent {topo topo' : Topology} {l : ℕ} (h : Coherent topo)
    (hl : l ∈ topo.disabledLinks) (he : Enabled topo l topo') : Coherent topo' := by
  have hlinks := h.disabled_subset hl
  have hc : l ∉ topo.corruptingLinks := Finset.disjoint_left.mp h.disjoint hl
  have hoff := h.lgEnabled_eq_false hlinks hc
  have hself := he.set.link_self
  have hsame : ∀ m, m ≠ l → (m ∈ topo'.disabledLinks ↔ m ∈ topo.disabledLinks) := fun m hne => by
    rw [he.disabledLinks, Finset.mem_erase, and_iff_right hne]
  have hback : l ∉ topo'.disabledLinks := by
    rw [he.disabledLinks]
    exact Finset.notMem_erase l _
  have hf := he.set.fabric
  constructor
  case wired => exact hf ▸ h.wired
  case disabled_subset =>
    rw [hf, he.disabledLinks]
    exact (Finset.erase_subset _ _).trans h.disabled_subset
  case corrupting_subset =>
    rw [hf, he.corruptingLinks]
    exact h.corrupting_subset
  case disjoint =>
    rw [he.disabledLinks, he.corruptingLinks]
    exact h.disjoint.mono_left (Finset.erase_subset _ _)
  case disabled =>
    exact he.set.isLinkDisabled_iff h hlinks (iff_of_false Bool.false_ne_true hback) hsame
  case attached => exact hf ▸ he.disabledLinks ▸ he.attached
  -- the ToRs below the link were counted again, and no other ToR has a path over it
  case numPathsToCore =>
    refine h.numPathsToCore_of_affected hlinks hf ?_ fun t => ?_
    · rw [he.disabledLinks, Finset.insert_erase hl, Finset.insert_eq_of_mem hl]
    · rw [he.disabledLinks, he.numPathsToCore]
  case totalLossRate =>
    rw [he.totalLossRate, h.totalLossRate, enabledLinks, enabledLinks, hf, he.disabledLinks,
      sum_sdiff_erase hlinks hl (he.set.getLinkLossRate h.wired hlinks), add_assoc]
    exact congrArg (_ + ·) (congrArg (_ + ·) (congrArg LinkState.lossRate hself).symm)
  case totalEffectiveLossRate =>
    rw [he.totalEffectiveLossRate, h.totalEffectiveLossRate, enabledLinks, enabledLinks, hf,
      he.disabledLinks,
      sum_sdiff_erase hlinks hl (he.set.getLinkEffectiveLossRate h.wired hlinks), add_assoc]
    exact congrArg (_ + ·) (congrArg (_ + ·) (congrArg LinkState.effectiveLossRate hself).symm)
  -- the link counts with the capacity that it was reset to, in its pod and for its type alone
  case perPodCapacity =>
    intro pod type
    have hcap := he.set.getEffectiveLinkCapacity h.wired hlinks pod type
    rw [he.perPodCapacity, h.perPodCapacity, hf]
    refine sum_linksOfPod hlinks hsame hcap fun hmem => ?_
    rw [he.disabledLinks, sum_sdiff_erase hmem hl hcap]
    exact congrArg (_ + ·) (congrArg LinkState.effectiveCapacity hself)
  case plain => exact he.set.plain h hlinks (fun _ _ => ⟨rfl, rfl⟩) hsame
  case lgEnabled =>
    have hnone : (topo.link l).lgEnabled ≠ true := Bool.eq_false_iff.mp hoff
    refine he.set.lgEnabled h hlinks (fun hon => absurd hon hnone) fun m _ hm => ?_
    exact he.corruptingLinks ▸ hm
  case topLossRates =>
    rw [he.topLossRatesHeap, he.corruptingLinks, h.topLossRates,
      he.set.map_getLinkLossRate h.wired hlinks h.corrupting_subset hc]
  case lgPorts =>
    rw [hf, he.lgPortsPerPipe]
    refine h.lgPorts.congr fun m hm => ?_
    rw [he.set.getLinkguardianEnabled h.wired hlinks hm]
    split
    · next hml => exact hml ▸ rfl
    · rfl
  case lgPortsHeap =>
    rw [hf, he.lgPortsPerPipe, he.topLgPortsPerPipeHeap]
    exact h.lgPortsHeap

end LinkGuardian.Simulator
