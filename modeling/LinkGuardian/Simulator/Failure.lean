import LinkGuardian.Simulator.Toggle

/-!
# Failures of a link

What a failure changes about an enabled link, first in `recordFailure` and then in the reaction
of LinkGuardian.  Both leave the switches and the paths alone: the link is `Touched`, and a
touched topology is coherent again.
-/

namespace LinkGuardian.Simulator

open Removal Fabric LinkGuardian.Simulator.Topology

/-- An enabled link is corrupting and has new attributes.  A failure and the activation of
LinkGuardian are both of this kind, with different attributes, so one proof serves both. -/
structure Touched (topo : Topology) (l : ℕ) (v : LinkState) (topo' : Topology) : Prop where
  set : LinkSet topo l v topo'
  enabled : v.disabled = false
  disabledLinks : topo'.disabledLinks = topo.disabledLinks
  corruptingLinks : topo'.corruptingLinks = insert l topo.corruptingLinks
  aggSwitches : topo'.aggSwitches = topo.aggSwitches
  numActiveUplinks : topo'.numActiveUplinks = topo.numActiveUplinks
  numPathsToCore : topo'.numPathsToCore = topo.numPathsToCore
  totalLossRate : topo'.totalLossRate = topo.totalLossRate - topo.getLinkLossRate l + v.lossRate
  totalEffectiveLossRate : topo'.totalEffectiveLossRate =
    topo.totalEffectiveLossRate - topo.getLinkEffectiveLossRate l + v.effectiveLossRate
  perPodCapacity : ∀ pod type, topo'.perPodCapacity pod type = topo.perPodCapacity pod type +
    if topo.fabric.linkIdToPodId l = pod ∧ (topo.fabric.getLinkType l).podCapacityType = type then
      v.effectiveCapacity - topo.getEffectiveLinkCapacity l
    else 0
  plain : v.lgEnabled = false → v.effectiveLossRate = v.lossRate ∧
    v.effectiveCapacity = topo.fabric.getLinkCapacity l
  topLossRates : Heapq.items topo'.topLossRatesHeap = v.lossRate ::ₘ initialLinkLossRate ::ₘ
    (topo.corruptingLinks.erase l).val.map topo.getLinkLossRate
  lgPorts : PortsExact topo.fabric
    (fun m => if m = l then v.lgEnabled else topo.getLinkguardianEnabled m) topo'.lgPortsPerPipe
  lgPortsHeap : PortsHeap topo.fabric topo'.lgPortsPerPipe topo'.topLgPortsPerPipeHeap

/-- The heap has the new rate of the link and the old ones of the others. -/
lemma Touched.topLossRates_eq {topo topo' : Topology} {l : ℕ} {v : LinkState} (h : Coherent topo)
    (hlinks : l ∈ topo.fabric.links) (ht : Touched topo l v topo') :
    Heapq.items topo'.topLossRatesHeap =
      initialLinkLossRate ::ₘ topo'.corruptingLinks.val.map topo'.getLinkLossRate := by
  have hnew : topo'.getLinkLossRate l = v.lossRate := congrArg LinkState.lossRate ht.set.link_self
  have hrest := ht.set.map_getLinkLossRate h.wired hlinks
    ((Finset.erase_subset l _).trans h.corrupting_subset) (Finset.notMem_erase l _)
  have hinsert : insert l topo.corruptingLinks = insert l (topo.corruptingLinks.erase l) := by
    rw [← Finset.erase_insert_eq_erase, Finset.insert_erase (Finset.mem_insert_self l _)]
  rw [ht.topLossRates, ht.corruptingLinks, hinsert,
    Finset.insert_val_of_notMem (Finset.notMem_erase l _), Multiset.map_cons, hnew, hrest,
    Multiset.cons_swap]

/-- **A touched topology is coherent again.**  Each aggregate is corrected by the difference that
the link makes to it. -/
theorem Touched.coherent {topo topo' : Topology} {l : ℕ} {v : LinkState} (h : Coherent topo)
    (hl : l ∈ topo.enabledLinks) (ht : Touched topo l v topo') : Coherent topo' := by
  obtain ⟨hlinks, hD⟩ := Coherent.mem_enabledLinks.mp hl
  have hself := ht.set.link_self
  have hsame : ∀ m, m ≠ l → (m ∈ topo'.disabledLinks ↔ m ∈ topo.disabledLinks) := fun m _ => by
    rw [ht.disabledLinks]
  have hf := ht.set.fabric
  constructor
  case wired => exact hf ▸ h.wired
  case disabled_subset =>
    rw [hf, ht.disabledLinks]
    exact h.disabled_subset
  case corrupting_subset =>
    rw [hf, ht.corruptingLinks]
    exact Finset.insert_subset hlinks h.corrupting_subset
  case disjoint =>
    rw [ht.disabledLinks, ht.corruptingLinks, Finset.disjoint_insert_right]
    exact ⟨hD, h.disjoint⟩
  case disabled =>
    refine ht.set.isLinkDisabled_iff h hlinks ?_ hsame
    rw [ht.enabled, ht.disabledLinks]
    exact iff_of_false Bool.false_ne_true hD
  case attached =>
    rw [hf, ht.disabledLinks, ht.aggSwitches, ht.numActiveUplinks]
    exact h.attached
  case numPathsToCore =>
    rw [hf, ht.disabledLinks, ht.numPathsToCore]
    exact h.numPathsToCore
  case totalLossRate =>
    rw [ht.totalLossRate, h.totalLossRate, enabledLinks, enabledLinks, hf, ht.disabledLinks,
      sum_sdiff_set hlinks hD (ht.set.getLinkLossRate h.wired hlinks), add_sub_assoc, add_assoc]
    exact congrArg (_ + ·) (congrArg (_ + ·) (congrArg LinkState.lossRate hself).symm)
  case totalEffectiveLossRate =>
    rw [ht.totalEffectiveLossRate, h.totalEffectiveLossRate, enabledLinks, enabledLinks, hf,
      ht.disabledLinks, sum_sdiff_set hlinks hD (ht.set.getLinkEffectiveLossRate h.wired hlinks),
      add_sub_assoc, add_assoc]
    exact congrArg (_ + ·) (congrArg (_ + ·) (congrArg LinkState.effectiveLossRate hself).symm)
  case perPodCapacity =>
    intro pod type
    have hcap := ht.set.getEffectiveLinkCapacity h.wired hlinks pod type
    rw [ht.perPodCapacity, h.perPodCapacity, hf]
    refine sum_linksOfPod hlinks hsame hcap fun hmem => ?_
    have hnew : topo'.getEffectiveLinkCapacity l = v.effectiveCapacity :=
      congrArg LinkState.effectiveCapacity hself
    rw [ht.disabledLinks, sum_sdiff_set hmem hD hcap, hnew, add_sub, sub_add_eq_add_sub]
  case plain => exact ht.set.plain h hlinks (fun _ => ht.plain) hsame
  case lgEnabled =>
    refine ht.set.lgEnabled h hlinks (fun _ => ?_) fun m _ hm => ?_
    · rw [ht.corruptingLinks]
      exact Finset.mem_insert_self l _
    · rw [ht.corruptingLinks]
      exact Finset.mem_insert_of_mem hm
  -- a link that fails again is in the heap once, with its new rate
  case topLossRates => exact ht.topLossRates_eq h hlinks
  case lgPorts =>
    rw [hf]
    exact ht.lgPorts.congr fun m hm => ht.set.getLinkguardianEnabled h.wired hlinks hm
  case lgPortsHeap => exact hf ▸ ht.lgPortsHeap

/-! ## The failure -/

/-- The attributes of a link when a failure is recorded. -/
def LinkState.failed (a : LinkState) (lossRate : ℚ) : LinkState :=
  { a with
    lossRate := lossRate
    effectiveLossRate := if a.lgEnabled then a.effectiveLossRate else lossRate }

/-- The heap without the old rate of a link. -/
lemma heapWithoutOldLossRate_eq {topo : Topology} (h : Coherent topo) (l : ℕ) :
    ∃ heap, topo.heapWithoutOldLossRate l = some heap ∧ Heapq.items heap =
      initialLinkLossRate ::ₘ (topo.corruptingLinks.erase l).val.map topo.getLinkLossRate := by
  unfold heapWithoutOldLossRate
  by_cases hl : l ∈ topo.corruptingLinks
  · have hmem : topo.getLinkLossRate l ∈ Heapq.items topo.topLossRatesHeap := by
      rw [h.topLossRates]
      exact Multiset.mem_cons_of_mem (Multiset.mem_map_of_mem _ hl)
    obtain ⟨heap, hheap⟩ := Heapq.remove_isSome hmem
    refine ⟨Heapq.heapify (· < ·) heap, ?_, ?_⟩
    · rw [if_pos hl, hheap]
      rfl
    · rw [Heapq.items_heapify, (Heapq.items_remove hheap).2, h.topLossRates, Finset.erase_val,
        ← Multiset.cons_erase (Finset.mem_val.mpr hl), Multiset.map_cons, Multiset.cons_swap,
        Multiset.erase_cons_head, Multiset.erase_cons_head]
  · refine ⟨topo.topLossRatesHeap, if_neg hl, ?_⟩
    rw [h.topLossRates, Finset.erase_eq_of_notMem hl]

/-- A link without LinkGuardian has no other effective loss rate than its new loss rate, and one
with LinkGuardian keeps its own. -/
lemma effectiveLossRate_failed {topo : Topology} {l : ℕ} {lossRate : ℚ}
    (hdis : topo.isLinkDisabled l = false) (hrate : topo.getLinkLossRate l = lossRate) :
    (if topo.getLinkguardianEnabled l then some topo
      else topo.setLinkEffectiveLossRate l lossRate) = some { topo with
        linkStates := setEdge topo.linkStates (topo.fabric.edgeOf l)
          ((topo.link l).failed lossRate)
        totalEffectiveLossRate := topo.totalEffectiveLossRate - topo.getLinkEffectiveLossRate l +
          ((topo.link l).failed lossRate).effectiveLossRate } := by
  cases hon : topo.getLinkguardianEnabled l with
  | true =>
    have hlink : (topo.link l).lgEnabled = true := hon
    have hstate : (topo.link l).failed lossRate = topo.link l := by
      rw [LinkState.failed, if_pos hlink, ← hrate]
      rfl
    have htotal : topo.totalEffectiveLossRate - topo.getLinkEffectiveLossRate l +
        (topo.link l).effectiveLossRate = topo.totalEffectiveLossRate := sub_add_cancel _ _
    rw [if_pos rfl, hstate, htotal, link, setEdge_self]
  | false =>
    have hlink : (topo.link l).lgEnabled ≠ true := Bool.eq_false_iff.mp hon
    have hstate : (topo.link l).failed lossRate =
        { topo.link l with effectiveLossRate := lossRate } := by
      rw [LinkState.failed, if_neg hlink, ← hrate]
      rfl
    rw [if_neg Bool.false_ne_true, hstate]
    exact Option.bind_eq_some_iff.mpr ⟨(), if_pos hdis, rfl⟩

/-- **A failure of an enabled link can be recorded.**  It returns, and the attributes of the link
are those after the failure; what the solution does comes later. -/
theorem Coherent.recordFailure {topo : Topology} {l : ℕ} (h : Coherent topo)
    (hl : l ∈ topo.enabledLinks) (lossRate : ℚ) :
    ∃ topo', Simulation.recordFailure topo l lossRate = some topo' ∧
      Touched topo l ((topo.link l).failed lossRate) topo' := by
  obtain ⟨hlinks, hD⟩ := Coherent.mem_enabledLinks.mp hl
  obtain ⟨heap, hheap, hitems⟩ := heapWithoutOldLossRate_eq h l
  have hdis := h.isLinkDisabled_eq_false hl
  -- the topology after each of the three calls of the source
  let pushed : Topology := { topo with
    topLossRatesHeap := Heapq.heappush (· < ·) heap lossRate }
  let rated : Topology := { pushed.setLink l fun a => { a with lossRate := lossRate } with
    totalLossRate := topo.totalLossRate - topo.getLinkLossRate l + lossRate
    corruptingLinks := insert l topo.corruptingLinks }
  let failed : Topology := { rated with
    linkStates := setEdge topo.linkStates (topo.fabric.edgeOf l) ((topo.link l).failed lossRate)
    totalEffectiveLossRate := topo.totalEffectiveLossRate - topo.getLinkEffectiveLossRate l +
      ((topo.link l).failed lossRate).effectiveLossRate }
  have hlink : rated.link l = { topo.link l with lossRate := lossRate } := if_pos rfl
  have hpush : topo.recordLinkTopLossRates l lossRate = some pushed := by
    show Option.bind (topo.heapWithoutOldLossRate l) _ = _
    rw [hheap]
    rfl
  have hrate : pushed.setLinkLossRate l lossRate = some { rated with
      corruptingLinks := topo.corruptingLinks } :=
    Option.bind_eq_some_iff.mpr ⟨(), if_pos hdis, rfl⟩
  have hlast : (if rated.getLinkguardianEnabled l then some rated
      else rated.setLinkEffectiveLossRate l lossRate) = some failed := by
    have hdis' : rated.isLinkDisabled l = false := by
      rw [isLinkDisabled, hlink]
      exact hdis
    have hrate' : rated.getLinkLossRate l = lossRate := by rw [getLinkLossRate, hlink]
    have hstates : setEdge rated.linkStates (rated.fabric.edgeOf l)
        ((rated.link l).failed lossRate) =
          setEdge topo.linkStates (topo.fabric.edgeOf l) ((topo.link l).failed lossRate) := by
      rw [hlink]
      exact setEdge_setEdge _ _ _ _
    rw [effectiveLossRate_failed hdis' hrate', hstates, getLinkEffectiveLossRate, hlink]
    rfl
  refine ⟨failed, Option.bind_eq_some_iff.mpr ⟨_, hpush, Option.bind_eq_some_iff.mpr
    ⟨_, hrate, hlast⟩⟩, ⟨rfl, rfl⟩, hdis, rfl, rfl, rfl, rfl, rfl, rfl, rfl, fun pod type => ?_,
    fun hoff => ?_, ?_, ?_, h.lgPortsHeap⟩
  · -- a failure does not change the capacity of the link, so the pods keep theirs
    have hzero : ((topo.link l).failed lossRate).effectiveCapacity -
        topo.getEffectiveLinkCapacity l = 0 := sub_self _
    rw [hzero, ite_self, add_zero]
    rfl
  · have hcap := (h.plain l hl hoff).2
    have hoff : (topo.link l).lgEnabled = false := hoff
    rw [LinkState.failed, hoff]
    exact ⟨rfl, hcap⟩
  · show Heapq.items (Heapq.heappush _ heap lossRate) = _
    rw [Heapq.items_heappush, hitems]
    rfl
  · refine h.lgPorts.congr fun m hm => ?_
    split
    · next hml => exact hml ▸ rfl
    · rfl

/-! ## LinkGuardian on the link -/

lemma perPodCapacity_add_add (topo : Topology) (l : ℕ) (c d : ℚ) (pod : ℕ)
    (type : PodCapacityType) :
    ((topo.addPodCapacity l c).addPodCapacity l d).perPodCapacity pod type =
      topo.perPodCapacity pod type + if topo.fabric.linkIdToPodId l = pod ∧
        (topo.fabric.getLinkType l).podCapacityType = type then c + d else 0 := by
  rw [perPodCapacity_addPodCapacity, perPodCapacity_addPodCapacity, add_assoc]
  refine congrArg (topo.perPodCapacity pod type + ·) ?_
  show _ + (if topo.fabric.linkIdToPodId l = pod ∧
    (topo.fabric.getLinkType l).podCapacityType = type then d else 0) = _
  split
  · rfl
  · exact add_zero 0

/-- LinkGuardian is on, and its ports are counted. -/
lemma setLinkguardianEnabled_eq {topo : Topology} {l : ℕ} (h : Coherent topo)
    (hl : l ∈ topo.fabric.links) : ∃ ports heap,
    topo.setLinkguardianEnabled l =
      some { topo.setLink l fun a => { a with lgEnabled := true } with
        lgPortsPerPipe := ports
        topLgPortsPerPipeHeap := heap } ∧
      PortsExact topo.fabric (fun m => if m = l then true else topo.getLinkguardianEnabled m)
        ports ∧
      PortsHeap topo.fabric ports heap := by
  unfold setLinkguardianEnabled
  cases hon : topo.getLinkguardianEnabled l with
  | true =>
    refine ⟨topo.lgPortsPerPipe, topo.topLgPortsPerPipeHeap, rfl, h.lgPorts.congr fun m hm => ?_,
      h.lgPortsHeap⟩
    split
    · next hml => rw [hml, hon]
    · rfl
  | false =>
    obtain ⟨ports, heap, hincr, hports, hheap⟩ := incrBoth_eq
      (topo.setLink l fun a => { a with lgEnabled := true }) h.wired hl h.lgPortsHeap h.lgPorts hon
      (if_pos rfl : (fun m => if m = l then true else topo.getLinkguardianEnabled m) l = _)
      fun m _ hne => if_neg hne
    exact ⟨ports, heap, hincr, hports, hheap⟩

/-- The attributes of a link that runs LinkGuardian. -/
def LinkState.protect (a : LinkState) (perf : ℚ × ℚ) : LinkState :=
  { a with
    effectiveLossRate := perf.1
    effectiveCapacity := perf.2
    lgEnabled := true }

/-- **LinkGuardian can be activated on a corrupting link**, where the table has an entry. -/
theorem Coherent.processFailureEvent {topo : Topology} {l : ℕ} (h : Coherent topo)
    (hl : l ∈ topo.corruptingLinks) {sol : LinkGuardianSolution} {lossRate : ℚ} {perf : ℚ × ℚ}
    (hcapable : topo.fabric.getLinkguardianCapable l = true)
    (hperf : sol.getEffectiveLossRateCapacity lossRate = some perf) :
    ∃ topo', sol.processFailureEvent topo l lossRate = some topo' ∧
      Touched topo l ((topo.link l).protect perf) topo' := by
  have hlinks := h.corrupting_subset hl
  have hdis := h.isLinkDisabled_eq_false (h.enabled_of_corrupting hl)
  obtain ⟨ports, heap, henable, hports, hheap⟩ := setLinkguardianEnabled_eq h hlinks
  let on : Topology := { topo.setLink l fun a => { a with lgEnabled := true } with
    lgPortsPerPipe := ports
    topLgPortsPerPipeHeap := heap }
  let scaled := on.updateEffectiveLinkCapacity l perf.2
  have hon : on.link l = { topo.link l with lgEnabled := true } := if_pos rfl
  have hscaled : scaled.linkStates = setEdge topo.linkStates (topo.fabric.edgeOf l)
      { topo.link l with lgEnabled := true, effectiveCapacity := perf.2 } := by
    show setEdge (setEdge _ (topo.fabric.edgeOf l) _) (topo.fabric.edgeOf l)
      { on.link l with effectiveCapacity := perf.2 } = _
    rw [setEdge_setEdge, hon]
  have hlink : scaled.link l =
      { topo.link l with lgEnabled := true, effectiveCapacity := perf.2 } := by
    rw [link, hscaled]
    exact if_pos rfl
  have hdis' : scaled.isLinkDisabled l = false := by
    rw [isLinkDisabled, hlink]
    exact hdis
  have hrest : (on.updateEffectiveLinkCapacity l perf.2).setLinkEffectiveLossRate l perf.1 =
      some _ := Option.bind_eq_some_iff.mpr ⟨(), if_pos hdis', rfl⟩
  refine ⟨_, (if_pos hcapable).trans (Option.bind_eq_some_iff.mpr ⟨_, hperf,
    Option.bind_eq_some_iff.mpr ⟨on, henable, hrest⟩⟩), ⟨rfl, ?_⟩, hdis, rfl,
    (Finset.insert_eq_of_mem hl).symm, rfl, rfl, rfl, (sub_add_cancel _ _).symm, ?_,
    fun pod type => ?_, fun hoff => (by cases hoff), ?_, hports, hheap⟩
  · show setEdge scaled.linkStates _ { scaled.link l with effectiveLossRate := perf.1 } = _
    rw [hscaled, hlink]
    exact setEdge_setEdge _ _ _ _
  · show topo.totalEffectiveLossRate - (scaled.link l).effectiveLossRate + perf.1 = _
    rw [hlink]
    rfl
  · show ((Topology.addPodCapacity _ l (-(on.link l).effectiveCapacity)).addPodCapacity l
      perf.2).perPodCapacity pod type = _
    rw [perPodCapacity_add_add, hon, neg_add_eq_sub]
    rfl
  · show Heapq.items topo.topLossRatesHeap = topo.getLinkLossRate l ::ₘ _
    rw [h.topLossRates, Multiset.cons_swap, ← Multiset.map_cons, Finset.erase_val,
      Multiset.cons_erase (Finset.mem_val.mpr hl)]

/-- What LinkGuardian does about a corrupting link: nothing on a link that is not capable of it;
on any other link it raises where the table has no entry, and is activated elsewhere. -/
theorem Coherent.linkguardian_cases {topo : Topology} {l : ℕ} (h : Coherent topo)
    (hl : l ∈ topo.corruptingLinks) (sol : LinkGuardianSolution) (lossRate : ℚ) :
    (topo.fabric.getLinkguardianCapable l = false ∧
      sol.processFailureEvent topo l lossRate = some topo) ∨
    (topo.fabric.getLinkguardianCapable l = true ∧
      sol.getEffectiveLossRateCapacity lossRate = none ∧
      sol.processFailureEvent topo l lossRate = none) ∨
    ∃ perf topo', topo.fabric.getLinkguardianCapable l = true ∧
      sol.getEffectiveLossRateCapacity lossRate = some perf ∧
      sol.processFailureEvent topo l lossRate = some topo' ∧
      Touched topo l ((topo.link l).protect perf) topo' := by
  cases hcapable : topo.fabric.getLinkguardianCapable l with
  | false =>
    refine .inl ⟨rfl, ?_⟩
    rw [LinkGuardianSolution.processFailureEvent, hcapable]
    rfl
  | true =>
    refine .inr ?_
    cases hperf : sol.getEffectiveLossRateCapacity lossRate with
    | none =>
      refine .inl ⟨rfl, rfl, ?_⟩
      rw [LinkGuardianSolution.processFailureEvent, if_pos hcapable, hperf]
      rfl
    | some perf =>
      obtain ⟨topo', hs, ht⟩ := h.processFailureEvent hl hcapable hperf
      exact .inr ⟨perf, topo', rfl, rfl, hs, ht⟩

end LinkGuardian.Simulator
