import LinkGuardian.Simulator.Invariant
import Mathlib.Data.Nat.ModEq
import Mathlib.Order.Bounds.Basic

/-!
# Exact metrics

What the simulator keeps incrementally is exact in every state of a run: the sums of loss rates
and capacities, the maxima and the heaps behind them, and the counts of paths, which agree with
a traversal of the graph.

The theorems read off `Coherent` what a user of the metrics relies on.  They are stated with sums
over links and counts of ports, and mention nothing that the simulator maintains beyond the values
themselves.
-/

namespace LinkGuardian.Simulator

open Execution Fabric

variable {config : Config} {chance : Chance} {sim : Simulation}

/-! ## Loss rates and capacities -/

/-- **The totals are exact.**  Between two events, the total loss rates are the sums over the
enabled links, the capacities of a pod are the sums over its enabled links of the type, enabled
links without LinkGuardian have their own loss rate and capacity, and no disabled link runs
LinkGuardian. -/
theorem totals_exact (hstd : config.Standard) (h : Simulation.Reached config chance sim) :
    sim.topo.enabledLinks =
      sim.topo.fabric.links.filter (fun l => sim.topo.isLinkDisabled l = false) ∧
    sim.topo.totalLossRate = ∑ l ∈ sim.topo.enabledLinks, sim.topo.getLinkLossRate l ∧
    sim.topo.totalEffectiveLossRate =
      ∑ l ∈ sim.topo.enabledLinks, sim.topo.getLinkEffectiveLossRate l ∧
    (∀ pod type, sim.topo.perPodCapacity pod type =
      ∑ l ∈ sim.topo.enabledLinks.filter fun l => sim.topo.fabric.linkIdToPodId l = pod ∧
        (sim.topo.fabric.getLinkType l).podCapacityType = type,
          sim.topo.getEffectiveLinkCapacity l) ∧
    (∀ l ∈ sim.topo.enabledLinks, sim.topo.getLinkguardianEnabled l = false →
      sim.topo.getLinkEffectiveLossRate l = sim.topo.getLinkLossRate l ∧
        sim.topo.getEffectiveLinkCapacity l = sim.topo.fabric.getLinkCapacity l) ∧
    ∀ l ∈ sim.topo.fabric.links, sim.topo.isLinkDisabled l = true →
      sim.topo.getLinkguardianEnabled l = false := by
  obtain ⟨topo₀, hbuild, -, hco, hf⟩ := h.coherentOver hstd.ne_leafSpine
  have hexcess : sim.topo.fabric.excess = 0 := hf ▸ hstd.excess hbuild
  refine ⟨?_, ?_, ?_, fun pod type => ?_, hco.plain, fun l hl hdis => ?_⟩
  · ext l
    rw [Coherent.mem_enabledLinks, Finset.mem_filter]
    refine and_congr_right fun hl => ?_
    rw [← hco.disabled l hl, Bool.eq_false_iff]
  · rw [hco.totalLossRate, hexcess, zero_add]
  · rw [hco.totalEffectiveLossRate, hexcess, zero_add]
  · rw [hco.perPodCapacity]
    refine Finset.sum_congr ?_ fun l _ => rfl
    ext l
    simp only [Finset.mem_sdiff, Finset.mem_filter, linksOfPod, Topology.enabledLinks]
    exact and_right_comm
  · refine hco.lgEnabled_eq_false hl fun hcorr => ?_
    exact Finset.disjoint_left.mp hco.disjoint ((hco.disabled l hl).mp hdis) hcorr

/-- Two links with LinkGuardian. -/
theorem totals_exact_two_failures : ∃ sim,
    Simulation.Reached (Simulation.twoFailures .lgCorrOpt) Simulation.quickRepairs sim ∧
      sim.topo.totalEffectiveLossRate =
        ∑ l ∈ sim.topo.enabledLinks, sim.topo.getLinkEffectiveLossRate l := by
  obtain ⟨sim, h⟩ := Simulation.reached_twoFailures
  exact ⟨sim, h, (totals_exact (Simulation.standard_twoFailures _) h).2.2.1⟩

/-! ## Maxima -/

/-- A heap that is not empty has a greatest item. -/
lemma isGreatest_max? {α : Type} [LinearOrder α] {heap : Array α} {a : α} {rest : Multiset α}
    (h : Heapq.items heap = a ::ₘ rest) :
    ∃ m, heap.toList.max? = some m ∧ IsGreatest {x | x ∈ a ::ₘ rest} m := by
  have hne : heap.toList ≠ [] := fun hnil => by
    rw [Heapq.items, hnil] at h
    exact Multiset.zero_ne_cons h
  obtain ⟨m, hm⟩ := Option.ne_none_iff_exists'.mp (mt List.max?_eq_none_iff.mp hne)
  obtain ⟨hmem, hle⟩ := List.max?_eq_some_iff.mp hm
  refine ⟨m, hm, ?_, fun x hx => hle x ?_⟩
  · show m ∈ a ::ₘ rest
    rw [← h]
    exact hmem
  · show x ∈ Heapq.items heap
    rw [h]
    exact hx

/-- **The heaps of maxima are exact.**  Between two events, the heap of the loss rates has the
initial one and that of each corrupting link; each pipe counts its enabled links with
LinkGuardian, no more than it has ports; and the heap of the counts has a zero and the counts
that are not zero.  So the maxima that are read off the heaps are those of the links and of the
pipes. -/
theorem heaps_exact (hstd : config.Standard) (h : Simulation.Reached config chance sim) :
    Heapq.items sim.topo.topLossRatesHeap =
      initialLinkLossRate ::ₘ sim.topo.corruptingLinks.val.map sim.topo.getLinkLossRate ∧
    (∃ m, sim.topo.getMaxLinkLossRate = some m ∧ IsGreatest
      (insert initialLinkLossRate (sim.topo.getLinkLossRate '' sim.topo.corruptingLinks)) m) ∧
    (∀ sw < sim.topo.fabric.globalSwitchId, ∀ pipe < (sim.topo.fabric.nodes sw).numPipes,
      sim.topo.lgPortsPerPipe sw pipe = (sim.topo.enabledLinks.filter fun l =>
        sim.topo.getLinkguardianEnabled l = true ∧
          l ∈ (sim.topo.fabric.nodes sw).linkIdList ∧
          (sim.topo.fabric.nodes sw).linkIdList.idxOf l ≡ pipe
            [MOD (sim.topo.fabric.nodes sw).numPipes]).card ∧
      sim.topo.lgPortsPerPipe sw pipe ≤ (sim.topo.fabric.nodes sw).portsPerPipe) ∧
    Heapq.items sim.topo.topLgPortsPerPipeHeap =
      0 ::ₘ nonzeroPorts sim.topo.fabric sim.topo.lgPortsPerPipe ∧
    ∃ m, sim.topo.getMaxLgPortsPerPipe = some m ∧
      IsGreatest {v | ∃ sw < sim.topo.fabric.globalSwitchId,
        ∃ pipe < (sim.topo.fabric.nodes sw).numPipes, v = sim.topo.lgPortsPerPipe sw pipe} m := by
  obtain ⟨topo₀, -, hbuilt, hco, hf⟩ := h.coherentOver hstd.ne_leafSpine
  refine ⟨hco.topLossRates, ?_, fun sw hsw pipe hpipe => ?_, hco.lgPortsHeap, ?_⟩
  · obtain ⟨m, hm, hgreatest⟩ := isGreatest_max? hco.topLossRates
    have hset : insert initialLinkLossRate (sim.topo.getLinkLossRate '' sim.topo.corruptingLinks) =
        {x | x ∈ initialLinkLossRate ::ₘ
          sim.topo.corruptingLinks.val.map sim.topo.getLinkLossRate} := by
      ext x
      simp
    rw [hset]
    exact ⟨m, hm, hgreatest⟩
  · -- the pipe of a port is its position among the ports modulo the pipes, which bounds the count
    have hports := hf ▸ hbuilt.ports sw (hf ▸ hsw)
    have hcount := hco.lgPorts sw pipe
    refine ⟨?_, ?_⟩
    · rw [hcount, Nat.cast_inj]
      refine congrArg Finset.card ?_
      ext l
      rw [lgLinks, Finset.mem_filter, Finset.mem_filter, Coherent.mem_enabledLinks, and_assoc,
        hco.wired.linkIdList sw hsw, mem_linksAt]
      refine and_congr_right fun hl => ?_
      rw [and_iff_right hl, pipeOf, hco.wired.linkIdList sw hsw, Nat.ModEq,
        Nat.mod_eq_of_lt hpipe]
      refine (and_iff_right_of_imp fun hlg => ?_).symm
      exact (Coherent.mem_enabledLinks.mp
        (hco.enabled_of_corrupting (hco.lgEnabled l hl hlg.1))).2
    · rw [hcount, Nat.cast_le]
      exact card_lgLinks_le hco.wired hports _
  · -- zero counts are left out of the heap, and the zero in it stands for all of them
    obtain ⟨m, hm, hmem, hle⟩ := isGreatest_max? hco.lgPortsHeap
    have hbound : ∀ sw < sim.topo.fabric.globalSwitchId,
        ∀ pipe < (sim.topo.fabric.nodes sw).numPipes, sim.topo.lgPortsPerPipe sw pipe ≤ m := by
      intro sw hsw pipe hpipe
      by_cases h0 : sim.topo.lgPortsPerPipe sw pipe = 0
      · rw [h0]
        exact hle (Multiset.mem_cons_self _ _)
      · refine hle (Multiset.mem_cons_of_mem (Multiset.mem_filter.mpr ⟨?_, h0⟩))
        refine Multiset.mem_map.mpr ⟨⟨sw, pipe⟩, Finset.mem_sigma.mpr ⟨?_, ?_⟩, rfl⟩
        · exact Finset.mem_range.mpr hsw
        · exact Finset.mem_range.mpr hpipe
    refine ⟨m, hm, ?_, ?_⟩
    · rcases Multiset.mem_cons.mp hmem with rfl | hmem
      · -- no count is greater than zero, so that of any pipe is zero
        obtain ⟨tor, htor⟩ := List.exists_mem_of_ne_nil _ hbuilt.tors
        have hlt := ((hbuilt.fresh.charted.mem_switchTypewiseList _ _).mp htor).1
        rw [← hf] at hlt
        have hpipe := Nat.pos_of_ne_zero (hco.wired.numPipes tor hlt)
        refine ⟨tor, hlt, 0, hpipe, le_antisymm ?_ (hbound tor hlt 0 hpipe)⟩
        rw [hco.lgPorts]
        exact Int.natCast_nonneg _
      · obtain ⟨⟨sw, pipe⟩, hx, rfl⟩ := Multiset.mem_map.mp (Multiset.mem_filter.mp hmem).1
        obtain ⟨hsw, hpipe⟩ := Finset.mem_sigma.mp hx
        exact ⟨sw, Finset.mem_range.mp hsw, pipe, Finset.mem_range.mp hpipe, rfl⟩
    · rintro v ⟨sw, hsw, pipe, hpipe, rfl⟩
      exact hbound sw hsw pipe hpipe

/-- Two links with LinkGuardian. -/
theorem heaps_exact_two_failures : ∃ sim,
    Simulation.Reached (Simulation.twoFailures .lgCorrOpt) Simulation.quickRepairs sim ∧
      Heapq.items sim.topo.topLossRatesHeap =
        initialLinkLossRate ::ₘ sim.topo.corruptingLinks.val.map sim.topo.getLinkLossRate := by
  obtain ⟨sim, h⟩ := Simulation.reached_twoFailures
  exact ⟨sim, h, (heaps_exact (Simulation.standard_twoFailures _) h).1⟩

/-! ## The metrics as a function of the links -/

lemma max?_congr {α : Type} [LinearOrder α] {heap heap' : Array α} {a : α} {rest : Multiset α}
    (h : Heapq.items heap = a ::ₘ rest) (h' : Heapq.items heap' = a ::ₘ rest) :
    heap'.toList.max? = heap.toList.max? := by
  obtain ⟨m, hm, hgreatest⟩ := isGreatest_max? h
  obtain ⟨m', hm', hgreatest'⟩ := isGreatest_max? h'
  rw [hm, hm', hgreatest'.unique hgreatest]

/-- **The metrics depend on the links alone**: on which are disabled and corrupting, and on their
attributes.  How the simulator got there does not matter, and neither does the order in which links
were disabled. -/
theorem getCurrentMetrics_congr {topo topo' : Topology} (h : Coherent topo) (h' : Coherent topo')
    (hf : topo'.fabric = topo.fabric) (hD : topo'.disabledLinks = topo.disabledLinks)
    (hC : topo'.corruptingLinks = topo.corruptingLinks)
    (hlink : ∀ l ∈ topo.fabric.links, topo'.link l = topo.link l) :
    topo'.getCurrentMetrics = topo.getCurrentMetrics := by
  have hpaths : topo'.pathsOfTors = topo.pathsOfTors := by
    rw [Topology.pathsOfTors, Topology.pathsOfTors, hf]
    refine List.map_congr_left fun t ht => ?_
    rw [h.numPathsToCore t ht, h'.numPathsToCore t (hf ▸ ht), hf, hD]
  have hcapacity : topo'.perPodCapacity = topo.perPodCapacity := by
    funext pod type
    rw [h.perPodCapacity, h'.perPodCapacity, hf, hD]
    refine Finset.sum_congr rfl fun l hl => ?_
    exact congrArg LinkState.effectiveCapacity
      (hlink l (Finset.mem_filter.mp (Finset.mem_sdiff.mp hl).1).1)
  have hpods : topo'.podCapacities = topo.podCapacities := by
    rw [Topology.podCapacities, Topology.podCapacities, hf, hcapacity]
  have hrate : topo'.getMaxLinkLossRate = topo.getMaxLinkLossRate := by
    refine max?_congr h.topLossRates (h'.topLossRates.trans ?_)
    rw [hC]
    refine congrArg (initialLinkLossRate ::ₘ ·) (Multiset.map_congr rfl fun l hl => ?_)
    exact congrArg LinkState.lossRate (hlink l (h.corrupting_subset hl))
  have hports : topo'.lgPortsPerPipe = topo.lgPortsPerPipe := by
    funext sw pipe
    rw [h.lgPorts, h'.lgPorts, hf]
    refine congrArg (fun s : Finset ℕ => (s.card : ℤ)) (Finset.filter_congr fun l hl => ?_)
    rw [Topology.getLinkguardianEnabled, Topology.getLinkguardianEnabled, hlink l hl]
  have hmaxPorts : topo'.getMaxLgPortsPerPipe = topo.getMaxLgPortsPerPipe := by
    refine max?_congr h.lgPortsHeap (h'.lgPortsHeap.trans ?_)
    rw [hf, hports]
  have htotal : topo'.totalLossRate = topo.totalLossRate := by
    rw [h.totalLossRate, h'.totalLossRate, Topology.enabledLinks, Topology.enabledLinks, hf, hD]
    refine congrArg (_ + ·) (Finset.sum_congr rfl fun l hl => ?_)
    exact congrArg LinkState.lossRate (hlink l (Finset.mem_sdiff.mp hl).1)
  have heffective : topo'.totalEffectiveLossRate = topo.totalEffectiveLossRate := by
    rw [h.totalEffectiveLossRate, h'.totalEffectiveLossRate, Topology.enabledLinks,
      Topology.enabledLinks, hf, hD]
    refine congrArg (_ + ·) (Finset.sum_congr rfl fun l hl => ?_)
    exact congrArg LinkState.effectiveLossRate (hlink l (Finset.mem_sdiff.mp hl).1)
  unfold Topology.getCurrentMetrics Topology.getAvgNumPathsToCore Topology.getMinNumPathsToCore
    Topology.getAvgPerPodCapacityToCore Topology.getMinPerPodCapacityToCore
  rw [hpaths, hpods, hrate, hmaxPorts, htotal, heffective, hf, hD, hC]

end LinkGuardian.Simulator
