import LinkGuardian.Simulator.Actions
import LinkGuardian.Simulator.Failure

/-!
# Coherence along a run

Whatever event is processed with whatever solution, the topology stays coherent and its fabric
stays as it was built.
-/

namespace LinkGuardian.Simulator

open Execution

/-! ## Links that are disabled and enabled -/

/-- A coherent topology over a fabric.  The fabric is a parameter, since what was proved of it when
it was built is to hold in every later state. -/
structure CoherentOver (f : Fabric) (topo : Topology) : Prop where
  coherent : Coherent topo
  fabric : topo.fabric = f

section Operations

variable {f : Fabric} {topo topo' : Topology} {l : ℕ}

/-- `disableLink` raises unless the link is corrupting. -/
lemma corrupting_of_disableLink (hs : topo.disableLink l = some topo') :
    l ∈ topo.corruptingLinks := by
  obtain ⟨_, hguard, -⟩ := Option.bind_eq_some_iff.mp hs
  exact (Option.guard_eq_some' _).mp hguard

/-- `enableLink` raises unless the link is disabled. -/
lemma disabled_of_enableLink (hs : topo.enableLink l = some topo') : l ∈ topo.disabledLinks := by
  obtain ⟨_, hguard, -⟩ := Option.bind_eq_some_iff.mp hs
  exact (Option.guard_eq_some' _).mp hguard

lemma Coherent.disabled_of_disableLink (h : Coherent topo)
    (hs : topo.disableLink l = some topo') : Disabled topo l topo' := by
  obtain ⟨topo'', hs', hd⟩ := h.disableLink (corrupting_of_disableLink hs)
  rw [hs, Option.some_inj] at hs'
  rwa [hs']

lemma Coherent.enabled_of_enableLink (h : Coherent topo)
    (hs : topo.enableLink l = some topo') : Enabled topo l topo' := by
  obtain ⟨topo'', hs', he⟩ := h.enableLink (disabled_of_enableLink hs)
  rw [hs, Option.some_inj] at hs'
  rwa [hs']

/-- The topology that `recordFailure` returns is touched. -/
lemma Coherent.touched_of_recordFailure (h : Coherent topo) {lossRate : ℚ}
    (hl : l ∈ topo.enabledLinks) (hs : Simulation.recordFailure topo l lossRate = some topo') :
    Touched topo l ((topo.link l).failed lossRate) topo' := by
  obtain ⟨topo'', hs', ht⟩ := h.recordFailure hl lossRate
  rw [hs, Option.some_inj] at hs'
  rwa [hs']

/-- Where LinkGuardian returns, it has done nothing on a link that is not capable of it, and is
active on any other link. -/
lemma Coherent.linkguardian_of_some (h : Coherent topo) {sol : LinkGuardianSolution}
    {lossRate : ℚ} (hl : l ∈ topo.corruptingLinks)
    (hs : sol.processFailureEvent topo l lossRate = some topo') :
    (topo.fabric.getLinkguardianCapable l = false ∧ topo' = topo) ∨
    ∃ perf, topo.fabric.getLinkguardianCapable l = true ∧
      sol.getEffectiveLossRateCapacity lossRate = some perf ∧
      Touched topo l ((topo.link l).protect perf) topo' := by
  rcases h.linkguardian_cases hl sol lossRate with ⟨hcapable, hs'⟩ | ⟨-, -, hs'⟩ |
    ⟨perf, topo'', hcapable, hperf, hs', ht⟩
  · rw [hs, Option.some_inj] at hs'
    exact .inl ⟨hcapable, hs'⟩
  · rw [hs] at hs'
    cases hs'
  · rw [hs, Option.some_inj] at hs'
    exact .inr ⟨perf, hcapable, hperf, hs' ▸ ht⟩

lemma Touched.mem_corruptingLinks {v : LinkState} (ht : Touched topo l v topo') :
    l ∈ topo'.corruptingLinks := by
  rw [ht.corruptingLinks]
  exact Finset.mem_insert_self _ _

namespace CoherentOver

variable (h : CoherentOver f topo)
include h

lemma disableLink (hs : topo.disableLink l = some topo') : CoherentOver f topo' := by
  have hd := h.coherent.disabled_of_disableLink hs
  exact ⟨hd.coherent h.coherent (corrupting_of_disableLink hs), hd.set.fabric.trans h.fabric⟩

lemma enableLink (hs : topo.enableLink l = some topo') : CoherentOver f topo' := by
  have he := h.coherent.enabled_of_enableLink hs
  exact ⟨he.coherent h.coherent (disabled_of_enableLink hs), he.set.fabric.trans h.fabric⟩

lemma touched {v : LinkState} (hl : l ∈ topo.enabledLinks) (ht : Touched topo l v topo') :
    CoherentOver f topo' :=
  ⟨ht.coherent h.coherent hl, ht.set.fabric.trans h.fabric⟩

lemma recordFailure {lossRate : ℚ} (hl : l ∈ topo.enabledLinks)
    (hs : Simulation.recordFailure topo l lossRate = some topo') :
    CoherentOver f topo' ∧ l ∈ topo'.corruptingLinks := by
  have ht := h.coherent.touched_of_recordFailure hl hs
  exact ⟨h.touched hl ht, ht.mem_corruptingLinks⟩

lemma linkguardian {sol : LinkGuardianSolution} {lossRate : ℚ} (hl : l ∈ topo.corruptingLinks)
    (hs : sol.processFailureEvent topo l lossRate = some topo') : CoherentOver f topo' := by
  rcases h.coherent.linkguardian_of_some hl hs with ⟨-, rfl⟩ | ⟨perf, -, -, ht⟩
  · exact h
  · exact h.touched (h.coherent.enabled_of_corrupting hl) ht

end CoherentOver

end Operations

/-! ## Solutions -/

section Solutions

variable {f : Fabric} {topo : Topology} {gen : RandGen} {time : ℤ} {a a' : Acting}

lemma CoherentOver.disable {l : ℕ} (h : CoherentOver f a.topo)
    (hs : a.disable time l = some a') : CoherentOver f a'.topo := by
  obtain ⟨topo', hdis, rfl⟩ := Acting.disable_eq_some.mp hs
  exact h.disableLink hdis

lemma CoherentOver.disableAll {links : List ℕ} (h : CoherentOver f a.topo)
    (hs : a.disableAll time links = some a') : CoherentOver f a'.topo :=
  Loop.preserve (P := fun b => CoherentOver f b.topo) h
    (fun _ _ _ _ hb hstep => hb.disable hstep) hs

lemma CoherentOver.corroptFastChecker {sol : CorrOptSolution} {l : ℕ} (h : CoherentOver f topo)
    (hs : sol.corroptFastChecker topo gen time l = some a) : CoherentOver f a.topo := by
  rcases CorrOptSolution.corroptFastChecker_cases hs with rfl | hs
  · exact h
  · exact CoherentOver.disable (a := { topo := topo, gen := gen }) h hs

lemma CoherentOver.corroptOptimizer {sol : CorrOptSolution} {orders : SetOrders}
    (h : CoherentOver f topo) (hs : sol.corroptOptimizer orders topo gen time = some a) :
    CoherentOver f a.topo := by
  obtain ⟨links, hs⟩ := CorrOptSolution.corroptOptimizer_disableAll hs
  exact CoherentOver.disableAll (a := { topo := topo, gen := gen }) h hs

lemma CoherentOver.solution {sol : Solution} {l : ℕ} {lossRate : ℚ} (h : CoherentOver f topo)
    (hl : l ∈ topo.corruptingLinks)
    (hs : sol.processFailureEvent topo gen time l lossRate = some a) : CoherentOver f a.topo := by
  cases sol with
  | doNothing =>
    cases hs
    exact h
  | disableAndRepair =>
    obtain ⟨topo', hdis, hs⟩ := Option.bind_eq_some_iff.mp hs
    cases hs
    exact h.disableLink hdis
  | corrOpt corropt => exact h.corroptFastChecker hs
  | linkGuardian linkguardian =>
    obtain ⟨topo', hlg, hs⟩ := Option.bind_eq_some_iff.mp hs
    cases hs
    exact h.linkguardian hl hlg
  | lgCorrOpt linkguardian corropt =>
    obtain ⟨topo', hlg, hs⟩ := Option.bind_eq_some_iff.mp hs
    exact (h.linkguardian hl hlg).corroptFastChecker hs

lemma CoherentOver.callback {sol : Solution} {orders : SetOrders} (h : CoherentOver f topo)
    (hs : sol.postRecoveryEventCb orders topo gen time = some a) : CoherentOver f a.topo := by
  cases sol with
  | doNothing => cases hs; exact h
  | disableAndRepair => cases hs; exact h
  | corrOpt corropt => exact h.corroptOptimizer hs
  | linkGuardian linkguardian => cases hs; exact h
  | lgCorrOpt linkguardian corropt => exact h.corroptOptimizer hs

end Solutions

/-! ## Events and runs -/

namespace Simulation

variable {f : Fabric} {sim sim' : Simulation} {orders : SetOrders}

/-- Queueing events does not touch the topology. -/
lemma frame_addRequestedEvents {events : List LinkEvent}
    (hs : sim.addRequestedEvents events = some sim') :
    sim'.topo = sim.topo ∧ sim'.solution = sim.solution ∧
      sim'.corroptRecoveryRandGen = sim.corroptRecoveryRandGen := by
  refine Loop.preserve (P := fun s => s.topo = sim.topo ∧ s.solution = sim.solution ∧
    s.corroptRecoveryRandGen = sim.corroptRecoveryRandGen) ⟨rfl, rfl, rfl⟩
    (fun e _ s s' hP hstep => ?_) hs
  obtain ⟨_, -, hstep⟩ := Option.bind_eq_some_iff.mp hstep
  cases hstep
  split
  · exact hP
  · exact hP

lemma frame_acted {a : Acting} (hs : sim.acted a = some sim') :
    sim'.topo = a.topo ∧ sim'.solution = sim.solution ∧ sim'.corroptRecoveryRandGen = a.gen :=
  frame_addRequestedEvents hs

lemma mem_links_of_lookupLink {linkId : ℤ} {l : ℕ} (h : f.lookupLink linkId = some l) :
    l ∈ f.links ∧ linkId = l := by
  unfold Fabric.lookupLink at h
  split at h
  · next hlt =>
    cases h
    exact ⟨Fabric.mem_links.mpr hlt.2, (Int.toNat_of_nonneg hlt.1).symm⟩
  · cases h

lemma enabled_of_isLinkDisabled {topo : Topology} {l : ℕ} (h : Coherent topo)
    (hl : l ∈ topo.fabric.links) (hdis : ¬ topo.isLinkDisabled l = true) :
    l ∈ topo.enabledLinks :=
  Coherent.mem_enabledLinks.mpr ⟨hl, fun hD => hdis ((h.disabled l hl).mpr hD)⟩

/-- **Processing an event keeps the topology coherent.** -/
theorem coherent_processEvent {event : LinkEvent} (h : CoherentOver f sim.topo)
    (hs : sim.processEvent orders event = some sim') : CoherentOver f sim'.topo := by
  cases processed hs with
  | ignored skippedLossEvents heq =>
    subst heq
    exact h
  | failure l failed a hlookup hdis hrecord ha hacted =>
    rw [(frame_acted hacted).1]
    have hen := enabled_of_isLinkDisabled h.coherent (mem_links_of_lookupLink hlookup).1 hdis
    obtain ⟨hfailed, hcorr⟩ := h.recordFailure hen hrecord
    exact hfailed.solution hcorr ha
  | recovery l topo a henable ha hacted =>
    rw [(frame_acted hacted).1]
    exact (h.enableLink henable).callback ha

lemma coherent_step (sim : Simulation) (orders : SetOrders) (sim' : Simulation)
    (h : CoherentOver f sim.topo) (hs : sim.step orders = some sim') :
    CoherentOver f sim'.topo := by
  obtain ⟨⟨event, queue⟩, -, hs⟩ := Option.bind_eq_some_iff.mp hs
  have hpopped : CoherentOver f ({ sim with eventQueue := queue } : Simulation).topo := h
  exact coherent_processEvent hpopped hs

/-- A state between two events of a run. -/
def Reached (config : Config) (chance : Chance) (sim : Simulation) : Prop :=
  ∃ sim₀ inputs, Simulation.init config chance = some sim₀ ∧
    run Simulation.step sim₀ inputs = some sim

lemma Reached.step {config : Config} {chance : Chance} (h : Reached config chance sim)
    (hs : sim.step orders = some sim') : Reached config chance sim' := by
  obtain ⟨sim₀, inputs, hinit, hrun⟩ := h
  refine ⟨sim₀, inputs ++ [orders], hinit, run_append hrun ?_⟩
  rw [run_cons, hs]
  rfl

lemma built_init {config : Config} {chance : Chance} (htype : config.topoType ≠ .LeafSpine)
    (hinit : Simulation.init config chance = some sim) : Built sim.topo := by
  obtain ⟨topo, hbuild, hinit⟩ := Option.bind_eq_some_iff.mp hinit
  obtain ⟨solution, -, hinit⟩ := Option.bind_eq_some_iff.mp hinit
  cases hinit
  exact config.built htype hbuild

/-- **Every state of a run has a coherent topology over the fabric that was built.**  It is the
starting point of each theorem about all states of a run. -/
theorem Reached.coherentOver {config : Config} {chance : Chance}
    (htype : config.topoType ≠ .LeafSpine) (h : Reached config chance sim) :
    ∃ topo₀, config.buildTopo chance.podShuffle = some topo₀ ∧ Built topo₀ ∧
      CoherentOver topo₀.fabric sim.topo := by
  obtain ⟨sim₀, inputs, hinit, hrun⟩ := h
  have hbuilt := built_init htype hinit
  obtain ⟨topo, hbuild, hinit⟩ := Option.bind_eq_some_iff.mp hinit
  obtain ⟨solution, -, hinit⟩ := Option.bind_eq_some_iff.mp hinit
  cases hinit
  exact ⟨topo, hbuild, hbuilt, run_invariant coherent_step ⟨hbuilt.coherent, rfl⟩ hrun⟩

/-! ## Small runs -/

/-- Two links of a FatTree with two pods fail. -/
def twoFailures (solution : SolutionType) : Config where
  topoType := .FatTree
  topoParams := { k := some 2, linkCapacity := some 100 }
  solution := solution
  solutionParams := {
    capacityConstraintPercent := 50
    lgPerformance := [(1 / 1000, 1 / 1000000, 90)] }
  failureEventsList := [(0, 0, 1 / 1000), (0, 1, 1 / 1000)]

/-- Three links of a ToR fail in an FbFabric with one pod. -/
def threeFailures (solution : SolutionType) : Config where
  topoType := .FbFabric
  topoParams := {
    numPods := some 1
    torsPerPod := some 1
    oversubscription := some 1
    linkCapacity := some 100 }
  solution := solution
  solutionParams := {
    capacityConstraintPercent := 50
    lgPerformance := [(1 / 1000, 1 / 1000000, 90)] }
  failureEventsList := [(0, 0, 1 / 1000), (1, 1, 1 / 1000), (2, 2, 1 / 1000)]

/-- All links are repaired after two days, and pods are not shuffled. -/
def quickRepairs : Chance where
  recoveryDraws _ := 0
  podShuffle := id

def sortedOrders : SetOrders := ⟨.sorted, .sorted, .sorted, .sorted, .sorted⟩

lemma standard_twoFailures (solution : SolutionType) : (twoFailures solution).Standard :=
  .inl ⟨rfl, fun k hk => by cases hk; decide⟩

/-- After both failures, with LinkGuardian and CorrOpt. -/
lemma reached_twoFailures : ∃ sim, Reached (twoFailures .lgCorrOpt) quickRepairs sim := by
  have hsome : ((Simulation.init (twoFailures .lgCorrOpt) quickRepairs).bind fun sim =>
      run Simulation.step sim [sortedOrders, sortedOrders]).isSome = true := by decide +kernel
  obtain ⟨sim, hsim⟩ := Option.isSome_iff_exists.mp hsome
  obtain ⟨sim₀, hinit, hrun⟩ := Option.bind_eq_some_iff.mp hsim
  exact ⟨sim, sim₀, _, hinit, hrun⟩

end Simulation

end LinkGuardian.Simulator
