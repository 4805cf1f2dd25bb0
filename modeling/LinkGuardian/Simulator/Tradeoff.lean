import LinkGuardian.Simulator.Noninterference
import LinkGuardian.Simulator.Penalty
import LinkGuardian.Simulator.PerfTable

/-!
# What LinkGuardian saves and costs

LinkGuardian trades capacity for loss.  Beside a run with CorrOpt alone, in which the same links
are disabled, the one with LinkGuardian differs in the performance of the corrupting links and in
nothing else; with the shipped table it never raises and none of its links costs much.

The two runs are compared by their totals.  What the same links do to both cancels out, so the
difference of two penalties is a sum over the corrupting links alone, and its sign is decided by the
table.
-/

namespace LinkGuardian.Simulator

open Execution Lockstep

variable {config config' : Config} {chance chance' : Chance} {sim : Simulation}

/-! ## With and without LinkGuardian -/

/-- The table of a configuration. -/
def Config.linkguardian (config : Config) : LinkGuardianSolution :=
  ⟨config.solutionParams.lgPerformance⟩

lemma Config.linkguardian_newSolution {topo : Topology} {sol : Solution}
    (hs : config.newSolution topo = some sol) : sol.linkguardian =
      if config.solution = .linkGuardian ∨ config.solution = .lgCorrOpt then
        some config.linkguardian
      else none := by
  unfold Config.newSolution at hs
  split at hs
  case h_1 | h_2 =>
    cases hs
    simp [*, Solution.linkguardian]
  case h_3 | h_5 =>
    obtain ⟨corropt, -, rfl⟩ := Option.map_eq_some_iff.mp hs
    simp [*, Solution.linkguardian, Config.linkguardian]
  case h_4 =>
    cases hs
    simp [*, Solution.linkguardian, Config.linkguardian]

lemma Simulation.Reached.linkguardian (hstd : config.Standard)
    (h : Simulation.Reached config chance sim) : sim.solution.linkguardian =
      if config.solution = .linkGuardian ∨ config.solution = .lgCorrOpt then
        some config.linkguardian
      else none := by
  obtain ⟨topo, -, -, hnew, -⟩ := h.steady hstd.ne_leafSpine
  exact config.linkguardian_newSolution hnew

namespace Running

/-- The simulation of a run is reached without its data file. -/
lemma sim_run {r r' : Running} {orders : List SetOrders}
    (hrun : run Running.step r orders = some r') :
    run Simulation.step r.sim orders = some r'.sim := by
  induction orders generalizing r with
  | nil =>
    cases hrun
    rfl
  | cons o orders ih =>
    obtain ⟨next, hs, hrun⟩ := run_cons_eq_some.mp hrun
    exact run_cons_eq_some.mpr ⟨next.sim, sim_step hs, ih hrun⟩

lemma reached {r₀ r : Running} {orders : List SetOrders}
    (hinit : Simulation.init config chance = some sim) (hs : start sim = some r₀)
    (hrun : run Running.step r₀ orders = some r) : Simulation.Reached config chance r.sim := by
  have hsim : r₀.sim = sim := sim_dump hs
  exact ⟨sim, orders, hinit, hsim ▸ sim_run hrun⟩

/-- What LinkGuardian saves and costs, in a run beside one without it: each corrupting link that can
run LinkGuardian loses its effective loss rate in place of its loss rate, and has its effective
capacity in place of its own. -/
structure Tradeoff (lg : LinkGuardianSolution) (r r' : Running) : Prop where
  penalty : r'.sim.topo.totalEffectiveLossRate = r.sim.topo.totalEffectiveLossRate -
    ∑ l ∈ r'.sim.topo.corruptingLinks, (r'.sim.topo.getLinkLossRate l -
      (performance lg r'.sim.topo.fabric l (r'.sim.topo.getLinkLossRate l)).1)
  capacity : ∀ pod type, r'.sim.topo.perPodCapacity pod type = r.sim.topo.perPodCapacity pod type -
    ∑ l ∈ r'.sim.topo.fabric.linksOfPod pod type ∩ r'.sim.topo.corruptingLinks,
      (r'.sim.topo.fabric.getLinkCapacity l -
        (performance lg r'.sim.topo.fabric l (r'.sim.topo.getLinkLossRate l)).2)

end Running

namespace Alike

variable {topo topo' : Topology} (h : Alike topo topo')
include h

lemma linksOfPod (pod : ℕ) (type : PodCapacityType) :
    topo.fabric.linksOfPod pod type = topo'.fabric.linksOfPod pod type :=
  h.reads (g := fun t => t.fabric.linksOfPod pod type) fun _ => rfl

lemma getLinkCapacity (l : ℕ) : topo.fabric.getLinkCapacity l = topo'.fabric.getLinkCapacity l :=
  h.reads (g := fun t => t.fabric.getLinkCapacity l) fun _ => rfl

lemma healthyLinks : topo.healthyLinks = topo'.healthyLinks := by
  rw [Topology.healthyLinks, Topology.healthyLinks, Topology.enabledLinks, Topology.enabledLinks,
    h.links, h.disabledLinks, h.corruptingLinks]

end Alike

/-- **Two runs of one experiment differ by the tradeoff** in states in which CorrOpt sees the same
topology. -/
lemma Running.tradeoff {r r' : Running} {lg : LinkGuardianSolution} (hstd : config.Standard)
    (hstd' : config'.Standard) (h : Simulation.Reached config chance r.sim)
    (h' : Simulation.Reached config' chance' r'.sim) (halike : Alike r.sim.topo r'.sim.topo)
    (hsol : r.sim.solution.linkguardian = none) (hsol' : r'.sim.solution.linkguardian = lg) :
    Running.Tradeoff lg r r' := by
  have hpenalty : r.sim.topo.healthyPenalty = r'.sim.topo.healthyPenalty := by
    rw [Topology.healthyPenalty, Topology.healthyPenalty, halike.healthyLinks]
  constructor
  case penalty =>
    rw [h.totalEffectiveLossRate_eq hstd, h'.totalEffectiveLossRate_eq hstd', hsol, hsol',
      hpenalty, halike.corruptingLinks, Finset.sum_sub_distrib]
    simp only [performance_none, halike.lossRate]
    ring
  case capacity =>
    intro pod type
    rw [h.perPodCapacity_eq hstd, h'.perPodCapacity_eq hstd', hsol, hsol', halike.linksOfPod,
      halike.corruptingLinks, halike.healthyLinks,
      Finset.sum_sub_distrib]
    simp only [performance_none, halike.getLinkCapacity]
    ring

/-- **What LinkGuardian saves and costs.**  In two runs of one experiment, with CorrOpt alone and
with LinkGuardian and CorrOpt, the penalties and the capacities of the pods differ at any time by
what the table says of the corrupting links.  A table that never raises a loss rate of the trace
makes the run with LinkGuardian at any time the cheaper one. -/
theorem linkguardian_tradeoff (h : Config.Compared config config')
    (hdraws : chance'.recoveryDraws = chance.recoveryDraws) :
    Option.Rel (fun sim₀ sim₀' => ∃ r₀ r₀', Running.start sim₀ = some r₀ ∧
      Running.start sim₀' = some r₀' ∧ ∀ orders r', run Running.step r₀' orders = some r' →
        ∃ r, run Running.step r₀ orders = some r ∧
          Running.Tradeoff config'.linkguardian r r' ∧
          ((∀ id x perf, config'.Failing id x →
              config'.linkguardian.getEffectiveLossRateCapacity x = some perf → perf.1 ≤ x) →
            r'.sim.topo.totalEffectiveLossRate ≤ r.sim.topo.totalEffectiveLossRate))
      (Simulation.init config chance) (Simulation.init config' chance') := by
  refine rel_strengthen (h.init hdraws) ?_
  rintro sim₀ sim₀' hinit hinit' ⟨corropt, linkguardian, hbuilt, hbuilt', hpaired⟩
  obtain ⟨r₀, r₀', hs, hs', hpaired⟩ :=
    hpaired.start hbuilt hbuilt' (Simulation.eventQueue_init hinit)
  refine ⟨r₀, r₀', hs, hs', fun orders r' hrun => ?_⟩
  obtain ⟨r, hr, hpaired⟩ := hpaired.run hbuilt hbuilt' hrun
  have hreached := Running.reached hinit hs hr
  have hreached' := Running.reached hinit' hs' hrun
  have hsol : r.sim.solution.linkguardian = none := by
    simp [hreached.linkguardian (.inr h.topoType), h.solution]
  have hsol' : r'.sim.solution.linkguardian = some config'.linkguardian := by
    simp [hreached'.linkguardian (.inr h.topoType'), h.solution']
  have htradeoff := Running.tradeoff (.inr h.topoType) (.inr h.topoType') hreached hreached'
    hpaired.sims.alike.topo hsol hsol'
  refine ⟨r, hr, htradeoff, fun hlower => ?_⟩
  have hfailing {l : ℕ} (hl : l ∈ r'.sim.topo.corruptingLinks) :=
    hreached'.failing (.inr h.topoType') hl
  rw [htradeoff.penalty]
  refine sub_le_self _ (Finset.sum_nonneg fun l hl => sub_nonneg.mpr ?_)
  exact performance_le fun perf hperf => hlower l _ perf (hfailing hl) hperf

/-- Three failures and three recoveries, with a table that lowers the loss rate a thousandfold. -/
theorem linkguardian_tradeoff_three_failures : ∃ sim₀ sim₀' r₀ r₀' r r',
    Simulation.init (Simulation.threeFailures .corrOpt) Simulation.quickRepairs = some sim₀ ∧
      Simulation.init (Simulation.threeFailures .lgCorrOpt) Simulation.quickRepairs =
        some sim₀' ∧
      Running.start sim₀ = some r₀ ∧ Running.start sim₀' = some r₀' ∧
      run Running.step r₀ (List.replicate 3 Simulation.sortedOrders) = some r ∧
      run Running.step r₀' (List.replicate 3 Simulation.sortedOrders) = some r' ∧
      r'.sim.topo.corruptingLinks = {2} ∧
      r'.sim.topo.totalEffectiveLossRate ≤ r.sim.topo.totalEffectiveLossRate := by
  have hsome : ((Simulation.init (Simulation.threeFailures .lgCorrOpt)
      Simulation.quickRepairs).bind fun sim => (Running.start sim).bind fun r =>
        run Running.step r (List.replicate 3 Simulation.sortedOrders)).any
          (fun r => decide (r.sim.topo.corruptingLinks = {2})) = true := by
    decide +kernel
  obtain ⟨r', hr', hcorr⟩ := (Option.any_eq_true _ _).mp hsome
  obtain ⟨sim₀', hinit', hr'⟩ := Option.bind_eq_some_iff.mp hr'
  obtain ⟨r₀', hs', hr'⟩ := Option.bind_eq_some_iff.mp hr'
  have hcompared : Config.Compared (Simulation.threeFailures .corrOpt)
      (Simulation.threeFailures .lgCorrOpt) := ⟨rfl, rfl, rfl, rfl, rfl, rfl, rfl⟩
  have hdraws : Simulation.quickRepairs.recoveryDraws = Simulation.quickRepairs.recoveryDraws := rfl
  obtain ⟨sim₀, hinit, r₀, r₁', hs, hs₁, hruns⟩ :=
    exists_of_rel_right (linkguardian_tradeoff hcompared hdraws) hinit'
  rw [hs', Option.some_inj] at hs₁
  subst hs₁
  obtain ⟨r, hr, -, hcheaper⟩ := hruns _ r' hr'
  refine ⟨sim₀, sim₀', r₀, r₀', r, r', hinit, hinit', hs, hs', hr, hr', of_decide_eq_true hcorr,
    hcheaper ?_⟩
  rintro id x perf ⟨time, hx⟩ hperf
  simp only [Simulation.threeFailures, List.mem_cons, Prod.mk.injEq, List.not_mem_nil,
    or_false] at hx
  have hrate : x = 1 / 1000 := by
    rcases hx with hx | hx | hx
    · exact hx.2.2
    · exact hx.2.2
    · exact hx.2.2
  subst hrate
  have hlookup : (Simulation.threeFailures .lgCorrOpt).linkguardian.getEffectiveLossRateCapacity
      (1 / 1000) = some (1 / 1000000, 90) := by
    decide +kernel
  rw [hlookup, Option.some_inj] at hperf
  rw [← hperf]
  norm_num

/-! ## The shipped table -/

section Shipped

variable {x : ℚ} (h₀ : 0 ≤ x) (h₁ : x ≤ 1)
include h₀ h₁

/-- **The shipped table lowers every loss rate from 5.97e-10 on**, and no other. -/
lemma lg100gPerf_le_iff :
    (∀ perf, (LinkGuardianSolution.new lg100gPerf).getEffectiveLossRateCapacity x = some perf →
      perf.1 ≤ x) ↔ 5.97e-10 ≤ x := by
  rw [LinkGuardianSolution.getEffectiveLossRateCapacity_lg100gPerf h₀ h₁]
  simp only [Option.some_inj, forall_eq']
  split_ifs <;> constructor <;> intro h <;> norm_num at * <;> linarith

/-- No link with LinkGuardian loses more than 1e-8. -/
lemma lg100gPerf_le {perf : ℚ × ℚ}
    (hperf : (LinkGuardianSolution.new lg100gPerf).getEffectiveLossRateCapacity x = some perf) :
    perf.1 ≤ 1e-8 := by
  rw [LinkGuardianSolution.getEffectiveLossRateCapacity_lg100gPerf h₀ h₁, Option.some_inj] at hperf
  rw [← hperf]
  split_ifs <;> norm_num

end Shipped

def Config.withShippedTable (config : Config) : Config :=
  { config with solutionParams := { config.solutionParams with
      lgPerformance := (LinkGuardianSolution.new lg100gPerf).lossRateToPerf } }

/-- **With the shipped table**, LinkGuardian never raises, a corrupting link that can run it never
costs more than 1e-8, and none costs more than without LinkGuardian, unless the trace has loss
rates below the lowest that the table promises. -/
theorem shipped_table_run (hstd : config.Standard)
    (hsol : config.solution = .linkGuardian ∨ config.solution = .lgCorrOpt)
    (htable : config.linkguardian = .new lg100gPerf)
    (hinit : Simulation.init config chance = some sim)
    (htrace : ∀ x ∈ config.failureEventsList,
      (sim.topo.fabric.lookupLink x.2.1).isSome ∧ 0 ≤ x.2.2 ∧ x.2.2 ≤ 1) :
    ∃ r₀, Running.start sim = some r₀ ∧ ∀ orders r, run Running.step r₀ orders = some r →
      (r.sim.eventQueue.getNextEvent.isSome → ∀ next, (r.step next).isSome) ∧
      r.sim.topo.totalEffectiveLossRate ≤
        (r.sim.topo.corruptingLinks.filter fun l =>
          r.sim.topo.fabric.getLinkguardianCapable l = true).card * 1e-8 +
        ∑ l ∈ r.sim.topo.corruptingLinks.filter fun l =>
          ¬ r.sim.topo.fabric.getLinkguardianCapable l = true, r.sim.topo.getLinkLossRate l +
        r.sim.topo.healthyPenalty ∧
      ((∀ x ∈ config.failureEventsList, 5.97e-10 ≤ x.2.2) →
        r.sim.topo.totalEffectiveLossRate ≤ r.sim.topo.totalLossRate) := by
  have hbuilt := Simulation.built_init hstd.ne_leafSpine hinit
  have hqueue : sim.eventQueue = Simulation.loadTrace config.failureEventsList := by
    obtain ⟨topo, -, hinit⟩ := Option.bind_eq_some_iff.mp hinit
    obtain ⟨solution, -, hinit⟩ := Option.bind_eq_some_iff.mp hinit
    cases hinit
    rfl
  obtain ⟨r₀, hstart, -, hlife₀⟩ := Running.start_total hbuilt
    (Simulation.steady_init hbuilt rfl rfl) (Simulation.pending_loadTrace hqueue
      hbuilt.fresh.disabledLinks fun x hx => (htrace x hx).1)
  refine ⟨r₀, hstart, fun orders r hrun => ?_⟩
  have hlife := run_invariant (Running.lifecycle_step hbuilt) hlife₀ hrun
  have hreached := Running.reached hinit hstart hrun
  have hlg : r.sim.solution.linkguardian = some (.new lg100gPerf) := by
    rw [hreached.linkguardian hstd, if_pos hsol, htable]
  have hrate {id : ℤ} {x : ℚ} (hfailing : config.Failing id x) : 0 ≤ x ∧ x ≤ 1 := by
    obtain ⟨time, hx⟩ := hfailing
    exact (htrace _ hx).2
  -- the only way to raise is to find no entry, and the shipped table has one for every loss rate
  refine ⟨fun hnext next => ?_, ?_, fun hlow => ?_⟩
  · obtain ⟨⟨event, q⟩, hget⟩ := Option.isSome_iff_exists.mp hnext
    rw [Option.isSome_iff_ne_none, Ne, hlife.step_eq_none_iff hbuilt hget]
    rintro ⟨htype, l, -, -, lg, hlg', -, hnone⟩
    rw [hlg, Option.some_inj] at hlg'
    subst hlg'
    obtain ⟨topo₀, -, hcharged⟩ := hreached.charged hstd.ne_leafSpine
    have hmem : event ∈ r.sim.eventQueue.events := by
      rw [Simulation.events_of_getNextEvent hget]
      exact Multiset.mem_cons_self _ _
    obtain ⟨h₀, h₁⟩ := hrate (hcharged.queued event hmem htype)
    rw [LinkGuardianSolution.getEffectiveLossRateCapacity_lg100gPerf h₀ h₁] at hnone
    cases hnone
  · -- the links that can run it cost what the table says, the others what they lose
    rw [hreached.totalEffectiveLossRate_eq hstd, hlg]
    rw [← Finset.sum_filter_add_sum_filter_not r.sim.topo.corruptingLinks
      fun l => r.sim.topo.fabric.getLinkguardianCapable l = true]
    refine add_le_add (add_le_add ?_ (le_of_eq ?_)) le_rfl
    · rw [← nsmul_eq_mul]
      refine Finset.sum_le_card_nsmul _ _ _ fun l hl => ?_
      obtain ⟨hC, hcapable⟩ := Finset.mem_filter.mp hl
      obtain ⟨h₀, h₁⟩ := hrate (hreached.failing hstd hC)
      have hperf := LinkGuardianSolution.getEffectiveLossRateCapacity_lg100gPerf h₀ h₁
      rw [performance_capable hcapable hperf]
      exact lg100gPerf_le h₀ h₁ hperf
    · refine Finset.sum_congr rfl fun l hl => ?_
      rw [performance_incapable (Bool.eq_false_iff.mpr (Finset.mem_filter.mp hl).2)]
  · rw [hreached.totalEffectiveLossRate_eq hstd, hreached.totalLossRate_eq hstd, hlg]
    refine add_le_add (Finset.sum_le_sum fun l hl => performance_le ?_) le_rfl
    have hfailing := hreached.failing hstd hl
    obtain ⟨h₀, h₁⟩ := hrate hfailing
    obtain ⟨time, hx⟩ := hfailing
    exact (lg100gPerf_le_iff h₀ h₁).mpr (hlow _ hx)

/-- Between two failures of links that can run LinkGuardian. -/
theorem shipped_table_run_two_failures : ∃ sim r₀ r,
    Simulation.init (Simulation.twoFailures .linkGuardian).withShippedTable
      Simulation.quickRepairs = some sim ∧
    Running.start sim = some r₀ ∧
    run Running.step r₀ [Simulation.sortedOrders] = some r ∧
    r.sim.topo.corruptingLinks.Nonempty ∧ ∀ next, (r.step next).isSome := by
  have hsome : (Simulation.init (Simulation.twoFailures .linkGuardian).withShippedTable
      Simulation.quickRepairs).any (fun sim =>
        decide (∀ x ∈ (Simulation.twoFailures .linkGuardian).withShippedTable.failureEventsList,
          (sim.topo.fabric.lookupLink x.2.1).isSome ∧ 0 ≤ x.2.2 ∧ x.2.2 ≤ 1) &&
        (Running.start sim).any fun r =>
          (run Running.step r [Simulation.sortedOrders]).any fun r =>
            decide r.sim.topo.corruptingLinks.Nonempty && r.sim.eventQueue.getNextEvent.isSome) =
      true := by
    decide +kernel
  obtain ⟨sim, hinit, hsome⟩ := (Option.any_eq_true _ _).mp hsome
  obtain ⟨htrace, hsome⟩ := (Bool.and_eq_true _ _).mp hsome
  obtain ⟨r₀, hstart, hsome⟩ := (Option.any_eq_true _ _).mp hsome
  obtain ⟨r, hrun, hsome⟩ := (Option.any_eq_true _ _).mp hsome
  obtain ⟨hcorr, hnext⟩ := (Bool.and_eq_true _ _).mp hsome
  have hstd : (Simulation.twoFailures .linkGuardian).withShippedTable.Standard :=
    Simulation.standard_twoFailures .linkGuardian
  have htable : (Simulation.twoFailures .linkGuardian).withShippedTable.linkguardian =
      .new lg100gPerf := rfl
  obtain ⟨r₁, hstart', hruns⟩ :=
    shipped_table_run hstd (.inl rfl) htable hinit (of_decide_eq_true htrace)
  rw [hstart, Option.some_inj] at hstart'
  subst hstart'
  exact ⟨sim, r₀, r, hinit, hstart, hrun, of_decide_eq_true hcorr, (hruns _ r hrun).1 hnext⟩

end LinkGuardian.Simulator
