import LinkGuardian.Simulator.PathCounts
import LinkGuardian.Simulator.Reactions

/-!
# CorrOpt keeps the capacity constraint and optimizes

In every state of a run with CorrOpt, each ToR has as many paths to the core as the constraint
requires, and what the optimizer disables after a recovery is a best choice: no other set of
corrupting links that keeps the constraint has a larger total loss rate.

Both are statements about the optimizer and the fast checker in a running simulation.  The checkers
are proved right on a coherent topology, and coherence holds in every reached state.
-/

namespace LinkGuardian.Simulator

open Execution Removal Fabric

variable {config : Config} {chance : Chance} {sim : Simulation} {corropt : CorrOptSolution}

/-! ## The constraint of a run -/

namespace Simulation

lemma solution_step (sim : Simulation) (orders : SetOrders) (sim' : Simulation)
    (hs : sim.step orders = some sim') : sim'.solution = sim.solution := by
  obtain ⟨⟨event, queue⟩, -, hs⟩ := Option.bind_eq_some_iff.mp hs
  obtain ⟨l, -, hs⟩ := Option.bind_eq_some_iff.mp hs
  split at hs
  · split at hs
    · cases hs
      rfl
    · obtain ⟨topo, -, hs⟩ := Option.bind_eq_some_iff.mp hs
      obtain ⟨a, -, hs⟩ := Option.bind_eq_some_iff.mp hs
      exact (frame_acted hs).2.1
  · obtain ⟨topo, -, hs⟩ := Option.bind_eq_some_iff.mp hs
    obtain ⟨a, -, hs⟩ := Option.bind_eq_some_iff.mp hs
    exact (frame_acted hs).2.1
  · cases hs
    rfl

/-- The solution of a run is the one that was made at the start. -/
lemma Reached.newSolution (h : Reached config chance sim) :
    ∃ topo₀, config.buildTopo chance.podShuffle = some topo₀ ∧
      config.newSolution topo₀ = some sim.solution := by
  obtain ⟨sim₀, inputs, hinit, hrun⟩ := h
  have hkept : ∀ (s : Simulation) (e : SetOrders) (s' : Simulation),
      s.solution = sim₀.solution → s.step e = some s' → s'.solution = sim₀.solution :=
    fun s e s' hinv hs => (solution_step s e s' hs).trans hinv
  have hsame : sim.solution = sim₀.solution := run_invariant hkept rfl hrun
  obtain ⟨topo, hbuild, hinit⟩ := Option.bind_eq_some_iff.mp hinit
  obtain ⟨solution, hsol, hinit⟩ := Option.bind_eq_some_iff.mp hinit
  cases hinit
  exact ⟨topo, hbuild, hsame ▸ hsol⟩

end Simulation

/-- CorrOpt is made with the percentage of the configuration. -/
lemma Config.newSolution_corropt {topo : Topology} {sol : Solution}
    (hs : config.newSolution topo = some sol) (hc : sol.corropt = some corropt) :
    CorrOptSolution.new topo config.solutionParams.capacityConstraintPercent = some corropt := by
  unfold Config.newSolution at hs
  cases htype : config.solution with
  | corrOpt =>
    rw [htype] at hs
    obtain ⟨corropt', hnew, rfl⟩ := Option.map_eq_some_iff.mp hs
    cases hc
    exact hnew
  | lgCorrOpt =>
    rw [htype] at hs
    obtain ⟨corropt', hnew, rfl⟩ := Option.map_eq_some_iff.mp hs
    cases hc
    exact hnew
  | doNothing => rw [htype] at hs; cases hs; cases hc
  | disableAndRepair => rw [htype] at hs; cases hs; cases hc
  | linkGuardian => rw [htype] at hs; cases hs; cases hc

/-- A leaf-spine topology has no ToR to make CorrOpt with. -/
lemma Simulation.Reached.ne_leafSpine (h : Reached config chance sim)
    (hc : sim.solution.corropt = some corropt) : config.topoType ≠ .LeafSpine := by
  intro htype
  obtain ⟨topo₀, hbuild, hsol⟩ := h.newSolution
  have hnew := Config.newSolution_corropt hsol hc
  rw [Config.buildTopo, htype] at hbuild
  cases hbuild
  cases hnew

/-- At most 100 % of the paths are required. -/
lemma Built.kept_of_new {topo₀ : Topology} (hbuilt : Built topo₀) {percent : ℚ}
    (hpercent : percent ≤ 100) (hnew : CorrOptSolution.new topo₀ percent = some corropt) :
    topo₀.fabric.Kept corropt.minActivePathsConstraint ∅ := by
  obtain ⟨tor, htor, hnew⟩ := Option.bind_eq_some_iff.mp hnew
  obtain ⟨paths, hpaths, hnew⟩ := Option.bind_eq_some_iff.mp hnew
  cases hnew
  have htor := List.mem_of_getElem? htor
  obtain ⟨m, -, huniform⟩ := hbuilt.uniform
  rw [getCurrNumPathsToCore_tor hbuilt ⟨hbuilt.coherent, rfl⟩ htor, hbuilt.fresh.disabledLinks,
    huniform tor htor, Option.some_inj] at hpaths
  subst hpaths
  intro t ht
  show ⌈((m : ℤ) : ℚ) * percent / 100⌉ ≤ (topo₀.fabric.tiers.paths t ∅ : ℤ)
  rw [huniform t ht]
  refine Int.ceil_le.mpr ?_
  rw [Int.cast_natCast, div_le_iff₀ (by norm_num)]
  exact mul_le_mul_of_nonneg_left hpercent (Nat.cast_nonneg m)

/-- The constraint is kept while links are disabled, and always where it asks for at most all
paths. -/
lemma Simulation.Reached.kept (h : Reached config chance sim)
    (hc : sim.solution.corropt = some corropt)
    (hpercent : config.solutionParams.capacityConstraintPercent ≤ 100) :
    sim.topo.fabric.Kept corropt.minActivePathsConstraint sim.topo.disabledLinks := by
  obtain ⟨topo₀, -, hbuilt, hsol, hsteady⟩ := h.steady (h.ne_leafSpine hc)
  rcases sim.topo.disabledLinks.eq_empty_or_nonempty with hempty | hne
  · rw [hempty, hsteady.coherentOver.fabric]
    exact hbuilt.kept_of_new hpercent (Config.newSolution_corropt hsol hc)
  · exact hsteady.keeps corropt hc hne

/-- **CorrOpt never breaks the capacity constraint.**  In every state of a run with CorrOpt,
alone or with LinkGuardian, each ToR has as many paths over enabled links as required. -/
theorem capacity_constraint_kept (h : Simulation.Reached config chance sim)
    (hc : sim.solution.corropt = some corropt)
    (hpercent : config.solutionParams.capacityConstraintPercent ≤ 100) :
    ∀ tor ∈ sim.topo.fabric.switchTypewiseList .TOR,
      corropt.minActivePathsConstraint ≤ (sim.topo.getPathsToCore tor).length := by
  intro tor htor
  obtain ⟨topo₀, -, hbuilt, hover⟩ := h.coherentOver (h.ne_leafSpine hc)
  rw [length_getPathsToCore hbuilt hover htor]
  exact h.kept hc hpercent tor htor

lemma Simulation.corropt_twoFailures (h : Reached (twoFailures .lgCorrOpt) quickRepairs sim) :
    ∃ corropt, sim.solution.corropt = some corropt := by
  obtain ⟨topo₀, -, hsol⟩ := h.newSolution
  obtain ⟨corropt, -, heq⟩ := Option.map_eq_some_iff.mp hsol
  exact ⟨corropt, by rw [← heq]; rfl⟩

/-- Two failures at 50 %. -/
theorem capacity_constraint_kept_two_failures : ∃ sim corropt,
    Simulation.Reached (Simulation.twoFailures .lgCorrOpt) Simulation.quickRepairs sim ∧
      sim.solution.corropt = some corropt ∧
      ∀ tor ∈ sim.topo.fabric.switchTypewiseList .TOR,
        corropt.minActivePathsConstraint ≤ (sim.topo.getPathsToCore tor).length := by
  obtain ⟨sim, h⟩ := Simulation.reached_twoFailures
  obtain ⟨corropt, hc⟩ := Simulation.corropt_twoFailures h
  have hpercent : (50 : ℚ) ≤ 100 := by norm_num
  exact ⟨sim, corropt, h, hc, capacity_constraint_kept h hc hpercent⟩

/-! ## The optimizer -/

namespace CorrOptSolution

variable {topo : Topology} (sol : CorrOptSolution)

/-- Disabling the links as well leaves every ToR enough paths over enabled links. -/
def Feasible (topo : Topology) (F : Finset ℕ) : Prop :=
  ∀ tor ∈ topo.fabric.switchTypewiseList .TOR, sol.minActivePathsConstraint ≤
    (topo.fabric.getPathsToCore (fun l => topo.isLinkDisabled l || decide (l ∈ F)) tor).length

/-- The optimizer returns, and the links that it disables are a best choice among the corrupting
links: they are feasible, and no feasible set has a larger total loss rate. -/
def Optimizes (topo : Topology) : Prop :=
  ∀ orders gen time, ∃ a D, sol.corroptOptimizer orders topo gen time = some a ∧
    D ⊆ topo.corruptingLinks ∧ a.topo.disabledLinks = topo.disabledLinks ∪ D ∧
    a.topo.corruptingLinks = topo.corruptingLinks \ D ∧ sol.Feasible topo D ∧
    a.topo.totalLossRate = topo.totalLossRate - ∑ l ∈ D, topo.getLinkLossRate l ∧
    ∀ F ⊆ topo.corruptingLinks, sol.Feasible topo F →
      ∑ l ∈ F, topo.getLinkLossRate l ≤ ∑ l ∈ D, topo.getLinkLossRate l ∧
        a.topo.totalLossRate ≤ topo.totalLossRate - ∑ l ∈ F, topo.getLinkLossRate l

variable {sol} {topo₀ : Topology}

lemma feasible_iff_spare (hbuilt : Built topo₀) (h : CoherentOver topo₀.fabric topo)
    (F : Finset ℕ) : sol.Feasible topo F ↔ sol.Spare topo F := by
  have hcharted : topo.fabric.Charted := h.fabric ▸ hbuilt.fresh.charted
  have htiers : topo.fabric.type.tiers = 3 := h.fabric ▸ hbuilt.tiers
  have hD : ∀ l ∈ topo.fabric.links, (topo.isLinkDisabled l || decide (l ∈ F)) = true ↔
      l ∈ topo.disabledLinks ∪ F := by
    intro l hl
    rw [Bool.or_eq_true, decide_eq_true_iff, Finset.mem_union, h.coherent.disabled l hl]
  refine forall₂_congr fun tor htor => ?_
  rw [Fabric.length_getPathsToCore h.coherent.wired hcharted htiers hD
    ((hcharted.mem_switchTypewiseList _ _).mp htor).2]
  rfl

lemma Ready.optimizes (hbuilt : Built topo₀) (h : CoherentOver topo₀.fabric topo)
    (hready : Ready sol topo) (hrates : ∀ l ∈ topo.corruptingLinks, 0 ≤ topo.getLinkLossRate l) :
    sol.Optimizes topo := by
  intro orders gen time
  obtain ⟨a, links, hs, hchoice⟩ := hready.corroptOptimizer orders gen time
  have htotal : a.topo.totalLossRate =
      topo.totalLossRate - ∑ l ∈ links.toFinset, topo.getLinkLossRate l := by
    rw [hchoice.disabled.totalLossRate, List.sum_toFinset _ hchoice.nodup]
  refine ⟨a, links.toFinset, hs, fun l hl => hchoice.subset l (List.mem_toFinset.mp hl),
    hchoice.disabled.disabledLinks, hchoice.disabled.corruptingLinks,
    (feasible_iff_spare hbuilt h _).mpr hchoice.spare, htotal, fun F hF hfeasible => ?_⟩
  have hle := hchoice.best hrates F hF ((feasible_iff_spare hbuilt h F).mp hfeasible)
  refine ⟨hle, ?_⟩
  rw [htotal]
  exact sub_le_sub_left hle _

end CorrOptSolution

/-- **The optimizer is globally optimal.**  In every state of a run with CorrOpt in which a
recovery enables a link, the optimizer makes a best choice among all sets of corrupting links.
Where the constraint asks for at most all paths, it would do so in any state. -/
theorem optimizer_optimal (h : Simulation.Reached config chance sim)
    (hc : sim.solution.corropt = some corropt) :
    (∀ l topo, sim.topo.enableLink l = some topo →
      (∀ l ∈ topo.corruptingLinks, 0 ≤ topo.getLinkLossRate l) → corropt.Optimizes topo) ∧
    (config.solutionParams.capacityConstraintPercent ≤ 100 →
      (∀ l ∈ sim.topo.corruptingLinks, 0 ≤ sim.topo.getLinkLossRate l) →
        corropt.Optimizes sim.topo) := by
  obtain ⟨topo₀, -, hbuilt, -, hsteady⟩ := h.steady (h.ne_leafSpine hc)
  refine ⟨fun l topo henable hrates => ?_, fun hpercent hrates => ?_⟩
  · have hover := hsteady.coherentOver.enableLink henable
    have he := hsteady.coherentOver.coherent.enabled_of_enableLink henable
    exact (hover.ready hbuilt (hsteady.keeps.enabled (disabled_of_enableLink henable) he corropt
      hc)).optimizes hbuilt hover hrates
  · exact (hsteady.coherentOver.ready hbuilt (h.kept hc hpercent)).optimizes hbuilt
      hsteady.coherentOver hrates

/-- Two more links fail after them: the fourth one of the ToR, and the uplink behind the third. -/
def Simulation.fiveFailures (solution : SolutionType) : Config :=
  { threeFailures solution with
    failureEventsList := [(0, 0, 1 / 1000), (1, 1, 1 / 1000), (2, 2, 1 / 1000), (3, 3, 3 / 2000),
      (4, 6, 1 / 1000)] }

/-- The first two are disabled.  When one of them is enabled, the ToR can spare one of its three
paths: the one with the two links 2 and 6, or the one with link 3, whose rate is larger than each of
theirs. -/
lemma Simulation.reached_fiveFailures : ∃ sim corropt topo,
    Reached (fiveFailures .corrOpt) quickRepairs sim ∧ sim.solution = .corrOpt corropt ∧
      sim.topo.enableLink 0 = some topo ∧ topo.corruptingLinks = {2, 3, 6} ∧
      ∀ l ∈ topo.corruptingLinks, 0 ≤ topo.getLinkLossRate l := by
  have hrun : ((init (fiveFailures .corrOpt) quickRepairs).bind fun sim =>
      (run step sim (List.replicate 5 sortedOrders)).bind fun sim =>
        sim.topo.enableLink 0).any (fun topo =>
          decide (topo.corruptingLinks = {2, 3, 6} ∧
            ∀ l ∈ topo.corruptingLinks, 0 ≤ topo.getLinkLossRate l)) = true := by
    decide +kernel
  obtain ⟨topo, htopo, hcorr⟩ := (Option.any_eq_true _ _).mp hrun
  obtain ⟨sim₀, hinit, htopo⟩ := Option.bind_eq_some_iff.mp htopo
  obtain ⟨sim, hrun, henable⟩ := Option.bind_eq_some_iff.mp htopo
  have h : Reached (fiveFailures .corrOpt) quickRepairs sim := ⟨sim₀, _, hinit, hrun⟩
  obtain ⟨hset, hrates⟩ := of_decide_eq_true hcorr
  obtain ⟨topo₀, -, hsol⟩ := h.newSolution
  obtain ⟨corropt, -, heq⟩ := Option.map_eq_some_iff.mp hsol
  exact ⟨sim, corropt, topo, h, heq.symm, henable, hset, hrates⟩

/-- The choice between the two paths. -/
theorem optimizer_optimal_five_failures : ∃ sim corropt topo,
    Simulation.Reached (Simulation.fiveFailures .corrOpt) Simulation.quickRepairs sim ∧
      sim.solution.corropt = some corropt ∧ sim.topo.enableLink 0 = some topo ∧
      topo.corruptingLinks = {2, 3, 6} ∧ corropt.Optimizes topo := by
  obtain ⟨sim, corropt, topo, h, hsol, henable, hset, hrates⟩ := Simulation.reached_fiveFailures
  have hc : sim.solution.corropt = some corropt := by
    rw [hsol]
    rfl
  exact ⟨sim, corropt, topo, h, hc, henable, hset,
    (optimizer_optimal h hc).1 0 topo henable hrates⟩

end LinkGuardian.Simulator
