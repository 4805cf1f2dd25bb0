import LinkGuardian.Simulator.Capacity

/-!
# What if is what happens

CorrOpt computes which ToRs would be short of paths if a set of links were disabled, without
disabling them: the lists of aggs that it shortens are copies.  Here this is compared with
disabling the links of the set one after the other.

What is compared is the set of ToRs that the check returns, with the ToRs below the links that are
short in the topology after disabling.
-/

namespace LinkGuardian.Simulator

open Removal Fabric

/-! ## Disabling links one after the other -/

namespace Topology

/-- Call `disableLink` on each link of the list. -/
def disableLinks (topo : Topology) (links : List ℕ) : Option Topology :=
  links.foldlM (fun topo linkId => topo.disableLink linkId) topo

/-- A solution that disables links does to the topology what the calls do. -/
lemma map_disableAll (time : ℤ) (links : List ℕ) (a : Acting) :
    (a.disableAll time links).map Acting.topo = a.topo.disableLinks links := by
  induction links generalizing a with
  | nil => rfl
  | cons l links ih =>
    show Option.map _ (Option.bind (a.disable time l) fun b => b.disableAll time links) =
      Option.bind (a.topo.disableLink l) fun topo => topo.disableLinks links
    cases hdis : a.topo.disableLink l with
    | none => simp [Acting.disable, hdis]
    | some topo => simp [Acting.disable, hdis, ih]

/-- **Corrupting links can be disabled in any order**, and the order does not matter for the
links that are disabled then. -/
lemma disableLinks_total {topo : Topology} (h : Coherent topo) {links : List ℕ}
    (hnodup : links.Nodup) (hsub : ∀ l ∈ links, l ∈ topo.corruptingLinks) :
    ∃ topo', topo.disableLinks links = some topo' ∧ Coherent topo' ∧
      topo'.fabric = topo.fabric ∧
      topo'.disabledLinks = topo.disabledLinks ∪ links.toFinset := by
  have hstart : Coherent ({ topo := topo, gen := { draws := fun _ => 0 } } : Acting).topo := h
  obtain ⟨a, ha, hd⟩ := disableAll_total hstart hnodup hsub 0
  refine ⟨a.topo, ?_, hd.coherent, hd.fabric, hd.disabledLinks⟩
  rw [← map_disableAll 0 links { topo := topo, gen := { draws := fun _ => 0 } }, ha]
  simp

end Topology

/-! ## The states in which CorrOpt checks -/

/-- The topologies of a run with a solution: between two events, and while an event is handled,
after each change of a link. -/
inductive Visited (config : Config) (chance : Chance) (sol : Solution) : Topology → Prop
  | reached {sim : Simulation} (h : Simulation.Reached config chance sim)
      (hsol : sim.solution = sol) : Visited config chance sol sim.topo
  | failed {topo topo' : Topology} {l : ℕ} {lossRate : ℚ} (h : Visited config chance sol topo)
      (hl : l ∈ topo.enabledLinks)
      (hs : Simulation.recordFailure topo l lossRate = some topo') :
      Visited config chance sol topo'
  | activated {topo topo' : Topology} {linkguardian : LinkGuardianSolution} {l : ℕ} {lossRate : ℚ}
      (h : Visited config chance sol topo) (hl : l ∈ topo.corruptingLinks)
      (hs : linkguardian.processFailureEvent topo l lossRate = some topo') :
      Visited config chance sol topo'
  | disabled {topo topo' : Topology} {l : ℕ} (h : Visited config chance sol topo)
      (hs : topo.disableLink l = some topo') : Visited config chance sol topo'
  | enabled {topo topo' : Topology} {l : ℕ} (h : Visited config chance sol topo)
      (hs : topo.enableLink l = some topo') : Visited config chance sol topo'

variable {config : Config} {chance : Chance} {sol : Solution} {corropt : CorrOptSolution}
  {topo : Topology}

/-- Each of them is coherent. -/
lemma Visited.coherentOver (h : Visited config chance sol topo) (hc : sol.corropt = some corropt) :
    ∃ topo₀, Built topo₀ ∧ CoherentOver topo₀.fabric topo := by
  induction h with
  | reached h hsol =>
    obtain ⟨topo₀, -, hbuilt, hover⟩ := h.coherentOver (h.ne_leafSpine (hsol ▸ hc))
    exact ⟨topo₀, hbuilt, hover⟩
  | failed h hl hs ih =>
    obtain ⟨topo₀, hbuilt, hover⟩ := ih
    exact ⟨topo₀, hbuilt, (hover.recordFailure hl hs).1⟩
  | activated h hl hs ih =>
    obtain ⟨topo₀, hbuilt, hover⟩ := ih
    exact ⟨topo₀, hbuilt, hover.linkguardian hl hs⟩
  | disabled h hs ih =>
    obtain ⟨topo₀, hbuilt, hover⟩ := ih
    exact ⟨topo₀, hbuilt, hover.disableLink hs⟩
  | enabled h hs ih =>
    obtain ⟨topo₀, hbuilt, hover⟩ := ih
    exact ⟨topo₀, hbuilt, hover.enableLink hs⟩

/-! ## The checks -/

namespace CorrOptSolution

/-- The ToRs below the links that would have too few paths to the core in `topo'`. -/
def shortIn (corropt : CorrOptSolution) (f : Fabric) (S : Finset ℕ) (topo' : Topology) :
    Finset ℕ :=
  (S.biUnion f.linkIdToAffectedTors).filter fun tor =>
    topo'.numPathsToCore tor < corropt.minActivePathsConstraint

/-- **The check of a set foretells what happens.** -/
lemma check_eq_shortIn {topo₀ : Topology} (hbuilt : Built topo₀)
    (h : CoherentOver topo₀.fabric topo) (order : SetOrder) {S : Finset ℕ}
    (hS : S ⊆ topo.corruptingLinks) {links : List ℕ} (hnodup : links.Nodup)
    (hset : links.toFinset = S) : ∃ topo', topo.disableLinks links = some topo' ∧
      corropt.getTorsWithCapacityConstraintViolation order topo S =
        some (corropt.shortIn topo.fabric S topo') := by
  have hen : S ⊆ topo.enabledLinks := fun l hl => h.coherent.enabled_of_corrupting (hS hl)
  have hcharted : topo.fabric.Charted := h.fabric ▸ hbuilt.fresh.charted
  obtain ⟨topo', hs, hco, hf, hD⟩ := Topology.disableLinks_total h.coherent hnodup fun l hl =>
    hS (hset ▸ List.mem_toFinset.mpr hl)
  refine ⟨topo', hs, ?_⟩
  rw [corropt.getTorsWithCapacityConstraintViolation_eq h.coherent order hen, Option.some_inj]
  refine Finset.filter_congr fun tor htor => ?_
  obtain ⟨l, hl, htor⟩ := Finset.mem_biUnion.mp htor
  have hlinks := (Coherent.mem_enabledLinks.mp (hen hl)).1
  have htors : tor ∈ topo'.fabric.switchTypewiseList .TOR := by
    rw [hf]
    exact mem_tors_of_affected h.coherent hcharted hlinks htor
  rw [Short, hco.numPathsToCore tor htors, hf, hD, hset]

/-- **The fast checker decides by the check of its link alone.** -/
lemma fastChecker_cases {topo₀ : Topology} (hbuilt : Built topo₀)
    (h : CoherentOver topo₀.fabric topo) (order : SetOrder) (gen : RandGen) (time : ℤ) {l : ℕ}
    (hl : l ∈ topo.corruptingLinks) :
    ∃ a violation, corropt.corroptFastChecker topo gen time l = some a ∧
      corropt.getTorsWithCapacityConstraintViolation order topo {l} = some violation ∧
      (violation = ∅ ∧ topo.disableLink l = some a.topo ∨ violation ≠ ∅ ∧ a.topo = topo) := by
  have hen := h.coherent.enabled_of_corrupting hl
  have hlinks := h.coherent.corrupting_subset hl
  have hcheck := corropt.fastCheckViolation_eq h.coherent hen
  have hset := corropt.getTorsWithCapacityConstraintViolation_eq h.coherent order
    (Finset.singleton_subset_iff.mpr hen)
  rw [Finset.singleton_biUnion] at hset
  unfold corroptFastChecker
  cases hfind : (setToList (topo.fabric.linkIdToAffectedTors l)).find? fun t =>
      decide (corropt.Short topo {l} t) with
  | none =>
    rw [hfind] at hcheck
    obtain ⟨topo', hdis, -⟩ := h.coherent.disableLink hl
    refine ⟨_, _, Option.bind_eq_some_iff.mpr ⟨_, hcheck, Acting.disable_eq_some.mpr
      ⟨topo', hdis, rfl⟩⟩, hset, .inl ⟨Finset.filter_eq_empty_iff.mpr fun t ht hshort => ?_, hdis⟩⟩
    exact List.find?_eq_none.mp hfind t (mem_setToList.mpr ht) (decide_eq_true hshort)
  | some t =>
    rw [hfind] at hcheck
    have hmem := mem_setToList.mp (List.mem_of_find?_eq_some hfind)
    have hshort : decide (corropt.Short topo {l} t) = true :=
      List.find?_some (p := fun t => decide (corropt.Short topo {l} t)) hfind
    have htor := mem_tors_of_affected h.coherent (h.fabric ▸ hbuilt.fresh.charted) hlinks hmem
    have hpaths : topo.fabric.pathsToCore t ≠ [] := by
      rw [h.fabric] at htor ⊢
      exact hbuilt.pathsToCore t htor
    refine ⟨_, _, Option.bind_eq_some_iff.mpr ⟨_, hcheck, Option.bind_eq_some_iff.mpr
      ⟨(), if_pos hpaths, rfl⟩⟩, hset, .inr ⟨Finset.Nonempty.ne_empty ⟨t, ?_⟩, rfl⟩⟩
    exact Finset.mem_filter.mpr ⟨hmem, of_decide_eq_true hshort⟩

end CorrOptSolution

/-- **What if is what happens.**  In every state of a run with CorrOpt, also while an event is
handled, the check of a set of corrupting links is a function of the topology and returns the
ToRs below its links that have too few paths after the links are disabled, in any order; and the
fast checker disables a link when the check of this link returns none, and else leaves the
topology as it is. -/
theorem what_if_exact (h : Visited config chance sol topo) (hc : sol.corropt = some corropt)
    (order : SetOrder) :
    (∀ S ⊆ topo.corruptingLinks, ∀ links : List ℕ, links.Nodup → links.toFinset = S →
      ∃ topo', topo.disableLinks links = some topo' ∧
        corropt.getTorsWithCapacityConstraintViolation order topo S =
          some (corropt.shortIn topo.fabric S topo')) ∧
    ∀ l ∈ topo.corruptingLinks, ∀ gen time, ∃ a violation,
      corropt.corroptFastChecker topo gen time l = some a ∧
      corropt.getTorsWithCapacityConstraintViolation order topo {l} = some violation ∧
      (violation = ∅ ∧ topo.disableLink l = some a.topo ∨ violation ≠ ∅ ∧ a.topo = topo) := by
  obtain ⟨topo₀, hbuilt, hover⟩ := h.coherentOver hc
  constructor
  · intro S hS links hnodup hset
    exact CorrOptSolution.check_eq_shortIn hbuilt hover order hS hnodup hset
  · intro l hl gen time
    exact CorrOptSolution.fastChecker_cases hbuilt hover order gen time hl

/-- The check of two links of the ToR and the uplink behind one of them, which together leave it too
few paths, while a recovery is handled. -/
theorem what_if_exact_five_failures : ∃ topo corropt,
    Visited (Simulation.fiveFailures .corrOpt) Simulation.quickRepairs (.corrOpt corropt) topo ∧
      topo.corruptingLinks = {2, 3, 6} ∧ ∃ topo', topo.disableLinks [6, 2, 3] = some topo' ∧
        corropt.getTorsWithCapacityConstraintViolation .sorted topo {2, 3, 6} =
          some (corropt.shortIn topo.fabric {2, 3, 6} topo') := by
  obtain ⟨sim, corropt, topo, h, hsol, henable, hset, -⟩ := Simulation.reached_fiveFailures
  have hvisited : Visited (Simulation.fiveFailures .corrOpt) Simulation.quickRepairs
      (.corrOpt corropt) topo := (Visited.reached h hsol).enabled henable
  have hc : (Solution.corrOpt corropt).corropt = some corropt := rfl
  exact ⟨topo, corropt, hvisited, hset, (what_if_exact hvisited hc .sorted).1 {2, 3, 6} hset.ge
    [6, 2, 3] (by decide) (by decide)⟩

end LinkGuardian.Simulator
