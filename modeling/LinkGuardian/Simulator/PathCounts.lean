import LinkGuardian.Simulator.Invariant

/-!
# The number of paths to the core

Links are disabled and enabled in any order that the simulation allows.  The number of paths
that is stored for a ToR, the one computed from the lists of aggs and the numbers of uplinks,
and the one found by traversing the graph stay the same.

A path leads over one agg, so the simulator adds up the uplinks of the aggs where the graph would
have to be traversed; the traversal by `networkx` is the specification here.
-/

namespace LinkGuardian.Simulator

open Execution Fabric Removal

/-! ## Operations on links -/

/-- What the simulation and its solutions do about the paths of a topology. -/
inductive LinkOp
  | fail (linkId : ℕ) (lossRate : ℚ)
  | disable (linkId : ℕ)
  | enable (linkId : ℕ)

namespace LinkOp

def linkId : LinkOp → ℕ
  | fail linkId _ => linkId
  | disable linkId => linkId
  | enable linkId => linkId

def step (topo : Topology) : LinkOp → Option Topology
  | fail linkId lossRate => Simulation.recordFailure topo linkId lossRate
  | disable linkId => topo.disableLink linkId
  | enable linkId => topo.enableLink linkId

/-- Only an enabled link fails or is disabled, and only a disabled one is enabled.  The failure
of a link is recorded before it is disabled: `disableLink` takes it off the corrupting links. -/
def Allowed (topo : Topology) : LinkOp → Prop
  | fail linkId _ => linkId ∈ topo.enabledLinks
  | disable linkId => linkId ∈ topo.enabledLinks ∧ linkId ∈ topo.corruptingLinks
  | enable linkId => linkId ∈ topo.disabledLinks

instance (topo : Topology) : ∀ op, Decidable (Allowed topo op)
  | fail l _ => inferInstanceAs (Decidable (l ∈ topo.enabledLinks))
  | disable l => inferInstanceAs (Decidable (l ∈ topo.enabledLinks ∧ l ∈ topo.corruptingLinks))
  | enable l => inferInstanceAs (Decidable (l ∈ topo.disabledLinks))

variable {f : Fabric} {topo topo' : Topology} {op : LinkOp}

/-- **An allowed operation does not raise**, and keeps the topology coherent. -/
lemma step_total (topo : Topology) (op : LinkOp) (h : CoherentOver f topo)
    (hallowed : Allowed topo op) : ∃ topo', step topo op = some topo' ∧ CoherentOver f topo' := by
  cases op with
  | fail l lossRate =>
    obtain ⟨topo', hs, -⟩ := h.coherent.recordFailure hallowed lossRate
    exact ⟨topo', hs, (h.recordFailure hallowed hs).1⟩
  | disable l =>
    obtain ⟨topo', hs, -⟩ := h.coherent.disableLink hallowed.2
    exact ⟨topo', hs, h.disableLink hs⟩
  | enable l =>
    obtain ⟨topo', hs, -⟩ := h.coherent.enableLink hallowed
    exact ⟨topo', hs, h.enableLink hs⟩

/-- An operation changes no disabled link but its own. -/
lemma mem_disabledLinks_step (h : Coherent topo) (hallowed : Allowed topo op)
    (hs : step topo op = some topo') {l : ℕ} (hne : l ≠ op.linkId) :
    l ∈ topo'.disabledLinks ↔ l ∈ topo.disabledLinks := by
  cases op with
  | fail l' lossRate =>
    obtain ⟨topo'', hs', ht⟩ := h.recordFailure hallowed lossRate
    have heq : topo' = topo'' := Option.some_inj.mp (hs.symm.trans hs')
    rw [heq, ht.disabledLinks]
  | disable l' =>
    rw [(h.disabled_of_disableLink hs).disabledLinks, Finset.mem_insert]
    exact or_iff_right hne
  | enable l' =>
    rw [(h.enabled_of_enableLink hs).disabledLinks, Finset.mem_erase]
    exact and_iff_right hne

lemma linkId_mem_links (h : Coherent topo) (hallowed : Allowed topo op) :
    op.linkId ∈ topo.fabric.links := by
  cases op with
  | fail l lossRate => exact (Coherent.mem_enabledLinks.mp hallowed).1
  | disable l => exact (Coherent.mem_enabledLinks.mp hallowed.1).1
  | enable l => exact h.disabled_subset hallowed

end LinkOp

/-! ## The three counts -/

/-- The stored number of paths of each ToR is the one computed from the switches, and the number
of paths that a traversal finds. -/
def PathsExact (topo : Topology) : Prop :=
  ∀ tor ∈ topo.fabric.switchTypewiseList .TOR,
    topo.getCurrNumPathsToCore tor = some (topo.numPathsToCore tor) ∧
      ((topo.getPathsToCore tor).length : ℤ) = topo.numPathsToCore tor

section Counts

variable {topo topo₀ : Topology} (hbuilt : Built topo₀)
  (h : CoherentOver topo₀.fabric topo)
include hbuilt h

/-- The traversal finds the paths of the two tiers. -/
lemma length_getPathsToCore {tor : ℕ} (htor : tor ∈ topo.fabric.switchTypewiseList .TOR) :
    (topo.getPathsToCore tor).length = topo.fabric.tiers.paths tor topo.disabledLinks := by
  have hcharted : topo.fabric.Charted := h.fabric ▸ hbuilt.fresh.charted
  have htiers : topo.fabric.type.tiers = 3 := h.fabric ▸ hbuilt.tiers
  exact Fabric.length_getPathsToCore h.coherent.wired hcharted htiers h.coherent.disabled
    ((hcharted.mem_switchTypewiseList _ _).mp htor).2

lemma getCurrNumPathsToCore_tor {tor : ℕ} (htor : tor ∈ topo.fabric.switchTypewiseList .TOR) :
    topo.getCurrNumPathsToCore tor =
      some (topo.fabric.tiers.paths tor topo.disabledLinks : ℤ) := by
  have hcharted : topo.fabric.Charted := h.fabric ▸ hbuilt.fresh.charted
  exact Topology.getCurrNumPathsToCore_eq h.coherent.wired h.coherent.attached
    ((hcharted.mem_switchTypewiseList _ _).mp htor).2

lemma pathsExact : PathsExact topo := by
  intro tor htor
  rw [getCurrNumPathsToCore_tor hbuilt h htor, length_getPathsToCore hbuilt h htor,
    h.coherent.numPathsToCore tor htor]
  exact ⟨rfl, rfl⟩

end Counts

/-- Two sets that agree but for a link that is on no path of the ToR. -/
lemma paths_congr_of_ne {f : Fabric} {D D' : Finset ℕ} {l tor : ℕ} (hl : ¬ f.tiers.OnPath l tor)
    (hD : ∀ m, m ≠ l → (m ∈ D' ↔ m ∈ D)) : f.tiers.paths tor D' = f.tiers.paths tor D := by
  have hinsert : insert l D' = insert l D := by
    ext m
    rw [Finset.mem_insert, Finset.mem_insert]
    by_cases hm : m = l
    · exact iff_of_true (.inl hm) (.inl hm)
    · exact or_congr Iff.rfl (hD m hm)
  rw [← TwoTier.paths_insert _ D' hl, hinsert, TwoTier.paths_insert _ D hl]

/-- **Counting incrementally is counting by traversal.**  After any operations on the links of a
built topology, each one allowed, the three numbers of paths of each ToR are equal, and the next
operation leaves the ToRs alone that its link does not affect.  The numbers are equal in every
state of a simulation, too. -/
theorem path_counts_exact {config : Config} (hstd : config.Standard) :
    (∀ shuffle topo₀ ops, config.buildTopo shuffle = some topo₀ →
      Along LinkOp.step LinkOp.Allowed topo₀ ops →
      ∃ topo, run LinkOp.step topo₀ ops = some topo ∧ PathsExact topo ∧
        ∀ op, LinkOp.Allowed topo op → ∃ topo', LinkOp.step topo op = some topo' ∧
          ∀ tor ∈ topo.fabric.switchTypewiseList .TOR,
            tor ∉ topo.fabric.linkIdToAffectedTors op.linkId →
            topo'.numPathsToCore tor = topo.numPathsToCore tor ∧
            topo'.getCurrNumPathsToCore tor = topo.getCurrNumPathsToCore tor ∧
            (topo'.getPathsToCore tor).length = (topo.getPathsToCore tor).length) ∧
    ∀ chance sim, Simulation.Reached config chance sim → PathsExact sim.topo := by
  refine ⟨fun shuffle topo₀ ops hbuild hallowed => ?_, fun chance sim hr => ?_⟩
  · have hbuilt := config.built hstd.ne_leafSpine hbuild
    obtain ⟨topo, hrun, h⟩ := run_total_along (LinkOp.step_total (f := topo₀.fabric))
      ⟨hbuilt.coherent, rfl⟩ hallowed
    refine ⟨topo, hrun, pathsExact hbuilt h, fun op hop => ?_⟩
    obtain ⟨topo', hs, h'⟩ := LinkOp.step_total topo op h hop
    refine ⟨topo', hs, fun tor htor hnot => ?_⟩
    have hf : topo'.fabric = topo.fabric := h'.fabric.trans h.fabric.symm
    have htor' : tor ∈ topo'.fabric.switchTypewiseList .TOR := hf ▸ htor
    -- the tables say which ToRs a link affects, and no path of another ToR leads over it
    have hpath : ¬ topo.fabric.tiers.OnPath op.linkId tor := fun hp => hnot
      ((h.coherent.wired.affectedTors _ (LinkOp.linkId_mem_links h.coherent hop) tor).mpr hp)
    have hsame : topo'.fabric.tiers.paths tor topo'.disabledLinks =
        topo.fabric.tiers.paths tor topo.disabledLinks := by
      rw [hf]
      exact paths_congr_of_ne hpath fun m hm =>
        LinkOp.mem_disabledLinks_step h.coherent hop hs hm
    refine ⟨?_, ?_, ?_⟩
    · rw [h'.coherent.numPathsToCore tor htor', h.coherent.numPathsToCore tor htor, hsame]
    · rw [getCurrNumPathsToCore_tor hbuilt h' htor', getCurrNumPathsToCore_tor hbuilt h htor,
        hsame]
    · rw [length_getPathsToCore hbuilt h' htor', length_getPathsToCore hbuilt h htor, hsame]
  · obtain ⟨topo₀, -, hbuilt, h⟩ := hr.coherentOver hstd.ne_leafSpine
    exact pathsExact hbuilt h

/-- Disabling two links and enabling one of them in the smallest FatTree. -/
theorem path_counts_exact_two_links : ∃ topo₀ topo,
    (Simulation.twoFailures .corrOpt).buildTopo id = some topo₀ ∧
      run LinkOp.step topo₀ [.fail 0 (1 / 1000), .fail 1 (1 / 1000), .disable 1, .disable 0,
        .enable 1] = some topo ∧ PathsExact topo := by
  have hsome : ((Simulation.twoFailures .corrOpt).buildTopo id).isSome = true := by
    decide +kernel
  have hallowed : ∀ topo₀ ∈ (Simulation.twoFailures .corrOpt).buildTopo id,
      Along LinkOp.step LinkOp.Allowed topo₀ [.fail 0 (1 / 1000), .fail 1 (1 / 1000), .disable 1,
        .disable 0, .enable 1] := by decide +kernel
  obtain ⟨topo₀, hbuild⟩ := Option.isSome_iff_exists.mp hsome
  obtain ⟨topo, hrun, hexact, -⟩ := (path_counts_exact (Simulation.standard_twoFailures _)).1 id
    topo₀ _ hbuild (hallowed topo₀ hbuild)
  exact ⟨topo₀, topo, hbuild, hrun, hexact⟩

end LinkGuardian.Simulator
