import LinkGuardian.Simulator.Invariant
import LinkGuardian.Simulator.Optimizer

/-!
# Reactions

What a solution does about an event on a coherent topology, all in all: it disables enabled links
and requests a recovery for each.  It raises only where LinkGuardian finds no entry in its table.
While links are disabled, the solutions with CorrOpt keep the capacity constraint.
-/

namespace LinkGuardian.Simulator

open Removal Fabric

namespace Solution

def corropt : Solution → Option CorrOptSolution
  | corrOpt corropt => some corropt
  | lgCorrOpt _ corropt => some corropt
  | _ => none

def linkguardian : Solution → Option LinkGuardianSolution
  | linkGuardian linkguardian => some linkguardian
  | lgCorrOpt linkguardian _ => some linkguardian
  | _ => none

/-- LinkGuardian is to be activated, but its table has no entry for the loss rate. -/
def Uncovered (sol : Solution) (f : Fabric) (l : ℕ) (lossRate : ℚ) : Prop :=
  ∃ linkguardian, sol.linkguardian = some linkguardian ∧ f.getLinkguardianCapable l = true ∧
    linkguardian.getEffectiveLossRateCapacity lossRate = none

/-- There LinkGuardian raises. -/
lemma processFailureEvent_of_uncovered {sol : Solution} {topo : Topology} {gen : RandGen}
    {time : ℤ} {l : ℕ} {lossRate : ℚ} (h : sol.Uncovered topo.fabric l lossRate) :
    sol.processFailureEvent topo gen time l lossRate = none := by
  obtain ⟨linkguardian, heq, hcapable, hperf⟩ := h
  have hraise : linkguardian.processFailureEvent topo l lossRate = none := by
    rw [LinkGuardianSolution.processFailureEvent, if_pos hcapable, hperf]
    rfl
  cases sol with
  | doNothing => cases heq
  | disableAndRepair => cases heq
  | corrOpt corropt => cases heq
  | linkGuardian _ =>
    cases heq
    show Option.bind (linkguardian.processFailureEvent topo l lossRate) _ = none
    rw [hraise]
    rfl
  | lgCorrOpt _ corropt =>
    cases heq
    show Option.bind (linkguardian.processFailureEvent topo l lossRate) _ = none
    rw [hraise]
    rfl

/-- While links are disabled, every ToR keeps the number of paths that CorrOpt requires. -/
def Keeps (sol : Solution) (topo : Topology) : Prop :=
  ∀ corropt, sol.corropt = some corropt → topo.disabledLinks.Nonempty →
    topo.fabric.Kept corropt.minActivePathsConstraint topo.disabledLinks

end Solution

/-- A reaction disables enabled links and requests their recoveries.  Which links these are is for
the solution; the queue and the disabled links are kept in step by whatever it chooses. -/
structure Reaction (topo : Topology) (links : List ℕ) (a : Acting) : Prop where
  coherentOver : CoherentOver topo.fabric a.topo
  nodup : links.Nodup
  enabled : ∀ l ∈ links, l ∉ topo.disabledLinks
  disabledLinks : a.topo.disabledLinks = topo.disabledLinks ∪ links.toFinset
  recoveries :
    (a.events.filter fun e => e.type = .RecoveryEvent).map LinkEvent.linkId = links.map Nat.cast
  noFailure : ∀ e ∈ a.events, e.type ≠ .FailureEvent

namespace Reaction

variable {topo topo' : Topology} {links : List ℕ} {a : Acting} {gen : RandGen}

/-- A reaction depends on what was disabled before. -/
lemma congr (hf : topo'.fabric = topo.fabric) (hD : topo'.disabledLinks = topo.disabledLinks)
    (h : Reaction topo' links a) : Reaction topo links a where
  coherentOver := hf ▸ h.coherentOver
  nodup := h.nodup
  enabled := hD ▸ h.enabled
  disabledLinks := hD ▸ h.disabledLinks
  recoveries := h.recoveries
  noFailure := h.noFailure

/-- Nothing is disabled. -/
lemma nop (h : Coherent topo) :
    Reaction topo [] { topo := topo, gen := gen, events := [nopEvent] } where
  coherentOver := ⟨h, rfl⟩
  nodup := List.nodup_nil
  enabled := nofun
  disabledLinks := (Finset.union_empty _).symm
  recoveries := rfl
  noFailure e he := by
    rw [List.mem_singleton.mp he]
    exact LinkEventType.noConfusion

lemma of_disabledAll (h : Coherent topo) (hnodup : links.Nodup)
    (hsub : ∀ l ∈ links, l ∈ topo.corruptingLinks)
    (hd : DisabledAll { topo := topo, gen := gen } links a) : Reaction topo links a where
  coherentOver := ⟨hd.coherent, hd.fabric⟩
  nodup := hnodup
  enabled l hl := Finset.disjoint_right.mp h.disjoint (hsub l hl)
  disabledLinks := hd.disabledLinks
  recoveries := by
    obtain ⟨recoveries, hevents, hids, htypes⟩ := hd.events
    have hall : (recoveries.filter fun e => e.type = .RecoveryEvent) = recoveries :=
      List.filter_eq_self.mpr fun e he => decide_eq_true (htypes e he)
    rw [hevents]
    show (recoveries.filter _).map _ = _
    rw [hall, hids]
  noFailure e he := by
    obtain ⟨recoveries, hevents, -, htypes⟩ := hd.events
    rw [hevents] at he
    rw [htypes e he]
    exact LinkEventType.noConfusion

end Reaction

/-! ## Failures -/

section Failures

variable {topo₀ topo : Topology} {l : ℕ} (hbuilt : Built topo₀)
  (h : CoherentOver topo₀.fabric topo) (gen : RandGen) (time : ℤ)
include hbuilt h

/-- Where the fast checker disables the first link, the constraint is kept from then on. -/
lemma CorrOptSolution.kept_of_check {sol : CorrOptSolution} (hl : l ∈ topo.enabledLinks)
    (hkeeps : topo.disabledLinks.Nonempty →
      topo.fabric.Kept sol.minActivePathsConstraint topo.disabledLinks)
    (hnone : ∀ t ∈ topo.fabric.linkIdToAffectedTors l, ¬ sol.Short topo {l} t) :
    topo.fabric.Kept sol.minActivePathsConstraint (topo.disabledLinks ∪ {l}) := by
  have hcharted : topo.fabric.Charted := h.fabric ▸ hbuilt.fresh.charted
  have hlinks := (Coherent.mem_enabledLinks.mp hl).1
  have hsub : {l} ⊆ topo.enabledLinks := Finset.singleton_subset_iff.mpr hl
  have hkept : topo.fabric.Kept sol.minActivePathsConstraint topo.disabledLinks := by
    rcases topo.disabledLinks.eq_empty_or_nonempty with hempty | hne
    · -- all ToRs have as many paths as one below the link, which would keep enough
      obtain ⟨t, ht⟩ := hbuilt.affects l (h.fabric ▸ hlinks)
      rw [← h.fabric] at ht
      have htaff := (h.coherent.wired.affectedTors l hlinks t).mpr ht
      have henough := not_lt.mp (hnone t htaff)
      obtain ⟨m, -, huniform⟩ := h.fabric ▸ hbuilt.uniform
      rw [hempty]
      intro t' ht'
      have heq : topo.fabric.tiers.paths t' ∅ = topo.fabric.tiers.paths t ∅ :=
        (huniform t' ht').trans
          (huniform t (CorrOptSolution.mem_tors_of_affected h.coherent hcharted hlinks htaff)).symm
      show _ ≤ (topo.fabric.tiers.paths t' ∅ : ℤ)
      rw [heq]
      exact henough.trans (Int.ofNat_le.mpr
        (topo.fabric.tiers.paths_anti t (Finset.empty_subset _)))
    · exact hkeeps hne
  refine (CorrOptSolution.kept_union_iff h.coherent hcharted hsub hkept).mpr fun t ht => ?_
  rw [Finset.singleton_biUnion] at ht
  exact hnone t ht

/-- **The fast checker** does nothing, or disables the link and keeps the constraint. -/
lemma CorrOptSolution.corroptFastChecker_total (sol : CorrOptSolution)
    (hl : l ∈ topo.corruptingLinks)
    (hkeeps : topo.disabledLinks.Nonempty →
      topo.fabric.Kept sol.minActivePathsConstraint topo.disabledLinks) :
    ∃ a links, sol.corroptFastChecker topo gen time l = some a ∧ Reaction topo links a ∧
      (a.topo.disabledLinks.Nonempty →
        a.topo.fabric.Kept sol.minActivePathsConstraint a.topo.disabledLinks) := by
  have hen := h.coherent.enabled_of_corrupting hl
  have hlinks := h.coherent.corrupting_subset hl
  have hcheck := sol.fastCheckViolation_eq h.coherent hen
  unfold CorrOptSolution.corroptFastChecker
  cases hfind : (setToList (topo.fabric.linkIdToAffectedTors l)).find? fun t =>
      decide (sol.Short topo {l} t) with
  | none =>
    rw [hfind] at hcheck
    have hnone : ∀ t ∈ topo.fabric.linkIdToAffectedTors l, ¬ sol.Short topo {l} t := by
      intro t ht hshort
      exact List.find?_eq_none.mp hfind t (mem_setToList.mpr ht) (decide_eq_true hshort)
    obtain ⟨a, hs, hd⟩ := (disabledAll_nil (a := { topo := topo, gen := gen }) h.coherent).disable
      h.coherent hl List.not_mem_nil time
    refine ⟨a, [l], Option.bind_eq_some_iff.mpr ⟨_, hcheck, hs⟩,
      .of_disabledAll h.coherent (List.nodup_singleton l) (fun m hm => ?_) hd, fun _ => ?_⟩
    · rwa [List.mem_singleton.mp hm]
    · rw [hd.fabric, hd.disabledLinks]
      exact kept_of_check hbuilt h hen hkeeps hnone
  | some t =>
    rw [hfind] at hcheck
    have ht := mem_tors_of_affected h.coherent (h.fabric ▸ hbuilt.fresh.charted) hlinks
      (mem_setToList.mp (List.mem_of_find?_eq_some hfind))
    have hpaths : topo.fabric.pathsToCore t ≠ [] := by
      rw [h.fabric] at ht ⊢
      exact hbuilt.pathsToCore t ht
    refine ⟨_, [], Option.bind_eq_some_iff.mpr ⟨_, hcheck, Option.bind_eq_some_iff.mpr
      ⟨(), if_pos hpaths, rfl⟩⟩, .nop h.coherent, hkeeps⟩

omit hbuilt in
/-- LinkGuardian disables nothing, and raises only where its table has no entry. -/
lemma CoherentOver.linkguardian_total (sol : LinkGuardianSolution) (hl : l ∈ topo.corruptingLinks)
    (lossRate : ℚ) :
    (∃ topo', sol.processFailureEvent topo l lossRate = some topo' ∧
      CoherentOver topo₀.fabric topo' ∧ l ∈ topo'.corruptingLinks ∧
      topo'.fabric = topo.fabric ∧ topo'.disabledLinks = topo.disabledLinks) ∨
    (topo.fabric.getLinkguardianCapable l = true ∧
      sol.getEffectiveLossRateCapacity lossRate = none) := by
  rcases h.coherent.linkguardian_cases hl sol lossRate with ⟨-, hs⟩ | ⟨hcapable, hperf, -⟩ |
    ⟨perf, topo', -, -, hs, ht⟩
  · exact .inl ⟨topo, hs, h, hl, rfl, rfl⟩
  · exact .inr ⟨hcapable, hperf⟩
  · exact .inl ⟨topo', hs, h.touched (h.coherent.enabled_of_corrupting hl) ht,
      ht.mem_corruptingLinks, ht.set.fabric, ht.disabledLinks⟩

/-- **A failure is handled**, unless LinkGuardian finds no entry in its table. -/
theorem Solution.processFailureEvent_total (sol : Solution) (hl : l ∈ topo.corruptingLinks)
    (lossRate : ℚ) (hkeeps : sol.Keeps topo) :
    (∃ a links, sol.processFailureEvent topo gen time l lossRate = some a ∧
      Reaction topo links a ∧ sol.Keeps a.topo) ∨ sol.Uncovered topo.fabric l lossRate := by
  cases sol with
  | doNothing => exact .inl ⟨_, [], rfl, .nop h.coherent, nofun⟩
  -- the link is disabled without a look at the constraint
  | disableAndRepair =>
    obtain ⟨topo', hs, hd⟩ := h.coherent.disableLink hl
    refine .inl ⟨_, [l], Option.bind_eq_some_iff.mpr ⟨topo', hs, rfl⟩, ?_, nofun⟩
    exact {
      coherentOver := ⟨hd.coherent h.coherent hl, hd.set.fabric⟩
      nodup := List.nodup_singleton l
      enabled := fun m hm => by
        rw [List.mem_singleton.mp hm]
        exact Finset.disjoint_right.mp h.coherent.disjoint hl
      disabledLinks := by
        rw [hd.disabledLinks, Finset.insert_eq, Finset.union_comm]
        rfl
      recoveries := rfl
      noFailure := fun e he => by
        rw [List.mem_singleton.mp he]
        exact LinkEventType.noConfusion }
  | corrOpt corropt =>
    obtain ⟨a, links, hs, hr, hkept⟩ := corropt.corroptFastChecker_total hbuilt h gen time hl
      (hkeeps corropt rfl)
    refine .inl ⟨a, links, hs, hr, fun corropt' heq => ?_⟩
    cases heq
    exact hkept
  | linkGuardian linkguardian =>
    rcases h.linkguardian_total linkguardian hl lossRate with
      ⟨topo', hs, h', -, hf, hD⟩ | ⟨hcapable, hperf⟩
    · exact .inl ⟨_, [], Option.bind_eq_some_iff.mpr ⟨topo', hs, rfl⟩,
        (Reaction.nop h'.coherent).congr hf hD, nofun⟩
    · exact .inr ⟨linkguardian, rfl, hcapable, hperf⟩
  -- what LinkGuardian did leaves the fabric and the disabled links as they were, and CorrOpt
  -- decides by these
  | lgCorrOpt linkguardian corropt =>
    rcases h.linkguardian_total linkguardian hl lossRate with
      ⟨topo', hs, h', hl', hf, hD⟩ | ⟨hcapable, hperf⟩
    · obtain ⟨a, links, ha, hr, hkept⟩ := corropt.corroptFastChecker_total hbuilt h' gen time hl'
        (by rw [hf, hD]; exact hkeeps corropt rfl)
      refine .inl ⟨a, links, Option.bind_eq_some_iff.mpr ⟨topo', hs, ha⟩, hr.congr hf hD,
        fun corropt' heq => ?_⟩
      cases heq
      exact hkept
    · exact .inr ⟨linkguardian, rfl, hcapable, hperf⟩

end Failures

/-! ## Recoveries -/

section Recoveries

variable {topo₀ topo : Topology} (hbuilt : Built topo₀)
  (h : CoherentOver topo₀.fabric topo)
include hbuilt h

/-- The optimizer runs where the constraint is kept. -/
lemma CoherentOver.ready {sol : CorrOptSolution}
    (hkept : topo.fabric.Kept sol.minActivePathsConstraint topo.disabledLinks) :
    CorrOptSolution.Ready sol topo where
  coherent := h.coherent
  charted := h.fabric ▸ hbuilt.fresh.charted
  kept := hkept

/-- **The callback after a recovery returns.**  No solution looks at its table here, so nothing can
be missing. -/
theorem Solution.postRecoveryEventCb_total (sol : Solution) (orders : SetOrders) (gen : RandGen)
    (time : ℤ) (hkept : ∀ corropt, sol.corropt = some corropt →
      topo.fabric.Kept corropt.minActivePathsConstraint topo.disabledLinks) :
    ∃ a links, sol.postRecoveryEventCb orders topo gen time = some a ∧ Reaction topo links a ∧
      sol.Keeps a.topo := by
  have hoptimizer : ∀ corropt, sol.corropt = some corropt →
      ∃ a links, corropt.corroptOptimizer orders topo gen time = some a ∧
        Reaction topo links a ∧ sol.Keeps a.topo := by
    intro corropt heq
    obtain ⟨a, links, hs, hchoice⟩ :=
      (h.ready hbuilt (hkept corropt heq)).corroptOptimizer orders gen time
    refine ⟨a, links, hs, .of_disabledAll h.coherent hchoice.nodup hchoice.subset hchoice.disabled,
      fun corropt' heq' _ => ?_⟩
    rw [heq, Option.some_inj] at heq'
    subst heq'
    rw [hchoice.disabled.fabric, hchoice.disabled.disabledLinks]
    exact hchoice.spare
  cases sol with
  | doNothing => exact ⟨_, [], rfl, .nop h.coherent, nofun⟩
  | disableAndRepair => exact ⟨_, [], rfl, .nop h.coherent, nofun⟩
  | corrOpt corropt => exact hoptimizer corropt rfl
  | linkGuardian linkguardian => exact ⟨_, [], rfl, .nop h.coherent, nofun⟩
  | lgCorrOpt linkguardian corropt => exact hoptimizer corropt rfl

end Recoveries

/-! ## Runs -/

section Keeps

variable {sol : Solution} {topo topo' : Topology} {l : ℕ}

/-- The constraint does not depend on what a failure records about a link. -/
lemma Solution.Keeps.touched {v : LinkState}
    (h : sol.Keeps topo) (ht : Touched topo l v topo') : sol.Keeps topo' := by
  intro corropt heq
  rw [ht.set.fabric, ht.disabledLinks]
  exact h corropt heq

/-- A recovery leaves more paths, so the constraint that was kept without the link is kept with
it. -/
lemma Solution.Keeps.enabled (h : sol.Keeps topo) (hl : l ∈ topo.disabledLinks)
    (he : Enabled topo l topo') (corropt : CorrOptSolution)
    (heq : sol.corropt = some corropt) :
    topo'.fabric.Kept corropt.minActivePathsConstraint topo'.disabledLinks := by
  rw [he.set.fabric, he.disabledLinks]
  exact (h corropt heq ⟨l, hl⟩).anti (Finset.erase_subset _ _)

end Keeps

namespace Simulation

variable {topo₀ : Topology} {sim sim' : Simulation} {orders : SetOrders}

/-- What holds between two events, whatever the queue returns.  The solution is the one made at the
start; with CorrOpt in it, the constraint is kept. -/
structure Steady (topo₀ : Topology) (sol : Solution) (sim : Simulation) : Prop where
  coherentOver : CoherentOver topo₀.fabric sim.topo
  solution : sim.solution = sol
  keeps : sol.Keeps sim.topo

lemma steady_processEvent (hbuilt : Built topo₀) {sol : Solution} {event : LinkEvent}
    (h : Steady topo₀ sol sim) (hs : sim.processEvent orders event = some sim') :
    Steady topo₀ sol sim' := by
  have hover := coherent_processEvent h.coherentOver hs
  cases processed hs with
  | ignored skippedLossEvents heq =>
    subst heq
    exact ⟨hover, h.solution, h.keeps⟩
  | failure l failed a hlookup hdis hrecord ha hacted =>
    obtain ⟨htopo, hsol, -⟩ := frame_acted hacted
    have hen := enabled_of_isLinkDisabled h.coherentOver.coherent
      (mem_links_of_lookupLink hlookup).1 hdis
    obtain ⟨hfailed, hcorr⟩ := h.coherentOver.recordFailure hen hrecord
    have ht := h.coherentOver.coherent.touched_of_recordFailure hen hrecord
    rw [h.solution] at ha
    refine ⟨hover, hsol.trans h.solution, ?_⟩
    rw [htopo]
    rcases sol.processFailureEvent_total hbuilt hfailed sim.corroptRecoveryRandGen event.time
      hcorr event.lossRate (h.keeps.touched ht) with ⟨a', links, ha', -, hkeeps⟩ | hun
    · rw [ha, Option.some_inj] at ha'
      rwa [ha']
    · rw [Solution.processFailureEvent_of_uncovered hun] at ha
      cases ha
  | recovery l topo a henable ha hacted =>
    obtain ⟨htopo, hsol, -⟩ := frame_acted hacted
    have he := h.coherentOver.coherent.enabled_of_enableLink henable
    obtain ⟨a', links, ha', -, hkeeps⟩ := sol.postRecoveryEventCb_total hbuilt
      (h.coherentOver.enableLink henable) orders sim.corroptRecoveryRandGen event.time
      (h.keeps.enabled (disabled_of_enableLink henable) he)
    rw [h.solution, ha', Option.some_inj] at ha
    refine ⟨hover, hsol.trans h.solution, ?_⟩
    rwa [htopo, ← ha]

lemma steady_step (hbuilt : Built topo₀) {sol : Solution} (sim : Simulation) (orders : SetOrders)
    (sim' : Simulation) (h : Steady topo₀ sol sim) (hs : sim.step orders = some sim') :
    Steady topo₀ sol sim' := by
  obtain ⟨⟨event, queue⟩, -, hs⟩ := Option.bind_eq_some_iff.mp hs
  have hpopped : Steady topo₀ sol { sim with eventQueue := queue } :=
    ⟨h.coherentOver, h.solution, h.keeps⟩
  exact steady_processEvent hbuilt hpopped hs

/-- No link is disabled at the start. -/
lemma steady_init (hbuilt : Built topo₀) {sol : Solution} (htopo : sim.topo = topo₀)
    (hsol : sim.solution = sol) : Steady topo₀ sol sim where
  coherentOver := ⟨htopo ▸ hbuilt.coherent, htopo ▸ rfl⟩
  solution := hsol
  keeps corropt _ hne := by
    rw [htopo, hbuilt.fresh.disabledLinks] at hne
    exact absurd hne Finset.not_nonempty_empty

/-- **Every state of a run is steady.** -/
theorem Reached.steady {config : Config} {chance : Chance} (htype : config.topoType ≠ .LeafSpine)
    (h : Reached config chance sim) : ∃ topo₀, config.buildTopo chance.podShuffle = some topo₀ ∧
      Built topo₀ ∧ config.newSolution topo₀ = some sim.solution ∧
        Steady topo₀ sim.solution sim := by
  obtain ⟨sim₀, inputs, hinit, hrun⟩ := h
  have hbuilt := built_init htype hinit
  obtain ⟨topo, hbuild, hinit⟩ := Option.bind_eq_some_iff.mp hinit
  obtain ⟨solution, hsol, hinit⟩ := Option.bind_eq_some_iff.mp hinit
  cases hinit
  have hsteady : Steady topo solution sim :=
    Execution.run_invariant (steady_step hbuilt) (steady_init hbuilt rfl rfl) hrun
  refine ⟨topo, hbuild, hbuilt, ?_, ?_⟩
  · rw [hsteady.solution]
    exact hsol
  · rwa [hsteady.solution]

end Simulation

end LinkGuardian.Simulator
