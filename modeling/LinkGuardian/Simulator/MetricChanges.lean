import LinkGuardian.Simulator.Lifecycle
import LinkGuardian.Simulator.View

/-!
# When the metrics change

With CorrOpt, the metrics change at an event exactly when CorrOpt sees a change of the total loss
rate or of the numbers of disabled and corrupting links.  LinkGuardian does not change them at
any other event: on a corrupting link it has done before what it does again.
-/

namespace LinkGuardian.Simulator

open Execution

/-! ## Links with LinkGuardian -/

/-- Each corrupting link that can run LinkGuardian runs it as the table says for its loss rate. -/
def LinkGuardianSolution.Settled (sol : LinkGuardianSolution) (topo : Topology) : Prop :=
  ∀ l ∈ topo.corruptingLinks, topo.fabric.getLinkguardianCapable l = true →
    ∃ perf, sol.getEffectiveLossRateCapacity (topo.getLinkLossRate l) = some perf ∧
      topo.link l = (topo.link l).protect perf

namespace LinkGuardianSolution.Settled

variable {sol : LinkGuardianSolution} {f : Fabric} {topo topo' : Topology} {l : ℕ}

/-- The attributes of the corrupting links are kept. -/
lemma congr (h : sol.Settled topo) (hf : topo'.fabric = topo.fabric)
    (hC : topo'.corruptingLinks ⊆ topo.corruptingLinks)
    (hlink : ∀ m ∈ topo'.corruptingLinks, topo'.link m = topo.link m) : sol.Settled topo' := by
  intro m hm hcapable
  rw [hf] at hcapable
  obtain ⟨perf, hperf, heq⟩ := h m (hC hm) hcapable
  rw [Topology.getLinkLossRate, hlink m hm]
  exact ⟨perf, hperf, heq⟩

lemma disableLink (h : sol.Settled topo) (hc : Coherent topo)
    (hs : topo.disableLink l = some topo') : sol.Settled topo' := by
  have hd := hc.disabled_of_disableLink hs
  have hl := hc.corrupting_subset (corrupting_of_disableLink hs)
  refine h.congr hd.set.fabric ?_ fun m hm => ?_
  · rw [hd.corruptingLinks]
    exact Finset.erase_subset _ _
  · rw [hd.corruptingLinks] at hm
    obtain ⟨hne, hm⟩ := Finset.mem_erase.mp hm
    exact hd.set.link_of_ne hc.wired hl (hc.corrupting_subset hm) hne

lemma enableLink (h : sol.Settled topo) (hc : Coherent topo)
    (hs : topo.enableLink l = some topo') : sol.Settled topo' := by
  have he := hc.enabled_of_enableLink hs
  have hD := disabled_of_enableLink hs
  refine h.congr he.set.fabric he.corruptingLinks.subset fun m hm => ?_
  rw [he.corruptingLinks] at hm
  refine he.set.link_of_ne hc.wired (hc.disabled_subset hD) (hc.corrupting_subset hm) ?_
  rintro rfl
  exact Finset.disjoint_left.mp hc.disjoint hD hm

lemma disableAll {links : List ℕ} {time : ℤ} {a a' : Acting} (h : sol.Settled a.topo)
    (hc : CoherentOver f a.topo) (hs : a.disableAll time links = some a') :
    sol.Settled a'.topo := by
  refine (Loop.preserve (P := fun b => CoherentOver f b.topo ∧ sol.Settled b.topo) ⟨hc, h⟩
    (fun l _ b b' hb hstep => ⟨hb.1.disable hstep, ?_⟩) hs).2
  obtain ⟨t, hdis, rfl⟩ := Acting.disable_eq_some.mp hstep
  exact hb.2.disableLink hb.1.coherent hdis

/-- **A failure is settled** when LinkGuardian has handled it. -/
lemma failure {lossRate : ℚ} {failed : Topology} (h : sol.Settled topo) (hc : Coherent topo)
    (hl : l ∈ topo.enabledLinks) (ht : Touched topo l ((topo.link l).failed lossRate) failed)
    (hs : sol.processFailureEvent failed l lossRate = some topo') : sol.Settled topo' := by
  have hlinks := (Coherent.mem_enabledLinks.mp hl).1
  have hc' := ht.coherent hc hl
  have hcorr := ht.mem_corruptingLinks
  have hold : ∀ m ∈ failed.corruptingLinks, m ≠ l → m ∈ topo.corruptingLinks := by
    intro m hm hne
    rw [ht.corruptingLinks] at hm
    exact (Finset.mem_insert.mp hm).resolve_left hne
  have hother : ∀ m ∈ topo.fabric.links, m ≠ l → failed.link m = topo.link m := fun m hm hne =>
    ht.set.link_of_ne hc.wired hlinks hm hne
  rcases hc'.linkguardian_of_some hcorr hs with ⟨hcapable, rfl⟩ | ⟨perf, -, hperf, ht'⟩
  · -- the link of the failure cannot run LinkGuardian
    intro m hm hon
    have hne : m ≠ l := by
      rintro rfl
      rw [hcapable] at hon
      cases hon
    obtain ⟨perf, hperf, heq⟩ := h m (hold m hm hne) (ht.set.fabric ▸ hon)
    rw [Topology.getLinkLossRate, hother m (hc.corrupting_subset (hold m hm hne)) hne]
    exact ⟨perf, hperf, heq⟩
  · intro m hm hon
    rw [ht'.corruptingLinks, Finset.insert_eq_of_mem hcorr] at hm
    by_cases hne : m = l
    · subst hne
      have hlink : topo'.link m = ((topo.link m).failed lossRate).protect perf := by
        rw [ht'.set.link_self, ht.set.link_self]
      rw [Topology.getLinkLossRate, hlink]
      exact ⟨perf, hperf, rfl⟩
    · have hm' := hold m hm hne
      have hlink : topo'.link m = topo.link m := by
        rw [← hother m (hc.corrupting_subset hm') hne]
        exact ht'.set.link_of_ne hc'.wired (ht.set.fabric ▸ hlinks)
          (ht.set.fabric ▸ hc.corrupting_subset hm') hne
      rw [ht'.set.fabric, ht.set.fabric] at hon
      obtain ⟨perf, hperf, heq⟩ := h m hm' hon
      rw [Topology.getLinkLossRate, hlink]
      exact ⟨perf, hperf, heq⟩

end LinkGuardianSolution.Settled

namespace Solution

variable {sol : Solution} {corropt : CorrOptSolution} {topo : Topology} {gen : RandGen} {time : ℤ}
  {l : ℕ} {lossRate : ℚ} {a : Acting}

def Settled (sol : Solution) (topo : Topology) : Prop :=
  ∀ linkguardian, sol.linkguardian = some linkguardian → linkguardian.Settled topo

/-- With CorrOpt, a failure goes through LinkGuardian, if it is there, to the fast checker. -/
lemma fastChecker_of_processFailureEvent (hc : sol.corropt = some corropt)
    (hs : sol.processFailureEvent topo gen time l lossRate = some a) :
    ∃ topo', (sol.linkguardian = none ∧ topo' = topo ∨ ∃ linkguardian,
        sol.linkguardian = some linkguardian ∧
          linkguardian.processFailureEvent topo l lossRate = some topo') ∧
      corropt.corroptFastChecker topo' gen time l = some a := by
  cases sol with
  | doNothing => cases hc
  | disableAndRepair => cases hc
  | linkGuardian linkguardian => cases hc
  | corrOpt corropt' =>
    cases hc
    exact ⟨topo, .inl ⟨rfl, rfl⟩, hs⟩
  | lgCorrOpt linkguardian corropt' =>
    cases hc
    obtain ⟨topo', hlg, hs⟩ := Option.bind_eq_some_iff.mp hs
    exact ⟨topo', .inr ⟨linkguardian, rfl, hlg⟩, hs⟩

/-- With CorrOpt, the optimizer runs after a recovery. -/
lemma optimizer_of_postRecoveryEventCb (hc : sol.corropt = some corropt) (orders : SetOrders) :
    sol.postRecoveryEventCb orders topo gen time =
      corropt.corroptOptimizer orders topo gen time := by
  cases sol with
  | doNothing => cases hc
  | disableAndRepair => cases hc
  | linkGuardian linkguardian => cases hc
  | corrOpt corropt' => cases hc; rfl
  | lgCorrOpt linkguardian corropt' => cases hc; rfl

end Solution

/-! ## One event -/

namespace Simulation

variable {topo₀ : Topology} {sol : Solution} {corropt : CorrOptSolution} {sim sim' : Simulation}
  {orders : SetOrders} {event : LinkEvent}

/-- **An event leaves LinkGuardian settled.**  On a corrupting link that can run LinkGuardian it
runs, so a second failure of the link brings no new activation. -/
lemma settled_processEvent (hc : sol.corropt = some corropt) (h : Steady topo₀ sol sim)
    (hset : sol.Settled sim.topo) (hs : sim.processEvent orders event = some sim') :
    sol.Settled sim'.topo := by
  have hco := h.coherentOver.coherent
  cases processed hs with
  | ignored skippedLossEvents heq =>
    subst heq
    exact hset
  | failure l failed a hlookup hdis hrecord ha hacted =>
    have hen := enabled_of_isLinkDisabled hco (mem_links_of_lookupLink hlookup).1 hdis
    have ht := hco.touched_of_recordFailure hen hrecord
    obtain ⟨hfailed, hcorr⟩ := h.coherentOver.recordFailure hen hrecord
    rw [h.solution] at ha
    obtain ⟨topo, hlg, ha⟩ := Solution.fastChecker_of_processFailureEvent hc ha
    rw [(frame_acted hacted).1]
    intro linkguardian heq
    rcases hlg with ⟨hnone, -⟩ | ⟨linkguardian', heq', hlg⟩
    · rw [hnone] at heq
      cases heq
    · rw [heq, Option.some_inj] at heq'
      subst heq'
      have htopo := (hset linkguardian heq).failure hco hen ht hlg
      rcases CorrOptSolution.corroptFastChecker_cases ha with rfl | ha
      · exact htopo
      · have hall : Acting.disableAll event.time [l]
            { topo := topo, gen := sim.corroptRecoveryRandGen } = some a :=
          Acting.disableAll_cons_eq_some.mpr ⟨a, ha, rfl⟩
        exact htopo.disableAll (hfailed.linkguardian hcorr hlg) hall
  | recovery l topo a henable ha hacted =>
    rw [h.solution, Solution.optimizer_of_postRecoveryEventCb hc] at ha
    obtain ⟨links, ha⟩ := CorrOptSolution.corroptOptimizer_disableAll ha
    rw [(frame_acted hacted).1]
    intro linkguardian heq
    have htopo := (hset linkguardian heq).enableLink hco henable
    exact htopo.disableAll (h.coherentOver.enableLink henable) ha

/-- What CorrOpt sees of the metrics.  In a run with CorrOpt every other column changes only
together with one of these three. -/
def Seen (topo topo' : Topology) : Prop :=
  topo'.totalLossRate = topo.totalLossRate ∧
    topo'.disabledLinks.card = topo.disabledLinks.card ∧
    topo'.corruptingLinks.card = topo.corruptingLinks.card

lemma metrics_eq {topo : Topology} {row : Metrics} (h : topo.getCurrentMetrics = some row) :
    row.totalPenalty = topo.totalLossRate ∧ row.currDisabledLinks = topo.disabledLinks.card ∧
      row.currCorruptingLinks = topo.corruptingLinks.card := by
  obtain ⟨_, -, h⟩ := Option.bind_eq_some_iff.mp h
  obtain ⟨_, -, h⟩ := Option.bind_eq_some_iff.mp h
  obtain ⟨_, -, h⟩ := Option.bind_eq_some_iff.mp h
  obtain ⟨_, -, h⟩ := Option.bind_eq_some_iff.mp h
  obtain ⟨_, -, h⟩ := Option.bind_eq_some_iff.mp h
  obtain ⟨_, -, h⟩ := Option.bind_eq_some_iff.mp h
  cases h
  exact ⟨rfl, rfl, rfl⟩

/-- Recording the loss rate that an enabled link has does not change it. -/
lemma failed_eq {topo : Topology} {l : ℕ} (h : Coherent topo) (hl : l ∈ topo.enabledLinks) :
    (topo.link l).failed (topo.getLinkLossRate l) = topo.link l := by
  suffices hstate : ∀ a : LinkState, (a.lgEnabled = false → a.effectiveLossRate = a.lossRate) →
      a.failed a.lossRate = a from hstate _ fun hon => (h.plain l hl hon).1
  rintro ⟨capacity, rate, effective, disabled, lgEnabled⟩ hplain
  cases lgEnabled with
  | true => rfl
  | false =>
    obtain rfl : effective = rate := hplain rfl
    rfl

/-- A corrupting link that fails with the loss rate it has stays as it is, with LinkGuardian or
without. -/
lemma link_of_same_failure {l : ℕ} {failed topo topo' : Topology}
    (h : Coherent topo) (hset : sol.Settled topo) (hl : l ∈ topo.corruptingLinks)
    (ht : Touched topo l ((topo.link l).failed (topo.getLinkLossRate l)) failed)
    (hlg : sol.linkguardian = none ∧ topo' = failed ∨ ∃ linkguardian,
        sol.linkguardian = some linkguardian ∧
          linkguardian.processFailureEvent failed l (topo.getLinkLossRate l) = some topo') :
    Coherent topo' ∧ topo'.fabric = topo.fabric ∧
      ∀ m ∈ topo.fabric.links, topo'.link m = topo.link m := by
  have hen := h.enabled_of_corrupting hl
  have hlinks := h.corrupting_subset hl
  have hfailed : ∀ m ∈ topo.fabric.links, failed.link m = topo.link m := by
    intro m hm
    by_cases hne : m = l
    · rw [hne, ht.set.link_self, failed_eq h hen]
    · exact ht.set.link_of_ne h.wired hlinks hm hne
  have hkept := ht.coherent h hen
  rcases hlg with ⟨-, rfl⟩ | ⟨linkguardian, heq, hlg⟩
  · exact ⟨hkept, ht.set.fabric, hfailed⟩
  have hcorr := ht.mem_corruptingLinks
  rcases hkept.linkguardian_of_some hcorr hlg with ⟨-, rfl⟩ | ⟨perf, hcapable, hperf, ht'⟩
  · exact ⟨hkept, ht.set.fabric, hfailed⟩
  · refine ⟨ht'.coherent hkept (hkept.enabled_of_corrupting hcorr),
      ht'.set.fabric.trans ht.set.fabric, fun m hm => ?_⟩
    by_cases hne : m = l
    · -- the table gave the same entry before
      rw [ht.set.fabric] at hcapable
      obtain ⟨perf', hperf', hprotected⟩ := hset linkguardian heq l hl hcapable
      rw [hperf, Option.some_inj] at hperf'
      rw [hne, ht'.set.link_self, hfailed l hlinks, hperf', ← hprotected]
    · rw [← hfailed m hm]
      rw [← ht.set.fabric] at hm
      exact ht'.set.link_of_ne hkept.wired (ht.set.fabric ▸ hlinks) hm hne

/-- A failure that changes nothing that CorrOpt sees is one of a corrupting link at the loss rate
that the link has. -/
lemma metrics_failure (hc : sol.corropt = some corropt) (h : Steady topo₀ sol sim)
    (hset : sol.Settled sim.topo) {l : ℕ} {lossRate : ℚ} {time : ℤ} {failed : Topology}
    {a : Acting} (hen : l ∈ sim.topo.enabledLinks)
    (hrecord : recordFailure sim.topo l lossRate = some failed)
    (ha : sol.processFailureEvent failed sim.corroptRecoveryRandGen time l lossRate = some a)
    (hseen : Seen sim.topo a.topo) :
    a.topo.getCurrentMetrics = sim.topo.getCurrentMetrics := by
  have hco := h.coherentOver.coherent
  have hnotD := (Coherent.mem_enabledLinks.mp hen).2
  obtain ⟨htotal, hD, hC⟩ := hseen
  have ht := hco.touched_of_recordFailure hen hrecord
  obtain ⟨topo, hlg, ha⟩ := Solution.fastChecker_of_processFailureEvent hc ha
  obtain ⟨hfailed, hcorr⟩ := h.coherentOver.recordFailure hen hrecord
  obtain ⟨halike, hover⟩ : Alike topo failed ∧ CoherentOver topo₀.fabric topo := by
    rcases hlg with ⟨-, rfl⟩ | ⟨linkguardian, -, hlg⟩
    · exact ⟨.refl topo, hfailed⟩
    · exact ⟨view_linkguardian hlg, hfailed.linkguardian hcorr hlg⟩
  rcases CorrOptSolution.corroptFastChecker_cases ha with rfl | ha
  · have hcorr : l ∈ sim.topo.corruptingLinks := by
      by_contra hnot
      have hC : topo.corruptingLinks.card = sim.topo.corruptingLinks.card := hC
      rw [halike.corruptingLinks, ht.corruptingLinks, Finset.card_insert_of_notMem hnot] at hC
      omega
    have hrate : lossRate = sim.topo.getLinkLossRate l := by
      have htotal : topo.totalLossRate = sim.topo.totalLossRate := htotal
      rw [halike.totalLossRate, ht.totalLossRate] at htotal
      have hsum : sim.topo.totalLossRate - sim.topo.getLinkLossRate l + lossRate =
          sim.topo.totalLossRate := htotal
      linarith
    rw [hrate] at ht hlg
    obtain ⟨hco', hf, hlink⟩ := link_of_same_failure hco hset hcorr ht hlg
    refine getCurrentMetrics_congr hco hco' hf ?_ ?_ hlink
    · rw [halike.disabledLinks, ht.disabledLinks]
    · rw [halike.corruptingLinks, ht.corruptingLinks, Finset.insert_eq_of_mem hcorr]
  · -- the link would be disabled now
    obtain ⟨t, hdis, rfl⟩ := Acting.disable_eq_some.mp ha
    have hd := hover.coherent.disabled_of_disableLink hdis
    have hD : t.disabledLinks.card = sim.topo.disabledLinks.card := hD
    rw [hd.disabledLinks, halike.disabledLinks, ht.disabledLinks,
      Finset.card_insert_of_notMem hnotD] at hD
    omega

/-- A recovery changes the number of disabled links, or that of the corrupting ones. -/
lemma not_seen_recovery (hbuilt : Built topo₀) (hc : sol.corropt = some corropt)
    (h : Steady topo₀ sol sim) {l : ℕ} {time : ℤ} {topo : Topology} {a : Acting}
    (henable : sim.topo.enableLink l = some topo)
    (ha : sol.postRecoveryEventCb orders topo sim.corroptRecoveryRandGen time = some a) :
    ¬ Seen sim.topo a.topo := by
  rintro ⟨-, hD, hC⟩
  rw [Solution.optimizer_of_postRecoveryEventCb hc] at ha
  have hdis := disabled_of_enableLink henable
  have he := h.coherentOver.coherent.enabled_of_enableLink henable
  obtain ⟨a', links, ha', hchoice⟩ := ((h.coherentOver.enableLink henable).ready hbuilt
    (h.keeps.enabled hdis he corropt hc)).corroptOptimizer orders sim.corroptRecoveryRandGen time
  rw [ha, Option.some_inj] at ha'
  subst ha'
  -- no link would be disabled now, and one less than before
  have hsub : links.toFinset ⊆ topo.corruptingLinks := fun m hm =>
    hchoice.subset m (List.mem_toFinset.mp hm)
  have hnone : links.toFinset = ∅ := by
    have hle := Finset.card_le_card hsub
    rw [hchoice.disabled.corruptingLinks, Finset.card_sdiff_of_subset hsub,
      ← he.corruptingLinks] at hC
    exact Finset.card_eq_zero.mp (by omega)
  have hpos := Finset.card_pos.mpr ⟨l, hdis⟩
  rw [hchoice.disabled.disabledLinks, hnone, Finset.union_empty, he.disabledLinks,
    Finset.card_erase_of_mem hdis] at hD
  omega

/-- **The metrics change only when CorrOpt sees a change.** -/
theorem metrics_processEvent (hbuilt : Built topo₀) (hc : sol.corropt = some corropt)
    (h : Steady topo₀ sol sim) (hset : sol.Settled sim.topo)
    (hs : sim.processEvent orders event = some sim') (hseen : Seen sim.topo sim'.topo) :
    sim'.topo.getCurrentMetrics = sim.topo.getCurrentMetrics := by
  cases processed hs with
  | ignored skippedLossEvents heq =>
    subst heq
    rfl
  | failure l failed a hlookup hdis hrecord ha hacted =>
    rw [(frame_acted hacted).1] at hseen ⊢
    rw [h.solution] at ha
    exact metrics_failure hc h hset (enabled_of_isLinkDisabled h.coherentOver.coherent
      (mem_links_of_lookupLink hlookup).1 hdis) hrecord ha hseen
  | recovery l topo a henable ha hacted =>
    rw [(frame_acted hacted).1] at hseen
    rw [h.solution] at ha
    exact absurd hseen (not_seen_recovery hbuilt hc h henable ha)

/-! ## One step -/

lemma settled_step (hc : sol.corropt = some corropt) (h : Steady topo₀ sol sim)
    (hset : sol.Settled sim.topo) (hs : sim.step orders = some sim') : sol.Settled sim'.topo := by
  obtain ⟨⟨event, queue⟩, -, hs⟩ := Option.bind_eq_some_iff.mp hs
  have hpopped : Steady topo₀ sol { sim with eventQueue := queue } :=
    ⟨h.coherentOver, h.solution, h.keeps⟩
  exact settled_processEvent hc hpopped hset hs

/-- **The metrics change exactly when CorrOpt sees a change.** -/
theorem metrics_step_iff (hbuilt : Built topo₀) (hc : sol.corropt = some corropt)
    (h : Steady topo₀ sol sim) (hset : sol.Settled sim.topo) (hs : sim.step orders = some sim') :
    sim'.topo.getCurrentMetrics = sim.topo.getCurrentMetrics ↔ Seen sim.topo sim'.topo := by
  constructor
  · intro heq
    obtain ⟨row, hrow⟩ := getCurrentMetrics_total hbuilt h.coherentOver
    have hrow' := heq.trans hrow
    obtain ⟨htotal, hD, hC⟩ := metrics_eq hrow
    obtain ⟨htotal', hD', hC'⟩ := metrics_eq hrow'
    exact ⟨htotal'.symm.trans htotal, hD'.symm.trans hD, hC'.symm.trans hC⟩
  · obtain ⟨⟨event, queue⟩, -, hs⟩ := Option.bind_eq_some_iff.mp hs
    have hpopped : Steady topo₀ sol { sim with eventQueue := queue } :=
      ⟨h.coherentOver, h.solution, h.keeps⟩
    have hsame := metrics_processEvent hbuilt hc hpopped hset hs
    exact hsame

end Simulation

end LinkGuardian.Simulator
