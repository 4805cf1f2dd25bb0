import LinkGuardian.Simulator.Lifecycle

/-!
# The penalty

The evaluation compares the solutions by their penalty, the total effective loss rate.  In every
state of a run it is what the table and the trace say: each corrupting link costs its loss rate,
or, where LinkGuardian runs on it, the effective loss rate that the table has for it, and every
other enabled link costs the initial loss rate.

`Priced` says what each link costs.  It is no consequence of coherence, which relates the sums to
the attributes of the links and leaves these open.
-/

namespace LinkGuardian.Simulator

open Execution

/-! ## Performance -/

/-- The effective loss rate and capacity of a corrupting link: those of the table where LinkGuardian
can run, and the link's own elsewhere. -/
def performance (lg : Option LinkGuardianSolution) (f : Fabric) (l : ℕ) (lossRate : ℚ) : ℚ × ℚ :=
  match lg with
  | none => (lossRate, f.getLinkCapacity l)
  | some lg =>
    if f.getLinkguardianCapable l then
      (lg.getEffectiveLossRateCapacity lossRate).getD (lossRate, f.getLinkCapacity l)
    else (lossRate, f.getLinkCapacity l)

section Performance

variable {lg : LinkGuardianSolution} {f : Fabric} {l : ℕ} {x : ℚ}

@[simp] lemma performance_none : performance none f l x = (x, f.getLinkCapacity l) := rfl

lemma performance_incapable (h : f.getLinkguardianCapable l = false) :
    performance (some lg) f l x = (x, f.getLinkCapacity l) := by
  simp [performance, h]

lemma performance_capable (h : f.getLinkguardianCapable l = true) {perf : ℚ × ℚ}
    (hperf : lg.getEffectiveLossRateCapacity x = some perf) :
    performance (some lg) f l x = perf := by
  simp [performance, h, hperf]

/-- A table that does not raise a loss rate does not make a link lose more. -/
lemma performance_le (hlg : ∀ perf, lg.getEffectiveLossRateCapacity x = some perf → perf.1 ≤ x) :
    (performance (some lg) f l x).1 ≤ x := by
  simp only [performance]
  split
  · cases hperf : lg.getEffectiveLossRateCapacity x with
    | none => exact le_refl x
    | some perf => exact hlg perf hperf
  · exact le_refl x

end Performance

/-- A link whose attributes are changed twice. -/
lemma LinkSet.trans {topo topo' topo'' : Topology} {l : ℕ} {v v' : LinkState}
    (h : LinkSet topo l v topo') (h' : LinkSet topo' l v' topo'') : LinkSet topo l v' topo'' where
  fabric := h'.fabric.trans h.fabric
  linkStates := by
    have hedge : topo'.fabric.edgeOf l = topo.fabric.edgeOf l := by rw [h.fabric]
    rw [h'.linkStates, h.linkStates, hedge, setEdge_setEdge]

/-- Every healthy link has the initial loss rate; every corrupting one has a loss rate that is its
own, performs as it should at that rate, and runs LinkGuardian only where it is deployed. -/
structure Priced (lg : Option LinkGuardianSolution) (rate : ℤ → ℚ → Prop) (topo : Topology) :
    Prop where
  healthy : ∀ l ∈ topo.enabledLinks, l ∉ topo.corruptingLinks →
    topo.getLinkLossRate l = initialLinkLossRate
  lossRate : ∀ l ∈ topo.corruptingLinks, rate l (topo.getLinkLossRate l)
  effective : ∀ l ∈ topo.corruptingLinks,
    (topo.getLinkEffectiveLossRate l, topo.getEffectiveLinkCapacity l) =
      performance lg topo.fabric l (topo.getLinkLossRate l)
  deployed : ∀ l ∈ topo.corruptingLinks, topo.getLinkguardianEnabled l = true →
    lg.isSome = true ∧ topo.fabric.getLinkguardianCapable l = true

namespace Priced

variable {lg : Option LinkGuardianSolution} {rate : ℤ → ℚ → Prop} {f : Fabric}
  {topo topo' : Topology} {l : ℕ}

/-- The attributes of the links that stay corrupting are kept. -/
lemma congr (h : Priced lg rate topo) (hf : topo'.fabric = topo.fabric)
    (hC : topo'.corruptingLinks ⊆ topo.corruptingLinks)
    (hlink : ∀ m ∈ topo'.corruptingLinks, topo'.link m = topo.link m)
    (healthy : ∀ l ∈ topo'.enabledLinks, l ∉ topo'.corruptingLinks →
      topo'.getLinkLossRate l = initialLinkLossRate) : Priced lg rate topo' where
  healthy := healthy
  lossRate m hm := by
    rw [Topology.getLinkLossRate, hlink m hm]
    exact h.lossRate m (hC hm)
  effective m hm := by
    rw [Topology.getLinkEffectiveLossRate, Topology.getEffectiveLinkCapacity,
      Topology.getLinkLossRate, hlink m hm, hf]
    exact h.effective m (hC hm)
  deployed m hm hon := by
    rw [Topology.getLinkguardianEnabled, hlink m hm] at hon
    rw [hf]
    exact h.deployed m (hC hm) hon

/-- A link that is disabled costs nothing any more. -/
lemma disableLink (h : Priced lg rate topo) (hc : Coherent topo)
    (hs : topo.disableLink l = some topo') : Priced lg rate topo' := by
  have hd := hc.disabled_of_disableLink hs
  have hl := hc.corrupting_subset (corrupting_of_disableLink hs)
  have hsub : topo'.corruptingLinks ⊆ topo.corruptingLinks := by
    rw [hd.corruptingLinks]
    exact Finset.erase_subset _ _
  refine h.congr hd.set.fabric hsub (fun m hm => ?_) fun m hm hmC => ?_
  · have hne : m ≠ l := by
      rintro rfl
      rw [hd.corruptingLinks] at hm
      exact Finset.notMem_erase m _ hm
    exact hd.set.link_of_ne hc.wired hl (hc.corrupting_subset (hsub hm)) hne
  · rw [Coherent.mem_enabledLinks, hd.set.fabric, hd.disabledLinks, Finset.mem_insert,
      not_or] at hm
    obtain ⟨hlinks, hne, hD⟩ := hm
    rw [hd.corruptingLinks, Finset.mem_erase, not_and] at hmC
    rw [hd.set.getLinkLossRate hc.wired hl m hlinks hne]
    exact h.healthy m (Coherent.mem_enabledLinks.mpr ⟨hlinks, hD⟩) (hmC hne)

/-- A link that is enabled again has the initial loss rate. -/
lemma enableLink (h : Priced lg rate topo) (hc : Coherent topo)
    (hs : topo.enableLink l = some topo') : Priced lg rate topo' := by
  have he := hc.enabled_of_enableLink hs
  have hD := disabled_of_enableLink hs
  have hl := hc.disabled_subset hD
  refine h.congr he.set.fabric he.corruptingLinks.subset (fun m hm => ?_) fun m hm hmC => ?_
  · rw [he.corruptingLinks] at hm
    have hne : m ≠ l := by
      rintro rfl
      exact Finset.disjoint_left.mp hc.disjoint hD hm
    exact he.set.link_of_ne hc.wired hl (hc.corrupting_subset hm) hne
  · rw [Coherent.mem_enabledLinks, he.set.fabric, he.disabledLinks] at hm
    by_cases hne : m = l
    · rw [hne, Topology.getLinkLossRate, he.set.link_self]
    · rw [he.corruptingLinks] at hmC
      rw [he.set.getLinkLossRate hc.wired hl m hm.1 hne]
      refine h.healthy m (Coherent.mem_enabledLinks.mpr ⟨hm.1, fun hmD => hm.2 ?_⟩) hmC
      exact Finset.mem_erase.mpr ⟨hne, hmD⟩

lemma disableAll {links : List ℕ} {time : ℤ} {a a' : Acting} (h : Priced lg rate a.topo)
    (hc : CoherentOver f a.topo) (hs : a.disableAll time links = some a') :
    Priced lg rate a'.topo := by
  refine (Loop.preserve (P := fun b => CoherentOver f b.topo ∧ Priced lg rate b.topo) ⟨hc, h⟩
    (fun l _ b b' hb hstep => ⟨hb.1.disable hstep, ?_⟩) hs).2
  obtain ⟨t, hdis, rfl⟩ := Acting.disable_eq_some.mp hstep
  exact hb.2.disableLink hb.1.coherent hdis

/-- A link that becomes corrupting costs what its new attributes say. -/
lemma corrupt {v : LinkState} (h : Priced lg rate topo) (hc : Coherent topo)
    (hl : l ∈ topo.enabledLinks) (hset : LinkSet topo l v topo')
    (hD : topo'.disabledLinks = topo.disabledLinks)
    (hC : topo'.corruptingLinks = insert l topo.corruptingLinks) (hrate : rate l v.lossRate)
    (hperf : (v.effectiveLossRate, v.effectiveCapacity) =
      performance lg topo.fabric l v.lossRate)
    (hon : v.lgEnabled = true → lg.isSome = true ∧ topo.fabric.getLinkguardianCapable l = true) :
    Priced lg rate topo' := by
  have hlinks := (Coherent.mem_enabledLinks.mp hl).1
  have hself := hset.link_self
  have hother (m : ℕ) (hm : m ∈ topo.fabric.links) (hne : m ≠ l) : topo'.link m = topo.link m :=
    hset.link_of_ne hc.wired hlinks hm hne
  have hold (m : ℕ) (hm : m ∈ topo'.corruptingLinks) (hne : m ≠ l) : m ∈ topo.corruptingLinks := by
    rw [hC] at hm
    exact (Finset.mem_insert.mp hm).resolve_left hne
  constructor
  case healthy =>
    intro m hm hmC
    rw [Coherent.mem_enabledLinks, hset.fabric, hD] at hm
    rw [hC, Finset.mem_insert, not_or] at hmC
    rw [Topology.getLinkLossRate, hother m hm.1 hmC.1]
    exact h.healthy m (Coherent.mem_enabledLinks.mpr hm) hmC.2
  case lossRate =>
    intro m hm
    by_cases hne : m = l
    · rw [hne, Topology.getLinkLossRate, hself]
      exact hrate
    · have hmC := hold m hm hne
      rw [Topology.getLinkLossRate, hother m (hc.corrupting_subset hmC) hne]
      exact h.lossRate m hmC
  case effective =>
    intro m hm
    rw [Topology.getLinkEffectiveLossRate, Topology.getEffectiveLinkCapacity,
      Topology.getLinkLossRate, hset.fabric]
    by_cases hne : m = l
    · rw [hne, hself]
      exact hperf
    · have hmC := hold m hm hne
      rw [hother m (hc.corrupting_subset hmC) hne]
      exact h.effective m hmC
  case deployed =>
    intro m hm henabled
    rw [Topology.getLinkguardianEnabled] at henabled
    rw [hset.fabric]
    by_cases hne : m = l
    · rw [hne, hself] at henabled
      rw [hne]
      exact hon henabled
    · have hmC := hold m hm hne
      rw [hother m (hc.corrupting_subset hmC) hne] at henabled
      exact h.deployed m hmC henabled

/-- Where LinkGuardian cannot run, it does not; the performance of such a link is its own. -/
lemma lgEnabled_eq_false (h : Priced lg rate topo) (hc : Coherent topo)
    (hl : l ∈ topo.enabledLinks)
    (hnot : ¬ (lg.isSome = true ∧ topo.fabric.getLinkguardianCapable l = true)) :
    (topo.link l).lgEnabled = false := by
  rw [Bool.eq_false_iff]
  intro hon
  exact hnot (h.deployed l (hc.lgEnabled l (Coherent.mem_enabledLinks.mp hl).1 hon) hon)

/-- **A failure without LinkGuardian** leaves the link its own performance. -/
lemma failed {x : ℚ} {failed : Topology} (h : Priced lg rate topo) (hc : Coherent topo)
    (hl : l ∈ topo.enabledLinks) (ht : Touched topo l ((topo.link l).failed x) failed)
    (hrate : rate l x)
    (hnot : ¬ (lg.isSome = true ∧ topo.fabric.getLinkguardianCapable l = true)) :
    Priced lg rate failed := by
  have hoff := h.lgEnabled_eq_false hc hl hnot
  refine h.corrupt hc hl ht.set ht.disabledLinks ht.corruptingLinks hrate ?_ fun hon => ?_
  · have hown : performance lg topo.fabric l x = (x, topo.fabric.getLinkCapacity l) := by
      cases lg with
      | none => exact performance_none
      | some lg =>
        refine performance_incapable ?_
        rw [Bool.eq_false_iff]
        exact fun hcapable => hnot ⟨rfl, hcapable⟩
    have hcapacity : (topo.link l).effectiveCapacity = topo.fabric.getLinkCapacity l :=
      (hc.plain l hl hoff).2
    simp [LinkState.failed, hoff, hown, hcapacity]
  · rw [LinkState.failed, hoff] at hon
    cases hon

/-- **A failure that LinkGuardian handles** makes the link perform as the table says. -/
lemma linkguardian {lg : LinkGuardianSolution} {x : ℚ} {failed : Topology}
    (h : Priced (some lg) rate topo) (hc : Coherent topo) (hl : l ∈ topo.enabledLinks)
    (ht : Touched topo l ((topo.link l).failed x) failed) (hrate : rate l x)
    (hs : lg.processFailureEvent failed l x = some topo') : Priced (some lg) rate topo' := by
  have hf := ht.set.fabric
  rcases (ht.coherent hc hl).linkguardian_of_some ht.mem_corruptingLinks hs with
    ⟨hcapable, rfl⟩ | ⟨perf, hcapable, hperf, ht'⟩
  · refine h.failed hc hl ht hrate fun hboth => ?_
    rw [← hf, hcapable] at hboth
    exact Bool.false_ne_true hboth.2
  · rw [hf] at hcapable
    have hset := ht.set.trans ht'.set
    rw [ht.set.link_self] at hset
    refine h.corrupt hc hl hset (ht'.disabledLinks.trans ht.disabledLinks) ?_ hrate ?_
      fun _ => ⟨rfl, hcapable⟩
    · rw [ht'.corruptingLinks, Finset.insert_eq_of_mem ht.mem_corruptingLinks,
        ht.corruptingLinks]
    · exact (performance_capable hcapable hperf).symm

end Priced

/-! ## Events -/

section Solutions

variable {sol : Solution} {topo : Topology} {gen : RandGen} {time : ℤ} {l : ℕ} {x : ℚ} {a : Acting}

/-- Any solution lets LinkGuardian handle a failure, if it has it, and may then disable the
link. -/
lemma Solution.processFailureEvent_cases
    (hs : sol.processFailureEvent topo gen time l x = some a) :
    ∃ on, (sol.linkguardian = none ∧ on = topo ∨ ∃ lg, sol.linkguardian = some lg ∧
        lg.processFailureEvent topo l x = some on) ∧
      (a.topo = on ∨ on.disableLink l = some a.topo) := by
  have hchecker {corropt : CorrOptSolution} {on : Topology}
      (hs : corropt.corroptFastChecker on gen time l = some a) :
      a.topo = on ∨ on.disableLink l = some a.topo := by
    rcases CorrOptSolution.corroptFastChecker_cases hs with rfl | hs
    · exact .inl rfl
    · obtain ⟨topo', hdis, rfl⟩ := Acting.disable_eq_some.mp hs
      exact .inr hdis
  cases sol with
  | doNothing =>
    cases hs
    exact ⟨topo, .inl ⟨rfl, rfl⟩, .inl rfl⟩
  | disableAndRepair =>
    obtain ⟨topo', hdis, hs⟩ := Option.bind_eq_some_iff.mp hs
    cases hs
    exact ⟨topo, .inl ⟨rfl, rfl⟩, .inr hdis⟩
  | corrOpt corropt => exact ⟨topo, .inl ⟨rfl, rfl⟩, hchecker hs⟩
  | linkGuardian lg =>
    obtain ⟨on, hlg, hs⟩ := Option.bind_eq_some_iff.mp hs
    cases hs
    exact ⟨on, .inr ⟨lg, rfl, hlg⟩, .inl rfl⟩
  | lgCorrOpt lg corropt =>
    obtain ⟨on, hlg, hs⟩ := Option.bind_eq_some_iff.mp hs
    exact ⟨on, .inr ⟨lg, rfl, hlg⟩, hchecker hs⟩

/-- After a recovery, any solution at most disables links. -/
lemma Solution.postRecoveryEventCb_disableAll {orders : SetOrders}
    (hs : sol.postRecoveryEventCb orders topo gen time = some a) :
    ∃ links b, Acting.disableAll time links { topo := topo, gen := gen } = some b ∧
      b.topo = a.topo := by
  have hoptimizer {corropt : CorrOptSolution}
      (hs : corropt.corroptOptimizer orders topo gen time = some a) :
      ∃ links b, Acting.disableAll time links { topo := topo, gen := gen } = some b ∧
        b.topo = a.topo := by
    obtain ⟨links, hlinks⟩ := CorrOptSolution.corroptOptimizer_disableAll hs
    exact ⟨links, a, hlinks, rfl⟩
  cases sol with
  | corrOpt corropt => exact hoptimizer hs
  | lgCorrOpt lg corropt => exact hoptimizer hs
  | doNothing => cases hs; exact ⟨[], _, rfl, rfl⟩
  | disableAndRepair => cases hs; exact ⟨[], _, rfl, rfl⟩
  | linkGuardian lg => cases hs; exact ⟨[], _, rfl, rfl⟩

/-- **A failure that any solution handles.** -/
lemma Priced.solution {rate : ℤ → ℚ → Prop} {f : Fabric} {failed : Topology}
    (h : Priced sol.linkguardian rate topo) (hc : CoherentOver f topo) (hl : l ∈ topo.enabledLinks)
    (ht : Touched topo l ((topo.link l).failed x) failed) (hrate : rate l x)
    (hs : sol.processFailureEvent failed gen time l x = some a) :
    Priced sol.linkguardian rate a.topo := by
  obtain ⟨on, hon, hs⟩ := Solution.processFailureEvent_cases hs
  have hfailed : CoherentOver f failed := hc.touched hl ht
  have hpriced : CoherentOver f on ∧ Priced sol.linkguardian rate on := by
    rcases hon with ⟨hnone, rfl⟩ | ⟨lg, hsome, hlg⟩
    · refine ⟨hfailed, h.failed hc.coherent hl ht hrate fun hboth => ?_⟩
      rw [hnone] at hboth
      exact Bool.false_ne_true hboth.1
    · rw [hsome] at h ⊢
      exact ⟨hfailed.linkguardian ht.mem_corruptingLinks hlg,
        h.linkguardian hc.coherent hl ht hrate hlg⟩
  rcases hs with hs | hs
  · rw [hs]
    exact hpriced.2
  · exact hpriced.2.disableLink hpriced.1.coherent hs

end Solutions

namespace Simulation

variable {topo₀ : Topology} {sol : Solution} {rate : ℤ → ℚ → Prop} {sim sim' : Simulation}
  {orders : SetOrders} {event : LinkEvent}

/-- The loss rates of the links and of the failures to come are those of the trace.  A failure is
charged when it is processed, which may be long after it was queued, so the events of the queue are
part of the invariant. -/
structure Charged (topo₀ : Topology) (sol : Solution) (rate : ℤ → ℚ → Prop) (sim : Simulation) :
    Prop where
  steady : Steady topo₀ sol sim
  priced : Priced sol.linkguardian rate sim.topo
  queued : ∀ e ∈ sim.eventQueue.events, e.type = .FailureEvent → rate e.linkId e.lossRate

/-- The next event was in the queue, and what is left was there as well. -/
lemma events_of_getNextEvent {q q' : EventQueue} (hget : q.getNextEvent = some (event, q')) :
    q.events = event ::ₘ q'.events := by
  obtain ⟨⟨entry, queue⟩, hpop, heq⟩ := Option.map_eq_some_iff.mp hget
  rw [Prod.mk.injEq] at heq
  obtain ⟨rfl, rfl⟩ := heq
  rw [EventQueue.events, Heapq.items_heappop hpop, Multiset.map_cons]
  rfl

/-- Requested events are no failures. -/
lemma queued_addRequestedEvents {events : List LinkEvent}
    (hq : ∀ e ∈ sim.eventQueue.events, e.type = .FailureEvent → rate e.linkId e.lossRate)
    (hs : sim.addRequestedEvents events = some sim') :
    ∀ e ∈ sim'.eventQueue.events, e.type = .FailureEvent → rate e.linkId e.lossRate := by
  refine Loop.preserve (P := fun s : Simulation =>
    ∀ e ∈ s.eventQueue.events, e.type = .FailureEvent → rate e.linkId e.lossRate) hq
    (fun event _ s s' hP hstep => ?_) hs
  obtain ⟨_, hguard, hstep⟩ := Option.bind_eq_some_iff.mp hstep
  have hno := (Option.guard_eq_some' _).mp hguard
  cases hstep
  split
  · intro e he htype
    change e ∈ (s.eventQueue.addEvent event).events at he
    rw [EventQueue.events_addEvent] at he
    rcases Multiset.mem_cons.mp he with rfl | he
    · exact absurd htype hno
    · exact hP e he htype
  · exact hP

lemma queued_acted {a : Acting}
    (hq : ∀ e ∈ sim.eventQueue.events, e.type = .FailureEvent → rate e.linkId e.lossRate)
    (hs : sim.acted a = some sim') :
    ∀ e ∈ sim'.eventQueue.events, e.type = .FailureEvent → rate e.linkId e.lossRate := by
  have hstart : ∀ e ∈ ({ sim with topo := a.topo, corroptRecoveryRandGen := a.gen } :
      Simulation).eventQueue.events, e.type = .FailureEvent → rate e.linkId e.lossRate := hq
  exact queued_addRequestedEvents hstart hs

/-- **An event is charged** at the rate that it has. -/
lemma Charged.processEvent (hbuilt : Built topo₀) (h : Charged topo₀ sol rate sim)
    (hrate : event.type = .FailureEvent → rate event.linkId event.lossRate)
    (hs : sim.processEvent orders event = some sim') : Charged topo₀ sol rate sim' := by
  have hover := h.steady.coherentOver
  have hco := hover.coherent
  have hsteady := steady_processEvent hbuilt h.steady hs
  -- `processed` does not say which type the event has
  obtain ⟨l, hlookup, hs⟩ := Option.bind_eq_some_iff.mp hs
  split at hs
  · next htype =>
    split at hs
    · cases hs
      exact ⟨hsteady, h.priced, h.queued⟩
    · next hdis =>
      obtain ⟨failed, hrecord, hs⟩ := Option.bind_eq_some_iff.mp hs
      obtain ⟨a, ha, hacted⟩ := Option.bind_eq_some_iff.mp hs
      obtain ⟨hlinks, hid⟩ := mem_links_of_lookupLink hlookup
      have hen := enabled_of_isLinkDisabled hco hlinks hdis
      refine ⟨hsteady, ?_, queued_acted h.queued hacted⟩
      rw [h.steady.solution] at ha
      rw [(frame_acted hacted).1]
      exact h.priced.solution hover hen (hco.touched_of_recordFailure hen hrecord)
        (hid ▸ hrate htype) ha
  · obtain ⟨topo, henable, hs⟩ := Option.bind_eq_some_iff.mp hs
    obtain ⟨a, ha, hacted⟩ := Option.bind_eq_some_iff.mp hs
    refine ⟨hsteady, ?_, queued_acted h.queued hacted⟩
    rw [h.steady.solution] at ha
    obtain ⟨links, b, hall, heq⟩ := Solution.postRecoveryEventCb_disableAll ha
    rw [(frame_acted hacted).1, ← heq]
    exact (h.priced.enableLink hco henable).disableAll (hover.enableLink henable) hall
  · cases hs
    exact ⟨hsteady, h.priced, h.queued⟩

lemma charged_step (hbuilt : Built topo₀) (sim : Simulation) (orders : SetOrders)
    (sim' : Simulation) (h : Charged topo₀ sol rate sim) (hs : sim.step orders = some sim') :
    Charged topo₀ sol rate sim' := by
  obtain ⟨⟨event, queue⟩, hget, hs⟩ := Option.bind_eq_some_iff.mp hs
  have hevents := events_of_getNextEvent hget
  have hpopped : Charged topo₀ sol rate { sim with eventQueue := queue } :=
    ⟨⟨h.steady.coherentOver, h.steady.solution, h.steady.keeps⟩, h.priced, fun e he =>
      h.queued e (hevents ▸ Multiset.mem_cons_of_mem he)⟩
  exact hpopped.processEvent hbuilt (h.queued event (hevents ▸ Multiset.mem_cons_self _ _)) hs

end Simulation

/-- The trace has a failure of the link with the loss rate. -/
def Config.Failing (config : Config) (linkId : ℤ) (lossRate : ℚ) : Prop :=
  ∃ time, (time, linkId, lossRate) ∈ config.failureEventsList

/-- At the start, no link is corrupting. -/
lemma Built.priced {topo : Topology} (h : Built topo) (lg : Option LinkGuardianSolution)
    (rate : ℤ → ℚ → Prop) : Priced lg rate topo := by
  have hnone (l : ℕ) : l ∉ topo.corruptingLinks := by
    rw [h.fresh.corruptingLinks]
    exact Finset.notMem_empty l
  refine ⟨fun l hl _ => ?_, fun l hl => absurd hl (hnone l), fun l hl => absurd hl (hnone l),
    fun l hl => absurd hl (hnone l)⟩
  rw [Topology.getLinkLossRate, h.fresh.link l (Coherent.mem_enabledLinks.mp hl).1]
  rfl

variable {config : Config} {chance : Chance} {sim : Simulation}

/-- **Every state of a run is charged** at the rates of the trace.  The rate that a link is charged
at is the one of its last failure, and that failure is an entry of the trace. -/
theorem Simulation.Reached.charged (htype : config.topoType ≠ .LeafSpine)
    (h : Simulation.Reached config chance sim) : ∃ topo₀,
      config.buildTopo chance.podShuffle = some topo₀ ∧
        Simulation.Charged topo₀ sim.solution config.Failing sim := by
  obtain ⟨sim₀, inputs, hinit, hrun⟩ := h
  have hbuilt := Simulation.built_init htype hinit
  obtain ⟨topo, hbuild, hinit⟩ := Option.bind_eq_some_iff.mp hinit
  obtain ⟨solution, -, hinit⟩ := Option.bind_eq_some_iff.mp hinit
  cases hinit
  have hcharged : Simulation.Charged topo solution config.Failing sim := by
    refine run_invariant (Simulation.charged_step hbuilt)
      ⟨Simulation.steady_init hbuilt rfl rfl, hbuilt.priced _ _, fun e he _ => ?_⟩ hrun
    obtain ⟨-, x, hx, hid, hrate⟩ := Simulation.mem_events_loadTrace he
    rw [hid, hrate]
    exact ⟨x.1, hx⟩
  refine ⟨topo, hbuild, ?_⟩
  rwa [hcharged.steady.solution]

/-! ## Sums -/

/-- The enabled links that are not corrupting. -/
def Topology.healthyLinks (topo : Topology) : Finset ℕ := topo.enabledLinks \ topo.corruptingLinks

/-- What the healthy links cost. -/
def Topology.healthyPenalty (topo : Topology) : ℚ := topo.healthyLinks.card * initialLinkLossRate

/-- A sum over the enabled links, each healthy one of which has the initial loss rate. -/
lemma Coherent.sum_enabledLinks {topo : Topology} (h : Coherent topo) {g : ℕ → ℚ}
    (hg : ∀ l ∈ topo.enabledLinks, l ∉ topo.corruptingLinks → g l = initialLinkLossRate) :
    ∑ l ∈ topo.enabledLinks, g l = ∑ l ∈ topo.corruptingLinks, g l + topo.healthyPenalty := by
  have hsub : topo.corruptingLinks ⊆ topo.enabledLinks := fun l hl => h.enabled_of_corrupting hl
  have hrest : ∑ l ∈ topo.healthyLinks, g l = topo.healthyPenalty := by
    rw [Topology.healthyPenalty, ← nsmul_eq_mul, ← Finset.sum_const]
    refine Finset.sum_congr rfl fun l hl => ?_
    obtain ⟨hen, hC⟩ := Finset.mem_sdiff.mp hl
    exact hg l hen hC
  rw [← Finset.sum_sdiff hsub, ← hrest, add_comm]
  rfl

/-- The capacity of a pod, of which each healthy link has its own. -/
lemma Coherent.sum_linksOfPod {topo : Topology} (h : Coherent topo) (pod : ℕ)
    (type : PodCapacityType) : topo.perPodCapacity pod type =
      ∑ l ∈ topo.fabric.linksOfPod pod type ∩ topo.corruptingLinks,
        topo.getEffectiveLinkCapacity l +
      ∑ l ∈ topo.fabric.linksOfPod pod type ∩ topo.healthyLinks,
        topo.fabric.getLinkCapacity l := by
  have hhealthy : ∑ l ∈ topo.fabric.linksOfPod pod type ∩ topo.healthyLinks,
      topo.getEffectiveLinkCapacity l = ∑ l ∈ topo.fabric.linksOfPod pod type ∩ topo.healthyLinks,
        topo.fabric.getLinkCapacity l := by
    refine Finset.sum_congr rfl fun l hl => ?_
    obtain ⟨hen, hC⟩ := Finset.mem_sdiff.mp (Finset.mem_inter.mp hl).2
    exact (h.plain l hen (h.lgEnabled_eq_false (Coherent.mem_enabledLinks.mp hen).1 hC)).2
  have hdisj : Disjoint (topo.fabric.linksOfPod pod type ∩ topo.corruptingLinks)
      (topo.fabric.linksOfPod pod type ∩ topo.healthyLinks) :=
    (Finset.disjoint_sdiff).mono Finset.inter_subset_right Finset.inter_subset_right
  rw [h.perPodCapacity, ← hhealthy, ← Finset.sum_union hdisj]
  refine Finset.sum_congr ?_ fun _ _ => rfl
  ext l
  have hcorr : l ∈ topo.corruptingLinks → l ∉ topo.disabledLinks := fun hC =>
    (Coherent.mem_enabledLinks.mp (h.enabled_of_corrupting hC)).2
  have hlinks : l ∈ topo.fabric.linksOfPod pod type → l ∈ topo.fabric.links := fun hl =>
    (Finset.mem_filter.mp hl).1
  simp only [Finset.mem_sdiff, Finset.mem_union, Finset.mem_inter, Topology.healthyLinks,
    Coherent.mem_enabledLinks]
  tauto

namespace Simulation.Reached

variable (hstd : config.Standard) (h : Simulation.Reached config chance sim)
include hstd h

lemma failing {l : ℕ} (hl : l ∈ sim.topo.corruptingLinks) :
    config.Failing l (sim.topo.getLinkLossRate l) := by
  obtain ⟨topo₀, -, hcharged⟩ := h.charged hstd.ne_leafSpine
  exact hcharged.priced.lossRate l hl

lemma totalLossRate_eq : sim.topo.totalLossRate =
    ∑ l ∈ sim.topo.corruptingLinks, sim.topo.getLinkLossRate l + sim.topo.healthyPenalty := by
  obtain ⟨topo₀, hbuild, hcharged⟩ := h.charged hstd.ne_leafSpine
  have hover := hcharged.steady.coherentOver
  have hexcess : sim.topo.fabric.excess = 0 := hover.fabric ▸ hstd.excess hbuild
  rw [hover.coherent.totalLossRate, hexcess, zero_add,
    hover.coherent.sum_enabledLinks hcharged.priced.healthy]

lemma totalEffectiveLossRate_eq : sim.topo.totalEffectiveLossRate =
    ∑ l ∈ sim.topo.corruptingLinks,
      (performance sim.solution.linkguardian sim.topo.fabric l (sim.topo.getLinkLossRate l)).1 +
        sim.topo.healthyPenalty := by
  obtain ⟨topo₀, hbuild, hcharged⟩ := h.charged hstd.ne_leafSpine
  have hover := hcharged.steady.coherentOver
  have hco := hover.coherent
  have hexcess : sim.topo.fabric.excess = 0 := hover.fabric ▸ hstd.excess hbuild
  have hhealthy : ∀ l ∈ sim.topo.enabledLinks, l ∉ sim.topo.corruptingLinks →
      sim.topo.getLinkEffectiveLossRate l = initialLinkLossRate := by
    intro l hl hC
    have hoff := hco.lgEnabled_eq_false (Coherent.mem_enabledLinks.mp hl).1 hC
    rw [(hco.plain l hl hoff).1]
    exact hcharged.priced.healthy l hl hC
  rw [hco.totalEffectiveLossRate, hexcess, zero_add, hco.sum_enabledLinks hhealthy]
  refine congrArg (· + _) (Finset.sum_congr rfl fun l hl => ?_)
  exact congrArg Prod.fst (hcharged.priced.effective l hl)

lemma perPodCapacity_eq (pod : ℕ) (type : PodCapacityType) : sim.topo.perPodCapacity pod type =
    ∑ l ∈ sim.topo.fabric.linksOfPod pod type ∩ sim.topo.corruptingLinks,
      (performance sim.solution.linkguardian sim.topo.fabric l (sim.topo.getLinkLossRate l)).2 +
    ∑ l ∈ sim.topo.fabric.linksOfPod pod type ∩ sim.topo.healthyLinks,
      sim.topo.fabric.getLinkCapacity l := by
  obtain ⟨topo₀, -, hcharged⟩ := h.charged hstd.ne_leafSpine
  rw [hcharged.steady.coherentOver.coherent.sum_linksOfPod]
  refine congrArg (· + _) (Finset.sum_congr rfl fun l hl => ?_)
  exact congrArg Prod.snd (hcharged.priced.effective l (Finset.mem_inter.mp hl).2)

end Simulation.Reached

/-- **What a run costs.**  In every state of a run, with any solution, a corrupting link has a
loss rate that the trace has for it; the total loss rate sums these up, the total effective loss
rate and the capacity of a pod sum up how the corrupting links perform at these rates, and all of
them count every other enabled link with its initial attributes. -/
theorem total_effective_loss_rate_eq (hstd : config.Standard)
    (h : Simulation.Reached config chance sim) :
    (∀ l ∈ sim.topo.corruptingLinks, config.Failing l (sim.topo.getLinkLossRate l)) ∧
    sim.topo.totalLossRate =
      ∑ l ∈ sim.topo.corruptingLinks, sim.topo.getLinkLossRate l + sim.topo.healthyPenalty ∧
    sim.topo.totalEffectiveLossRate = ∑ l ∈ sim.topo.corruptingLinks,
      (performance sim.solution.linkguardian sim.topo.fabric l (sim.topo.getLinkLossRate l)).1 +
        sim.topo.healthyPenalty ∧
    ∀ pod type, sim.topo.perPodCapacity pod type =
      ∑ l ∈ sim.topo.fabric.linksOfPod pod type ∩ sim.topo.corruptingLinks,
        (performance sim.solution.linkguardian sim.topo.fabric l (sim.topo.getLinkLossRate l)).2 +
      ∑ l ∈ sim.topo.fabric.linksOfPod pod type ∩ sim.topo.healthyLinks,
        sim.topo.fabric.getLinkCapacity l :=
  ⟨fun _ hl => h.failing hstd hl, h.totalLossRate_eq hstd, h.totalEffectiveLossRate_eq hstd,
    h.perPodCapacity_eq hstd⟩

/-- Two failures, with LinkGuardian and CorrOpt. -/
theorem total_effective_loss_rate_eq_two_failures : ∃ sim,
    Simulation.Reached (Simulation.twoFailures .lgCorrOpt) Simulation.quickRepairs sim ∧
      sim.topo.totalEffectiveLossRate = ∑ l ∈ sim.topo.corruptingLinks,
        (performance sim.solution.linkguardian sim.topo.fabric l
          (sim.topo.getLinkLossRate l)).1 + sim.topo.healthyPenalty := by
  obtain ⟨sim, h⟩ := Simulation.reached_twoFailures
  exact ⟨sim, h, (total_effective_loss_rate_eq (Simulation.standard_twoFailures _) h).2.2.1⟩

end LinkGuardian.Simulator
