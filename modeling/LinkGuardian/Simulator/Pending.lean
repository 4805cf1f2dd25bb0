import LinkGuardian.Simulator.Clock
import LinkGuardian.Simulator.Reactions

/-!
# Pending recoveries

Between two events, the queue holds one recovery for each disabled link.  A recovery that is
taken from the queue therefore finds its link disabled, and an event can be processed unless
LinkGuardian has no entry for a failure.
-/

namespace LinkGuardian.Simulator

open Fabric

/-! ## The recoveries in a queue -/

namespace EventQueue

/-- The links of the recoveries in the queue, each as often as it is queued. -/
def recoveries (q : EventQueue) : Multiset ℤ :=
  (q.events.filter fun e => e.type = .RecoveryEvent).map LinkEvent.linkId

variable {q q' : EventQueue} {event : LinkEvent}

lemma recoveries_addEvent (q : EventQueue) (hrec : event.type = .RecoveryEvent) :
    (q.addEvent event).recoveries = event.linkId ::ₘ q.recoveries := by
  have hqueued : ({ event with time := freeTime q.timestampRecords event.time } :
      LinkEvent).type = .RecoveryEvent := hrec
  rw [recoveries, events_addEvent,
    Multiset.filter_cons_of_pos (p := fun e : LinkEvent => e.type = .RecoveryEvent) _ hqueued,
    Multiset.map_cons]
  rfl

lemma Next.recoveries (h : Next q event q') (hrec : event.type = .RecoveryEvent) :
    q.recoveries = event.linkId ::ₘ q'.recoveries := by
  rw [EventQueue.recoveries, h.events,
    Multiset.filter_cons_of_pos (p := fun e : LinkEvent => e.type = .RecoveryEvent) _ hrec,
    Multiset.map_cons]
  rfl

lemma Next.mem (h : Next q event q') : event ∈ q.events := by
  rw [h.events]
  exact Multiset.mem_cons_self _ _

lemma Next.mem_of_mem (h : Next q event q') {e : LinkEvent} (he : e ∈ q'.events) :
    e ∈ q.events := by
  rw [h.events]
  exact Multiset.mem_cons_of_mem he

lemma Next.recoveries_of_ne (h : Next q event q') (hrec : event.type ≠ .RecoveryEvent) :
    q'.recoveries = q.recoveries := by
  rw [EventQueue.recoveries, EventQueue.recoveries, h.events,
    Multiset.filter_cons_of_neg (p := fun e : LinkEvent => e.type = .RecoveryEvent) _ hrec]

end EventQueue

/-- The links that a reaction disables join those that are disabled. -/
lemma Reaction.disabledLinks_val {topo : Topology} {links : List ℕ} {a : Acting}
    (h : Reaction topo links a) :
    a.topo.disabledLinks.val = topo.disabledLinks.val + (links : Multiset ℕ) := by
  have hdisj : Disjoint topo.disabledLinks links.toFinset := Finset.disjoint_right.mpr fun l hl =>
    h.enabled l (List.mem_toFinset.mp hl)
  rw [h.disabledLinks, ← Finset.disjUnion_eq_union _ _ hdisj, Finset.disjUnion_val,
    List.toFinset_val, h.nodup.dedup]

namespace Simulation

/-! ## The invariant -/

/-- The queue holds one recovery for each disabled link, and events of existing links only.  A
recovery without its link disabled would raise, and a disabled link without a recovery would stay so
for ever. -/
structure Pending (sim : Simulation) : Prop where
  queue : sim.eventQueue.Inv
  recoveries : sim.eventQueue.recoveries = sim.topo.disabledLinks.val.map Nat.cast
  known : ∀ e ∈ sim.eventQueue.events, (sim.topo.fabric.lookupLink e.linkId).isSome

variable {topo₀ : Topology} {sim sim' : Simulation} {sol : Solution}

/-- **Requested events can be queued**, as no solution requests a failure. -/
lemma addRequestedEvents_total {events : List LinkEvent}
    (hnoFailure : ∀ e ∈ events, e.type ≠ .FailureEvent) (hq : sim.eventQueue.Inv) :
    ∃ sim', sim.addRequestedEvents events = some sim' ∧ sim'.eventQueue.Inv ∧
      sim'.eventQueue.recoveries = sim.eventQueue.recoveries +
        (((events.filter fun e => e.type = .RecoveryEvent).map LinkEvent.linkId : List ℤ) :
          Multiset ℤ) ∧
      ∀ e ∈ sim'.eventQueue.events, e ∈ sim.eventQueue.events ∨
        e.linkId ∈ (events.filter fun e => e.type = .RecoveryEvent).map LinkEvent.linkId := by
  refine Loop.total (P := fun done (s : Simulation) => s.eventQueue.Inv ∧
    s.eventQueue.recoveries = sim.eventQueue.recoveries +
      (((done.filter fun e => e.type = .RecoveryEvent).map LinkEvent.linkId : List ℤ) :
        Multiset ℤ) ∧
    ∀ e ∈ s.eventQueue.events, e ∈ sim.eventQueue.events ∨
      e.linkId ∈ (done.filter fun e => e.type = .RecoveryEvent).map LinkEvent.linkId)
    ⟨hq, (add_zero _).symm, fun e he => .inl he⟩ fun pre event post s hxs hP => ?_
  obtain ⟨hinv, hrec, hevents⟩ := hP
  have hevent : event.type ≠ .FailureEvent := hnoFailure event (by
    rw [hxs]
    exact List.mem_append_right _ List.mem_cons_self)
  refine ⟨_, Option.bind_eq_some_iff.mpr ⟨(), if_pos hevent, rfl⟩, ?_⟩
  rw [List.filter_append, List.filter_singleton]
  by_cases htype : event.type = .RecoveryEvent
  · rw [if_pos htype, decide_eq_true htype]
    refine ⟨hinv.addEvent, ?_, fun e he => ?_⟩
    · show (s.eventQueue.addEvent event).recoveries = _
      rw [EventQueue.recoveries_addEvent _ htype, hrec, List.map_append, ← Multiset.coe_add,
        ← add_assoc, ← Multiset.singleton_add, add_comm]
      rfl
    · change e ∈ (s.eventQueue.addEvent event).events at he
      rw [EventQueue.events_addEvent] at he
      rw [List.map_append, List.mem_append]
      rcases Multiset.mem_cons.mp he with rfl | he
      · exact .inr (.inr (List.mem_singleton_self _))
      · exact (hevents e he).imp id .inl
  · rw [if_neg htype, decide_eq_false htype, cond_false, List.append_nil]
    exact ⟨hinv, hrec, hevents⟩

lemma lookupLink_natCast {f : Fabric} {l : ℕ} (hl : l ∈ f.links) :
    f.lookupLink (l : ℤ) = some l := by
  rw [Fabric.lookupLink, Int.toNat_natCast]
  exact if_pos ⟨Int.natCast_nonneg l, Fabric.mem_links.mp hl⟩

/-- What a reaction requests is queued: one more recovery for each link that it has disabled. -/
lemma Pending.acted {topo : Topology} {links : List ℕ} {a : Acting} (hq : sim.eventQueue.Inv)
    (hrec : sim.eventQueue.recoveries = topo.disabledLinks.val.map Nat.cast)
    (hknown : ∀ e ∈ sim.eventQueue.events, (topo.fabric.lookupLink e.linkId).isSome)
    (h : Reaction topo links a) : ∃ sim', sim.acted a = some sim' ∧ sim'.Pending := by
  have hq' : ({ sim with topo := a.topo, corroptRecoveryRandGen := a.gen } :
      Simulation).eventQueue.Inv := hq
  obtain ⟨sim', hs, hinv, hrec', hevents⟩ := addRequestedEvents_total h.noFailure hq'
  have htopo := (frame_acted hs).1
  refine ⟨sim', hs, hinv, ?_, fun e he => ?_⟩
  · rw [hrec', htopo, h.disabledLinks_val, Multiset.map_add, h.recoveries]
    exact congrArg (· + _) hrec
  · rw [htopo, h.coherentOver.fabric]
    rcases hevents e he with he | he
    · exact hknown e he
    · rw [h.recoveries] at he
      obtain ⟨l, hl, heq⟩ := List.mem_map.mp he
      have hD : l ∈ a.topo.disabledLinks := by
        rw [h.disabledLinks]
        exact Finset.mem_union_right _ (List.mem_toFinset.mpr hl)
      have hlinks := h.coherentOver.coherent.disabled_subset hD
      rw [h.coherentOver.fabric] at hlinks
      rw [← heq, lookupLink_natCast hlinks]
      rfl

/-! ## One event -/

/-- The event is a failure of an enabled link on which LinkGuardian is to be activated, and the
table has no entry for its loss rate. -/
def Unhandled (sim : Simulation) (event : LinkEvent) : Prop :=
  event.type = .FailureEvent ∧ ∃ l, sim.topo.fabric.lookupLink event.linkId = some l ∧
    sim.topo.isLinkDisabled l = false ∧
    sim.solution.Uncovered sim.topo.fabric l event.lossRate

section Event

variable {orders : SetOrders} {event : LinkEvent} {q : EventQueue}

/-- **A failure is processed**, unless LinkGuardian has no entry for it. -/
lemma processFailure_total (hbuilt : Built topo₀) (h : Steady topo₀ sol sim) (hp : sim.Pending)
    (hnext : EventQueue.Next sim.eventQueue event q) (htype : event.type = .FailureEvent)
    (hun : ¬ sim.Unhandled event) : ∃ sim', ({ sim with eventQueue := q } :
      Simulation).processEvent orders event = some sim' ∧ sim'.Pending := by
  have hrec : q.recoveries = sim.topo.disabledLinks.val.map Nat.cast := by
    rw [hnext.recoveries_of_ne (by rw [htype]; exact LinkEventType.noConfusion), hp.recoveries]
  obtain ⟨l, hlookup⟩ := Option.isSome_iff_exists.mp (hp.known event hnext.mem)
  have hl := (mem_links_of_lookupLink hlookup).1
  unfold processEvent
  rw [hlookup, Option.bind_eq_bind, Option.bind_some, htype]
  dsimp only
  by_cases hdis : sim.topo.isLinkDisabled l = true
  · exact ⟨_, if_pos hdis, hnext.inv, hrec, fun e he => hp.known e (hnext.mem_of_mem he)⟩
  · have hen := enabled_of_isLinkDisabled h.coherentOver.coherent hl hdis
    obtain ⟨topo, hrecord, ht⟩ := h.coherentOver.coherent.recordFailure hen event.lossRate
    obtain ⟨hover, hcorr⟩ := h.coherentOver.recordFailure hen hrecord
    rcases sol.processFailureEvent_total hbuilt hover sim.corroptRecoveryRandGen event.time hcorr
      event.lossRate (h.keeps.touched ht) with ⟨a, links, ha, hr, -⟩ | huncovered
    · rw [← h.solution] at ha
      have hpopped : ({ sim with eventQueue := q } : Simulation).eventQueue.Inv := hnext.inv
      obtain ⟨sim', hacted, hp'⟩ := Pending.acted hpopped hrec
        (fun e he => hp.known e (hnext.mem_of_mem he)) (hr.congr ht.set.fabric ht.disabledLinks)
      refine ⟨sim', ?_, hp'⟩
      rw [if_neg hdis]
      exact Option.bind_eq_some_iff.mpr ⟨topo, hrecord, Option.bind_eq_some_iff.mpr
        ⟨a, ha, hacted⟩⟩
    · rw [← h.solution, ht.set.fabric] at huncovered
      exact absurd ⟨htype, l, hlookup, Bool.eq_false_iff.mpr hdis, huncovered⟩ hun

/-- **A recovery is processed**: its link is disabled. -/
lemma processRecovery_total (hbuilt : Built topo₀) (h : Steady topo₀ sol sim) (hp : sim.Pending)
    (hnext : EventQueue.Next sim.eventQueue event q) (htype : event.type = .RecoveryEvent) :
    ∃ sim', ({ sim with eventQueue := q } : Simulation).processEvent orders event = some sim' ∧
      sim'.Pending := by
  have hrec := hnext.recoveries htype
  rw [hp.recoveries] at hrec
  have hmem : event.linkId ∈ sim.topo.disabledLinks.val.map Nat.cast := by
    rw [hrec]
    exact Multiset.mem_cons_self _ _
  obtain ⟨l, hD, hid⟩ := Multiset.mem_map.mp hmem
  have hD : l ∈ sim.topo.disabledLinks := hD
  have hlookup : sim.topo.fabric.lookupLink event.linkId = some l := by
    rw [← hid]
    exact lookupLink_natCast (h.coherentOver.coherent.disabled_subset hD)
  obtain ⟨topo, henable, he⟩ := h.coherentOver.coherent.enableLink hD
  obtain ⟨a, links, ha, hr, -⟩ := sim.solution.postRecoveryEventCb_total hbuilt
    (h.coherentOver.enableLink henable) orders sim.corroptRecoveryRandGen event.time
    (by rw [h.solution]; exact h.keeps.enabled hD he)
  have hpopped : ({ sim with eventQueue := q } : Simulation).eventQueue.Inv := hnext.inv
  have hrec' : q.recoveries = topo.disabledLinks.val.map Nat.cast := by
    rw [he.disabledLinks, Finset.erase_val, Multiset.map_erase _ Nat.cast_injective, hrec, ← hid,
      Multiset.erase_cons_head]
  have hknown : ∀ e ∈ q.events, (topo.fabric.lookupLink e.linkId).isSome := by
    intro e he'
    rw [he.set.fabric]
    exact hp.known e (hnext.mem_of_mem he')
  obtain ⟨sim', hacted, hp'⟩ := Pending.acted hpopped hrec' hknown hr
  refine ⟨sim', ?_, hp'⟩
  unfold processEvent
  rw [hlookup, Option.bind_eq_bind, Option.bind_some, htype]
  exact Option.bind_eq_some_iff.mpr ⟨topo, henable, Option.bind_eq_some_iff.mpr ⟨a, ha, hacted⟩⟩

/-- **An event is processed**, unless it is a failure for which LinkGuardian has no entry.  All
other exceptions of the source are excluded by the invariants. -/
theorem step_total (hbuilt : Built topo₀) (h : Steady topo₀ sol sim) (hp : sim.Pending)
    (orders : SetOrders) (hget : sim.eventQueue.getNextEvent = some (event, q))
    (hun : ¬ sim.Unhandled event) : ∃ sim', sim.step orders = some sim' ∧ sim'.Pending := by
  have hnext := hp.queue.getNextEvent hget
  suffices hprocess : ∃ sim', ({ sim with eventQueue := q } : Simulation).processEvent orders
      event = some sim' ∧ sim'.Pending by
    obtain ⟨sim', hs, hp'⟩ := hprocess
    exact ⟨sim', Option.bind_eq_some_iff.mpr ⟨_, hget, hs⟩, hp'⟩
  cases htype : event.type with
  | FailureEvent => exact processFailure_total hbuilt h hp hnext htype hun
  | RecoveryEvent => exact processRecovery_total hbuilt h hp hnext htype
  | NopEvent =>
    obtain ⟨l, hlookup⟩ := Option.isSome_iff_exists.mp (hp.known event hnext.mem)
    refine ⟨{ sim with eventQueue := q }, ?_, hnext.inv, ?_,
      fun e he => hp.known e (hnext.mem_of_mem he)⟩
    · unfold processEvent
      rw [hlookup, Option.bind_eq_bind, Option.bind_some, htype]
      rfl
    · rw [hnext.recoveries_of_ne (by rw [htype]; exact LinkEventType.noConfusion)]
      exact hp.recoveries

/-- Such a failure raises. -/
lemma step_unhandled (h : Steady topo₀ sol sim) (orders : SetOrders)
    (hget : sim.eventQueue.getNextEvent = some (event, q)) (hun : sim.Unhandled event) :
    sim.step orders = none := by
  obtain ⟨htype, l, hlookup, hdis, huncovered⟩ := hun
  have hl := (mem_links_of_lookupLink hlookup).1
  have hen := enabled_of_isLinkDisabled h.coherentOver.coherent hl (Bool.eq_false_iff.mp hdis)
  obtain ⟨topo, hrecord, ht⟩ := h.coherentOver.coherent.recordFailure hen event.lossRate
  rw [← ht.set.fabric] at huncovered
  unfold step
  rw [hget, Option.bind_eq_bind, Option.bind_some]
  unfold processEvent
  dsimp only
  rw [hlookup, Option.bind_eq_bind, Option.bind_some, htype]
  dsimp only
  rw [hdis, if_neg Bool.false_ne_true, hrecord]
  show Option.bind (Solution.processFailureEvent topo _ _ l event.lossRate sim.solution) _ = none
  rw [Solution.processFailureEvent_of_uncovered huncovered]
  rfl

end Event

end Simulation

end LinkGuardian.Simulator
