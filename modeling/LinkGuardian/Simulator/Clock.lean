import LinkGuardian.Simulator.Actions

/-!
# The clock of a run

The recoveries that a solution requests are later than the event that it handles, so the event
queue returns events in the order of their times, and the times that a run dumps increase.
-/

namespace LinkGuardian.Simulator

open Execution

/-! ## What one event adds to the queue -/

/-- The queue of an invariant, with nothing in it before or at a time.  This is how the queue stands
after an event of that time has been taken out. -/
structure EventQueue.After (q : EventQueue) (time : ℤ) : Prop where
  inv : q.Inv
  later : ∀ e ∈ q.events, time < e.time

lemma EventQueue.After.addEvent {q : EventQueue} {time : ℤ} (h : q.After time)
    {event : LinkEvent} (hlater : time < event.time) : (q.addEvent event).After time := by
  refine ⟨h.inv.addEvent, fun e he => ?_⟩
  rw [EventQueue.events_addEvent] at he
  rcases Multiset.mem_cons.mp he with rfl | he
  · exact hlater.trans_le (EventQueue.isLeast_freeTime q.timestampRecords event.time).1.1
  · exact h.later e he

/-- The head of the queue has a least time. -/
lemma EventQueue.Inv.getHeadEventTime_le {q : EventQueue} (h : q.Inv) {e : LinkEvent}
    (he : e ∈ q.events) : q.getHeadEventTime ≤ e.time := by
  obtain ⟨x, hx, rfl⟩ := Multiset.mem_map.mp he
  rw [h.stamped x hx]
  obtain ⟨i, hi, rfl⟩ := Heapq.mem_items_iff_getElem.mp hx
  rw [getHeadEventTime, Array.getElem?_eq_getElem (Nat.zero_lt_of_lt hi)]
  exact h.ordered.root_le i hi

namespace Simulation

variable {sim sim' : Simulation} {time : ℤ}

lemma after_addRequestedEvents {events : List LinkEvent} (hq : sim.eventQueue.After time)
    (hreq : ∀ e ∈ events, Requestable time e) (h : sim.addRequestedEvents events = some sim') :
    sim'.eventQueue.After time := by
  refine Loop.preserve (P := fun s => s.eventQueue.After time) hq (fun e he s s' hs hstep => ?_) h
  obtain ⟨-, -, hstep⟩ := Option.bind_eq_some_iff.mp hstep
  cases hstep
  rcases hreq e he with hnop | ⟨hrec, hlater⟩
  · rw [if_neg (by rw [hnop]; decide)]
    exact hs
  · rw [if_pos hrec]
    exact hs.addEvent hlater

lemma after_acted {a : Acting} (hq : sim.eventQueue.After time)
    (hreq : ∀ e ∈ a.events, Requestable time e) (h : sim.acted a = some sim') :
    sim'.eventQueue.After time := by
  have hq' : ({ sim with topo := a.topo, corroptRecoveryRandGen := a.gen } :
      Simulation).eventQueue.After time := hq
  exact after_addRequestedEvents hq' hreq h

/-- Processing an event queues later ones only. -/
lemma after_processEvent {orders : SetOrders} {event : LinkEvent}
    (hq : sim.eventQueue.After event.time) (h : sim.processEvent orders event = some sim') :
    sim'.eventQueue.After event.time := by
  cases processed h with
  | ignored skippedLossEvents heq =>
    subst heq
    exact hq
  | failure l failed a hlookup hdis hrecord ha hacted =>
    exact after_acted hq (Solution.requestable_processFailureEvent ha) hacted
  | recovery l topo a henable ha hacted =>
    exact after_acted hq (Solution.requestable_postRecoveryEventCb ha) hacted

/-- An entry of a trace as an event. -/
def failureEvent (entry : ℤ × ℤ × ℚ) : LinkEvent :=
  ⟨entry.1, .FailureEvent, entry.2.1, entry.2.2⟩

lemma loadTrace_eq (failureEventsList : List (ℤ × ℤ × ℚ)) : loadTrace failureEventsList =
    (failureEventsList.map failureEvent).foldl EventQueue.addEvent {} := by
  rw [List.foldl_map]
  rfl

lemma inv_loadTrace (failureEventsList : List (ℤ × ℤ × ℚ)) :
    (loadTrace failureEventsList).Inv := by
  rw [loadTrace_eq]
  exact EventQueue.inv_empty.foldl_addEvent

lemma eventQueue_init {config : Config} {chance : Chance}
    (h : Simulation.init config chance = some sim) : sim.eventQueue.Inv := by
  obtain ⟨topo, -, h⟩ := Option.bind_eq_some_iff.mp h
  obtain ⟨solution, -, h⟩ := Option.bind_eq_some_iff.mp h
  cases h
  exact inv_loadTrace _

end Simulation

/-! ## The times of a run -/

namespace Running

/-- The times dumped increase, and everything in the queue is later.  The dumper asserts the first;
the second is what makes the next dump pass the assertion. -/
structure InOrder (r : Running) : Prop where
  queue : r.sim.eventQueue.Inv
  dumps : (r.dumps.map Prod.fst).Pairwise (· < ·)
  later : ∀ d ∈ r.dumps, ∀ e ∈ r.sim.eventQueue.events, d.1 < e.time
  prevRow : ∀ prev ∈ r.dumper.prevRow, ∃ d ∈ r.dumps, d.1 = prev.1

/-- A dump at a later time than all others succeeds. -/
lemma InOrder.isSome_dump {r : Running} (h : r.InOrder) {time : ℤ}
    (htime : ∀ d ∈ r.dumps, d.1 < time) (row : Metrics) : (r.dumper.dump time row).isSome := by
  unfold DataDumper.dump
  split
  · rfl
  · next prev hprev =>
    obtain ⟨d, hd, heq⟩ := h.prevRow prev hprev
    have hne : prev.1 ≠ time := by
      have := htime d hd
      omega
    simp [guard, hne]

/-- A dump at a time before everything in the queue and after all other dumps. -/
lemma InOrder.dump {r r' : Running} {time : ℤ} (h : r.InOrder)
    (htime : ∀ d ∈ r.dumps, d.1 < time) (hq : r.sim.eventQueue.After time)
    (hdump : r.dump time = some r') : r'.InOrder := by
  obtain ⟨row, -, hdump⟩ := Option.bind_eq_some_iff.mp hdump
  obtain ⟨dumper, hdumper, hdump⟩ := Option.bind_eq_some_iff.mp hdump
  cases hdump
  refine ⟨hq.inv, ?_, fun d hd e he => ?_, fun prev hprev => ?_⟩
  · show ((r.dumps ++ [(time, row)]).map Prod.fst).Pairwise _
    rw [List.map_append]
    refine List.pairwise_append.mpr ⟨h.dumps, List.pairwise_singleton _ _, fun t ht t' ht' => ?_⟩
    obtain ⟨d, hd, rfl⟩ := List.mem_map.mp ht
    rw [List.mem_singleton.mp ht']
    exact htime d hd
  · rcases List.mem_append.mp hd with hd | hd
    · exact (htime d hd).trans (hq.later e he)
    · rw [List.mem_singleton.mp hd]
      exact hq.later e he
  · have hrow : prev = (time, row) := by
      unfold DataDumper.dump at hdumper
      split at hdumper
      · cases hdumper
        exact (Option.some_inj.mp hprev).symm
      · obtain ⟨-, -, hdumper⟩ := Option.bind_eq_some_iff.mp hdumper
        cases hdumper
        exact (Option.some_inj.mp hprev).symm
    rw [hrow]
    exact ⟨(time, row), List.mem_append_right _ (List.mem_singleton_self _), rfl⟩

lemma inOrder_start {sim : Simulation} {r : Running} (hq : sim.eventQueue.Inv)
    (h : Running.start sim = some r) : r.InOrder := by
  have hempty : InOrder { sim := sim } :=
    ⟨hq, List.Pairwise.nil, fun d hd => (by cases hd), fun prev hprev => (by cases hprev)⟩
  refine hempty.dump (fun d hd => by cases hd) ⟨hq, fun e he => ?_⟩ h
  have hle := hq.getHeadEventTime_le he
  show sim.eventQueue.getHeadEventTime - 4 * 24 * 3600 < e.time
  omega

lemma inOrder_step (r : Running) (orders : SetOrders) (r' : Running) (h : r.InOrder)
    (hs : r.step orders = some r') : r'.InOrder := by
  obtain ⟨⟨event, queue⟩, hnext, hs⟩ := Option.bind_eq_some_iff.mp hs
  obtain ⟨sim, hsim, hs⟩ := Option.bind_eq_some_iff.mp hs
  have hqueue := h.queue.getNextEvent hnext
  have hevent : ∀ d ∈ r.dumps, d.1 < event.time := fun d hd =>
    h.later d hd event (by rw [hqueue.events]; exact Multiset.mem_cons_self _ _)
  obtain ⟨⟨event', queue'⟩, hnext', hsim⟩ := Option.bind_eq_some_iff.mp hsim
  rw [hnext, Option.some_inj] at hnext'
  cases hnext'
  have hpopped : ({ r.sim with eventQueue := queue } : Simulation).eventQueue.After event.time :=
    ⟨hqueue.inv, hqueue.time_lt⟩
  have hafter := Simulation.after_processEvent hpopped hsim
  exact InOrder.dump (r := { r with sim := sim })
    ⟨hafter.inv, h.dumps, fun d hd e he => (hevent d hd).trans (hafter.later e he), h.prevRow⟩
    hevent hafter hs

/-- In a run that has not raised, the next dump does not fail for its time either. -/
lemma InOrder.isSome_next {r : Running} (h : r.InOrder) {event : LinkEvent} {queue : EventQueue}
    (hnext : r.sim.eventQueue.getNextEvent = some (event, queue)) (row : Metrics) :
    (r.dumper.dump event.time row).isSome := by
  refine h.isSome_dump (fun d hd => h.later d hd event ?_) row
  rw [(h.queue.getNextEvent hnext).events]
  exact Multiset.mem_cons_self _ _

/-- Every state of a run from an initialised simulation has dumped at increasing times. -/
theorem inOrder_of_run {config : Config} {chance : Chance} {sim : Simulation} {r₀ r : Running}
    {orders : List SetOrders} (hinit : Simulation.init config chance = some sim)
    (hstart : Running.start sim = some r₀) (hrun : run Running.step r₀ orders = some r) :
    r.InOrder :=
  run_invariant inOrder_step (inOrder_start (Simulation.eventQueue_init hinit) hstart) hrun

end Running

/-- **Event queue and clock.**  A history of the queue never compares two events; each addition
gets the least time from its own on that no earlier addition got; what was added is what was
returned, each event once, and what is queued; and where each addition is requested for later
than the last event returned, the returned times increase.  So the times dumped by a run
increase, and the assertion of the data dumper does not fail at the next event. -/
theorem queue_and_clock :
    (∀ ops : List QueueOp, ∃ h : History, run History.step {} ops = some h ∧
      (∀ pre a post, h.added = pre ++ a :: post →
        IsLeast {t | a.event.time ≤ t ∧ ∀ b ∈ pre, b.time ≠ t} a.time) ∧
      (h.added.map Added.queued : Multiset LinkEvent) =
        (h.returned : Multiset LinkEvent) + h.queue.events ∧
      h.returned.Nodup ∧
      (Along History.step History.Later {} ops → h.returned.Pairwise (·.time < ·.time))) ∧
    ∀ (config : Config) (chance : Chance) (sim : Simulation) (r₀ r : Running)
      (orders : List SetOrders), Simulation.init config chance = some sim →
      Running.start sim = some r₀ → run Running.step r₀ orders = some r →
      (r.dumps.map Prod.fst).Pairwise (· < ·) ∧
        ∀ event queue row, r.sim.eventQueue.getNextEvent = some (event, queue) →
          (r.dumper.dump event.time row).isSome := by
  constructor
  · intro ops
    obtain ⟨h, hrun, hinv⟩ := run_total History.inv_step ops History.inv_empty
    refine ⟨h, hrun, hinv.isLeast, hinv.events, hinv.nodup_returned, fun hlater => ?_⟩
    have hempty : History.Inv {} ∧ History.InOrder {} :=
      ⟨History.inv_empty, List.Pairwise.nil, fun e he => by cases he⟩
    exact (run_invariant_along History.inOrder_step hempty hlater hrun).2.returned
  · intro config chance sim r₀ r orders hinit hstart hrun
    have hinv := Running.inOrder_of_run hinit hstart hrun
    exact ⟨hinv.dumps, fun event queue row hnext => hinv.isSome_next hnext row⟩

end LinkGuardian.Simulator
