import LinkGuardian.Simulator.Noninterference
import LinkGuardian.Simulator.Penalty

/-!
# A whole run

`Simulation.run` takes events from the queue until it is empty, and prints a summary of the events
that it counted.  Each recovery is paid for by a failure that made a link corrupting, so the loop
ends after at most two events for each failure of the trace, and the summary adds up.

The source has no bound on its loop.  The model gives it one, and `exists_run` says that it is never
reached; what bounds the rounds is the `Tally`, an account of the failures left and of the
recoveries that they can still bring about.
-/

namespace LinkGuardian.Simulator

open Execution

/-! ## The loop with its counters -/

def EventQueue.isNotEmpty (q : EventQueue) : Bool := 0 < q.queue.size

/-- `process_event` returns `False`: the link of the failure is disabled. -/
def Simulation.skips (sim : Simulation) (event : LinkEvent) : Bool :=
  event.type = .FailureEvent &&
    (sim.topo.fabric.lookupLink event.linkId).any sim.topo.isLinkDisabled

/-- A run with the counters of its loop.  The counters are local variables of the loop and only read
by the summary. -/
structure Counting where
  running : Running
  eventCounter : ℕ := 1
  processedEventCounter : ℕ := 0

namespace Counting

def sim (c : Counting) : Simulation := c.running.sim

/-- One round of the loop. -/
def step (c : Counting) (orders : SetOrders) : Option Counting := do
  let (event, _) ← c.sim.eventQueue.getNextEvent
  let running ← c.running.step orders
  return { running := running
           eventCounter := c.eventCounter + 1
           processedEventCounter :=
             if c.sim.skips event then c.processedEventCounter else c.processedEventCounter + 1 }

/-- The loop, in which `orders` lists the sets in the round of an event. -/
def loop (orders : ℕ → SetOrders) : ℕ → Counting → Option Counting :=
  Loop.whileLoop (fun c => c.sim.eventQueue.isNotEmpty) fun c => c.step (orders c.eventCounter)

end Counting

/-- The table that is printed at the end. -/
structure Summary where
  inputFailureEvents : ℕ
  skippedLossEvents : ℕ
  addedRecoveryEvents : ℕ
  totalEventsProcessed : ℕ

def Counting.summary (c : Counting) (inputFailureEvents : ℕ) : Summary where
  inputFailureEvents := inputFailureEvents
  skippedLossEvents := c.sim.skippedLossEvents
  addedRecoveryEvents := c.sim.addedRecoveryEvents
  totalEventsProcessed := c.processedEventCounter

/-- `Simulation.run` on an initialised simulation: the data file, the summary and the simulation
as it is left; `none` when an exception is raised or the loop has not ended. -/
def Simulation.run (sim : Simulation) (orders : ℕ → SetOrders) (fuel : ℕ) :
    Option (DataDumper Metrics × Summary × Simulation) := do
  let running ← Running.start sim
  let c ← Counting.loop orders fuel { running := running }
  let dumper ← c.running.dumper.dumpLastRow
  -- no event has been taken from the queue of `sim`, so its length is `curr_queue_length`
  return (dumper, c.summary sim.eventQueue.queue.size, c.sim)

/-! ## Events in the queue -/

namespace EventQueue

variable {q q' : EventQueue} {event : LinkEvent}

/-- The number of failures in the queue. -/
def failures (q : EventQueue) : ℕ := q.events.countP fun e => e.type = .FailureEvent

lemma card_events (q : EventQueue) : q.events.card = q.queue.size := by
  rw [events, Multiset.card_map, Heapq.items, Multiset.coe_card, Array.length_toList]

/-- A failure that is taken out is no longer counted. -/
lemma failures_of_getNextEvent (hget : q.getNextEvent = some (event, q')) :
    q.failures = q'.failures + if event.type = .FailureEvent then 1 else 0 := by
  rw [failures, Simulation.events_of_getNextEvent hget, Multiset.countP_cons]
  rfl

lemma size_of_getNextEvent (hget : q.getNextEvent = some (event, q')) :
    q.queue.size = q'.queue.size + 1 := by
  rw [← card_events, Simulation.events_of_getNextEvent hget, Multiset.card_cons, card_events]

lemma isNotEmpty_iff : q.isNotEmpty = true ↔ ∃ event q', q.getNextEvent = some (event, q') := by
  rw [isNotEmpty, decide_eq_true_eq]
  constructor
  · intro hpos
    cases hnext : q.getNextEvent with
    | some next => exact ⟨next.1, next.2, rfl⟩
    | none =>
      have hzero := card_events q
      rw [getNextEvent_eq_none hnext, Multiset.card_zero] at hzero
      omega
  · rintro ⟨event, q', hnext⟩
    rw [← card_events, Simulation.events_of_getNextEvent hnext, Multiset.card_cons]
    exact Nat.succ_pos _

end EventQueue

/-! ## Recoveries are paid for -/

/-- The number of recoveries that are requested. -/
def Acting.requested (a : Acting) : ℕ := a.events.countP fun e => e.type = .RecoveryEvent

section Paid

variable {f : Fabric} {topo : Topology} {gen : RandGen} {time : ℤ} {l : ℕ} {x : ℚ}
  {a a' : Acting} {orders : SetOrders}

lemma corrupting_of_disable (hc : Coherent topo) {topo' : Topology}
    (hs : topo.disableLink l = some topo') :
    topo'.corruptingLinks.card + 1 = topo.corruptingLinks.card := by
  rw [(hc.disabled_of_disableLink hs).corruptingLinks]
  exact Finset.card_erase_add_one (corrupting_of_disableLink hs)

/-- **A recovery is requested for each link that stops to be corrupting.** -/
lemma Acting.disable_paid (hc : Coherent a.topo) (hs : a.disable time l = some a') :
    a'.topo.corruptingLinks.card + a'.requested = a.topo.corruptingLinks.card + a.requested := by
  obtain ⟨topo', hdis, rfl⟩ := disable_eq_some.mp hs
  have hone : ([(getCorroptRecoveryEvent a.gen l time).1].countP
      fun e => decide (e.type = .RecoveryEvent)) = 1 := rfl
  show topo'.corruptingLinks.card + (a.events ++ _).countP _ = _
  rw [← corrupting_of_disable hc hdis, requested, List.countP_append, hone]
  omega

lemma Acting.disableAll_paid {links : List ℕ} (hc : CoherentOver f a.topo)
    (hs : a.disableAll time links = some a') :
    a'.topo.corruptingLinks.card + a'.requested = a.topo.corruptingLinks.card + a.requested := by
  refine (Loop.preserve (P := fun b : Acting => CoherentOver f b.topo ∧
    b.topo.corruptingLinks.card + b.requested = a.topo.corruptingLinks.card + a.requested)
    ⟨hc, rfl⟩ (fun l _ b b' hb hstep => ⟨hb.1.disable hstep, ?_⟩) hs).2
  rw [Acting.disable_paid hb.1.coherent hstep, hb.2]

lemma CorrOptSolution.corroptFastChecker_paid {corropt : CorrOptSolution} (hc : Coherent topo)
    (hs : corropt.corroptFastChecker topo gen time l = some a) :
    a.topo.corruptingLinks.card + a.requested = topo.corruptingLinks.card := by
  rcases corroptFastChecker_cases hs with rfl | hs
  · rfl
  · exact Acting.disable_paid (a := { topo := topo, gen := gen }) hc hs

lemma CoherentOver.linkguardian_corruptingLinks {lg : LinkGuardianSolution} {topo' : Topology}
    (hc : CoherentOver f topo) (hl : l ∈ topo.corruptingLinks)
    (hs : lg.processFailureEvent topo l x = some topo') :
    topo'.corruptingLinks = topo.corruptingLinks := by
  rcases hc.coherent.linkguardian_of_some hl hs with ⟨-, rfl⟩ | ⟨perf, -, -, ht⟩
  · rfl
  · rw [ht.corruptingLinks, Finset.insert_eq_of_mem hl]

lemma Solution.processFailureEvent_paid {sol : Solution} (hc : CoherentOver f topo)
    (hl : l ∈ topo.corruptingLinks) (hs : sol.processFailureEvent topo gen time l x = some a) :
    a.topo.corruptingLinks.card + a.requested = topo.corruptingLinks.card := by
  cases sol with
  | doNothing =>
    cases hs
    rfl
  | disableAndRepair =>
    obtain ⟨topo', hdis, hs⟩ := Option.bind_eq_some_iff.mp hs
    cases hs
    exact corrupting_of_disable hc.coherent hdis
  | corrOpt corropt => exact corropt.corroptFastChecker_paid hc.coherent hs
  | linkGuardian lg =>
    obtain ⟨on, hlg, hs⟩ := Option.bind_eq_some_iff.mp hs
    cases hs
    exact congrArg Finset.card (hc.linkguardian_corruptingLinks hl hlg)
  | lgCorrOpt lg corropt =>
    obtain ⟨on, hlg, hs⟩ := Option.bind_eq_some_iff.mp hs
    rw [← hc.linkguardian_corruptingLinks hl hlg]
    exact corropt.corroptFastChecker_paid (hc.linkguardian hl hlg).coherent hs

lemma Solution.postRecoveryEventCb_paid {sol : Solution} (hc : CoherentOver f topo)
    (hs : sol.postRecoveryEventCb orders topo gen time = some a) :
    a.topo.corruptingLinks.card + a.requested = topo.corruptingLinks.card := by
  have hoptimizer {corropt : CorrOptSolution}
      (hs : corropt.corroptOptimizer orders topo gen time = some a) :
      a.topo.corruptingLinks.card + a.requested = topo.corruptingLinks.card := by
    obtain ⟨links, hlinks⟩ := CorrOptSolution.corroptOptimizer_disableAll hs
    exact Acting.disableAll_paid (a := { topo := topo, gen := gen }) hc hlinks
  cases sol with
  | corrOpt corropt => exact hoptimizer hs
  | lgCorrOpt lg corropt => exact hoptimizer hs
  | doNothing => cases hs; rfl
  | disableAndRepair => cases hs; rfl
  | linkGuardian lg => cases hs; rfl

end Paid

/-! ## One event -/

namespace Simulation

variable {f : Fabric} {sim sim' : Simulation} {event : LinkEvent} {orders : SetOrders}

/-- So many recoveries are queued, and nothing else.  What a solution requests shows in the size of
the queue and in the counter of added recoveries alike. -/
structure Queued (sim sim' : Simulation) (k : ℕ) : Prop where
  events : sim'.eventQueue.queue.size = sim.eventQueue.queue.size + k
  failures : sim'.eventQueue.failures = sim.eventQueue.failures
  added : sim'.addedRecoveryEvents = sim.addedRecoveryEvents + k
  skipped : sim'.skippedLossEvents = sim.skippedLossEvents

lemma Queued.addRequestedEvents {events : List LinkEvent}
    (hs : sim.addRequestedEvents events = some sim') :
    Queued sim sim' (events.countP fun e => e.type = .RecoveryEvent) := by
  refine Loop.invariant (P := fun done s => Queued sim s
    (done.countP fun e => e.type = .RecoveryEvent)) ⟨rfl, rfl, rfl, rfl⟩
    (fun pre event post s s' _ hP hstep => ?_) hs
  obtain ⟨_, -, hstep⟩ := Option.bind_eq_some_iff.mp hstep
  cases hstep
  rw [List.countP_append]
  split
  case isTrue hrec =>
    have hone : [event].countP (fun e => decide (e.type = .RecoveryEvent)) = 1 := by simp [hrec]
    rw [hone]
    refine ⟨?_, ?_, ?_, hP.skipped⟩
    · show (s.eventQueue.addEvent event).queue.size = _
      rw [← EventQueue.card_events, EventQueue.events_addEvent, Multiset.card_cons,
        EventQueue.card_events, hP.events, add_assoc]
    · show (s.eventQueue.addEvent event).failures = _
      rw [← hP.failures, EventQueue.failures, EventQueue.events_addEvent,
        Multiset.countP_cons_of_neg]
      · rfl
      · simp [hrec]
    · show s.addedRecoveryEvents + 1 = _
      rw [hP.added, add_assoc]
  case isFalse hrec =>
    have hzero : [event].countP (fun e => decide (e.type = .RecoveryEvent)) = 0 := by simp [hrec]
    rw [hzero]
    exact hP

lemma Queued.acted {a : Acting} (hs : sim.acted a = some sim') : Queued sim sim' a.requested :=
  let h := addRequestedEvents hs
  ⟨h.events, h.failures, h.added, h.skipped⟩

/-- **Each event is skipped or processed**, and a recovery that it adds is paid for by a link that
was corrupting or that its failure made so. -/
lemma processEvent_paid (h : CoherentOver f sim.topo)
    (hs : sim.processEvent orders event = some sim') :
    (sim.skips event = true ∧ event.type = .FailureEvent ∧
      sim' = { sim with skippedLossEvents := sim.skippedLossEvents + 1 }) ∨
    sim.skips event = false ∧ ∃ k, Queued sim sim' k ∧
      sim'.topo.corruptingLinks.card + k ≤
        sim.topo.corruptingLinks.card + if event.type = .FailureEvent then 1 else 0 := by
  obtain ⟨l, hlookup, hs⟩ := Option.bind_eq_some_iff.mp hs
  split at hs
  · next htype =>
    have hskips : sim.skips event = sim.topo.isLinkDisabled l := by
      simp [skips, htype, hlookup]
    split at hs
    · next hdis =>
      cases hs
      exact .inl ⟨hskips.trans hdis, htype, rfl⟩
    · next hdis =>
      obtain ⟨failed, hrecord, hs⟩ := Option.bind_eq_some_iff.mp hs
      obtain ⟨a, ha, hacted⟩ := Option.bind_eq_some_iff.mp hs
      have hen := enabled_of_isLinkDisabled h.coherent (mem_links_of_lookupLink hlookup).1 hdis
      obtain ⟨hfailed, hcorr⟩ := h.recordFailure hen hrecord
      have hpaid := Solution.processFailureEvent_paid hfailed hcorr ha
      have ht := h.coherent.touched_of_recordFailure hen hrecord
      -- a link that fails while it is corrupting makes no new one, so this may be less
      have hcard : failed.corruptingLinks.card ≤ sim.topo.corruptingLinks.card + 1 := by
        rw [ht.corruptingLinks]
        exact Finset.card_insert_le _ _
      refine .inr ⟨hskips.trans (Bool.eq_false_iff.mpr hdis), a.requested, Queued.acted hacted, ?_⟩
      rw [(frame_acted hacted).1, if_pos htype, hpaid]
      exact hcard
  · next htype =>
    obtain ⟨topo, henable, hs⟩ := Option.bind_eq_some_iff.mp hs
    obtain ⟨a, ha, hacted⟩ := Option.bind_eq_some_iff.mp hs
    have hpaid := Solution.postRecoveryEventCb_paid (h.enableLink henable) ha
    refine .inr ⟨by simp [skips, htype], a.requested, Queued.acted hacted, ?_⟩
    rw [(frame_acted hacted).1, hpaid, (h.coherent.enabled_of_enableLink henable).corruptingLinks]
    exact Nat.le_add_right _ _
  · next htype =>
    cases hs
    exact .inr ⟨by simp [skips, htype], 0, ⟨rfl, rfl, rfl, rfl⟩, Nat.le_add_right _ _⟩

end Simulation

/-! ## The loop -/

namespace Running

/-- A dump after the first one writes two rows. -/
lemma rows_dump {r r' : Running} {time : ℤ} (hprev : r.dumper.prevRow.isSome)
    (hs : r.dump time = some r') :
    r'.dumper.rows.length = r.dumper.rows.length + 2 := by
  obtain ⟨prev, hprev⟩ := Option.isSome_iff_exists.mp hprev
  obtain ⟨row, -, hs⟩ := Option.bind_eq_some_iff.mp hs
  obtain ⟨dumper, hdumper, hs⟩ := Option.bind_eq_some_iff.mp hs
  cases hs
  rw [DataDumper.dump, hprev] at hdumper
  obtain ⟨-, -, hdumper⟩ := Option.bind_eq_some_iff.mp hdumper
  cases hdumper
  exact List.length_append

/-- What a step does: it takes an event, processes it, and dumps the metrics. -/
lemma step_cases {r r' : Running} {orders : SetOrders} (hs : r.step orders = some r') :
    ∃ event q, r.sim.eventQueue.getNextEvent = some (event, q) ∧
      ({ r.sim with eventQueue := q } : Simulation).processEvent orders event = some r'.sim ∧
      ({ r with sim := r'.sim } : Running).dump event.time = some r' := by
  obtain ⟨⟨event, q⟩, hget, hs⟩ := Option.bind_eq_some_iff.mp hs
  obtain ⟨sim, hsim, hdump⟩ := Option.bind_eq_some_iff.mp hs
  obtain ⟨⟨event', q'⟩, hget', hprocess⟩ := Option.bind_eq_some_iff.mp hsim
  rw [hget, Option.some_inj] at hget'
  cases hget'
  have hrsim : r'.sim = sim := sim_dump hdump
  rw [hrsim]
  exact ⟨event, q, hget, hprocess, hdump⟩

end Running

/-- The first dump writes one row. -/
lemma Running.rows_start {sim : Simulation} {r : Running} (hs : Running.start sim = some r) :
    r.dumper.rows.length = 1 := by
  obtain ⟨row, -, hs⟩ := Option.bind_eq_some_iff.mp hs
  obtain ⟨dumper, hdumper, hs⟩ := Option.bind_eq_some_iff.mp hs
  cases hs
  cases hdumper
  rfl

namespace Counting

variable {topo₀ : Topology} {sol : Solution} {rate : ℤ → ℚ → Prop} {n : ℕ} {c : Counting}

/-- The number of rounds so far. -/
def rounds (c : Counting) : ℕ := c.processedEventCounter + c.sim.skippedLossEvents

/-- Each event that was ever queued has been taken out or waits, each recovery and each corrupting
link has been paid for by a failure of the trace, and each round has written its rows. -/
structure Tally (n : ℕ) (c : Counting) : Prop where
  balance : c.rounds + c.sim.eventQueue.queue.size = n + c.sim.addedRecoveryEvents
  paid : c.sim.addedRecoveryEvents + c.sim.skippedLossEvents + c.sim.topo.corruptingLinks.card +
    c.sim.eventQueue.failures ≤ n
  rows : c.running.dumper.rows.length = 2 * c.rounds + 1
  counter : c.eventCounter = c.rounds + 1

/-- There are at most two rounds for each failure. -/
lemma Tally.rounds_le (h : Tally n c) : c.rounds + c.sim.eventQueue.queue.size ≤ 2 * n := by
  have hpaid := h.paid
  rw [h.balance]
  omega

/-- **A round keeps the tally.** -/
lemma Tally.step {orders : SetOrders} {c' : Counting} (h : Tally n c)
    (hlife : Running.Lifecycle topo₀ sol c.running) (hs : c.step orders = some c') :
    Tally n c' ∧ c'.rounds = c.rounds + 1 := by
  obtain ⟨⟨event, q⟩, hget, hs⟩ := Option.bind_eq_some_iff.mp hs
  obtain ⟨r, hr, hs⟩ := Option.bind_eq_some_iff.mp hs
  cases hs
  obtain ⟨event', q', hget', hprocess, hdump⟩ := Running.step_cases hr
  have hsame : (event', q') = (event, q) := Option.some_inj.mp (hget'.symm.trans hget)
  cases hsame
  have hrows : r.dumper.rows.length = c.running.dumper.rows.length + 2 :=
    Running.rows_dump (r := { c.running with sim := r.sim }) hlife.dumped hdump
  have hsize := EventQueue.size_of_getNextEvent hget
  have hfailures := EventQueue.failures_of_getNextEvent hget
  have hover : CoherentOver topo₀.fabric
      ({ c.sim with eventQueue := q } : Simulation).topo := hlife.steady.coherentOver
  obtain ⟨hbalance, hpaid, hlength, hcounter⟩ := h
  rw [rounds] at hbalance hlength hcounter
  rcases Simulation.processEvent_paid hover hprocess with ⟨hskips, htype, hsim⟩ |
    ⟨hskips, k, ⟨hk, hkf, hadded, hskipped⟩, hcorr⟩
  · have hskips' : c.sim.skips event = true := hskips
    rw [if_pos htype] at hfailures
    have hskipped : r.sim.skippedLossEvents = c.sim.skippedLossEvents + 1 := by rw [hsim]
    have hadded : r.sim.addedRecoveryEvents = c.sim.addedRecoveryEvents := by rw [hsim]
    have hqueue : r.sim.eventQueue = q := by rw [hsim]
    have htopo : r.sim.topo = c.sim.topo := by rw [hsim]
    simp only [if_pos hskips']
    refine ⟨⟨?_, ?_, ?_, ?_⟩, ?_⟩ <;> simp only [rounds, sim] at * <;>
      simp only [hskipped, hadded, hqueue, htopo] at * <;> omega
  · have hskips' : ¬ c.sim.skips event = true := Bool.eq_false_iff.mp hskips
    simp only [if_neg hskips']
    refine ⟨⟨?_, ?_, ?_, ?_⟩, ?_⟩ <;> simp only [rounds, sim] at * <;> omega

/-- What holds of a loop between two rounds.  The two invariants of a run say that it does not raise
and what it costs; the tally says that it ends. -/
structure Inv (topo₀ : Topology) (sol : Solution) (rate : ℤ → ℚ → Prop) (n : ℕ) (c : Counting) :
    Prop where
  lifecycle : Running.Lifecycle topo₀ sol c.running
  charged : Simulation.Charged topo₀ sol rate c.sim
  tally : Tally n c

/-- **The loop takes a next round**, where LinkGuardian has an entry for each failure. -/
lemma Inv.step (hbuilt : Built topo₀) (h : Inv topo₀ sol rate n c)
    (hcovered : ∀ id x, rate id x → ∀ l, topo₀.fabric.lookupLink id = some l →
      ¬ sol.Uncovered topo₀.fabric l x)
    (hnext : c.sim.eventQueue.isNotEmpty = true) (orders : SetOrders) :
    ∃ c', c.step orders = some c' ∧ Inv topo₀ sol rate n c' ∧ c'.rounds = c.rounds + 1 := by
  obtain ⟨event, q, hget⟩ := EventQueue.isNotEmpty_iff.mp hnext
  have hevents := Simulation.events_of_getNextEvent hget
  have hun : ¬ c.sim.Unhandled event := by
    rintro ⟨htype, l, hlookup, -, hunc⟩
    rw [sim, h.lifecycle.steady.solution, h.lifecycle.steady.coherentOver.fabric] at hunc
    rw [sim, h.lifecycle.steady.coherentOver.fabric] at hlookup
    exact hcovered _ _ (h.charged.queued event (hevents ▸ Multiset.mem_cons_self _ _) htype) l
      hlookup hunc
  have hstep := (h.lifecycle.step_eq_none_iff hbuilt hget orders).not.mpr hun
  obtain ⟨r, hr⟩ := Option.ne_none_iff_exists'.mp hstep
  have hs : c.step orders = some _ :=
    Option.bind_eq_some_iff.mpr ⟨_, hget, Option.bind_eq_some_iff.mpr ⟨r, hr, rfl⟩⟩
  obtain ⟨htally, hrounds⟩ := h.tally.step h.lifecycle hs
  refine ⟨_, hs, ⟨?_, ?_, htally⟩, hrounds⟩
  · exact Running.lifecycle_step hbuilt _ _ _ h.lifecycle hr
  · exact Simulation.charged_step hbuilt _ _ _ h.charged (Running.sim_step hr)

/-- **The loop ends**, after at most two rounds for each failure. -/
lemma Inv.loop (hbuilt : Built topo₀) (h : Inv topo₀ sol rate n c)
    (hcovered : ∀ id x, rate id x → ∀ l, topo₀.fabric.lookupLink id = some l →
      ¬ sol.Uncovered topo₀.fabric l x) (orders : ℕ → SetOrders) :
    ∃ c', Counting.loop orders (2 * n + 1) c = some c' ∧ Inv topo₀ sol rate n c' ∧
      c'.sim.eventQueue.isNotEmpty = false := by
  refine Loop.whileLoop_total (fun c => 2 * n - c.rounds) (fun c h hnext => ?_) h
    (Nat.lt_succ_of_le (Nat.sub_le _ _))
  obtain ⟨c', hs, h', hrounds⟩ := h.step hbuilt hcovered hnext (orders c.eventCounter)
  have hle := h'.tally.rounds_le
  exact ⟨c', hs, h', by omega⟩

/-- At the end, everything that was ever queued has been processed or skipped. -/
lemma Tally.balance_of_empty (h : Tally n c) (hempty : c.sim.eventQueue.queue.size = 0) :
    c.rounds = n + c.sim.addedRecoveryEvents := by
  rw [← h.balance, hempty, Nat.add_zero]

/-- At the end, no recovery is pending, and each disabled link would have one. -/
lemma Inv.disabledLinks_of_empty (h : Inv topo₀ sol rate n c)
    (hempty : c.sim.eventQueue.queue.size = 0) : c.sim.topo.disabledLinks = ∅ := by
  have hevents : c.running.sim.eventQueue.events = 0 := by
    rw [← Multiset.card_eq_zero, EventQueue.card_events]
    exact hempty
  have hrec := h.lifecycle.pending.recoveries
  rw [EventQueue.recoveries, hevents, Multiset.filter_zero, Multiset.map_zero, eq_comm,
    Multiset.map_eq_zero] at hrec
  exact Finset.val_eq_zero.mp hrec

end Counting

/-! ## The run -/

namespace Simulation

lemma size_loadTrace (failureEventsList : List (ℤ × ℤ × ℚ)) :
    (loadTrace failureEventsList).queue.size = failureEventsList.length := by
  have hsize (events : List LinkEvent) (q : EventQueue) :
      (events.foldl EventQueue.addEvent q).queue.size = q.queue.size + events.length := by
    induction events generalizing q with
    | nil => rfl
    | cons event events ih =>
      rw [List.foldl_cons, ih, ← EventQueue.card_events, EventQueue.events_addEvent,
        Multiset.card_cons, EventQueue.card_events, List.length_cons]
      omega
  rw [loadTrace_eq, hsize, List.length_map]
  exact Nat.zero_add _

/-- A loaded trace consists of failures. -/
lemma failures_loadTrace (failureEventsList : List (ℤ × ℤ × ℚ)) :
    (loadTrace failureEventsList).failures = failureEventsList.length := by
  rw [← size_loadTrace, ← EventQueue.card_events, EventQueue.failures, Multiset.countP_eq_card]
  exact fun e he => (mem_events_loadTrace he).1

end Simulation

variable {config : Config} {chance : Chance} {sim : Simulation}

section Run

variable (htype : config.topoType ≠ .LeafSpine)
  (hinit : Simulation.init config chance = some sim)
  (htrace : ∀ x ∈ config.failureEventsList, (sim.topo.fabric.lookupLink x.2.1).isSome)
  (hcovered : ∀ x ∈ config.failureEventsList, ∀ l, sim.topo.fabric.lookupLink x.2.1 = some l →
    ¬ sim.solution.Uncovered sim.topo.fabric l x.2.2) (orders : ℕ → SetOrders)
include htype hinit htrace hcovered

/-- **A run returns**, where LinkGuardian has an entry for each failure of the trace. -/
lemma exists_run : ∃ d c, sim.run orders (2 * config.failureEventsList.length + 1) =
      some (d, c.summary config.failureEventsList.length, c.sim) ∧
    c.running.dumper.dumpLastRow = some d ∧ c.sim.eventQueue.queue.size = 0 ∧
    Counting.Inv sim.topo sim.solution config.Failing config.failureEventsList.length c := by
  have hbuilt := Simulation.built_init htype hinit
  obtain ⟨topo, -, hinit⟩ := Option.bind_eq_some_iff.mp hinit
  obtain ⟨solution, -, hinit⟩ := Option.bind_eq_some_iff.mp hinit
  cases hinit
  have hsteady : Simulation.Steady topo solution
      { topo := topo, solution := solution
        eventQueue := Simulation.loadTrace config.failureEventsList
        corroptRecoveryRandGen := { draws := chance.recoveryDraws } } :=
    Simulation.steady_init hbuilt rfl rfl
  obtain ⟨r₀, hstart, hsim, hlife⟩ := Running.start_total hbuilt hsteady
    (Simulation.pending_loadTrace rfl hbuilt.fresh.disabledLinks htrace)
  have hcharged : Simulation.Charged topo solution config.Failing r₀.sim := by
    rw [hsim]
    refine ⟨hsteady, hbuilt.priced _ _, fun e he _ => ?_⟩
    obtain ⟨-, x, hx, hid, hrate⟩ := Simulation.mem_events_loadTrace he
    rw [hid, hrate]
    exact ⟨x.1, hx⟩
  have hsize := Simulation.size_loadTrace config.failureEventsList
  have hfailures := Simulation.failures_loadTrace config.failureEventsList
  have htally : Counting.Tally config.failureEventsList.length { running := r₀ } := by
    have hcorr : topo.corruptingLinks.card = 0 := by
      rw [hbuilt.fresh.corruptingLinks, Finset.card_empty]
    refine ⟨?_, ?_, ?_, ?_⟩ <;> simp [Counting.rounds, Counting.sim, hsim, hsize, hfailures,
      Running.rows_start hstart, hcorr]
  -- the tally pays for each round, so the bound on the rounds is not reached
  obtain ⟨c, hloop, hinv, hempty⟩ := Counting.Inv.loop hbuilt ⟨hlife, hcharged, htally⟩
    (fun id x ⟨time, hx⟩ l hl => hcovered _ hx l hl) orders
  obtain ⟨prev, hprev⟩ := Option.isSome_iff_exists.mp hinv.lifecycle.dumped
  have hlast : c.running.dumper.dumpLastRow = some { c.running.dumper with
      rows := c.running.dumper.rows ++ [(prev.1 + dataDumperStartEndOffset, prev.2)] } :=
    Option.bind_eq_some_iff.mpr ⟨prev, hprev, rfl⟩
  have hnone : c.sim.eventQueue.queue.size = 0 := by
    simpa [EventQueue.isNotEmpty] using hempty
  refine ⟨_, c, Option.bind_eq_some_iff.mpr ⟨r₀, hstart, Option.bind_eq_some_iff.mpr ⟨c, hloop,
    Option.bind_eq_some_iff.mpr ⟨_, hlast, ?_⟩⟩⟩, hlast, hnone, hinv⟩
  rw [hsize]
  rfl

/-- **A run finishes and its summary adds up.**  Where LinkGuardian has an entry for each failure
of the trace, the loop ends after at most two rounds for each failure, whatever the orders of the
sets.  Each event of the trace was processed or skipped, so was each recovery, and each recovery
answers a failure of its own; at the end no link is disabled, and each ToR has its initial paths. -/
theorem run_finishes : ∃ d s last,
      sim.run orders (2 * config.failureEventsList.length + 1) = some (d, s, last) ∧
      s.inputFailureEvents = config.failureEventsList.length ∧
      s.totalEventsProcessed + s.skippedLossEvents =
        s.inputFailureEvents + s.addedRecoveryEvents ∧
      s.addedRecoveryEvents + s.skippedLossEvents + last.topo.corruptingLinks.card ≤
        s.inputFailureEvents ∧
      d.rows.length = 2 * (s.totalEventsProcessed + s.skippedLossEvents) + 2 ∧
      last.eventQueue.queue.size = 0 ∧ last.topo.disabledLinks = ∅ ∧
      ∀ tor ∈ sim.topo.fabric.switchTypewiseList .TOR,
        last.topo.numPathsToCore tor = sim.topo.numPathsToCore tor := by
  have hbuilt := Simulation.built_init htype hinit
  obtain ⟨d, c, hrun, hlast, hempty, hinv⟩ := exists_run htype hinit htrace hcovered orders
  have hD := hinv.disabledLinks_of_empty hempty
  refine ⟨d, _, c.sim, hrun, rfl, hinv.tally.balance_of_empty hempty, ?_, ?_, hempty, hD,
    fun tor htor => ?_⟩
  · exact le_trans (Nat.le_add_right _ _) hinv.tally.paid
  · obtain ⟨prev, -, hlast⟩ := Option.bind_eq_some_iff.mp hlast
    cases hlast
    rw [List.length_append, hinv.tally.rows]
    rfl
  · have hover := hinv.charged.steady.coherentOver
    rw [hover.coherent.numPathsToCore tor (hover.fabric.symm ▸ htor),
      hbuilt.coherent.numPathsToCore tor htor, hover.fabric, hD, hbuilt.fresh.disabledLinks]

end Run

/-- Two failures, with LinkGuardian and CorrOpt. -/
theorem run_finishes_two_failures : ∃ sim d s last,
    Simulation.init (Simulation.twoFailures .lgCorrOpt) Simulation.quickRepairs = some sim ∧
      sim.run (fun _ => Simulation.sortedOrders) 5 = some (d, s, last) ∧
      s.totalEventsProcessed + s.skippedLossEvents = 2 + s.addedRecoveryEvents := by
  have hsome : (Simulation.init (Simulation.twoFailures .lgCorrOpt)
      Simulation.quickRepairs).any (fun sim =>
        decide (∀ x ∈ (Simulation.twoFailures .lgCorrOpt).failureEventsList,
          (sim.topo.fabric.lookupLink x.2.1).isSome) &&
        decide (∀ x ∈ (Simulation.twoFailures .lgCorrOpt).failureEventsList,
          (sim.solution.linkguardian.bind (·.getEffectiveLossRateCapacity x.2.2)).isSome)) =
      true := by
    decide +kernel
  obtain ⟨sim, hinit, hsome⟩ := (Option.any_eq_true _ _).mp hsome
  obtain ⟨htrace, htable⟩ := (Bool.and_eq_true _ _).mp hsome
  obtain ⟨d, s, last, hrun, hinput, hsum, -⟩ := run_finishes
    (Simulation.standard_twoFailures _).ne_leafSpine hinit (of_decide_eq_true htrace)
    (fun x hx l _ ⟨lg, hlg, _, hnone⟩ => by
      have hperf := of_decide_eq_true htable x hx
      rw [hlg, Option.bind_some, hnone] at hperf
      cases hperf) fun _ => Simulation.sortedOrders
  rw [hinput] at hsum
  exact ⟨sim, d, s, last, hinit, hrun, hsum⟩

end LinkGuardian.Simulator
