import LinkGuardian.Simulator.Clock

/-!
# The trace generator

`generate_failure_events_weibull` of `generate_loss_trace.py`: the failure times of each link, the
event queue that they are put into, and the extraction of a trace of the wanted duration.  What
chance decides, the times to failure and the loss rates, is a parameter.  The extraction loop asks
only for the time at the head of the queue, and an empty queue answers 0 and makes up events;
`extraction_exact_iff` says when the loop ends.
-/

namespace LinkGuardian.Simulator

/-! ## The generator -/

def numLossEventsPerLink : ℕ := 10

/-- The failure times of a link in hours, one time to failure after the other. -/
def failureTimes (timeToFail : ℕ → ℕ) : List ℕ :=
  (List.range (numLossEventsPerLink - 1)).foldl
    (fun times i => times ++ [times.getLastD 0 + timeToFail (i + 1)]) [timeToFail 0]

/-- The failures of each link, `0` to `num_links - 1`, with the loss rates drawn for them. -/
def perLinkFailures (numLinks : ℕ) (timeToFail : ℕ → ℕ → ℕ) (lossRate : ℕ → ℕ → ℚ) :
    List (List (ℕ × ℚ)) :=
  (List.range numLinks).map fun link =>
    (failureTimes (timeToFail link)).zipIdx.map fun (failureTime, i) =>
      (failureTime, lossRate link i)

def failureEvents (perLink : List (List (ℕ × ℚ))) : List LinkEvent :=
  perLink.zipIdx.flatMap fun (failures, link) =>
    failures.map fun (failureTime, lossRate) =>
      ⟨(failureTime : ℤ) * 3600, .FailureEvent, link, lossRate⟩

def failureQueue (perLink : List (List (ℕ × ℚ))) : EventQueue :=
  (failureEvents perLink).foldl EventQueue.addEvent {}

/-- `get_next_event`, which makes up an event when the queue is empty. -/
def EventQueue.getNextEventOrNop (q : EventQueue) : LinkEvent × EventQueue :=
  q.getNextEvent.getD (⟨0, .NopEvent, 0, 0⟩, q)

/-- An entry of the trace: time, link ID and loss rate. -/
def traceEntry (event : LinkEvent) : ℤ × ℤ × ℚ :=
  (event.time + dataDumperStartEndOffset, event.linkId, event.lossRate)

/-- The extraction loop; `none` when it has not ended after so many rounds. -/
def extractEvents (expectedLastEventTime : ℤ) :
    ℕ → EventQueue → List (ℤ × ℤ × ℚ) → Option (List (ℤ × ℤ × ℚ))
  | 0, _, _ => none
  | fuel + 1, q, lossEventList =>
    if q.getHeadEventTime ≤ expectedLastEventTime then
      extractEvents expectedLastEventTime fuel q.getNextEventOrNop.2
        (lossEventList ++ [traceEntry q.getNextEventOrNop.1])
    else some lossEventList

/-- Step 4 of the generator. -/
def generateLossEventList (maxTraceDurationHrs : ℕ) (perLink : List (List (ℕ × ℚ))) (fuel : ℕ) :
    Option (List (ℤ × ℤ × ℚ)) :=
  extractEvents ((failureQueue perLink).getHeadEventTime + maxTraceDurationHrs * 3600) fuel
    (failureQueue perLink) []

def generateFailureEventsWeibull (maxTraceDurationHrs numLinks : ℕ) (timeToFail : ℕ → ℕ → ℕ)
    (lossRate : ℕ → ℕ → ℚ) (fuel : ℕ) : Option (List (ℤ × ℤ × ℚ)) :=
  generateLossEventList maxTraceDurationHrs (perLinkFailures numLinks timeToFail lossRate) fuel

/-! ## The queue -/

namespace EventQueue

variable {q : EventQueue}

lemma getHeadEventTime_of_none (h : q.getNextEvent = none) : q.getHeadEventTime = 0 := by
  have hempty := Heapq.heappop_eq_none.mp (Option.map_eq_none_iff.mp h)
  simp [getHeadEventTime, hempty]

lemma getNextEventOrNop_of_none (h : q.getNextEvent = none) : q.getNextEventOrNop.2 = q := by
  simp [getNextEventOrNop, h]

/-- The head is the time of the next event. -/
lemma Inv.getHeadEventTime_eq (h : q.Inv) {event : LinkEvent} {q' : EventQueue}
    (hnext : q.getNextEvent = some (event, q')) : q.getHeadEventTime = event.time := by
  have hspec := h.getNextEvent hnext
  have hmem : event ∈ q.events := by simp [hspec.events]
  refine le_antisymm (h.getHeadEventTime_le hmem) ?_
  -- the head is itself the time of an event of the queue
  obtain ⟨x, hx, -⟩ := Multiset.mem_map.mp hmem
  obtain ⟨i, hi, -⟩ := Heapq.mem_items_iff_getElem.mp hx
  have hpos : 0 < q.queue.size := Nat.zero_lt_of_lt hi
  have hroot : q.queue[0] ∈ Heapq.items q.queue := Heapq.mem_items_iff_getElem.mpr ⟨0, hpos, rfl⟩
  have hhead : q.getHeadEventTime = q.queue[0].2.time := by
    rw [getHeadEventTime, Array.getElem?_eq_getElem hpos, h.stamped _ hroot]
    rfl
  have hroot' : q.queue[0].2 ∈ event ::ₘ q'.events := by
    rw [← hspec.events]
    exact Multiset.mem_map_of_mem _ hroot
  rw [hhead]
  rcases Multiset.mem_cons.mp hroot' with heq | hlater
  · rw [heq]
  · exact (hspec.time_lt _ hlater).le

end EventQueue

lemma inv_failureQueue (perLink : List (List (ℕ × ℚ))) : (failureQueue perLink).Inv :=
  EventQueue.inv_empty.foldl_addEvent

/-- No failure is queued before time 0: the times to failure are no negative numbers of hours, and a
clash only moves an event to a later time. -/
lemma time_nonneg_failureQueue (perLink : List (List (ℕ × ℚ))) :
    ∀ e ∈ (failureQueue perLink).events, 0 ≤ e.time := by
  intro e he
  rcases EventQueue.exists_of_mem_foldl he with hempty | ⟨event, hevent, time, hle, rfl⟩
  · exact absurd hempty (Multiset.notMem_zero e)
  · obtain ⟨⟨failures, link⟩, -, hevent⟩ := List.mem_flatMap.mp hevent
    obtain ⟨⟨failureTime, lossRate⟩, -, rfl⟩ := List.mem_map.mp hevent
    exact (Int.mul_nonneg (Int.natCast_nonneg _) (by decide)).trans hle

/-! ## The extraction loop -/

/-- The trace is exactly the events of the queue up to a time, each once, in increasing order.  The
times of the entries are shifted by a constant, which changes nothing about their order. -/
structure ExactTrace (q : EventQueue) (bound : ℤ) (trace : List (ℤ × ℤ × ℚ)) : Prop where
  increasing : trace.Pairwise (·.1 < ·.1)
  entries : (trace : Multiset (ℤ × ℤ × ℚ)) =
    (q.events.filter fun e => e.time ≤ bound).map traceEntry

variable {bound : ℤ}

/-- One round on a queue that is not empty: its first event goes in front of the trace of the
rest. -/
lemma ExactTrace.cons {q q' : EventQueue} {event : LinkEvent} {trace : List (ℤ × ℤ × ℚ)}
    (h : ExactTrace q' bound trace) (hnext : EventQueue.Next q event q')
    (hle : event.time ≤ bound) : ExactTrace q bound (traceEntry event :: trace) := by
  refine ⟨List.pairwise_cons.mpr ⟨fun entry hentry => ?_, h.increasing⟩, ?_⟩
  · have hmem : entry ∈ (trace : Multiset (ℤ × ℤ × ℚ)) := hentry
    rw [h.entries] at hmem
    obtain ⟨e, he, rfl⟩ := Multiset.mem_map.mp hmem
    have hlt := hnext.time_lt e (Multiset.mem_filter.mp he).1
    simp only [traceEntry]
    omega
  · have hfilter : (event ::ₘ q'.events).filter (fun e => e.time ≤ bound) =
        event ::ₘ q'.events.filter fun e => e.time ≤ bound := Multiset.filter_cons_of_pos _ hle
    rw [hnext.events, hfilter, Multiset.map_cons, ← h.entries]
    rfl

/-- Nothing is left to extract once the first event is too late. -/
lemma ExactTrace.nil {q q' : EventQueue} {event : LinkEvent} (hnext : EventQueue.Next q event q')
    (hlate : bound < event.time) : ExactTrace q bound [] := by
  refine ⟨List.Pairwise.nil, ?_⟩
  have hnone : q.events.filter (fun e => e.time ≤ bound) = 0 := by
    refine Multiset.filter_eq_nil.mpr fun e he => not_le.mpr ?_
    rw [hnext.events] at he
    rcases Multiset.mem_cons.mp he with rfl | he
    · exact hlate
    · exact hlate.trans (hnext.time_lt e he)
  rw [hnone]
  rfl

/-- **With an event behind the bound the loop ends**, after a round for each event before it. -/
lemma exists_extractEvents (q : EventQueue) (hq : q.Inv) (hlate : ∃ e ∈ q.events, bound < e.time)
    (lossEventList : List (ℤ × ℤ × ℚ)) : ∃ fuel trace,
      extractEvents bound fuel q lossEventList = some (lossEventList ++ trace) ∧
        ExactTrace q bound trace := by
  induction hcard : Multiset.card q.events generalizing q lossEventList with
  | zero =>
    obtain ⟨e, he, -⟩ := hlate
    exact absurd he (by simp [Multiset.card_eq_zero.mp hcard])
  | succ n ih =>
    cases hnext : q.getNextEvent with
    | none => simp [EventQueue.getNextEvent_eq_none hnext] at hcard
    | some popped =>
      obtain ⟨event, q'⟩ := popped
      have hspec := hq.getNextEvent hnext
      have hhead := hq.getHeadEventTime_eq hnext
      by_cases hle : event.time ≤ bound
      · obtain ⟨e, he, hbound⟩ := hlate
        have he' : e ∈ q'.events := by
          rw [hspec.events] at he
          refine (Multiset.mem_cons.mp he).resolve_left fun heq => ?_
          rw [heq] at hbound
          omega
        have hcard' : Multiset.card q'.events = n := by simpa [hspec.events] using hcard
        obtain ⟨fuel, trace, hrun, hexact⟩ := ih q' hspec.inv ⟨e, he', hbound⟩
          (lossEventList ++ [traceEntry event]) hcard'
        refine ⟨fuel + 1, traceEntry event :: trace, ?_, hexact.cons hspec hle⟩
        rw [extractEvents, hhead, if_pos hle, EventQueue.getNextEventOrNop, hnext]
        simpa using hrun
      · refine ⟨1, [], ?_, ExactTrace.nil hspec (not_le.mp hle)⟩
        rw [extractEvents, hhead, if_neg hle, List.append_nil]

/-- **Without one it never ends**: the empty queue goes on answering with time 0. -/
lemma extractEvents_eq_none (hbound : 0 ≤ bound) (fuel : ℕ) (q : EventQueue) (hq : q.Inv)
    (hall : ∀ e ∈ q.events, e.time ≤ bound) (lossEventList : List (ℤ × ℤ × ℚ)) :
    extractEvents bound fuel q lossEventList = none := by
  induction fuel generalizing q lossEventList with
  | zero => rfl
  | succ fuel ih =>
    cases hnext : q.getNextEvent with
    | none =>
      rw [extractEvents, EventQueue.getHeadEventTime_of_none hnext, if_pos hbound,
        EventQueue.getNextEventOrNop_of_none hnext]
      exact ih q hq hall _
    | some popped =>
      obtain ⟨event, q'⟩ := popped
      have hspec := hq.getNextEvent hnext
      have hsub : ∀ e ∈ q'.events, e.time ≤ bound := fun e he =>
        hall e (by simp [hspec.events, he])
      have hle : event.time ≤ bound := hall event (by simp [hspec.events])
      rw [extractEvents, hq.getHeadEventTime_eq hnext, if_pos hle, EventQueue.getNextEventOrNop,
        hnext]
      exact ih q' hspec.inv hsub _

/-- The head of the queue is its least time. -/
lemma getHeadEventTime_of_isLeast {q : EventQueue} (hq : q.Inv) {first : ℤ}
    (hfirst : IsLeast {t | ∃ e ∈ q.events, e.time = t} first) : q.getHeadEventTime = first := by
  obtain ⟨⟨e, he, rfl⟩, hleast⟩ := hfirst
  refine le_antisymm (hq.getHeadEventTime_le he) ?_
  cases hnext : q.getNextEvent with
  | none => simp [EventQueue.getNextEvent_eq_none hnext] at he
  | some popped =>
    obtain ⟨event, q'⟩ := popped
    rw [hq.getHeadEventTime_eq hnext]
    exact hleast ⟨event, by simp [(hq.getNextEvent hnext).events], rfl⟩

/-- **Extraction of a trace**: the loop ends and returns exactly the events up to the wanted
duration if and only if some event comes after it. -/
theorem extraction_exact_iff (maxTraceDurationHrs : ℕ) (perLink : List (List (ℕ × ℚ))) (first : ℤ)
    (hfirst : IsLeast {t | ∃ e ∈ (failureQueue perLink).events, e.time = t} first) :
    (∃ fuel trace, generateLossEventList maxTraceDurationHrs perLink fuel = some trace ∧
      ExactTrace (failureQueue perLink) (first + maxTraceDurationHrs * 3600) trace) ↔
    ∃ e ∈ (failureQueue perLink).events, first + maxTraceDurationHrs * 3600 < e.time := by
  have hq := inv_failureQueue perLink
  have hhead := getHeadEventTime_of_isLeast hq hfirst
  constructor
  · rintro ⟨fuel, trace, hrun, -⟩
    by_contra hnone
    have hall : ∀ e ∈ (failureQueue perLink).events,
        e.time ≤ first + maxTraceDurationHrs * 3600 := fun e he =>
      not_lt.mp fun hlt => hnone ⟨e, he, hlt⟩
    obtain ⟨e, he, rfl⟩ := hfirst.1
    have hnonneg := time_nonneg_failureQueue perLink e he
    rw [generateLossEventList, hhead, extractEvents_eq_none (by omega) fuel _ hq hall] at hrun
    cases hrun
  · intro hlate
    obtain ⟨fuel, trace, hrun, hexact⟩ := exists_extractEvents _ hq hlate []
    exact ⟨fuel, trace, by rw [generateLossEventList, hhead, hrun, List.nil_append], hexact⟩

/-! ## Two traces -/

/-- One link that fails every other hour, ten times: a trace of a day would have to end, and is
never returned. -/
theorem extraction_never_ends : ¬ ∃ fuel trace,
    generateFailureEventsWeibull 24 1 (fun _ _ => 2) (fun _ _ => 1 / 1000) fuel = some trace := by
  have hhead : (failureQueue (perLinkFailures 1 (fun _ _ => 2) fun _ _ =>
      1 / 1000)).getHeadEventTime = 7200 := by decide +kernel
  have hall : ∀ e ∈ (failureQueue (perLinkFailures 1 (fun _ _ => 2) fun _ _ => 1 / 1000)).events,
      e.time ≤ 7200 + (24 : ℕ) * 3600 := by decide +kernel
  rintro ⟨fuel, trace, hrun⟩
  rw [generateFailureEventsWeibull, generateLossEventList, hhead,
    extractEvents_eq_none (by decide) fuel _ (inv_failureQueue _) hall] at hrun
  cases hrun

/-- Two links that fail in the same hour, and one of them again five hours later: of the trace of
an hour that event is left out. -/
theorem extraction_of_an_hour : ∃ fuel trace,
    generateLossEventList 1 [[(5, 1 / 1000), (10, 1 / 100)], [(5, 1 / 10)]] fuel = some trace ∧
      ExactTrace (failureQueue [[(5, 1 / 1000), (10, 1 / 100)], [(5, 1 / 10)]]) 21600 trace := by
  have hevents : (failureQueue [[(5, 1 / 1000), (10, 1 / 100)], [(5, 1 / 10)]]).events =
      {⟨18000, .FailureEvent, 0, 1 / 1000⟩, ⟨36000, .FailureEvent, 0, 1 / 100⟩,
        ⟨18001, .FailureEvent, 1, 1 / 10⟩} := by decide +kernel
  refine (extraction_exact_iff 1 _ 18000 ?_).mpr ?_
  · rw [hevents]
    refine ⟨by simp, ?_⟩
    rintro t ⟨e, he, rfl⟩
    simp only [Multiset.insert_eq_cons, Multiset.mem_cons, Multiset.mem_singleton] at he
    rcases he with rfl | rfl | rfl <;> decide
  · rw [hevents]
    exact ⟨⟨36000, .FailureEvent, 0, 1 / 100⟩, by simp, by decide⟩

end LinkGuardian.Simulator
