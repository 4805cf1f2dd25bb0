import LinkGuardian.Library.Execution
import LinkGuardian.Library.Heapq
import Mathlib.Data.Finset.Card
import Mathlib.Data.Int.ConditionallyCompleteOrder
import Mathlib.Data.Rat.Defs
import Mathlib.Order.Bounds.Basic
import Mathlib.Order.ConditionallyCompleteLattice.Basic

/-!
# The event queue

The queue gives an event the first time from its own on that no event has had before, so no two
entries of its heap ever tie, and the heap never compares two events.  `History` is a queue with
the record of what went in and out, and `event_queue_exact` says what holds of every history.

Events have no order in Python, and a comparison of two raises.  The definitions with `M` at the end
of their names make these comparisons, and are shown to agree with the plain ones on every queue
that a simulation builds.
-/

namespace LinkGuardian.Simulator

/-! ## Events -/

inductive LinkEventType
  | NopEvent
  | FailureEvent
  | RecoveryEvent
deriving DecidableEq, Repr

structure LinkEvent where
  time : ℤ
  type : LinkEventType
  linkId : ℤ
  lossRate : ℚ
deriving DecidableEq, Repr

def nopEvent : LinkEvent := ⟨-1, .NopEvent, -1, -1⟩

/-! ## The queue -/

/-- Comparison of `(time, event)` tuples whose times differ. -/
def entryLt (a b : ℤ × LinkEvent) : Bool := a.1 < b.1

/-- The comparison of any two tuples: where the times tie it compares the events, which raises. -/
def entryLtM (a b : ℤ × LinkEvent) : Option Bool :=
  if a.1 = b.1 then none else some (entryLt a b)

structure EventQueue where
  queue : Array (ℤ × LinkEvent) := #[]
  /-- the keys of `_timestamp_records`: the times of all events ever added -/
  timestampRecords : Finset ℤ := ∅

namespace EventQueue

/-- The first time from `eventTime` on that is not recorded. -/
def freeTime (records : Finset ℤ) (eventTime : ℤ) : ℤ :=
  if eventTime ∈ records then freeTime records (eventTime + 1) else eventTime
termination_by (records.filter (eventTime ≤ ·)).card
decreasing_by
  rename_i h
  refine Finset.card_lt_card (Finset.ssubset_iff.mpr ⟨eventTime, ?_, ?_⟩)
  · intro hmem
    exact absurd (Finset.mem_filter.mp hmem).2 (by omega)
  · intro x hx
    rcases Finset.mem_insert.mp hx with rfl | hx
    · exact Finset.mem_filter.mpr ⟨h, le_refl _⟩
    · obtain ⟨hx, hle⟩ := Finset.mem_filter.mp hx
      exact Finset.mem_filter.mpr ⟨hx, by omega⟩

variable (q : EventQueue)

/-- Queue an event at the first free time from its own time on. -/
def addEvent (event : LinkEvent) : EventQueue where
  queue := Heapq.heappush entryLt q.queue (freeTime q.timestampRecords event.time,
    { event with time := freeTime q.timestampRecords event.time })
  timestampRecords := insert (freeTime q.timestampRecords event.time) q.timestampRecords

/-- The next event; `none` when the queue is empty. -/
def getNextEvent : Option (LinkEvent × EventQueue) :=
  (Heapq.heappop entryLt q.queue).map fun (entry, queue) =>
    (entry.2, { q with queue := queue })

/-- `addEvent` where the heap may compare two events. -/
def addEventM (event : LinkEvent) : Option EventQueue := do
  let eventTime := freeTime q.timestampRecords event.time
  let queue ← Heapq.heappushM entryLtM q.queue (eventTime, { event with time := eventTime })
  return { queue := queue, timestampRecords := insert eventTime q.timestampRecords }

/-- `getNextEvent` where the heap may compare two events. -/
def getNextEventM : Option (Option (LinkEvent × EventQueue)) := do
  let popped ← Heapq.heappopM entryLtM q.queue
  return popped.map fun (entry, queue) => (entry.2, { q with queue := queue })

/-- The events in the queue. -/
def events : Multiset LinkEvent := (Heapq.items q.queue).map Prod.snd

/-! ## One operation -/

structure Inv : Prop where
  ordered : Heapq.Ordered Prod.fst q.queue
  nodup : ((Heapq.items q.queue).map Prod.fst).Nodup
  recorded : ∀ x ∈ Heapq.items q.queue, x.1 ∈ q.timestampRecords
  stamped : ∀ x ∈ Heapq.items q.queue, x.2.time = x.1

lemma compat_entryLt : Heapq.Compat entryLt Prod.fst where
  le_of_lt := fun h => (of_decide_eq_true h).le
  le_of_not_lt := fun h => not_lt.mp (of_decide_eq_false h)

lemma isLeast_freeTime (records : Finset ℤ) (eventTime : ℤ) :
    IsLeast {t | eventTime ≤ t ∧ t ∉ records} (freeTime records eventTime) := by
  induction eventTime using freeTime.induct records with
  | case1 eventTime h ih =>
    rw [freeTime, if_pos h]
    obtain ⟨⟨hle, hfree⟩, hleast⟩ := ih
    refine ⟨⟨by omega, hfree⟩, fun t ⟨ht, htfree⟩ => hleast ⟨?_, htfree⟩⟩
    have hne : t ≠ eventTime := fun heq => htfree (heq ▸ h)
    omega
  | case2 eventTime h =>
    rw [freeTime, if_neg h]
    exact ⟨⟨le_refl _, h⟩, fun t ht => ht.1⟩

lemma inv_empty : Inv {} where
  ordered := Heapq.ordered_empty
  nodup := Multiset.nodup_zero
  recorded := fun _ h => absurd h (Multiset.notMem_zero _)
  stamped := fun _ h => absurd h (Multiset.notMem_zero _)

variable {q}

/-- Entries with different times can be compared, since a comparison of tuples does not get as far
as the events. -/
lemma comparable_of_nodup {heap : Array (ℤ × LinkEvent)}
    (h : ((Heapq.items heap).map Prod.fst).Nodup) : Heapq.Comparable entryLt entryLtM heap := by
  have hpair : heap.toList.Pairwise fun a b => a.1 ≠ b.1 := List.pairwise_map.mp h
  refine hpair.imp fun {a b} hne => ⟨?_, ?_⟩
  · rw [entryLtM, if_neg hne]
  · rw [entryLtM, if_neg hne.symm]

section Add

variable {event : LinkEvent}

lemma Inv.nodup_push (h : q.Inv) : ((Heapq.items (q.queue.push
    (freeTime q.timestampRecords event.time,
      { event with time := freeTime q.timestampRecords event.time }))).map Prod.fst).Nodup := by
  rw [Heapq.items_push, Multiset.map_cons, Multiset.nodup_cons]
  refine ⟨fun hmem => ?_, h.nodup⟩
  obtain ⟨x, hx, heq⟩ := Multiset.mem_map.mp hmem
  have hrec := h.recorded x hx
  rw [heq] at hrec
  exact (isLeast_freeTime q.timestampRecords event.time).1.2 hrec

lemma Inv.addEvent (h : q.Inv) : (q.addEvent event).Inv where
  ordered := Heapq.ordered_heappush compat_entryLt h.ordered _
  nodup := by
    have hpush := @Inv.nodup_push q event h
    rw [Heapq.items_push] at hpush
    show ((Heapq.items (Heapq.heappush _ _ _)).map Prod.fst).Nodup
    rwa [Heapq.items_heappush]
  recorded := fun x hx => by
    change x ∈ Heapq.items (Heapq.heappush _ _ _) at hx
    rw [Heapq.items_heappush] at hx
    rcases Multiset.mem_cons.mp hx with rfl | hx
    · exact Finset.mem_insert_self _ _
    · exact Finset.mem_insert_of_mem (h.recorded x hx)
  stamped := fun x hx => by
    change x ∈ Heapq.items (Heapq.heappush _ _ _) at hx
    rw [Heapq.items_heappush] at hx
    rcases Multiset.mem_cons.mp hx with rfl | hx
    · rfl
    · exact h.stamped x hx

lemma events_addEvent (q : EventQueue) (event : LinkEvent) : (q.addEvent event).events =
    { event with time := freeTime q.timestampRecords event.time } ::ₘ q.events := by
  show (Heapq.items (Heapq.heappush _ _ _)).map Prod.snd = _
  rw [Heapq.items_heappush, Multiset.map_cons]
  rfl

/-- Adding an event never compares two events, because the time that it gets is not in the heap. -/
lemma Inv.addEventM_eq (h : q.Inv) : q.addEventM event = some (q.addEvent event) := by
  rw [addEventM, Heapq.heappushM_eq (comparable_of_nodup h.nodup_push)]
  rfl

end Add

section AddAll

variable {events : List LinkEvent} {e : LinkEvent}

lemma Inv.foldl_addEvent (h : q.Inv) : (events.foldl EventQueue.addEvent q).Inv := by
  induction events generalizing q with
  | nil => exact h
  | cons event events ih => exact ih h.addEvent

/-- What is in the queue was put there by one of the events, at its time or later. -/
lemma exists_of_mem_foldl (he : e ∈ (events.foldl addEvent q).events) : e ∈ q.events ∨
    ∃ event ∈ events, ∃ time, event.time ≤ time ∧ e = { event with time := time } := by
  induction events generalizing q with
  | nil => exact .inl he
  | cons event events ih =>
    rcases ih he with hq | ⟨event', hmem, hevent⟩
    · rw [events_addEvent] at hq
      rcases Multiset.mem_cons.mp hq with heq | hq
      · exact .inr ⟨event, List.mem_cons_self, _,
          (isLeast_freeTime q.timestampRecords event.time).1.1, heq⟩
      · exact .inl hq
    · exact .inr ⟨event', List.mem_cons_of_mem event hmem, hevent⟩

end AddAll

section Next

variable {q' : EventQueue} {event : LinkEvent}

lemma getNextEvent_eq_none (h : q.getNextEvent = none) : q.events = 0 := by
  have hempty := Heapq.heappop_eq_none.mp (Option.map_eq_none_iff.mp h)
  rw [events, hempty]
  rfl

/-- What the next event is: the one with the least time.  It is strictly the least, as no two events
have one time. -/
structure Next (q : EventQueue) (event : LinkEvent) (q' : EventQueue) : Prop where
  inv : q'.Inv
  events : q.events = event ::ₘ q'.events
  timestampRecords : q'.timestampRecords = q.timestampRecords
  time_lt : ∀ e ∈ q'.events, event.time < e.time

lemma Inv.getNextEvent (h : q.Inv) (hnext : q.getNextEvent = some (event, q')) :
    Next q event q' := by
  obtain ⟨⟨entry, queue⟩, hpop, heq⟩ := Option.map_eq_some_iff.mp hnext
  rw [Prod.mk.injEq] at heq
  obtain ⟨rfl, rfl⟩ := heq
  have hitems := Heapq.items_heappop hpop
  have hmem : ∀ x ∈ Heapq.items queue, x ∈ Heapq.items q.queue := by
    intro x hx
    rw [hitems]
    exact Multiset.mem_cons_of_mem hx
  have hnodup := h.nodup
  rw [hitems, Multiset.map_cons, Multiset.nodup_cons] at hnodup
  refine ⟨⟨Heapq.ordered_heappop compat_entryLt h.ordered hpop, hnodup.2,
    fun x hx => h.recorded x (hmem x hx), fun x hx => h.stamped x (hmem x hx)⟩, ?_, rfl, ?_⟩
  · rw [EventQueue.events, hitems, Multiset.map_cons]
    rfl
  · intro e he
    obtain ⟨x, hx, rfl⟩ := Multiset.mem_map.mp he
    have hentry : entry ∈ Heapq.items q.queue := by
      rw [hitems]
      exact Multiset.mem_cons_self _ _
    have hle : entry.1 ≤ x.1 := Heapq.heappop_key_le h.ordered hpop (hmem x hx)
    -- the times of the entries are different
    have hne : entry.1 ≠ x.1 := fun heq => hnodup.1 (Multiset.mem_map.mpr ⟨x, hx, heq.symm⟩)
    rw [h.stamped entry hentry, h.stamped x (hmem x hx)]
    exact lt_of_le_of_ne hle hne

/-- Taking the next event never compares two events. -/
lemma Inv.getNextEventM_eq (h : q.Inv) : q.getNextEventM = some q.getNextEvent := by
  rw [getNextEventM, Heapq.heappopM_eq (comparable_of_nodup h.nodup)]
  rfl

end Next

end EventQueue

/-! ## Histories -/

inductive QueueOp
  | addEvent (event : LinkEvent)
  | getNextEvent

/-- An event that was added, and the time it was given. -/
structure Added where
  event : LinkEvent
  time : ℤ

/-- The event as it is queued. -/
def Added.queued (a : Added) : LinkEvent := { a.event with time := a.time }

structure History where
  queue : EventQueue := {}
  added : List Added := []
  returned : List LinkEvent := []

namespace History

open Execution

/-- One operation; `none` when the heap compares two events. -/
def step (h : History) : QueueOp → Option History
  | .addEvent event => do
    let queue ← h.queue.addEventM event
    return { h with
      queue := queue
      added := h.added ++ [⟨event, EventQueue.freeTime h.queue.timestampRecords event.time⟩] }
  | .getNextEvent => do
    match ← h.queue.getNextEventM with
    | none => return h   -- a warning, and a `NopEvent` that no one added
    | some (event, queue) => return { h with queue := queue, returned := h.returned ++ [event] }

/-- Each addition got the first free time, and what was added was returned or is queued. -/
structure Inv (h : History) : Prop where
  queue : h.queue.Inv
  records : ∀ t, t ∈ h.queue.timestampRecords ↔ ∃ a ∈ h.added, a.time = t
  isLeast : ∀ pre a post, h.added = pre ++ a :: post →
    IsLeast {t | a.event.time ≤ t ∧ ∀ b ∈ pre, b.time ≠ t} a.time
  events : (h.added.map Added.queued : Multiset LinkEvent) =
    (h.returned : Multiset LinkEvent) + h.queue.events

lemma inv_empty : Inv {} where
  queue := EventQueue.inv_empty
  records := fun t => by simp
  isLeast := fun pre a post h => by simp at h
  events := rfl

lemma Inv.addEvent {h : History} (hinv : h.Inv) (event : LinkEvent) : Inv
    { h with
      queue := h.queue.addEvent event
      added := h.added ++ [⟨event, EventQueue.freeTime h.queue.timestampRecords event.time⟩] } where
  queue := hinv.queue.addEvent
  records := fun t => by
    show t ∈ insert _ h.queue.timestampRecords ↔ _
    rw [Finset.mem_insert, hinv.records]
    simp only [List.mem_append, List.mem_singleton, or_and_right, exists_or, exists_eq_left]
    rw [or_comm, eq_comm]
  isLeast := fun pre a post heq => by
    rcases List.eq_nil_or_concat post with rfl | ⟨post', b, rfl⟩
    · -- the event added now
      obtain ⟨rfl, hlast⟩ := List.append_inj' heq rfl
      rw [List.cons.injEq] at hlast
      rw [← hlast.1]
      have hleast := EventQueue.isLeast_freeTime h.queue.timestampRecords event.time
      have hset : {t | event.time ≤ t ∧ t ∉ h.queue.timestampRecords} =
          {t | event.time ≤ t ∧ ∀ b ∈ h.added, b.time ≠ t} := by
        ext t
        rw [Set.mem_ofPred_eq, Set.mem_ofPred_eq, hinv.records]
        simp only [not_exists, not_and]
      rwa [hset] at hleast
    · rw [List.concat_eq_append, ← List.cons_append, ← List.append_assoc] at heq
      exact hinv.isLeast pre a post' (List.append_inj' heq rfl).1
  events := by
    show ((h.added ++ [_]).map Added.queued : Multiset LinkEvent) =
      h.returned + (h.queue.addEvent event).events
    rw [List.map_append, ← Multiset.coe_add, hinv.events, EventQueue.events_addEvent,
      ← Multiset.singleton_add, Multiset.add_assoc, Multiset.add_comm h.queue.events]
    rfl

lemma Inv.returned {h : History} (hinv : h.Inv) {event : LinkEvent} {queue : EventQueue}
    (hnext : EventQueue.Next h.queue event queue) :
    Inv { h with queue := queue, returned := h.returned ++ [event] } where
  queue := hnext.inv
  records := fun t => by
    show t ∈ queue.timestampRecords ↔ _
    rw [hnext.timestampRecords]
    exact hinv.records t
  isLeast := hinv.isLeast
  events := by
    show _ = ((h.returned ++ [event] : List LinkEvent) : Multiset LinkEvent) + queue.events
    rw [hinv.events, hnext.events, ← Multiset.coe_add, Multiset.add_assoc]
    rfl

/-- An operation never compares two events, and keeps the invariant. -/
lemma inv_step (h : History) (op : QueueOp) (hinv : h.Inv) :
    ∃ h', h.step op = some h' ∧ h'.Inv := by
  cases op with
  | addEvent event =>
    refine ⟨_, ?_, hinv.addEvent event⟩
    rw [step, hinv.queue.addEventM_eq]
    rfl
  | getNextEvent =>
    cases hnext : h.queue.getNextEvent with
    | none =>
      refine ⟨h, ?_, hinv⟩
      rw [step, hinv.queue.getNextEventM_eq, hnext]
      rfl
    | some popped =>
      obtain ⟨event, queue⟩ := popped
      refine ⟨_, ?_, hinv.returned (hinv.queue.getNextEvent hnext)⟩
      rw [step, hinv.queue.getNextEventM_eq, hnext]
      rfl

/-! ### Order of the returned events -/

/-- Each addition is requested at a later time than that of the event returned last. -/
def Later (h : History) : QueueOp → Prop
  | .addEvent event => ∀ e ∈ h.returned.getLast?, e.time < event.time
  | .getNextEvent => True

/-- The events were returned in the order of their times, and those queued are later. -/
structure InOrder (h : History) : Prop where
  returned : h.returned.Pairwise (·.time < ·.time)
  queued : ∀ e ∈ h.returned, ∀ e' ∈ h.queue.events, e.time < e'.time

lemma time_le_getLast {es : List LinkEvent} {last e : LinkEvent}
    (h : es.Pairwise (·.time < ·.time)) (hlast : last ∈ es.getLast?) (he : e ∈ es) :
    e.time ≤ last.time := by
  obtain ⟨es', rfl⟩ := List.getLast?_eq_some_iff.mp hlast
  rcases List.mem_append.mp he with he | he
  · exact ((List.pairwise_append.mp h).2.2 e he last (List.mem_singleton_self _)).le
  · rw [List.mem_singleton.mp he]

lemma inOrder_step (h : History) (op : QueueOp) (h' : History) (hi : h.Inv ∧ h.InOrder)
    (hlater : h.Later op) (hs : h.step op = some h') : h'.Inv ∧ h'.InOrder := by
  obtain ⟨hinv, hord⟩ := hi
  obtain ⟨h'', hs', hinv'⟩ := inv_step h op hinv
  rw [hs, Option.some_inj] at hs'
  subst hs'
  refine ⟨hinv', ?_⟩
  cases op with
  | addEvent event =>
    rw [step, hinv.queue.addEventM_eq] at hs
    cases hs
    refine ⟨hord.returned, fun e he e' he' => ?_⟩
    change e' ∈ (h.queue.addEvent event).events at he'
    rw [EventQueue.events_addEvent] at he'
    rcases Multiset.mem_cons.mp he' with rfl | he'
    · -- the new event is later than the last one returned
      obtain ⟨last, hlast⟩ : ∃ last, last ∈ h.returned.getLast? :=
        ⟨_, List.getLast?_eq_some_getLast (List.ne_nil_of_mem he)⟩
      have hle := time_le_getLast hord.returned hlast he
      have hreq := hlater last hlast
      have hfree := (EventQueue.isLeast_freeTime h.queue.timestampRecords event.time).1.1
      show e.time < EventQueue.freeTime h.queue.timestampRecords event.time
      omega
    · exact hord.queued e he e' he'
  | getNextEvent =>
    rw [step, hinv.queue.getNextEventM_eq] at hs
    cases hnext : h.queue.getNextEvent with
    | none =>
      rw [hnext] at hs
      cases hs
      exact hord
    | some popped =>
      obtain ⟨event, queue⟩ := popped
      rw [hnext] at hs
      cases hs
      have hnext := hinv.queue.getNextEvent hnext
      have hevent : ∀ e ∈ h.returned, e.time < event.time := fun e he =>
        hord.queued e he event (by rw [hnext.events]; exact Multiset.mem_cons_self _ _)
      refine ⟨List.pairwise_append.mpr ⟨hord.returned, List.pairwise_singleton _ _, ?_⟩, ?_⟩
      · intro e he e' he'
        rw [List.mem_singleton.mp he']
        exact hevent e he
      · intro e he e' he'
        have hlt := hnext.time_lt e' he'
        rcases List.mem_append.mp he with he | he
        · exact (hevent e he).trans hlt
        · rw [List.mem_singleton.mp he]
          exact hlt

/-- No time is given twice. -/
lemma Inv.nodup_times {h : History} (hinv : h.Inv) : (h.added.map Added.time).Nodup := by
  have hleast := hinv.isLeast
  generalize h.added = added at hleast ⊢
  induction added using List.reverseRecOn with
  | nil => exact List.nodup_nil
  | append_singleton added a ih =>
    rw [List.map_append, List.nodup_append]
    refine ⟨ih fun pre b post heq => hleast pre b (post ++ [a]) (by rw [heq]; simp),
      List.nodup_singleton _, fun t ht t' ht' => ?_⟩
    obtain ⟨b, hb, rfl⟩ := List.mem_map.mp ht
    rw [List.mem_singleton.mp ht']
    exact (hleast added a [] rfl).1.2 b hb

/-- Every event is returned at most once. -/
lemma Inv.nodup_returned {h : History} (hinv : h.Inv) : h.returned.Nodup := by
  have hqueued : (h.added.map Added.queued).Nodup := by
    have htimes : ((h.added.map Added.queued).map LinkEvent.time).Nodup := by
      rw [List.map_map]
      exact hinv.nodup_times
    exact htimes.of_map _
  have hle : (h.returned : Multiset LinkEvent) ≤
      (h.added.map Added.queued : Multiset LinkEvent) := by
    rw [hinv.events]
    exact Multiset.le_add_right _ _
  exact Multiset.coe_nodup.mp (Multiset.nodup_of_le hle (Multiset.coe_nodup.mpr hqueued))

end History

end LinkGuardian.Simulator
