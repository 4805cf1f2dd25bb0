import LinkGuardian.Simulator.Simulation
import LinkGuardian.Simulator.Built
import LinkGuardian.Simulator.TraceGenerator
import Mathlib.Tactic.LinearCombination

/-!
# The links of a trace

The trace generator computes the number of links of a topology from the parameters alone, and
draws failures for the links `0, 1, …` up to it.  A builder computes the number again, with other
roundings, and creates the links.  `links_agree_iff` says for which parameters the two agree, and
`roundsExactly_near` that this hangs, but for the errors of two roundings, on the fraction of a core
switch that the builder cuts off.

Both programs divide floats, and the generator multiplies and adds with the result before it cuts
off the fraction.  So the condition `RoundsExactly` is one on the quotient that both compute, and
exact: it says how close to a link the fractions may come before they are rounded up to it.
-/

namespace LinkGuardian.Simulator

/-! ## The number of links -/

/-- `num_links` of the generator, a float; products by 4 and whole numbers below `2 ^ 53` are
exact. -/
def generatorNumLinks (topoType : TopoType) (topoParams : TopoParams) : Option ℚ :=
  match topoType with
  | .FatTree => do
    let k ← topoParams.k
    return Binary64.round ((k : ℚ) ^ 3 / 2)
  | .LeafSpine => none
  | .FbFabric => do
    let oversubscription ← topoParams.oversubscription
    let torsPerPod ← topoParams.torsPerPod
    guard (oversubscription ≠ 0)
    let coreSwitchesPerSpinePlane := Binary64.round (torsPerPod / oversubscription)
    let numLinksPerPod := Binary64.round (4 * torsPerPod + 4 * coreSwitchesPerSpinePlane)
    let numPods ← topoParams.numPods
    return Binary64.round (numPods * numLinksPerPod)

/-- `range(int(num_links))` has this many elements. -/
def traceNumLinks (topoType : TopoType) (topoParams : TopoParams) : Option ℕ := do
  let numLinks ← generatorNumLinks topoType topoParams
  return (numLinks.num.tdiv numLinks.den).toNat

/-- The links are those that the generator draws failures for: a trace names links of the topology
only, and each link fails in some trace. -/
structure LinksAgree (topo : Topology) (n : ℕ) : Prop where
  links : topo.fabric.links = Finset.range n
  numLinks : topo.fabric.numLinks = n
  exists_link : ∀ maxTraceDurationHrs timeToFail lossRate fuel trace,
    generateFailureEventsWeibull maxTraceDurationHrs n timeToFail lossRate fuel = some trace →
      ∀ entry ∈ trace, ∃ l ∈ topo.fabric.links, entry.2.1 = l
  can_fail : ∀ l ∈ topo.fabric.links, ∃ maxTraceDurationHrs timeToFail lossRate fuel trace,
    generateFailureEventsWeibull maxTraceDurationHrs n timeToFail lossRate fuel = some trace ∧
      ∃ entry ∈ trace, entry.2.1 = l

/-- The parameters for which no fraction that a builder cuts off makes a link of the generator: an
even `k` for a FatTree.  For an FbFabric, of the quotient `q` of the ToRs of a pod and the
oversubscription, `4 * (q - int(q))` links of a pod are cut off; with as many binary places as a
pod's sum has room for, and taken for all pods, they are less than one link, by more than half the
last place of the number of links. -/
def RoundsExactly (topoType : TopoType) (topoParams : TopoParams) : Prop :=
  match topoType with
  | .FatTree => ∀ k, topoParams.k = some k → Even k
  | .LeafSpine => False
  | .FbFabric => ∀ numPods torsPerPod oversubscription, topoParams.numPods = some numPods →
    topoParams.torsPerPod = some torsPerPod →
    topoParams.oversubscription = some oversubscription →
    let q := Topology.oversubscribedTors torsPerPod oversubscription
    let cutOff := Binary64.onGrid (Binary64.ulp (4 * torsPerPod + 4 * q)) (4 * Int.fract q)
    let numLinks : ℚ := numPods * (4 * torsPerPod + 4 * ⌊q⌋)
    numPods * cutOff < 1 - Binary64.ulp numLinks / 2

/-! ## The events of the queue -/

namespace EventQueue

variable {events : List LinkEvent} {q : EventQueue} {e event : LinkEvent}

lemma mem_foldl_of_mem (he : e ∈ q.events) : e ∈ (events.foldl addEvent q).events := by
  induction events generalizing q with
  | nil => exact he
  | cons event events ih => exact ih (by simp [events_addEvent, he])

/-- Each event gets into the queue, at its own time or a later one that was free. -/
lemma exists_mem_foldl (h : event ∈ events) : ∃ e ∈ (events.foldl addEvent q).events,
    e.linkId = event.linkId ∧ event.time ≤ e.time := by
  obtain ⟨pre, post, rfl⟩ := List.append_of_mem h
  rw [List.foldl_append, List.foldl_cons]
  generalize pre.foldl addEvent q = q'
  refine ⟨{ event with time := freeTime q'.timestampRecords event.time },
    mem_foldl_of_mem ?_, rfl, (isLeast_freeTime q'.timestampRecords event.time).1.1⟩
  rw [events_addEvent]
  exact Multiset.mem_cons_self _ _

lemma exists_of_mem_timestampRecords {t : ℤ}
    (ht : t ∈ (events.foldl addEvent q).timestampRecords) :
    t ∈ q.timestampRecords ∨ ∃ event ∈ events, event.time ≤ t := by
  induction events generalizing q with
  | nil => exact .inl ht
  | cons event events ih =>
    rcases ih ht with hq | ⟨event', hmem, hle⟩
    · rcases Finset.mem_insert.mp hq with rfl | hq
      · exact .inr ⟨event, by simp, (isLeast_freeTime q.timestampRecords event.time).1.1⟩
      · exact .inl hq
    · exact .inr ⟨event', by simp [hmem], hle⟩

/-- An event keeps its time when all events before it are later. -/
lemma mem_foldl_of_lt {pre post : List LinkEvent} (hlt : ∀ e ∈ pre, event.time < e.time) :
    event ∈ ((pre ++ event :: post).foldl addEvent {}).events := by
  rw [List.foldl_append, List.foldl_cons]
  refine mem_foldl_of_mem ?_
  have hfree : event.time ∉ (pre.foldl addEvent {}).timestampRecords := by
    intro hmem
    rcases exists_of_mem_timestampRecords hmem with hempty | ⟨e, he, hle⟩
    · exact absurd hempty (Finset.notMem_empty _)
    · exact absurd hle (not_le.mpr (hlt e he))
  rw [events_addEvent, freeTime, if_neg hfree]
  exact Multiset.mem_cons_self event _

end EventQueue

/-! ## Traces -/

variable {bound : ℤ} {n : ℕ}

/-- A trace that is returned holds events of the queue only: the loop does not end on the events
that an empty queue makes up. -/
lemma mem_of_extractEvents (hbound : 0 ≤ bound) {fuel : ℕ} {q : EventQueue} (hq : q.Inv)
    {lossEventList trace : List (ℤ × ℤ × ℚ)}
    (hrun : extractEvents bound fuel q lossEventList = some trace) :
    ∀ entry ∈ trace, entry ∈ lossEventList ∨ ∃ e ∈ q.events, entry = traceEntry e := by
  induction fuel generalizing q lossEventList with
  | zero => cases hrun
  | succ fuel ih =>
    cases hnext : q.getNextEvent with
    | none =>
      have hempty : ∀ e ∈ q.events, e.time ≤ bound := by
        simp [EventQueue.getNextEvent_eq_none hnext]
      rw [extractEvents_eq_none hbound _ q hq hempty] at hrun
      cases hrun
    | some popped =>
      obtain ⟨event, q'⟩ := popped
      have hspec := hq.getNextEvent hnext
      rw [extractEvents, EventQueue.getNextEventOrNop, hnext] at hrun
      split at hrun
      · intro entry hentry
        rcases ih hspec.inv hrun entry hentry with hlist | ⟨e, he, rfl⟩
        · rcases List.mem_append.mp hlist with hlist | hlast
          · exact .inl hlist
          · exact .inr ⟨event, by simp [hspec.events], List.mem_singleton.mp hlast⟩
        · exact .inr ⟨e, by simp [hspec.events, he], rfl⟩
      · cases hrun
        exact fun entry hentry => .inl hentry

lemma getHeadEventTime_nonneg (perLink : List (List (ℕ × ℚ))) :
    0 ≤ (failureQueue perLink).getHeadEventTime := by
  cases hnext : (failureQueue perLink).getNextEvent with
  | none => rw [EventQueue.getHeadEventTime_of_none hnext]
  | some popped =>
    obtain ⟨event, q'⟩ := popped
    have hq := inv_failureQueue perLink
    rw [hq.getHeadEventTime_eq hnext]
    exact time_nonneg_failureQueue perLink event (by simp [(hq.getNextEvent hnext).events])

/-- The failures of one link. -/
def linkEvents (timeToFail : ℕ → ℕ → ℕ) (lossRate : ℕ → ℕ → ℚ) (link : ℕ) : List LinkEvent :=
  (failureTimes (timeToFail link)).zipIdx.map fun (failureTime, i) =>
    ⟨(failureTime : ℤ) * 3600, .FailureEvent, link, lossRate link i⟩

lemma failureEvents_perLinkFailures (timeToFail : ℕ → ℕ → ℕ) (lossRate : ℕ → ℕ → ℚ) :
    failureEvents (perLinkFailures n timeToFail lossRate) =
      (List.range n).flatMap (linkEvents timeToFail lossRate) := by
  have hzip : (List.range n).zipIdx = (List.range n).map fun link => (link, link) := by
    refine List.ext_getElem (by simp) fun i hi hi' => ?_
    simp
  simp only [failureEvents, perLinkFailures, List.zipIdx_map, hzip, List.flatMap_map,
    List.map_map]
  rfl

lemma linkId_of_mem_linkEvents {timeToFail : ℕ → ℕ → ℕ} {lossRate : ℕ → ℕ → ℚ} {link : ℕ}
    {e : LinkEvent} (he : e ∈ linkEvents timeToFail lossRate link) : e.linkId = link := by
  obtain ⟨⟨failureTime, i⟩, -, rfl⟩ := List.mem_map.mp he
  rfl

/-- **Each entry of a trace names a link** that failures were drawn for. -/
lemma linkId_of_mem_trace {maxTraceDurationHrs fuel : ℕ} {timeToFail : ℕ → ℕ → ℕ}
    {lossRate : ℕ → ℕ → ℚ} {trace : List (ℤ × ℤ × ℚ)}
    (hrun : generateFailureEventsWeibull maxTraceDurationHrs n timeToFail lossRate fuel =
      some trace) : ∀ entry ∈ trace, ∃ l < n, entry.2.1 = l := by
  have hbound := getHeadEventTime_nonneg (perLinkFailures n timeToFail lossRate)
  intro entry hentry
  rcases mem_of_extractEvents (by omega) (inv_failureQueue _) hrun entry hentry with
    hempty | ⟨e, he, rfl⟩
  · exact absurd hempty List.not_mem_nil
  · rcases EventQueue.exists_of_mem_foldl he with hempty | ⟨event, hevent, time, -, rfl⟩
    · exact absurd hempty (Multiset.notMem_zero e)
    · rw [failureEvents_perLinkFailures] at hevent
      obtain ⟨link, hlt, hevent⟩ := List.mem_flatMap.mp hevent
      refine ⟨link, List.mem_range.mp hlt, ?_⟩
      rw [← linkId_of_mem_linkEvents hevent]
      rfl

/-- Draws of the times to failure with which a link fails before all others. -/
def failsFirst (l link i : ℕ) : ℕ := if link = l ∧ i = 0 then 0 else 1

lemma time_linkEvents_failsFirst {l link : ℕ} (hne : link ≠ l) {lossRate : ℕ → ℕ → ℚ} :
    ∀ e ∈ linkEvents (failsFirst l) lossRate link, 0 < e.time := by
  have htimes : failureTimes (failsFirst l link) = [1, 2, 3, 4, 5, 6, 7, 8, 9, 10] := by
    have hone : failsFirst l link = fun _ => 1 := funext fun i => if_neg fun h => hne h.1
    rw [hone]
    decide
  intro e he
  obtain ⟨⟨failureTime, i⟩, hmem, rfl⟩ := List.mem_map.mp he
  rw [htimes] at hmem
  have hpos : 0 < failureTime := by
    have hall : ∀ t ∈ [1, 2, 3, 4, 5, 6, 7, 8, 9, 10], 0 < t := by decide
    exact hall _ (List.fst_mem_of_mem_zipIdx hmem)
  simp only
  omega

lemma linkEvents_failsFirst (l : ℕ) (lossRate : ℕ → ℕ → ℚ) : ∃ rest,
    linkEvents (failsFirst l) lossRate l = ⟨0, .FailureEvent, l, lossRate l 0⟩ ::
      ⟨3600, .FailureEvent, l, lossRate l 1⟩ :: rest := by
  have htimes : failureTimes (failsFirst l l) = [0, 1, 2, 3, 4, 5, 6, 7, 8, 9] := by
    have hzero : failsFirst l l = fun i => if i = 0 then 0 else 1 :=
      funext fun i => by simp [failsFirst]
    rw [hzero]
    decide
  rw [linkEvents, htimes]
  exact ⟨_, rfl⟩

/-- **Each link that failures are drawn for can fail** in a trace. -/
lemma exists_trace_of_lt {l : ℕ} (hl : l < n) (lossRate : ℕ → ℕ → ℚ) : ∃ fuel trace,
    generateFailureEventsWeibull 0 n (failsFirst l) lossRate fuel = some trace ∧
      ∃ entry ∈ trace, entry.2.1 = l := by
  have hq := inv_failureQueue (perLinkFailures n (failsFirst l) lossRate)
  have hevents := failureEvents_perLinkFailures (n := n) (failsFirst l) lossRate
  obtain ⟨rest, hrest⟩ := linkEvents_failsFirst l lossRate
  -- the links before `l` fail later
  have hrange : List.range n = List.range l ++ l :: (List.range (n - l - 1)).map (l + 1 + ·) := by
    have hsplit : n = l + 1 + (n - l - 1) := by omega
    conv_lhs => rw [hsplit, List.range_add, List.range_succ]
    simp
  rw [hrange, List.flatMap_append, List.flatMap_cons, hrest] at hevents
  have hfirst : ⟨0, .FailureEvent, l, lossRate l 0⟩ ∈
      (failureQueue (perLinkFailures n (failsFirst l) lossRate)).events := by
    rw [failureQueue, hevents]
    refine EventQueue.mem_foldl_of_lt fun e he => ?_
    obtain ⟨link, hlink, he⟩ := List.mem_flatMap.mp he
    exact time_linkEvents_failsFirst (List.mem_range.mp hlink).ne e he
  have hlate : ∃ e ∈ (failureQueue (perLinkFailures n (failsFirst l) lossRate)).events,
      0 < e.time := by
    have hmem : ⟨3600, .FailureEvent, l, lossRate l 1⟩ ∈
        failureEvents (perLinkFailures n (failsFirst l) lossRate) := by
      rw [hevents]
      simp
    obtain ⟨e, he, -, hle⟩ := EventQueue.exists_mem_foldl (q := {}) hmem
    exact ⟨e, he, lt_of_lt_of_le (show (0 : ℤ) < 3600 by decide) hle⟩
  have hhead : (failureQueue (perLinkFailures n (failsFirst l) lossRate)).getHeadEventTime = 0 :=
    le_antisymm (hq.getHeadEventTime_le hfirst) (getHeadEventTime_nonneg _)
  obtain ⟨fuel, trace, hrun, hexact⟩ := exists_extractEvents _ hq hlate []
  refine ⟨fuel, trace, ?_, ?_⟩
  · rw [generateFailureEventsWeibull, generateLossEventList, hhead]
    exact hrun
  · have hmem : traceEntry ⟨0, .FailureEvent, l, lossRate l 0⟩ ∈
        (trace : Multiset (ℤ × ℤ × ℚ)) := by
      rw [hexact.entries]
      exact Multiset.mem_map_of_mem _ (Multiset.mem_filter.mpr ⟨hfirst, le_rfl⟩)
    exact ⟨_, hmem, rfl⟩

/-! ## Roundings -/

/-- `int` rounds a number that is not negative down. -/
lemma tdiv_eq_floor {q : ℚ} (hq : 0 ≤ q) : q.num.tdiv q.den = ⌊q⌋ := by
  rw [Rat.floor_def', Int.tdiv_eq_ediv_of_nonneg (Rat.num_nonneg.mpr hq)]

lemma traceNumLinks_eq {topoType : TopoType} {topoParams : TopoParams} {q : ℚ}
    (h : generatorNumLinks topoType topoParams = some q) (hq : 0 ≤ q) :
    traceNumLinks topoType topoParams = some ⌊q⌋₊ := by
  simp [traceNumLinks, h, tdiv_eq_floor hq, Int.floor_toNat]

lemma coreSwitchesPerSpinePlane_eq {torsPerPod : ℕ} {oversubscription : ℚ}
    (h : 0 < Topology.coreSwitchesPerSpinePlane torsPerPod oversubscription) :
    0 ≤ Topology.oversubscribedTors torsPerPod oversubscription ∧
      (Topology.coreSwitchesPerSpinePlane torsPerPod oversubscription : ℤ) =
        ⌊Topology.oversubscribedTors torsPerPod oversubscription⌋ := by
  unfold Topology.coreSwitchesPerSpinePlane at h ⊢
  generalize Topology.oversubscribedTors torsPerPod oversubscription = q at h ⊢
  have hnonneg : 0 ≤ q := by
    by_contra hneg
    have hnum : 0 ≤ -q.num := Int.neg_nonneg_of_nonpos (Rat.num_neg.mpr (not_le.mp hneg)).le
    have htdiv : q.num.tdiv q.den ≤ 0 := by
      have hopp := Int.tdiv_nonneg hnum (Int.natCast_nonneg q.den)
      rw [Int.neg_tdiv] at hopp
      omega
    rw [Int.toNat_of_nonpos htdiv] at h
    exact h.false
  refine ⟨hnonneg, ?_⟩
  rw [tdiv_eq_floor hnonneg]
  exact Int.toNat_of_nonneg (Int.floor_nonneg.mpr hnonneg)

section Generated

variable {numPods torsPerPod cores : ℕ} {q : ℚ}

/-- What the generator adds up is not less than the links that the builder creates. -/
lemma natCast_le_generated (hpods : 0 < numPods) (hcores : (cores : ℤ) = ⌊q⌋)
    (hsmall : numPods * (torsPerPod * 4 + 4 * cores) < 2 ^ 53) :
    ((numPods * (torsPerPod * 4 + 4 * cores) : ℕ) : ℚ) ≤
      Binary64.round (numPods * Binary64.round (4 * torsPerPod + 4 * q)) := by
  have hfloor : (cores : ℚ) ≤ q := by
    have hle := Int.floor_le q
    rw [← hcores] at hle
    exact_mod_cast hle
  have hpod : ((torsPerPod * 4 + 4 * cores : ℕ) : ℚ) ≤
      Binary64.round (4 * torsPerPod + 4 * q) := by
    refine Binary64.natCast_le_round ?_ ?_
    · exact (Nat.le_mul_of_pos_left _ hpods).trans_lt hsmall
    · push_cast
      linarith
  refine Binary64.natCast_le_round hsmall ?_
  rw [Nat.cast_mul]
  exact mul_le_mul_of_nonneg_left hpod (Nat.cast_nonneg _)

/-- What it adds up is not a link more as long as the fractions stay away from one: the rounding of
the sum of a pod is one of its fraction, and the rounding of the product is one up to the next whole
number, or none. -/
lemma generated_lt_iff (hpods : 0 < numPods) (hpos : 0 < cores) (hcores : (cores : ℤ) = ⌊q⌋)
    (hsmall : numPods * (torsPerPod * 4 + 4 * cores) < 2 ^ 51) :
    Binary64.round (numPods * Binary64.round (4 * torsPerPod + 4 * q)) <
        (numPods * (torsPerPod * 4 + 4 * cores) : ℕ) + 1 ↔
      numPods * Binary64.onGrid (Binary64.ulp (4 * torsPerPod + 4 * q)) (4 * Int.fract q) <
        1 - Binary64.ulp (numPods * (torsPerPod * 4 + 4 * cores) : ℕ) / 2 := by
  have hparts : 4 * (torsPerPod : ℚ) + 4 * q =
      (torsPerPod * 4 + 4 * cores : ℕ) + 4 * Int.fract q := by
    have hfloor : (cores : ℚ) = ⌊q⌋ := by exact_mod_cast hcores
    have hfract := Int.floor_add_fract q
    rw [← hfloor] at hfract
    push_cast
    linarith
  have hpod : 0 < torsPerPod * 4 + 4 * cores := by omega
  have hfract : 0 ≤ 4 * Int.fract q := by
    have := Int.fract_nonneg q
    positivity
  have hfit : ((torsPerPod * 4 + 4 * cores : ℕ) : ℚ) + 4 * Int.fract q < 2 ^ 52 := by
    have hle : torsPerPod * 4 + 4 * cores < 2 ^ 51 :=
      (Nat.le_mul_of_pos_left _ hpods).trans_lt hsmall
    have hcast : ((torsPerPod * 4 + 4 * cores : ℕ) : ℚ) < 2 ^ 51 := by exact_mod_cast hle
    linarith [Int.fract_lt_one q]
  rw [hparts, Binary64.round_natCast_add (by positivity) hfit, mul_add, ← Nat.cast_mul]
  refine Binary64.round_natCast_add_lt_iff (Nat.mul_pos hpods hpod) ?_ ?_
  · have hcast : ((numPods * (torsPerPod * 4 + 4 * cores) : ℕ) : ℚ) < 2 ^ 51 := by
      exact_mod_cast hsmall
    linarith
  · exact mul_nonneg (Nat.cast_nonneg _) (Binary64.onGrid_nonneg (Binary64.ulp_pos _).le hfract)

/-- Two roundings are off by little: each by half the distance between neighbours, of a number that
the limit on the links keeps small. -/
lemma abs_generated_sub_le (hq : 0 ≤ q) (hsmall : numPods * (4 * torsPerPod + 4 * q) ≤ 2 ^ 23) :
    |Binary64.round (numPods * Binary64.round (4 * torsPerPod + 4 * q)) -
      numPods * (4 * torsPerPod + 4 * q)| ≤ 1 / 2 ^ 28 := by
  generalize hx : 4 * (torsPerPod : ℚ) + 4 * q = x at hsmall ⊢
  have hx₀ : 0 ≤ x := by rw [← hx]; positivity
  have hpods : (0 : ℚ) ≤ numPods := Nat.cast_nonneg _
  have hsum := abs_le.mp (Binary64.abs_round_sub_le hx₀)
  have hprod := abs_le.mp (Binary64.abs_round_sub_le
    (mul_nonneg hpods (Binary64.round_nonneg hx₀)))
  generalize Binary64.round x = s at hsum hprod ⊢
  generalize Binary64.round (numPods * s) = y at hprod ⊢
  have hup := mul_le_mul_of_nonneg_left hsum.2 hpods
  have hdown := mul_le_mul_of_nonneg_left hsum.1 hpods
  rw [abs_le]
  constructor
  · linarith [hprod.1]
  · linarith [hprod.2]

end Generated

/-! ## Agreement -/

variable {topoParams : TopoParams} {topo : Topology}

/-- The two agree as soon as they count the same links. -/
lemma LinksAgree.of_count (hcount : topo.fabric.globalLinkId = n)
    (hnum : topo.fabric.numLinks = n) : LinksAgree topo n := by
  have hlinks : topo.fabric.links = Finset.range n := congrArg Finset.range hcount
  refine ⟨hlinks, hnum, fun hrs timeToFail lossRate fuel trace hrun entry hentry => ?_,
    fun l hl => ?_⟩
  · obtain ⟨l, hl, heq⟩ := linkId_of_mem_trace hrun entry hentry
    exact ⟨l, by simpa [hlinks] using hl, heq⟩
  · rw [hlinks, Finset.mem_range] at hl
    obtain ⟨fuel, trace, hrun, hentry⟩ := exists_trace_of_lt hl fun _ _ => 0
    exact ⟨0, failsFirst l, _, fuel, trace, hrun, hentry⟩

lemma LinksAgree.count (h : LinksAgree topo n) : topo.fabric.globalLinkId = n := by
  simpa [Fabric.links] using congrArg Finset.card h.links

/-- In a FatTree of odd `k` the number of links is no integer. -/
lemma linksAgree_fattree_iff
    (hbuild : (Topology.new .FatTree).buildTopoFattree topoParams = some topo)
    (hn : traceNumLinks .FatTree topoParams = some n) :
    LinksAgree topo n ↔ RoundsExactly .FatTree topoParams := by
  obtain ⟨-, hcount⟩ := built_fattree hbuild
  obtain ⟨k, topo₃, hk, hstage, -, hinit⟩ := stage_fattree hbuild
  have hround := round_cube_half hbuild hk
  have hnum : topo.fabric.numLinks = (k : ℚ) ^ 3 / 2 :=
    (hstage.numLinks_initMetrics hinit).trans hround
  rw [traceNumLinks_eq (q := (k : ℚ) ^ 3 / 2) (by simp [generatorNumLinks, hk, hround])
    (by positivity)] at hn
  cases hn
  constructor
  · intro h k' hk'
    rw [hk, Option.some_inj] at hk'
    subst hk'
    have heq := h.numLinks
    rw [hnum, div_eq_iff two_ne_zero] at heq
    norm_cast at heq
    exact (Nat.even_pow.mp ⟨_, heq.trans (Nat.mul_two _)⟩).1
  · intro heven
    have heq := hcount heven
    refine LinksAgree.of_count ?_ ?_
    · rw [← hnum, heq, Nat.floor_natCast]
    · rw [← hnum, heq, Nat.floor_natCast]

/-- What the builder of an FbFabric makes of its parameters.  With it the comparison of the two
counts is arithmetic and no longer about the loops of the builder. -/
structure FbfabricCount (topoParams : TopoParams) (topo : Topology)
    (numPods torsPerPod : ℕ) (oversubscription : ℚ) : Prop where
  numPods_eq : topoParams.numPods = some numPods
  torsPerPod_eq : topoParams.torsPerPod = some torsPerPod
  oversubscription_eq : topoParams.oversubscription = some oversubscription
  numPods_pos : 0 < numPods
  cores_pos : 0 < Topology.coreSwitchesPerSpinePlane torsPerPod oversubscription
  count : topo.fabric.globalLinkId = numPods * (torsPerPod * 4 +
    4 * Topology.coreSwitchesPerSpinePlane torsPerPod oversubscription)
  count_le : topo.fabric.globalLinkId ≤ maxNumberOfLinks

lemma exists_fbfabricCount {shuffle : List ℕ → List ℕ}
    (hbuild : (Topology.new .FbFabric).buildTopoFbfabric topoParams shuffle = some topo) :
    ∃ numPods torsPerPod oversubscription,
      FbfabricCount topoParams topo numPods torsPerPod oversubscription := by
  obtain ⟨-, hcount⟩ := built_fbfabric hbuild
  obtain ⟨numPods, torsPerPod, oversubscription, topo₃, hpods, htors, hover, hstage, -, hinit⟩ :=
    stage_fbfabric hbuild
  obtain ⟨hpos, hle⟩ := length_pairs_le_fbfabric hbuild hpods htors hover
  have hcores := (hstage.pos_of_initMetrics hinit).1
  have hnum : topo.fabric.numLinks = numPods * (torsPerPod * 4 +
      4 * Topology.coreSwitchesPerSpinePlane torsPerPod oversubscription : ℕ) :=
    hstage.numLinks_initMetrics hinit
  have hlinks : topo.fabric.globalLinkId = numPods * (torsPerPod * 4 +
      4 * Topology.coreSwitchesPerSpinePlane torsPerPod oversubscription) := by
    exact_mod_cast hcount.symm.trans hnum
  rw [length_pairs_fbfabric, ← hlinks] at hle
  exact ⟨numPods, torsPerPod, oversubscription, hpods, htors, hover, hpos,
    Nat.pos_of_mul_pos_left hcores, hlinks, hle⟩

namespace FbfabricCount

variable {numPods torsPerPod : ℕ} {oversubscription : ℚ}
  (h : FbfabricCount topoParams topo numPods torsPerPod oversubscription)
include h

/-- In terms of what the generator computes. -/
lemma roundsExactly_iff : RoundsExactly .FbFabric topoParams ↔
    Binary64.round (numPods * Binary64.round (4 * torsPerPod +
      4 * Topology.oversubscribedTors torsPerPod oversubscription)) <
        topo.fabric.globalLinkId + 1 := by
  have hcores := (coreSwitchesPerSpinePlane_eq h.cores_pos).2
  have hfloor : ((topo.fabric.globalLinkId : ℕ) : ℚ) = numPods * (4 * torsPerPod +
      4 * ⌊Topology.oversubscribedTors torsPerPod oversubscription⌋) := by
    rw [h.count, ← hcores]
    push_cast
    ring
  have hsmall : topo.fabric.globalLinkId < 2 ^ 51 :=
    h.count_le.trans_lt (by norm_num [maxNumberOfLinks])
  rw [h.count] at hsmall
  have hlt := generated_lt_iff h.numPods_pos h.cores_pos hcores hsmall
  rw [← h.count] at hlt
  rw [hlt, hfloor]
  simp [RoundsExactly, h.numPods_eq, h.torsPerPod_eq, h.oversubscription_eq]

/-- What the generator adds up starts from the links of the builder. -/
lemma le_generated : (topo.fabric.globalLinkId : ℚ) ≤
    Binary64.round (numPods * Binary64.round (4 * torsPerPod +
      4 * Topology.oversubscribedTors torsPerPod oversubscription)) := by
  have hsmall : topo.fabric.globalLinkId < 2 ^ 53 :=
    h.count_le.trans_lt (by norm_num [maxNumberOfLinks])
  rw [h.count] at hsmall ⊢
  exact natCast_le_generated h.numPods_pos (coreSwitchesPerSpinePlane_eq h.cores_pos).2 hsmall

lemma traceNumLinks_eq_iff (hn : traceNumLinks .FbFabric topoParams = some n) :
    topo.fabric.globalLinkId = n ↔ RoundsExactly .FbFabric topoParams := by
  have hne : oversubscription ≠ 0 := by
    rintro rfl
    exact h.cores_pos.ne' (Topology.coreSwitchesPerSpinePlane_zero_right _)
  have hle := h.le_generated
  rw [traceNumLinks_eq (by simp [generatorNumLinks, h.oversubscription_eq, h.torsPerPod_eq,
    h.numPods_eq, guard, hne]; rfl) ((Nat.cast_nonneg _).trans hle), Option.some_inj] at hn
  rw [h.roundsExactly_iff, ← hn, eq_comm, Nat.floor_eq_iff ((Nat.cast_nonneg _).trans hle)]
  exact and_iff_right hle

end FbfabricCount

/-- An FbFabric rounds the core switches of a plane down, the generator only the sum. -/
lemma linksAgree_fbfabric_iff {shuffle : List ℕ → List ℕ}
    (hbuild : (Topology.new .FbFabric).buildTopoFbfabric topoParams shuffle = some topo)
    (hn : traceNumLinks .FbFabric topoParams = some n) :
    LinksAgree topo n ↔ RoundsExactly .FbFabric topoParams := by
  obtain ⟨numPods, torsPerPod, oversubscription, h⟩ := exists_fbfabricCount hbuild
  rw [← h.traceNumLinks_eq_iff hn]
  refine ⟨LinksAgree.count, fun heq => LinksAgree.of_count heq ?_⟩
  rw [(built_fbfabric hbuild).2, heq]

/-- **What the condition comes to**: with the fractions of all pods and planes there is not one more
link, up to the errors of two roundings. -/
theorem roundsExactly_near {shuffle : List ℕ → List ℕ} {numPods torsPerPod : ℕ}
    {oversubscription : ℚ}
    (hbuild : (Topology.new .FbFabric).buildTopoFbfabric topoParams shuffle = some topo)
    (hpods : topoParams.numPods = some numPods) (htors : topoParams.torsPerPod = some torsPerPod)
    (hover : topoParams.oversubscription = some oversubscription) :
    let excess := 4 * numPods * Int.fract (Topology.oversubscribedTors torsPerPod oversubscription)
    (excess < 1 - 1 / 2 ^ 28 → RoundsExactly .FbFabric topoParams) ∧
      (RoundsExactly .FbFabric topoParams → excess < 1 + 1 / 2 ^ 28) := by
  obtain ⟨P, t, o, h⟩ := exists_fbfabricCount hbuild
  obtain rfl : P = numPods := Option.some_inj.mp (h.numPods_eq.symm.trans hpods)
  obtain rfl : t = torsPerPod := Option.some_inj.mp (h.torsPerPod_eq.symm.trans htors)
  obtain rfl : o = oversubscription :=
    Option.some_inj.mp (h.oversubscription_eq.symm.trans hover)
  obtain ⟨hq, hcores⟩ := coreSwitchesPerSpinePlane_eq h.cores_pos
  rw [h.roundsExactly_iff]
  generalize Topology.oversubscribedTors t o = q at hq hcores ⊢
  -- the builder drops the fraction of the quotient in each pod and plane, the generator keeps them
  -- all
  have hparts : q = Topology.coreSwitchesPerSpinePlane t o + Int.fract q := by
    have hfract := Int.floor_add_fract q
    rw [← hcores] at hfract
    exact hfract.symm
  have hsplit : (P * (4 * t + 4 * q) : ℚ) = topo.fabric.globalLinkId + 4 * P * Int.fract q := by
    rw [h.count]
    push_cast
    linear_combination (4 * P : ℚ) * hparts
  have hsmall : (P * (4 * t + 4 * q) : ℚ) ≤ 2 ^ 23 := by
    have hpods : (4 * P : ℚ) ≤ topo.fabric.globalLinkId := by
      have hle : P * 4 ≤ topo.fabric.globalLinkId := by
        rw [h.count]
        have hcores := h.cores_pos
        exact Nat.mul_le_mul_left P (by omega)
      rw [mul_comm]
      exact_mod_cast hle
    have hexcess : 4 * P * Int.fract q ≤ 4 * P :=
      mul_le_of_le_one_right (by positivity) (Int.fract_lt_one q).le
    have hlimit : (topo.fabric.globalLinkId : ℚ) ≤ 1000000 := by exact_mod_cast h.count_le
    linarith
  -- what is left between the two are the roundings of the product and of the sum
  have herror := abs_le.mp (abs_generated_sub_le hq hsmall)
  dsimp only
  constructor
  · intro hexcess
    linarith [herror.2]
  · intro hrounds
    linarith [herror.1]

/-- **The builder and the trace generator** have the same links, and hence each trace names links
that exist and each link can fail, exactly for the parameters for which the fractions that a builder
cuts off do not make a link of the generator. -/
theorem links_agree_iff {type : TopoType} {shuffle : List ℕ → List ℕ}
    (hbuild : (Topology.new type).build topoParams shuffle = some topo)
    (hn : traceNumLinks type topoParams = some n) :
    LinksAgree topo n ↔ RoundsExactly type topoParams := by
  cases type with
  | FatTree => exact linksAgree_fattree_iff hbuild hn
  | LeafSpine => cases hn
  | FbFabric => exact linksAgree_fbfabric_iff hbuild hn

/-- The smallest FatTree. -/
theorem links_agree_four : ∃ topo,
    (Topology.new .FatTree).build { k := some 2, linkCapacity := some 100 } id = some topo ∧
      LinksAgree topo 4 := by
  have hsome : ((Topology.new .FatTree).build
      { k := some 2, linkCapacity := some 100 } id).isSome = true := by decide +kernel
  obtain ⟨topo, hbuild⟩ := Option.isSome_iff_exists.mp hsome
  refine ⟨topo, hbuild, (links_agree_iff hbuild (by decide +kernel)).mpr fun k hk => ?_⟩
  cases hk
  decide

/-- One pod of three ToRs at an oversubscription of two. -/
def threeTors : TopoParams where
  numPods := some 1
  torsPerPod := some 3
  oversubscription := some 2
  linkCapacity := some 100
  deploymentPercent := some 100

/-- There a plane has one core switch, but the generator counts one and a half, and draws failures
for two links too many. -/
theorem links_disagree : ∃ topo, (Topology.new .FbFabric).build threeTors id = some topo ∧
    traceNumLinks .FbFabric threeTors = some 18 ∧ topo.fabric.links = Finset.range 16 ∧
      ¬ LinksAgree topo 18 := by
  have hcount : ((Topology.new .FbFabric).build threeTors id).map
      (fun topo => topo.fabric.globalLinkId) = some 16 := by decide +kernel
  obtain ⟨topo, hbuild, hlinks⟩ := Option.map_eq_some_iff.mp hcount
  refine ⟨topo, hbuild, by decide +kernel, congrArg Finset.range hlinks, fun h => ?_⟩
  have hwrong := h.count
  rw [hlinks] at hwrong
  exact absurd hwrong (by decide)

-- as floats 33 by 1.1 is less than 30, and the sum of the generator is rounded up to 252
example : Topology.coreSwitchesPerSpinePlane 33 (2476979795053773 / 2 ^ 51) = 29 ∧
    traceNumLinks .FbFabric { threeTors with
      torsPerPod := some 33, oversubscription := some (2476979795053773 / 2 ^ 51) } =
        some 252 := by
  decide +kernel

end LinkGuardian.Simulator
