import LinkGuardian.Simulator.Exactness
import LinkGuardian.Simulator.Pending

/-!
# The life of a link

A link is disabled, waits for its recovery in the queue, and is enabled again.  No step of a run
raises, unless LinkGuardian has no entry for a failure, and when the queue is empty, no link is
disabled.

The queue is the memory of the repairs: nothing in the topology says when a link will be enabled
again.  That no link stays disabled for ever is therefore a statement about the topology and the
queue together.
-/

namespace LinkGuardian.Simulator

open Execution Fabric

/-! ## Metrics -/

/-- The metrics of a coherent topology can be computed. -/
lemma getCurrentMetrics_total {topo₀ topo : Topology} (hbuilt : Built topo₀)
    (h : CoherentOver topo₀.fabric topo) : ∃ row, topo.getCurrentMetrics = some row := by
  have htors : topo.pathsOfTors ≠ [] := by
    rw [Topology.pathsOfTors, h.fabric]
    exact mt List.map_eq_nil_iff.mp hbuilt.tors
  have hpods : topo.podCapacities ≠ [] := by
    rw [Topology.podCapacities, h.fabric]
    exact mt List.map_eq_nil_iff.mp (mt List.range_eq_nil.mp hbuilt.numPods)
  obtain ⟨minPaths, hminPaths⟩ :=
    Option.ne_none_iff_exists'.mp (mt List.min?_eq_none_iff.mp htors)
  obtain ⟨minCapacity, hminCapacity⟩ :=
    Option.ne_none_iff_exists'.mp (mt List.min?_eq_none_iff.mp hpods)
  obtain ⟨maxRate, hmaxRate, -⟩ := isGreatest_max? h.coherent.topLossRates
  obtain ⟨maxPorts, hmaxPorts, -⟩ := isGreatest_max? h.coherent.lgPortsHeap
  have havgPaths : topo.getAvgNumPathsToCore =
      some ((topo.pathsOfTors.sum : ℚ) / topo.fabric.numTors) :=
    Option.bind_eq_some_iff.mpr ⟨(), if_pos (h.fabric ▸ hbuilt.numTors), rfl⟩
  have havgCapacity : topo.getAvgPerPodCapacityToCore =
      some (topo.podCapacities.sum / topo.fabric.numPods) :=
    Option.bind_eq_some_iff.mpr ⟨(), if_pos (h.fabric ▸ hbuilt.numPods), rfl⟩
  exact ⟨_, Option.bind_eq_some_iff.mpr ⟨_, havgPaths, Option.bind_eq_some_iff.mpr
    ⟨minPaths, hminPaths, Option.bind_eq_some_iff.mpr ⟨_, havgCapacity,
      Option.bind_eq_some_iff.mpr ⟨minCapacity, hminCapacity, Option.bind_eq_some_iff.mpr
        ⟨maxRate, hmaxRate, Option.bind_eq_some_iff.mpr ⟨maxPorts, hmaxPorts, rfl⟩⟩⟩⟩⟩⟩⟩

/-! ## The trace -/

namespace Simulation

/-- The events of a trace are queued as failures. -/
lemma mem_events_loadTrace {failureEventsList : List (ℤ × ℤ × ℚ)} {e : LinkEvent}
    (he : e ∈ (loadTrace failureEventsList).events) : e.type = .FailureEvent ∧
      ∃ x ∈ failureEventsList, e.linkId = x.2.1 ∧ e.lossRate = x.2.2 := by
  rw [loadTrace_eq] at he
  rcases EventQueue.exists_of_mem_foldl he with hempty | ⟨event, hevent, time, -, rfl⟩
  · exact absurd hempty (Multiset.notMem_zero e)
  · obtain ⟨x, hx, rfl⟩ := List.mem_map.mp hevent
    exact ⟨rfl, x, hx, rfl, rfl⟩

/-- At the start, no recovery is pending. -/
lemma pending_loadTrace {sim : Simulation} {failureEventsList : List (ℤ × ℤ × ℚ)}
    (hqueue : sim.eventQueue = loadTrace failureEventsList)
    (hD : sim.topo.disabledLinks = ∅)
    (hknown : ∀ x ∈ failureEventsList, (sim.topo.fabric.lookupLink x.2.1).isSome) :
    sim.Pending where
  queue := hqueue ▸ inv_loadTrace _
  recoveries := by
    have hnone : (sim.eventQueue.events.filter fun e => e.type = .RecoveryEvent) = 0 := by
      rw [hqueue, Multiset.filter_eq_nil]
      intro e he
      rw [(mem_events_loadTrace he).1]
      exact LinkEventType.noConfusion
    rw [EventQueue.recoveries, hnone, hD]
    rfl
  known e he := by
    rw [hqueue] at he
    obtain ⟨-, x, hx, heq, -⟩ := mem_events_loadTrace he
    rw [heq]
    exact hknown x hx

end Simulation

/-! ## The run -/

namespace Running

open Simulation

/-- What holds of a run between two events.  The topology, the queue and the data file each have an
invariant of their own, and the next step needs all three. -/
structure Lifecycle (topo₀ : Topology) (sol : Solution) (r : Running) : Prop where
  steady : Steady topo₀ sol r.sim
  pending : r.sim.Pending
  inOrder : r.InOrder
  dumped : r.dumper.prevRow.isSome

variable {topo₀ : Topology} {sol : Solution} {r r' : Running} {event : LinkEvent} {q : EventQueue}

/-- A dump leaves a row to repeat. -/
lemma isSome_prevRow {time : ℤ} (h : r.dump time = some r') : r'.dumper.prevRow.isSome := by
  obtain ⟨row, -, h⟩ := Option.bind_eq_some_iff.mp h
  obtain ⟨dumper, hdumper, h⟩ := Option.bind_eq_some_iff.mp h
  cases h
  unfold DataDumper.dump at hdumper
  split at hdumper
  · cases hdumper
    rfl
  · obtain ⟨-, -, hdumper⟩ := Option.bind_eq_some_iff.mp hdumper
    cases hdumper
    rfl

lemma sim_dump {time : ℤ} (h : r.dump time = some r') : r'.sim = r.sim := by
  obtain ⟨row, -, h⟩ := Option.bind_eq_some_iff.mp h
  obtain ⟨dumper, -, h⟩ := Option.bind_eq_some_iff.mp h
  cases h
  rfl

lemma lifecycle_step (hbuilt : Built topo₀) (r : Running) (orders : SetOrders) (r' : Running)
    (h : Lifecycle topo₀ sol r) (hs : r.step orders = some r') : Lifecycle topo₀ sol r' := by
  have hinOrder := inOrder_step r orders r' h.inOrder hs
  obtain ⟨⟨event, q⟩, hget, hs⟩ := Option.bind_eq_some_iff.mp hs
  obtain ⟨sim, hsim, hs⟩ := Option.bind_eq_some_iff.mp hs
  have heq : r'.sim = sim := sim_dump hs
  have hsteady := steady_step hbuilt r.sim orders sim h.steady hsim
  have hun : ¬ r.sim.Unhandled event := by
    intro hun
    rw [Simulation.step_unhandled h.steady orders hget hun] at hsim
    cases hsim
  obtain ⟨sim', hsim', hpending⟩ := step_total hbuilt (h.steady.solution ▸ h.steady) h.pending
    orders hget hun
  rw [hsim, Option.some_inj] at hsim'
  subst hsim'
  exact ⟨heq ▸ hsteady, heq ▸ hpending, hinOrder, isSome_prevRow hs⟩

/-- After an event that was processed, the metrics can be dumped. -/
lemma InOrder.step_eq_some (h : r.InOrder) (hbuilt : Built topo₀) (hsteady : Steady topo₀ sol r.sim)
    (hget : r.sim.eventQueue.getNextEvent = some (event, q)) {orders : SetOrders} {sim : Simulation}
    (hsim : r.sim.step orders = some sim) :
    ∃ row dumper, sim.topo.getCurrentMetrics = some row ∧
      r.dumper.dump event.time row = some dumper ∧
      r.step orders = some ⟨sim, dumper, r.dumps ++ [(event.time, row)]⟩ := by
  have hover := (steady_step hbuilt r.sim orders sim hsteady hsim).coherentOver
  obtain ⟨row, hrow⟩ := getCurrentMetrics_total hbuilt hover
  obtain ⟨dumper, hdumper⟩ := Option.isSome_iff_exists.mp (h.isSome_next hget row)
  refine ⟨row, dumper, hrow, hdumper, Option.bind_eq_some_iff.mpr ⟨_, hget, ?_⟩⟩
  refine Option.bind_eq_some_iff.mpr ⟨sim, hsim, Option.bind_eq_some_iff.mpr ⟨row, hrow, ?_⟩⟩
  exact Option.bind_eq_some_iff.mpr ⟨dumper, hdumper, rfl⟩

/-- Where LinkGuardian has no entry for a failure, the step raises. -/
lemma step_unhandled (hsteady : Steady topo₀ sol r.sim)
    (hget : r.sim.eventQueue.getNextEvent = some (event, q)) (hun : r.sim.Unhandled event)
    (orders : SetOrders) : r.step orders = none := by
  show Option.bind r.sim.eventQueue.getNextEvent _ = none
  rw [hget, Option.bind_some]
  show Option.bind (r.sim.step orders) _ = none
  rw [Simulation.step_unhandled hsteady orders hget hun]
  rfl

/-- **A step raises exactly where LinkGuardian has no entry for a failure.** -/
lemma Lifecycle.step_eq_none_iff (hbuilt : Built topo₀) (h : Lifecycle topo₀ sol r)
    (hget : r.sim.eventQueue.getNextEvent = some (event, q)) (orders : SetOrders) :
    r.step orders = none ↔ r.sim.Unhandled event := by
  constructor
  · intro hnone
    by_contra hun
    obtain ⟨sim, hsim, -⟩ := step_total hbuilt (h.steady.solution ▸ h.steady) h.pending orders
      hget hun
    obtain ⟨row, dumper, -, -, hstep⟩ := h.inOrder.step_eq_some hbuilt h.steady hget hsim
    rw [hnone] at hstep
    cases hstep
  · exact fun hun => step_unhandled h.steady hget hun orders

/-- The initial state can be dumped, and what holds between two events holds before the first
one. -/
lemma start_total (hbuilt : Built topo₀) {sim : Simulation} (hsteady : Steady topo₀ sol sim)
    (hpending : sim.Pending) :
    ∃ r, start sim = some r ∧ r.sim = sim ∧ Lifecycle topo₀ sol r := by
  obtain ⟨row, hrow⟩ := getCurrentMetrics_total hbuilt hsteady.coherentOver
  have hs : start sim = some _ :=
    Option.bind_eq_some_iff.mpr ⟨row, hrow, Option.bind_eq_some_iff.mpr ⟨_, rfl, rfl⟩⟩
  refine ⟨_, hs, rfl, hsteady, hpending, inOrder_start hpending.queue hs, isSome_prevRow hs⟩

end Running

/-! ## Switches -/

/-- **An agg is on the list of a ToR, once, exactly when their link is enabled.** -/
lemma mem_aggSwitches_iff {topo₀ topo : Topology} (hbuilt : Built topo₀)
    (h : CoherentOver topo₀.fabric topo) {tor : ℕ}
    (htor : tor ∈ topo.fabric.switchTypewiseList .TOR) :
    (topo.aggSwitches tor).Nodup ∧ ∀ agg, agg ∈ topo.aggSwitches tor ↔
      ∃ l ∈ topo.fabric.links, topo.fabric.linkidToSwitchpairMapping l = (tor, agg) ∧
        topo.isLinkDisabled l = false := by
  have hcharted : topo.fabric.Charted := h.fabric ▸ hbuilt.fresh.charted
  have htype := ((hcharted.mem_switchTypewiseList _ _).mp htor).2
  have haggs := h.coherent.attached.aggSwitches tor htype
  refine ⟨?_, fun agg => ?_⟩
  · rw [← Multiset.coe_nodup, haggs]
    refine Multiset.Nodup.map_on (fun l hl l' hl' heq => ?_) (Finset.nodup _)
    exact h.coherent.wired.via_injOn tor (Finset.mem_sdiff.mp hl).1 (Finset.mem_sdiff.mp hl').1 heq
  · rw [← Multiset.mem_coe, haggs, Multiset.mem_map]
    constructor
    · rintro ⟨l, hl, rfl⟩
      obtain ⟨hlow, hD⟩ := Finset.mem_sdiff.mp hl
      obtain ⟨⟨hlinks, -⟩, houter⟩ := mem_low.mp hlow
      refine ⟨l, hlinks, Prod.ext houter rfl, ?_⟩
      rw [Bool.eq_false_iff]
      exact fun hdis => hD ((h.coherent.disabled l hlinks).mp hdis)
    · rintro ⟨l, hlinks, hpair, hdis⟩
      have houter : topo.fabric.outer l = tor := congrArg Prod.fst hpair
      refine ⟨l, Finset.mem_sdiff.mpr ⟨mem_low.mpr ⟨⟨hlinks, ?_⟩, houter⟩, fun hD => ?_⟩,
        congrArg Prod.snd hpair⟩
      · have hends := h.coherent.wired.outer_type l hlinks
        rw [houter, htype] at hends
        cases hlink : topo.fabric.getLinkType l with
        | TOR_AGG => rfl
        | AGG_CORE => rw [hlink] at hends; cases hends
      · rw [(h.coherent.disabled l hlinks).mpr hD] at hdis
        cases hdis

/-- **The life of a link.**  In every state of a run between two events, a disabled link is not
corrupting and its attribute says that it is disabled, the lists of aggs follow the enabled
links, and the recoveries in the queue are those of the disabled links, one each.  The next step
raises exactly where LinkGuardian has no entry for a failure, and when the queue is empty, no
link is disabled. -/
theorem link_lifecycle {config : Config} {chance : Chance} {sim₀ : Simulation}
    (htype : config.topoType ≠ .LeafSpine) (hinit : Simulation.init config chance = some sim₀)
    (htrace : ∀ x ∈ config.failureEventsList, (sim₀.topo.fabric.lookupLink x.2.1).isSome) :
    ∃ r₀, Running.start sim₀ = some r₀ ∧ ∀ orders r, run Running.step r₀ orders = some r →
      Disjoint r.sim.topo.disabledLinks r.sim.topo.corruptingLinks ∧
      (∀ l ∈ r.sim.topo.fabric.links,
        r.sim.topo.isLinkDisabled l = true ↔ l ∈ r.sim.topo.disabledLinks) ∧
      (∀ tor ∈ r.sim.topo.fabric.switchTypewiseList .TOR,
        (r.sim.topo.aggSwitches tor).Nodup ∧ ∀ agg, agg ∈ r.sim.topo.aggSwitches tor ↔
          ∃ l ∈ r.sim.topo.fabric.links,
            r.sim.topo.fabric.linkidToSwitchpairMapping l = (tor, agg) ∧
              r.sim.topo.isLinkDisabled l = false) ∧
      r.sim.eventQueue.recoveries = r.sim.topo.disabledLinks.val.map Nat.cast ∧
      (∀ event q, r.sim.eventQueue.getNextEvent = some (event, q) →
        ∀ next, r.step next = none ↔ r.sim.Unhandled event) ∧
      (r.sim.eventQueue.getNextEvent = none →
        r.sim.topo.disabledLinks = ∅ ∧ r.dumper.dumpLastRow.isSome) := by
  have hbuilt := Simulation.built_init htype hinit
  have hqueue : sim₀.eventQueue = Simulation.loadTrace config.failureEventsList := by
    obtain ⟨topo, -, hinit⟩ := Option.bind_eq_some_iff.mp hinit
    obtain ⟨solution, -, hinit⟩ := Option.bind_eq_some_iff.mp hinit
    cases hinit
    rfl
  obtain ⟨r₀, hstart, -, hlife₀⟩ := Running.start_total hbuilt
    (Simulation.steady_init hbuilt rfl rfl)
    (Simulation.pending_loadTrace hqueue hbuilt.fresh.disabledLinks htrace)
  refine ⟨r₀, hstart, fun orders r hrun => ?_⟩
  have hlife := run_invariant (Running.lifecycle_step hbuilt) hlife₀ hrun
  have hco := hlife.steady.coherentOver.coherent
  refine ⟨hco.disjoint, hco.disabled, fun tor htor => mem_aggSwitches_iff hbuilt
    hlife.steady.coherentOver htor, hlife.pending.recoveries, fun event q hget next =>
      hlife.step_eq_none_iff hbuilt hget next, fun hempty => ⟨?_, ?_⟩⟩
  · -- an empty queue holds no recovery, and each disabled link has one there
    have hnone : r.sim.eventQueue.recoveries = 0 := by
      rw [EventQueue.recoveries, EventQueue.getNextEvent_eq_none hempty]
      rfl
    rw [hlife.pending.recoveries, Multiset.map_eq_zero] at hnone
    exact Finset.val_eq_zero.mp hnone
  · obtain ⟨prev, hprev⟩ := Option.isSome_iff_exists.mp hlife.dumped
    rw [DataDumper.dumpLastRow, hprev]
    rfl

/-- Three failures, after which two links are disabled and wait for their recoveries. -/
theorem link_lifecycle_three_failures : ∃ sim₀ r₀ r,
    Simulation.init (Simulation.threeFailures .lgCorrOpt) Simulation.quickRepairs = some sim₀ ∧
      Running.start sim₀ = some r₀ ∧
      run Running.step r₀ (List.replicate 3 Simulation.sortedOrders) = some r ∧
      r.sim.topo.disabledLinks = {0, 1} ∧ r.sim.eventQueue.recoveries = {0, 1} := by
  have hsome : ((Simulation.init (Simulation.threeFailures .lgCorrOpt)
      Simulation.quickRepairs).filter fun sim => decide (∀ x ∈ (Simulation.threeFailures
        .lgCorrOpt).failureEventsList, (sim.topo.fabric.lookupLink x.2.1).isSome)).any (fun sim =>
      (Running.start sim).any fun r₀ =>
        (run Running.step r₀ (List.replicate 3 Simulation.sortedOrders)).any fun r =>
          decide (r.sim.topo.disabledLinks = {0, 1})) = true := by
    decide +kernel
  obtain ⟨sim₀, hfilter, hsome⟩ := (Option.any_eq_true _ _).mp hsome
  obtain ⟨hinit, htrace⟩ := Option.filter_eq_some_iff.mp hfilter
  obtain ⟨r₀, hstart₀, hsome⟩ := (Option.any_eq_true _ _).mp hsome
  obtain ⟨r, hrun, hset⟩ := (Option.any_eq_true _ _).mp hsome
  obtain ⟨r₁, hstart, hlife⟩ := link_lifecycle (by decide) hinit (of_decide_eq_true htrace)
  obtain rfl : r₀ = r₁ := Option.some_inj.mp (hstart₀.symm.trans hstart)
  have hdisabled := of_decide_eq_true hset
  refine ⟨sim₀, r₀, r, hinit, hstart, hrun, hdisabled, ?_⟩
  rw [(hlife _ r hrun).2.2.2.1, hdisabled]
  rfl

/-- With an empty table, the first failure of a link with LinkGuardian raises. -/
theorem lifecycle_raises_without_table : ∃ sim₀ r₀,
    Simulation.init { Simulation.twoFailures .linkGuardian with
        solutionParams := { capacityConstraintPercent := 50, lgPerformance := [] } }
      Simulation.quickRepairs = some sim₀ ∧
    (∀ x ∈ (Simulation.twoFailures .linkGuardian).failureEventsList,
      (sim₀.topo.fabric.lookupLink x.2.1).isSome) ∧
    Running.start sim₀ = some r₀ ∧ r₀.sim.eventQueue.getNextEvent.isSome ∧
    r₀.step Simulation.sortedOrders = none := by
  have hsome : (Simulation.init { Simulation.twoFailures .linkGuardian with
      solutionParams := { capacityConstraintPercent := 50, lgPerformance := [] } }
        Simulation.quickRepairs).any (fun sim =>
      decide (∀ x ∈ (Simulation.twoFailures .linkGuardian).failureEventsList,
        (sim.topo.fabric.lookupLink x.2.1).isSome) &&
      (Running.start sim).any fun r => r.sim.eventQueue.getNextEvent.isSome &&
        (r.step Simulation.sortedOrders).isNone) = true := by
    decide +kernel
  obtain ⟨sim₀, hinit, hsome⟩ := (Option.any_eq_true _ _).mp hsome
  obtain ⟨htrace, hsome⟩ := (Bool.and_eq_true _ _).mp hsome
  obtain ⟨r₀, hstart, hsome⟩ := (Option.any_eq_true _ _).mp hsome
  obtain ⟨hnext, hnone⟩ := (Bool.and_eq_true _ _).mp hsome
  exact ⟨sim₀, r₀, hinit, of_decide_eq_true htrace, hstart, hnext,
    Option.isNone_iff_eq_none.mp hnone⟩

end LinkGuardian.Simulator
