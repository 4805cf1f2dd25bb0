import LinkGuardian.Simulator.Capacity
import LinkGuardian.Simulator.DataFiles
import LinkGuardian.Simulator.Deployment
import LinkGuardian.Simulator.MetricChanges

/-!
# LinkGuardian does not influence CorrOpt

Two simulations of one experiment run in lockstep, the one with CorrOpt and the other with
LinkGuardian and CorrOpt.  They process the same events, disable and enable the same links, and
their metrics change at the same times, so that the data analysis can compare their files.

LinkGuardian changes the effective loss rate and capacity of a link and the ports that run it;
CorrOpt reads none of them.  So the proof is one of frames: the view of the topology is what both
simulations share, and every step is a function of the view.
-/

namespace LinkGuardian.Simulator

open Execution Lockstep

/-! ## Two simulations -/

namespace Simulation

/-- CorrOpt sees the same, and the same events are waiting. -/
structure Alike (sim sim' : Simulation) : Prop where
  topo : Simulator.Alike sim.topo sim'.topo
  eventQueue : sim.eventQueue = sim'.eventQueue
  gen : sim.corroptRecoveryRandGen = sim'.corroptRecoveryRandGen

/-- One simulation with CorrOpt, and one with LinkGuardian and CorrOpt. -/
structure Paired (topo₀ topo₀' : Topology) (corropt : CorrOptSolution)
    (linkguardian : LinkGuardianSolution) (sim sim' : Simulation) : Prop where
  alike : Alike sim sim'
  steady : Steady topo₀ (.corrOpt corropt) sim
  steady' : Steady topo₀' (.lgCorrOpt linkguardian corropt) sim'
  settled : (Solution.lgCorrOpt linkguardian corropt).Settled sim'.topo

variable {topo₀ topo₀' : Topology} {corropt : CorrOptSolution}
  {linkguardian : LinkGuardianSolution} {sim sim' : Simulation} {orders : SetOrders}
  {event : LinkEvent}

/-- The same requested events are queued, and get the same times, since the queues are equal. -/
lemma rel_acted {a a' : Acting} (ha : Acting.Alike a a') (hq : sim.eventQueue = sim'.eventQueue) :
    Option.Rel Alike (sim.acted a) (sim'.acted a') := by
  have hstart : Alike { sim with topo := a.topo, corroptRecoveryRandGen := a.gen }
      { sim' with topo := a'.topo, corroptRecoveryRandGen := a'.gen } := ⟨ha.topo, hq, ha.gen⟩
  unfold acted addRequestedEvents
  rw [ha.events]
  refine rel_foldlM (fun e _ s s' hs => ?_) hstart
  refine rel_bind_same fun _ => .some ?_
  split
  · exact ⟨hs.topo, congrArg (·.addEvent e) hs.eventQueue, hs.gen⟩
  · exact hs

section Event

variable (hbuilt : Built topo₀) (hbuilt' : Built topo₀')
  (h : Paired topo₀ topo₀' corropt linkguardian sim sim')
include hbuilt hbuilt' h

/-- **A failure of an enabled link** is handled alike, unless LinkGuardian has no entry for it. -/
lemma Paired.failure {l : ℕ} (hl : l ∈ sim.topo.fabric.links)
    (hdis : ¬ sim.topo.isLinkDisabled l = true) (time : ℤ) (lossRate : ℚ)
    (hcovered : ¬ sim'.solution.Uncovered sim'.topo.fabric l lossRate) :
    ∃ failed failed' a a', recordFailure sim.topo l lossRate = some failed ∧
      recordFailure sim'.topo l lossRate = some failed' ∧
      sim.solution.processFailureEvent failed sim.corroptRecoveryRandGen time l lossRate =
        some a ∧
      sim'.solution.processFailureEvent failed' sim'.corroptRecoveryRandGen time l lossRate =
        some a' ∧ Acting.Alike a a' := by
  have hco := h.steady.coherentOver.coherent
  have hco' := h.steady'.coherentOver.coherent
  have hen := enabled_of_isLinkDisabled hco hl hdis
  rw [h.alike.topo.links] at hl
  rw [h.alike.topo.isLinkDisabled] at hdis
  have hen' := enabled_of_isLinkDisabled hco' hl hdis
  obtain ⟨failed, hrecord, ht⟩ := hco.recordFailure hen lossRate
  obtain ⟨failed', hrecord', ht'⟩ := hco'.recordFailure hen' lossRate
  have hfailed := h.alike.topo.both_recordFailure l lossRate _ _ hrecord hrecord'
  obtain ⟨hover, hcorr⟩ := h.steady.coherentOver.recordFailure hen hrecord
  obtain ⟨hover', hcorr'⟩ := h.steady'.coherentOver.recordFailure hen' hrecord'
  rw [h.steady'.solution, ← ht'.set.fabric] at hcovered
  rw [h.steady.solution, h.steady'.solution, h.alike.gen]
  rcases (Solution.corrOpt corropt).processFailureEvent_total hbuilt hover
    sim'.corroptRecoveryRandGen time hcorr lossRate (h.steady.keeps.touched ht) with
    ⟨a, -, ha, -⟩ | ⟨_, heq, -⟩
  · rcases (Solution.lgCorrOpt linkguardian corropt).processFailureEvent_total hbuilt' hover'
      sim'.corroptRecoveryRandGen time hcorr' lossRate (h.steady'.keeps.touched ht') with
      ⟨a', -, ha', -⟩ | huncovered
    · refine ⟨failed, failed', a, a', hrecord, hrecord', ha, ha', ?_⟩
      -- the fast checker does not see that LinkGuardian was activated
      obtain ⟨on, hlg, hcheck⟩ := Solution.fastChecker_of_processFailureEvent rfl ha'
      have hon : Simulator.Alike failed on := by
        rcases hlg with ⟨hnone, -⟩ | ⟨_, -, hlg⟩
        · cases hnone
        · exact hfailed.trans (view_linkguardian hlg).symm
      exact corropt.both_corroptFastChecker hon _ time l a a' ha hcheck
    · exact absurd huncovered hcovered
  · cases heq

/-- **A recovery** is handled alike. -/
lemma Paired.recovery (orders : SetOrders) {l : ℕ} (hl : l ∈ sim.topo.disabledLinks) (time : ℤ) :
    ∃ topo topo' a a', sim.topo.enableLink l = some topo ∧ sim'.topo.enableLink l = some topo' ∧
      sim.solution.postRecoveryEventCb orders topo sim.corroptRecoveryRandGen time = some a ∧
      sim'.solution.postRecoveryEventCb orders topo' sim'.corroptRecoveryRandGen time =
        some a' ∧ Acting.Alike a a' := by
  have hl' := h.alike.topo.disabledLinks ▸ hl
  obtain ⟨topo, henable, he⟩ := h.steady.coherentOver.coherent.enableLink hl
  obtain ⟨topo', henable', he'⟩ := h.steady'.coherentOver.coherent.enableLink hl'
  have htopo := h.alike.topo.both_enableLink l _ _ henable henable'
  rw [h.steady.solution, h.steady'.solution, h.alike.gen]
  obtain ⟨a, -, ha, -⟩ := (Solution.corrOpt corropt).postRecoveryEventCb_total hbuilt
    (h.steady.coherentOver.enableLink henable) orders sim'.corroptRecoveryRandGen time
    (h.steady.keeps.enabled hl he)
  obtain ⟨a', -, ha', -⟩ := (Solution.lgCorrOpt linkguardian corropt).postRecoveryEventCb_total
    hbuilt' (h.steady'.coherentOver.enableLink henable') orders sim'.corroptRecoveryRandGen time
    (h.steady'.keeps.enabled hl' he')
  refine ⟨topo, topo', a, a', henable, henable', ha, ha', ?_⟩
  exact corropt.both_corroptOptimizer htopo _ time orders a a' ha ha'

/-- **An event is processed alike**, unless LinkGuardian has no entry for it. -/
theorem Paired.processEvent (hun : ¬ sim'.Unhandled event) :
    Option.Rel Alike (sim.processEvent orders event) (sim'.processEvent orders event) := by
  have hlookup := h.alike.topo.lookupLink event.linkId
  unfold Simulation.processEvent
  rw [hlookup]
  cases hl' : sim'.topo.fabric.lookupLink event.linkId with
  | none => exact .none
  | some l =>
    rw [hl'] at hlookup
    rw [Option.bind_eq_bind, Option.bind_eq_bind, Option.bind_some, Option.bind_some]
    cases htype : event.type with
    | NopEvent => exact .some h.alike
    | FailureEvent =>
      dsimp only
      rw [← h.alike.topo.isLinkDisabled]
      split
      · exact .some ⟨h.alike.topo, h.alike.eventQueue, h.alike.gen⟩
      · next hdis =>
        have hcovered : ¬ sim'.solution.Uncovered sim'.topo.fabric l event.lossRate := by
          rw [h.alike.topo.isLinkDisabled] at hdis
          exact fun hunc => hun ⟨htype, l, hl', Bool.eq_false_iff.mpr hdis, hunc⟩
        obtain ⟨failed, failed', a, a', hrecord, hrecord', ha, ha', halike⟩ :=
          h.failure hbuilt hbuilt' (mem_links_of_lookupLink hlookup).1 hdis event.time
            event.lossRate hcovered
        rw [hrecord, hrecord']
        show Option.Rel _ (Option.bind (Solution.processFailureEvent _ _ _ _ _ _) _)
          (Option.bind (Solution.processFailureEvent _ _ _ _ _ _) _)
        rw [ha, ha']
        exact rel_acted halike h.alike.eventQueue
    | RecoveryEvent =>
      dsimp only
      by_cases hD : l ∈ sim.topo.disabledLinks
      · obtain ⟨topo, topo', a, a', henable, henable', ha, ha', halike⟩ :=
          h.recovery hbuilt hbuilt' orders hD event.time
        rw [henable, henable']
        show Option.Rel _ (Option.bind (Solution.postRecoveryEventCb _ _ _ _ _) _)
          (Option.bind (Solution.postRecoveryEventCb _ _ _ _ _) _)
        rw [ha, ha']
        exact rel_acted halike h.alike.eventQueue
      · -- a recovery of an enabled link raises in both
        have hraise : sim.topo.enableLink l = none := Option.eq_none_iff_forall_ne_some.mpr
          fun topo henable => hD (disabled_of_enableLink henable)
        have hraise' : sim'.topo.enableLink l = none := Option.eq_none_iff_forall_ne_some.mpr
          fun topo henable => hD (h.alike.topo.disabledLinks ▸ disabled_of_enableLink henable)
        rw [hraise, hraise']
        exact .none

/-- **A step is taken alike**, unless LinkGuardian has no entry for its event. -/
theorem Paired.step (orders : SetOrders)
    (hcovered : ∀ event q, sim'.eventQueue.getNextEvent = some (event, q) →
      ¬ sim'.Unhandled event) :
    Option.Rel (Paired topo₀ topo₀' corropt linkguardian) (sim.step orders) (sim'.step orders) := by
  have halike : Option.Rel Alike (sim.step orders) (sim'.step orders) := by
    unfold Simulation.step
    rw [h.alike.eventQueue]
    cases hget : sim'.eventQueue.getNextEvent with
    | none => exact .none
    | some next =>
      have hpopped : Paired topo₀ topo₀' corropt linkguardian
          { sim with eventQueue := next.2 } { sim' with eventQueue := next.2 } :=
        ⟨⟨h.alike.topo, rfl, h.alike.gen⟩,
          ⟨h.steady.coherentOver, h.steady.solution, h.steady.keeps⟩,
          ⟨h.steady'.coherentOver, h.steady'.solution, h.steady'.keeps⟩, h.settled⟩
      exact hpopped.processEvent hbuilt hbuilt' (hcovered next.1 next.2 hget)
  refine rel_strengthen halike fun next next' hs hs' hnext => ⟨hnext, ?_, ?_, ?_⟩
  · exact steady_step hbuilt sim orders next h.steady hs
  · exact steady_step hbuilt' sim' orders next' h.steady' hs'
  · exact settled_step rfl h.steady' h.settled hs'

/-- **The metrics change at the same steps.**  The values differ, of course; that they change
together makes the reader of the files keep the same rows of both. -/
theorem Paired.metrics_iff {orders : SetOrders} {next next' : Simulation}
    (hs : sim.step orders = some next) (hs' : sim'.step orders = some next')
    (hnext : Alike next next') :
    next.topo.getCurrentMetrics = sim.topo.getCurrentMetrics ↔
      next'.topo.getCurrentMetrics = sim'.topo.getCurrentMetrics := by
  have hsettled : (Solution.corrOpt corropt).Settled sim.topo := fun _ hnone => by cases hnone
  rw [metrics_step_iff hbuilt rfl h.steady hsettled hs,
    metrics_step_iff hbuilt' rfl h.steady' h.settled hs', Seen, Seen,
    hnext.topo.totalLossRate, hnext.topo.disabledLinks, hnext.topo.corruptingLinks,
    h.alike.topo.totalLossRate, h.alike.topo.disabledLinks, h.alike.topo.corruptingLinks]

end Event

end Simulation

/-! ## Two runs -/

namespace Running

/-- Two simulations with their data files, of which the same times are kept. -/
structure Paired (topo₀ topo₀' : Topology) (corropt : CorrOptSolution)
    (linkguardian : LinkGuardianSolution) (r r' : Running) : Prop where
  sims : Simulation.Paired topo₀ topo₀' corropt linkguardian r.sim r'.sim
  inOrder : r.InOrder
  inOrder' : r'.InOrder
  files : ∃ df df' prev prev', r.dumper.Gives df prev ∧ r'.dumper.Gives df' prev' ∧
    r.sim.topo.getCurrentMetrics = some prev.2 ∧ r'.sim.topo.getCurrentMetrics = some prev'.2 ∧
      df.map Prod.fst = df'.map Prod.fst

variable {topo₀ topo₀' : Topology} {corropt : CorrOptSolution}
  {linkguardian : LinkGuardianSolution} {r r' : Running}

section Step

variable (hbuilt : Built topo₀) (hbuilt' : Built topo₀')
include hbuilt hbuilt'

/-- **Two runs take a step alike**, unless LinkGuardian has no entry for its event. -/
theorem Paired.step (h : Paired topo₀ topo₀' corropt linkguardian r r') (orders : SetOrders)
    (hcovered : ∀ event q, r'.sim.eventQueue.getNextEvent = some (event, q) →
      ¬ r'.sim.Unhandled event) :
    Option.Rel (Paired topo₀ topo₀' corropt linkguardian) (r.step orders) (r'.step orders) := by
  have hsims := h.sims.step hbuilt hbuilt' orders hcovered
  cases hget : r'.sim.eventQueue.getNextEvent with
  | none =>
    have hget' : r.sim.eventQueue.getNextEvent = none := h.sims.alike.eventQueue ▸ hget
    unfold Running.step
    rw [hget, hget']
    exact .none
  | some next =>
    obtain ⟨event, q⟩ := next
    have hget' : r.sim.eventQueue.getNextEvent = some (event, q) :=
      h.sims.alike.eventQueue ▸ hget
    cases hs : r.sim.step orders with
    | none =>
      rw [hs] at hsims
      cases hs' : r'.sim.step orders with
      | some sim' => rw [hs'] at hsims; cases hsims
      | none =>
        unfold Running.step
        rw [hget, hget', Option.bind_eq_bind, Option.bind_eq_bind, Option.bind_some,
          Option.bind_some]
        dsimp only
        rw [hs, hs']
        exact .none
    | some sim =>
      obtain ⟨sim', hs', hnext⟩ := exists_of_rel hsims hs
      obtain ⟨row, d, hrow, hd, hstep⟩ :=
        h.inOrder.step_eq_some hbuilt h.sims.steady hget' hs
      obtain ⟨row', d', hrow', hd', hstep'⟩ :=
        h.inOrder'.step_eq_some hbuilt' h.sims.steady' hget hs'
      have hinOrder := inOrder_step r orders _ h.inOrder hstep
      have hinOrder' := inOrder_step r' orders _ h.inOrder' hstep'
      rw [hstep, hstep']
      refine .some ⟨hnext, hinOrder, hinOrder', ?_⟩
      obtain ⟨df, df', prev, prev', hgives, hgives', hprev, hprev', htimes⟩ := h.files
      have hiff : row = prev.2 ↔ row' = prev'.2 := by
        have hiff := h.sims.metrics_iff hbuilt hbuilt' hs hs' hnext.alike
        rwa [hrow, hrow', hprev, hprev', Option.some_inj, Option.some_inj] at hiff
      refine ⟨_, _, _, _, hgives.dump hd, hgives'.dump hd', hrow, hrow', ?_⟩
      by_cases hsame : row = prev.2
      · rw [if_pos hsame, if_pos (hiff.mp hsame)]
        exact htimes
      · rw [if_neg hsame, if_neg (mt hiff.mpr hsame), List.map_append, List.map_append, htimes]
        rfl

end Step

/-- Two runs of CorrOpt as they are compared between two events: the same events are queued, the
same links disabled, and the metrics that CorrOpt reads are equal; LinkGuardian makes the next
step raise only where it has no entry for a failure; the metrics change in the one when they
change in the other; and the data files, if the runs end here, pass the checks. -/
structure SameDecisions (r r' : Running) : Prop where
  eventQueue : r.sim.eventQueue = r'.sim.eventQueue
  disabledLinks : r.sim.topo.disabledLinks = r'.sim.topo.disabledLinks
  corruptingLinks : r.sim.topo.corruptingLinks = r'.sim.topo.corruptingLinks
  totalLossRate : r.sim.topo.totalLossRate = r'.sim.topo.totalLossRate
  numPathsToCore : r.sim.topo.numPathsToCore = r'.sim.topo.numPathsToCore
  maxLinkLossRate : r.sim.topo.getMaxLinkLossRate = r'.sim.topo.getMaxLinkLossRate
  raises : ∀ orders, r'.step orders = none ↔ r.step orders = none ∨
    ∃ event q, r'.sim.eventQueue.getNextEvent = some (event, q) ∧ r'.sim.Unhandled event
  metrics : ∀ orders next next', r.step orders = some next → r'.step orders = some next' →
    (next.sim.topo.getCurrentMetrics = r.sim.topo.getCurrentMetrics ↔
      next'.sim.topo.getCurrentMetrics = r'.sim.topo.getCurrentMetrics)
  checks : ∃ d d', r.dumper.dumpLastRow = some d ∧ r'.dumper.dumpLastRow = some d' ∧
    dataCorrectnessChecks d.rows d'.rows = some ()

/-- The simulation of a step. -/
lemma sim_step {orders : SetOrders} {next : Running} (hs : r.step orders = some next) :
    r.sim.step orders = some next.sim := by
  obtain ⟨⟨event, q⟩, -, hs⟩ := Option.bind_eq_some_iff.mp hs
  obtain ⟨sim, hsim, hs⟩ := Option.bind_eq_some_iff.mp hs
  rw [hsim, sim_dump hs]

/-- The files of two runs can be compared. -/
lemma Paired.checks (h : Paired topo₀ topo₀' corropt linkguardian r r') :
    ∃ d d', r.dumper.dumpLastRow = some d ∧ r'.dumper.dumpLastRow = some d' ∧
      dataCorrectnessChecks d.rows d'.rows = some () := by
  obtain ⟨df, df', prev, prev', hgives, hgives', -, -, htimes⟩ := h.files
  have hlast : ∀ {d : DataDumper Metrics} {prev : ℤ × Metrics}, d.prevRow = some prev →
      ∃ d', d.dumpLastRow = some d' := by
    intro d prev hprev
    rw [DataDumper.dumpLastRow, hprev]
    exact ⟨_, rfl⟩
  obtain ⟨d, hd⟩ := hlast hgives.prevRow
  obtain ⟨d', hd'⟩ := hlast hgives'.prevRow
  exact ⟨d, d', hd, hd',
    dataCorrectnessChecks_eq_some (hgives.dumpLastRow hd) (hgives'.dumpLastRow hd') htimes⟩

/-- **Paired runs decide the same.**  Both disable and enable the same links, at the same times. -/
theorem Paired.sameDecisions (hbuilt : Built topo₀) (hbuilt' : Built topo₀')
    (h : Paired topo₀ topo₀' corropt linkguardian r r') : SameDecisions r r' := by
  have hstep (orders : SetOrders) (hcovered : ¬ ∃ event q,
      r'.sim.eventQueue.getNextEvent = some (event, q) ∧ r'.sim.Unhandled event) :=
    h.step hbuilt hbuilt' orders fun event q hget hun => hcovered ⟨event, q, hget, hun⟩
  have hraise : ∀ orders, (∃ event q, r'.sim.eventQueue.getNextEvent = some (event, q) ∧
      r'.sim.Unhandled event) → r'.step orders = none := by
    rintro orders ⟨event, q, hget, hun⟩
    exact step_unhandled h.sims.steady' hget hun orders
  refine ⟨h.sims.alike.eventQueue, h.sims.alike.topo.disabledLinks,
    h.sims.alike.topo.corruptingLinks, h.sims.alike.topo.totalLossRate,
    h.sims.alike.topo.numPathsToCore, h.sims.alike.topo.maxLinkLossRate, fun orders => ?_,
    fun orders next next' hs hs' => ?_, h.checks⟩
  · by_cases hcovered : ∃ event q, r'.sim.eventQueue.getNextEvent = some (event, q) ∧
        r'.sim.Unhandled event
    · exact ⟨fun _ => .inr hcovered, fun _ => hraise orders hcovered⟩
    · rw [or_iff_left hcovered, eq_none_iff_of_rel (hstep orders hcovered)]
  · have hcovered : ¬ ∃ event q, r'.sim.eventQueue.getNextEvent = some (event, q) ∧
        r'.sim.Unhandled event := fun hun => by
      rw [hraise orders hun] at hs'
      cases hs'
    have hrel := hstep orders hcovered
    rw [hs, hs'] at hrel
    cases hrel with
    | some hnext =>
      exact h.sims.metrics_iff hbuilt hbuilt' (sim_step hs) (sim_step hs') hnext.sims.alike

/-- A run with LinkGuardian and CorrOpt is followed by the run with CorrOpt. -/
theorem Paired.run (hbuilt : Built topo₀) (hbuilt' : Built topo₀')
    (h : Paired topo₀ topo₀' corropt linkguardian r r') {orders : List SetOrders} {last' : Running}
    (hrun : run Running.step r' orders = some last') :
    ∃ last, run Running.step r orders = some last ∧
      Paired topo₀ topo₀' corropt linkguardian last last' := by
  have hstep : ∀ (s' s : Running) (o : SetOrders) (next' : Running),
      Paired topo₀ topo₀' corropt linkguardian s s' → True → s'.step o = some next' →
      ∃ next, s.step (id o) = some next ∧
        Paired topo₀ topo₀' corropt linkguardian next next' := by
    intro s' s o next' hs _ hnext'
    refine exists_of_rel_right (hs.step hbuilt hbuilt' o fun event q hget hun => ?_) hnext'
    rw [step_unhandled hs.sims.steady' hget hun o] at hnext'
    cases hnext'
  obtain ⟨last, hlast, hpaired⟩ := run_simulation id hstep h (along_true _ _) hrun
  rw [List.map_id] at hlast
  exact ⟨last, hlast, hpaired⟩

end Running

/-! ## Two configurations of one experiment -/

/-- One FbFabric, one constraint and one trace, with CorrOpt in the one configuration, and with
LinkGuardian and CorrOpt in the other. -/
structure Config.Compared (config config' : Config) : Prop where
  topoType : config.topoType = .FbFabric
  topoType' : config'.topoType = .FbFabric
  topoParams : config'.topoParams = config.topoParams
  solution : config.solution = .corrOpt
  solution' : config'.solution = .lgCorrOpt
  capacityConstraintPercent : config'.solutionParams.capacityConstraintPercent =
    config.solutionParams.capacityConstraintPercent
  failureEventsList : config'.failureEventsList = config.failureEventsList

variable {config config' : Config} {chance chance' : Chance}

namespace Config.Compared

lemma buildTopo (h : Compared config config') (shuffle shuffle' : List ℕ → List ℕ) :
    Option.Rel Alike (config.buildTopo shuffle) (config'.buildTopo shuffle') := by
  unfold Config.buildTopo
  rw [h.topoType, h.topoType', h.topoParams]
  exact alike_buildTopoFbfabric config.topoParams _ _ shuffle shuffle'

lemma newSolution (h : Compared config config') {topo topo' : Topology} (ht : Alike topo topo') :
    Option.Rel (fun sol sol' => ∃ corropt linkguardian, sol = Solution.corrOpt corropt ∧
      sol' = Solution.lgCorrOpt linkguardian corropt)
      (config.newSolution topo) (config'.newSolution topo') := by
  unfold Config.newSolution
  rw [h.solution, h.solution', h.capacityConstraintPercent]
  dsimp only
  rw [ht.corroptNew]
  cases CorrOptSolution.new topo' config.solutionParams.capacityConstraintPercent with
  | none => exact .none
  | some corropt => exact .some ⟨corropt, _, rfl, rfl⟩

/-- **The simulations start alike.** -/
lemma init (h : Compared config config') (hdraws : chance'.recoveryDraws = chance.recoveryDraws) :
    Option.Rel (fun sim sim' => ∃ corropt linkguardian, Built sim.topo ∧ Built sim'.topo ∧
      Simulation.Paired sim.topo sim'.topo corropt linkguardian sim sim')
      (Simulation.init config chance) (Simulation.init config' chance') := by
  have hstart : Option.Rel (fun sim sim' : Simulation => sim.Alike sim' ∧
      ∃ corropt linkguardian, sim.solution = .corrOpt corropt ∧
        sim'.solution = .lgCorrOpt linkguardian corropt)
      (Simulation.init config chance) (Simulation.init config' chance') := by
    refine rel_bind (h.buildTopo _ _) fun topo topo' ht => ?_
    refine rel_bind (h.newSolution ht) fun sol sol' hsol => .some ⟨⟨ht, ?_, ?_⟩, hsol⟩
    · exact congrArg Simulation.loadTrace h.failureEventsList.symm
    · exact congrArg (fun draws => ({ draws := draws } : RandGen)) hdraws.symm
  have hne : ∀ {c : Config}, c.topoType = .FbFabric → c.topoType ≠ .LeafSpine := by
    intro c hc
    rw [hc]
    exact TopoType.noConfusion
  refine rel_strengthen hstart ?_
  rintro sim sim' hinit hinit' ⟨halike, corropt, linkguardian, hsol, hsol'⟩
  have hbuilt := Simulation.built_init (hne h.topoType) hinit
  have hbuilt' := Simulation.built_init (hne h.topoType') hinit'
  refine ⟨corropt, linkguardian, hbuilt, hbuilt', halike,
    Simulation.steady_init hbuilt rfl hsol, Simulation.steady_init hbuilt' rfl hsol', ?_⟩
  intro _ _ l hl
  rw [hbuilt'.fresh.corruptingLinks] at hl
  exact absurd hl (Finset.notMem_empty l)

end Config.Compared

/-- The initial states can be dumped. -/
lemma Simulation.Paired.start {topo₀ topo₀' : Topology} {corropt : CorrOptSolution}
    {linkguardian : LinkGuardianSolution} {sim sim' : Simulation} (hbuilt : Built topo₀)
    (hbuilt' : Built topo₀') (hq : sim.eventQueue.Inv)
    (h : Simulation.Paired topo₀ topo₀' corropt linkguardian sim sim') :
    ∃ r r', Running.start sim = some r ∧ Running.start sim' = some r' ∧
      Running.Paired topo₀ topo₀' corropt linkguardian r r' := by
  obtain ⟨row, hrow⟩ := getCurrentMetrics_total hbuilt h.steady.coherentOver
  obtain ⟨row', hrow'⟩ := getCurrentMetrics_total hbuilt' h.steady'.coherentOver
  have hs : Running.start sim = some _ :=
    Option.bind_eq_some_iff.mpr ⟨row, hrow, Option.bind_eq_some_iff.mpr ⟨_, rfl, rfl⟩⟩
  have hs' : Running.start sim' = some _ :=
    Option.bind_eq_some_iff.mpr ⟨row', hrow', Option.bind_eq_some_iff.mpr ⟨_, rfl, rfl⟩⟩
  refine ⟨_, _, hs, hs', h, Running.inOrder_start hq hs,
    Running.inOrder_start (h.alike.eventQueue ▸ hq) hs', _, _, _, _, DataDumper.gives_dump rfl,
    DataDumper.gives_dump rfl, hrow, hrow', ?_⟩
  show [sim.eventQueue.getHeadEventTime - dataDumperStartEndOffset] =
    [sim'.eventQueue.getHeadEventTime - dataDumperStartEndOffset]
  rw [h.alike.eventQueue]

/-- **LinkGuardian does not influence CorrOpt.**  Both simulations of an experiment can be
initialised, or neither; and as long as the run with LinkGuardian and CorrOpt has not raised, the
run with CorrOpt has made the same decisions after the same events. -/
theorem corropt_not_influenced (h : Config.Compared config config')
    (hdraws : chance'.recoveryDraws = chance.recoveryDraws) :
    Option.Rel (fun sim₀ sim₀' => ∃ r₀ r₀', Running.start sim₀ = some r₀ ∧
      Running.start sim₀' = some r₀' ∧ ∀ orders r', run Running.step r₀' orders = some r' →
        ∃ r, run Running.step r₀ orders = some r ∧ Running.SameDecisions r r')
      (Simulation.init config chance) (Simulation.init config' chance') := by
  refine rel_strengthen (h.init hdraws) ?_
  rintro sim₀ sim₀' hinit - ⟨corropt, linkguardian, hbuilt, hbuilt', hpaired⟩
  obtain ⟨r₀, r₀', hs, hs', hpaired⟩ :=
    hpaired.start hbuilt hbuilt' (Simulation.eventQueue_init hinit)
  refine ⟨r₀, r₀', hs, hs', fun orders r' hrun => ?_⟩
  obtain ⟨r, hr, hpaired⟩ := hpaired.run hbuilt hbuilt' hrun
  exact ⟨r, hr, hpaired.sameDecisions hbuilt hbuilt'⟩

/-- Three failures and three recoveries, after which both queues are empty. -/
theorem corropt_not_influenced_three_failures : ∃ sim₀ sim₀' r₀ r₀' r r',
    Simulation.init (Simulation.threeFailures .corrOpt) Simulation.quickRepairs = some sim₀ ∧
      Simulation.init (Simulation.threeFailures .lgCorrOpt) Simulation.quickRepairs =
        some sim₀' ∧
      Running.start sim₀ = some r₀ ∧ Running.start sim₀' = some r₀' ∧
      run Running.step r₀ (List.replicate 6 Simulation.sortedOrders) = some r ∧
      run Running.step r₀' (List.replicate 6 Simulation.sortedOrders) = some r' ∧
      r'.sim.eventQueue.getNextEvent = none ∧ Running.SameDecisions r r' := by
  have hsome : ((Simulation.init (Simulation.threeFailures .lgCorrOpt)
      Simulation.quickRepairs).bind fun sim => (Running.start sim).bind fun r =>
        run Running.step r (List.replicate 6 Simulation.sortedOrders)).any
          (fun r => r.sim.eventQueue.getNextEvent.isNone) = true := by
    decide +kernel
  obtain ⟨r', hr', hempty⟩ := (Option.any_eq_true _ _).mp hsome
  obtain ⟨sim₀', hinit', hr'⟩ := Option.bind_eq_some_iff.mp hr'
  obtain ⟨r₀', hs', hr'⟩ := Option.bind_eq_some_iff.mp hr'
  have hcompared : Config.Compared (Simulation.threeFailures .corrOpt)
      (Simulation.threeFailures .lgCorrOpt) := ⟨rfl, rfl, rfl, rfl, rfl, rfl, rfl⟩
  have hdraws : Simulation.quickRepairs.recoveryDraws = Simulation.quickRepairs.recoveryDraws := rfl
  obtain ⟨sim₀, hinit, r₀, r₁', hs, hs₁, hruns⟩ :=
    exists_of_rel_right (corropt_not_influenced hcompared hdraws) hinit'
  rw [hs', Option.some_inj] at hs₁
  subst hs₁
  obtain ⟨r, hr, hsame⟩ := hruns _ r' hr'
  exact ⟨sim₀, sim₀', r₀, r₀', r, r', hinit, hinit', hs, hs', hr, hr',
    Option.isNone_iff_eq_none.mp hempty, hsame⟩

def Config.withoutTable (config : Config) : Config :=
  { config with solutionParams := { config.solutionParams with lgPerformance := [] } }

/-- With an empty table, LinkGuardian raises at the first failure, and CorrOpt does not. -/
theorem corropt_influenced_without_table :
    Config.Compared (Simulation.threeFailures .corrOpt)
      (Simulation.threeFailures .lgCorrOpt).withoutTable ∧
    ∃ sim₀ sim₀' r₀ r₀',
      Simulation.init (Simulation.threeFailures .corrOpt) Simulation.quickRepairs = some sim₀ ∧
      Simulation.init (Simulation.threeFailures .lgCorrOpt).withoutTable
        Simulation.quickRepairs = some sim₀' ∧
      Running.start sim₀ = some r₀ ∧ Running.start sim₀' = some r₀' ∧
      (r₀.step Simulation.sortedOrders).isSome ∧ r₀'.step Simulation.sortedOrders = none := by
  have hsome : ((Simulation.init (Simulation.threeFailures .corrOpt)
      Simulation.quickRepairs).any fun sim => (Running.start sim).any fun r =>
        (r.step Simulation.sortedOrders).isSome) = true := by
    decide +kernel
  have hnone : ((Simulation.init (Simulation.threeFailures .lgCorrOpt).withoutTable
      Simulation.quickRepairs).any fun sim => (Running.start sim).any fun r =>
          (r.step Simulation.sortedOrders).isNone) = true := by
    decide +kernel
  obtain ⟨sim₀, hinit, hsome⟩ := (Option.any_eq_true _ _).mp hsome
  obtain ⟨r₀, hs, hsome⟩ := (Option.any_eq_true _ _).mp hsome
  obtain ⟨sim₀', hinit', hnone⟩ := (Option.any_eq_true _ _).mp hnone
  obtain ⟨r₀', hs', hnone⟩ := (Option.any_eq_true _ _).mp hnone
  exact ⟨⟨rfl, rfl, rfl, rfl, rfl, rfl, rfl⟩, sim₀, sim₀', r₀, r₀', hinit, hinit', hs, hs',
    hsome, Option.isNone_iff_eq_none.mp hnone⟩

end LinkGuardian.Simulator
