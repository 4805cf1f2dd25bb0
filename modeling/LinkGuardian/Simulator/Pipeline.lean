import LinkGuardian.Simulator.LossRates
import LinkGuardian.Simulator.PerfTable
import LinkGuardian.Simulator.TraceLinks
import LinkGuardian.Simulator.Tradeoff
import LinkGuardian.Simulator.WholeRun

/-!
# From the trace generator to the summary

The trace generator writes a trace file for the parameters of a topology, and the simulator reads
it with parameters that must match.  What the generator writes the simulator can run on: the links
of the trace are those of the topology, and the loss rates are in the range of the table.

The programs hand on files.  What the generator and the simulator compute twice from the same
parameters is the number of links, and that the two agree is a condition here; `links_agree_iff`
makes it exact.
-/

namespace LinkGuardian.Simulator

open Execution

/-! ## The generator's side -/

/-- What the simulator reads of a trace file. -/
structure FailureTrace where
  topoType : TopoType
  topoParams : TopoParams
  failureEventsList : List (ℤ × ℤ × ℚ)

/-- What chance decides in the generator: the times to fail, and the draws for each loss rate.  A
theorem for all of them covers each trace that the generator can write. -/
structure GeneratorChance where
  timeToFail : ℕ → ℕ → ℕ
  range : ℕ → ℕ → ℚ
  value : ℕ → ℕ → ℚ

/-- `random.uniform` draws between 0 and 1. -/
def GeneratorChance.Uniform (chance : GeneratorChance) : Prop :=
  ∀ link i, (0 ≤ chance.range link i ∧ chance.range link i ≤ 1) ∧
    0 ≤ chance.value link i ∧ chance.value link i ≤ 1

/-- `main` of `generate_loss_trace.py`; `none` when an exception is raised, the topology is a
LeafSpine, or the extraction has not ended after so many rounds. -/
def generateTrace (topoType : TopoType) (topoParams : TopoParams) (distribution : List Bucket)
    (maxDurationHrs : ℕ) (chance : GeneratorChance) (fuel : ℕ) : Option FailureTrace := do
  let numLinks ← traceNumLinks topoType topoParams
  let generator := LossRateGenerator.new distribution
  let lossRate link i := generator.generate (chance.range link i) (chance.value link i)
  guard (∀ link < numLinks, ∀ i < numLossEventsPerLink, (lossRate link i).isSome)
  let lossEventList ← generateFailureEventsWeibull maxDurationHrs numLinks chance.timeToFail
    (fun link i => (lossRate link i).getD 0) fuel
  -- `loss_event_list[0]`
  guard (lossEventList ≠ [])
  return { topoType := topoType, topoParams := topoParams, failureEventsList := lossEventList }

/-! ## The simulator's side -/

/-- A parameter of the simulation, if it is passed, is that of the trace. -/
def paramMatches {α : Type} [DecidableEq α] (simParam traceParam : Option α) : Bool :=
  simParam.all fun value => traceParam = some value

/-- The check of the parameters in `Simulation.__init__`. -/
def TopoParams.matchesTrace (sim trace : TopoParams) : Bool :=
  paramMatches sim.k trace.k && paramMatches sim.numLeaf trace.numLeaf &&
    paramMatches sim.numSpine trace.numSpine && paramMatches sim.numPods trace.numPods &&
    paramMatches sim.torsPerPod trace.torsPerPod &&
    paramMatches sim.oversubscription trace.oversubscription &&
    paramMatches sim.linkCapacity trace.linkCapacity &&
    paramMatches sim.deploymentPercent trace.deploymentPercent

/-- `Simulation.__init__` on the fields of its configuration file and on the trace file; `none` is
the exit when they do not match. -/
def Config.load (topoType : TopoType) (topoParams : TopoParams) (solution : SolutionType)
    (solutionParams : SolutionParams) (trace : FailureTrace) : Option Config := do
  guard (topoType = trace.topoType)
  guard (topoParams.matchesTrace trace.topoParams)
  return { topoType := topoType
           topoParams := topoParams
           solution := solution
           solutionParams := solutionParams
           failureEventsList := trace.failureEventsList }

/-! ## Loss rates -/

lemma mem_setItem {κ β : Type} [DecidableEq κ] {dict : List (κ × β)} {key : κ} {value : β}
    {item : κ × β} (h : item ∈ setItem dict key value) : item ∈ dict ∨ item = (key, value) := by
  unfold setItem at h
  split at h
  · obtain ⟨old, hold, heq⟩ := List.mem_map.mp h
    split at heq
    · exact .inr heq.symm
    · exact .inl (heq ▸ hold)
  · rcases List.mem_append.mp h with hold | hnew
    · exact .inl hold
    · exact .inr (List.mem_singleton.mp hnew)

namespace LossRateGenerator

variable {distribution : List Bucket} {lo hi : ℚ}

/-- The loss rates of the ranges are those of the buckets. -/
lemma mem_distDict {item : (ℚ × ℚ) × (ℚ × ℚ)} (hitem : item ∈ (new distribution).distDict) :
    ∃ bucket ∈ distribution, item.2 = (bucket.lossRateStart, bucket.lossRateEnd) := by
  suffices h : ∀ (buckets : List Bucket) (state : ℚ × LossRateGenerator),
      (∀ item ∈ state.2.distDict, ∃ bucket ∈ distribution,
        item.2 = (bucket.lossRateStart, bucket.lossRateEnd)) → buckets ⊆ distribution →
      ∀ item ∈ (buckets.foldl addBucket state).2.distDict, ∃ bucket ∈ distribution,
        item.2 = (bucket.lossRateStart, bucket.lossRateEnd) from
    h distribution (0, {}) (fun item hitem => absurd hitem List.not_mem_nil) (List.Subset.refl _)
      item hitem
  intro buckets
  induction buckets with
  | nil => exact fun state h _ => h
  | cons bucket buckets ih =>
    intro state h hsub
    obtain ⟨hbucket, hsub⟩ := List.cons_subset.mp hsub
    refine ih _ (fun item hitem => ?_) hsub
    rcases mem_setItem hitem with hold | rfl
    · exact h item hold
    · exact ⟨bucket, hbucket, rfl⟩

/-- **A loss rate that is generated lies within the buckets.** -/
lemma generate_bounds
    (hbuckets : ∀ bucket ∈ distribution, lo ≤ bucket.lossRateStart ∧
      bucket.lossRateStart ≤ bucket.lossRateEnd ∧ bucket.lossRateEnd ≤ hi)
    {u v x : ℚ} (h₀ : 0 ≤ v) (h₁ : v ≤ 1) (hx : (new distribution).generate u v = some x) :
    lo ≤ x ∧ x ≤ hi := by
  obtain ⟨valRange, -, hx⟩ := Option.bind_eq_some_iff.mp hx
  obtain ⟨item, hitem, hx⟩ := Option.bind_eq_some_iff.mp hx
  cases hx
  obtain ⟨bucket, hbucket, heq⟩ := mem_distDict (List.mem_of_find?_eq_some hitem)
  obtain ⟨hlo, hle, hhi⟩ := hbuckets bucket hbucket
  rw [heq, uniform]
  constructor
  · nlinarith
  · nlinarith

end LossRateGenerator

lemma length_failureTimes (timeToFail : ℕ → ℕ) :
    (failureTimes timeToFail).length = numLossEventsPerLink := by
  simp [failureTimes, numLossEventsPerLink, List.range_succ]

/-- Each entry of a trace has a loss rate that was drawn. -/
lemma lossRate_of_mem_trace {maxTraceDurationHrs n fuel : ℕ} {timeToFail : ℕ → ℕ → ℕ}
    {lossRate : ℕ → ℕ → ℚ} {trace : List (ℤ × ℤ × ℚ)}
    (hrun : generateFailureEventsWeibull maxTraceDurationHrs n timeToFail lossRate fuel =
      some trace) :
    ∀ entry ∈ trace, ∃ link < n, ∃ i < numLossEventsPerLink, entry.2.2 = lossRate link i := by
  have hbound := getHeadEventTime_nonneg (perLinkFailures n timeToFail lossRate)
  intro entry hentry
  rcases mem_of_extractEvents (by omega) (inv_failureQueue _) hrun entry hentry with
    hempty | ⟨e, he, rfl⟩
  · exact absurd hempty List.not_mem_nil
  · rcases EventQueue.exists_of_mem_foldl he with hempty | ⟨event, hevent, time, -, rfl⟩
    · exact absurd hempty (Multiset.notMem_zero e)
    · rw [failureEvents_perLinkFailures] at hevent
      obtain ⟨link, hlt, hevent⟩ := List.mem_flatMap.mp hevent
      obtain ⟨⟨failureTime, i⟩, hi, rfl⟩ := List.mem_map.mp hevent
      have hlength := List.snd_lt_of_mem_zipIdx hi
      rw [length_failureTimes, Nat.add_zero] at hlength
      exact ⟨link, List.mem_range.mp hlt, i, hlength, rfl⟩

/-! ## Links -/

lemma eq_of_paramMatches {α : Type} [DecidableEq α] {simParam traceParam : Option α} {value : α}
    (h : paramMatches simParam traceParam = true) (hsim : simParam = some value) :
    traceParam = some value := by
  rw [paramMatches, hsim] at h
  exact of_decide_eq_true h

lemma traceNumLinks_fattree {p q : TopoParams} (hk : p.k = q.k) :
    traceNumLinks .FatTree p = traceNumLinks .FatTree q := by
  simp only [traceNumLinks, generatorNumLinks, hk]

lemma traceNumLinks_fbfabric {p q : TopoParams} (hpods : p.numPods = q.numPods)
    (htors : p.torsPerPod = q.torsPerPod) (hover : p.oversubscription = q.oversubscription) :
    traceNumLinks .FbFabric p = traceNumLinks .FbFabric q := by
  simp only [traceNumLinks, generatorNumLinks, hpods, htors, hover]

/-- **The topology that is built has the links of the trace** when the parameters match. -/
lemma Config.globalLinkId_eq {config : Config} {shuffle : List ℕ → List ℕ} {topo : Topology}
    {traceParams : TopoParams} {n : ℕ} (hbuild : config.buildTopo shuffle = some topo)
    (hmatches : config.topoParams.matchesTrace traceParams = true)
    (hrounds : RoundsExactly config.topoType traceParams)
    (hn : traceNumLinks config.topoType traceParams = some n) :
    topo.fabric.globalLinkId = n := by
  simp only [TopoParams.matchesTrace, Bool.and_eq_true] at hmatches
  obtain ⟨⟨⟨⟨⟨⟨⟨hmk, -⟩, -⟩, hmpods⟩, hmtors⟩, hmover⟩, -⟩, -⟩ := hmatches
  unfold Config.buildTopo at hbuild
  cases htype : config.topoType with
  | LeafSpine =>
    rw [htype] at hrounds
    exact hrounds.elim
  | FatTree =>
    rw [htype] at hbuild hrounds hn
    obtain ⟨k, -, hk, -⟩ := stage_fattree hbuild
    have hk' := eq_of_paramMatches hmk hk
    refine ((linksAgree_fattree_iff hbuild ?_).mpr fun k' hk'' => ?_).count
    · rw [← hn]
      exact traceNumLinks_fattree (hk.trans hk'.symm)
    · rw [hk, ← hk'] at hk''
      exact hrounds k' hk''
  | FbFabric =>
    rw [htype] at hbuild hrounds hn
    obtain ⟨numPods, torsPerPod, oversubscription, -, hpods, htors, hover, -⟩ :=
      stage_fbfabric hbuild
    have hpods' := eq_of_paramMatches hmpods hpods
    have htors' := eq_of_paramMatches hmtors htors
    have hover' := eq_of_paramMatches hmover hover
    refine ((linksAgree_fbfabric_iff hbuild ?_).mpr fun p t o hp ht ho => ?_).count
    · rw [← hn]
      exact traceNumLinks_fbfabric (hpods.trans hpods'.symm) (htors.trans htors'.symm)
        (hover.trans hover'.symm)
    · rw [hpods, ← hpods'] at hp
      rw [htors, ← htors'] at ht
      rw [hover, ← hover'] at ho
      exact hrounds p t o hp ht ho

/-! ## The pipeline -/

/-- What the generator writes: failures of its links, with loss rates that it drew. -/
lemma generateTrace_spec {topoType : TopoType} {topoParams : TopoParams}
    {distribution : List Bucket} {maxDurationHrs fuel : ℕ} {chance : GeneratorChance}
    {trace : FailureTrace}
    (h : generateTrace topoType topoParams distribution maxDurationHrs chance fuel = some trace) :
    trace.topoType = topoType ∧ trace.topoParams = topoParams ∧ trace.failureEventsList ≠ [] ∧
      ∃ n, traceNumLinks topoType topoParams = some n ∧ ∀ entry ∈ trace.failureEventsList,
        (∃ l < n, entry.2.1 = l) ∧ ∃ link i, (LossRateGenerator.new distribution).generate
          (chance.range link i) (chance.value link i) = some entry.2.2 := by
  obtain ⟨n, hn, h⟩ := Option.bind_eq_some_iff.mp h
  obtain ⟨_, hdrawn, h⟩ := Option.bind_eq_some_iff.mp h
  have hdrawn := (Option.guard_eq_some' _).mp hdrawn
  obtain ⟨list, hlist, h⟩ := Option.bind_eq_some_iff.mp h
  obtain ⟨_, hne, h⟩ := Option.bind_eq_some_iff.mp h
  have hne := (Option.guard_eq_some' _).mp hne
  cases h
  refine ⟨rfl, rfl, hne, n, hn, fun entry hentry => ⟨linkId_of_mem_trace hlist entry hentry, ?_⟩⟩
  obtain ⟨link, hlink, i, hi, hrate⟩ := lossRate_of_mem_trace hlist entry hentry
  obtain ⟨x, hx⟩ := Option.isSome_iff_exists.mp (hdrawn link hlink i hi)
  refine ⟨link, i, ?_⟩
  simp only [hrate, hx, Option.getD_some]

/-- What the simulator reads matches the trace. -/
lemma Config.load_spec {topoType : TopoType} {topoParams : TopoParams} {solution : SolutionType}
    {solutionParams : SolutionParams} {trace : FailureTrace} {config : Config}
    (h : Config.load topoType topoParams solution solutionParams trace = some config) :
    topoType = trace.topoType ∧ topoParams.matchesTrace trace.topoParams = true ∧
      config = { topoType := topoType, topoParams := topoParams, solution := solution
                 solutionParams := solutionParams
                 failureEventsList := trace.failureEventsList } := by
  obtain ⟨_, htype, h⟩ := Option.bind_eq_some_iff.mp h
  have htype := (Option.guard_eq_some' _).mp htype
  obtain ⟨_, hmatches, h⟩ := Option.bind_eq_some_iff.mp h
  have hmatches := (Option.guard_eq_some' _).mp hmatches
  cases h
  exact ⟨htype, hmatches, rfl⟩

/-- **What the generator writes, the simulator runs on.**  For parameters whose roundings do not
give the generator one link more than the builder, and a distribution of loss rates up to 1, a run
with any solution and the shipped table on a trace of the generator finishes: it does not raise at a
link that does not exist or at a loss rate that the table does not have. -/
theorem pipeline_finishes {topoType : TopoType} {traceParams topoParams : TopoParams}
    {distribution : List Bucket} {maxDurationHrs fuel : ℕ} {generatorChance : GeneratorChance}
    {solution : SolutionType} {solutionParams : SolutionParams} {trace : FailureTrace}
    {config : Config} {chance : Chance} {sim : Simulation}
    (hrounds : RoundsExactly topoType traceParams)
    (hbuckets : ∀ bucket ∈ distribution, 0 ≤ bucket.lossRateStart ∧
      bucket.lossRateStart ≤ bucket.lossRateEnd ∧ bucket.lossRateEnd ≤ 1)
    (huniform : generatorChance.Uniform)
    (hgenerate : generateTrace topoType traceParams distribution maxDurationHrs generatorChance
      fuel = some trace)
    (hload : Config.load topoType topoParams solution solutionParams trace = some config)
    (htable : solutionParams.lgPerformance = (LinkGuardianSolution.new lg100gPerf).lossRateToPerf)
    (hinit : Simulation.init config chance = some sim) (orders : ℕ → SetOrders) :
    ∃ d s last, sim.run orders (2 * trace.failureEventsList.length + 1) = some (d, s, last) ∧
      0 < s.inputFailureEvents ∧
      s.totalEventsProcessed + s.skippedLossEvents =
        s.inputFailureEvents + s.addedRecoveryEvents ∧
      last.topo.disabledLinks = ∅ := by
  obtain ⟨htype, rfl, hne, n, hn, hentries⟩ := generateTrace_spec hgenerate
  obtain ⟨-, hmatches, rfl⟩ := Config.load_spec hload
  have htopo : topoType ≠ .LeafSpine := by
    rintro rfl
    exact hrounds
  have hinit' := hinit
  obtain ⟨topo, hbuild, hsol⟩ := Option.bind_eq_some_iff.mp hinit'
  obtain ⟨sol, hnew, hsol⟩ := Option.bind_eq_some_iff.mp hsol
  cases hsol
  have hcount : topo.fabric.globalLinkId = n :=
    Config.globalLinkId_eq hbuild hmatches hrounds hn
  have htrace : ∀ x ∈ trace.failureEventsList, (topo.fabric.lookupLink x.2.1).isSome := by
    intro x hx
    obtain ⟨⟨l, hl, heq⟩, -⟩ := hentries x hx
    rw [heq, Simulation.lookupLink_natCast (Fabric.mem_links.mpr (hcount ▸ hl))]
    rfl
  -- the table has an entry for each loss rate of the distribution
  have hcovered : ∀ x ∈ trace.failureEventsList, ∀ l,
      topo.fabric.lookupLink x.2.1 = some l → ¬ sol.Uncovered topo.fabric l x.2.2 := by
    rintro x hx l - ⟨lg, hlg, -, hnone⟩
    obtain ⟨-, link, i, hx⟩ := hentries x hx
    obtain ⟨h₀, h₁⟩ := LossRateGenerator.generate_bounds hbuckets (huniform link i).2.1
      (huniform link i).2.2 hx
    have hlg' : lg = .new lg100gPerf := by
      rw [Config.linkguardian_newSolution hnew] at hlg
      split at hlg
      · rw [← Option.some_inj.mp hlg, Config.linkguardian]
        exact congrArg LinkGuardianSolution.mk htable
      · cases hlg
    rw [hlg', LinkGuardianSolution.getEffectiveLossRateCapacity_lg100gPerf h₀ h₁] at hnone
    cases hnone
  obtain ⟨d, c, hrun, -, hempty, hinv⟩ := exists_run htopo hinit htrace hcovered orders
  exact ⟨d, _, c.sim, hrun, List.length_pos_of_ne_nil hne, hinv.tally.balance_of_empty hempty,
    hinv.disabledLinks_of_empty hempty⟩

/-- Draws with which link 0 fails before all others. -/
def GeneratorChance.middle : GeneratorChance where
  timeToFail := failsFirst 0
  range _ _ := 1 / 2
  value _ _ := 1 / 4

/-- The smallest FatTree, with the distribution and the table that come with the simulator. -/
theorem pipeline_finishes_fattree : ∃ trace config sim d s last,
    generateTrace .FatTree { k := some 2, linkCapacity := some 100 }
      LossRateGenerator.lossRatesDistCorropt 0 .middle 3 = some trace ∧
    Config.load .FatTree { k := some 2, linkCapacity := some 100 } .lgCorrOpt
      (Simulation.twoFailures .lgCorrOpt).withShippedTable.solutionParams trace = some config ∧
    Simulation.init config Simulation.quickRepairs = some sim ∧
    sim.run (fun _ => Simulation.sortedOrders) (2 * trace.failureEventsList.length + 1) =
      some (d, s, last) ∧ 0 < s.inputFailureEvents := by
  have hsome : ((generateTrace .FatTree { k := some 2, linkCapacity := some 100 }
      LossRateGenerator.lossRatesDistCorropt 0 .middle 3).any fun trace =>
        (Config.load .FatTree { k := some 2, linkCapacity := some 100 } .lgCorrOpt
          (Simulation.twoFailures .lgCorrOpt).withShippedTable.solutionParams trace).any
            fun config => (Simulation.init config Simulation.quickRepairs).isSome) = true := by
    decide +kernel
  obtain ⟨trace, hgenerate, hsome⟩ := (Option.any_eq_true _ _).mp hsome
  obtain ⟨config, hload, hsome⟩ := (Option.any_eq_true _ _).mp hsome
  obtain ⟨sim, hinit⟩ := Option.isSome_iff_exists.mp hsome
  have hrounds : RoundsExactly .FatTree { k := some 2, linkCapacity := some 100 } := by
    intro k hk
    cases hk
    decide
  have hbuckets : ∀ bucket ∈ LossRateGenerator.lossRatesDistCorropt, 0 ≤ bucket.lossRateStart ∧
      bucket.lossRateStart ≤ bucket.lossRateEnd ∧ bucket.lossRateEnd ≤ 1 := by
    decide +kernel
  have huniform : GeneratorChance.middle.Uniform := by
    intro link i
    norm_num [GeneratorChance.middle]
  obtain ⟨d, s, last, hrun, hpos, -⟩ := pipeline_finishes hrounds hbuckets huniform hgenerate hload
    rfl hinit fun _ => Simulation.sortedOrders
  exact ⟨trace, config, sim, d, s, last, hgenerate, hload, hinit, hrun, hpos⟩

end LinkGuardian.Simulator
