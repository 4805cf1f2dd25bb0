import LinkGuardian.Library.Execution
import LinkGuardian.Simulator.Builders
import LinkGuardian.Simulator.Metrics
import LinkGuardian.Simulator.Solutions

/-!
# The simulation

The initialisation of a simulation from its configuration, and the processing
of one event.  `Simulation.step` is one round of the loop of `Simulation.run`: the input of the
step is the order in which the solution iterates over its sets in this round.  `Running` adds the
metrics that are dumped after each event.
-/

namespace LinkGuardian.Simulator

/-! ## The simulation -/

inductive SolutionType
  | doNothing
  | disableAndRepair
  | corrOpt
  | linkGuardian
  | lgCorrOpt
deriving DecidableEq, Repr

structure SolutionParams where
  capacityConstraintPercent : ℚ
  /-- the performance table, as the dictionary that LinkGuardian makes of it -/
  lgPerformance : List (ℚ × ℚ × ℚ)
  deploymentPercent : Option ℚ := none

/-- The configuration of a simulation with its failure trace: times, link IDs and loss rates.  It is
what the simulator has read of its files when a run starts. -/
structure Config where
  topoType : TopoType
  topoParams : TopoParams
  solution : SolutionType
  solutionParams : SolutionParams
  failureEventsList : List (ℤ × ℤ × ℚ)

/-- What chance decides: the draws of the recovery delays, and the shuffle of the pods. -/
structure Chance where
  recoveryDraws : ℕ → ℕ
  podShuffle : List ℕ → List ℕ

structure Simulation where
  topo : Topology
  solution : Solution
  eventQueue : EventQueue
  corroptRecoveryRandGen : RandGen
  skippedLossEvents : ℕ := 0
  addedRecoveryEvents : ℕ := 0

/-- `Topology.build` -/
def Topology.build (topo : Topology) (topoParams : TopoParams) (shuffle : List ℕ → List ℕ) :
    Option Topology :=
  match topo.fabric.type with
  | .FatTree => topo.buildTopoFattree topoParams
  | .LeafSpine => topo.buildTopoLeafspine
  | .FbFabric => topo.buildTopoFbfabric topoParams shuffle

/-- The topology of a configuration; the deployment is 100 % by default. -/
def Config.buildTopo (config : Config) (shuffle : List ℕ → List ℕ) : Option Topology :=
  (Topology.new config.topoType).build { config.topoParams with
    deploymentPercent := some (config.solutionParams.deploymentPercent.getD 100) } shuffle

/-- The constructors of the solutions. -/
def Config.newSolution (config : Config) (topo : Topology) : Option Solution :=
  let percent := config.solutionParams.capacityConstraintPercent
  let linkguardian : LinkGuardianSolution := ⟨config.solutionParams.lgPerformance⟩
  match config.solution with
  | .doNothing => some .doNothing
  | .disableAndRepair => some .disableAndRepair
  | .corrOpt => (CorrOptSolution.new topo percent).map .corrOpt
  | .linkGuardian => some (.linkGuardian linkguardian)
  | .lgCorrOpt => (CorrOptSolution.new topo percent).map (.lgCorrOpt linkguardian)

namespace Simulation

def loadTrace (failureEventsList : List (ℤ × ℤ × ℚ)) : EventQueue :=
  failureEventsList.foldl (fun queue (time, linkId, lossRate) =>
    queue.addEvent ⟨time, .FailureEvent, linkId, lossRate⟩) {}

def init (config : Config) (chance : Chance) : Option Simulation := do
  let topo ← config.buildTopo chance.podShuffle
  let solution ← config.newSolution topo
  return { topo := topo
           solution := solution
           eventQueue := loadTrace config.failureEventsList
           corroptRecoveryRandGen := { draws := chance.recoveryDraws } }

variable (sim : Simulation)

/-- Queue the recoveries that the solution has requested; a requested failure raises. -/
def addRequestedEvents (events : List LinkEvent) : Option Simulation :=
  events.foldlM (fun sim event => do
    guard (event.type ≠ .FailureEvent)
    return if event.type = .RecoveryEvent then
        { sim with
          eventQueue := sim.eventQueue.addEvent event
          addedRecoveryEvents := sim.addedRecoveryEvents + 1 }
      else sim) sim

/-- Take over what the solution did. -/
def acted (a : Acting) : Option Simulation :=
  ({ sim with topo := a.topo, corroptRecoveryRandGen := a.gen } : Simulation).addRequestedEvents
    a.events

/-- What a failure sets on an enabled link before the solution handles it. -/
def recordFailure (topo : Topology) (linkId : ℕ) (lossRate : ℚ) : Option Topology := do
  let topo ← topo.recordLinkTopLossRates linkId lossRate
  let topo ← topo.setLinkLossRate linkId lossRate
  let topo := { topo with corruptingLinks := insert linkId topo.corruptingLinks }
  -- where LinkGuardian runs already, the effective loss rate stays until it sets the new one
  if topo.getLinkguardianEnabled linkId then return topo
  else topo.setLinkEffectiveLossRate linkId lossRate

def processEvent (orders : SetOrders) (event : LinkEvent) : Option Simulation := do
  let linkId ← sim.topo.fabric.lookupLink event.linkId
  match event.type with
  | .FailureEvent =>
    -- a link that waits for its repair does not fail once more
    if sim.topo.isLinkDisabled linkId then
      return { sim with skippedLossEvents := sim.skippedLossEvents + 1 }
    else
      let topo ← recordFailure sim.topo linkId event.lossRate
      let a ← sim.solution.processFailureEvent topo sim.corroptRecoveryRandGen event.time linkId
        event.lossRate
      sim.acted a
  | .RecoveryEvent =>
    let topo ← sim.topo.enableLink linkId
    let a ← sim.solution.postRecoveryEventCb orders topo sim.corroptRecoveryRandGen event.time
    sim.acted a
  | .NopEvent => return sim

/-- One round of `run`: take the next event from the queue and process it. -/
def step (orders : SetOrders) : Option Simulation := do
  let (event, eventQueue) ← sim.eventQueue.getNextEvent
  ({ sim with eventQueue := eventQueue } : Simulation).processEvent orders event

end Simulation

/-! ## The run -/

/-- The time of the next event. -/
def EventQueue.getHeadEventTime (q : EventQueue) : ℤ := (q.queue[0]?.map Prod.fst).getD 0

/-- A simulation that runs, and its data file. -/
structure Running where
  sim : Simulation
  dumper : DataDumper Metrics := {}
  /-- (ghost) the rows that were dumped, without their repetitions -/
  dumps : List (ℤ × Metrics) := []

namespace Running

def dump (r : Running) (time : ℤ) : Option Running := do
  let currentMetrics ← r.sim.topo.getCurrentMetrics
  let dumper ← r.dumper.dump time currentMetrics
  return { r with dumper := dumper, dumps := r.dumps ++ [(time, currentMetrics)] }

/-- Dump the initial state, four days before the first event. -/
def start (sim : Simulation) : Option Running :=
  ({ sim := sim } : Running).dump (sim.eventQueue.getHeadEventTime - dataDumperStartEndOffset)

/-- One round of the loop. -/
def step (r : Running) (orders : SetOrders) : Option Running := do
  let (event, _) ← r.sim.eventQueue.getNextEvent
  let sim ← r.sim.step orders
  ({ r with sim := sim } : Running).dump event.time

end Running

end LinkGuardian.Simulator
