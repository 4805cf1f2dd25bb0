import LinkGuardian.Library.Binary64
import LinkGuardian.Simulator.Topology
import Mathlib.Data.Rat.Floor

/-!
# Building a topology

The functions that build the FatTree and FbFabric topologies, with the traversal of the graph
that finds the paths from a ToR to the core.

The bodies of the innermost loops, which both builders share, are `connectTorAgg` and
`connectCoreAgg`.  `none` is again an exception, or the exit of the program on bad parameters.
-/

namespace LinkGuardian.Simulator

/-! ## Traversal of the graph -/

/-- `networkx.all_simple_paths`: the paths from `source` to `target` over at most `cutoff` edges
that visit no switch twice and none of `visited`.  The builders count the paths of a ToR by it, with
one edge for each tier below the core. -/
def allSimplePaths (neighbors : ℕ → List ℕ) (target : ℕ) : ℕ → List ℕ → ℕ → List (List ℕ)
  | 0, _, _ => []
  | cutoff + 1, visited, source =>
    ((neighbors source).filter (· ∉ source :: visited)).flatMap fun next =>
      if next = target then [[source, target]]
      else (allSimplePaths neighbors target cutoff (source :: visited) next).map (source :: ·)

namespace Fabric

variable (f : Fabric)

/-- The link IDs along a path of switches. -/
def linkPath (switchPath : List ℕ) : List ℕ :=
  List.zipWith (fun a b => (f.edges s(a, b)).id) switchPath switchPath.tail

/-- The paths from a ToR to a core switch with no disabled link. -/
def getPathsToCoreSwitch (disabled : ℕ → Bool) (torId coreId : ℕ) : List (List ℕ) :=
  ((allSimplePaths f.neighbors coreId (f.type.tiers - 1) [] torId).map f.linkPath).filter
    fun path => path.all fun linkId => !disabled linkId

/-- The paths from a ToR to the core with no disabled link. -/
def getPathsToCore (disabled : ℕ → Bool) (torId : ℕ) : List (List ℕ) :=
  (f.switchTypewiseList .CORE).flatMap fun core => f.getPathsToCoreSwitch disabled torId core

end Fabric

namespace Topology

variable (topo : Topology)

/-- The paths from a ToR to the core that use only enabled links. -/
def getPathsToCore (torId : ℕ) : List (List ℕ) :=
  topo.fabric.getPathsToCore topo.isLinkDisabled torId

/-- `populate_all_paths_to_core`; the list of a type that no switch has raises. -/
def populateAllPathsToCore : Option Topology := do
  guard (topo.fabric.switchTypewiseList .TOR ≠ [])
  guard (topo.fabric.switchTypewiseList .CORE ≠ [])
  return { topo with fabric := { topo.fabric with
    pathsToCore := (topo.fabric.switchTypewiseList .TOR).foldl
      (fun paths tor => Function.update paths tor (topo.getPathsToCore tor))
      topo.fabric.pathsToCore } }

/-! ## Adding a switch -/

/-- The pipes that serve a number of links at 16 ports a pipe. -/
def pipesFor (numLinks : ℕ) : ℕ :=
  numLinks / maxPortsPerPipe + if numLinks % maxPortsPerPipe ≠ 0 then 1 else 0

/-- `tors_per_pod / oversubscription`, a float: the quotient is rounded as the code rounds it.  The
oversubscription is the number that was read, which is a float itself, or a whole number. -/
def oversubscribedTors (torsPerPod : ℕ) (oversubscription : ℚ) : ℚ :=
  Binary64.round (torsPerPod / oversubscription)

/-- `int(tors_per_pod / oversubscription)`, cut off from the rounded quotient.  A topology depends
on the oversubscription in nothing but this number, and what is proved of built topologies holds for
each of its values; only the trace generator uses the quotient once more, without cutting it off. -/
def coreSwitchesPerSpinePlane (torsPerPod : ℕ) (oversubscription : ℚ) : ℕ :=
  ((oversubscribedTors torsPerPod oversubscription).num.tdiv
    (oversubscribedTors torsPerPod oversubscription).den).toNat

lemma coreSwitchesPerSpinePlane_zero_left (oversubscription : ℚ) :
    coreSwitchesPerSpinePlane 0 oversubscription = 0 := by
  simp [coreSwitchesPerSpinePlane, oversubscribedTors]

lemma coreSwitchesPerSpinePlane_zero_right (torsPerPod : ℕ) :
    coreSwitchesPerSpinePlane torsPerPod 0 = 0 := by
  simp [coreSwitchesPerSpinePlane, oversubscribedTors]

/-- The numbers of pipes and links of a switch. -/
def numPipesAndLinks (topoType : TopoType) (topoParams : TopoParams) (switchType : SwitchType) :
    Option (ℕ × ℕ) :=
  match topoType with
  | .FatTree => do
    let numLinks ← topoParams.k
    return (pipesFor numLinks, numLinks)
  | .FbFabric => do
    let oversubscription ← topoParams.oversubscription
    let numPods ← topoParams.numPods
    let torsPerPod ← topoParams.torsPerPod
    guard (oversubscription ≠ 0)
    match switchType with
    | .TOR => return (2, 4)
    | .AGG => return (6, torsPerPod + coreSwitchesPerSpinePlane torsPerPod oversubscription)
    | .CORE => return (pipesFor numPods, numPods)
    | _ => none
  | .LeafSpine => none

/-- Add a switch of a pod, with no agg switches and no uplinks yet.  The ID comes from a generator
that ends, and a switch without pipes makes the division by their number raise. -/
def addSwitch (switchType : SwitchType) (pod : ℕ) : Option (Topology × ℕ) := do
  let f := topo.fabric
  guard (f.globalSwitchId < maxNumberOfSwitches)
  let (numPipes, numLinks) ← numPipesAndLinks f.type f.topoParams switchType
  guard (numPipes ≠ 0)
  let attributes : SwitchAttributes :=
    { type := switchType
      pod := pod
      linkIdList := []
      numPipes := numPipes
      numLinks := numLinks
      portsPerPipe := numLinks / numPipes + if numLinks % numPipes ≠ 0 then 1 else 0 }
  let topo := { topo with
    fabric := { f with
      globalSwitchId := f.globalSwitchId + 1
      switchTypewiseList := Function.update f.switchTypewiseList switchType
        (f.switchTypewiseList switchType ++ [f.globalSwitchId])
      nodes := Function.update f.nodes f.globalSwitchId attributes }
    aggSwitches := Function.update topo.aggSwitches f.globalSwitchId []
    numActiveUplinks := Function.update topo.numActiveUplinks f.globalSwitchId 0
    lgPortsPerPipe := Function.update topo.lgPortsPerPipe f.globalSwitchId fun _ => 0 }
  return (topo, f.globalSwitchId)

/-- Add a number of switches one after the other, and list their IDs. -/
def addSwitches (switchType : SwitchType) (pod count : ℕ) : Option (Topology × List ℕ) :=
  (List.range count).foldlM (fun (topo, ids) _ => do
    let (topo, addedSwitchId) ← topo.addSwitch switchType pod
    return (topo, ids ++ [addedSwitchId])) (topo, [])

/-! ## Adding a link -/

/-- Record a switch as a neighbour of another one. -/
def addNeighbor (neighbors : ℕ → List ℕ) (sw neighbor : ℕ) : ℕ → List ℕ :=
  if neighbor ∈ neighbors sw then neighbors
  else Function.update neighbors sw (neighbors sw ++ [neighbor])

def addLinkToSwitch (nodes : ℕ → SwitchAttributes) (swId linkId : ℕ) : ℕ → SwitchAttributes :=
  Function.update nodes swId
    { nodes swId with linkIdList := (nodes swId).linkIdList ++ [linkId] }

def addLink (sw1Id sw2Id : ℕ) (linkCapacity : ℚ) (linkType : LinkType) (isLgLink : Bool) :
    Option (Topology × ℕ) := do
  let f := topo.fabric
  guard (f.globalLinkId < maxNumberOfLinks)
  let topo := { topo with
    fabric := { f with
      globalLinkId := f.globalLinkId + 1
      numLgEnabledLinks := f.numLgEnabledLinks + if isLgLink then 1 else 0
      linkidToSwitchpairMapping :=
        Function.update f.linkidToSwitchpairMapping f.globalLinkId (sw1Id, sw2Id)
      neighbors := addNeighbor (addNeighbor f.neighbors sw1Id sw2Id) sw2Id sw1Id
      edges := setEdge f.edges s(sw1Id, sw2Id)
        { id := f.globalLinkId
          linkType := linkType
          capacity := linkCapacity
          lgCapable := isLgLink }
      nodes := addLinkToSwitch (addLinkToSwitch f.nodes sw1Id f.globalLinkId) sw2Id
        f.globalLinkId }
    linkStates := setEdge topo.linkStates s(sw1Id, sw2Id)
      { effectiveCapacity := linkCapacity
        lossRate := initialLinkLossRate
        effectiveLossRate := initialLinkLossRate
        disabled := false
        lgEnabled := false } }
  return (topo, f.globalLinkId)

def setAffectedTors (linkId : ℕ) (tors : Finset ℕ) : Topology :=
  { topo with fabric := { topo.fabric with
      linkIdToAffectedTors := Function.update topo.fabric.linkIdToAffectedTors linkId tors } }

def setPodId (linkId pod : ℕ) : Topology :=
  { topo with fabric := { topo.fabric with
      linkIdToPodId := Function.update topo.fabric.linkIdToPodId linkId pod } }

/-- Connect a ToR of a pod to an agg. -/
def connectTorAgg (pod : ℕ) (capacity : ℚ) (isLgLink : Bool) (torId aggId : ℕ) :
    Option Topology := do
  let (topo, linkId) ← topo.addLink torId aggId capacity .TOR_AGG isLgLink
  let topo ← (topo.setAffectedTors linkId {torId}).addAggSwitchToTor torId aggId
  return (topo.setPodId linkId pod).updatePodCapacityOnLinkStatusChange linkId true

/-- Connect a core switch to an agg of a pod. -/
def connectCoreAgg (pod : ℕ) (capacity : ℚ) (isLgLink : Bool) (coreId aggId : ℕ) :
    Option Topology := do
  let (topo, linkId) ← topo.addLink coreId aggId capacity .AGG_CORE isLgLink
  let topo ← topo.incrementNumActiveUplinks aggId
  let topo := topo.setAffectedTors linkId (topo.fabric.getAdjacentSwitchIds aggId .TOR)
  return (topo.setPodId linkId pod).updatePodCapacityOnLinkStatusChange linkId true

/-! ## Pods -/

/-- Add the switches of a pod and connect every ToR to every agg; the aggs of the pod. -/
def buildPod (pod numTors numAggs : ℕ) (capacity : ℚ) (isLgLink : Bool) :
    Option (Topology × List ℕ) := do
  let topo := { topo with perPodCapacity := Function.update topo.perPodCapacity pod fun _ => 0 }
  let (topo, torSwitchIds) ← topo.addSwitches .TOR pod numTors
  let (topo, aggSwitchIds) ← topo.addSwitches .AGG pod numAggs
  let topo ← torSwitchIds.foldlM (fun topo torId =>
    aggSwitchIds.foldlM (fun topo aggId =>
      topo.connectTorAgg pod capacity isLgLink torId aggId) topo) topo
  return (topo, aggSwitchIds)

/-- Add the pods `0, 1, …`; the aggs of each. -/
def buildPods (numPods numTors numAggs : ℕ) (capacity : ℚ) (isLgPod : ℕ → Bool) :
    Option (Topology × (ℕ → List ℕ)) :=
  (List.range numPods).foldlM (fun (topo, podAggs) pod => do
    let (topo, aggSwitchIds) ← topo.buildPod pod numTors numAggs capacity (isLgPod pod)
    return (topo, Function.update podAggs pod aggSwitchIds)) (topo, fun _ => [])

/-- The metrics of the whole topology once all its links are there. -/
def initMetrics (numPods : ℕ) : Option Topology := do
  let topo ← topo.populateAllPathsToCore
  let topo := { topo with
    fabric := { topo.fabric with
      numTors := (topo.fabric.switchTypewiseList .TOR).length
      numPods := numPods }
    totalLossRate := topo.fabric.numLinks * initialLinkLossRate
    totalEffectiveLossRate := topo.fabric.numLinks * initialLinkLossRate }
  return { topo with
    numPathsToCore := (topo.fabric.switchTypewiseList .TOR).foldl
      (fun num tor => Function.update num tor ((topo.fabric.pathsToCore tor).length : ℤ))
      topo.numPathsToCore }

/-! ## The builders -/

/-- `check_topo_params` -/
def checkTopoParams (topoType : TopoType) (topoParams : TopoParams) : Bool :=
  match topoType with
  | .FatTree => topoParams.k.isSome && topoParams.linkCapacity.isSome
  | .LeafSpine =>
    topoParams.numLeaf.isSome && topoParams.numSpine.isSome && topoParams.linkCapacity.isSome
  | .FbFabric =>
    topoParams.numPods.isSome && topoParams.oversubscription.isSome &&
      topoParams.linkCapacity.isSome && topoParams.torsPerPod.isSome

def buildTopoFattree (topoParams : TopoParams) : Option Topology := do
  guard (checkTopoParams .FatTree topoParams)
  let k ← topoParams.k
  let capacity ← topoParams.linkCapacity
  let numCoreSwitches := (k / 2) ^ 2
  let topo := { topo with fabric := { topo.fabric with
    topoParams := topoParams
    numLinks := Binary64.round ((k : ℚ) ^ 3 / 2) } }
  let (topo, podAggs) ← topo.buildPods k (k / 2) (k / 2) capacity fun _ => true
  let (topo, coreSwitchIds) ← topo.addSwitches .CORE 0 numCoreSwitches
  let topo ← (List.range numCoreSwitches).foldlM (fun topo idx => do
    let coreId ← coreSwitchIds[idx]?
    let stride := idx / (k / 2)
    (List.range k).foldlM (fun topo pod => do
      let aggId ← (podAggs pod)[stride]?
      topo.connectCoreAgg pod capacity true coreId aggId) topo) topo
  topo.initMetrics k

/-- `build_topo_leafspine` is not implemented: it only checks the parameters. -/
def buildTopoLeafspine : Option Topology := some topo

/-- The slice `xs[:n]`. -/
def sliceTo (xs : List ℕ) (n : ℤ) : List ℕ :=
  if 0 ≤ n then xs.take n.toNat else xs.take (xs.length - n.natAbs)

/-- The pods whose ToR-Agg links run LinkGuardian in a partial deployment; `shuffle` is the
outcome of shuffling the list of all pods. -/
def lgEnabledPods (numPods : ℕ) (deploymentPercent : ℚ) (shuffle : List ℕ → List ℕ) : List ℕ :=
  sliceTo (shuffle (List.range numPods)) ⌈numPods * deploymentPercent / 100⌉

def buildTopoFbfabric (topoParams : TopoParams) (shuffle : List ℕ → List ℕ) :
    Option Topology := do
  guard (checkTopoParams .FbFabric topoParams)
  let topo := { topo with fabric := { topo.fabric with topoParams := topoParams } }
  let capacity ← topoParams.linkCapacity
  let oversubscription ← topoParams.oversubscription
  let numPods ← topoParams.numPods
  let torsPerPod ← topoParams.torsPerPod
  let deploymentPercent ← topoParams.deploymentPercent
  let partialDeployment := decide (deploymentPercent ≠ 100)
  let lgEnabledPodIds := lgEnabledPods numPods deploymentPercent shuffle
  guard (oversubscription ≠ 0)
  let coreSwitchesPerSpinePlane := coreSwitchesPerSpinePlane torsPerPod oversubscription
  let numLinksPerPod := torsPerPod * 4 + 4 * coreSwitchesPerSpinePlane
  let topo := { topo with fabric := { topo.fabric with numLinks := numPods * numLinksPerPod } }
  let (topo, podAggs) ← topo.buildPods numPods torsPerPod 4 capacity fun pod =>
    !partialDeployment || decide (pod ∈ lgEnabledPodIds)
  let (topo, spinePlanes) ← (List.range 4).foldlM (fun (topo, spinePlanes) _ => do
    let (topo, coreSwIds) ← topo.addSwitches .CORE 0 coreSwitchesPerSpinePlane
    return (topo, spinePlanes ++ [coreSwIds])) (topo, ([] : List (List ℕ)))
  let topo ← (List.range 4).foldlM (fun topo spinePlaneId => do
    let coreSwitches ← spinePlanes[spinePlaneId]?
    let currSpinePlaneAggSwIds ← (List.range numPods).mapM fun pod =>
      (podAggs pod)[spinePlaneId]?
    coreSwitches.foldlM (fun topo coreId =>
      currSpinePlaneAggSwIds.foldlM (fun topo aggId =>
        topo.connectCoreAgg (topo.fabric.nodes aggId).pod capacity (!partialDeployment) coreId
          aggId) topo) topo) topo
  topo.initMetrics numPods

end Topology

end LinkGuardian.Simulator
