import LinkGuardian.Library.Heapq
import Mathlib.Algebra.Ring.Int.Defs
import Mathlib.Data.Finset.Lattice.Fold
import Mathlib.Data.List.Dedup
import Mathlib.Data.Rat.Defs
import Mathlib.Data.Sym.Sym2
import Mathlib.Logic.Function.Basic
import Mathlib.Order.Lattice.Nat

/-!
# The simulated topology

The `Topology` object of the network simulator.  What the builders set once is its `Fabric`: the
switches, the links between them, and the tables that say which switches a link connects and
which ToRs depend on it.  The other fields change as links fail, are disabled and recover.

Loss rates and capacities are exact rationals.  Dictionaries are functions, and the graph keeps
the attributes of a link under the unordered pair of its switches, as `networkx` does.  A
function whose source can raise returns an `Option`; `none` is the exception.

The definitions keep to the order of the assignments in the source, also where it does not matter,
so that each can be read beside the function of the same name.
-/

namespace LinkGuardian.Simulator

/-! ## Constants and enumerations -/

def maxNumberOfSwitches : ℕ := 100000
def maxNumberOfLinks : ℕ := 1000000
def initialLinkLossRate : ℚ := 1 / 10 ^ 18
def maxPortsPerPipe : ℕ := 16

inductive TopoType
  | FatTree
  | LeafSpine
  | FbFabric
deriving DecidableEq, Repr

/-- `topotype_to_tiers` -/
def TopoType.tiers : TopoType → ℕ
  | FatTree => 3
  | LeafSpine => 2
  | FbFabric => 3

inductive SwitchType
  | ALL
  | TOR
  | AGG
  | CORE
  | LEAF
  | SPINE
deriving DecidableEq, Repr

/-- The number of the enumeration value: lower numbers are downstream. -/
def SwitchType.value : SwitchType → ℕ
  | ALL => 0
  | TOR => 1
  | AGG => 2
  | CORE => 3
  | LEAF => 4
  | SPINE => 5

inductive LinkType
  | TOR_AGG
  | AGG_CORE
deriving DecidableEq, Repr

inductive PodCapacityType
  | torToAgg
  | aggToCore
deriving DecidableEq, Repr

/-- `linktype_to_pod_capacitytype` -/
def LinkType.podCapacityType : LinkType → PodCapacityType
  | TOR_AGG => .torToAgg
  | AGG_CORE => .aggToCore

/-- The `topo_params` dictionary: a parameter that is not passed is `none`. -/
structure TopoParams where
  k : Option ℕ := none
  numLeaf : Option ℕ := none
  numSpine : Option ℕ := none
  numPods : Option ℕ := none
  torsPerPod : Option ℕ := none
  oversubscription : Option ℚ := none
  linkCapacity : Option ℚ := none
  deploymentPercent : Option ℚ := none

/-! ## Data -/

/-- A dictionary over the edges of the graph with one entry changed. -/
def setEdge {α : Type} (m : Sym2 ℕ → α) (e : Sym2 ℕ) (v : α) : Sym2 ℕ → α :=
  fun e' => if e' = e then v else m e'

/-- The members of a set, where the order of the iteration does not matter. -/
def setToList (s : Finset ℕ) : List ℕ := (List.range (s.sup id + 1)).filter (· ∈ s)

lemma mem_setToList {s : Finset ℕ} {a : ℕ} : a ∈ setToList s ↔ a ∈ s := by
  rw [setToList, List.mem_filter, List.mem_range, decide_eq_true_iff]
  exact and_iff_right_of_imp fun h => Nat.lt_succ_of_le (Finset.le_sup (f := id) h)

lemma nodup_setToList (s : Finset ℕ) : (setToList s).Nodup := List.nodup_range.filter _

/-- What a node of the graph keeps for good. -/
structure SwitchAttributes where
  type : SwitchType := .ALL
  pod : ℕ := 0
  linkIdList : List ℕ := []
  numPipes : ℕ := 0
  numLinks : ℕ := 0
  portsPerPipe : ℕ := 0

/-- What an edge of the graph keeps for good. -/
structure LinkAttributes where
  id : ℕ := 0
  linkType : LinkType := .TOR_AGG
  capacity : ℚ := 0
  lgCapable : Bool := false

/-- What changes about an edge of the graph. -/
structure LinkState where
  effectiveCapacity : ℚ := 0
  lossRate : ℚ := 0
  effectiveLossRate : ℚ := 0
  disabled : Bool := false
  lgEnabled : Bool := false

structure Fabric where
  type : TopoType
  topoParams : TopoParams
  /-- the next ID of the generator of switch IDs -/
  globalSwitchId : ℕ
  /-- the next ID of the generator of link IDs -/
  globalLinkId : ℕ
  nodes : ℕ → SwitchAttributes
  neighbors : ℕ → List ℕ
  edges : Sym2 ℕ → LinkAttributes
  /-- a type that is no key of the dictionary has the empty list -/
  switchTypewiseList : SwitchType → List ℕ
  linkidToSwitchpairMapping : ℕ → ℕ × ℕ
  linkIdToAffectedTors : ℕ → Finset ℕ
  linkIdToPodId : ℕ → ℕ
  /-- ToR → the paths to the core found when the topology was built -/
  pathsToCore : ℕ → List (List ℕ)
  numLinks : ℚ
  numTors : ℕ
  numPods : ℕ
  numLgEnabledLinks : ℕ

structure Topology where
  fabric : Fabric
  /-- attribute of a ToR: the aggs that it reaches over an enabled link -/
  aggSwitches : ℕ → List ℕ
  /-- attribute of an agg -/
  numActiveUplinks : ℕ → ℤ
  /-- attribute of a switch: pipe → number of ports running LinkGuardian -/
  lgPortsPerPipe : ℕ → ℕ → ℤ
  linkStates : Sym2 ℕ → LinkState
  disabledLinks : Finset ℕ
  corruptingLinks : Finset ℕ
  numPathsToCore : ℕ → ℤ
  perPodCapacity : ℕ → PodCapacityType → ℚ
  totalLossRate : ℚ
  totalEffectiveLossRate : ℚ
  topLossRatesHeap : Array ℚ
  topLgPortsPerPipeHeap : Array ℤ

def Fabric.empty (type : TopoType) : Fabric where
  type := type
  topoParams := {}
  globalSwitchId := 0
  globalLinkId := 0
  nodes := fun _ => {}
  neighbors := fun _ => []
  edges := fun _ => {}
  switchTypewiseList := fun _ => []
  linkidToSwitchpairMapping := fun _ => (0, 0)
  linkIdToAffectedTors := fun _ => ∅
  linkIdToPodId := fun _ => 0
  pathsToCore := fun _ => []
  numLinks := 0
  numTors := 0
  numPods := 0
  numLgEnabledLinks := 0

/-- `Topology.__init__` -/
def Topology.new (type : TopoType) : Topology where
  fabric := .empty type
  aggSwitches := fun _ => []
  numActiveUplinks := fun _ => 0
  lgPortsPerPipe := fun _ _ => 0
  linkStates := fun _ => {}
  disabledLinks := ∅
  corruptingLinks := ∅
  numPathsToCore := fun _ => 0
  perPodCapacity := fun _ _ => 0
  totalLossRate := 0
  totalEffectiveLossRate := 0
  topLossRatesHeap := #[initialLinkLossRate]
  topLgPortsPerPipeHeap := #[0]

/-! ## Switches and links of the fabric -/

namespace Fabric

variable (f : Fabric)

/-- The key of a link in the graph. -/
def edgeOf (linkId : ℕ) : Sym2 ℕ :=
  s((f.linkidToSwitchpairMapping linkId).1, (f.linkidToSwitchpairMapping linkId).2)

def getSwitchType (switchId : ℕ) : SwitchType := (f.nodes switchId).type

def getLinkType (linkId : ℕ) : LinkType := (f.edges (f.edgeOf linkId)).linkType

def getLinkCapacity (linkId : ℕ) : ℚ := (f.edges (f.edgeOf linkId)).capacity

def getLinkguardianCapable (linkId : ℕ) : Bool := (f.edges (f.edgeOf linkId)).lgCapable

/-- The ID of an existing link; the lookup of any other one raises. -/
def lookupLink (linkId : ℤ) : Option ℕ :=
  if 0 ≤ linkId ∧ linkId.toNat < f.globalLinkId then some linkId.toNat else none

/-- The first switch of a link that has the type. -/
def connectedSwitch (linkId : ℕ) (type : SwitchType) : Option ℕ :=
  if f.getSwitchType (f.linkidToSwitchpairMapping linkId).1 = type then
    some (f.linkidToSwitchpairMapping linkId).1
  else if f.getSwitchType (f.linkidToSwitchpairMapping linkId).2 = type then
    some (f.linkidToSwitchpairMapping linkId).2
  else none

def getConnectedSwitchesOfType (linkId : ℕ) (type1 type2 : SwitchType) : Option (ℕ × ℕ) := do
  let type1Sw ← f.connectedSwitch linkId type1
  let type2Sw ← f.connectedSwitch linkId type2
  return (type1Sw, type2Sw)

def getSwitchPairTypes (linkId : ℕ) : Finset SwitchType :=
  {f.getSwitchType (f.linkidToSwitchpairMapping linkId).1,
    f.getSwitchType (f.linkidToSwitchpairMapping linkId).2}

def getUpstreamSwitchIdAndType (linkId : ℕ) : ℕ × SwitchType :=
  let sw1 := (f.linkidToSwitchpairMapping linkId).1
  let sw2 := (f.linkidToSwitchpairMapping linkId).2
  if (f.getSwitchType sw1).value > (f.getSwitchType sw2).value then (sw1, f.getSwitchType sw1)
  else (sw2, f.getSwitchType sw2)

def getDownstreamSwitchIdAndType (linkId : ℕ) : ℕ × SwitchType :=
  let sw1 := (f.linkidToSwitchpairMapping linkId).1
  let sw2 := (f.linkidToSwitchpairMapping linkId).2
  if (f.getSwitchType sw1).value < (f.getSwitchType sw2).value then (sw1, f.getSwitchType sw1)
  else (sw2, f.getSwitchType sw2)

/-- The neighbours of a switch, of one type unless the type is `ALL`. -/
def getAdjacentSwitchIds (switchId : ℕ) (type : SwitchType) : Finset ℕ :=
  if type = .ALL then (f.neighbors switchId).toFinset
  else ((f.neighbors switchId).filter fun adj => f.getSwitchType adj = type).toFinset

/-- The pipe of a switch that serves a link; raises when the link is not one of the switch's. -/
def getPipeId (switchId linkId : ℕ) : Option ℕ :=
  if linkId ∈ (f.nodes switchId).linkIdList ∧ (f.nodes switchId).numPipes ≠ 0 then
    some ((f.nodes switchId).linkIdList.idxOf linkId % (f.nodes switchId).numPipes)
  else none

end Fabric

namespace Topology

variable (topo : Topology)

/-! ## Attributes of a link -/

def link (linkId : ℕ) : LinkState := topo.linkStates (topo.fabric.edgeOf linkId)

/-- Change the attributes of a link. -/
def setLink (linkId : ℕ) (g : LinkState → LinkState) : Topology :=
  { topo with
    linkStates := setEdge topo.linkStates (topo.fabric.edgeOf linkId) (g (topo.link linkId)) }

def isLinkDisabled (linkId : ℕ) : Bool := (topo.link linkId).disabled

def getLinkguardianEnabled (linkId : ℕ) : Bool := (topo.link linkId).lgEnabled

def getLinkLossRate (linkId : ℕ) : ℚ := (topo.link linkId).lossRate

def getLinkEffectiveLossRate (linkId : ℕ) : ℚ := (topo.link linkId).effectiveLossRate

def getEffectiveLinkCapacity (linkId : ℕ) : ℚ := (topo.link linkId).effectiveCapacity

/-! ## Heaps of maxima -/

/-- The heap without the old rate of a link that is already corrupting. -/
def heapWithoutOldLossRate (linkId : ℕ) : Option (Array ℚ) :=
  if linkId ∈ topo.corruptingLinks then
    (Heapq.remove topo.topLossRatesHeap (topo.getLinkLossRate linkId)).map (Heapq.heapify (· < ·))
  else some topo.topLossRatesHeap

def recordLinkTopLossRates (linkId : ℕ) (lossRate : ℚ) : Option Topology := do
  let heap ← topo.heapWithoutOldLossRate linkId
  return { topo with topLossRatesHeap := Heapq.heappush (· < ·) heap lossRate }

def removeFromTopLossRates (lossRate : ℚ) : Option Topology := do
  let heap ← Heapq.remove topo.topLossRatesHeap lossRate
  return { topo with topLossRatesHeap := Heapq.heapify (· < ·) heap }

def recordTopLgPortsPerPipe (lgPortsPerPipe : ℤ) : Topology :=
  { topo with topLgPortsPerPipeHeap :=
      Heapq.heappush (· < ·) topo.topLgPortsPerPipeHeap lgPortsPerPipe }

def removeTopLgPortsPerPipe (lgPortsPerPipe : ℤ) : Option Topology := do
  let heap ← Heapq.remove topo.topLgPortsPerPipeHeap lgPortsPerPipe
  return { topo with topLgPortsPerPipeHeap := Heapq.heapify (· < ·) heap }

/-- Only a count that is not zero is in the heap. -/
def removeNonzeroLgPortsPerPipe (lgPortsPerPipe : ℤ) : Option Topology :=
  if lgPortsPerPipe ≠ 0 then topo.removeTopLgPortsPerPipe lgPortsPerPipe else some topo

/-! ## Ports that run LinkGuardian -/

def setLgPorts (switchId pipeId : ℕ) (value : ℤ) : Topology :=
  { topo with
    lgPortsPerPipe := Function.update topo.lgPortsPerPipe switchId
      (Function.update (topo.lgPortsPerPipe switchId) pipeId value) }

def incrLgPortsPerPipe (switchId linkId : ℕ) : Option Topology := do
  let pipeId ← topo.fabric.getPipeId switchId linkId
  let currValue := topo.lgPortsPerPipe switchId pipeId
  let newValue := currValue + 1
  let topo := topo.setLgPorts switchId pipeId newValue
  let topo ← topo.removeNonzeroLgPortsPerPipe currValue
  return topo.recordTopLgPortsPerPipe newValue

def decrLgPortsPerPipe (switchId linkId : ℕ) : Option Topology := do
  let pipeId ← topo.fabric.getPipeId switchId linkId
  let currValue := topo.lgPortsPerPipe switchId pipeId
  let newValue := currValue - 1
  let topo := topo.setLgPorts switchId pipeId newValue
  guard (0 ≤ newValue)
  let topo ← topo.removeTopLgPortsPerPipe currValue
  return if newValue ≠ 0 then topo.recordTopLgPortsPerPipe newValue else topo

def setLinkguardianEnabled (linkId : ℕ) : Option Topology := do
  let alreadyEnabled := topo.getLinkguardianEnabled linkId
  let topo := topo.setLink linkId fun a => { a with lgEnabled := true }
  if alreadyEnabled then return topo
  else
    let topo ← topo.incrLgPortsPerPipe (topo.fabric.linkidToSwitchpairMapping linkId).1 linkId
    topo.incrLgPortsPerPipe (topo.fabric.linkidToSwitchpairMapping linkId).2 linkId

/-! ## Paths to the core -/

/-- The active uplinks of an agg. -/
def getNumActiveUplinks (aggId : ℕ) : Option ℤ := do
  guard (topo.fabric.getSwitchType aggId = .AGG)
  return topo.numActiveUplinks aggId

/-- The aggs that a ToR reaches over an enabled link. -/
def getConnectedAggSwitches (torId : ℕ) : Option (List ℕ) := do
  guard (topo.fabric.getSwitchType torId = .TOR)
  return topo.aggSwitches torId

/-- `list.remove` -/
def listRemove (xs : List ℕ) (x : ℕ) : Option (List ℕ) :=
  if x ∈ xs then some (xs.erase x) else none

/-- The number of paths of a ToR to the core over its aggs but `aggSwitchesToExclude`, where the
aggs in `aggSwitchesToUpdate` have the number of uplinks given there.  With these two arguments
CorrOpt asks what would be; the list that is shortened is a copy, and nothing of the topology
changes. -/
def getNumPathsToCore (torId : ℕ) (aggSwitchesToExclude : List ℕ)
    (aggSwitchesToUpdate : ℕ → Option ℤ) : Option ℤ := do
  let aggSwitchList ← topo.getConnectedAggSwitches torId
  let aggSwitchList ← aggSwitchesToExclude.foldlM listRemove aggSwitchList
  -- one entry an agg, as the keys of `agg_active_uplinks`
  let aggActiveUplinks ← aggSwitchList.dedup.mapM fun agg => do
    let uplinks ← topo.getNumActiveUplinks agg
    return (aggSwitchesToUpdate agg).getD uplinks
  return aggActiveUplinks.sum

/-- `get_num_paths_to_core` with its default arguments -/
def getCurrNumPathsToCore (torId : ℕ) : Option ℤ :=
  topo.getNumPathsToCore torId [] fun _ => none

/-- Recompute the number of paths of each ToR below the link. -/
def updateNumPathsToCore (linkId : ℕ) : Option Topology :=
  (setToList (topo.fabric.linkIdToAffectedTors linkId)).foldlM (fun topo affectedTor => do
    let numPathsToCore ← topo.getCurrNumPathsToCore affectedTor
    return { topo with
      numPathsToCore := Function.update topo.numPathsToCore affectedTor numPathsToCore }) topo

/-! ## Pod capacity -/

def addPodCapacity (linkId : ℕ) (capacity : ℚ) : Topology :=
  let podId := topo.fabric.linkIdToPodId linkId
  let podCapacityType := (topo.fabric.getLinkType linkId).podCapacityType
  { topo with
    perPodCapacity := Function.update topo.perPodCapacity podId
      (Function.update (topo.perPodCapacity podId) podCapacityType
        (topo.perPodCapacity podId podCapacityType + capacity)) }

def updatePodCapacityOnLinkStatusChange (linkId : ℕ) (linkEnabled : Bool) : Topology :=
  if linkEnabled then topo.addPodCapacity linkId (topo.getEffectiveLinkCapacity linkId)
  else topo.addPodCapacity linkId (-topo.getEffectiveLinkCapacity linkId)

def updateEffectiveLinkCapacity (linkId : ℕ) (newEffectiveCapacity : ℚ) : Topology :=
  let currEffectiveCapacity := topo.getEffectiveLinkCapacity linkId
  let topo := topo.setLink linkId fun a => { a with effectiveCapacity := newEffectiveCapacity }
  (topo.addPodCapacity linkId (-currEffectiveCapacity)).addPodCapacity linkId
    newEffectiveCapacity

/-! ## Disabling and enabling a link -/

def addAggSwitchToTor (torId aggId : ℕ) : Option Topology := do
  guard (topo.fabric.getSwitchType torId = .TOR)
  guard (topo.fabric.getSwitchType aggId = .AGG)
  return { topo with
    aggSwitches := Function.update topo.aggSwitches torId (topo.aggSwitches torId ++ [aggId]) }

def removeAggSwitchFromTor (torId aggId : ℕ) : Option Topology := do
  guard (topo.fabric.getSwitchType torId = .TOR)
  guard (topo.fabric.getSwitchType aggId = .AGG)
  let aggSwitches ← listRemove (topo.aggSwitches torId) aggId
  return { topo with aggSwitches := Function.update topo.aggSwitches torId aggSwitches }

def incrementNumActiveUplinks (aggId : ℕ) : Option Topology := do
  guard (topo.fabric.getSwitchType aggId = .AGG)
  return { topo with
    numActiveUplinks :=
      Function.update topo.numActiveUplinks aggId (topo.numActiveUplinks aggId + 1) }

def decrementNumActiveUplinks (aggId : ℕ) : Option Topology := do
  guard (topo.fabric.getSwitchType aggId = .AGG)
  return { topo with
    numActiveUplinks :=
      Function.update topo.numActiveUplinks aggId (topo.numActiveUplinks aggId - 1) }

/-- The block of `disable_link` that updates the attributes of the link's switches. -/
def detachSwitches (linkId : ℕ) : Option Topology := do
  if topo.fabric.getSwitchPairTypes linkId = {.TOR, .AGG} then
    let torSwitch ← topo.fabric.connectedSwitch linkId .TOR
    let aggSwitch ← topo.fabric.connectedSwitch linkId .AGG
    topo.removeAggSwitchFromTor torSwitch aggSwitch
  else if topo.fabric.getSwitchPairTypes linkId = {.AGG, .CORE} then
    let aggSwitch ← topo.fabric.connectedSwitch linkId .AGG
    topo.decrementNumActiveUplinks aggSwitch
  else return topo

/-- The block of `enable_link` that updates the attributes of the link's switches. -/
def attachSwitches (linkId : ℕ) : Option Topology := do
  if topo.fabric.getSwitchPairTypes linkId = {.TOR, .AGG} then
    let torSwitch ← topo.fabric.connectedSwitch linkId .TOR
    let aggSwitch ← topo.fabric.connectedSwitch linkId .AGG
    topo.addAggSwitchToTor torSwitch aggSwitch
  else if topo.fabric.getSwitchPairTypes linkId = {.AGG, .CORE} then
    let aggSwitch ← topo.fabric.connectedSwitch linkId .AGG
    topo.incrementNumActiveUplinks aggSwitch
  else return topo

/-- The block of `disable_link` that switches LinkGuardian off. -/
def disableLinkguardian (linkId : ℕ) : Option Topology := do
  if topo.getLinkguardianEnabled linkId then
    let topo ← topo.decrLgPortsPerPipe (topo.fabric.linkidToSwitchpairMapping linkId).1 linkId
    let topo ← topo.decrLgPortsPerPipe (topo.fabric.linkidToSwitchpairMapping linkId).2 linkId
    return topo.setLink linkId fun a => { a with lgEnabled := false }
  else return topo

def disableLink (linkId : ℕ) : Option Topology := do
  let lossRate := topo.getLinkLossRate linkId
  let topo := topo.setLink linkId fun a => { a with disabled := true }
  let topo := { topo with disabledLinks := insert linkId topo.disabledLinks }
  -- `set.remove`
  guard (linkId ∈ topo.corruptingLinks)
  let topo := { topo with corruptingLinks := topo.corruptingLinks.erase linkId }
  let topo ← topo.removeFromTopLossRates lossRate
  let topo := { topo with
    totalLossRate := topo.totalLossRate - lossRate
    totalEffectiveLossRate :=
      topo.totalEffectiveLossRate - topo.getLinkEffectiveLossRate linkId }
  let topo ← topo.detachSwitches linkId
  let topo ← topo.updateNumPathsToCore linkId
  (topo.updatePodCapacityOnLinkStatusChange linkId false).disableLinkguardian linkId

def resetLossRate (linkId : ℕ) : Topology :=
  topo.setLink linkId fun a => { a with
    lossRate := initialLinkLossRate, effectiveLossRate := initialLinkLossRate }

def resetEffectiveLinkCapacity (linkId : ℕ) : Topology :=
  topo.setLink linkId fun a => { a with
    effectiveCapacity := topo.fabric.getLinkCapacity linkId }

def enableLink (linkId : ℕ) : Option Topology := do
  let topo := (topo.resetLossRate linkId).resetEffectiveLinkCapacity linkId
  let topo := topo.setLink linkId fun a => { a with disabled := false }
  -- `set.remove`
  guard (linkId ∈ topo.disabledLinks)
  let topo := { topo with
    disabledLinks := topo.disabledLinks.erase linkId
    totalLossRate := topo.totalLossRate + initialLinkLossRate
    totalEffectiveLossRate := topo.totalEffectiveLossRate + initialLinkLossRate }
  let topo ← topo.attachSwitches linkId
  let topo ← topo.updateNumPathsToCore linkId
  return topo.updatePodCapacityOnLinkStatusChange linkId true

/-! ## Loss rates -/

def setLinkLossRate (linkId : ℕ) (lossRate : ℚ) : Option Topology := do
  guard (topo.isLinkDisabled linkId = false)
  let origLossRate := topo.getLinkLossRate linkId
  let topo := topo.setLink linkId fun a => { a with lossRate := lossRate }
  return { topo with totalLossRate := topo.totalLossRate - origLossRate + lossRate }

def setLinkEffectiveLossRate (linkId : ℕ) (lossRate : ℚ) : Option Topology := do
  guard (topo.isLinkDisabled linkId = false)
  let origEffectiveLossRate := topo.getLinkEffectiveLossRate linkId
  let topo := topo.setLink linkId fun a => { a with effectiveLossRate := lossRate }
  return { topo with
    totalEffectiveLossRate := topo.totalEffectiveLossRate - origEffectiveLossRate + lossRate }

end Topology

end LinkGuardian.Simulator
