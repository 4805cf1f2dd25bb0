import LinkGuardian.Simulator.EventQueue
import LinkGuardian.Simulator.Topology
import Mathlib.Algebra.BigOperators.Group.Finset.Defs
import Mathlib.Data.List.Sublists
import Mathlib.Data.Rat.Floor

/-!
# The solutions

What the simulator can do about a corrupting link: CorrOpt's fast checker and optimizer,
LinkGuardian, both together, and the two trivial solutions.

Python iterates over a set in an order that depends on the history of the set.  A `SetOrder`
lists the members of any set of link IDs, and the functions that iterate over sets take one for
each loop whose outcome may depend on the order.
-/

namespace LinkGuardian.Simulator

/-! ## Recovery -/

/-- The generator of the recovery delays: the numbers it will draw, and how many it has drawn.  A
run is then a function of its inputs, and two runs that draw alike can be compared. -/
structure RandGen where
  draws : ℕ → ℕ
  drawn : ℕ := 0

def RandGen.randint (gen : RandGen) : ℕ × RandGen :=
  (gen.draws gen.drawn, { gen with drawn := gen.drawn + 1 })

/-- 80 % of the links are repaired after two days, the others after four. -/
def getCorroptRecoveryEvent (gen : RandGen) (linkId : ℕ) (currTime : ℤ) : LinkEvent × RandGen :=
  let randVal := gen.randint.1
  let recoveryDelay : ℤ := if randVal ≤ 80 then 2 * 24 * 3600 else 4 * 24 * 3600
  (⟨currTime + recoveryDelay, .RecoveryEvent, linkId, initialLinkLossRate⟩, gen.randint.2)

/-! ## Sets of links -/

/-- An order in which to iterate over a set of link IDs.  A theorem that holds for every order holds
for whichever one Python takes. -/
structure SetOrder where
  toList : Finset ℕ → List ℕ
  nodup : ∀ s, (toList s).Nodup
  mem_toList : ∀ s a, a ∈ toList s ↔ a ∈ s

/-- The orders in which one call of the optimizer iterates over its sets: the links whose removal
it considers, the copy of the corrupting links, the corrupting links themselves, the candidates
among them, and the subset that it chooses. -/
structure SetOrders where
  linksToDisable : SetOrder
  copy : SetOrder
  corruptingLinks : SetOrder
  candidateSingleLinks : SetOrder
  leastSubset : SetOrder

/-- Increasing order. -/
def SetOrder.sorted : SetOrder where
  toList := setToList
  nodup := nodup_setToList
  mem_toList _ _ := mem_setToList

/-- `itertools.combinations`: the sublists of the length, in lexicographic order of position. -/
def combinations (xs : List ℕ) (length : ℕ) : List (List ℕ) := (xs.sublistsLen length).reverse

/-! ## Queue of candidate subsets -/

/-- Comparison of `(rate, set)` tuples: between equal rates, proper inclusion of the sets. -/
def candidateLt (a b : ℚ × Finset ℕ) : Bool :=
  if a.1 = b.1 then decide (a.2 ⊂ b.2) else decide (a.1 < b.1)

structure CandidateSubsetQueue where
  queue : Array (ℚ × Finset ℕ) := #[]

namespace CandidateSubsetQueue

variable (q : CandidateSubsetQueue)

def isNotEmpty : Bool := 0 < q.queue.size

def add (remainingLossRate : ℚ) (linkSubset : Finset ℕ) : CandidateSubsetQueue :=
  ⟨Heapq.heappush candidateLt q.queue (remainingLossRate, linkSubset)⟩

def getLeastLossrateSubset : Option (ℚ × Finset ℕ) :=
  (Heapq.heappop candidateLt q.queue).map Prod.fst

end CandidateSubsetQueue

/-! ## CorrOpt -/

structure CorrOptSolution where
  minActivePathsConstraint : ℤ

/-- What a set of links would change if it were disabled.  It is recorded beside the topology, link
by link, and is what the optimizer decides by before it disables anything. -/
structure WhatIf where
  aggSwitchesToUpdate : ℕ → Option ℤ := fun _ => none
  /-- a ToR that is no key of the dictionary has the empty list -/
  perTorAggSwitchesToExclude : ℕ → List ℕ := fun _ => []
  allAffectedTors : Finset ℕ := ∅

/-- What one more link of the set would take away from its switches. -/
def WhatIf.detach (topo : Topology) (w : WhatIf) (link : ℕ) : Option WhatIf :=
  match topo.fabric.getLinkType link with
  | .TOR_AGG => do
    let (torId, aggId) ← topo.fabric.getConnectedSwitchesOfType link .TOR .AGG
    return { w with
      perTorAggSwitchesToExclude := Function.update w.perTorAggSwitchesToExclude torId
        (w.perTorAggSwitchesToExclude torId ++ [aggId]) }
  | .AGG_CORE => do
    let (aggId, _) ← topo.fabric.getConnectedSwitchesOfType link .AGG .CORE
    -- an agg that lost an uplink to this set already is counted on from there
    let uplinks ← (w.aggSwitchesToUpdate aggId).elim (topo.getNumActiveUplinks aggId) some
    return { w with
      aggSwitchesToUpdate := Function.update w.aggSwitchesToUpdate aggId (some (uplinks - 1)) }

/-- One link more of the set. -/
def WhatIf.addLink (topo : Topology) (w : WhatIf) (link : ℕ) : Option WhatIf := do
  let w ← w.detach topo link
  return { w with
    allAffectedTors := w.allAffectedTors ∪ topo.fabric.linkIdToAffectedTors link }

/-- The search of the optimizer: the rejected sets, the candidates, and the single links among the
candidates.  The rejected sets are a cache; that it never hides a candidate is a theorem. -/
structure SubsetSearch where
  rejectCache : List (Finset ℕ) := []
  candidateSubsetQueue : CandidateSubsetQueue := {}
  candidateSingleLinks : Finset ℕ := ∅

/-- The topology while a solution acts on it, the generator, and the events requested so far. -/
structure Acting where
  topo : Topology
  gen : RandGen
  events : List LinkEvent := []

/-- Disable a link and schedule its recovery. -/
def Acting.disable (a : Acting) (time : ℤ) (linkId : ℕ) : Option Acting := do
  let topo ← a.topo.disableLink linkId
  let (recoveryEvent, gen) := getCorroptRecoveryEvent a.gen linkId time
  return { topo := topo, gen := gen, events := a.events ++ [recoveryEvent] }

namespace CorrOptSolution

/-- `CorrOptSolution.__init__` -/
def new (topo : Topology) (capacityConstraintPercent : ℚ) : Option CorrOptSolution := do
  let anyTorId ← (topo.fabric.switchTypewiseList .TOR)[0]?
  let initialPathsToCore ← topo.getCurrNumPathsToCore anyTorId
  return ⟨⌈initialPathsToCore * capacityConstraintPercent / 100⌉⟩

variable (sol : CorrOptSolution)

/-- The first of the affected ToRs that would not keep enough paths. -/
def violatingTor (topo : Topology) (linkId : ℕ) (aggExcludeList : List ℕ)
    (aggUplinkUpdateDict : ℕ → Option ℤ) : Option (Option ℕ) :=
  (setToList (topo.fabric.linkIdToAffectedTors linkId)).findM? fun affectedTor => do
    let pathsToCore ← topo.getNumPathsToCore affectedTor aggExcludeList aggUplinkUpdateDict
    return decide (pathsToCore < sol.minActivePathsConstraint)

/-- The log of a ToR divides by the number of its paths to the core. -/
def logTorCapacityConstraintsSummary (topo : Topology) (torId : ℕ) : Option Unit :=
  guard (topo.fabric.pathsToCore torId ≠ [])

/-- The first ToR, if any, that would not keep enough paths without the link. -/
def fastCheckViolation (topo : Topology) (linkId : ℕ) : Option (Option ℕ) :=
  let (swId, swType) := topo.fabric.getDownstreamSwitchIdAndType linkId
  match swType with
  | .AGG => do
    let currActiveUplinks ← topo.getNumActiveUplinks swId
    sol.violatingTor topo linkId []
      (Function.update (fun _ => none) swId (some (currActiveUplinks - 1)))
  | .TOR =>
    let (aggId, _) := topo.fabric.getUpstreamSwitchIdAndType linkId
    sol.violatingTor topo linkId [aggId] fun _ => none
  | _ => some none

def corroptFastChecker (topo : Topology) (gen : RandGen) (time : ℤ) (linkId : ℕ) :
    Option Acting := do
  match ← sol.fastCheckViolation topo linkId with
  | none => ({ topo := topo, gen := gen } : Acting).disable time linkId
  | some affectedTor =>
    logTorCapacityConstraintsSummary topo affectedTor
    return { topo := topo, gen := gen, events := [nopEvent] }

/-- The ToRs that would violate the constraint if the set of links were disabled. -/
def getTorsWithCapacityConstraintViolation (order : SetOrder) (topo : Topology)
    (linksToDisable : Finset ℕ) : Option (Finset ℕ) := do
  let w ← (order.toList linksToDisable).foldlM (WhatIf.addLink topo) {}
  (setToList w.allAffectedTors).foldlM (fun violation affectedTor => do
    let numPathsToCore ← topo.getNumPathsToCore affectedTor
      (w.perTorAggSwitchesToExclude affectedTor) w.aggSwitchesToUpdate
    return if numPathsToCore < sol.minActivePathsConstraint then insert affectedTor violation
      else violation) ∅

/-- Look at one subset, unless it contains a rejected one; is it a candidate? -/
def processCurrSubsetOfLinks (order : SetOrder) (topo : Topology) (search : SubsetSearch)
    (currSubset : Finset ℕ) : Option (Bool × SubsetSearch) := do
  -- a larger set than a rejected one takes away more paths
  if search.rejectCache.any (· ⊆ currSubset) then return (false, search)
  else
    let torsWithConstraintViolation ←
      sol.getTorsWithCapacityConstraintViolation order topo currSubset
    if torsWithConstraintViolation = ∅ then
      let lossRateReduction := ∑ link ∈ currSubset, topo.getLinkLossRate link
      let remainingLossRate := topo.totalLossRate - lossRateReduction
      return (true, { search with
        candidateSubsetQueue := search.candidateSubsetQueue.add remainingLossRate currSubset })
    else return (false, { search with rejectCache := search.rejectCache ++ [currSubset] })

def getAllCorruptingLinkSubsets (order : SetOrder) (linkTotalSet : Finset ℕ) :
    List (List (List ℕ)) :=
  (List.range' 2 (linkTotalSet.card - 1)).map fun length =>
    combinations (order.toList linkTotalSet) length

/-- Step 2: disable the corrupting links that are not upstream of a ToR in `violation`. -/
def disableNotUpstream (order : SetOrder) (violation : Finset ℕ) (time : ℤ) (a : Acting) :
    Option Acting :=
  (order.toList a.topo.corruptingLinks).foldlM (fun a linkId =>
    if violation ∩ a.topo.fabric.linkIdToAffectedTors linkId = ∅ then a.disable time linkId
    else some a) a

/-- The first pass of step 3, over the single links. -/
def searchSingleLinks (orders : SetOrders) (topo : Topology) : Option SubsetSearch :=
  (orders.corruptingLinks.toList topo.corruptingLinks).foldlM (fun search link => do
    let (isCandidate, search) ←
      sol.processCurrSubsetOfLinks orders.linksToDisable topo search {link}
    return if isCandidate then
        { search with candidateSingleLinks := insert link search.candidateSingleLinks }
      else search) {}

/-- The second pass of step 3, over the larger sets of candidate single links. -/
def searchCombinations (orders : SetOrders) (topo : Topology) (search : SubsetSearch) :
    Option SubsetSearch :=
  (getAllCorruptingLinkSubsets orders.candidateSingleLinks
    search.candidateSingleLinks).flatten.foldlM (fun search currCombination => do
      let (_, search) ← sol.processCurrSubsetOfLinks orders.linksToDisable topo search
        currCombination.toFinset
      return search) search

/-- Both passes; the second is skipped when no single link is a candidate. -/
def searchSubsets (orders : SetOrders) (topo : Topology) : Option SubsetSearch := do
  let search ← sol.searchSingleLinks orders topo
  if search.candidateSubsetQueue.isNotEmpty then sol.searchCombinations orders topo search
  else return search

/-- Step 3: disable the candidate subset that leaves the least loss rate. -/
def disableBestSubset (orders : SetOrders) (time : ℤ) (a : Acting) : Option Acting := do
  let search ← sol.searchSubsets orders a.topo
  if search.candidateSubsetQueue.isNotEmpty then
    let (_, leastSubset) ← search.candidateSubsetQueue.getLeastLossrateSubset
    (orders.leastSubset.toList leastSubset).foldlM (fun a link => a.disable time link) a
  else return a

def corroptOptimizer (orders : SetOrders) (topo : Topology) (gen : RandGen) (time : ℤ) :
    Option Acting := do
  if topo.corruptingLinks = ∅ then return { topo := topo, gen := gen }
  else
    let torsWithConstraintViolation ←
      sol.getTorsWithCapacityConstraintViolation orders.linksToDisable topo topo.corruptingLinks
    let a ← disableNotUpstream orders.copy torsWithConstraintViolation time
      { topo := topo, gen := gen }
    if a.topo.corruptingLinks = ∅ then return a
    else sol.disableBestSubset orders time a

end CorrOptSolution

/-! ## LinkGuardian -/

structure LinkGuardianSolution where
  /-- tested loss rate, effective loss rate and effective capacity, in the order of the table -/
  lossRateToPerf : List (ℚ × ℚ × ℚ)

namespace LinkGuardianSolution

variable (sol : LinkGuardianSolution)

/-- `sys.maxsize`, larger than any distance between loss rates -/
def maxsize : ℚ := 2 ^ 63 - 1

/-- The effective loss rate and capacity at the first of the closest tested loss rates. -/
def getEffectiveLossRateCapacity (currLossRate : ℚ) : Option (ℚ × ℚ) :=
  (sol.lossRateToPerf.foldl (fun (minDistance, closest) entry =>
    -- strictly closer only, so that of two equally close the first is taken
    if |currLossRate - entry.1| < minDistance then (|currLossRate - entry.1|, some entry.2)
    else (minDistance, closest)) (maxsize, none)).2

/-- Activate LinkGuardian on a link that is capable of it. -/
def processFailureEvent (topo : Topology) (linkId : ℕ) (lossRate : ℚ) : Option Topology := do
  if topo.fabric.getLinkguardianCapable linkId then
    let (effectiveLossRate, effectiveCapacity) ← sol.getEffectiveLossRateCapacity lossRate
    let topo ← topo.setLinkguardianEnabled linkId
    (topo.updateEffectiveLinkCapacity linkId effectiveCapacity).setLinkEffectiveLossRate linkId
      effectiveLossRate
  else return topo

end LinkGuardianSolution

/-! ## All solutions -/

inductive Solution
  | doNothing
  | disableAndRepair
  | corrOpt (corropt : CorrOptSolution)
  | linkGuardian (linkguardian : LinkGuardianSolution)
  | lgCorrOpt (linkguardian : LinkGuardianSolution) (corropt : CorrOptSolution)

namespace Solution

def processFailureEvent (topo : Topology) (gen : RandGen) (time : ℤ) (linkId : ℕ)
    (lossRate : ℚ) : Solution → Option Acting
  | doNothing => some { topo := topo, gen := gen, events := [nopEvent] }
  | disableAndRepair => do
    let topo ← topo.disableLink linkId
    return { topo := topo, gen := gen
             events := [⟨time + 4 * 24 * 3600, .RecoveryEvent, linkId, 0⟩] }
  | corrOpt corropt => corropt.corroptFastChecker topo gen time linkId
  | linkGuardian linkguardian => do
    let topo ← linkguardian.processFailureEvent topo linkId lossRate
    return { topo := topo, gen := gen, events := [nopEvent] }
  | lgCorrOpt linkguardian corropt => do
    let topo ← linkguardian.processFailureEvent topo linkId lossRate
    corropt.corroptFastChecker topo gen time linkId

def postRecoveryEventCb (orders : SetOrders) (topo : Topology) (gen : RandGen) (time : ℤ) :
    Solution → Option Acting
  | doNothing => some { topo := topo, gen := gen, events := [nopEvent] }
  | disableAndRepair => some { topo := topo, gen := gen, events := [nopEvent] }
  | corrOpt corropt => corropt.corroptOptimizer orders topo gen time
  | linkGuardian _ => some { topo := topo, gen := gen, events := [nopEvent] }
  | lgCorrOpt _ corropt => corropt.corroptOptimizer orders topo gen time

end Solution

end LinkGuardian.Simulator
