import LinkGuardian.Simulator.Topology
import Mathlib.Algebra.Order.Ring.Rat

/-!
# Metrics and their dump

What the simulator measures after every event, and the file that it writes.  A `DataDumper`
keeps the rows of the file; a row is a time with the metrics at that time.
-/

namespace LinkGuardian.Simulator

/-! ## Metrics -/

namespace Topology

variable (topo : Topology)

/-- `num_paths_to_core.values()` -/
def pathsOfTors : List ℤ := (topo.fabric.switchTypewiseList .TOR).map topo.numPathsToCore

def getMinNumPathsToCore : Option ℤ := topo.pathsOfTors.min?

def getAvgNumPathsToCore : Option ℚ := do
  guard (topo.fabric.numTors ≠ 0)
  return topo.pathsOfTors.sum / topo.fabric.numTors

/-- The smaller of the two capacities of each pod. -/
def podCapacities : List ℚ := (List.range topo.fabric.numPods).map fun pod =>
  min (topo.perPodCapacity pod .torToAgg) (topo.perPodCapacity pod .aggToCore)

def getMinPerPodCapacityToCore : Option ℚ := topo.podCapacities.min?

def getAvgPerPodCapacityToCore : Option ℚ := do
  guard (topo.fabric.numPods ≠ 0)
  return topo.podCapacities.sum / topo.fabric.numPods

/-- `heapq.nlargest(1, heap)[0]` -/
def getMaxLinkLossRate : Option ℚ := topo.topLossRatesHeap.toList.max?

def getMaxLgPortsPerPipe : Option ℤ := topo.topLgPortsPerPipeHeap.toList.max?

end Topology

/-- A row of the data file without its time.  The averages are exact quotients. -/
structure Metrics where
  totalPenalty : ℚ
  totalEffectivePenalty : ℚ
  avgPerTorPaths : ℚ
  minPerTorPaths : ℤ
  avgPerPodCapacity : ℚ
  minPerPodCapacity : ℚ
  maxLinkLossRate : ℚ
  currDisabledLinks : ℕ
  currCorruptingLinks : ℕ
  maxLgPortsPerPipe : ℤ
deriving DecidableEq

def Topology.getCurrentMetrics (topo : Topology) : Option Metrics := do
  let avgPerTorPaths ← topo.getAvgNumPathsToCore
  let minPerTorPaths ← topo.getMinNumPathsToCore
  let avgPerPodCapacity ← topo.getAvgPerPodCapacityToCore
  let minPerPodCapacity ← topo.getMinPerPodCapacityToCore
  let maxLinkLossRate ← topo.getMaxLinkLossRate
  let maxLgPortsPerPipe ← topo.getMaxLgPortsPerPipe
  return { totalPenalty := topo.totalLossRate
           totalEffectivePenalty := topo.totalEffectiveLossRate
           avgPerTorPaths := avgPerTorPaths
           minPerTorPaths := minPerTorPaths
           avgPerPodCapacity := avgPerPodCapacity
           minPerPodCapacity := minPerPodCapacity
           maxLinkLossRate := maxLinkLossRate
           currDisabledLinks := topo.disabledLinks.card
           currCorruptingLinks := topo.corruptingLinks.card
           maxLgPortsPerPipe := maxLgPortsPerPipe }

/-! ## The data file -/

def dataDumperStartEndOffset : ℤ := 4 * 24 * 3600

structure DataDumper (M : Type) where
  prevRow : Option (ℤ × M) := none
  /-- the rows of the file -/
  rows : List (ℤ × M) := []

namespace DataDumper

variable {M : Type} (d : DataDumper M)

/-- Write a row, after repeating the previous metrics at its time; a second row with the time of
the previous one raises. -/
def dump (time : ℤ) (row : M) : Option (DataDumper M) :=
  match d.prevRow with
  | none => some { prevRow := some (time, row), rows := d.rows ++ [(time, row)] }
  | some prev => do
    guard (prev.1 ≠ time)
    return { prevRow := some (time, row), rows := d.rows ++ [(time, prev.2), (time, row)] }

/-- Repeat the last metrics four days later. -/
def dumpLastRow : Option (DataDumper M) := do
  let prev ← d.prevRow
  return { d with rows := d.rows ++ [(prev.1 + dataDumperStartEndOffset, prev.2)] }

end DataDumper

end LinkGuardian.Simulator
