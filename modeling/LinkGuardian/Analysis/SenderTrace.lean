import Mathlib.Algebra.Order.Floor.Ring
import Mathlib.Data.Rat.Floor
import Mathlib.Logic.Function.Basic

/-!
# The sender's trace

`process_sender_trace.py` follows each flow of an experiment through the packets that the sender
saw, and writes a row for it once all its bytes have been acknowledged.  Here are the flows that it
tracks and what it does at an ACK of the receiver; a key or a list that is missing raises.
-/

namespace LinkGuardian.Analysis

structure Flow where
  bytesSent : ℤ := 0
  bytesAcked : ℤ := 0
  senderFinSent : Bool := false
  firstDataPktTs : ℚ := -1
  firstAckPktTs : ℚ := -1
  lastDataPktTs : ℚ := -1
  lastAckPktTs : ℚ := -1
  affected : ℕ := 0
  tailPktLoss : ℕ := 0
  receivedSACK : ℕ := 0
  reTx : ℕ := 0
  maxBif : ℤ := -1
deriving DecidableEq

/-- The flows by their source port. -/
abbrev CurrTrackedFlows := ℤ → Option Flow

/-- The command line. -/
structure Args where
  flowSizeBytes : ℚ
  evaluation : Bool
  mtu : ℤ

namespace Args

variable (args : Args)

def mssBytes : ℤ := args.mtu - 40

def seqLastPkt : ℤ := ⌊args.flowSizeBytes / args.mssBytes⌋ * args.mssBytes + 1

/-- The sequence numbers of the last three packets. -/
def tailPktSeqNos : List ℤ :=
  [args.seqLastPkt, args.seqLastPkt - args.mssBytes, args.seqLastPkt - 2 * args.mssBytes]

end Args

/-! ## Updates of a flow -/

/-- `curr_tracked_flows[flow_id][...] = ...` -/
def CurrTrackedFlows.modify (flows : CurrTrackedFlows) (flowId : ℤ) (f : Flow → Flow) :
    Option CurrTrackedFlows :=
  (flows flowId).map fun flow => Function.update flows flowId (some (f flow))

def Flow.updateMaxBif (flow : Flow) : Flow :=
  if flow.bytesSent - flow.bytesAcked > flow.maxBif then
    { flow with maxBif := flow.bytesSent - flow.bytesAcked }
  else flow

def updateMaxBif (flows : CurrTrackedFlows) (flowId : ℤ) : Option CurrTrackedFlows :=
  flows.modify flowId Flow.updateMaxBif

def updateBytesAcked (flows : CurrTrackedFlows) (flowId tcpAckNo : ℤ) :
    Option CurrTrackedFlows := do
  let flows ← flows.modify flowId fun flow => { flow with bytesAcked := tcpAckNo - 1 }
  updateMaxBif flows flowId

/-- The overlap of a range with the next one, if any, comes off. -/
def subtractOverlap (sackedBytes : ℤ) (ranges : (ℤ × ℤ) × (ℤ × ℤ)) : ℤ :=
  let prevRangeMax := max ranges.1.1 ranges.1.2
  let nextRangeMin := min ranges.2.1 ranges.2.2
  if prevRangeMax > nextRangeMin then sackedBytes - (prevRangeMax - nextRangeMin) else sackedBytes

/-- `max` raises on an empty list. -/
def computeSackedBytes (tcpAckNo : ℤ) (tcpSackLe tcpSackRe : List ℤ) : Option ℤ := do
  let maxSackRe ← tcpSackRe.max?
  if tcpAckNo ≥ maxSackRe then
    return 0
  let sackRanges := tcpSackLe.zip tcpSackRe
  let sackedBytes := sackRanges.foldl (fun sackedBytes r => sackedBytes + (r.2 - r.1)) 0
  if sackRanges.length > 1 then
    let sackRanges := sackRanges.reverse
    return (sackRanges.zip sackRanges.tail).foldl subtractOverlap sackedBytes
  return sackedBytes

def updateBytesAckedSack (flows : CurrTrackedFlows) (flowId tcpAckNo : ℤ)
    (tcpSackLe tcpSackRe : List ℤ) : Option CurrTrackedFlows := do
  let sackedBytes ← computeSackedBytes tcpAckNo tcpSackLe tcpSackRe
  let flows ← flows.modify flowId fun flow => { flow with bytesAcked := tcpAckNo - 1 + sackedBytes }
  updateMaxBif flows flowId

/-! ## An ACK of the receiver -/

def Flow.recordFirstAck (pktTime : ℚ) (flow : Flow) : Flow :=
  if flow.firstAckPktTs = -1 then { flow with firstAckPktTs := pktTime } else flow

/-- The time of the first ACK for the whole flow. -/
def Flow.recordLastAck (args : Args) (pktTime : ℚ) (flow : Flow) : Flow :=
  if flow.bytesAcked ≥ args.flowSizeBytes ∧ flow.lastAckPktTs = -1 then
    { flow with lastAckPktTs := pktTime }
  else flow

/-- A SACK for one of the last three packets. -/
def Flow.recordTailLoss (args : Args) (tcpHdrLen tcpAckNo : ℤ) (flow : Flow) : Flow :=
  if tcpHdrLen ≥ 32 ∧ tcpAckNo ∈ args.tailPktSeqNos then { flow with tailPktLoss := 1 } else flow

def Flow.isComplete (flow : Flow) : Bool :=
  flow.senderFinSent && decide (flow.bytesAcked ≥ flow.bytesSent)

def isFlowComplete (flows : CurrTrackedFlows) (flowId : ℤ) : Option Bool :=
  (flows flowId).map Flow.isComplete

/-- A row of the output: the columns of the flow, with the final verdict on `affected`. -/
structure OutputRow where
  flowId : ℤ
  flow : Flow
  affected : ℕ
  maxPif : ℤ
  consecutiveLoss : ℕ

structure Trace where
  currTrackedFlows : CurrTrackedFlows
  affectedFlows : List ℤ
  affectedFlowsConsecutiveLoss : List ℤ
  out : List OutputRow

/-- `affected` of a flow, and whether the flow leaves `affected_flows`: 2 for a flow that is
affected at random. -/
def Trace.verdict (t : Trace) (args : Args) (flowId : ℤ) (flow : Flow) : ℕ × Bool :=
  if flow.affected = 1 ∧ 0 < t.affectedFlows.length then
    if flowId ∈ t.affectedFlows then (flow.affected, true) else (2, false)
  else if flow.affected = 0 ∧ args.evaluation then
    if flowId ∈ t.affectedFlows then (1, true) else (flow.affected, false)
  else (flow.affected, false)

def flushFlowToOutputFile (args : Args) (t : Trace) (flowId : ℤ) : Option Trace := do
  let flow ← t.currTrackedFlows flowId
  let (affected, removed) := t.verdict args flowId flow
  return { t with
    currTrackedFlows := Function.update t.currTrackedFlows flowId none
    affectedFlows := if removed then t.affectedFlows.erase flowId else t.affectedFlows
    out := t.out ++ [{
      flowId := flowId
      flow := flow
      affected := affected
      maxPif := ⌈(flow.maxBif / args.mssBytes : ℚ)⌉
      consecutiveLoss :=
        if affected = 1 ∧ flowId ∈ t.affectedFlowsConsecutiveLoss then 1 else 0 }] }

/-- An ACK without payload, SYN or FIN.  The lists are those of the last row that had both; a
header of 32 bytes is taken for a SACK. -/
def processAck (args : Args) (t : Trace) (flowId : ℤ) (pktTime : ℚ) (tcpHdrLen tcpAckNo : ℤ)
    (tcpSack : Option (List ℤ × List ℤ)) : Option Trace :=
  if t.currTrackedFlows flowId = none then some t else do
    let flows ← t.currTrackedFlows.modify flowId (Flow.recordFirstAck pktTime)
    let flows ←
      if tcpHdrLen ≥ 32 then do
        let flows ← flows.modify flowId fun flow => { flow with receivedSACK := 1 }
        let (tcpSackLe, tcpSackRe) ← tcpSack
        updateBytesAckedSack flows flowId tcpAckNo tcpSackLe tcpSackRe
      else updateBytesAcked flows flowId tcpAckNo
    let flows ← flows.modify flowId (Flow.recordLastAck args pktTime)
    let flows ← flows.modify flowId (Flow.recordTailLoss args tcpHdrLen tcpAckNo)
    let t := { t with currTrackedFlows := flows }
    if (← isFlowComplete flows flowId) then flushFlowToOutputFile args t flowId else return t

/-! ## What the updates change -/

variable {flows : CurrTrackedFlows} {flowId : ℤ} {flow : Flow}

lemma modify_eq (h : flows flowId = some flow) (f : Flow → Flow) :
    flows.modify flowId f = some (Function.update flows flowId (some (f flow))) := by
  rw [CurrTrackedFlows.modify, h, Option.map_some]

@[simp] lemma modify_update (flows : CurrTrackedFlows) (flowId : ℤ) (flow : Flow)
    (f : Flow → Flow) :
    CurrTrackedFlows.modify (Function.update flows flowId (some flow)) flowId f =
      some (Function.update flows flowId (some (f flow))) := by
  rw [modify_eq (Function.update_self ..), Function.update_idem]

@[simp] lemma Flow.updateMaxBif_bytesAcked (flow : Flow) :
    flow.updateMaxBif.bytesAcked = flow.bytesAcked := by
  simp only [updateMaxBif]
  split_ifs <;> rfl

lemma updateBytesAckedSack_eq (h : flows flowId = some flow) {tcpAckNo sackedBytes : ℤ}
    {tcpSackLe tcpSackRe : List ℤ}
    (hsacked : computeSackedBytes tcpAckNo tcpSackLe tcpSackRe = some sackedBytes) :
    updateBytesAckedSack flows flowId tcpAckNo tcpSackLe tcpSackRe = some (Function.update flows
      flowId (some { flow with bytesAcked := tcpAckNo - 1 + sackedBytes }.updateMaxBif)) := by
  simp only [updateBytesAckedSack, hsacked, modify_eq h, updateMaxBif, modify_update,
    Option.bind_eq_bind, Option.bind_some]

/-! Whether a flow is complete depends on its bytes and its FIN only. -/

@[simp] lemma Flow.isComplete_updateMaxBif (flow : Flow) :
    flow.updateMaxBif.isComplete = flow.isComplete := by
  simp only [updateMaxBif]
  split_ifs <;> rfl

@[simp] lemma Flow.isComplete_recordLastAck (args : Args) (pktTime : ℚ) (flow : Flow) :
    (flow.recordLastAck args pktTime).isComplete = flow.isComplete := by
  simp only [recordLastAck]
  split_ifs <;> rfl

@[simp] lemma Flow.isComplete_recordTailLoss (args : Args) (tcpHdrLen tcpAckNo : ℤ)
    (flow : Flow) : (flow.recordTailLoss args tcpHdrLen tcpAckNo).isComplete = flow.isComplete := by
  simp only [recordTailLoss]
  split_ifs <;> rfl

lemma Flow.isComplete_recordFirstAck (pktTime : ℚ) (flow : Flow) (bytesAcked : ℤ)
    (receivedSACK : ℕ) :
    { flow.recordFirstAck pktTime with
      receivedSACK := receivedSACK, bytesAcked := bytesAcked }.isComplete =
      (flow.senderFinSent && decide (bytesAcked ≥ flow.bytesSent)) := by
  simp only [recordFirstAck]
  split_ifs <;> rfl

@[simp] lemma isFlowComplete_update (flows : CurrTrackedFlows) (flowId : ℤ) (flow : Flow) :
    isFlowComplete (Function.update flows flowId (some flow)) flowId = some flow.isComplete := by
  rw [isFlowComplete, Function.update_self, Option.map_some]

lemma exists_flushFlowToOutputFile (args : Args) {t : Trace}
    (h : t.currTrackedFlows flowId = some flow) :
    ∃ t', flushFlowToOutputFile args t flowId = some t' ∧
      t'.currTrackedFlows = Function.update t.currTrackedFlows flowId none := by
  rw [flushFlowToOutputFile, h]
  exact ⟨_, rfl, rfl⟩

/-- **Completion.**  A SACK ends a flow when the FIN was sent and the count has reached what was
sent. -/
lemma processAck_sack (args : Args) {t : Trace} (h : t.currTrackedFlows flowId = some flow)
    (pktTime : ℚ) {tcpHdrLen tcpAckNo sackedBytes : ℤ} {tcpSackLe tcpSackRe : List ℤ}
    (hlen : tcpHdrLen ≥ 32)
    (hsacked : computeSackedBytes tcpAckNo tcpSackLe tcpSackRe = some sackedBytes) :
    ∃ t', processAck args t flowId pktTime tcpHdrLen tcpAckNo (some (tcpSackLe, tcpSackRe)) =
        some t' ∧
      (t'.currTrackedFlows flowId = none ↔
        flow.senderFinSent = true ∧ flow.bytesSent ≤ tcpAckNo - 1 + sackedBytes) := by
  have hsack : ∀ flow' : Flow, updateBytesAckedSack
      (Function.update t.currTrackedFlows flowId (some flow')) flowId tcpAckNo tcpSackLe tcpSackRe =
      some (Function.update t.currTrackedFlows flowId
        (some { flow' with bytesAcked := tcpAckNo - 1 + sackedBytes }.updateMaxBif)) := by
    intro flow'
    rw [updateBytesAckedSack_eq (Function.update_self ..) hsacked, Function.update_idem]
  have hne : ¬ t.currTrackedFlows flowId = none := by simp [h]
  simp only [processAck, if_neg hne, if_pos hlen, modify_eq h, modify_update, hsack,
    isFlowComplete_update, Flow.isComplete_recordTailLoss,
    Flow.isComplete_recordLastAck, Flow.isComplete_updateMaxBif, Flow.isComplete_recordFirstAck,
    Option.bind_eq_bind, Option.bind_some]
  -- only the count of this ACK and the FIN decide; the other updates leave both alone
  by_cases hdone : flow.senderFinSent = true ∧ flow.bytesSent ≤ tcpAckNo - 1 + sackedBytes
  · rw [if_pos (by simpa using hdone)]
    obtain ⟨t', hflush, hgone⟩ := exists_flushFlowToOutputFile args (t := { t with
      currTrackedFlows := Function.update t.currTrackedFlows flowId _ }) (Function.update_self ..)
    exact ⟨t', hflush, iff_of_true (by rw [hgone, Function.update_self]) hdone⟩
  · rw [if_neg (by simpa using hdone)]
    exact ⟨_, rfl, iff_of_false (by simp) hdone⟩

end LinkGuardian.Analysis
