import LinkGuardian.Analysis.SenderTrace

/-!
# The rows of the sender's trace

The loop of `process_sender_trace.py`: a row is a packet of the sender or of the receiver, and
belongs to the flow of the sender's port.  `Track` is one flow by itself; a row changes the track of
its own flow only, as long as every ACK with a long header has SACK edges (`CarriesSack`): the edges
of a row without any are those of an earlier row, of whatever flow.
-/

namespace LinkGuardian.Analysis

def senderIp : String := "10.2.2.1"

def receiverIp : String := "10.2.2.2"

/-- A parsed packet.  An empty SACK column is a list without edges. -/
structure Pkt where
  pktTime : ℚ
  ipDst : String
  srcPort : ℤ
  dstPort : ℤ
  tcpHdrLen : ℤ
  tcpPayloadLen : ℤ
  tcpSeqNo : ℤ
  tcpAckNo : ℤ
  tcpFlagAck : ℤ
  tcpFlagSyn : ℤ
  tcpFlagFin : ℤ
  tcpSackLe : List ℤ := []
  tcpSackRe : List ℤ := []

/-- What the branches tell apart; nothing is done at a packet of another kind. -/
inductive Kind
  | syn
  | finAck
  | data
  | ack
  | receiverFinAck
  | other
deriving DecidableEq

namespace Pkt

variable (row : Pkt)

def kind : Kind :=
  if row.ipDst = receiverIp then
    if row.tcpFlagSyn = 1 ∧ row.tcpPayloadLen = 0 then .syn
    -- handshake and teardown ACKs
    else if row.tcpFlagAck = 1 ∧ row.tcpFlagFin = 0 ∧ row.tcpPayloadLen = 0 then .other
    else if row.tcpFlagAck = 1 ∧ row.tcpFlagFin = 1 then .finAck
    else if row.tcpFlagAck = 1 ∧ row.tcpFlagFin = 0 ∧ row.tcpFlagSyn = 0 ∧
        row.tcpPayloadLen > 0 then .data
    else .other
  else if row.ipDst = senderIp then
    if row.tcpFlagSyn = 1 ∧ row.tcpFlagAck = 1 ∧ row.tcpPayloadLen = 0 then .other
    else if row.tcpFlagAck = 1 ∧ row.tcpFlagSyn = 0 ∧ row.tcpFlagFin = 0 ∧
        row.tcpPayloadLen = 0 then .ack
    else if row.tcpFlagAck = 1 ∧ row.tcpFlagSyn = 0 ∧ row.tcpFlagFin = 1 ∧
        row.tcpPayloadLen = 0 then .receiverFinAck
    else .other
  else .other

/-- The sender's port. -/
def flowId : ℤ := if row.ipDst = receiverIp then row.srcPort else row.dstPort

end Pkt

/-! ## Packets of the sender -/

def updateBytesSent (flows : CurrTrackedFlows) (flowId tcpPayloadLen : ℤ) :
    Option CurrTrackedFlows := do
  let flows ← flows.modify flowId fun flow =>
    { flow with bytesSent := flow.bytesSent + tcpPayloadLen }
  updateMaxBif flows flowId

/-- Payload is a retransmission when it ends within what was sent. -/
def processPayload (flows : CurrTrackedFlows) (flowId : ℤ) (pktTime : ℚ)
    (tcpSeqNo tcpPayloadLen : ℤ) : Option CurrTrackedFlows := do
  let flow ← flows flowId
  let flows ←
    if tcpSeqNo + tcpPayloadLen - 1 ≤ flow.bytesSent then
      flows.modify flowId fun flow => { flow with affected := 1, reTx := 1 }
    else updateBytesSent flows flowId tcpPayloadLen
  flows.modify flowId fun flow => { flow with lastDataPktTs := pktTime }

/-- A flow starts; a second SYN of one that is tracked changes nothing. -/
def processSyn (t : Trace) (flowId : ℤ) : Trace :=
  if t.currTrackedFlows flowId = none then
    { t with currTrackedFlows := Function.update t.currTrackedFlows flowId (some {}) }
  else t

def processFinAck (args : Args) (t : Trace) (flowId : ℤ) (pktTime : ℚ)
    (tcpSeqNo tcpPayloadLen : ℤ) : Option Trace :=
  if t.currTrackedFlows flowId = none then some t else do
    let flows ← t.currTrackedFlows.modify flowId fun flow => { flow with senderFinSent := true }
    if tcpPayloadLen > 0 then
      let flows ← processPayload flows flowId pktTime tcpSeqNo tcpPayloadLen
      return { t with currTrackedFlows := flows }
    else
      let t := { t with currTrackedFlows := flows }
      if (← isFlowComplete flows flowId) then flushFlowToOutputFile args t flowId else return t

def Flow.recordFirstData (pktTime : ℚ) (flow : Flow) : Flow :=
  if flow.firstDataPktTs = -1 then { flow with firstDataPktTs := pktTime } else flow

def processData (t : Trace) (flowId : ℤ) (pktTime : ℚ) (tcpSeqNo tcpPayloadLen : ℤ) :
    Option Trace :=
  if t.currTrackedFlows flowId = none then some t else do
    let flows ← t.currTrackedFlows.modify flowId (Flow.recordFirstData pktTime)
    let flows ← processPayload flows flowId pktTime tcpSeqNo tcpPayloadLen
    return { t with currTrackedFlows := flows }

/-! ## The FIN of the receiver -/

/-- It acknowledges the last packet of a flow that is still tracked. -/
def processReceiverFinAck (args : Args) (t : Trace) (flowId : ℤ) (pktTime : ℚ) (tcpAckNo : ℤ) :
    Option Trace :=
  if t.currTrackedFlows flowId = none then some t else do
    let flows ← updateBytesAcked t.currTrackedFlows flowId tcpAckNo
    let flows ← flows.modify flowId fun flow => { flow with lastAckPktTs := pktTime }
    let t := { t with currTrackedFlows := flows }
    if (← isFlowComplete flows flowId) then flushFlowToOutputFile args t flowId else return t

/-! ## The loop -/

/-- What the loop keeps; the SACK edges are those of the last row that had both. -/
structure Processing where
  trace : Trace
  tcpSack : Option (List ℤ × List ℤ) := none

def processRow (args : Args) (p : Processing) (row : Pkt) : Option Processing := do
  let tcpSack :=
    if row.tcpSackLe ≠ [] ∧ row.tcpSackRe ≠ [] then some (row.tcpSackLe, row.tcpSackRe)
    else p.tcpSack
  let trace ← match row.kind with
    | .syn => some (processSyn p.trace row.flowId)
    | .finAck =>
      processFinAck args p.trace row.flowId row.pktTime row.tcpSeqNo row.tcpPayloadLen
    | .data => processData p.trace row.flowId row.pktTime row.tcpSeqNo row.tcpPayloadLen
    | .ack =>
      processAck args p.trace row.flowId row.pktTime row.tcpHdrLen row.tcpAckNo tcpSack
    | .receiverFinAck => processReceiverFinAck args p.trace row.flowId row.pktTime row.tcpAckNo
    | .other => some p.trace
  return ⟨trace, tcpSack⟩

/-- The rows after the header. -/
def processRows (args : Args) (p : Processing) (rows : List Pkt) : Option Processing :=
  rows.foldlM (processRow args) p

/-- A long header comes with SACK edges. -/
def Pkt.CarriesSack (row : Pkt) : Prop :=
  row.kind = .ack → row.tcpHdrLen ≥ 32 → row.tcpSackLe ≠ [] ∧ row.tcpSackRe ≠ []

instance (row : Pkt) : Decidable row.CarriesSack :=
  inferInstanceAs (Decidable (_ → _ → _))

/-! ## A flow by itself -/

/-- The bytes that the SACK edges of the packet add; zero for edges that do not compute. -/
def Pkt.sackedBytes (row : Pkt) : ℤ :=
  (computeSackedBytes row.tcpAckNo row.tcpSackLe row.tcpSackRe).getD 0

namespace Flow

def sendPayload (row : Pkt) (flow : Flow) : Flow :=
  let flow :=
    if row.tcpSeqNo + row.tcpPayloadLen - 1 ≤ flow.bytesSent then
      { flow with affected := 1, reTx := 1 }
    else { flow with bytesSent := flow.bytesSent + row.tcpPayloadLen }.updateMaxBif
  { flow with lastDataPktTs := row.pktTime }

def receiveAck (args : Args) (row : Pkt) (flow : Flow) : Flow :=
  let flow := flow.recordFirstAck row.pktTime
  let flow :=
    if row.tcpHdrLen ≥ 32 then
      { flow with
        receivedSACK := 1
        bytesAcked := row.tcpAckNo - 1 + row.sackedBytes }.updateMaxBif
    else { flow with bytesAcked := row.tcpAckNo - 1 }.updateMaxBif
  (flow.recordLastAck args row.pktTime).recordTailLoss args row.tcpHdrLen row.tcpAckNo

/-- What a packet of the flow changes in it. -/
def after (args : Args) (flow : Flow) (row : Pkt) : Flow :=
  match row.kind with
  | .syn | .other => flow
  | .finAck =>
    if row.tcpPayloadLen > 0 then { flow with senderFinSent := true }.sendPayload row
    else { flow with senderFinSent := true }
  | .data => (flow.recordFirstData row.pktTime).sendPayload row
  | .ack => flow.receiveAck args row
  | .receiverFinAck =>
    { { flow with bytesAcked := row.tcpAckNo - 1 }.updateMaxBif with lastAckPktTs := row.pktTime }

end Flow

/-- The packets at which a complete flow is written. -/
def Pkt.mayEnd (row : Pkt) : Prop :=
  row.kind = .ack ∨ row.kind = .receiverFinAck ∨ (row.kind = .finAck ∧ ¬ row.tcpPayloadLen > 0)

instance (row : Pkt) : Decidable row.mayEnd := inferInstanceAs (Decidable (_ ∨ _))

/-- The flow that is tracked, and those that were written.  The columns `affected` and
`consecutiveLoss` of a row are left out: they come from the lists of affected flows, which the rows
of other flows use up. -/
structure Track where
  current : Option Flow := none
  written : List Flow := []

def Track.next (args : Args) (k : Track) (row : Pkt) : Track :=
  match k.current with
  | none => if row.kind = .syn then { k with current := some {} } else k
  | some flow =>
    let flow := flow.after args row
    if row.mayEnd ∧ flow.isComplete then ⟨none, k.written ++ [flow]⟩
    else { k with current := some flow }

/-- The track of one flow in the trace of all: of a row that was written it has the flow, and not
the two columns that depend on the lists. -/
def Trace.track (t : Trace) (flowId : ℤ) : Track where
  current := t.currTrackedFlows flowId
  written := (t.out.filter fun r => r.flowId = flowId).map OutputRow.flow

/-- What the file gets for a complete flow. -/
def Trace.outputRow (t : Trace) (args : Args) (flowId : ℤ) (flow : Flow) : OutputRow where
  flowId := flowId
  flow := flow
  affected := (t.verdict args flowId flow).1
  maxPif := ⌈(flow.maxBif / args.mssBytes : ℚ)⌉
  consecutiveLoss :=
    if (t.verdict args flowId flow).1 = 1 ∧ flowId ∈ t.affectedFlowsConsecutiveLoss then 1 else 0

/-! ## A row changes the track of its flow -/

variable {args : Args} {t t' : Trace} {flowId : ℤ} {flow : Flow} {row : Pkt}

/-- The flow goes on as `k`, the other flows stay.  At most one row is written.  This is all that
the proofs about whole traces know of a row. -/
structure Trace.Moves (args : Args) (t t' : Trace) (flowId : ℤ) (k : Track) : Prop where
  own : t'.track flowId = k
  others : ∀ f ≠ flowId, t'.track f = t.track f
  consecutive : t'.affectedFlowsConsecutiveLoss = t.affectedFlowsConsecutiveLoss
  files : t'.affectedFlows = t.affectedFlows ∧ t'.out = t.out ∨
    ∃ flow, t'.out = t.out ++ [t.outputRow args flowId flow] ∧ t'.affectedFlows =
      if (t.verdict args flowId flow).2 then t.affectedFlows.erase flowId else t.affectedFlows

lemma Trace.moves_refl (args : Args) (t : Trace) (flowId : ℤ) :
    t.Moves args t flowId (t.track flowId) :=
  ⟨rfl, fun _ _ => rfl, rfl, .inl ⟨rfl, rfl⟩⟩

lemma moves_update (args : Args) (t : Trace) (flowId : ℤ) (flow : Flow) :
    t.Moves args
      { t with currTrackedFlows := Function.update t.currTrackedFlows flowId (some flow) }
      flowId { t.track flowId with current := some flow } where
  own := by simp [Trace.track]
  others := by
    intro f hne
    simp [Trace.track, hne]
  consecutive := rfl
  files := .inl ⟨rfl, rfl⟩

/-- A complete flow is written, and no longer tracked. -/
lemma exists_conclude (args : Args) (t : Trace) (flowId : ℤ) (flow : Flow) :
    ∃ t', (if flow.isComplete then
        flushFlowToOutputFile args { t with
          currTrackedFlows := Function.update t.currTrackedFlows flowId (some flow) } flowId
      else some { t with
        currTrackedFlows := Function.update t.currTrackedFlows flowId (some flow) }) = some t' ∧
      t.Moves args t' flowId (if flow.isComplete then ⟨none, (t.track flowId).written ++ [flow]⟩
        else { t.track flowId with current := some flow }) := by
  by_cases hdone : flow.isComplete
  · simp only [if_pos hdone, flushFlowToOutputFile, Function.update_self, Option.bind_eq_bind,
      Option.bind_some]
    refine ⟨_, rfl, ?_, fun f hne => ?_, rfl, .inr ⟨flow, rfl, rfl⟩⟩
    · simp [Trace.track, List.filter_append]
    · simp [Trace.track, List.filter_append, hne, hne.symm]
  · simp only [if_neg hdone]
    exact ⟨_, rfl, moves_update args t flowId flow⟩

lemma processPayload_eq {flows : CurrTrackedFlows} (h : flows flowId = some flow) (row : Pkt) :
    processPayload flows flowId row.pktTime row.tcpSeqNo row.tcpPayloadLen =
      some (Function.update flows flowId (some (flow.sendPayload row))) := by
  simp only [processPayload, h, Option.bind_eq_bind, Option.bind_some, Flow.sendPayload]
  by_cases hresent : row.tcpSeqNo + row.tcpPayloadLen - 1 ≤ flow.bytesSent
  · simp only [if_pos hresent, modify_eq h, Option.bind_some, modify_update]
  · simp only [if_neg hresent, updateBytesSent, updateMaxBif, modify_eq h, Option.bind_eq_bind,
      Option.bind_some, modify_update]

lemma processFinAck_moves (args : Args) (hrow : row.kind = .finAck)
    (h : t.currTrackedFlows flowId = some flow) :
    ∃ t', processFinAck args t flowId row.pktTime row.tcpSeqNo row.tcpPayloadLen = some t' ∧
      t.Moves args t' flowId ((t.track flowId).next args row) := by
  have hne : ¬ t.currTrackedFlows flowId = none := by simp [h]
  have hcur : (t.track flowId).current = some flow := h
  by_cases hlen : row.tcpPayloadLen > 0
  · have hstay : ¬ row.mayEnd := by simp [Pkt.mayEnd, hrow, hlen]
    simp only [processFinAck, if_neg hne, modify_eq h, if_pos hlen, Option.bind_eq_bind,
      Option.bind_some, processPayload_eq (Function.update_self ..), Function.update_idem]
    refine ⟨_, rfl, ?_⟩
    have hmoves := moves_update args t flowId ({ flow with senderFinSent := true }.sendPayload row)
    simpa [Track.next, hcur, hstay, Flow.after, hrow, hlen] using hmoves
  · have hend : row.mayEnd := .inr (.inr ⟨hrow, hlen⟩)
    simp only [processFinAck, if_neg hne, modify_eq h, if_neg hlen, Option.bind_eq_bind,
      Option.bind_some, isFlowComplete_update]
    obtain ⟨t', ht', hmoves⟩ := exists_conclude args t flowId { flow with senderFinSent := true }
    refine ⟨t', ht', ?_⟩
    simpa [Track.next, hcur, hend, Flow.after, hrow, hlen] using hmoves

lemma processData_moves (args : Args) (hrow : row.kind = .data)
    (h : t.currTrackedFlows flowId = some flow) :
    ∃ t', processData t flowId row.pktTime row.tcpSeqNo row.tcpPayloadLen = some t' ∧
      t.Moves args t' flowId ((t.track flowId).next args row) := by
  have hne : ¬ t.currTrackedFlows flowId = none := by simp [h]
  have hcur : (t.track flowId).current = some flow := h
  have hstay : ¬ row.mayEnd := by simp [Pkt.mayEnd, hrow]
  simp only [processData, if_neg hne, modify_eq h, Option.bind_eq_bind, Option.bind_some,
    processPayload_eq (Function.update_self ..), Function.update_idem]
  refine ⟨_, rfl, ?_⟩
  have hmoves := moves_update args t flowId ((flow.recordFirstData row.pktTime).sendPayload row)
  simpa [Track.next, hcur, hstay, Flow.after, hrow] using hmoves

lemma Pkt.computeSackedBytes_eq (row : Pkt) (hre : row.tcpSackRe ≠ []) :
    computeSackedBytes row.tcpAckNo row.tcpSackLe row.tcpSackRe = some row.sackedBytes := by
  obtain ⟨maxSackRe, hmax⟩ := Option.isSome_iff_exists.mp (List.isSome_max?_of_ne_nil hre)
  have hsome : (computeSackedBytes row.tcpAckNo row.tcpSackLe row.tcpSackRe).isSome := by
    simp only [computeSackedBytes, hmax, Option.bind_eq_bind, Option.bind_some]
    split_ifs <;> rfl
  obtain ⟨sackedBytes, h⟩ := Option.isSome_iff_exists.mp hsome
  rw [Pkt.sackedBytes, h, Option.getD_some]

lemma processAck_moves (args : Args) (hrow : row.kind = .ack) (hsack : row.CarriesSack)
    (h : t.currTrackedFlows flowId = some flow) (tcpSack : Option (List ℤ × List ℤ))
    (hedges : row.tcpSackLe ≠ [] ∧ row.tcpSackRe ≠ [] →
      tcpSack = some (row.tcpSackLe, row.tcpSackRe)) :
    ∃ t', processAck args t flowId row.pktTime row.tcpHdrLen row.tcpAckNo tcpSack = some t' ∧
      t.Moves args t' flowId ((t.track flowId).next args row) := by
  have hne : ¬ t.currTrackedFlows flowId = none := by simp [h]
  have hcur : (t.track flowId).current = some flow := h
  have hend : row.mayEnd := .inl hrow
  obtain ⟨t', ht', hmoves⟩ := exists_conclude args t flowId (flow.receiveAck args row)
  refine ⟨t', ?_, by simpa [Track.next, hcur, hend, Flow.after, hrow] using hmoves⟩
  rw [← ht']
  by_cases hlen : row.tcpHdrLen ≥ 32
  · have hsome := hsack hrow hlen
    have hcompute := row.computeSackedBytes_eq hsome.2
    simp only [processAck, if_neg hne, if_pos hlen, modify_eq h, modify_update, hedges hsome,
      updateBytesAckedSack_eq (Function.update_self ..) hcompute, Function.update_idem,
      isFlowComplete_update, Option.bind_eq_bind, Option.bind_some, Flow.receiveAck]
    rfl
  · simp only [processAck, if_neg hne, if_neg hlen, modify_eq h, modify_update, updateBytesAcked,
      updateMaxBif, isFlowComplete_update, Option.bind_eq_bind, Option.bind_some, Flow.receiveAck]
    rfl

lemma processReceiverFinAck_moves (args : Args) (hrow : row.kind = .receiverFinAck)
    (h : t.currTrackedFlows flowId = some flow) :
    ∃ t', processReceiverFinAck args t flowId row.pktTime row.tcpAckNo = some t' ∧
      t.Moves args t' flowId ((t.track flowId).next args row) := by
  have hne : ¬ t.currTrackedFlows flowId = none := by simp [h]
  have hcur : (t.track flowId).current = some flow := h
  have hend : row.mayEnd := .inr (.inl hrow)
  simp only [processReceiverFinAck, if_neg hne, updateBytesAcked, updateMaxBif, modify_eq h,
    modify_update, isFlowComplete_update, Option.bind_eq_bind, Option.bind_some]
  obtain ⟨t', ht', hmoves⟩ := exists_conclude args t flowId (flow.after args row)
  simp only [Flow.after, hrow] at ht'
  refine ⟨t', ht', ?_⟩
  simpa [Track.next, hcur, hend, Flow.after, hrow] using hmoves

/-- A flow that is not tracked can only start. -/
lemma Track.next_of_none {k : Track} (h : k.current = none) (hrow : row.kind ≠ .syn) :
    k.next args row = k := by
  rw [Track.next, h]
  exact if_neg hrow

/-- Nothing is done at the packet for a flow that is tracked. -/
lemma Track.next_of_idle {k : Track} (h : k.current = some flow)
    (hrow : row.kind = .syn ∨ row.kind = .other) : k.next args row = k := by
  obtain ⟨current, written⟩ := k
  subst h
  rcases hrow with hrow | hrow <;> simp [Track.next, Pkt.mayEnd, Flow.after, hrow]

/-- **A row changes the track of its own flow only**, and raises nothing. -/
lemma processRow_moves (args : Args) (p : Processing) (hsack : row.CarriesSack) :
    ∃ p', processRow args p row = some p' ∧
      p.trace.Moves args p'.trace row.flowId ((p.trace.track row.flowId).next args row) := by
  -- a flow that is not tracked can only start; what else a packet does is up to its kind
  cases hcur : p.trace.currTrackedFlows row.flowId with
  | none =>
    have hnone : (p.trace.track row.flowId).current = none := hcur
    cases hrow : row.kind with
    | syn =>
      simp only [processRow, hrow, processSyn, if_pos hcur, Option.bind_eq_bind, Option.bind_some]
      refine ⟨_, rfl, ?_⟩
      simpa [Track.next, hnone, hrow] using moves_update args p.trace row.flowId {}
    | finAck | data | ack | receiverFinAck | other =>
      simp only [processRow, hrow, processFinAck, processData, processAck, processReceiverFinAck,
        if_pos hcur, Option.bind_eq_bind, Option.bind_some]
      refine ⟨_, rfl, ?_⟩
      rw [Track.next_of_none hnone (by simp [hrow])]
      exact p.trace.moves_refl args row.flowId
  | some flow =>
    have hsome : (p.trace.track row.flowId).current = some flow := hcur
    have hne : ¬ p.trace.currTrackedFlows row.flowId = none := by simp [hcur]
    cases hrow : row.kind with
    | syn =>
      simp only [processRow, hrow, processSyn, if_neg hne, Option.bind_eq_bind, Option.bind_some]
      refine ⟨_, rfl, ?_⟩
      rw [Track.next_of_idle hsome (.inl hrow)]
      exact p.trace.moves_refl args row.flowId
    | finAck =>
      obtain ⟨t', ht', hmoves⟩ := processFinAck_moves args hrow hcur
      simp only [processRow, hrow, ht', Option.bind_eq_bind, Option.bind_some]
      exact ⟨_, rfl, hmoves⟩
    | data =>
      obtain ⟨t', ht', hmoves⟩ := processData_moves args hrow hcur
      simp only [processRow, hrow, ht', Option.bind_eq_bind, Option.bind_some]
      exact ⟨_, rfl, hmoves⟩
    | ack =>
      obtain ⟨t', ht', hmoves⟩ := processAck_moves args hrow hsack hcur
        (if row.tcpSackLe ≠ [] ∧ row.tcpSackRe ≠ [] then some (row.tcpSackLe, row.tcpSackRe)
          else p.tcpSack) fun hedges => if_pos hedges
      simp only [processRow, hrow, ht', Option.bind_eq_bind, Option.bind_some]
      exact ⟨_, rfl, hmoves⟩
    | receiverFinAck =>
      obtain ⟨t', ht', hmoves⟩ := processReceiverFinAck_moves args hrow hcur
      simp only [processRow, hrow, ht', Option.bind_eq_bind, Option.bind_some]
      exact ⟨_, rfl, hmoves⟩
    | other =>
      simp only [processRow, hrow, Option.bind_eq_bind, Option.bind_some]
      refine ⟨_, rfl, ?_⟩
      rw [Track.next_of_idle hsome (.inr hrow)]
      exact p.trace.moves_refl args row.flowId

/-- **Run lemma**: the track of a flow is that of its rows alone. -/
lemma processRows_track (args : Args) {rows : List Pkt} (hsack : ∀ row ∈ rows, row.CarriesSack)
    (p : Processing) :
    ∃ p', processRows args p rows = some p' ∧ ∀ f, p'.trace.track f =
      (rows.filter fun row => row.flowId = f).foldl (Track.next args) (p.trace.track f) := by
  induction rows generalizing p with
  | nil => exact ⟨p, rfl, fun f => rfl⟩
  | cons row rows ih =>
    obtain ⟨p₁, hp₁, hmoves⟩ := processRow_moves args p (hsack row List.mem_cons_self)
    obtain ⟨p', hp', htrack⟩ := ih (fun r hr => hsack r (List.mem_cons_of_mem row hr)) p₁
    refine ⟨p', ?_, fun f => ?_⟩
    · rw [processRows, List.foldlM_cons, hp₁, Option.bind_eq_bind, Option.bind_some]
      exact hp'
    · rw [htrack f]
      by_cases hf : row.flowId = f
      · subst hf
        rw [List.filter_cons_of_pos (by simp), List.foldl_cons, hmoves.own]
      · rw [List.filter_cons_of_neg (by simpa using hf), hmoves.others f (Ne.symm hf)]

/-- **Flows are told apart.**  The trace is processed to its end, and what is tracked and written of
a flow is what is tracked and written of it when no packets but its own are in the trace.  Excepted
are the columns `affected` and `consecutiveLoss` of its row, which depend on the list of affected
flows and on the order in which the flows are written. -/
theorem flows_isolated (args : Args) (t : Trace) (rows : List Pkt)
    (hsack : ∀ row ∈ rows, row.CarriesSack) (f : ℤ) :
    ∃ p q, processRows args ⟨t, none⟩ rows = some p ∧
      processRows args ⟨t, none⟩ (rows.filter fun row => row.flowId = f) = some q ∧
      p.trace.track f = q.trace.track f := by
  obtain ⟨p, hp, hall⟩ := processRows_track args hsack ⟨t, none⟩
  have hsack' : ∀ row ∈ rows.filter fun row => row.flowId = f, row.CarriesSack :=
    fun row hrow => hsack row (List.mem_of_mem_filter hrow)
  obtain ⟨q, hq, hown⟩ := processRows_track args hsack' ⟨t, none⟩
  refine ⟨p, q, hp, hq, ?_⟩
  rw [hall f, hown f, List.filter_filter]
  simp

/-! ## Two flows -/

/-- Nothing is tracked or written yet. -/
def Trace.start (affectedFlows affectedFlowsConsecutiveLoss : List ℤ) : Trace where
  currTrackedFlows := fun _ => none
  affectedFlows := affectedFlows
  affectedFlowsConsecutiveLoss := affectedFlowsConsecutiveLoss
  out := []

/-- A packet from the sender's port. -/
def Pkt.ofSender (port tcpSeqNo tcpPayloadLen tcpFlagAck tcpFlagSyn tcpFlagFin : ℤ) : Pkt :=
  ⟨1, receiverIp, port, 80, 20, tcpPayloadLen, tcpSeqNo, 1, tcpFlagAck, tcpFlagSyn, tcpFlagFin,
    [], []⟩

/-- An ACK to the sender's port. -/
def Pkt.ofReceiver (port tcpHdrLen tcpAckNo : ℤ) (tcpSackLe tcpSackRe : List ℤ) : Pkt :=
  ⟨2, senderIp, 80, port, tcpHdrLen, 0, 1, tcpAckNo, 1, 0, 0, tcpSackLe, tcpSackRe⟩

/-- 2000 bytes from port 5001, whose second packet is sent twice, and a packet from port 5002. -/
def twoFlows : List Pkt :=
  [.ofSender 5001 0 0 0 1 0, .ofSender 5002 0 0 0 1 0, .ofSender 5001 1 1460 1 0 0,
    .ofSender 5002 1 1460 1 0 0, .ofSender 5001 1461 540 1 0 0, .ofReceiver 5002 20 1461 [] [],
    .ofReceiver 5001 32 1 [1461] [2001], .ofSender 5001 1461 540 1 0 0,
    .ofSender 5001 2001 0 1 0 1, .ofReceiver 5001 20 2001 [] []]

def twoFlowsArgs : Args := ⟨2000, true, 1500⟩

theorem flows_isolated_two_flows : ∃ p q,
    processRows twoFlowsArgs ⟨.start [] [], none⟩ twoFlows = some p ∧
      processRows twoFlowsArgs ⟨.start [] [], none⟩
        (twoFlows.filter fun row => row.flowId = 5001) = some q ∧
      p.trace.track 5001 = q.trace.track 5001 ∧ (p.trace.track 5001).written.length = 1 := by
  have hwritten : ((processRows twoFlowsArgs ⟨.start [] [], none⟩ twoFlows).any fun p =>
      (p.trace.track 5001).written.length = 1) = true := by decide +kernel
  obtain ⟨p, q, hp, hq, htrack⟩ :=
    flows_isolated twoFlowsArgs (.start [] []) twoFlows (by decide +kernel) 5001
  rw [hp, Option.any_some, decide_eq_true_iff] at hwritten
  exact ⟨p, q, hp, hq, htrack, hwritten⟩

/-- A long header without edges: those of port 5001 are taken for port 5002, and by itself port 5002
raises. -/
example :
    let rows := twoFlows.take 7 ++ [.ofReceiver 5002 32 1461 [] []]
    (processRows twoFlowsArgs ⟨.start [] [], none⟩ rows).isSome = true ∧
      (processRows twoFlowsArgs ⟨.start [] [], none⟩
        (rows.filter fun row => row.flowId = 5002)).isSome = false := by
  decide +kernel

end LinkGuardian.Analysis
