import LinkGuardian.Dataplane.Headers

/-!
# Receiver switch: headers and ingress control

`receiver/includes/headers.p4` and `SwitchIngress` of `receiver/receiver.p4`, in the default
build (no `MEASURE_…` macro).  As for the sender, the control is a function on one record of
headers, metadata and registers, composed from the actions of the source in source order.

Left out are the statistics counters and the headers that no live code makes valid
(`ether_pause`, `tcp`, `udp`).

The registers of a packet are those of the protected port, which need not be the port of the pass.
Behind a loopback port, where losses are emulated, the port metadata of the parser name it, and a
packet of the receiver's buffer has it in a header.
-/

namespace LinkGuardian.Receiver

open P4

/-- `bridged_meta_h` and `eg_mirror_courier_pkt_h`: nothing but the internal header. -/
structure InternalHdr where
  type : BitVec 4
  info : BitVec 4
deriving DecidableEq, Repr, Inhabited

/-- `ether_pfc_h`; the enable bits and quanta of priorities 2 to 7, which no action touches,
are kept together. -/
structure EtherPfc where
  opCode : BitVec 16
  reserved : BitVec 8
  c7To2Enabled : BitVec 6
  c1Enabled : BitVec 1
  c0Enabled : BitVec 1
  c0Quanta : BitVec 16
  c1Quanta : BitVec 16
  c2To7Quanta : BitVec 96
deriving DecidableEq, Repr, Inhabited

/-- `header_t`, in the order in which the deparsers emit it. -/
structure Hdr where
  bridgedMeta : Header InternalHdr
  pktgenTimer : Header PktgenTimer
  remainingEthernet : Header RemainingEthernet
  ethernet : Header Ethernet
  etherPfc : Header EtherPfc
  arp : Header Arp
  linkradarData : Header LinkradarData
  linkradarRxBuffered : Header LinkradarRxBuffered
  linkradarLack : Header LinkradarLack
  linkradarLossNotification : Header LinkradarLossNotification
  ipv4 : Header Ipv4
deriving DecidableEq, Repr, Inhabited

/-- `port_metadata_t` -/
structure PortMetadata where
  filterViaLpbk : BitVec 1
  protect : BitVec 1
  origIgPort : PortId
  lpbkPort : PortId
deriving DecidableEq, Repr, Inhabited

/-- `ig_metadata_t` -/
structure IgMeta where
  portMd : PortMetadata
  mirrorSession : MirrorId
  internalHdrType : BitVec 4
  internalHdrInfo : BitVec 4
  ingressPort : BitVec 8
  leadingAck : SeqNo
  leadingAckEra : BitVec 1
  expectedSeqNo : SeqNo
  pktsLost : SeqNo
  currExpectedSeqNo : SeqNo
  hardCoded36 : BitVec 8
  currAck : SeqNo
  pktSeqNo : SeqNo
  minVal : SeqNo
  currAckEra : BitVec 1
  blockingModeOrigIgPort : BitVec 8
  currRandNumber : BitVec 20
  ackTimeoutTriggered : BitVec 1
deriving DecidableEq, Repr, Inhabited

def recircPortPipe0 : PortId := 20
def recircPortRxBufferQid : QueueId := 0
def lossNotificationQid : QueueId := 2
def affectedFlowsDevPort : PortId := 132
def receiverSwAddrHi16 : BitVec 16 := 0xAABB
def pausePfcEtherDstAddr : MacAddr := 0x0180c2000001
def pausePfcEtherSrcAddr : MacAddr := 0
def pfcOpCode : BitVec 16 := 0x0101

def igMirrorLackUpdate : BitVec 3 := 2
def igMirrorLossNotification : BitVec 3 := 3
def mirrorSessionLackUpdate : MirrorId := 300

/-- `ack_record_t` -/
structure AckRecord where
  ackNo : SeqNo
  timeRemaining : BitVec 16
deriving DecidableEq, Repr

/-- The registers of `SwitchIngress`. -/
structure IngressRegs where
  regExpectedSeqNo : Register (BitVec 8) SeqNo
  regAck : Register (BitVec 8) AckRecord
  regAckEra : Register (BitVec 8) (BitVec 8)

/-- Power-on contents, for a given `TIMEOUT_VAL_100NS`. -/
def IngressRegs.init (timeoutVal100ns : BitVec 16) : IngressRegs where
  regExpectedSeqNo := fun _ => 0
  regAck := fun _ => ⟨0, timeoutVal100ns⟩
  regAckEra := fun _ => 0

/-- The actions of `l2_forward` besides its default, `l2_drop`. -/
inductive L2Action
  | l2Switch (port : PortId)
  | routeInitCourierPkt (port : PortId) (qid : QueueId)
deriving DecidableEq, Repr

/-- Build-time and control-plane configuration. -/
structure IngressTables where
  /-- `TIMEOUT_VAL_100NS` -/
  timeoutVal100ns : BitVec 16
  l2Forward : Table MacAddr L2Action
  generateLossNotification : Table PortId MirrorId
  /-- the default action of `add_pfc_hdr_and_route`; `none` is `drop` -/
  addPfcHdrAndRoute : Option PortId
  /-- the random numbers that hit `do_emulate_pkt_drop` -/
  emulateRandomPktDrop : BitVec 20 → Bool

/-- Everything `SwitchIngress` reads and writes for one packet. -/
structure Ingress where
  hdr : Hdr
  igMeta : IgMeta
  /-- what `random.get()` would return for this packet -/
  random : BitVec 20
  dropCtl : BitVec 3
  mirrorType : BitVec 3
  ucastEgressPort : PortId
  qid : QueueId
  bypassEgress : BitVec 1
  regs : IngressRegs

namespace Ingress

/-- The register index of the port a packet came from, `port_md.orig_ig_port[7:0]`. -/
def origIdx (c : Ingress) : BitVec 8 := c.igMeta.portMd.origIgPort.setWidth 8

/-! ## Forwarding -/

def drop (c : Ingress) : Ingress := { c with dropCtl := 0x1 }

def forward (port : PortId) (c : Ingress) : Ingress := { c with ucastEgressPort := port }

/-- Unlike the sender's, the table drops what it does not know. -/
def l2Forward (t : IngressTables) (c : Ingress) : Ingress :=
  match t.l2Forward c.hdr.ethernet.fields.dstAddr with
  | some (.l2Switch port) => c.forward port
  | some (.routeInitCourierPkt port qid) => { c with ucastEgressPort := port, qid := qid }
  | none => c.drop

def sendToLpbkPort (c : Ingress) : Ingress :=
  { c.forward c.igMeta.portMd.lpbkPort with bypassEgress := 1 }

/-- The EtherType is set to IPv4, whatever it was before the sender encapsulated the packet. -/
def decapLinkradarHdr (c : Ingress) : Ingress :=
  { c with hdr := { c.hdr with
      linkradarData := c.hdr.linkradarData.setInvalid
      ethernet := c.hdr.ethernet.modify fun e => { e with etherType := EtherType.ipv4 } } }

def markRetxPkt (c : Ingress) : Ingress :=
  { c with hdr := { c.hdr with
      ethernet := c.hdr.ethernet.modify fun e =>
        { e with srcAddr := 0xAA#8 ++ e.srcAddr.extractLsb' 0 40 } } }

def decapLinkradarDataAndRxBufferedHdrs (c : Ingress) : Ingress :=
  let c := c.decapLinkradarHdr
  { c with hdr := { c.hdr with
      linkradarRxBuffered := c.hdr.linkradarRxBuffered.setInvalid } }

def addBridgedMetadata (c : Ingress) : Ingress :=
  { c with hdr := { c.hdr with bridgedMeta := .of ⟨internalHdrTypeBridgedMeta, 0⟩ } }

def doEmulatePktDrop (c : Ingress) : Ingress :=
  { c with ucastEgressPort := affectedFlowsDevPort, bypassEgress := 1 }.decapLinkradarHdr

/-- A packet that is emulated as lost goes to a port of its own, where it is recorded. -/
def emulateRandomPktDrop (t : IngressTables) (c : Ingress) : Ingress :=
  if t.emulateRandomPktDrop c.igMeta.currRandNumber then c.doEmulatePktDrop
  else c.sendToLpbkPort

/-! ## Hole detection -/

/-- The leading ack is kept in the egress, where the packets that report it pass; a mirror copy
carries the number there. -/
def generateIgMirrorLackUpdate (c : Ingress) : Ingress :=
  { c with
    mirrorType := igMirrorLackUpdate
    igMeta := { c.igMeta with
      mirrorSession := mirrorSessionLackUpdate
      internalHdrType := internalHdrTypeIgMirror
      internalHdrInfo := igMirrorLackUpdate.setWidth 4
      ingressPort := c.origIdx
      leadingAck := c.hdr.linkradarData.fields.seqNo
      leadingAckEra := c.hdr.linkradarData.fields.era } }

/-- The number after this packet's, also when the packet is not the one expected: what is missing is
announced in this pass and never looked for again. -/
def getUpdateExpectedSeqNoNormal (c : Ingress) : Ingress :=
  { c with
    igMeta := { c.igMeta with expectedSeqNo := c.regs.regExpectedSeqNo c.origIdx }
    regs := { c.regs with
      regExpectedSeqNo := c.regs.regExpectedSeqNo.write c.origIdx
        (c.hdr.linkradarData.fields.seqNo + 1) } }

/-- A dummy stands before the packet with its number, which is still to come. -/
def getUpdateExpectedSeqNoDummy (c : Ingress) : Ingress :=
  { c with
    igMeta := { c.igMeta with expectedSeqNo := c.regs.regExpectedSeqNo c.origIdx }
    regs := { c.regs with
      regExpectedSeqNo := c.regs.regExpectedSeqNo.write c.origIdx
        c.hdr.linkradarData.fields.seqNo } }

def getUpdateExpectedSeqNo (c : Ingress) : Ingress :=
  if c.hdr.linkradarData.fields.dummy = 0 then c.getUpdateExpectedSeqNoNormal
  else c.getUpdateExpectedSeqNoDummy

def calcPktsLost (c : Ingress) : Ingress :=
  { c with igMeta := { c.igMeta with
      pktsLost := c.hdr.linkradarData.fields.seqNo - c.igMeta.expectedSeqNo } }

def generateLossNotification (t : IngressTables) (c : Ingress) : Ingress :=
  match t.generateLossNotification c.igMeta.portMd.origIgPort with
  | some mirrorSession =>
    { c with
      mirrorType := igMirrorLossNotification
      igMeta := { c.igMeta with
        mirrorSession := mirrorSession
        internalHdrType := internalHdrTypeIgMirror
        internalHdrInfo := igMirrorLossNotification.setWidth 4 } }
  | none => c

def setLossNotificationLackNormal (c : Ingress) : Ingress :=
  { c with igMeta := { c.igMeta with leadingAck := c.hdr.linkradarData.fields.seqNo } }

/-- The last number that the dummy knows to have been sent. -/
def setLossNotificationLackDummy (c : Ingress) : Ingress :=
  { c with igMeta := { c.igMeta with leadingAck := c.hdr.linkradarData.fields.seqNo - 1 } }

def setLossNotificationLackEra (c : Ingress) : Ingress :=
  { c with igMeta := { c.igMeta with leadingAckEra := c.hdr.linkradarData.fields.era } }

def flipLossNotificationLackEra (c : Ingress) : Ingress :=
  { c with igMeta := { c.igMeta with leadingAckEra := ~~~ c.igMeta.leadingAckEra } }

/-- What a normal packet or a dummy from the protected link does first.  `pkts_lost` is a difference
modulo `2 ^ 16`: it is the size of the hole when fewer than `2 ^ 16` packets are missing. -/
def countPktsLost (c : Ingress) : Ingress :=
  c.setLossNotificationLackEra.getUpdateExpectedSeqNo.calcPktsLost

/-- Some packets were lost before this one: notify the sender; a dummy goes no further. -/
def reportHole (t : IngressTables) (c : Ingress) : Ingress :=
  let c := c.generateLossNotification t
  if c.hdr.linkradarData.fields.dummy = 0 then c.setLossNotificationLackNormal
  else
    let c := c.setLossNotificationLackDummy
    -- the number before 0 is in the era before
    let c := if c.hdr.linkradarData.fields.seqNo = 0 then c.flipLossNotificationLackEra else c
    c.drop

def detectHole (t : IngressTables) (c : Ingress) : Ingress :=
  let c := c.countPktsLost
  if c.igMeta.pktsLost ≠ 0 then c.reportHole t
  else if c.hdr.linkradarData.fields.dummy = 0 then c.generateIgMirrorLackUpdate
  -- a dummy that finds nothing missing says nothing new
  else c.drop

/-- A retransmitted packet; test traffic is marked. -/
def retxArrival (c : Ingress) : Ingress :=
  if c.hdr.ethernet.fields.dstAddr.extractLsb' 32 16 = receiverSwAddrHi16 then c.markRetxPkt
  else c

/-! ## The acknowledgement register -/

/-- `get_check_increment_ack`: read the ack number and advance it when it is the packet's.  To the
caller, who gets the number before, equality means that the register has moved. -/
def getCheckUpdateCurrAck (t : IngressTables) (c : Ingress) : Ingress :=
  let port := c.igMeta.blockingModeOrigIgPort
  let ack := c.regs.regAck port
  { c with
    igMeta := { c.igMeta with currAck := ack.ackNo }
    regs := { c.regs with
      regAck :=
        if ack.ackNo = c.hdr.linkradarData.fields.seqNo then
          c.regs.regAck.write port ⟨ack.ackNo + 1, t.timeoutVal100ns⟩
        else c.regs.regAck } }

/-- `check_timeout_increment_ack`: give up on the packet waited for when its time is over.  The ack
moves without a packet, and its era register is not touched. -/
def checkTimeoutUpdateCurrAck (t : IngressTables) (c : Ingress) : Ingress :=
  let port := c.igMeta.hardCoded36
  let ack := c.regs.regAck port
  -- nothing is waited for when the ack has caught up with the numbers that arrived
  if ack.ackNo - c.igMeta.currExpectedSeqNo ≠ 0 then
    if ack.timeRemaining = 0 then
      { c with
        igMeta := { c.igMeta with ackTimeoutTriggered := 1 }
        regs := { c.regs with
          regAck := c.regs.regAck.write port ⟨ack.ackNo + 1, t.timeoutVal100ns⟩ } }
    else
      { c with
        igMeta := { c.igMeta with ackTimeoutTriggered := 0 }
        regs := { c.regs with
          regAck := c.regs.regAck.write port ⟨ack.ackNo, ack.timeRemaining - 1⟩ } }
  else { c with igMeta := { c.igMeta with ackTimeoutTriggered := 0 } }

def getAckEra (c : Ingress) : Ingress :=
  { c with igMeta := { c.igMeta with
      currAckEra := (c.regs.regAckEra c.igMeta.blockingModeOrigIgPort).setWidth 1 } }

def getUpdateAckEra (c : Ingress) : Ingress :=
  { c.getAckEra with regs := { c.regs with
      regAckEra := c.regs.regAckEra.write c.igMeta.blockingModeOrigIgPort
        (~~~ c.regs.regAckEra c.igMeta.blockingModeOrigIgPort) } }

def getOrigIgPortFromRxBufferedHdr (c : Ingress) : Ingress :=
  { c with igMeta := { c.igMeta with
      blockingModeOrigIgPort := c.hdr.linkradarRxBuffered.fields.origIgPort } }

def getOrigIgPortFromPortMd (c : Ingress) : Ingress :=
  { c with igMeta := { c.igMeta with blockingModeOrigIgPort := c.origIdx } }

def adjustSeqNos (c : Ingress) : Ingress :=
  { c with igMeta := { c.igMeta with
      pktSeqNo := c.igMeta.pktSeqNo - seqNumbersHalfRange
      currAck := c.igMeta.currAck - seqNumbersHalfRange } }

/-- The four entries of `era_correction`. -/
def eraCorrection (c : Ingress) : Ingress :=
  if c.hdr.linkradarData.fields.era = c.igMeta.currAckEra then c else c.adjustSeqNos

def getMinCurrAckSeqNo (c : Ingress) : Ingress :=
  { c with igMeta := { c.igMeta with minVal := P4.min c.igMeta.currAck c.igMeta.pktSeqNo } }

def addRxBufferedHdrAndRecirculate (c : Ingress) : Ingress :=
  { c with
    hdr := { c.hdr with
      linkradarData := c.hdr.linkradarData.modify fun d => { d with rxBuffered := 1 }
      linkradarRxBuffered := .of ⟨c.igMeta.blockingModeOrigIgPort⟩ }
    ucastEgressPort := recircPortPipe0
    qid := recircPortRxBufferQid }

/-- A protected packet in blocking mode: release, hold back or drop. -/
def blockingMode (t : IngressTables) (c : Ingress) : Ingress :=
  let c := c.getCheckUpdateCurrAck t
  if c.igMeta.currAck = c.hdr.linkradarData.fields.seqNo then
    let c := c.decapLinkradarDataAndRxBufferedHdrs
    -- the next number awaited is 0, in the next era
    if c.igMeta.currAck = maxSeqNo then c.getUpdateAckEra else c
  else
    let c := c.getAckEra
    let c := c.eraCorrection
    let c := c.getMinCurrAckSeqNo
    -- the numbers differ, and the minimum is the ack's when the packet is ahead; a packet behind it
    -- has been handed on before, or was given up
    if c.igMeta.minVal = c.igMeta.currAck then c.addRxBufferedHdrAndRecirculate else c.drop

/-- Fill `blocking_mode_orig_ig_port` depending on the packet type. -/
def fillBlockingModeOrigIgPort (c : Ingress) : Ingress :=
  if c.hdr.linkradarData.fields.rxBuffered = 0 then c.getOrigIgPortFromPortMd
  else c.getOrigIgPortFromRxBufferedHdr

/-- What becomes of a data packet once the link protocol has seen it. -/
def release (t : IngressTables) (c : Ingress) : Ingress :=
  let c := c.fillBlockingModeOrigIgPort
  if c.hdr.linkradarData.fields.blockingMode = 0 then c.decapLinkradarHdr else c.blockingMode t

/-! ## Timer packets -/

def removePktgenAddEther (c : Ingress) : Ingress :=
  { c with hdr := { c.hdr with
      pktgenTimer := c.hdr.pktgenTimer.setInvalid
      remainingEthernet := c.hdr.remainingEthernet.setInvalid
      ethernet := c.hdr.ethernet.setValid } }

def addPfcHdr (c : Ingress) : Ingress :=
  { c with hdr := { c.hdr with
      ethernet := c.hdr.ethernet.modify fun _ =>
        ⟨pausePfcEtherDstAddr, pausePfcEtherSrcAddr, EtherType.pausePfc⟩
      etherPfc := c.hdr.etherPfc.setValid.modify fun h =>
        { h with opCode := pfcOpCode, c1Enabled := 1 } } }

def addPfcHdrAndRoute (t : IngressTables) (c : Ingress) : Ingress :=
  match t.addPfcHdrAndRoute with
  | some egressPort =>
    { c.addPfcHdr with ucastEgressPort := egressPort, qid := lossNotificationQid }
  | none => c.drop

def getCurrExpectedSeqNo (c : Ingress) : Ingress :=
  { c with igMeta := { c.igMeta with
      currExpectedSeqNo := c.regs.regExpectedSeqNo c.igMeta.hardCoded36 } }

/-- A packet of the timer: age the ack register of port 36, then become a PFC frame. -/
def timerBranch (t : IngressTables) (c : Ingress) : Ingress :=
  let c := { c with igMeta := { c.igMeta with hardCoded36 := 36 } }
  let c := c.getCurrExpectedSeqNo
  let c := c.checkTimeoutUpdateCurrAck t
  c.removePktgenAddEther.addPfcHdrAndRoute t

/-! ## The control -/

/-- The protocol on protected traffic from a protected port.  A retransmitted packet has no part in
the detection of holes. -/
def linkProtocol (t : IngressTables) (c : Ingress) : Ingress :=
  if c.igMeta.portMd.protect = 1 ∧ c.hdr.linkradarData.valid then
    if c.hdr.linkradarData.fields.reTx = 0 then c.detectHole t else c.retxArrival
  else c

/-- Everything but timer packets and packets still to be filtered. -/
def mainBranch (t : IngressTables) (c : Ingress) : Ingress :=
  -- the route first: blocking mode overwrites the port and the queue where it holds a packet back
  let c := c.l2Forward t
  let c := c.linkProtocol t
  if c.hdr.linkradarData.valid ∧ c.hdr.linkradarData.fields.dummy = 0 then c.release t else c

def apply (t : IngressTables) (c : Ingress) : Ingress :=
  let c :=
    if c.hdr.pktgenTimer.valid then c.timerBranch t
    else if c.igMeta.portMd.filterViaLpbk = 1 then
      { c with igMeta := { c.igMeta with currRandNumber := c.random } }.emulateRandomPktDrop t
    else c.mainBranch t
  if c.bypassEgress = 0 then c.addBridgedMetadata else c

end Ingress

end LinkGuardian.Receiver
