import LinkGuardian.Dataplane.Headers

/-!
# Sender switch: headers and ingress control

`sender/includes/headers.p4` and `SwitchIngress` of `sender/sender.p4`.  The control is a
function on the header vector, the ingress metadata, the intrinsic metadata that it writes and
the registers; each action of the source is one update of that record, and `apply` composes
them in source order.

The registers that only record events for debugging are left out.  The packet-generator limit
is kept, since it decides whether a packet is dropped.

Two kinds of packets matter to the protection.  A report from the receiver leaves its leading ack
and its holes in the registers; a buffered copy, which circles through the loopback port, reads them
on each round, and is retransmitted or dropped once the leading ack has reached its number.
-/

namespace LinkGuardian.Sender

open P4

/-- `bridged_meta_h` and `eg_mirror_dummy_pkt_h`: nothing but the internal header. -/
structure InternalHdr where
  type : BitVec 4
  info : BitVec 4
deriving DecidableEq, Repr, Inhabited

/-- `header_t`, in the order in which the deparsers emit it. -/
structure Hdr where
  bridgedMeta : Header InternalHdr
  pktgenTimer : Header PktgenTimer
  remainingEthernet : Header RemainingEthernet
  ethernet : Header Ethernet
  linkradarBuffered : Header LinkradarBuffered
  linkradarData : Header LinkradarData
  linkradarLack : Header LinkradarLack
  linkradarLossNotification : Header LinkradarLossNotification
  ipv4 : Header Ipv4
  arp : Header Arp
  tcp : Header Tcp
  udp : Header Udp
deriving DecidableEq, Repr, Inhabited

/-- `ig_metadata_t` -/
structure IgMeta where
  isMissingHole1 : BitVec 1
  isMissingHole2 : BitVec 1
  isMissingHole3 : BitVec 1
  isMissingHole4 : BitVec 1
  isMissingHole5 : BitVec 1
  holes2SeqNo : SeqNo
  holes3SeqNo : SeqNo
  holes4SeqNo : SeqNo
  holes5SeqNo : SeqNo
  firstLostSeqNoCopy : SeqNo
  currLeadingAck : SeqNo
  currEra : BitVec 8
  bufferedSeqNo : SeqNo
  minVal : SeqNo
  retx : BitVec 1
deriving DecidableEq, Repr, Inhabited

/-- The registers of `SwitchIngress`. -/
structure IngressRegs where
  regPktgenCntr : BitVec 32
  regLeadingAck : Register (BitVec 8) SeqNo
  regLeadingAckEra : Register (BitVec 8) (BitVec 8)
  regHoles1 : Register SeqNo (BitVec 1)
  regHoles2 : Register SeqNo (BitVec 1)
  regHoles3 : Register SeqNo (BitVec 1)
  regHoles4 : Register SeqNo (BitVec 1)
  regHoles5 : Register SeqNo (BitVec 1)

/-- Power-on contents, which `reset_all` restores: the leading ack is 0 before any report, and no
number is marked as lost. -/
def IngressRegs.init : IngressRegs where
  regPktgenCntr := 0
  regLeadingAck := fun _ => 0
  regLeadingAckEra := fun _ => 0
  regHoles1 := fun _ => 0
  regHoles2 := fun _ => 0
  regHoles3 := fun _ => 0
  regHoles4 := fun _ => 0
  regHoles5 := fun _ => 0

/-- The actions of `l2_forward`. -/
inductive L2Action
  | forward (port : PortId)
  | routeInitDummyPkt (port : PortId) (qid : QueueId)
  | multicast (grpId : MulticastGroupId) (qid : QueueId)
deriving DecidableEq, Repr

/-- The actions of `retx_mcast_buffered_pkt`. -/
inductive RetxAction
  | doRetxBufferedPktUcast
  | doRetxBufferedPktMcast (grpId : MulticastGroupId)
deriving DecidableEq, Repr

/-- Table contents installed by the control plane. -/
structure IngressTables where
  l2Forward : Table MacAddr L2Action
  retxMcastBufferedPkt : Table PortId RetxAction
  /-- the default action of `limit_pktgen_traffic` is `check_pktgen_cntr_and_drop` -/
  limitPktgenTraffic : Bool

def recircLpbkPort : PortId := 16

/-- Everything `SwitchIngress` reads and writes for one packet: what the parser hands over, the
fields for the traffic manager that the actions set, and the registers, which stay for the packets
after it. -/
structure Ingress where
  hdr : Hdr
  igMeta : IgMeta
  ingressPort : PortId
  globalTstamp : BitVec 48
  dropCtl : BitVec 3
  ucastEgressPort : PortId
  mcastGrpA : MulticastGroupId
  qid : QueueId
  bypassEgress : BitVec 1
  regs : IngressRegs

namespace Ingress

/-! ## Forwarding -/

def drop (c : Ingress) : Ingress := { c with dropCtl := 0x1 }

def l2Forward (t : IngressTables) (c : Ingress) : Ingress :=
  match t.l2Forward c.hdr.ethernet.fields.dstAddr with
  | some (.forward port) => { c with ucastEgressPort := port }
  | some (.routeInitDummyPkt port qid) => { c with ucastEgressPort := port, qid := qid }
  | some (.multicast grpId qid) => { c with mcastGrpA := grpId, qid := qid }
  -- `nop`: the packet keeps the port that it has
  | none => c

/-- `decide_pktgen_drop`: let the first 65536 generated packets through. -/
def checkPktgenCntrAndDrop (c : Ingress) : Ingress :=
  if c.regs.regPktgenCntr = 65536 then { c with dropCtl := 0b001 }
  else { c with
    dropCtl := 0b000
    regs := { c.regs with regPktgenCntr := c.regs.regPktgenCntr + 1 } }

def limitPktgenTraffic (t : IngressTables) (c : Ingress) : Ingress :=
  if t.limitPktgenTraffic then c.checkPktgenCntrAndDrop else c

def removePktgenAddEther (c : Ingress) : Ingress :=
  { c with hdr := { c.hdr with
      pktgenTimer := c.hdr.pktgenTimer.setInvalid
      remainingEthernet := c.hdr.remainingEthernet.setInvalid
      ethernet := .of ⟨receiverSwAddr, c.globalTstamp, EtherType.ipv4⟩ } }

def addBridgedMetadata (c : Ingress) : Ingress :=
  { c with hdr := { c.hdr with bridgedMeta := .of ⟨internalHdrTypeBridgedMeta, 0⟩ } }

/-! ## Reports from the receiver -/

def recordLeadingAck (c : Ingress) : Ingress :=
  { c with regs := { c.regs with
      regLeadingAck := c.regs.regLeadingAck.write (c.ingressPort.setWidth 8)
        c.hdr.linkradarLack.fields.leadingAck } }

def recordLeadingAckEra (c : Ingress) : Ingress :=
  { c with regs := { c.regs with
      regLeadingAckEra := c.regs.regLeadingAckEra.write (c.ingressPort.setWidth 8)
        (c.hdr.linkradarLack.fields.era.setWidth 8) } }

def decapPiggybackedPkt (c : Ingress) : Ingress :=
  { c with hdr := { c.hdr with
      linkradarLack := c.hdr.linkradarLack.setInvalid
      ethernet := c.hdr.ethernet.modify fun e => { e with etherType := EtherType.ipv4 } } }

def dropCourierPktOrDecapPiggybackedPkt (c : Ingress) : Ingress :=
  -- a courier packet has done its work; a normal packet goes on without the header
  if c.hdr.linkradarLack.fields.isPiggyBacked = 0 then c.drop else c.decapPiggybackedPkt

def prepMultiHoleSeqNos (c : Ingress) : Ingress :=
  { c with igMeta := { c.igMeta with
      holes2SeqNo := c.igMeta.firstLostSeqNoCopy + 1
      holes3SeqNo := c.igMeta.firstLostSeqNoCopy + 2
      holes4SeqNo := c.igMeta.firstLostSeqNoCopy + 3
      holes5SeqNo := c.igMeta.firstLostSeqNoCopy + 4 } }

/-- `hole_1` is special: always the first lost sequence number. -/
def setHoles1 (c : Ingress) : Ingress :=
  { c with regs := { c.regs with
      regHoles1 := c.regs.regHoles1.write
        c.hdr.linkradarLossNotification.fields.firstLostSeqNo 1 } }

def setHoles2 (c : Ingress) : Ingress :=
  { c with regs := { c.regs with
      regHoles2 := c.regs.regHoles2.write c.igMeta.holes2SeqNo 1 } }

def setHoles3 (c : Ingress) : Ingress :=
  { c with regs := { c.regs with
      regHoles3 := c.regs.regHoles3.write c.igMeta.holes3SeqNo 1 } }

def setHoles4 (c : Ingress) : Ingress :=
  { c with regs := { c.regs with
      regHoles4 := c.regs.regHoles4.write c.igMeta.holes4SeqNo 1 } }

def setHoles5 (c : Ingress) : Ingress :=
  { c with regs := { c.regs with
      regHoles5 := c.regs.regHoles5.write c.igMeta.holes5SeqNo 1 } }

/-- The ladder of thresholds on `hole_size`.  A register can be accessed once in a pass, which is
why there are five bitmaps, and why a hole of more than five numbers is marked in part only. -/
def setHoles (c : Ingress) : Ingress :=
  let holeSize := c.hdr.linkradarLossNotification.fields.holeSize
  let c := c.prepMultiHoleSeqNos
  -- the first rung is not guarded: a hole of size 0 would mark its first number as well
  let c := c.setHoles1
  let c := if holeSize ≥ 2 then c.setHoles2 else c
  let c := if holeSize ≥ 3 then c.setHoles3 else c
  let c := if holeSize ≥ 4 then c.setHoles4 else c
  if holeSize ≥ 5 then c.setHoles5 else c

/-- Leading ack, with or without a loss notification, alone or piggybacked.  The holes are set in
the same pass in which the leading ack moves past them, so that no copy of a hole is seen as
delivered in between. -/
def lackBranch (c : Ingress) : Ingress :=
  -- whatever was stored before: the order of the reports is left to the receiver
  let c := c.recordLeadingAck
  let c := c.recordLeadingAckEra
  let c := c.dropCourierPktOrDecapPiggybackedPkt
  if c.hdr.linkradarLossNotification.valid then c.setHoles else c

/-! ## Buffered packets -/

def retrieveLeadingAck (c : Ingress) : Ingress :=
  { c with igMeta := { c.igMeta with
      currLeadingAck :=
        c.regs.regLeadingAck (c.hdr.linkradarBuffered.fields.dstEgPort.setWidth 8) } }

def retrieveLeadingAckEra (c : Ingress) : Ingress :=
  { c with igMeta := { c.igMeta with
      currEra :=
        c.regs.regLeadingAckEra (c.hdr.linkradarBuffered.fields.dstEgPort.setWidth 8) } }

/-- Both numbers are moved by half the range.  This turns the wrap-around between two eras into the
middle of the range, where the comparison of 16-bit numbers is right again. -/
def adjustSeqNos (c : Ingress) : Ingress :=
  { c with igMeta := { c.igMeta with
      bufferedSeqNo := c.igMeta.bufferedSeqNo - seqNumbersHalfRange
      currLeadingAck := c.igMeta.currLeadingAck - seqNumbersHalfRange } }

/-- The four constant entries of `era_correction`; other keys miss. -/
def eraCorrection (c : Ingress) : Ingress :=
  -- the era of the copy has one bit, the register has eight
  match c.hdr.linkradarData.fields.era.toNat, c.igMeta.currEra.toNat with
  | 1, 0 => c.adjustSeqNos
  | 0, 1 => c.adjustSeqNos
  | _, _ => c

def getMinOfSeqLeadingAck (c : Ingress) : Ingress :=
  { c with igMeta := { c.igMeta with
      minVal := P4.min c.igMeta.bufferedSeqNo c.igMeta.currLeadingAck } }

/-- `check_reset_holes_1` … `check_reset_holes_5`: read the bit of the buffered sequence
number in every bitmap and clear it. -/
def checkResetHoles (c : Ingress) : Ingress :=
  let seqNo := c.hdr.linkradarData.fields.seqNo
  { c with
    igMeta := { c.igMeta with
      isMissingHole1 := c.regs.regHoles1 seqNo
      isMissingHole2 := c.regs.regHoles2 seqNo
      isMissingHole3 := c.regs.regHoles3 seqNo
      isMissingHole4 := c.regs.regHoles4 seqNo
      isMissingHole5 := c.regs.regHoles5 seqNo }
    regs := { c.regs with
      regHoles1 := c.regs.regHoles1.write seqNo 0
      regHoles2 := c.regs.regHoles2.write seqNo 0
      regHoles3 := c.regs.regHoles3.write seqNo 0
      regHoles4 := c.regs.regHoles4.write seqNo 0
      regHoles5 := c.regs.regHoles5.write seqNo 0 } }

/-- `retx` goes to the test behind the table, and keeps the copy from `l2_forward`. -/
def setBufferedPktRetx (c : Ingress) : Ingress :=
  { c with igMeta := { c.igMeta with retx := 1 } }

def dropBufferedPkt (c : Ingress) : Ingress :=
  { c with igMeta := { c.igMeta with retx := 0 } }.drop

def decideRetxOrDrop (c : Ingress) : Ingress :=
  if c.igMeta.isMissingHole1 = 1 ∨ c.igMeta.isMissingHole2 = 1 ∨ c.igMeta.isMissingHole3 = 1 ∨
      c.igMeta.isMissingHole4 = 1 ∨ c.igMeta.isMissingHole5 = 1 then
    c.setBufferedPktRetx
  else c.dropBufferedPkt

/-- What both `do_retx_buffered_pkt_*` actions do besides choosing the destination. -/
def doRetxBufferedPkt (c : Ingress) : Ingress :=
  { c with
    qid := retxQid
    hdr := { c.hdr with
      linkradarBuffered := c.hdr.linkradarBuffered.setInvalid
      linkradarData := c.hdr.linkradarData.modify fun d => { d with reTx := 1 } }
    bypassEgress := 1 }

def doRetxBufferedPktUcast (c : Ingress) : Ingress :=
  { c with ucastEgressPort := c.hdr.linkradarBuffered.fields.dstEgPort }.doRetxBufferedPkt

def doRetxBufferedPktMcast (grpId : MulticastGroupId) (c : Ingress) : Ingress :=
  { c with mcastGrpA := grpId }.doRetxBufferedPkt

def retxMcastBufferedPkt (t : IngressTables) (c : Ingress) : Ingress :=
  match t.retxMcastBufferedPkt c.hdr.linkradarBuffered.fields.dstEgPort with
  | some .doRetxBufferedPktUcast => c.doRetxBufferedPktUcast
  | some (.doRetxBufferedPktMcast grpId) => c.doRetxBufferedPktMcast grpId
  -- no destination is set, and `retx` keeps the copy from `l2_forward`, too
  | none => c

def recirculate (c : Ingress) : Ingress :=
  { c with ucastEgressPort := recircLpbkPort, bypassEgress := 1 }

/-- A buffered copy waits for the leading ack of the port it is for. -/
def bufferedBranch (t : IngressTables) (c : Ingress) : Ingress :=
  let c := c.retrieveLeadingAck
  let c := c.retrieveLeadingAckEra
  let c := c.eraCorrection
  let c := c.getMinOfSeqLeadingAck
  -- the two lines of the source that stand for `≤`
  if c.igMeta.minVal = c.igMeta.bufferedSeqNo then
    -- the copy leaves the loop in any case, and takes its hole bits with it
    let c := c.checkResetHoles
    let c := c.decideRetxOrDrop
    if c.igMeta.retx = 1 then c.retxMcastBufferedPkt t else c
  else c.recirculate

/-! ## The control -/

def apply (t : IngressTables) (c : Ingress) : Ingress :=
  let c := if c.hdr.pktgenTimer.valid then c.removePktgenAddEther.limitPktgenTraffic t else c
  let c :=
    if c.hdr.linkradarLack.valid then c.lackBranch
    else if c.hdr.linkradarBuffered.valid then c.bufferedBranch t
    else c
  -- a retransmitted copy has lost its header by now, so that the test needs `retx` as well
  let c :=
    if !c.hdr.linkradarBuffered.valid ∧ c.igMeta.retx ≠ 1 then c.l2Forward t else c
  if c.bypassEgress = 0 then c.addBridgedMetadata else c

end Ingress

end LinkGuardian.Sender
