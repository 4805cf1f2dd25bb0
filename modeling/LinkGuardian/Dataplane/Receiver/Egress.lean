import LinkGuardian.Dataplane.Receiver.Ingress

/-!
# Receiver switch: egress control

`SwitchEgress` of `receiver/receiver.p4`: the leading-ack registers fed by mirrored lack
updates, loss notifications, the piggybacking of leading acks on normal and courier packets,
and the PFC requests driven by the depth of the receiver buffer.  Statistics and time records
are left out.

There are two ways for a leading ack to the sender.  A lack update waits in a register for the next
packets that leave towards the sender, normal ones or couriers, and a fixed number of them carries
it.  A loss notification is a packet of its own and carries its leading ack with it.
-/

namespace LinkGuardian.Receiver

open P4

def egMirrorCourierPkt : BitVec 3 := 1
def pauseFrameMcastRid : BitVec 16 := 9999
def maxPfcQuanta : BitVec 16 := 65535

def pfcGenReqDrop : BitVec 8 := 0
def pfcGenReqPause : BitVec 8 := 1
def pfcGenReqResume : BitVec 8 := 2

def pfcStateResumed : BitVec 8 := 0
def pfcStatePaused : BitVec 8 := 1

/-- `ig_mirror_lack_update_h` -/
structure IgMirrorLackUpdate where
  type : BitVec 4
  info : BitVec 4
  ingressPort : BitVec 8
  leadingAck : SeqNo
  pad : BitVec 7
  leadingAckEra : BitVec 1
deriving DecidableEq, Repr, Inhabited

/-- `ig_mirror_loss_notification_h` -/
structure IgMirrorLossNotification where
  type : BitVec 4
  info : BitVec 4
  holeSize : SeqNo
  firstLostSeqNo : SeqNo
  leadingAck : SeqNo
  pad : BitVec 7
  leadingAckEra : BitVec 1
deriving DecidableEq, Repr, Inhabited

/-- `eg_metadata_t` -/
structure EgMeta where
  bridgedMeta : Header InternalHdr
  igMirrorLackUpdate : Header IgMirrorLackUpdate
  igMirrorLossNotification : Header IgMirrorLossNotification
  egMirrorCourierPkt : Header InternalHdr
  leadingAckNotifyMaxCount : BitVec 8
  isLackPending : BitVec 1
  exceededRecircBufferPfcPauseThreshold : BitVec 1
  subceededRecircBufferPfcResumeThreshold : BitVec 1
  shouldSendPfcPause : BitVec 1
  shouldSendPfcResume : BitVec 1
  pfcGenReq : BitVec 8
  eitherRxBufferedOrTimerPfc : BitVec 1
  mirrorSession : MirrorId
  internalHdrType : BitVec 4
  internalHdrInfo : BitVec 4
deriving DecidableEq, Repr, Inhabited

/-- The registers of `SwitchEgress`; the single-cell ones are indexed by `0` throughout. -/
structure EgressRegs where
  regLeadingAck : Register (BitVec 8) SeqNo
  regLeadingAckEra : Register (BitVec 8) (BitVec 8)
  regLeadingAckNotifyCount : Register (BitVec 8) (BitVec 8)
  regRecircBufferPfcPauseThreshold : BitVec 32
  regRecircBufferPfcResumeThreshold : BitVec 32
  regPfcCurrState : BitVec 8
  regPfcGenReq : BitVec 8

/-- Power-on contents. -/
def EgressRegs.init : EgressRegs where
  regLeadingAck := fun _ => 0
  regLeadingAckEra := fun _ => 0
  regLeadingAckNotifyCount := fun _ => 0
  regRecircBufferPfcPauseThreshold := 524287
  regRecircBufferPfcResumeThreshold := 0
  regPfcCurrState := pfcStateResumed
  regPfcGenReq := pfcGenReqDrop

/-- Table contents installed by the control plane. -/
structure EgressTables where
  getLeadingAckNotifyMaxCount : Table (BitVec 8) (BitVec 8)
  getCourierPktMirrorSession : Table PortId MirrorId
  addPfcC1Quanta : Table PortId (BitVec 16)

/-- Everything `SwitchEgress` reads and writes for one packet. -/
structure Egress where
  hdr : Hdr
  egMeta : EgMeta
  egressPort : PortId
  egressRid : BitVec 16
  deqQdepth : BitVec 19
  dropCtl : BitVec 3
  mirrorType : BitVec 3
  regs : EgressRegs

namespace Egress

/-- The register index of the packet's port, `egress_port[7:0]`. -/
def portIdx (c : Egress) : BitVec 8 := c.egressPort.setWidth 8

def drop (c : Egress) : Egress := { c with dropCtl := 0x1 }

/-! ## Lack updates -/

def getLeadingAckNotifyMaxCount (t : EgressTables) (c : Egress) : Egress :=
  match t.getLeadingAckNotifyMaxCount c.egMeta.igMirrorLackUpdate.fields.ingressPort with
  | some count => { c with egMeta := { c.egMeta with leadingAckNotifyMaxCount := count } }
  | none => c

def setLeadingAckNotifyMaxCount (c : Egress) : Egress :=
  { c with regs := { c.regs with
      regLeadingAckNotifyCount := c.regs.regLeadingAckNotifyCount.write
        c.egMeta.igMirrorLackUpdate.fields.ingressPort c.egMeta.leadingAckNotifyMaxCount } }

def recordLeadingAck (c : Egress) : Egress :=
  { c with regs := { c.regs with
      regLeadingAck := c.regs.regLeadingAck.write
        c.egMeta.igMirrorLackUpdate.fields.ingressPort
        c.egMeta.igMirrorLackUpdate.fields.leadingAck } }

def recordLeadingAckEra (c : Egress) : Egress :=
  { c with regs := { c.regs with
      regLeadingAckEra := c.regs.regLeadingAckEra.write
        c.egMeta.igMirrorLackUpdate.fields.ingressPort
        (c.egMeta.igMirrorLackUpdate.fields.leadingAckEra.setWidth 8) } }

def lackUpdateBranch (t : EgressTables) (c : Egress) : Egress :=
  -- on a miss the count is what the metadata had from the parser
  let c := c.getLeadingAckNotifyMaxCount t
  let c := c.setLeadingAckNotifyMaxCount
  c.recordLeadingAck.recordLeadingAckEra.drop

/-! ## Loss notifications -/

def addEthernetPfcHdr (c : Egress) : Egress :=
  { c with hdr := { c.hdr with
      ethernet := c.hdr.ethernet.modify fun _ =>
        ⟨pausePfcEtherDstAddr, pausePfcEtherSrcAddr, EtherType.pausePfc⟩
      etherPfc := c.hdr.etherPfc.setValid.modify fun h =>
        { h with opCode := pfcOpCode, c1Enabled := 1 } } }

def addPfcC1Quanta (t : EgressTables) (c : Egress) : Egress :=
  match t.addPfcC1Quanta c.egressPort with
  | some c1Quanta =>
    { c with hdr := { c.hdr with
        etherPfc := c.hdr.etherPfc.modify fun h => { h with c1Quanta := c1Quanta } } }
  | none => c

def addLackLossNotificationHdrs (c : Egress) : Egress :=
  { c with hdr := { c.hdr with
      ethernet := c.hdr.ethernet.modify fun _ =>
        ⟨senderSwAddr, receiverSwAddr, EtherType.linkradar⟩
      linkradarLack := c.hdr.linkradarLack.setValid.modify fun h =>
        { h with type := linkradarHdrTypeLackLossNotify, isPiggyBacked := 0 }
      linkradarLossNotification := c.hdr.linkradarLossNotification.setValid } }

def copyDataToLossNotificationHdrs (c : Egress) : Egress :=
  let m := c.egMeta.igMirrorLossNotification.fields
  { c with hdr := { c.hdr with
      linkradarLack := c.hdr.linkradarLack.modify fun h =>
        { h with leadingAck := m.leadingAck, era := m.leadingAckEra }
      linkradarLossNotification := c.hdr.linkradarLossNotification.modify fun _ =>
        ⟨m.holeSize.setWidth 8, m.firstLostSeqNo⟩ } }

/-- The notification tells the sender a newer leading ack than the register has, and what is still
owed of reports for that one is called off. -/
def setLeadingAckNotifyMaxCountToZero (c : Egress) : Egress :=
  { c with regs := { c.regs with
      regLeadingAckNotifyCount := c.regs.regLeadingAckNotifyCount.write c.portIdx 0 } }

def lossNotificationBranch (t : EgressTables) (c : Egress) : Egress :=
  -- the mirror copy may be replicated: one replica becomes a pause frame
  if c.egressRid = pauseFrameMcastRid then c.addEthernetPfcHdr.addPfcC1Quanta t
  else
    c.addLackLossNotificationHdrs.copyDataToLossNotificationHdrs.setLeadingAckNotifyMaxCountToZero

/-! ## Pausing the sender by the depth of the receiver buffer -/

def checkRecircBufferPfcPauseThreshold (c : Egress) : Egress :=
  { c with egMeta := { c.egMeta with
      exceededRecircBufferPfcPauseThreshold :=
        if c.deqQdepth.setWidth 32 ≥ c.regs.regRecircBufferPfcPauseThreshold then 1 else 0 } }

def checkRecircBufferPfcResumeThreshold (c : Egress) : Egress :=
  { c with egMeta := { c.egMeta with
      subceededRecircBufferPfcResumeThreshold :=
        if c.deqQdepth.setWidth 32 ≤ c.regs.regRecircBufferPfcResumeThreshold then 1 else 0 } }

def checkUpdatePfcPauseState (c : Egress) : Egress :=
  if c.regs.regPfcCurrState = pfcStatePaused then
    { c with egMeta := { c.egMeta with shouldSendPfcPause := 0 } }
  else
    { c with
      egMeta := { c.egMeta with shouldSendPfcPause := 1 }
      regs := { c.regs with regPfcCurrState := pfcStatePaused } }

def checkUpdatePfcResumeState (c : Egress) : Egress :=
  if c.regs.regPfcCurrState = pfcStateResumed then
    { c with egMeta := { c.egMeta with shouldSendPfcResume := 0 } }
  else
    { c with
      egMeta := { c.egMeta with shouldSendPfcResume := 1 }
      regs := { c.regs with regPfcCurrState := pfcStateResumed } }

def scheduleToGeneratePfcPause (c : Egress) : Egress :=
  { c with regs := { c.regs with regPfcGenReq := pfcGenReqPause } }

def scheduleToGeneratePfcResume (c : Egress) : Egress :=
  { c with regs := { c.regs with regPfcGenReq := pfcGenReqResume } }

/-- A packet of the receiver's buffer measures the depth of the queue that it has been in.  Here a
request is only scheduled, and only when the state changes; a timer packet sends it. -/
def rxBufferedBranch (c : Egress) : Egress :=
  let c := c.checkRecircBufferPfcPauseThreshold
  let c := c.checkRecircBufferPfcResumeThreshold
  -- with thresholds that overlap, pausing comes first
  if c.egMeta.exceededRecircBufferPfcPauseThreshold = 1 then
    let c := c.checkUpdatePfcPauseState
    if c.egMeta.shouldSendPfcPause = 1 then c.scheduleToGeneratePfcPause else c
  else if c.egMeta.subceededRecircBufferPfcResumeThreshold = 1 then
    let c := c.checkUpdatePfcResumeState
    if c.egMeta.shouldSendPfcResume = 1 then c.scheduleToGeneratePfcResume else c
  else c

def checkResetPfcGenReq (c : Egress) : Egress :=
  { c with
    egMeta := { c.egMeta with pfcGenReq := c.regs.regPfcGenReq }
    regs := { c.regs with regPfcGenReq := pfcGenReqDrop } }

def transformPfcGenToPause (c : Egress) : Egress :=
  { c with hdr := { c.hdr with
      etherPfc := c.hdr.etherPfc.modify fun h =>
        { h with c1Enabled := 1, c1Quanta := maxPfcQuanta } } }

def transformPfcGenToResume (c : Egress) : Egress :=
  { c with hdr := { c.hdr with
      etherPfc := c.hdr.etherPfc.modify fun h => { h with c1Enabled := 1, c1Quanta := 0 } } }

def genPfcOrDrop (c : Egress) : Egress :=
  if c.egMeta.pfcGenReq = pfcGenReqDrop then c.drop
  else if c.egMeta.pfcGenReq = pfcGenReqPause then c.transformPfcGenToPause
  else if c.egMeta.pfcGenReq = pfcGenReqResume then c.transformPfcGenToResume
  else c

/-! ## Leading acks on normal and courier packets -/

def retrieveLeadingAck (c : Egress) : Egress :=
  { c with hdr := { c.hdr with
      linkradarLack := c.hdr.linkradarLack.modify fun h =>
        { h with leadingAck := c.regs.regLeadingAck c.portIdx } } }

def retrieveLeadingAckEra (c : Egress) : Egress :=
  { c with hdr := { c.hdr with
      linkradarLack := c.hdr.linkradarLack.modify fun h =>
        { h with era := (c.regs.regLeadingAckEra c.portIdx).setWidth 1 } } }

def getCourierPktMirrorSession (t : EgressTables) (c : Egress) : Egress :=
  match t.getCourierPktMirrorSession c.egressPort with
  | some session => { c with egMeta := { c.egMeta with mirrorSession := session } }
  | none => c

/-- `do_check_if_lack_pending`: count down the reports still owed for the leading ack. -/
def checkIfLackPending (c : Egress) : Egress :=
  let count := c.regs.regLeadingAckNotifyCount c.portIdx
  if count > 0 then
    { c with
      egMeta := { c.egMeta with isLackPending := 1 }
      regs := { c.regs with
        regLeadingAckNotifyCount := c.regs.regLeadingAckNotifyCount.write c.portIdx (count - 1) } }
  else { c with egMeta := { c.egMeta with isLackPending := 0 } }

def mirrorCourierPkt (c : Egress) : Egress :=
  { c with
    mirrorType := egMirrorCourierPkt
    egMeta := { c.egMeta with
      internalHdrType := internalHdrTypeEgMirror
      internalHdrInfo := egMirrorCourierPkt.setWidth 4 } }

def addLinkradarLackHdr (c : Egress) : Egress :=
  { c with hdr := { c.hdr with
      ethernet := c.hdr.ethernet.modify fun e => { e with etherType := EtherType.linkradar }
      linkradarLack := c.hdr.linkradarLack.setValid.modify fun h =>
        { h with type := linkradarHdrTypeLack, isPiggyBacked := 1 } } }

/-- The four constant entries of the table.  A lack header that is valid already is a courier's: its
packet is mirrored in any case, to be there for the next report. -/
def addLackHdrOrDropMirrorCourierPkt (c : Egress) : Egress :=
  match decide (c.egMeta.isLackPending = 1), c.hdr.linkradarLack.valid with
  | false, false => c
  | true, false => c.addLinkradarLackHdr
  | false, true => c.mirrorCourierPkt.drop
  | true, true => c.mirrorCourierPkt

def normalOrCourierBranch (t : EgressTables) (c : Egress) : Egress :=
  -- also into a header that is not valid, and may be made so below
  let c := c.retrieveLeadingAck
  let c := c.retrieveLeadingAckEra
  let c := c.getCourierPktMirrorSession t
  let c := c.checkIfLackPending
  c.addLackHdrOrDropMirrorCourierPkt

/-! ## The control -/

def apply (t : EgressTables) (c : Egress) : Egress :=
  let c :=
    if c.egMeta.igMirrorLackUpdate.valid then c.lackUpdateBranch t
    else if c.egMeta.igMirrorLossNotification.valid then c.lossNotificationBranch t
    else if c.egMeta.eitherRxBufferedOrTimerPfc = 1 then
      -- of the two only a packet of the receiver's buffer has this header
      if c.hdr.linkradarRxBuffered.valid then c.rxBufferedBranch
      else c.checkResetPfcGenReq.genPfcOrDrop
    else c.normalOrCourierBranch t
  { c with hdr := { c.hdr with bridgedMeta := c.hdr.bridgedMeta.setInvalid } }

end Egress

end LinkGuardian.Receiver
