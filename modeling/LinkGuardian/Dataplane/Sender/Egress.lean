import LinkGuardian.Dataplane.Sender.Ingress

/-!
# Sender switch: egress control

`SwitchEgress` of `sender/sender.p4`: ECN marking, the stamping of protected packets
(`protect`, the era and the request for a buffered copy), the header of buffered copies, and
the dummy packets that carry the number of the next packet.  Statistics counters are left out.

A number is stamped here and not in the ingress, since here the packets of a port have the order in
which they leave.  The copy for the buffer is mirrored from the same pass, so that it carries the
number and the era of its original.
-/

namespace LinkGuardian.Sender

open P4

def egMirrorBufferedPktType : BitVec 3 := 1
def egMirrorDummyPktType : BitVec 3 := 2

/-- `eg_mirror_buffered_pkt_h` -/
structure EgMirrorBufferedPkt where
  type : BitVec 4
  info : BitVec 4
  pad : BitVec 6
  emulatedDropped : BitVec 1
  dstEgPort : PortId
deriving DecidableEq, Repr, Inhabited

/-- `eg_metadata_t` -/
structure EgMeta where
  internalHdrType : BitVec 4
  internalHdrInfo : BitVec 4
  mirrorSession : MirrorId
  bridgedMeta : Header InternalHdr
  egMirrorBufferedPkt : Header EgMirrorBufferedPkt
  egMirrorDummyPkt : Header InternalHdr
  corruptionSeqNo : SeqNo
  emulateCorruption : BitVec 1
  isDummyPktPending : BitVec 1
  dummyPktNotifyMaxCount : BitVec 8
  emulatedDropped : BitVec 1
  dstEgPort : PortId
  markEcnCodepoint : BitVec 1
  isRoceV2 : BitVec 1
  dcqcnProbOutput : BitVec 8
  dcqcnRandomNumber : BitVec 8
deriving DecidableEq, Repr, Inhabited

/-- The registers of `SwitchEgress`. -/
structure EgressRegs where
  regSeqNo : Register (BitVec 8) SeqNo
  regEra : Register (BitVec 8) (BitVec 8)
  regDummyPktNotifyCount : Register (BitVec 8) (BitVec 8)
  regCorruptionSeqNo : Register (BitVec 8) SeqNo
  regEcnMarkingThreshold : BitVec 32

/-- Power-on contents. -/
def EgressRegs.init : EgressRegs where
  regSeqNo := fun _ => 0
  regEra := fun _ => 0
  regDummyPktNotifyCount := fun _ => 0
  regCorruptionSeqNo := fun _ => 0
  regEcnMarkingThreshold := 524287

/-- The parameters of a `link_protect` entry. -/
structure ProtectParams where
  dummyPktMaxCount : BitVec 8
  blockingMode : BitVec 1
deriving DecidableEq, Repr

/-- Table contents installed by the control plane. -/
structure EgressTables where
  linkProtect : Table PortId ProtectParams
  copyPktForBuffering : Table PortId MirrorId
  mirrorDummyPkt : Table PortId MirrorId
  decideToEmulateCorruption : BitVec 8 → Bool
  emulateCorruption : SeqNo → Bool
  /-- the range table; its default is `dcqcn_mark_probability(0)` -/
  dcqcnGetEcnProbability : BitVec 19 → BitVec 8
  dcqcnCompareProbability : BitVec 8 → BitVec 8 → Bool

/-- Everything `SwitchEgress` reads and writes for one packet. -/
structure Egress where
  hdr : Hdr
  egMeta : EgMeta
  egressPort : PortId
  deqQdepth : BitVec 19
  /-- what `random.get()` would return for this packet -/
  random : BitVec 8
  dropCtl : BitVec 3
  mirrorType : BitVec 3
  regs : EgressRegs

namespace Egress

/-- The register index of the packet's port, `egress_port[7:0]`. -/
def portIdx (c : Egress) : BitVec 8 := c.egressPort.setWidth 8

def drop (c : Egress) : Egress := { c with dropCtl := 1 }

/-! ## ECN marking -/

/-- The depth of the queue gives a value, and the value and a random number decide whether a packet
is marked.  A miss of the second table leaves the mark as it is. -/
def dcqcnMarking (t : EgressTables) (c : Egress) : Egress :=
  let prob := t.dcqcnGetEcnProbability c.deqQdepth
  { c with egMeta := { c.egMeta with
      dcqcnProbOutput := prob
      dcqcnRandomNumber := c.random
      markEcnCodepoint :=
        if t.dcqcnCompareProbability prob c.random then 1 else c.egMeta.markEcnCodepoint } }

def checkEcnMarkingThreshold (c : Egress) : Egress :=
  { c with egMeta := { c.egMeta with
      markEcnCodepoint :=
        if c.deqQdepth.setWidth 32 ≥ c.regs.regEcnMarkingThreshold then 1 else 0 } }

def markEcnCeCodepoint (c : Egress) : Egress :=
  { c with hdr := { c.hdr with ipv4 := c.hdr.ipv4.modify fun h => { h with ecn := 0b11 } } }

def ecnMarking (t : EgressTables) (c : Egress) : Egress :=
  -- ECT(1) or ECT(0); the fields are read without a test that the IPv4 header is valid
  if c.hdr.ipv4.fields.ecn = 0b01 ∨ c.hdr.ipv4.fields.ecn = 0b10 then
    let c := if c.egMeta.isRoceV2 = 1 then c.dcqcnMarking t else c.checkEcnMarkingThreshold
    if c.egMeta.markEcnCodepoint = 1 then c.markEcnCeCodepoint else c
  else c

/-! ## Protection of normal packets -/

/-- `protect`: encapsulate with the next sequence number of the port.  The era is filled in later,
once it is known whether this is the last number of its era. -/
def protect (p : ProtectParams) (c : Egress) : Egress :=
  { c with
    hdr := { c.hdr with
      ethernet := c.hdr.ethernet.modify fun e => { e with etherType := EtherType.linkradar }
      linkradarData := .of
        { type := linkradarHdrTypeData
          pad := 0
          era := 0
          reTx := 0
          dummy := 0
          blockingMode := p.blockingMode
          rxBuffered := 0
          seqNo := c.regs.regSeqNo c.portIdx } }
    egMeta := { c.egMeta with dummyPktNotifyMaxCount := p.dummyPktMaxCount }
    regs := { c.regs with
      regSeqNo := c.regs.regSeqNo.write c.portIdx (c.regs.regSeqNo c.portIdx + 1) } }

def linkProtect (t : EgressTables) (c : Egress) : Egress :=
  match t.linkProtect c.egressPort with
  | some p => c.protect p
  | none => c

/-- `copy_for_buffering`: ask the deparser for the mirror copy that will be buffered. -/
def copyForBuffering (mirrorSession : MirrorId) (c : Egress) : Egress :=
  { c with
    mirrorType := egMirrorBufferedPktType
    egMeta := { c.egMeta with
      mirrorSession := mirrorSession
      internalHdrType := internalHdrTypeEgMirror
      internalHdrInfo := egMirrorBufferedPktType.setWidth 4
      emulatedDropped := 0
      dstEgPort := c.egressPort } }

def copyPktForBuffering (t : EgressTables) (c : Egress) : Egress :=
  match t.copyPktForBuffering c.egressPort with
  | some session => c.copyForBuffering session
  | none => c

/-- Each protected packet may be the last one, and starts the count of dummies anew. -/
def setDummyPktNotifyMaxCount (c : Egress) : Egress :=
  { c with regs := { c.regs with
      regDummyPktNotifyCount :=
        c.regs.regDummyPktNotifyCount.write c.portIdx c.egMeta.dummyPktNotifyMaxCount } }

/-- `action_get_era`: the low bit of the era register. -/
def getEra (c : Egress) : Egress :=
  { c with hdr := { c.hdr with
      linkradarData := c.hdr.linkradarData.modify fun d =>
        { d with era := (c.regs.regEra c.portIdx).setWidth 1 } } }

/-- `action_get_update_era`: read the era, then toggle it. -/
def getUpdateEra (c : Egress) : Egress :=
  { c.getEra with regs := { c.regs with
      regEra := c.regs.regEra.write c.portIdx (~~~ c.regs.regEra c.portIdx) } }

/-- What follows `link_protect` when it hit. -/
def protectedBranch (t : EgressTables) (c : Egress) : Egress :=
  let c := c.copyPktForBuffering t
  let c := c.setDummyPktNotifyMaxCount
  -- the last number belongs to the era that it ends: the bit is read before it is toggled
  if c.hdr.linkradarData.fields.seqNo = maxSeqNo then c.getUpdateEra else c.getEra

/-- Emulated corruption drops the packet by the value of a per-port packet counter, which runs on
unprotected ports as well.  Only the packet is dropped: its mirror copy has been asked for. -/
def emulateCorruption (t : EgressTables) (c : Egress) : Egress :=
  let emulate := t.decideToEmulateCorruption c.portIdx
  let seqNo := c.regs.regCorruptionSeqNo c.portIdx
  let c := { c with
    egMeta := { c.egMeta with
      emulateCorruption := if emulate then 1 else c.egMeta.emulateCorruption
      corruptionSeqNo := seqNo }
    regs := { c.regs with
      regCorruptionSeqNo := c.regs.regCorruptionSeqNo.write c.portIdx (seqNo + 1) } }
  if c.egMeta.emulateCorruption = 1 ∧ t.emulateCorruption seqNo then c.drop else c

/-- A packet without a LinkRadar data header. -/
def normalBranch (t : EgressTables) (c : Egress) : Egress :=
  let c := c.ecnMarking t
  let c := c.linkProtect t
  -- valid now means that the table has hit
  let c := if c.hdr.linkradarData.valid then c.protectedBranch t else c
  c.emulateCorruption t

/-! ## Buffered copies and dummy packets -/

def addLinkradarBufferedHdr (c : Egress) : Egress :=
  { c with hdr := { c.hdr with
      linkradarBuffered := c.hdr.linkradarBuffered.setValid.modify fun b =>
        { b with type := linkradarHdrTypeTxBuffered } } }

def fillDataLinkradarBufferedHdr (c : Egress) : Egress :=
  { c with hdr := { c.hdr with
      linkradarBuffered := c.hdr.linkradarBuffered.modify fun b =>
        { b with dstEgPort := c.egMeta.egMirrorBufferedPkt.fields.dstEgPort } } }

/-- A dummy carries the number of the packet to come, and takes none for itself. -/
def addCurrSeqNoToDummy (c : Egress) : Egress :=
  { c with hdr := { c.hdr with
      linkradarData := c.hdr.linkradarData.modify fun d =>
        { d with seqNo := c.regs.regSeqNo c.portIdx } } }

def mirrorDummyPkt (t : EgressTables) (c : Egress) : Egress :=
  match t.mirrorDummyPkt c.egressPort with
  | some session =>
    { c with
      mirrorType := egMirrorDummyPktType
      egMeta := { c.egMeta with
        internalHdrType := internalHdrTypeEgMirror
        internalHdrInfo := egMirrorDummyPktType.setWidth 4
        mirrorSession := session } }
  | none => c

/-- `do_check_if_dummy_pkt_pending`: count down the dummies still owed for the last packet. -/
def checkIfDummyPktPending (c : Egress) : Egress :=
  let count := c.regs.regDummyPktNotifyCount c.portIdx
  if count > 0 then
    { c with
      egMeta := { c.egMeta with isDummyPktPending := 1 }
      regs := { c.regs with
        regDummyPktNotifyCount := c.regs.regDummyPktNotifyCount.write c.portIdx (count - 1) } }
  else { c with egMeta := { c.egMeta with isDummyPktPending := 0 } }

/-- A dummy circles for ever, since each pass mirrors the next one, but only those that are still
owed for the last packet go onto the link. -/
def dummyBranch (t : EgressTables) (c : Egress) : Egress :=
  let c := c.addCurrSeqNoToDummy
  let c := c.getEra
  -- the mirror copy is taken whether or not this one is dropped below
  let c := c.mirrorDummyPkt t
  let c := c.checkIfDummyPktPending
  if c.egMeta.isDummyPktPending = 0 then c.drop else c

/-! ## The control -/

def apply (t : EgressTables) (c : Egress) : Egress :=
  let c :=
    if !c.hdr.linkradarData.valid then c.normalBranch t
    else if c.egMeta.egMirrorBufferedPkt.valid then
      c.addLinkradarBufferedHdr.fillDataLinkradarBufferedHdr
    else if c.hdr.linkradarData.fields.dummy = 1 then c.dummyBranch t
    -- the source has no other case
    else c
  { c with hdr := { c.hdr with bridgedMeta := c.hdr.bridgedMeta.setInvalid } }

end Egress

end LinkGuardian.Sender
