import LinkGuardian.Dataplane.Sender.Egress

/-!
# Sender switch: parsers and deparsers

`sender/includes/parser.p4` on bit strings, and the metadata the parsers set as a function of
the headers.  The mirror header for affected flows is left out, since no live code emits it.
-/

namespace LinkGuardian.Sender

open P4 WireFormat

/-! ## Formats of the sender's own headers -/

def internalHdrFormat : WireFormat InternalHdr :=
  ((bits 4).pair (bits 4)).iso
  { toFun := fun ⟨a, b⟩ => ⟨a, b⟩
    invFun := fun ⟨a, b⟩ => ⟨a, b⟩
    left_inv := fun _ => rfl
    right_inv := fun _ => rfl }

def egMirrorBufferedPktFormat : WireFormat EgMirrorBufferedPkt :=
  ((bits 4).pair ((bits 4).pair ((bits 6).pair ((bits 1).pair (bits 9))))).iso
  { toFun := fun ⟨a, b, c, d, e⟩ => ⟨a, b, c, d, e⟩
    invFun := fun ⟨a, b, c, d, e⟩ => ⟨a, b, c, d, e⟩
    left_inv := fun _ => rfl
    right_inv := fun _ => rfl }

/-- `pkt.emit(hdr)` followed by the unparsed payload. -/
def Hdr.emit (h : Hdr) (payload : List Bool) : List Bool :=
  h.bridgedMeta.emit internalHdrFormat ++ h.pktgenTimer.emit pktgenTimerFormat ++
  h.remainingEthernet.emit remainingEthernetFormat ++ h.ethernet.emit ethernetFormat ++
  h.linkradarBuffered.emit linkradarBufferedFormat ++
  h.linkradarData.emit linkradarDataFormat ++ h.linkradarLack.emit linkradarLackFormat ++
  h.linkradarLossNotification.emit linkradarLossNotificationFormat ++
  h.ipv4.emit ipv4Format ++ h.arp.emit arpFormat ++ h.tcp.emit tcpFormat ++
  h.udp.emit udpFormat ++ payload

/-- Headers and unparsed payload, as a parser leaves them. -/
abbrev Parsed := Hdr × List Bool

/-- `pkt.extract(hdr.field)`: read a header off the payload and store it. -/
def extractInto {α : Type} (F : WireFormat α) (store : Hdr → α → Hdr) (p : Parsed) :
    Option Parsed :=
  (F.extract p.2).map fun q => (store p.1 q.1, q.2)

/-- `pkt.lookahead<T>()` -/
def lookahead {α : Type} (F : WireFormat α) (p : Parsed) : Option α :=
  (F.extract p.2).map Prod.fst

def extractEthernet : Parsed → Option Parsed :=
  extractInto ethernetFormat fun h a => { h with ethernet := .of a }

def extractLinkradarData : Parsed → Option Parsed :=
  extractInto linkradarDataFormat fun h a => { h with linkradarData := .of a }

def extractLinkradarLack : Parsed → Option Parsed :=
  extractInto linkradarLackFormat fun h a => { h with linkradarLack := .of a }

def extractLinkradarLossNotification : Parsed → Option Parsed :=
  extractInto linkradarLossNotificationFormat fun h a =>
    { h with linkradarLossNotification := .of a }

def extractLinkradarBuffered : Parsed → Option Parsed :=
  extractInto linkradarBufferedFormat fun h a => { h with linkradarBuffered := .of a }

def extractArp : Parsed → Option Parsed :=
  extractInto arpFormat fun h a => { h with arp := .of a }

def extractIpv4 : Parsed → Option Parsed :=
  extractInto ipv4Format fun h a => { h with ipv4 := .of a }

def extractTcp : Parsed → Option Parsed :=
  extractInto tcpFormat fun h a => { h with tcp := .of a }

def extractUdp : Parsed → Option Parsed :=
  extractInto udpFormat fun h a => { h with udp := .of a }

/-- `hdr.ipv4.hdr_checksum = ipv4_checksum.update(…)` of both deparsers. -/
def Hdr.updateChecksum (h : Hdr) : Hdr := { h with ipv4 := h.ipv4.modify Ipv4.updateChecksum }

/-! ## Ingress -/

namespace IngressParser

def parseIpv4 (p : Parsed) : Option Parsed := do
  let p ← extractIpv4 p
  if p.1.ipv4.fields.protocol = ipProtocolTcp then extractTcp p
  else if p.1.ipv4.fields.protocol = ipProtocolUdp then extractUdp p
  else some p

def parseLinkradar (p : Parsed) : Option Parsed := do
  let lrHdrType ← lookahead (bits 2) p
  if lrHdrType = linkradarHdrTypeData then extractLinkradarData p
  else if lrHdrType = linkradarHdrTypeLack then extractLinkradarLack p
  else if lrHdrType = linkradarHdrTypeLackLossNotify then
    (extractLinkradarLack p).bind extractLinkradarLossNotification
  else (extractLinkradarBuffered p).bind extractLinkradarData

def parseEthernet (p : Parsed) : Option Parsed := do
  let p ← extractEthernet p
  if p.1.ethernet.fields.etherType = EtherType.ipv4 then parseIpv4 p
  else if p.1.ethernet.fields.etherType = EtherType.arp then extractArp p
  else if p.1.ethernet.fields.etherType = EtherType.linkradar then parseLinkradar p
  else some p

def parsePktgenTimer (p : Parsed) : Option Parsed := do
  let p ← extractInto pktgenTimerFormat (fun h a => { h with pktgenTimer := .of a }) p
  extractInto remainingEthernetFormat (fun h a => { h with remainingEthernet := .of a }) p

/-- `parse_pktgen_or_ethernet`, on the bits after the intrinsic and port metadata. -/
def parse (bs : List Bool) : Option Parsed := do
  let p : Parsed := (default, bs)
  let ethernetLookahead ← lookahead ethernetFormat p
  if ethernetLookahead.etherType = EtherType.pktgen then parsePktgenTimer p
  else parseEthernet p

end IngressParser

/-- `ig_meta` as the ingress parser leaves it: the copies of header fields it takes. -/
def IgMeta.start (hdr : Hdr) : IgMeta :=
  { (default : IgMeta) with
    firstLostSeqNoCopy :=
      if hdr.linkradarLossNotification.valid then
        hdr.linkradarLossNotification.fields.firstLostSeqNo
      else 0
    bufferedSeqNo :=
      if hdr.linkradarBuffered.valid then hdr.linkradarData.fields.seqNo else 0 }

/-- A packet at the start of the ingress control. -/
def Ingress.start (regs : IngressRegs) (ingressPort : PortId) (globalTstamp : BitVec 48)
    (hdr : Hdr) : Ingress where
  hdr := hdr
  igMeta := .start hdr
  ingressPort := ingressPort
  globalTstamp := globalTstamp
  dropCtl := 0
  ucastEgressPort := 0
  mcastGrpA := 0
  qid := 0
  bypassEgress := 0
  regs := regs

/-- `SwitchIngressDeparser`. -/
def Ingress.deparse (c : Ingress) (payload : List Bool) : List Bool :=
  c.hdr.updateChecksum.emit payload

/-! ## Egress -/

/-- Headers, unparsed payload and metadata, as the egress parser leaves them. -/
structure EgressParsed where
  hdr : Hdr
  egMeta : EgMeta
  payload : List Bool

/-- `eg_meta` for a packet with these headers: RoCEv2 is recognized by its UDP port. -/
def EgMeta.ofHdr (hdr : Hdr) : EgMeta :=
  { (default : EgMeta) with
    isRoceV2 :=
      if hdr.udp.valid ∧ hdr.udp.fields.dstPort = udpPortRoceV2 then 1 else 0 }

namespace EgressParser

def parseLinkradar (p : Parsed) : Option Parsed := do
  let lrHdrType ← lookahead (bits 2) p
  if lrHdrType = linkradarHdrTypeTxBuffered then
    (extractLinkradarBuffered p).bind extractLinkradarData
  else if lrHdrType = linkradarHdrTypeData then extractLinkradarData p
  else some p

def parseIpv4 (p : Parsed) : Option Parsed := do
  let p ← extractIpv4 p
  if p.1.ipv4.fields.protocol = ipProtocolUdp then extractUdp p else some p

def parseEthernet (p : Parsed) : Option Parsed := do
  let p ← extractEthernet p
  if p.1.ethernet.fields.etherType = EtherType.linkradar then parseLinkradar p
  else if p.1.ethernet.fields.etherType = EtherType.ipv4 then parseIpv4 p
  else some p

/-- `start`, on the bits after the intrinsic metadata. -/
def parse (bs : List Bool) : Option EgressParsed := do
  let p : Parsed := (default, bs)
  let internalHdr ← lookahead internalHdrFormat p
  if internalHdr.type = internalHdrTypeBridgedMeta then
    let (b, rest) ← internalHdrFormat.extract bs
    let p ← parseEthernet (default, rest)
    some ⟨p.1, { EgMeta.ofHdr p.1 with bridgedMeta := .of b }, p.2⟩
  else if internalHdr.type = internalHdrTypeEgMirror ∧
      internalHdr.info = egMirrorBufferedPktType.setWidth 4 then
    let (m, rest) ← egMirrorBufferedPktFormat.extract bs
    let p ← (extractEthernet (default, rest)).bind extractLinkradarData
    some ⟨p.1, { (default : EgMeta) with egMirrorBufferedPkt := .of m }, p.2⟩
  else if internalHdr.type = internalHdrTypeEgMirror ∧
      internalHdr.info = egMirrorDummyPktType.setWidth 4 then
    let (b, rest) ← internalHdrFormat.extract bs
    let p ← parseEthernet (default, rest)
    some ⟨p.1, { EgMeta.ofHdr p.1 with egMirrorDummyPkt := .of b }, p.2⟩
  else none

end EgressParser

/-- A packet at the start of the egress control. -/
def Egress.start (regs : EgressRegs) (egressPort : PortId) (deqQdepth : BitVec 19)
    (random : BitVec 8) (hdr : Hdr) (egMeta : EgMeta) : Egress where
  hdr := hdr
  egMeta := egMeta
  egressPort := egressPort
  deqQdepth := deqQdepth
  random := random
  dropCtl := 0
  mirrorType := 0
  regs := regs

/-- `SwitchEgressDeparser`, the packet itself. -/
def Egress.deparse (c : Egress) (payload : List Bool) : List Bool :=
  c.hdr.updateChecksum.emit payload

/-- What the egress deparser mirrors. -/
inductive EgMirror
  | bufferedPkt (h : EgMirrorBufferedPkt)
  | dummyPkt (h : InternalHdr)
deriving DecidableEq, Repr

/-- `mirror.emit` of `SwitchEgressDeparser`. -/
def Egress.mirrorEmit (c : Egress) : Option EgMirror :=
  if c.mirrorType = egMirrorBufferedPktType then
    some (.bufferedPkt
      { type := c.egMeta.internalHdrType
        info := c.egMeta.internalHdrInfo
        pad := 0
        emulatedDropped := c.egMeta.emulatedDropped
        dstEgPort := c.egMeta.dstEgPort })
  else if c.mirrorType = egMirrorDummyPktType then
    some (.dummyPkt ⟨c.egMeta.internalHdrType, c.egMeta.internalHdrInfo⟩)
  else none

end LinkGuardian.Sender
