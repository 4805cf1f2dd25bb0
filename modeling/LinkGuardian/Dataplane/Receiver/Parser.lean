import LinkGuardian.Dataplane.Receiver.Egress

/-!
# Receiver switch: parsers and deparsers

`receiver/includes/parser.p4` on bit strings.  A parser returns the header vector and the
unparsed rest, which the deparser appends again; the metadata that the parsers set is a
function of the headers (`IgMeta.start`, `EgMeta.ofHdr`), so that the controls can also be run
on header vectors alone.
-/

namespace LinkGuardian.Receiver

open P4 WireFormat

/-! ## Formats of the receiver's own headers -/

def internalHdrFormat : WireFormat InternalHdr :=
  ((bits 4).pair (bits 4)).iso
  { toFun := fun ⟨a, b⟩ => ⟨a, b⟩
    invFun := fun ⟨a, b⟩ => ⟨a, b⟩
    left_inv := fun _ => rfl
    right_inv := fun _ => rfl }

def etherPfcFormat : WireFormat EtherPfc :=
  ((bits 16).pair ((bits 8).pair ((bits 6).pair ((bits 1).pair ((bits 1).pair
    ((bits 16).pair ((bits 16).pair (bits 96)))))))).iso
  { toFun := fun ⟨a, b, c, d, e, f, g, h⟩ => ⟨a, b, c, d, e, f, g, h⟩
    invFun := fun ⟨a, b, c, d, e, f, g, h⟩ => ⟨a, b, c, d, e, f, g, h⟩
    left_inv := fun _ => rfl
    right_inv := fun _ => rfl }

def igMirrorLackUpdateFormat : WireFormat IgMirrorLackUpdate :=
  ((bits 4).pair ((bits 4).pair ((bits 8).pair ((bits 16).pair ((bits 7).pair (bits 1)))))).iso
  { toFun := fun ⟨a, b, c, d, e, f⟩ => ⟨a, b, c, d, e, f⟩
    invFun := fun ⟨a, b, c, d, e, f⟩ => ⟨a, b, c, d, e, f⟩
    left_inv := fun _ => rfl
    right_inv := fun _ => rfl }

def igMirrorLossNotificationFormat : WireFormat IgMirrorLossNotification :=
  ((bits 4).pair ((bits 4).pair ((bits 16).pair ((bits 16).pair ((bits 16).pair
    ((bits 7).pair (bits 1))))))).iso
  { toFun := fun ⟨a, b, c, d, e, f, g⟩ => ⟨a, b, c, d, e, f, g⟩
    invFun := fun ⟨a, b, c, d, e, f, g⟩ => ⟨a, b, c, d, e, f, g⟩
    left_inv := fun _ => rfl
    right_inv := fun _ => rfl }

/-- `pkt.emit(hdr)` followed by the unparsed payload. -/
def Hdr.emit (h : Hdr) (payload : List Bool) : List Bool :=
  h.bridgedMeta.emit internalHdrFormat ++ h.pktgenTimer.emit pktgenTimerFormat ++
  h.remainingEthernet.emit remainingEthernetFormat ++ h.ethernet.emit ethernetFormat ++
  h.etherPfc.emit etherPfcFormat ++ h.arp.emit arpFormat ++
  h.linkradarData.emit linkradarDataFormat ++
  h.linkradarRxBuffered.emit linkradarRxBufferedFormat ++
  h.linkradarLack.emit linkradarLackFormat ++
  h.linkradarLossNotification.emit linkradarLossNotificationFormat ++
  h.ipv4.emit ipv4Format ++ payload

/-- Headers and unparsed payload, as a parser leaves them. -/
abbrev Parsed := Hdr × List Bool

/-- `pkt.extract(hdr.field)`: read a header off the payload and store it. -/
def extractInto {α : Type} (F : WireFormat α) (store : Hdr → α → Hdr) (p : Parsed) :
    Option Parsed :=
  (F.extract p.2).map fun q => (store p.1 q.1, q.2)

/-- `pkt.lookahead<T>()` -/
def lookahead {α : Type} (F : WireFormat α) (p : Parsed) : Option α :=
  (F.extract p.2).map Prod.fst

def extractEthernet : Parsed → Option Parsed :=
  extractInto ethernetFormat fun h a => { h with ethernet := .of a }

def extractLinkradarData : Parsed → Option Parsed :=
  extractInto linkradarDataFormat fun h a => { h with linkradarData := .of a }

def extractLinkradarRxBuffered : Parsed → Option Parsed :=
  extractInto linkradarRxBufferedFormat fun h a => { h with linkradarRxBuffered := .of a }

def extractLinkradarLack : Parsed → Option Parsed :=
  extractInto linkradarLackFormat fun h a => { h with linkradarLack := .of a }

def extractArp : Parsed → Option Parsed :=
  extractInto arpFormat fun h a => { h with arp := .of a }

def extractIpv4 : Parsed → Option Parsed :=
  extractInto ipv4Format fun h a => { h with ipv4 := .of a }

def extractEtherPfc : Parsed → Option Parsed :=
  extractInto etherPfcFormat fun h a => { h with etherPfc := .of a }

/-! ## Ingress -/

/-- `parse_linkradar_data`, the same state in both parsers. -/
def parseLinkradarData (p : Parsed) : Option Parsed := do
  let p ← extractLinkradarData p
  if p.1.linkradarData.fields.rxBuffered = 0 then some p else extractLinkradarRxBuffered p

/-- `parse_linkradar`, the same state in both parsers. -/
def parseLinkradar (p : Parsed) : Option Parsed := do
  let lrHdrType ← lookahead (bits 2) p
  if lrHdrType = linkradarHdrTypeData then parseLinkradarData p
  else if lrHdrType = linkradarHdrTypeLack then extractLinkradarLack p
  else some p

namespace IngressParser

def parsePktgenTimer (p : Parsed) : Option Parsed := do
  let p ← extractInto pktgenTimerFormat (fun h a => { h with pktgenTimer := .of a }) p
  let p ← extractInto remainingEthernetFormat
    (fun h a => { h with remainingEthernet := .of a }) p
  extractEtherPfc p

def parseEthernet (p : Parsed) : Option Parsed := do
  let p ← extractEthernet p
  if p.1.ethernet.fields.etherType = EtherType.arp then extractArp p
  else if p.1.ethernet.fields.etherType = EtherType.linkradar then parseLinkradar p
  else some p

/-- `parse_pktgen_or_ethernet`, on the bits after the intrinsic and port metadata. -/
def parse (bs : List Bool) : Option Parsed := do
  let p : Parsed := (default, bs)
  let ethernetLookahead ← lookahead ethernetFormat p
  if ethernetLookahead.etherType = EtherType.pktgen then parsePktgenTimer p
  else parseEthernet p

end IngressParser

/-- `ig_meta` as the ingress parser leaves it. -/
def IgMeta.start (portMd : PortMetadata) (hdr : Hdr) : IgMeta :=
  { (default : IgMeta) with
    portMd := portMd
    pktSeqNo := if hdr.linkradarData.valid then hdr.linkradarData.fields.seqNo else 0 }

/-- A packet at the start of the ingress control. -/
def Ingress.start (regs : IngressRegs) (portMd : PortMetadata) (random : BitVec 20) (hdr : Hdr) :
    Ingress where
  hdr := hdr
  igMeta := .start portMd hdr
  random := random
  dropCtl := 0
  mirrorType := 0
  ucastEgressPort := 0
  qid := 0
  bypassEgress := 0
  regs := regs

/-- What the ingress deparser mirrors. -/
inductive IgMirror
  | lackUpdate (h : IgMirrorLackUpdate)
  | lossNotification (h : IgMirrorLossNotification)
deriving DecidableEq, Repr

/-- `mirror.emit` of `SwitchIngressDeparser`. -/
def Ingress.mirrorEmit (c : Ingress) : Option IgMirror :=
  if c.mirrorType = igMirrorLackUpdate then
    some (.lackUpdate
      { type := c.igMeta.internalHdrType
        info := c.igMeta.internalHdrInfo
        ingressPort := c.igMeta.ingressPort
        leadingAck := c.igMeta.leadingAck
        pad := 0
        leadingAckEra := c.igMeta.leadingAckEra })
  else if c.mirrorType = igMirrorLossNotification then
    some (.lossNotification
      { type := c.igMeta.internalHdrType
        info := c.igMeta.internalHdrInfo
        holeSize := c.igMeta.pktsLost
        firstLostSeqNo := c.igMeta.expectedSeqNo
        leadingAck := c.igMeta.leadingAck
        pad := 0
        leadingAckEra := c.igMeta.leadingAckEra })
  else none

/-! ## Egress -/

/-- Headers, unparsed payload and metadata, as the egress parser leaves them. -/
structure EgressParsed where
  hdr : Hdr
  egMeta : EgMeta
  payload : List Bool

/-- `eg_meta` for a packet with these headers: the parser flags receiver-buffered packets and
PFC frames. -/
def EgMeta.ofHdr (hdr : Hdr) : EgMeta :=
  { (default : EgMeta) with
    eitherRxBufferedOrTimerPfc :=
      if hdr.linkradarRxBuffered.valid ∨ hdr.etherPfc.valid then 1 else 0 }

namespace EgressParser

def parseEthernet (p : Parsed) : Option Parsed := do
  let p ← extractEthernet p
  if p.1.ethernet.fields.etherType = EtherType.linkradar then parseLinkradar p
  else if p.1.ethernet.fields.etherType = EtherType.ipv4 then extractIpv4 p
  else if p.1.ethernet.fields.etherType = EtherType.pausePfc then extractEtherPfc p
  else some p

/-- `start`, on the bits after the intrinsic metadata. -/
def parse (bs : List Bool) : Option EgressParsed := do
  let p : Parsed := (default, bs)
  let internalHdr ← lookahead internalHdrFormat p
  if internalHdr.type = internalHdrTypeBridgedMeta then
    let (b, rest) ← internalHdrFormat.extract bs
    let p ← parseEthernet (default, rest)
    some ⟨p.1, { EgMeta.ofHdr p.1 with bridgedMeta := .of b }, p.2⟩
  else if internalHdr.type = internalHdrTypeIgMirror ∧
      internalHdr.info = igMirrorLackUpdate.setWidth 4 then
    let (m, rest) ← igMirrorLackUpdateFormat.extract bs
    some ⟨default, { (default : EgMeta) with igMirrorLackUpdate := .of m }, rest⟩
  else if internalHdr.type = internalHdrTypeIgMirror ∧
      internalHdr.info = igMirrorLossNotification.setWidth 4 then
    let (m, rest) ← igMirrorLossNotificationFormat.extract bs
    let p ← extractEthernet (default, rest)
    some ⟨p.1, { (default : EgMeta) with igMirrorLossNotification := .of m }, p.2⟩
  else if internalHdr.type = internalHdrTypeEgMirror ∧
      internalHdr.info = egMirrorCourierPkt.setWidth 4 then
    let (b, rest) ← internalHdrFormat.extract bs
    let p ← parseEthernet (default, rest)
    some ⟨p.1, { EgMeta.ofHdr p.1 with egMirrorCourierPkt := .of b }, p.2⟩
  else none

end EgressParser

/-- A packet at the start of the egress control. -/
def Egress.start (regs : EgressRegs) (egressPort : PortId) (egressRid : BitVec 16)
    (deqQdepth : BitVec 19) (hdr : Hdr) (egMeta : EgMeta) : Egress where
  hdr := hdr
  egMeta := egMeta
  egressPort := egressPort
  egressRid := egressRid
  deqQdepth := deqQdepth
  dropCtl := 0
  mirrorType := 0
  regs := regs

/-- `SwitchEgressDeparser`, the packet itself. -/
def Egress.deparse (c : Egress) (payload : List Bool) : List Bool :=
  { c.hdr with ipv4 := c.hdr.ipv4.modify Ipv4.updateChecksum }.emit payload

end LinkGuardian.Receiver
