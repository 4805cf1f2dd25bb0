import LinkGuardian.Dataplane.Frames
import LinkGuardian.Dataplane.Receiver.EgressSpec
import LinkGuardian.Dataplane.Receiver.IngressSpec

/-!
# Receiver switch: what one pass makes of a frame

The counterpart of the sender's frame passes: a protected packet at ingress, new or from the
receiver buffer, the round of the receiver buffer at egress, and a bare frame at ingress and
at egress, where it may take a leading ack along.

Here a pass does not read the body of a protected packet at all: the parser stops behind the headers
of the link protocol, and the body that was stamped at the sender is the body that is released.  At
egress an IPv4 header is read and its checksum computed anew, and a pause frame of a host is taken
for one of the switch's own.
-/

namespace LinkGuardian.Receiver

open P4 WireFormat

/-! ## Passes -/

/-- `SwitchIngressDeparser`, the packet itself. -/
def Ingress.deparse (c : Ingress) (payload : List Bool) : List Bool := c.hdr.emit payload

/-- One pass through the ingress pipeline: the control's result and the bits that leave. -/
def ingressPass (t : IngressTables) (regs : IngressRegs) (portMd : PortMetadata)
    (random : BitVec 20) (bs : List Bool) : Option (Ingress × List Bool) :=
  (IngressParser.parse bs).map fun p =>
    let c := (Ingress.start regs portMd random p.1).apply t
    (c, c.deparse p.2)

/-- One pass through the egress pipeline. -/
def egressPass (t : EgressTables) (regs : EgressRegs) (egressPort : PortId)
    (egressRid : BitVec 16) (deqQdepth : BitVec 19) (bs : List Bool) :
    Option (Egress × List Bool) :=
  (EgressParser.parse bs).map fun p =>
    let c := (Egress.start regs egressPort egressRid deqQdepth p.hdr p.egMeta).apply t
    (c, c.deparse p.payload)

/-- The bits of a packet between ingress and egress. -/
def bridgedBits (bs : List Bool) : List Bool :=
  internalHdrFormat.emit ⟨internalHdrTypeBridgedMeta, 0⟩ ++ bs

/-! ## Parsing -/

lemma extractInto_emit {α : Type} (F : WireFormat α) (store : Hdr → α → Hdr) (h : Hdr) (a : α)
    (rest : List Bool) : extractInto F store (h, F.emit a ++ rest) = some (store h a, rest) := by
  rw [extractInto, F.extract_emit, Option.map_some]

lemma extractInto_eq_some_iff {α : Type} {F : WireFormat α} {store : Hdr → α → Hdr}
    {p q : Parsed} : extractInto F store p = some q ↔
      ∃ a rest, p.2 = F.emit a ++ rest ∧ q = (store p.1 a, rest) := by
  unfold extractInto
  constructor
  · intro h
    obtain ⟨⟨a, rest⟩, ha, rfl⟩ := Option.map_eq_some_iff.mp h
    exact ⟨a, rest, (F.emit_of_extract _ _ _ ha).symm, rfl⟩
  · rintro ⟨a, rest, hp, rfl⟩
    rw [hp, F.extract_emit, Option.map_some]

lemma lookahead_emit {α : Type} (F : WireFormat α) (h : Hdr) (a : α) (rest : List Bool) :
    lookahead F (h, F.emit a ++ rest) = some a := by
  rw [lookahead, F.extract_emit, Option.map_some]

/-- The header vector once the Ethernet header is read. -/
def ethernetHdr (e : Ethernet) : Hdr := { (default : Hdr) with ethernet := .of e }

lemma extractEthernet_frameBits (e : Ethernet) (body : List Bool) :
    extractEthernet (default, frameBits e body) = some (ethernetHdr e, body) :=
  extractInto_emit _ _ _ _ _

lemma IngressParser.parse_frameBits {e : Ethernet} {body : List Bool}
    (hpk : e.etherType ≠ EtherType.pktgen) : parse (frameBits e body) =
      if e.etherType = EtherType.arp then extractArp (ethernetHdr e, body)
      else if e.etherType = EtherType.linkradar then parseLinkradar (ethernetHdr e, body)
      else some (ethernetHdr e, body) := by
  have hlook : lookahead ethernetFormat (default, frameBits e body) = some e :=
    lookahead_emit _ _ _ _
  simp only [parse, hlook, parseEthernet, extractEthernet_frameBits, Option.bind_eq_bind,
    Option.bind_some, if_neg hpk]
  rfl

lemma EgressParser.parseEthernet_frameBits (e : Ethernet) (body : List Bool) :
    parseEthernet (default, frameBits e body) =
      if e.etherType = EtherType.linkradar then parseLinkradar (ethernetHdr e, body)
      else if e.etherType = EtherType.ipv4 then extractIpv4 (ethernetHdr e, body)
      else if e.etherType = EtherType.pausePfc then extractEtherPfc (ethernetHdr e, body)
      else some (ethernetHdr e, body) := by
  simp only [parseEthernet, extractEthernet_frameBits, Option.bind_eq_bind, Option.bind_some]
  rfl

lemma EgressParser.parse_bridged {b : InternalHdr} (hb : b.type = internalHdrTypeBridgedMeta)
    (bs : List Bool) : parse (internalHdrFormat.emit b ++ bs) =
      (parseEthernet (default, bs)).map fun p => ⟨p.1, { EgMeta.ofHdr p.1 with
        bridgedMeta := .of b }, p.2⟩ := by
  have hlook : lookahead internalHdrFormat (default, internalHdrFormat.emit b ++ bs) = some b :=
    lookahead_emit _ _ _ _
  have hext : internalHdrFormat.extract (internalHdrFormat.emit b ++ bs) = some (b, bs) :=
    internalHdrFormat.extract_emit _ _
  simp only [parse, hlook, hext, hb, Option.bind_eq_bind, Option.bind_some, if_true]
  cases parseEthernet (default, bs) <;> rfl

lemma EgressParser.parse_bridgedBits (bs : List Bool) : parse (bridgedBits bs) =
    (parseEthernet (default, bs)).map fun p => ⟨p.1, { EgMeta.ofHdr p.1 with
      bridgedMeta := .of ⟨internalHdrTypeBridgedMeta, 0⟩ }, p.2⟩ := parse_bridged rfl bs

/-- A protected packet, new or from the receiver buffer. -/
def protectedBits (e : Ethernet) (d : LinkradarData) (x : Header LinkradarRxBuffered)
    (body : List Bool) : List Bool :=
  frameBits e.asLinkradar
    (linkradarDataFormat.emit d ++ (x.emit linkradarRxBufferedFormat ++ body))

/-- The header vector of a protected packet. -/
def protectedHdr (e : Ethernet) (d : LinkradarData) (x : Header LinkradarRxBuffered) : Hdr :=
  { ethernetHdr e.asLinkradar with linkradarData := .of d, linkradarRxBuffered := x }

/-- A protected packet says itself whether it comes from the receiver buffer, and only
blocking mode puts packets there.  This is an invariant of the rounds: the sender's stamp starts it
with no header of the receiver buffer, and a held packet leaves with both marks set. -/
structure WellMarked (d : LinkradarData) (x : Header LinkradarRxBuffered) : Prop where
  type : d.type = linkradarHdrTypeData
  dummy : d.dummy = 0
  rxBuffered : if d.rxBuffered = 0 then x = .absent else x.valid = true
  blockingMode : x.valid = true → d.blockingMode ≠ 0

/-- The `rx_buffered` bit tells whether the header of the receiver buffer follows. -/
lemma parseLinkradar_marked {e : Ethernet} {d : LinkradarData} {x : Header LinkradarRxBuffered}
    {body : List Bool} (ht : d.type = linkradarHdrTypeData)
    (hrx : if d.rxBuffered = 0 then x = .absent else x.valid = true) :
    parseLinkradar (ethernetHdr e.asLinkradar,
        linkradarDataFormat.emit d ++ (x.emit linkradarRxBufferedFormat ++ body)) =
      some (protectedHdr e d x, body) := by
  have hlook : lookahead (bits 2) (ethernetHdr e.asLinkradar,
      linkradarDataFormat.emit d ++ (x.emit linkradarRxBufferedFormat ++ body)) =
        some linkradarHdrTypeData := ht ▸ extract_type_linkradarData d _
  have hext : extractLinkradarData (ethernetHdr e.asLinkradar,
      linkradarDataFormat.emit d ++ (x.emit linkradarRxBufferedFormat ++ body)) =
        some ({ ethernetHdr e.asLinkradar with linkradarData := .of d },
          x.emit linkradarRxBufferedFormat ++ body) := extractInto_emit _ _ _ _ _
  simp only [parseLinkradar, hlook, parseLinkradarData, hext, Option.bind_eq_bind,
    Option.bind_some, if_true, Header.of_fields]
  -- without the bit there are no bits of the header to skip either
  split at hrx
  · rename_i hz
    subst hrx
    exact if_pos hz
  · rename_i hz
    refine (if_neg hz).trans ?_
    rw [Header.eq_of_of_valid hrx]
    exact extractInto_emit _ _ _ _ _

lemma IngressParser.parse_marked {e : Ethernet} {d : LinkradarData}
    {x : Header LinkradarRxBuffered} (ht : d.type = linkradarHdrTypeData)
    (hrx : if d.rxBuffered = 0 then x = .absent else x.valid = true) (body : List Bool) :
    parse (protectedBits e d x body) = some (protectedHdr e d x, body) := by
  rw [protectedBits, parse_frameBits linkradar_ne_pktgen, Ethernet.asLinkradar_etherType,
    if_neg linkradar_ne_arp, if_pos rfl]
  exact parseLinkradar_marked ht hrx

lemma EgressParser.parseEthernet_marked {e : Ethernet} {d : LinkradarData}
    {x : Header LinkradarRxBuffered} (ht : d.type = linkradarHdrTypeData)
    (hrx : if d.rxBuffered = 0 then x = .absent else x.valid = true) (body : List Bool) :
    parseEthernet (default, protectedBits e d x body) = some (protectedHdr e d x, body) := by
  rw [protectedBits, parseEthernet_frameBits, Ethernet.asLinkradar_etherType, if_pos rfl]
  exact parseLinkradar_marked ht hrx

lemma IngressParser.parse_protected {e : Ethernet} {d : LinkradarData}
    {x : Header LinkradarRxBuffered} {body : List Bool} (h : WellMarked d x) :
    parse (protectedBits e d x body) = some (protectedHdr e d x, body) :=
  parse_marked h.type h.rxBuffered body

lemma EgressParser.parseEthernet_protected {e : Ethernet} {d : LinkradarData}
    {x : Header LinkradarRxBuffered} {body : List Bool} (h : WellMarked d x) :
    parseEthernet (default, protectedBits e d x body) = some (protectedHdr e d x, body) :=
  parseEthernet_marked h.type h.rxBuffered body

/-! ## Protected packets at ingress -/

/-- The port of a forwarding entry. -/
def L2Action.port : L2Action → PortId
  | .l2Switch port => port
  | .routeInitCourierPkt port _ => port

/-- The headers of a released packet. -/
def Hdr.decapped (h : Hdr) : Hdr :=
  { h with
    linkradarData := h.linkradarData.setInvalid
    ethernet := h.ethernet.modify Ethernet.asIpv4
    linkradarRxBuffered := h.linkradarRxBuffered.setInvalid }

/-- The headers of a packet for the receiver buffer. -/
def Hdr.held (h : Hdr) (port : BitVec 8) : Hdr :=
  { h with
    linkradarData := h.linkradarData.modify fun d => { d with rxBuffered := 1 }
    linkradarRxBuffered := .of ⟨port⟩ }

namespace Ingress

variable {t : IngressTables} {c : Ingress}

/-- A packet with the same headers on the same route. -/
structure SameRoute (c c' : Ingress) : Prop where
  hdr : c'.hdr = c.hdr
  ucastEgressPort : c'.ucastEgressPort = c.ucastEgressPort
  bypassEgress : c'.bypassEgress = c.bypassEgress

lemma SameRoute.trans {a b c : Ingress} (h : SameRoute a b) (h' : SameRoute b c) :
    SameRoute a c :=
  ⟨h'.hdr.trans h.hdr, h'.ucastEgressPort.trans h.ucastEgressPort,
    h'.bypassEgress.trans h.bypassEgress⟩

/-- What forwarding does to a packet. -/
structure Forwards (t : IngressTables) (c c' : Ingress) : Prop where
  hdr : c'.hdr = c.hdr
  igMeta : c'.igMeta = c.igMeta
  bypassEgress : c'.bypassEgress = c.bypassEgress
  ucastEgressPort : c'.ucastEgressPort =
    ((t.l2Forward c.hdr.ethernet.fields.dstAddr).map L2Action.port).getD c.ucastEgressPort
  dropCtl : (t.l2Forward c.hdr.ethernet.fields.dstAddr).isSome → c'.dropCtl = c.dropCtl

lemma forwards_l2Forward (t : IngressTables) (c : Ingress) : Forwards t c (c.l2Forward t) := by
  unfold l2Forward
  cases ht : t.l2Forward c.hdr.ethernet.fields.dstAddr with
  | none => exact ⟨rfl, rfl, rfl, by rw [ht]; rfl, fun h => by rw [ht] at h; cases h⟩
  | some a => cases a <;> exact ⟨rfl, rfl, rfl, by rw [ht]; rfl, fun _ => rfl⟩

lemma sameRoute_generateLossNotification (t : IngressTables) (c : Ingress) :
    SameRoute c (c.generateLossNotification t) := by
  unfold generateLossNotification
  split <;> exact ⟨rfl, rfl, rfl⟩

lemma sameRoute_detectHole (t : IngressTables) (c : Ingress) : SameRoute c (c.detectHole t) := by
  have hcount : SameRoute c c.countPktsLost := by rw [countPktsLost_eq]; exact ⟨rfl, rfl, rfl⟩
  have hgen := hcount.trans (sameRoute_generateLossNotification t c.countPktsLost)
  simp only [detectHole]
  split
  · by_cases hd : c.countPktsLost.hdr.linkradarData.fields.dummy = 0
    · rw [reportHole_of_normal t hd]
      exact ⟨hgen.hdr, hgen.ucastEgressPort, hgen.bypassEgress⟩
    · rw [reportHole_of_dummy t hd]
      split <;> exact ⟨hgen.hdr, hgen.ucastEgressPort, hgen.bypassEgress⟩
  · split <;> exact ⟨hcount.hdr, hcount.ucastEgressPort, hcount.bypassEgress⟩

/-- The link protocol leaves a packet alone that is not addressed to the test address.
Retransmitted test traffic has its source address rewritten, for measurements. -/
lemma sameRoute_linkProtocol
    (hdst : c.hdr.ethernet.fields.dstAddr.extractLsb' 32 16 ≠ receiverSwAddrHi16) :
    SameRoute c (c.linkProtocol t) := by
  unfold linkProtocol
  split
  · split
    · exact sameRoute_detectHole t c
    · have hretx : c.retxArrival = c := if_neg hdst
      rw [hretx]
      exact ⟨rfl, rfl, rfl⟩
  · exact ⟨rfl, rfl, rfl⟩

/-- What becomes of a data packet: it is released, held in the receiver buffer, or dropped.  Unlike
`verdict` this says which headers leave, field by field, and on which port; the deparser makes the
bits of it. -/
inductive Outcome (c c' : Ingress) : Prop
  | released (hdr : c'.hdr = c.hdr.decapped) (port : c'.ucastEgressPort = c.ucastEgressPort)
  | held (port : BitVec 8) (hdr : c'.hdr = c.hdr.held port)
      (recirc : c'.ucastEgressPort = recircPortPipe0)
      (blocking : c.hdr.linkradarData.fields.blockingMode ≠ 0)
  | dropped (dropCtl : c'.dropCtl = 1)

lemma sameRoute_eraCorrection (c : Ingress) : SameRoute c c.eraCorrection := by
  unfold eraCorrection
  split <;> exact ⟨rfl, rfl, rfl⟩

lemma outcome_blockingMode (t : IngressTables) (c : Ingress)
    (hb : c.hdr.linkradarData.fields.blockingMode ≠ 0) :
    Outcome c (c.blockingMode t) ∧ (c.blockingMode t).bypassEgress = c.bypassEgress := by
  simp only [blockingMode]
  split
  · -- with the last number of an era or without, the packet itself is the same
    split <;> exact ⟨.released rfl rfl, rfl⟩
  · obtain ⟨h₁, -, h₃⟩ := sameRoute_eraCorrection (c.getCheckUpdateCurrAck t).getAckEra
    obtain ⟨-, -, -, hport⟩ := eraCorrection_keeps (c.getCheckUpdateCurrAck t).getAckEra
    split
    · refine ⟨.held c.igMeta.blockingModeOrigIgPort ?_ rfl hb, h₃⟩
      simp only [addRxBufferedHdrAndRecirculate, getMinCurrAckSeqNo, h₁, hport]
      rfl
    · exact ⟨.dropped rfl, h₃⟩

/-- **The fate of a data packet.** -/
lemma outcome_release (t : IngressTables) (c : Ingress)
    (hx : c.hdr.linkradarRxBuffered.valid = true → c.hdr.linkradarData.fields.blockingMode ≠ 0) :
    Outcome c (c.release t) ∧ (c.release t).bypassEgress = c.bypassEgress := by
  by_cases hm : c.hdr.linkradarData.fields.blockingMode = 0
  · -- `decap_linkradar_hdr` does not touch this header, which is not there without blocking mode
    have hinv : c.hdr.linkradarRxBuffered.setInvalid = c.hdr.linkradarRxBuffered := by
      have hv : c.hdr.linkradarRxBuffered.valid = false := by
        cases hv : c.hdr.linkradarRxBuffered.valid with
        | false => rfl
        | true => exact absurd hm (hx hv)
      rw [Header.setInvalid, ← hv]
    simp only [release, fillBlockingModeOrigIgPort_eq, if_pos hm]
    refine ⟨.released ?_ rfl, rfl⟩
    rw [Hdr.decapped, hinv]
    rfl
  · simp only [release, fillBlockingModeOrigIgPort_eq, if_neg hm]
    obtain ⟨ho, hbyp⟩ := outcome_blockingMode t
      { c with igMeta := { c.igMeta with blockingModeOrigIgPort := c.ackIdx } } hm
    refine ⟨?_, hbyp⟩
    cases ho with
    | released h₁ h₂ => exact .released h₁ h₂
    | held port h₁ h₂ h₃ => exact .held port h₁ h₂ h₃
    | dropped h₁ => exact .dropped h₁

/-- What the control makes of a data packet that is not to be filtered. -/
lemma outcome_apply (hp : c.hdr.pktgenTimer.valid = false)
    (hfilter : c.igMeta.portMd.filterViaLpbk ≠ 1) (hd : c.hdr.linkradarData.valid = true)
    (hdummy : c.hdr.linkradarData.fields.dummy = 0)
    (hdst : c.hdr.ethernet.fields.dstAddr.extractLsb' 32 16 ≠ receiverSwAddrHi16)
    (hx : c.hdr.linkradarRxBuffered.valid = true → c.hdr.linkradarData.fields.blockingMode ≠ 0)
    (hbyp : c.bypassEgress = 0) :
    ∃ c', c'.hdr = c.hdr ∧ c'.ucastEgressPort = (c.l2Forward t).ucastEgressPort ∧
      Outcome c' (c'.release t) ∧ c.apply t = (c'.release t).addBridgedMetadata ∧
      (c'.release t).bypassEgress = 0 := by
  have hf := forwards_l2Forward t c
  have hp' := sameRoute_linkProtocol (t := t) (c := c.l2Forward t) (by rw [hf.hdr]; exact hdst)
  have hhdr : ((c.l2Forward t).linkProtocol t).hdr = c.hdr := hp'.hdr.trans hf.hdr
  obtain ⟨ho, hb⟩ := outcome_release t ((c.l2Forward t).linkProtocol t)
    (by rw [hhdr]; exact hx)
  have hzero : (((c.l2Forward t).linkProtocol t).release t).bypassEgress = 0 :=
    hb.trans (hp'.bypassEgress.trans (hf.bypassEgress.trans hbyp))
  refine ⟨(c.l2Forward t).linkProtocol t, hhdr, hp'.ucastEgressPort, ho, ?_, hzero⟩
  have hmain : c.mainBranch t = ((c.l2Forward t).linkProtocol t).release t :=
    if_pos (by rw [hhdr]; exact ⟨hd, hdummy⟩)
  simp only [apply, hp, Bool.false_eq_true, if_false, if_neg hfilter, hmain, if_pos hzero]

/-- A packet on a port that emulates losses is sent on unchanged or taken out. -/
lemma apply_of_filtered (hp : c.hdr.pktgenTimer.valid = false)
    (hfilter : c.igMeta.portMd.filterViaLpbk = 1) :
    (c.apply t).bypassEgress = 1 ∧
      (((c.apply t).hdr = c.hdr ∧ (c.apply t).ucastEgressPort = c.igMeta.portMd.lpbkPort) ∨
        (c.apply t).ucastEgressPort = affectedFlowsDevPort) := by
  have hne : ¬ (1 : BitVec 1) = 0 := by decide
  simp only [apply, hp, Bool.false_eq_true, if_false, if_pos hfilter, emulateRandomPktDrop]
  split
  · exact ⟨by rfl, Or.inr rfl⟩
  · exact ⟨by rfl, Or.inl ⟨rfl, rfl⟩⟩

end Ingress

/-- The internal header that the ingress control adds. -/
lemma addBridgedMetadata_emit (c : Ingress) (h : Hdr) (hc : c.hdr = h)
    (hb : h.bridgedMeta = .absent) (payload : List Bool) :
    c.addBridgedMetadata.deparse payload = bridgedBits (h.emit payload) := by
  simp only [Ingress.deparse, Ingress.addBridgedMetadata, hc, Hdr.emit, hb, Header.emit_absent,
    Header.emit_of, List.nil_append, bridgedBits, List.append_assoc]

lemma protectedHdr_emit (e : Ethernet) (d : LinkradarData) (x : Header LinkradarRxBuffered)
    (body : List Bool) : (protectedHdr e d x).emit body = protectedBits e d x body := by
  simp only [Hdr.emit, protectedBits, frameBits, List.append_assoc]
  rfl

lemma decapped_emit (e : Ethernet) (d : LinkradarData) (x : Header LinkradarRxBuffered)
    (body : List Bool) : (protectedHdr e d x).decapped.emit body = frameBits e.asIpv4 body := by
  simp only [Hdr.emit, frameBits, List.append_assoc]
  rfl

/-- **A protected packet at ingress** is filtered, released, held back or dropped.  In each case
that sends it on, the bits are given: with the data header, without it, or with the header of the
receiver buffer as well, and always with the same body.  A held packet is well marked again, so that
the theorem applies to its next round. -/
theorem ingressPass_protected {t : IngressTables} {regs : IngressRegs} {md : PortMetadata}
    {random : BitVec 20} {e : Ethernet} {d : LinkradarData} {x : Header LinkradarRxBuffered}
    {body bs : List Bool} {c : Ingress} (hm : WellMarked d x)
    (hdst : e.dstAddr.extractLsb' 32 16 ≠ receiverSwAddrHi16)
    (h : ingressPass t regs md random (protectedBits e d x body) = some (c, bs)) :
    (md.filterViaLpbk = 1 ∧ c.bypassEgress = 1 ∧ (bs = protectedBits e d x body ∨
        c.ucastEgressPort = affectedFlowsDevPort)) ∨
      (md.filterViaLpbk ≠ 1 ∧ c.bypassEgress = 0 ∧
        ((bs = bridgedBits (frameBits e.asIpv4 body) ∧
            c.ucastEgressPort = ((t.l2Forward e.dstAddr).map L2Action.port).getD 0) ∨
          (∃ d' x', WellMarked d' x' ∧ x'.valid = true ∧
            bs = bridgedBits (protectedBits e d' x' body) ∧
            c.ucastEgressPort = recircPortPipe0 ∧ c.hdr.linkradarRxBuffered.valid = true) ∨
          c.dropCtl = 1)) := by
  obtain ⟨p, hp, hc⟩ := Option.map_eq_some_iff.mp h
  rw [IngressParser.parse_protected hm] at hp
  cases hp
  obtain ⟨rfl, rfl⟩ := Prod.mk.inj hc
  set c₀ := Ingress.start regs md random (protectedHdr e d x) with hc₀
  by_cases hfilter : md.filterViaLpbk = 1
  · left
    obtain ⟨hbyp, hout⟩ := Ingress.apply_of_filtered (t := t) (c := c₀) rfl hfilter
    refine ⟨hfilter, hbyp, hout.imp (fun ⟨hhdr, _⟩ => ?_) id⟩
    rw [Ingress.deparse, hhdr]
    exact protectedHdr_emit e d x body
  · right
    obtain ⟨c', hhdr, huc, ho, happly, hbyp⟩ := Ingress.outcome_apply (t := t) (c := c₀) rfl hfilter
      rfl hm.dummy hdst hm.blockingMode rfl
    replace hhdr : c'.hdr = protectedHdr e d x := hhdr
    rw [happly]
    refine ⟨hfilter, hbyp, ?_⟩
    cases ho with
    | released hr hport =>
      left
      rw [hhdr] at hr
      rw [addBridgedMetadata_emit _ _ hr rfl, decapped_emit]
      exact ⟨rfl, hport.trans (huc.trans (Ingress.forwards_l2Forward t c₀).ucastEgressPort)⟩
    | held port hr hrecirc hblocking =>
      right; left
      rw [hhdr] at hr hblocking
      refine ⟨{ d with rxBuffered := 1 }, .of ⟨port⟩, ⟨hm.type, hm.dummy, rfl, fun _ => hblocking⟩,
        rfl, ?_, hrecirc, ?_⟩
      · rw [addBridgedMetadata_emit _ _ hr rfl]
        exact congrArg bridgedBits
          (protectedHdr_emit e { d with rxBuffered := 1 } (.of ⟨port⟩) body)
      · rw [Ingress.addBridgedMetadata, hr]
        rfl
    | dropped hdrop => exact Or.inr (Or.inr hdrop)

/-- A packet that loss emulation spares is sent on through the loopback port. -/
lemma exists_filtered {t : IngressTables} (regs : IngressRegs) {md : PortMetadata}
    {random : BitVec 20} {e : Ethernet} {d : LinkradarData} {x : Header LinkradarRxBuffered}
    {body : List Bool} (hm : WellMarked d x) (hfilter : md.filterViaLpbk = 1)
    (hrandom : t.emulateRandomPktDrop random = false) :
    ∃ c, ingressPass t regs md random (protectedBits e d x body) =
        some (c, protectedBits e d x body) ∧
      c.bypassEgress = 1 ∧ c.ucastEgressPort = md.lpbkPort := by
  set c₀ := Ingress.start regs md random (protectedHdr e d x) with hc₀
  have hne : ¬ (1 : BitVec 1) = 0 := by decide
  have hpt : c₀.hdr.pktgenTimer.valid = false := rfl
  have hf : c₀.igMeta.portMd.filterViaLpbk = 1 := hfilter
  have hr : t.emulateRandomPktDrop c₀.random = false := hrandom
  set c₁ : Ingress := { c₀ with igMeta := { c₀.igMeta with currRandNumber := c₀.random } } with hc₁
  have happly : c₀.apply t = c₁.sendToLpbkPort := by
    have hone : c₁.sendToLpbkPort.bypassEgress = 1 := rfl
    simp only [Ingress.apply, hpt, Bool.false_eq_true, if_false, if_pos hf,
      Ingress.emulateRandomPktDrop, hr]
    exact if_neg (by rw [hone]; exact hne)
  refine ⟨c₀.apply t, ?_, by rw [happly]; rfl, by rw [happly]; rfl⟩
  have hpass : ingressPass t regs md random (protectedBits e d x body) =
      some (c₀.apply t, (c₀.apply t).deparse body) := by
    rw [ingressPass, IngressParser.parse_protected hm, Option.map_some]
  have hbits : (c₀.apply t).deparse body = protectedBits e d x body := by
    rw [happly]
    exact protectedHdr_emit e d x body
  rw [hpass, hbits]

/-- A packet straight from the link with the awaited number is released, in either mode.  This is
the other half of the transparency: frames do get through, when nothing is lost. -/
lemma exists_released {t : IngressTables} (regs : IngressRegs) {md : PortMetadata}
    (random : BitVec 20) {e : Ethernet} {d : LinkradarData} (body : List Bool) {a : L2Action}
    (hm : WellMarked d .absent) (hrx : d.rxBuffered = 0)
    (hdst : e.dstAddr.extractLsb' 32 16 ≠ receiverSwAddrHi16) (hfilter : md.filterViaLpbk = 0)
    (ha : t.l2Forward e.dstAddr = some a)
    (hack : (regs.regAck (md.origIgPort.setWidth 8)).ackNo = d.seqNo) :
    ∃ c, ingressPass t regs md random (protectedBits e d .absent body) =
        some (c, bridgedBits (frameBits e.asIpv4 body)) ∧
      c.dropCtl = 0 ∧ c.bypassEgress = 0 ∧ c.ucastEgressPort = a.port := by
  set c₀ := Ingress.start regs md random (protectedHdr e d .absent) with hc₀
  have hpass : ingressPass t regs md random (protectedBits e d .absent body) =
      some (c₀.apply t, (c₀.apply t).deparse body) := by
    rw [ingressPass, IngressParser.parse_protected hm, Option.map_some]
  have hdata : Ingress.IsData t c₀ :=
    ⟨rfl, hfilter, rfl, hm.dummy, Option.isSome_iff_exists.mpr ⟨a, ha⟩, rfl⟩
  have hidx : c₀.ackIdx = md.origIgPort.setWidth 8 := if_pos hrx
  have hverdict : (c₀.apply t).verdict = .released := by
    have heq := congrArg (fun q => q.2.2) (hdata.pass_eq rfl (fun _ => rfl))
    refine heq.trans ?_
    have hack' : (c₀.regs.regAck c₀.ackIdx).ackNo = c₀.hdr.linkradarData.fields.seqNo := by
      rw [hidx]
      exact hack
    rw [Ingress.ackPass, if_pos hack']
    split <;> rfl
  obtain ⟨hdrop, -, hbuffered⟩ := (Ingress.verdict_eq_released_iff _).mp hverdict
  -- the verdict rules out the other ends that the pass of a protected packet can have
  have hone : ¬ (0 : BitVec 1) = 1 := by decide
  rcases ingressPass_protected hm hdst hpass with ⟨hf, -⟩ | ⟨-, hbyp, hrel | hheld | hd⟩
  · rw [hfilter] at hf
    exact absurd hf hone
  · refine ⟨c₀.apply t, ?_, hdrop, hbyp, ?_⟩
    · rw [hpass, hrel.1]
    · rw [hrel.2, ha]
      rfl
  · obtain ⟨_, _, _, _, _, _, hv⟩ := hheld
    rw [hbuffered] at hv
    cases hv
  · rw [hdrop] at hd
    exact absurd hd (by decide)

/-! ## The receiver buffer at egress -/

/-- The pause bookkeeping leaves the packet alone. -/
lemma Egress.rxBufferedBranch_hdr (c : Egress) : c.rxBufferedBranch.hdr = c.hdr := by
  have hpause : ∀ c : Egress, c.checkUpdatePfcPauseState.hdr = c.hdr := by
    intro c
    unfold checkUpdatePfcPauseState
    split <;> rfl
  have hresume : ∀ c : Egress, c.checkUpdatePfcResumeState.hdr = c.hdr := by
    intro c
    unfold checkUpdatePfcResumeState
    split <;> rfl
  simp only [rxBufferedBranch]
  split_ifs
  · exact hpause _
  · exact hpause _
  · exact hresume _
  · exact hresume _
  · rfl

/-- The deparser's checksum does not show on a packet without an IPv4 header. -/
lemma Egress.deparse_of_not_ipv4 {c : Egress} {h : Hdr} (hc : c.hdr = h)
    (hv : h.ipv4.valid = false) (payload : List Bool) : c.deparse payload = h.emit payload := by
  have hv' : (h.ipv4.modify Ipv4.updateChecksum).valid = false := hv
  simp only [deparse, hc, Hdr.emit, Header.emit_of_not_valid ipv4Format hv,
    Header.emit_of_not_valid ipv4Format hv']

/-- The control leaves the headers of a packet of the receiver buffer alone. -/
lemma Egress.apply_rxBuffered {t : EgressTables} {c : Egress}
    (hrx : c.hdr.linkradarRxBuffered.valid = true)
    (hflag : c.egMeta.eitherRxBufferedOrTimerPfc = 1)
    (hu : c.egMeta.igMirrorLackUpdate.valid = false)
    (hn : c.egMeta.igMirrorLossNotification.valid = false) :
    (c.apply t).hdr = { c.hdr with bridgedMeta := c.hdr.bridgedMeta.setInvalid } := by
  simp only [Egress.apply, hu, hn, hflag, hrx, Bool.false_eq_true, if_false, if_true,
    Egress.rxBufferedBranch_hdr]

/-- **A packet of the receiver buffer at egress** leaves as it is. -/
theorem egressPass_held {t : EgressTables} {regs : EgressRegs} {port : PortId}
    {rid : BitVec 16} {depth : BitVec 19} {e : Ethernet} {d : LinkradarData}
    {x : Header LinkradarRxBuffered} {body bs : List Bool} {c : Egress} (hm : WellMarked d x)
    (hx : x.valid = true)
    (h : egressPass t regs port rid depth (bridgedBits (protectedBits e d x body)) =
      some (c, bs)) : bs = protectedBits e d x body := by
  obtain ⟨q, hq, hc⟩ := Option.map_eq_some_iff.mp h
  rw [EgressParser.parse_bridgedBits, EgressParser.parseEthernet_protected hm] at hq
  cases hq
  obtain ⟨-, rfl⟩ := Prod.mk.inj hc
  have happly := Egress.apply_rxBuffered (t := t) (c := Egress.start regs port rid depth
    (protectedHdr e d x) { EgMeta.ofHdr (protectedHdr e d x) with
      bridgedMeta := .of ⟨internalHdrTypeBridgedMeta, 0⟩ }) hx (if_pos (Or.inl hx)) rfl rfl
  rw [Egress.deparse_of_not_ipv4 (h := protectedHdr e d x) happly rfl, protectedHdr_emit]

/-! ## Bare frames at ingress -/

/-- The headers that the ingress parser has read off a bare frame. -/
structure IsBare (e : Ethernet) (body : List Bool) (h : Hdr) (payload : List Bool) : Prop where
  bridgedMeta : h.bridgedMeta = .absent
  pktgenTimer : h.pktgenTimer.valid = false
  ethernet : h.ethernet = .of e
  linkradarData : h.linkradarData.valid = false
  emit : h.emit payload = frameBits e body

lemma isBare_of_parse {e : Ethernet} {body : List Bool} {p : Parsed}
    (hpk : e.etherType ≠ EtherType.pktgen) (hlr : e.etherType ≠ EtherType.linkradar)
    (h : IngressParser.parse (frameBits e body) = some p) : IsBare e body p.1 p.2 := by
  rw [IngressParser.parse_frameBits hpk] at h
  split at h
  · obtain ⟨a, rest, hbody, rfl⟩ := extractInto_eq_some_iff.mp h
    change body = _ at hbody
    refine ⟨rfl, rfl, rfl, rfl, ?_⟩
    rw [hbody]
    simp only [Hdr.emit, frameBits, List.append_assoc]
    rfl
  · cases h
    refine ⟨rfl, rfl, rfl, rfl, ?_⟩
    simp only [Hdr.emit, frameBits, List.append_assoc]
    rfl

/-- **A bare frame at ingress** is forwarded with the internal header in front, or sent through the
loopback port on a port that emulates losses.  No ether type but the switch's own matters to it. -/
theorem ingressPass_frame {t : IngressTables} {regs : IngressRegs} {md : PortMetadata}
    {random : BitVec 20} {e : Ethernet} {body bs : List Bool} {c : Ingress}
    (hpk : e.etherType ≠ EtherType.pktgen) (hlr : e.etherType ≠ EtherType.linkradar)
    (h : ingressPass t regs md random (frameBits e body) = some (c, bs)) :
    (md.filterViaLpbk = 1 ∧ c.bypassEgress = 1) ∨
      (c.bypassEgress = 0 ∧ bs = bridgedBits (frameBits e body) ∧
        ∀ a, t.l2Forward e.dstAddr = some a → c.dropCtl = 0 ∧ c.ucastEgressPort = a.port) := by
  obtain ⟨p, hp, hc⟩ := Option.map_eq_some_iff.mp h
  obtain ⟨hb, hpt, he, hd, hemit⟩ := isBare_of_parse hpk hlr hp
  obtain ⟨rfl, rfl⟩ := Prod.mk.inj hc
  set c₀ := Ingress.start regs md random p.1 with hc₀
  by_cases hfilter : md.filterViaLpbk = 1
  · exact Or.inl ⟨hfilter, (Ingress.apply_of_filtered (t := t) (c := c₀) hpt hfilter).1⟩
  · right
    have hf := Ingress.forwards_l2Forward t c₀
    have hd' : (c₀.l2Forward t).hdr.linkradarData.valid = false := by rw [hf.hdr]; exact hd
    have hlink : (c₀.l2Forward t).linkProtocol t = c₀.l2Forward t := by
      unfold Ingress.linkProtocol
      rw [if_neg (fun h => by rw [hd'] at h; exact absurd h.2 (by decide))]
    have hmain : c₀.mainBranch t = c₀.l2Forward t := by
      simp only [Ingress.mainBranch, hlink, hd', Bool.false_eq_true, false_and, if_false]
    have hzero : (c₀.l2Forward t).bypassEgress = 0 := hf.bypassEgress
    have hfilter' : ¬ c₀.igMeta.portMd.filterViaLpbk = 1 := hfilter
    have hpt' : c₀.hdr.pktgenTimer.valid = false := hpt
    have happly : c₀.apply t = (c₀.l2Forward t).addBridgedMetadata := by
      simp only [Ingress.apply, hpt', Bool.false_eq_true, if_false, if_neg hfilter', hmain,
        if_pos hzero]
    rw [happly]
    refine ⟨hzero, ?_, fun a ha => ?_⟩
    · rw [addBridgedMetadata_emit _ p.1 hf.hdr hb, hemit]
    · have hdst : c₀.hdr.ethernet.fields.dstAddr = e.dstAddr := by
        change p.1.ethernet.fields.dstAddr = _
        rw [he, Header.of_fields]
      have hdrop := hf.dropCtl
      have huc := hf.ucastEgressPort
      rw [hdst, ha] at hdrop huc
      exact ⟨hdrop rfl, huc⟩

/-! ## Bare frames at egress -/

/-- The lack header that a frame takes along. -/
structure IsPiggyBacked (l : LinkradarLack) : Prop where
  type : l.type = linkradarHdrTypeLack
  isPiggyBacked : l.isPiggyBacked = 1

/-- The headers that the egress parser has read off a bare frame. -/
def bareHdr (e : Ethernet) (i : Header Ipv4) : Hdr := { ethernetHdr e with ipv4 := i }

/-- What the deparser makes of a bare frame with a lack header that is valid or not. -/
lemma deparse_bareHdr {c : Egress} {e : Ethernet} {i : Header Ipv4} {l : Header LinkradarLack}
    (hc : c.hdr = { bareHdr e i with linkradarLack := l }) (payload : List Bool) :
    c.deparse payload = frameBits e (l.emit linkradarLackFormat ++
      ((i.modify Ipv4.updateChecksum).emit ipv4Format ++ payload)) := by
  simp only [Egress.deparse, hc, Hdr.emit, frameBits, List.append_assoc]
  rfl

/-- A normal packet takes the leading ack along exactly while reports are pending.  Without a report
the fields of the lack header are written all the same, but nobody emits them. -/
lemma Egress.apply_bareHdr {t : EgressTables} {c : Egress} (h : c.IsNormalOrCourier)
    {e : Ethernet} {i : Header Ipv4} (hc : c.hdr = bareHdr e i) :
    (c.apply t).dropCtl = c.dropCtl ∧
      if 0 < c.pending then
        ∃ l, IsPiggyBacked l ∧
          (c.apply t).hdr = { bareHdr e.asLinkradar i with linkradarLack := .of l }
      else ∃ l : LinkradarLack,
        (c.apply t).hdr = { bareHdr e i with linkradarLack := (Header.of l).setInvalid } := by
  obtain ⟨hregs, hidx, hdrop, hvalid, -, -⟩ := fetched_eq t c
  have hpend : (c.fetched t).pending = c.pending := by rw [pending, hregs, hidx]; rfl
  have hv : ¬ (c.fetched t).hdr.linkradarLack.valid = true := by
    rw [hvalid, hc]
    exact Bool.false_ne_true
  obtain ⟨l, hhdr⟩ : ∃ l : LinkradarLack,
      (c.fetched t).hdr = { bareHdr e i with linkradarLack := ⟨false, l⟩ } := by
    have hfetch : (c.fetched t).hdr = { c.hdr with
        linkradarLack := ⟨c.hdr.linkradarLack.valid, (c.fetched t).hdr.linkradarLack.fields⟩ } := by
      unfold fetched getCourierPktMirrorSession
      split <;> rfl
    exact ⟨(c.fetched t).hdr.linkradarLack.fields, by rw [hfetch, hc]; rfl⟩
  rw [h.apply_eq]
  by_cases hp : 0 < c.pending
  · rw [if_pos hp, checkIfLackPending_of_pos (by rwa [hpend]), addLackHdr_of_pending rfl, if_neg hv]
    refine ⟨hdrop, { l with type := linkradarHdrTypeLack, isPiggyBacked := 1 }, ⟨rfl, rfl⟩, ?_⟩
    simp only [addLinkradarLackHdr, hhdr]
    rfl
  · rw [if_neg hp, checkIfLackPending_of_zero (by rwa [hpend]), addLackHdr_of_not_pending rfl,
      if_neg hv]
    refine ⟨hdrop, l, ?_⟩
    simp only [hhdr]
    rfl

/-- The egress parser on a bare frame that is no pause frame. -/
lemma bareHdr_of_parseEthernet {e : Ethernet} {body : List Bool} {p : Parsed}
    (hlr : e.etherType ≠ EtherType.linkradar) (hpfc : e.etherType ≠ EtherType.pausePfc)
    (h : EgressParser.parseEthernet (default, frameBits e body) = some p) :
    ∃ i : Header Ipv4, p.1 = bareHdr e i ∧ BodyRefreshed e.etherType body
      ((i.modify Ipv4.updateChecksum).emit ipv4Format ++ p.2) := by
  rw [EgressParser.parseEthernet_frameBits, if_neg hlr] at h
  unfold BodyRefreshed BodyChanged
  split at h
  · rename_i hip
    obtain ⟨i, rest, hbody, rfl⟩ := extractInto_eq_some_iff.mp h
    refine ⟨.of i, rfl, ?_⟩
    rw [if_pos hip]
    exact ⟨i, i.updateChecksum, rest, hbody, rfl, rfl⟩
  · rename_i hip
    cases h
    refine ⟨.absent, rfl, ?_⟩
    rw [if_neg hip]
    rfl

/-- **A bare frame at egress** leaves as it is or with a piggybacked leading ack, which replaces its
ether type.  The type is not kept anywhere: the sender puts IPv4 in its place, and for a frame of
another type this is where the link stops being transparent. -/
theorem egressPass_frame {t : EgressTables} {regs : EgressRegs} {port : PortId}
    {rid : BitVec 16} {depth : BitVec 19} {e : Ethernet} {body bs : List Bool} {c : Egress}
    (hlr : e.etherType ≠ EtherType.linkradar) (hpfc : e.etherType ≠ EtherType.pausePfc)
    (h : egressPass t regs port rid depth (bridgedBits (frameBits e body)) = some (c, bs)) :
    c.dropCtl = 0 ∧ ∃ body', BodyRefreshed e.etherType body body' ∧
      if 0 < regs.regLeadingAckNotifyCount (port.setWidth 8) then
        ∃ l, IsPiggyBacked l ∧ bs = lackBits e l body'
      else bs = frameBits e body' := by
  obtain ⟨q, hq, hc⟩ := Option.map_eq_some_iff.mp h
  rw [EgressParser.parse_bridgedBits] at hq
  obtain ⟨p, hp, rfl⟩ := Option.map_eq_some_iff.mp hq
  obtain ⟨i, hi, hbody⟩ := bareHdr_of_parseEthernet hlr hpfc hp
  obtain ⟨rfl, rfl⟩ := Prod.mk.inj hc
  set c₀ := Egress.start regs port rid depth p.1 { EgMeta.ofHdr p.1 with
    bridgedMeta := .of ⟨internalHdrTypeBridgedMeta, 0⟩ } with hc₀
  have hnormal : c₀.IsNormalOrCourier := by
    refine ⟨rfl, rfl, ?_⟩
    change (if p.1.linkradarRxBuffered.valid ∨ p.1.etherPfc.valid then (1 : BitVec 1) else 0) = 0
    rw [hi]
    rfl
  obtain ⟨hdrop, hout⟩ := Egress.apply_bareHdr (t := t) hnormal (c := c₀) hi
  refine ⟨hdrop, _, hbody, ?_⟩
  change if 0 < c₀.pending then _ else _
  split at hout
  · rename_i hpend
    obtain ⟨l, hl, hhdr⟩ := hout
    rw [if_pos hpend]
    exact ⟨l, hl, deparse_bareHdr hhdr p.2⟩
  · rename_i hpend
    obtain ⟨l, hhdr⟩ := hout
    rw [if_neg hpend]
    exact deparse_bareHdr hhdr p.2

/-! ## Frames of legal length are parsed -/

lemma hasWidth_etherPfc : etherPfcFormat.HasWidth 160 :=
  ((hasWidth_bits 16).pair ((hasWidth_bits 8).pair ((hasWidth_bits 6).pair
    ((hasWidth_bits 1).pair ((hasWidth_bits 1).pair ((hasWidth_bits 16).pair
    ((hasWidth_bits 16).pair (hasWidth_bits 96)))))))).iso _

lemma exists_extractInto {α : Type} {F : WireFormat α} {n : ℕ} (hF : F.HasWidth n)
    (store : Hdr → α → Hdr) {p : Parsed} (h : n ≤ p.2.length) :
    ∃ q, extractInto F store p = some q := by
  obtain ⟨a, rest, hp⟩ := hF.exists_eq_append h
  exact ⟨_, by rw [extractInto, hp, F.extract_emit, Option.map_some]⟩

lemma exists_ingressPass (t : IngressTables) (regs : IngressRegs) (md : PortMetadata)
    (random : BitVec 20) {e : Ethernet} {body : List Bool}
    (hpk : e.etherType ≠ EtherType.pktgen) (hlr : e.etherType ≠ EtherType.linkradar)
    (hlen : 368 ≤ body.length) :
    ∃ c bs, ingressPass t regs md random (frameBits e body) = some (c, bs) := by
  obtain ⟨p, hp⟩ : ∃ p, IngressParser.parse (frameBits e body) = some p := by
    rw [IngressParser.parse_frameBits hpk, if_neg hlr]
    split_ifs
    · exact exists_extractInto hasWidth_arp _ (le_trans (by omega) hlen)
    · exact ⟨_, rfl⟩
  exact ⟨_, _, by rw [ingressPass, hp]; rfl⟩

lemma exists_egressPass (t : EgressTables) (regs : EgressRegs) (port : PortId)
    (rid : BitVec 16) (depth : BitVec 19) (e : Ethernet) {body : List Bool}
    (hlr : e.etherType ≠ EtherType.linkradar) (hlen : 368 ≤ body.length) :
    ∃ c bs, egressPass t regs port rid depth (bridgedBits (frameBits e body)) =
      some (c, bs) := by
  obtain ⟨p, hp⟩ : ∃ p, EgressParser.parseEthernet (default, frameBits e body) = some p := by
    rw [EgressParser.parseEthernet_frameBits, if_neg hlr]
    split_ifs
    · exact exists_extractInto hasWidth_ipv4 _ (le_trans (by omega) hlen)
    · exact exists_extractInto hasWidth_etherPfc _ (le_trans (by omega) hlen)
    · exact ⟨_, rfl⟩
  exact ⟨_, _, by rw [egressPass, EgressParser.parse_bridgedBits, hp]; rfl⟩

/-! ## Pause frames at egress -/

/-- A pause frame of some host is taken for one of the receiver's own: the egress parser marks it as
a timer packet, and a pending request overwrites its quanta.  The register is chosen such that it
does change them, whatever they were. -/
lemma Egress.apply_pfc {t : EgressTables} {c : Egress} {e : Ethernet} {p : EtherPfc}
    (hu : c.egMeta.igMirrorLackUpdate.valid = false)
    (hn : c.egMeta.igMirrorLossNotification.valid = false)
    (hflag : c.egMeta.eitherRxBufferedOrTimerPfc = 1)
    (hc : c.hdr = { ethernetHdr e with etherPfc := .of p })
    (hgen : c.regs.regPfcGenReq =
      if p.c1Quanta = maxPfcQuanta then pfcGenReqResume else pfcGenReqPause) :
    (c.apply t).dropCtl = c.dropCtl ∧ ∃ p' : EtherPfc, p'.c1Quanta ≠ p.c1Quanta ∧
      (c.apply t).hdr = { ethernetHdr e with etherPfc := .of p' } := by
  have hrx : c.hdr.linkradarRxBuffered.valid = false := by rw [hc]; rfl
  have happly : c.apply t = { c.checkResetPfcGenReq.genPfcOrDrop with
      hdr := { c.checkResetPfcGenReq.genPfcOrDrop.hdr with
        bridgedMeta := c.checkResetPfcGenReq.genPfcOrDrop.hdr.bridgedMeta.setInvalid } } := by
    simp only [apply, hu, hn, hflag, hrx, Bool.false_eq_true, if_false, if_true]
  have hgen' : c.checkResetPfcGenReq.egMeta.pfcGenReq =
      if p.c1Quanta = maxPfcQuanta then pfcGenReqResume else pfcGenReqPause := hgen
  have hhdr : c.checkResetPfcGenReq.hdr = { ethernetHdr e with etherPfc := .of p } := hc
  have h₁ : ¬ pfcGenReqResume = pfcGenReqDrop := by decide
  have h₂ : ¬ pfcGenReqResume = pfcGenReqPause := by decide
  have h₃ : ¬ pfcGenReqPause = pfcGenReqDrop := by decide
  by_cases hq : p.c1Quanta = maxPfcQuanta
  · have hbranch : c.checkResetPfcGenReq.genPfcOrDrop =
        c.checkResetPfcGenReq.transformPfcGenToResume := by
      rw [genPfcOrDrop, hgen', if_pos hq, if_neg h₁, if_neg h₂, if_pos rfl]
    have hzero : (0 : BitVec 16) ≠ maxPfcQuanta := by decide
    rw [happly, hbranch]
    refine ⟨rfl, { p with c1Enabled := 1, c1Quanta := 0 }, hq ▸ hzero, ?_⟩
    simp only [transformPfcGenToResume, hhdr]
    rfl
  · have hbranch : c.checkResetPfcGenReq.genPfcOrDrop =
        c.checkResetPfcGenReq.transformPfcGenToPause := by
      rw [genPfcOrDrop, hgen', if_neg hq, if_neg h₃, if_pos rfl]
    rw [happly, hbranch]
    refine ⟨rfl, { p with c1Enabled := 1, c1Quanta := maxPfcQuanta }, Ne.symm hq, ?_⟩
    simp only [transformPfcGenToPause, hhdr]
    rfl

/-- **A pause frame at egress** can leave with another pause time. -/
lemma exists_egressPass_pfc (t : EgressTables) (port : PortId) (rid : BitVec 16)
    (depth : BitVec 19) {e : Ethernet} {body : List Bool}
    (he : e.etherType = EtherType.pausePfc) (hlen : 368 ≤ body.length) :
    ∃ regs c body', egressPass t regs port rid depth (bridgedBits (frameBits e body)) =
        some (c, frameBits e body') ∧
      c.dropCtl = 0 ∧ body'.length = body.length ∧ body' ≠ body := by
  obtain ⟨p, rest, hbody⟩ := hasWidth_etherPfc.exists_eq_append (le_trans (by omega) hlen)
  set h : Hdr := { ethernetHdr e with etherPfc := .of p } with hh
  have hparse : EgressParser.parseEthernet (default, frameBits e body) = some (h, rest) := by
    rw [EgressParser.parseEthernet_frameBits, he, if_neg (by decide), if_neg (by decide),
      if_pos rfl, hbody]
    exact extractInto_emit _ _ _ _ _
  set regs : EgressRegs := { EgressRegs.init with
    regPfcGenReq := if p.c1Quanta = maxPfcQuanta then pfcGenReqResume else pfcGenReqPause } with hr
  set c₀ := Egress.start regs port rid depth h { EgMeta.ofHdr h with
    bridgedMeta := .of ⟨internalHdrTypeBridgedMeta, 0⟩ } with hc₀
  obtain ⟨hdrop, p', hne, hout⟩ := Egress.apply_pfc (t := t) (c := c₀) rfl rfl rfl hh rfl
  refine ⟨regs, c₀.apply t, etherPfcFormat.emit p' ++ rest, ?_, hdrop, ?_, ?_⟩
  · have hbits : (c₀.apply t).deparse rest = frameBits e (etherPfcFormat.emit p' ++ rest) := by
      rw [Egress.deparse_of_not_ipv4 hout rfl]
      simp only [Hdr.emit, frameBits, List.append_assoc]
      rfl
    rw [egressPass, EgressParser.parse_bridgedBits, hparse, ← hbits]
    rfl
  · rw [hbody, List.length_append, List.length_append, hasWidth_etherPfc.length_emit,
      hasWidth_etherPfc.length_emit]
  · intro heq
    rw [hbody] at heq
    exact hne (congrArg EtherPfc.c1Quanta (emit_append_inj etherPfcFormat heq).1)

end LinkGuardian.Receiver
