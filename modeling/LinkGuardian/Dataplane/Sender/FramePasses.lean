import LinkGuardian.Dataplane.Frames
import LinkGuardian.Dataplane.Sender.EgressSpec
import LinkGuardian.Dataplane.Sender.IngressSpec

/-!
# Sender switch: what one pass makes of a frame

Each pass is parser, control and deparser on the bits of a packet.  There is one lemma for every
shape a frame has on its way: a bare frame at ingress and at egress, its mirrored copy, a copy in
the buffer, and a frame that comes back with a leading ack.

The lemmas are about bits and not about headers, since that is what the transparency of the link is
about: a header that no parser reads is part of the payload, and a header that a parser reads must
come out of the deparser as it went in.  What a pass may change of the body is the checksum of an
IPv4 header, which the deparser computes anew, and an ECN field at egress; `BodyRefreshed` and
`BodyPassed` say this without a word about the control.
-/

namespace LinkGuardian.Sender

open P4 WireFormat

/-! ## Passes -/

/-- One pass through the ingress pipeline: the control's result and the bits that leave. -/
def ingressPass (t : IngressTables) (regs : IngressRegs) (ingressPort : PortId)
    (globalTstamp : BitVec 48) (bs : List Bool) : Option (Ingress × List Bool) :=
  (IngressParser.parse bs).map fun p =>
    let c := (Ingress.start regs ingressPort globalTstamp p.1).apply t
    (c, c.deparse p.2)

/-- One pass through the egress pipeline. -/
def egressPass (t : EgressTables) (regs : EgressRegs) (egressPort : PortId)
    (deqQdepth : BitVec 19) (random : BitVec 8) (bs : List Bool) : Option (Egress × List Bool) :=
  (EgressParser.parse bs).map fun p =>
    let c := (Egress.start regs egressPort deqQdepth random p.hdr p.egMeta).apply t
    (c, c.deparse p.payload)

/-- The bits of a frame between ingress and egress. -/
def bridgedBits (bs : List Bool) : List Bool :=
  internalHdrFormat.emit ⟨internalHdrTypeBridgedMeta, 0⟩ ++ bs

/-! ## Parsing -/

lemma extractInto_eq_some_iff {α : Type} {F : WireFormat α} {store : Hdr → α → Hdr}
    {p q : Parsed} : extractInto F store p = some q ↔
      ∃ a rest, p.2 = F.emit a ++ rest ∧ q = (store p.1 a, rest) := by
  unfold extractInto
  constructor
  · intro h
    obtain ⟨⟨a, rest⟩, ha, rfl⟩ := Option.map_eq_some_iff.mp h
    exact ⟨a, rest, (F.emit_of_extract _ _ _ ha).symm, rfl⟩
  · rintro ⟨a, rest, hp, rfl⟩
    rw [hp, F.extract_emit, Option.map_some]

lemma extractInto_emit {α : Type} (F : WireFormat α) (store : Hdr → α → Hdr) (h : Hdr) (a : α)
    (rest : List Bool) : extractInto F store (h, F.emit a ++ rest) = some (store h a, rest) := by
  rw [extractInto, F.extract_emit, Option.map_some]

lemma lookahead_emit {α : Type} (F : WireFormat α) (h : Hdr) (a : α) (rest : List Bool) :
    lookahead F (h, F.emit a ++ rest) = some a := by
  rw [lookahead, F.extract_emit, Option.map_some]

/-- The network headers that a parser of the sender reads off the body of a bare frame. -/
structure NetworkHdrs where
  ipv4 : Header Ipv4
  arp : Header Arp
  tcp : Header Tcp
  udp : Header Udp
deriving Inhabited

namespace NetworkHdrs

/-- The body behind the IPv4 header. -/
def emitRest (n : NetworkHdrs) (payload : List Bool) : List Bool :=
  n.arp.emit arpFormat ++ (n.tcp.emit tcpFormat ++ (n.udp.emit udpFormat ++ payload))

/-- The body that these headers were read off. -/
def emit (n : NetworkHdrs) (payload : List Bool) : List Bool :=
  n.ipv4.emit ipv4Format ++ n.emitRest payload

/-- The header vector of a bare frame. -/
def hdr (e : Ethernet) (n : NetworkHdrs) : Hdr :=
  { (default : Hdr) with
    ethernet := .of e, ipv4 := n.ipv4, arp := n.arp, tcp := n.tcp, udp := n.udp }

@[simp] lemma hdr_ipv4 (e : Ethernet) (n : NetworkHdrs) : (n.hdr e).ipv4 = n.ipv4 := rfl

@[simp] lemma hdr_linkradarData (e : Ethernet) (n : NetworkHdrs) :
    (n.hdr e).linkradarData = .absent := rfl

end NetworkHdrs

/-- A bare frame that one of the two parsers has read.  The parsers differ in what they read behind
the IPv4 header; the frame that they have read is the same. -/
structure IsFrame (e : Ethernet) (body : List Bool) (n : NetworkHdrs) (payload : List Bool) :
    Prop where
  ipv4 : n.ipv4.valid = decide (e.etherType = EtherType.ipv4)
  body : n.emit payload = body

/-- The parser's state once the Ethernet header is read. -/
def afterEthernet (e : Ethernet) (body : List Bool) : Parsed := (NetworkHdrs.hdr e default, body)

lemma extractEthernet_frameBits (e : Ethernet) (body : List Bool) :
    extractEthernet (default, frameBits e body) = some (afterEthernet e body) :=
  extractInto_emit _ _ _ _ _

lemma IngressParser.parse_frameBits {e : Ethernet} {body : List Bool}
    (hpk : e.etherType ≠ EtherType.pktgen) : parse (frameBits e body) =
      if e.etherType = EtherType.ipv4 then parseIpv4 (afterEthernet e body)
      else if e.etherType = EtherType.arp then extractArp (afterEthernet e body)
      else if e.etherType = EtherType.linkradar then parseLinkradar (afterEthernet e body)
      else some (afterEthernet e body) := by
  have hlook : lookahead ethernetFormat (default, frameBits e body) = some e :=
    lookahead_emit _ _ _ _
  simp only [parse, hlook, parseEthernet, extractEthernet_frameBits, Option.bind_eq_bind,
    Option.bind_some, if_neg hpk]
  rfl

lemma IngressParser.parse_frameBits_asLinkradar (e : Ethernet) (body : List Bool) :
    parse (frameBits e.asLinkradar body) = parseLinkradar (afterEthernet e.asLinkradar body) := by
  rw [parse_frameBits linkradar_ne_pktgen, Ethernet.asLinkradar_etherType,
    if_neg linkradar_ne_ipv4, if_neg linkradar_ne_arp, if_pos rfl]

lemma EgressParser.parseEthernet_frameBits (e : Ethernet) (body : List Bool) :
    parseEthernet (default, frameBits e body) =
      if e.etherType = EtherType.linkradar then parseLinkradar (afterEthernet e body)
      else if e.etherType = EtherType.ipv4 then parseIpv4 (afterEthernet e body)
      else some (afterEthernet e body) := by
  simp only [parseEthernet, extractEthernet_frameBits, Option.bind_eq_bind, Option.bind_some]
  rfl

lemma EgressParser.parse_bridgedBits (bs : List Bool) : parse (bridgedBits bs) =
    (parseEthernet (default, bs)).map fun p => ⟨p.1, { EgMeta.ofHdr p.1 with
      bridgedMeta := .of ⟨internalHdrTypeBridgedMeta, 0⟩ }, p.2⟩ := by
  have hlook : lookahead internalHdrFormat (default, bridgedBits bs) =
      some ⟨internalHdrTypeBridgedMeta, 0⟩ := lookahead_emit _ _ _ _
  have hext : internalHdrFormat.extract (bridgedBits bs) =
      some (⟨internalHdrTypeBridgedMeta, 0⟩, bs) := internalHdrFormat.extract_emit _ _
  simp only [parse, hlook, hext, Option.bind_eq_bind, Option.bind_some, if_true]
  cases parseEthernet (default, bs) <;> rfl

/-- The ingress parser on a bare frame. -/
lemma isFrame_of_ingressParse {e : Ethernet} {body : List Bool} {p : Parsed}
    (hpk : e.etherType ≠ EtherType.pktgen) (hlr : e.etherType ≠ EtherType.linkradar)
    (h : IngressParser.parse (frameBits e body) = some p) :
    ∃ n, p.1 = NetworkHdrs.hdr e n ∧ IsFrame e body n p.2 := by
  rw [IngressParser.parse_frameBits hpk] at h
  -- IPv4 with TCP, UDP or neither behind it, ARP, or a type that the parser does not read
  split at h
  · rename_i hip
    obtain ⟨q, hq, h⟩ := Option.bind_eq_some_iff.mp h
    obtain ⟨ip, rest, hbody, rfl⟩ := extractInto_eq_some_iff.mp hq
    have hvalid : (Header.of ip).valid = decide (e.etherType = EtherType.ipv4) := by simp [hip]
    change body = _ at hbody
    split at h
    · obtain ⟨x, rest', hrest, rfl⟩ := extractInto_eq_some_iff.mp h
      change rest = _ at hrest
      rw [hbody, hrest]
      exact ⟨⟨.of ip, .absent, .of x, .absent⟩, rfl, hvalid, rfl⟩
    · split at h
      · obtain ⟨x, rest', hrest, rfl⟩ := extractInto_eq_some_iff.mp h
        change rest = _ at hrest
        rw [hbody, hrest]
        exact ⟨⟨.of ip, .absent, .absent, .of x⟩, rfl, hvalid, rfl⟩
      · cases h
        exact ⟨⟨.of ip, .absent, .absent, .absent⟩, rfl, hvalid, hbody.symm⟩
  · rename_i hip
    have hvalid : (Header.absent : Header Ipv4).valid = decide (e.etherType = EtherType.ipv4) := by
      simp [hip]
    split at h
    · obtain ⟨x, rest, hbody, rfl⟩ := extractInto_eq_some_iff.mp h
      exact ⟨⟨.absent, .of x, .absent, .absent⟩, rfl, hvalid, hbody.symm⟩
    · cases h
      exact ⟨default, rfl, hvalid, rfl⟩

/-- The egress parser on a bare frame. -/
lemma isFrame_of_egressParse {e : Ethernet} {body : List Bool} {p : Parsed}
    (hlr : e.etherType ≠ EtherType.linkradar)
    (h : EgressParser.parseEthernet (default, frameBits e body) = some p) :
    ∃ n, p.1 = NetworkHdrs.hdr e n ∧ IsFrame e body n p.2 := by
  rw [EgressParser.parseEthernet_frameBits, if_neg hlr] at h
  split at h
  · rename_i hip
    obtain ⟨q, hq, h⟩ := Option.bind_eq_some_iff.mp h
    obtain ⟨ip, rest, hbody, rfl⟩ := extractInto_eq_some_iff.mp hq
    have hvalid : (Header.of ip).valid = decide (e.etherType = EtherType.ipv4) := by simp [hip]
    change body = _ at hbody
    split at h
    · obtain ⟨x, rest', hrest, rfl⟩ := extractInto_eq_some_iff.mp h
      change rest = _ at hrest
      rw [hbody, hrest]
      exact ⟨⟨.of ip, .absent, .absent, .of x⟩, rfl, hvalid, rfl⟩
    · cases h
      exact ⟨⟨.of ip, .absent, .absent, .absent⟩, rfl, hvalid, hbody.symm⟩
  · rename_i hip
    cases h
    exact ⟨default, rfl, by simp [hip]; rfl, rfl⟩

/-! ### Frames of legal length are parsed -/

lemma exists_extractInto {α : Type} {F : WireFormat α} {n : ℕ} (hF : F.HasWidth n)
    (store : Hdr → α → Hdr) {p : Parsed} (h : n ≤ p.2.length) :
    ∃ a rest, extractInto F store p = some (store p.1 a, rest) ∧ p.2.length = n + rest.length := by
  obtain ⟨a, rest, hp⟩ := hF.exists_eq_append h
  refine ⟨a, rest, ?_, ?_⟩
  · rw [extractInto, hp, F.extract_emit, Option.map_some]
  · rw [hp, List.length_append, hF.length_emit]

lemma exists_parseIpv4 {p : Parsed} (h : 320 ≤ p.2.length) :
    (∃ q, IngressParser.parseIpv4 p = some q) ∧ ∃ q, EgressParser.parseIpv4 p = some q := by
  obtain ⟨i, rest, hq, hlen⟩ := exists_extractInto hasWidth_ipv4
    (fun h a => { h with ipv4 := .of a }) (le_trans (by omega) h)
  set q : Parsed := ({ p.1 with ipv4 := .of i }, rest) with hqdef
  replace hq : extractIpv4 p = some q := hq
  have hrest : 160 ≤ q.2.length := by change 160 ≤ rest.length; omega
  obtain ⟨x, rx, htcp, -⟩ := exists_extractInto hasWidth_tcp
    (fun h a => { h with tcp := .of a }) hrest
  obtain ⟨y, ry, hudp, -⟩ := exists_extractInto hasWidth_udp
    (fun h a => { h with udp := .of a }) (le_trans (by omega) hrest)
  constructor
  · simp only [IngressParser.parseIpv4, hq, Option.bind_eq_bind, Option.bind_some]
    split_ifs
    · exact ⟨_, htcp⟩
    · exact ⟨_, hudp⟩
    · exact ⟨_, rfl⟩
  · simp only [EgressParser.parseIpv4, hq, Option.bind_eq_bind, Option.bind_some]
    split_ifs
    · exact ⟨_, hudp⟩
    · exact ⟨_, rfl⟩

lemma exists_ingressPass (t : IngressTables) (regs : IngressRegs) (port : PortId)
    (tstamp : BitVec 48) {e : Ethernet} {body : List Bool}
    (hpk : e.etherType ≠ EtherType.pktgen) (hlr : e.etherType ≠ EtherType.linkradar)
    (hlen : 368 ≤ body.length) :
    ∃ c bs, ingressPass t regs port tstamp (frameBits e body) = some (c, bs) := by
  obtain ⟨p, hp⟩ : ∃ p, IngressParser.parse (frameBits e body) = some p := by
    rw [IngressParser.parse_frameBits hpk, if_neg hlr]
    split_ifs
    · exact (exists_parseIpv4 (by change 320 ≤ body.length; omega)).1
    · have harp : 224 ≤ (afterEthernet e body).2.length := le_trans (by omega) hlen
      obtain ⟨x, rest, hx, -⟩ := exists_extractInto hasWidth_arp
        (fun h a => { h with arp := .of a }) harp
      exact ⟨_, hx⟩
    · exact ⟨_, rfl⟩
  exact ⟨_, _, by rw [ingressPass, hp]; rfl⟩

lemma exists_egressPass (t : EgressTables) (regs : EgressRegs) (port : PortId)
    (depth : BitVec 19) (random : BitVec 8) (e : Ethernet) {body : List Bool}
    (hlr : e.etherType ≠ EtherType.linkradar) (hlen : 368 ≤ body.length) :
    ∃ c bs, egressPass t regs port depth random (bridgedBits (frameBits e body)) =
      some (c, bs) := by
  obtain ⟨p, hp⟩ : ∃ p, EgressParser.parseEthernet (default, frameBits e body) = some p := by
    rw [EgressParser.parseEthernet_frameBits, if_neg hlr]
    split_ifs
    · exact (exists_parseIpv4 (by change 320 ≤ body.length; omega)).2
    · exact ⟨_, rfl⟩
  exact ⟨_, _, by rw [egressPass, EgressParser.parse_bridgedBits, hp]; rfl⟩

/-! ## Deparsing -/

/-- The same frame with another IPv4 header. -/
def NetworkHdrs.withIpv4 (n : NetworkHdrs) (i : Header Ipv4) : NetworkHdrs := { n with ipv4 := i }

/-- What a deparser appends to the LinkRadar headers of a frame. -/
lemma updateChecksum_emit (e : Ethernet) (n : NetworkHdrs) (b : Header InternalHdr)
    (x : Header LinkradarBuffered) (d : Header LinkradarData) (payload : List Bool) :
    Hdr.emit (Hdr.updateChecksum { NetworkHdrs.hdr e n with
        bridgedMeta := b, linkradarBuffered := x, linkradarData := d }) payload =
      b.emit internalHdrFormat ++ frameBits e (x.emit linkradarBufferedFormat ++
        (d.emit linkradarDataFormat ++
          (n.withIpv4 (n.ipv4.modify Ipv4.updateChecksum)).emit payload)) := by
  simp only [Hdr.emit, Hdr.updateChecksum, NetworkHdrs.hdr, NetworkHdrs.emit, NetworkHdrs.withIpv4,
    NetworkHdrs.emitRest, frameBits, Header.emit_of, List.append_assoc]
  rfl

/-- A changed IPv4 header, and only that, changes the body of a frame.  The relation `R` is between
the two headers: a new checksum at ingress, and perhaps a mark at egress. -/
lemma IsFrame.bodyChanged {R : Ipv4 → Ipv4 → Prop} {e : Ethernet} {body payload : List Bool}
    {n : NetworkHdrs} (h : IsFrame e body n payload) {i : Header Ipv4}
    (hv : i.valid = n.ipv4.valid) (hr : R n.ipv4.fields i.fields) :
    BodyChanged R e.etherType body ((n.withIpv4 i).emit payload) := by
  unfold BodyChanged
  have hvalid := h.ipv4
  rw [← h.body]
  split
  · rename_i hip
    rw [decide_eq_true hip] at hvalid
    refine ⟨n.ipv4.fields, i.fields, n.emitRest payload, ?_, ?_, hr⟩
    · rw [NetworkHdrs.emit, Header.emit, if_pos hvalid]
    · change i.emit ipv4Format ++ n.emitRest payload = _
      rw [Header.emit, if_pos (hv.trans hvalid)]
  · rename_i hip
    rw [decide_eq_false hip] at hvalid
    change i.emit ipv4Format ++ n.emitRest payload = n.ipv4.emit ipv4Format ++ n.emitRest payload
    rw [Header.emit_of_not_valid _ hvalid, Header.emit_of_not_valid _ (hv.trans hvalid)]

/-! ## Bare frames at ingress -/

/-- What forwarding does to a packet. -/
structure Forwards (t : IngressTables) (c c' : Ingress) : Prop where
  hdr : c'.hdr = c.hdr
  dropCtl : c'.dropCtl = c.dropCtl
  bypassEgress : c'.bypassEgress = c.bypassEgress
  ucastEgressPort : ∀ port, t.l2Forward c.hdr.ethernet.fields.dstAddr = some (.forward port) →
    c'.ucastEgressPort = port

lemma forwards_l2Forward (t : IngressTables) (c : Ingress) : Forwards t c (c.l2Forward t) := by
  unfold Ingress.l2Forward
  cases ht : t.l2Forward c.hdr.ethernet.fields.dstAddr with
  | none => exact ⟨rfl, rfl, rfl, fun port h => by rw [ht] at h; cases h⟩
  | some a =>
    cases a with
    | forward port' =>
      refine ⟨rfl, rfl, rfl, fun port h => ?_⟩
      rw [ht] at h
      cases h
      rfl
    | routeInitDummyPkt port' qid =>
      exact ⟨rfl, rfl, rfl, fun port h => by rw [ht] at h; cases h⟩
    | multicast grpId qid =>
      exact ⟨rfl, rfl, rfl, fun port h => by rw [ht] at h; cases h⟩

lemma Ingress.apply_of_bare {t : IngressTables} {c : Ingress}
    (hp : c.hdr.pktgenTimer.valid = false) (hl : c.hdr.linkradarLack.valid = false)
    (hb : c.hdr.linkradarBuffered.valid = false) (hr : c.igMeta.retx = 0)
    (hbyp : c.bypassEgress = 0) : c.apply t = (c.l2Forward t).addBridgedMetadata := by
  have hbyp' : (c.l2Forward t).bypassEgress = 0 := (forwards_l2Forward t c).bypassEgress.trans hbyp
  have hcond : (!false) = true ∧ c.igMeta.retx ≠ 1 := ⟨rfl, by rw [hr]; decide⟩
  simp only [apply, hp, hl, hb, Bool.false_eq_true, if_false, if_pos hcond, if_pos hbyp']

/-- **A bare frame at ingress** is forwarded with the internal header in front. -/
theorem ingressPass_frame {t : IngressTables} {regs : IngressRegs} {port : PortId}
    {tstamp : BitVec 48} {e : Ethernet} {body bs : List Bool} {c : Ingress}
    (hpk : e.etherType ≠ EtherType.pktgen) (hlr : e.etherType ≠ EtherType.linkradar)
    (h : ingressPass t regs port tstamp (frameBits e body) = some (c, bs)) :
    ∃ body', BodyRefreshed e.etherType body body' ∧ bs = bridgedBits (frameBits e body') ∧
      c.dropCtl = 0 ∧ c.bypassEgress = 0 ∧
      ∀ port, t.l2Forward e.dstAddr = some (.forward port) → c.ucastEgressPort = port := by
  obtain ⟨p, hp, hc⟩ := Option.map_eq_some_iff.mp h
  obtain ⟨n, hn, hframe⟩ := isFrame_of_ingressParse hpk hlr hp
  obtain ⟨rfl, rfl⟩ := Prod.mk.inj hc
  obtain ⟨hhdr, hdrop, hbyp, huc⟩ :=
    forwards_l2Forward t (Ingress.start regs port tstamp (NetworkHdrs.hdr e n))
  rw [hn, Ingress.apply_of_bare rfl rfl rfl rfl rfl]
  refine ⟨_, hframe.bodyChanged (i := n.ipv4.modify Ipv4.updateChecksum) rfl rfl, ?_, hdrop,
    hbyp, huc⟩
  have hout : ((Ingress.start regs port tstamp (NetworkHdrs.hdr e n)).l2Forward t
      |>.addBridgedMetadata).hdr = { NetworkHdrs.hdr e n with
        bridgedMeta := .of ⟨internalHdrTypeBridgedMeta, 0⟩
        linkradarBuffered := .absent, linkradarData := .absent } := by
    unfold Ingress.addBridgedMetadata
    rw [hhdr]
    rfl
  rw [Ingress.deparse, hout, updateChecksum_emit]
  rfl

/-! ## Bare frames at egress -/

namespace Egress

variable {t : EgressTables} {c : Egress}

/-- The ECN field is left alone, or a capable header is marked. -/
lemma ecnMarking_ipv4 (t : EgressTables) (c : Egress) :
    (c.ecnMarking t).hdr.ipv4 = c.hdr.ipv4 ∨
      (c.hdr.ipv4.fields.IsEct ∧ (c.ecnMarking t).hdr.ipv4 = c.hdr.ipv4.modify Ipv4.markCe) := by
  by_cases hect : c.hdr.ipv4.fields.IsEct
  · have hmark : ∀ c' : Egress, c'.hdr = c.hdr →
        (if c'.egMeta.markEcnCodepoint = 1 then c'.markEcnCeCodepoint else c').hdr.ipv4 =
            c.hdr.ipv4 ∨
          (c.hdr.ipv4.fields.IsEct ∧
            (if c'.egMeta.markEcnCodepoint = 1 then c'.markEcnCeCodepoint else c').hdr.ipv4 =
              c.hdr.ipv4.modify Ipv4.markCe) := by
      intro c' hc'
      split
      · right
        refine ⟨hect, ?_⟩
        rw [markEcnCeCodepoint, hc']
        rfl
      · left
        rw [hc']
    have heq : c.ecnMarking t =
        (let c := if c.egMeta.isRoceV2 = 1 then c.dcqcnMarking t else c.checkEcnMarkingThreshold
         if c.egMeta.markEcnCodepoint = 1 then c.markEcnCeCodepoint else c) := if_pos hect
    rw [heq]
    exact hmark _ (by split <;> rfl)
  · left
    have heq : c.ecnMarking t = c := if_neg hect
    rw [heq]

/-- The queue is short and the tables do not ask for a mark.  Both ways of marking are ruled out,
since the headers say which of them a packet takes. -/
structure Quiet (t : EgressTables) (c : Egress) : Prop where
  threshold : c.deqQdepth.setWidth 32 < c.regs.regEcnMarkingThreshold
  probability : t.dcqcnCompareProbability (t.dcqcnGetEcnProbability c.deqQdepth) c.random = false
  unmarked : c.egMeta.markEcnCodepoint = 0

lemma Quiet.ecnMarking_hdr (h : Quiet t c) : (c.ecnMarking t).hdr = c.hdr := by
  have hthr : ¬ c.deqQdepth.setWidth 32 ≥ c.regs.regEcnMarkingThreshold :=
    BitVec.not_le.mpr h.threshold
  have hzero : (if c.egMeta.isRoceV2 = 1 then c.dcqcnMarking t
      else c.checkEcnMarkingThreshold).egMeta.markEcnCodepoint = 0 := by
    split
    · simp only [dcqcnMarking, h.probability, Bool.false_eq_true, if_false, h.unmarked]
    · simp only [checkEcnMarkingThreshold, if_neg hthr]
  have hne : ¬ (0 : BitVec 1) = 1 := by decide
  simp only [ecnMarking, hzero, if_neg hne]
  split
  · split <;> rfl
  · rfl

/-- What `protect` and the steps after it make of the headers. -/
lemma protectedBranch_hdr (p : ProtectParams) (c : Egress) :
    ((c.protect p).protectedBranch t).hdr = { c.hdr with
      ethernet := c.hdr.ethernet.modify Ethernet.asLinkradar
      linkradarData := .of (nextStamp c.regs c.portIdx p) } := by
  obtain ⟨hhdr, hregs, hport⟩ := copyPktForBuffering_keeps t (c.protect p)
  have hstamp := (stamps_protectedBranch (t := t) p c).linkradarData
  have hrest : ((c.protect p).protectedBranch t).hdr = { (c.protect p).hdr with
      linkradarData := ((c.protect p).protectedBranch t).hdr.linkradarData } := by
    simp only [protectedBranch]
    split <;> simp only [getUpdateEra, getEra, setDummyPktNotifyMaxCount, hhdr]
  rw [hrest, hstamp]
  rfl

/-- The headers of a bare frame that leaves through a protected port. -/
lemma normal_pass_hdr {p : ProtectParams} (hn : c.hdr.linkradarData.valid = false)
    (hp : t.linkProtect c.egressPort = some p) :
    (c.apply t).hdr = { c.hdr with
      bridgedMeta := c.hdr.bridgedMeta.setInvalid
      ethernet := c.hdr.ethernet.modify Ethernet.asLinkradar
      linkradarData := .of (nextStamp c.regs c.portIdx p)
      ipv4 := (c.ecnMarking t).hdr.ipv4 } := by
  obtain ⟨hhdr, hport, -, -, hregs⟩ := sameButEcn_ecnMarking t c
  have hkeep := (sameButDrop_emulateCorruption t
    (((c.ecnMarking t).protect p).protectedBranch t)).hdr
  rw [apply_of_normal hn, normalBranch_eq hp]
  simp only [hkeep, protectedBranch_hdr, hregs, portIdx, hport]
  rw [hhdr]

/-- The headers of a bare frame that leaves through any other port. -/
lemma unprotected_pass_hdr (hn : c.hdr.linkradarData.valid = false)
    (hp : t.linkProtect c.egressPort = none) :
    (c.apply t).hdr = { c.hdr with
      bridgedMeta := c.hdr.bridgedMeta.setInvalid
      ipv4 := (c.ecnMarking t).hdr.ipv4 } := by
  have hkeep := (sameButDrop_emulateCorruption t (c.ecnMarking t)).hdr
  rw [apply_of_normal hn, normalBranch_of_none hn hp]
  simp only [hkeep]
  rw [(sameButEcn_ecnMarking t c).hdr]

end Egress

namespace Egress

variable {t : EgressTables} {c : Egress}

/-- What decides whether loss emulation takes a packet, and the drop bits before it.  The steps
before it keep all of these, so that the fate of a packet can be read off the registers before its
pass. -/
structure SameFate (c c' : Egress) : Prop where
  egressPort : c'.egressPort = c.egressPort
  regCorruptionSeqNo : c'.regs.regCorruptionSeqNo = c.regs.regCorruptionSeqNo
  dropCtl : c'.dropCtl = c.dropCtl

lemma SameFate.trans {a b c : Egress} (h : SameFate a b) (h' : SameFate b c) : SameFate a c :=
  ⟨h'.egressPort.trans h.egressPort, h'.regCorruptionSeqNo.trans h.regCorruptionSeqNo,
    h'.dropCtl.trans h.dropCtl⟩

lemma sameFate_linkProtect (t : EgressTables) (c : Egress) : SameFate c (c.linkProtect t) := by
  unfold linkProtect
  split <;> exact ⟨rfl, rfl, rfl⟩

lemma sameFate_protectedBranch (t : EgressTables) (c : Egress) :
    SameFate c (c.protectedBranch t) := by
  have hcopy : SameFate c (c.copyPktForBuffering t) := by
    unfold copyPktForBuffering
    split <;> exact ⟨rfl, rfl, rfl⟩
  refine hcopy.trans ?_
  simp only [protectedBranch]
  split <;> exact ⟨rfl, rfl, rfl⟩

/-- Loss emulation decides by its own counter whether it takes a packet. -/
lemma emulateCorruption_dropCtl
    (hemu : t.emulateCorruption (c.regs.regCorruptionSeqNo c.portIdx) = false) :
    (c.emulateCorruption t).dropCtl = c.dropCtl := by
  simp only [emulateCorruption, hemu, Bool.false_eq_true, and_false, if_false]

lemma apply_dropCtl (hn : c.hdr.linkradarData.valid = false)
    (hemu : t.emulateCorruption (c.regs.regCorruptionSeqNo c.portIdx) = false) :
    (c.apply t).dropCtl = c.dropCtl := by
  obtain ⟨-, hport, hdrop, -, hregs⟩ := sameButEcn_ecnMarking t c
  have hecn : SameFate c (c.ecnMarking t) := ⟨hport, by rw [hregs], hdrop⟩
  have hlink := hecn.trans (sameFate_linkProtect t (c.ecnMarking t))
  have hlast : ∀ c', SameFate c c' → (c'.emulateCorruption t).dropCtl = c.dropCtl := by
    intro c' h
    rw [emulateCorruption_dropCtl, h.dropCtl]
    rwa [h.regCorruptionSeqNo, portIdx, h.egressPort]
  rw [apply_of_normal hn]
  simp only [normalBranch]
  split
  · exact hlast _ (hlink.trans (sameFate_protectedBranch t _))
  · exact hlast _ hlink

end Egress

/-- What the marking stage and the deparser make of the body of a frame. -/
lemma IsFrame.bodyPassed_of_marking {e : Ethernet} {body payload : List Bool} {n : NetworkHdrs}
    (h : IsFrame e body n payload) {t : EgressTables} {c : Egress} (hc : c.hdr.ipv4 = n.ipv4) :
    BodyPassed e.etherType body
        ((n.withIpv4 ((c.ecnMarking t).hdr.ipv4.modify Ipv4.updateChecksum)).emit payload) ∧
      (Egress.Quiet t c → BodyRefreshed e.etherType body
        ((n.withIpv4 ((c.ecnMarking t).hdr.ipv4.modify Ipv4.updateChecksum)).emit payload)) := by
  constructor
  · rcases Egress.ecnMarking_ipv4 t c with hi | ⟨hect, hi⟩
    · rw [hi, hc]
      exact h.bodyChanged rfl (Or.inl rfl)
    · rw [hc] at hect hi
      rw [hi]
      exact h.bodyChanged rfl (Or.inr ⟨hect, rfl⟩)
  · intro hq
    rw [hq.ecnMarking_hdr, hc]
    exact h.bodyChanged rfl rfl

/-- Queue, threshold and random number of a pass in which no frame is marked.  Which packets the
queue marks is not the business of LinkGuardian, and marking changes the frame. -/
structure Unmarked (t : EgressTables) (regs : EgressRegs) (depth : BitVec 19)
    (random : BitVec 8) : Prop where
  threshold : depth.setWidth 32 < regs.regEcnMarkingThreshold
  probability : t.dcqcnCompareProbability (t.dcqcnGetEcnProbability depth) random = false

/-- The egress control before a bare frame. -/
def bareStart (regs : EgressRegs) (port : PortId) (depth : BitVec 19) (random : BitVec 8)
    (e : Ethernet) (n : NetworkHdrs) : Egress :=
  .start regs port depth random (n.hdr e) { EgMeta.ofHdr (n.hdr e) with
    bridgedMeta := .of ⟨internalHdrTypeBridgedMeta, 0⟩ }

@[simp] lemma bareStart_hdr (regs : EgressRegs) (port : PortId) (depth : BitVec 19)
    (random : BitVec 8) (e : Ethernet) (n : NetworkHdrs) :
    (bareStart regs port depth random e n).hdr = n.hdr e := rfl

/-- The egress pass of a bare frame runs the control on its network headers. -/
lemma egressPass_frame {t : EgressTables} {regs : EgressRegs} {port : PortId}
    {depth : BitVec 19} {random : BitVec 8} {e : Ethernet} {body bs : List Bool} {c : Egress}
    (hlr : e.etherType ≠ EtherType.linkradar)
    (h : egressPass t regs port depth random (bridgedBits (frameBits e body)) = some (c, bs)) :
    ∃ n payload, IsFrame e body n payload ∧
      c = (bareStart regs port depth random e n).apply t ∧
      bs = c.hdr.updateChecksum.emit payload := by
  obtain ⟨q, hq, hc⟩ := Option.map_eq_some_iff.mp h
  rw [EgressParser.parse_bridgedBits] at hq
  obtain ⟨r, hr, rfl⟩ := Option.map_eq_some_iff.mp hq
  obtain ⟨n, hn, hframe⟩ := isFrame_of_egressParse hlr hr
  obtain ⟨rfl, rfl⟩ := Prod.mk.inj hc
  refine ⟨n, r.2, hframe, ?_, rfl⟩
  rw [bareStart, ← hn]

/-- **A bare frame at the egress of a protected port** leaves with a data header.  The conclusion
gives the three facts that the way of a frame goes on from: the bits on the link, the mirror request
that puts the same bits into the buffer, and when the frame is neither marked nor dropped here. -/
theorem egressPass_protected {t : EgressTables} {regs : EgressRegs} {port : PortId}
    {depth : BitVec 19} {random : BitVec 8} {e : Ethernet} {body bs : List Bool} {c : Egress}
    {p : ProtectParams} (hlr : e.etherType ≠ EtherType.linkradar)
    (hp : t.linkProtect port = some p) (hcopy : (t.copyPktForBuffering port).isSome)
    (h : egressPass t regs port depth random (bridgedBits (frameBits e body)) = some (c, bs)) :
    ∃ body', BodyPassed e.etherType body body' ∧
      bs = dataBits e (Egress.nextStamp regs (port.setWidth 8) p) body' ∧
      c.mirrorEmit = some (.bufferedPkt (Egress.bufferRequest port)) ∧
      (Unmarked t regs depth random → BodyRefreshed e.etherType body body') ∧
      (t.emulateCorruption (regs.regCorruptionSeqNo (port.setWidth 8)) = false →
        c.dropCtl = 0) := by
  obtain ⟨n, payload, hframe, rfl, hbs⟩ := egressPass_frame hlr h
  set c₀ := bareStart regs port depth random e n with hc₀
  have hdata : c₀.hdr.linkradarData.valid = false := by simp [hc₀]
  obtain ⟨hpass, hquiet⟩ :=
    hframe.bodyPassed_of_marking (t := t) (c := c₀) (by simp [hc₀])
  refine ⟨_, hpass, ?_, Egress.normal_pass_mirrorEmit hdata hp hcopy,
    fun hun => hquiet ⟨hun.threshold, hun.probability, rfl⟩, Egress.apply_dropCtl hdata⟩
  rw [hbs, Egress.normal_pass_hdr hdata hp]
  exact updateChecksum_emit e.asLinkradar (n.withIpv4 (c₀.ecnMarking t).hdr.ipv4) _ .absent _
    payload

/-- **A bare frame at the egress of any other port** leaves as it is. -/
theorem egressPass_unprotected {t : EgressTables} {regs : EgressRegs} {port : PortId}
    {depth : BitVec 19} {random : BitVec 8} {e : Ethernet} {body bs : List Bool} {c : Egress}
    (hlr : e.etherType ≠ EtherType.linkradar) (hp : t.linkProtect port = none)
    (h : egressPass t regs port depth random (bridgedBits (frameBits e body)) = some (c, bs)) :
    ∃ body', BodyPassed e.etherType body body' ∧ bs = frameBits e body' ∧
      (Unmarked t regs depth random → BodyRefreshed e.etherType body body') ∧
      (t.emulateCorruption (regs.regCorruptionSeqNo (port.setWidth 8)) = false →
        c.dropCtl = 0) := by
  obtain ⟨n, payload, hframe, rfl, hbs⟩ := egressPass_frame hlr h
  set c₀ := bareStart regs port depth random e n with hc₀
  have hdata : c₀.hdr.linkradarData.valid = false := by simp [hc₀]
  obtain ⟨hpass, hquiet⟩ :=
    hframe.bodyPassed_of_marking (t := t) (c := c₀) (by simp [hc₀])
  refine ⟨_, hpass, ?_, fun hun => hquiet ⟨hun.threshold, hun.probability, rfl⟩,
    Egress.apply_dropCtl hdata⟩
  rw [hbs, Egress.unprotected_pass_hdr hdata hp]
  exact updateChecksum_emit e (n.withIpv4 (c₀.ecnMarking t).hdr.ipv4) _ .absent .absent payload

/-! ## Copies -/

/-- The bits that the mirror engine puts in front of a mirrored packet. -/
def EgMirror.emit : EgMirror → List Bool
  | .bufferedPkt h => egMirrorBufferedPktFormat.emit h
  | .dummyPkt h => internalHdrFormat.emit h

lemma extract_internalHdr_egMirrorBufferedPkt (m : EgMirrorBufferedPkt) (rest : List Bool) :
    (internalHdrFormat.extract (egMirrorBufferedPktFormat.emit m ++ rest)).map Prod.fst =
      some ⟨m.type, m.info⟩ := by
  have hsplit : egMirrorBufferedPktFormat.emit m =
      internalHdrFormat.emit ⟨m.type, m.info⟩ ++
        ((bits 6).pair ((bits 1).pair (bits 9))).emit (m.pad, m.emulatedDropped, m.dstEgPort) :=
    (List.append_assoc _ _ _).symm
  rw [hsplit, List.append_assoc, internalHdrFormat.extract_emit, Option.map_some]

/-- The buffered header that a copy gets at egress. -/
def bufferedHdr (port : PortId) : LinkradarBuffered :=
  { (default : LinkradarBuffered) with type := linkradarHdrTypeTxBuffered, dstEgPort := port }

/-- **A mirrored packet at egress** becomes a copy for the buffer. -/
theorem egressPass_mirrored {t : EgressTables} {regs : EgressRegs} {port txPort : PortId}
    {depth : BitVec 19} {random : BitVec 8} {e : Ethernet} {d : LinkradarData}
    {body bs : List Bool} {c : Egress}
    (h : egressPass t regs port depth random
      ((EgMirror.bufferedPkt (Egress.bufferRequest txPort)).emit ++ dataBits e d body) =
        some (c, bs)) :
    bs = bufferedBits e (bufferedHdr txPort) d body := by
  obtain ⟨q, hq, hc⟩ := Option.map_eq_some_iff.mp h
  obtain ⟨-, rfl⟩ := Prod.mk.inj hc
  set m := Egress.bufferRequest txPort with hm
  have hlook : lookahead internalHdrFormat
      (default, (EgMirror.bufferedPkt m).emit ++ dataBits e d body) = some ⟨m.type, m.info⟩ :=
    extract_internalHdr_egMirrorBufferedPkt m _
  have hext : egMirrorBufferedPktFormat.extract
      ((EgMirror.bufferedPkt m).emit ++ dataBits e d body) = some (m, dataBits e d body) :=
    egMirrorBufferedPktFormat.extract_emit _ _
  -- the parser of a mirrored packet stops behind the data header: the body is payload here
  have hdata : (extractEthernet (default, dataBits e d body)).bind extractLinkradarData =
      some ({ NetworkHdrs.hdr e.asLinkradar default with linkradarData := .of d }, body) := by
    rw [dataBits, extractEthernet_frameBits, Option.bind_some]
    exact extractInto_emit _ _ _ _ _
  have hne : ¬ internalHdrTypeEgMirror = internalHdrTypeBridgedMeta := by decide
  replace hne : ¬ m.type = internalHdrTypeBridgedMeta := hne
  have hbuf : m.type = internalHdrTypeEgMirror ∧ m.info = egMirrorBufferedPktType.setWidth 4 :=
    ⟨rfl, rfl⟩
  simp only [EgressParser.parse, hlook, hext, hdata, Option.bind_eq_bind, Option.bind_some,
    if_neg hne, if_pos hbuf, Option.some.injEq] at hq
  subst hq
  rw [Egress.deparse, (Egress.buffered_pass rfl rfl).1]
  exact updateChecksum_emit e.asLinkradar default .absent (.of (bufferedHdr txPort)) (.of d) body

namespace Ingress

variable {t : IngressTables} {c : Ingress}

/-- A copy that stays in the loop. -/
structure SendsRound (c c' : Ingress) : Prop where
  hdr : c'.hdr = c.hdr
  ucastEgressPort : c'.ucastEgressPort = recircLpbkPort
  mcastGrpA : c'.mcastGrpA = c.mcastGrpA
  bypassEgress : c'.bypassEgress = 1

/-- A copy that goes back to the protected link. -/
structure SendsAgain (c c' : Ingress) : Prop where
  hdr : c'.hdr = { c.hdr with
    linkradarBuffered := c.hdr.linkradarBuffered.setInvalid
    linkradarData := c.hdr.linkradarData.modify fun d => { d with reTx := 1 } }
  ucastEgressPort : c'.ucastEgressPort = c.hdr.linkradarBuffered.fields.dstEgPort ∨
    c'.ucastEgressPort = c.ucastEgressPort
  bypassEgress : c'.bypassEgress = 1
  retx : c'.igMeta.retx = 1

lemma decideRetxOrDrop_keeps (c : Ingress) :
    c.decideRetxOrDrop.hdr = c.hdr ∧ c.decideRetxOrDrop.ucastEgressPort = c.ucastEgressPort ∧
      c.decideRetxOrDrop.bypassEgress = c.bypassEgress := by
  unfold decideRetxOrDrop
  split <;> exact ⟨rfl, rfl, rfl⟩

lemma eraCorrection_route (c : Ingress) :
    c.eraCorrection.ucastEgressPort = c.ucastEgressPort ∧
      c.eraCorrection.mcastGrpA = c.mcastGrpA := by
  unfold eraCorrection
  split <;> exact ⟨rfl, rfl⟩

/-- A copy that retransmission is decided for goes out, or stays where it is when the table
has no entry for its port. -/
lemma retxMcastBufferedPkt_outcome (hr : c.igMeta.retx = 1) :
    SendsAgain c (c.retxMcastBufferedPkt t) ∨ c.retxMcastBufferedPkt t = c := by
  unfold retxMcastBufferedPkt
  split
  · exact Or.inl ⟨rfl, Or.inl rfl, rfl, hr⟩
  · exact Or.inl ⟨rfl, Or.inr rfl, rfl, hr⟩
  · exact Or.inr rfl

/-- Whatever the registers hold, a copy that leaves without the egress pipeline stays in the
loop or goes back to the link.  What is left goes through egress: copies that are dropped, and those
without a destination. -/
lemma bufferedBranch_outcome (hbyp : c.bypassEgress = 0) :
    SendsRound c (c.bufferedBranch t) ∨ SendsAgain c (c.bufferedBranch t) ∨
      (c.bufferedBranch t).bypassEgress = 0 := by
  obtain ⟨hhdr, -, -, hby, -⟩ := compared_keeps c
  have huc : c.compared.ucastEgressPort = c.ucastEgressPort ∧
      c.compared.mcastGrpA = c.mcastGrpA :=
    eraCorrection_route c.retrieveLeadingAck.retrieveLeadingAckEra
  obtain ⟨h₁, h₂, h₃⟩ := decideRetxOrDrop_keeps c.compared.checkResetHoles
  replace h₁ : c.compared.checkResetHoles.decideRetxOrDrop.hdr = c.hdr := h₁.trans hhdr
  replace h₂ : c.compared.checkResetHoles.decideRetxOrDrop.ucastEgressPort = c.ucastEgressPort :=
    h₂.trans huc.1
  replace h₃ : c.compared.checkResetHoles.decideRetxOrDrop.bypassEgress = 0 :=
    (h₃.trans hby).trans hbyp
  rw [bufferedBranch_eq]
  split
  · split
    · rename_i hretx
      rcases retxMcastBufferedPkt_outcome (t := t) hretx with ⟨g₁, g₂, g₃, g₄⟩ | hsame
      · rw [h₁, h₂] at g₂
        rw [h₁] at g₁
        exact Or.inr (Or.inl ⟨g₁, g₂, g₃, g₄⟩)
      · rw [hsame]
        exact Or.inr (Or.inr h₃)
    · exact Or.inr (Or.inr h₃)
  · exact Or.inl ⟨hhdr, rfl, huc.2, rfl⟩

/-- The control does not touch `bypass_egress` after the branch of buffered packets. -/
lemma IsBuffered.apply_bypassEgress (h : c.IsBuffered) :
    (c.apply t).bypassEgress = (c.bufferedBranch t).bypassEgress := by
  have hl := (forwards_l2Forward t (c.bufferedBranch t)).bypassEgress
  simp only [apply, h.pktgenTimer, h.linkradarLack, h.linkradarBuffered, if_true,
    Bool.false_eq_true, if_false]
  split_ifs <;> first | rfl | exact hl

end Ingress

lemma IngressParser.parse_bufferedBits {e : Ethernet} {b : LinkradarBuffered} {d : LinkradarData}
    (hb : b.type = linkradarHdrTypeTxBuffered) (body : List Bool) :
    parse (bufferedBits e b d body) = some ({ NetworkHdrs.hdr e.asLinkradar default with
      linkradarBuffered := .of b, linkradarData := .of d }, body) := by
  have hlook : lookahead (bits 2) (afterEthernet e.asLinkradar
      (linkradarBufferedFormat.emit b ++ (linkradarDataFormat.emit d ++ body))) =
        some linkradarHdrTypeTxBuffered := hb ▸ extract_type_linkradarBuffered b _
  have h₁ : linkradarHdrTypeTxBuffered ≠ linkradarHdrTypeData := by decide
  have h₂ : linkradarHdrTypeTxBuffered ≠ linkradarHdrTypeLack := by decide
  have h₃ : linkradarHdrTypeTxBuffered ≠ linkradarHdrTypeLackLossNotify := by decide
  have hext : extractLinkradarBuffered (afterEthernet e.asLinkradar
      (linkradarBufferedFormat.emit b ++ (linkradarDataFormat.emit d ++ body))) =
        some ({ NetworkHdrs.hdr e.asLinkradar default with linkradarBuffered := .of b },
          linkradarDataFormat.emit d ++ body) := extractInto_emit _ _ _ _ _
  rw [bufferedBits, parse_frameBits_asLinkradar]
  simp only [parseLinkradar, hlook, hext, Option.bind_eq_bind, Option.bind_some, if_neg h₁,
    if_neg h₂, if_neg h₃]
  exact extractInto_emit _ _ _ _ _

/-- **A copy at ingress** goes round once more or out to the link, in either case with its body as
it was: this pass reads no header behind the data header, and no checksum is computed. -/
theorem ingressPass_buffered {t : IngressTables} {regs : IngressRegs} {port txPort : PortId}
    {tstamp : BitVec 48} {e : Ethernet} {d : LinkradarData} {body bs : List Bool} {c : Ingress}
    (h : ingressPass t regs port tstamp (bufferedBits e (bufferedHdr txPort) d body) = some (c, bs))
    (hbyp : c.bypassEgress = 1) :
    (bs = bufferedBits e (bufferedHdr txPort) d body ∧ c.ucastEgressPort = recircLpbkPort ∧
        c.mcastGrpA = 0) ∨
      (bs = dataBits e { d with reTx := 1 } body ∧
        (c.ucastEgressPort = txPort ∨ c.ucastEgressPort = 0)) := by
  obtain ⟨p, hp, hc⟩ := Option.map_eq_some_iff.mp h
  rw [IngressParser.parse_bufferedBits rfl] at hp
  cases hp
  obtain ⟨rfl, rfl⟩ := Prod.mk.inj hc
  set c₀ := Ingress.start regs port tstamp { NetworkHdrs.hdr e.asLinkradar default with
    linkradarBuffered := .of (bufferedHdr txPort), linkradarData := .of d } with hc₀
  have hbuf : c₀.IsBuffered := ⟨rfl, rfl, rfl⟩
  have hone : (c₀.bufferedBranch t).bypassEgress = 1 :=
    (hbuf.apply_bypassEgress (t := t)).symm.trans hbyp
  have hne : ¬ (1 : BitVec 1) = 0 := by decide
  rcases Ingress.bufferedBranch_outcome (t := t) (c := c₀) rfl with hr | hr | hr
  · have hvalid : (c₀.bufferedBranch t).hdr.linkradarBuffered.valid = true := by rw [hr.hdr]; rfl
    rw [hbuf.apply_eq (Or.inl hvalid), hone, if_neg hne]
    refine Or.inl ⟨?_, hr.ucastEgressPort, hr.mcastGrpA⟩
    rw [Ingress.deparse, hr.hdr]
    exact updateChecksum_emit e.asLinkradar default .absent (.of (bufferedHdr txPort)) (.of d) body
  · rw [hbuf.apply_eq (Or.inr hr.retx), hone, if_neg hne]
    refine Or.inr ⟨?_, hr.ucastEgressPort⟩
    rw [Ingress.deparse, hr.hdr]
    exact updateChecksum_emit e.asLinkradar default .absent
      ((Header.of (bufferedHdr txPort)).setInvalid) (.of { d with reTx := 1 }) body
  · rw [hr] at hone
    exact absurd hone.symm hne

/-! ## Frames that come back with a leading ack -/

lemma IngressParser.parse_lackBits {e : Ethernet} {l : LinkradarLack}
    (hl : l.type = linkradarHdrTypeLack) (body : List Bool) :
    parse (lackBits e l body) = some ({ NetworkHdrs.hdr e.asLinkradar default with
      linkradarLack := .of l }, body) := by
  have hlook : lookahead (bits 2) (afterEthernet e.asLinkradar
      (linkradarLackFormat.emit l ++ body)) = some linkradarHdrTypeLack :=
    hl ▸ extract_type_linkradarLack l _
  have hne : linkradarHdrTypeLack ≠ linkradarHdrTypeData := by decide
  rw [lackBits, parse_frameBits_asLinkradar]
  simp only [parseLinkradar, hlook, Option.bind_eq_bind, Option.bind_some, if_neg hne, if_true]
  exact extractInto_emit _ _ _ _ _

lemma exists_ingressPass_lack (t : IngressTables) (regs : IngressRegs) (port : PortId)
    (tstamp : BitVec 48) (e : Ethernet) {l : LinkradarLack} (hl : l.type = linkradarHdrTypeLack)
    (body : List Bool) :
    ∃ c bs, ingressPass t regs port tstamp (lackBits e l body) = some (c, bs) :=
  ⟨_, _, by rw [ingressPass, IngressParser.parse_lackBits hl]; rfl⟩

/-- **A frame with a piggybacked leading ack at ingress** gives it up, and its ether type: the
sender takes it for an IPv4 frame, whatever type it had when it left the receiver's host. -/
theorem ingressPass_lack {t : IngressTables} {regs : IngressRegs} {port : PortId}
    {tstamp : BitVec 48} {e : Ethernet} {l : LinkradarLack} {body bs : List Bool} {c : Ingress}
    (hl : l.type = linkradarHdrTypeLack) (hpiggy : l.isPiggyBacked ≠ 0)
    (h : ingressPass t regs port tstamp (lackBits e l body) = some (c, bs)) :
    bs = bridgedBits (frameBits e.asIpv4 body) ∧ c.dropCtl = 0 ∧ c.bypassEgress = 0 ∧
      ∀ port, t.l2Forward e.dstAddr = some (.forward port) → c.ucastEgressPort = port := by
  obtain ⟨p, hp, hc⟩ := Option.map_eq_some_iff.mp h
  rw [IngressParser.parse_lackBits hl] at hp
  cases hp
  obtain ⟨rfl, rfl⟩ := Prod.mk.inj hc
  set c₀ := Ingress.start regs port tstamp { NetworkHdrs.hdr e.asLinkradar default with
    linkradarLack := .of l } with hc₀
  set c₁ := c₀.recordLeadingAck.recordLeadingAckEra.decapPiggybackedPkt with hc₁
  have hlack : c₀.lackBranch = c₁ := by
    have hdecap : c₀.recordLeadingAck.recordLeadingAckEra.dropCourierPktOrDecapPiggybackedPkt =
        c₁ := if_neg hpiggy
    simp only [Ingress.lackBranch, hdecap]
    rfl
  have happly : c₀.apply t = (c₁.l2Forward t).addBridgedMetadata := by
    have hbyp : (c₁.l2Forward t).bypassEgress = 0 := (forwards_l2Forward t c₁).bypassEgress
    have hp₀ : c₀.hdr.pktgenTimer.valid = false := rfl
    have hl₀ : c₀.hdr.linkradarLack.valid = true := rfl
    have hcond : (!c₁.hdr.linkradarBuffered.valid) = true ∧ c₁.igMeta.retx ≠ 1 :=
      ⟨rfl, by change ¬ (0 : BitVec 1) = 1; decide⟩
    simp only [Ingress.apply, hp₀, hl₀, Bool.false_eq_true, if_false, if_true, hlack,
      if_pos hcond, if_pos hbyp]
  obtain ⟨hhdr, hdrop, hbyp, huc⟩ := forwards_l2Forward t c₁
  rw [happly]
  refine ⟨?_, hdrop, hbyp, huc⟩
  have hout : (c₁.l2Forward t).addBridgedMetadata.hdr = { c₁.hdr with
      bridgedMeta := .of ⟨internalHdrTypeBridgedMeta, 0⟩ } := by
    unfold Ingress.addBridgedMetadata
    rw [hhdr]
  rw [Ingress.deparse, hout]
  exact updateChecksum_emit e.asIpv4 default (.of ⟨internalHdrTypeBridgedMeta, 0⟩) .absent .absent
    body

end LinkGuardian.Sender
