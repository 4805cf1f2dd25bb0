import LinkGuardian.Dataplane.Receiver.FramePasses
import LinkGuardian.Dataplane.Sender.FramePasses

/-!
# What the protected link does to a frame

The ways of a frame through the two switches, as relations between the bits that go in and the
bits that come out: stamped and sent on the protected link, mirrored into the buffer of the
sender and retransmitted from there, sent round the buffer of the receiver, and, in the other
direction, with a leading ack on its back.  Register contents, queue depths and random numbers
are whatever they are at each pass.

A frame of another ether type than IPv4 comes out as IPv4, and an IPv4 frame comes out with the
checksum of its first twenty bytes.  `frame_transparency` says that the link is transparent for
the remaining frames, in both directions and on every path, and for no others.

A way is not a function of the frame: at each pass the registers, the depth of the queue and the
random number are chosen anew, and a frame may be mirrored, held back and retransmitted as often as
the relations allow.  That the link is transparent is a statement about all of these ways at once;
that it is not, for a frame that is not plain IPv4, needs one way on which the frame comes out,
which `exists_forwarded` gives.
-/

namespace LinkGuardian.Transparency

open P4 WireFormat

/-! ## Frames -/

/-- An Ethernet frame as a bit string, with at least the 46 bytes of payload that Ethernet
asks for. -/
structure Frame where
  ethernet : Ethernet
  body : List Bool
  length_body : 368 ≤ body.length

namespace Frame

def bits (f : Frame) : List Bool := frameBits f.ethernet f.body

/-- A frame of a host: neither of the ether types that the switches use themselves, and not for the
address of the test traffic.  Frames with these are for the switches, and their parsers read them as
such. -/
structure Ordinary (f : Frame) : Prop where
  linkradar : f.ethernet.etherType ≠ EtherType.linkradar
  pktgen : f.ethernet.etherType ≠ EtherType.pktgen
  dstAddr : f.ethernet.dstAddr.extractLsb' 32 16 ≠ Receiver.receiverSwAddrHi16

end Frame

/-- The first `n` words of a bit string. -/
def takeWords : ℕ → List Bool → List (BitVec 16)
  | 0, _ => []
  | n + 1, bs =>
    match (WireFormat.bits 16).extract bs with
    | some (w, rest) => w :: takeWords n rest
    | none => []

/-- The words of an IPv4 header in the order of the wire, `rest` being what follows its fixed
part. -/
def headerWords (h : Ipv4) (rest : List Bool) : List (BitVec 16) :=
  [h.version ++ h.ihl ++ h.dscp ++ h.ecn, h.totalLen, h.identification,
    h.flags ++ h.fragOffset, h.ttl ++ h.protocol, h.hdrChecksum,
    h.srcAddr.extractLsb' 16 16, h.srcAddr.extractLsb' 0 16,
    h.dstAddr.extractLsb' 16 16, h.dstAddr.extractLsb' 0 16] ++
  takeWords (2 * (h.ihl.toNat - 5)) rest

/-- The header passes the check of a receiver: its words, options included, sum to all ones. -/
def ChecksumOk (h : Ipv4) (rest : List Bool) : Prop :=
  OnesComplement.sum (headerWords h rest) = BitVec.allOnes 16

/-- Only the ECN field has changed, from a capable transport to congestion experienced, and the
checksum is as good as it was. -/
def CeMarked (bs bs' : List Bool) : Prop :=
  ∃ (e : Ethernet) (h : Ipv4) (checksum : BitVec 16) (rest : List Bool),
    e.etherType = EtherType.ipv4 ∧ h.IsEct ∧
    bs = frameBits e (ipv4Format.emit h ++ rest) ∧
    bs' = frameBits e (ipv4Format.emit { h.markCe with hdrChecksum := checksum } ++ rest) ∧
    (ChecksumOk h rest → ChecksumOk { h.markCe with hdrChecksum := checksum } rest)

/-- What the link may do to a frame: nothing, or set the ECN mark that any switch may set. -/
def Transparent (bs bs' : List Bool) : Prop := bs' = bs ∨ CeMarked bs bs'

/-- An IPv4 frame whose checksum is the one of the fixed part of its header. -/
def PlainIpv4 (f : Frame) : Prop :=
  f.ethernet.etherType = EtherType.ipv4 ∧
    ∃ h rest, f.body = ipv4Format.emit h ++ rest ∧ h.updateChecksum = h

/-! ## The ways through the switches -/

/-- The two switches, the link between them and what the control plane has installed.  The tables
are arbitrary up to what makes the port protected and the ways end: no route leads to a port that
packets circle on. -/
structure Setup where
  senderIg : Sender.IngressTables
  senderEg : Sender.EgressTables
  receiverIg : Receiver.IngressTables
  receiverEg : Receiver.EgressTables
  /-- the ports at the two ends of the protected link -/
  txPort : PortId
  rxPort : PortId
  portMd : PortId → Receiver.PortMetadata
  mcastPorts : MulticastGroupId → List PortId
  params : Sender.ProtectParams
  linkProtect : senderEg.linkProtect txPort = some params
  copyPktForBuffering : (senderEg.copyPktForBuffering txPort).isSome
  txPort_ne_recirc : txPort ≠ Sender.recircLpbkPort
  mcastPorts_ne_recirc : ∀ grp, Sender.recircLpbkPort ∉ mcastPorts grp
  route_ne_recirc : ∀ dst a, receiverIg.l2Forward dst = some a → a.port ≠ Receiver.recircPortPipe0
  lpbkPort_ne : ∀ port, (portMd port).lpbkPort ≠ Receiver.affectedFlowsDevPort
  /-- a loopback port is not filtered again -/
  lpbkPort_unfiltered : ∀ port, (portMd (portMd port).lpbkPort).filterViaLpbk = 0
  /-- neither loss emulation nor ECN marking takes every packet -/
  corruption : ∃ seqNo, senderEg.emulateCorruption seqNo = false
  emulation : ∃ random, receiverIg.emulateRandomPktDrop random = false
  marking : ∃ depth random,
    senderEg.dcqcnCompareProbability (senderEg.dcqcnGetEcnProbability depth) random = false

namespace Setup

variable (S : Setup)

/-- The traffic manager of the sender puts a packet, or one of its replicas, into a port. -/
def Sends (c : Sender.Ingress) (port : PortId) : Prop :=
  c.dropCtl = 0 ∧
    (c.ucastEgressPort = port ∨ (c.mcastGrpA ≠ 0 ∧ port ∈ S.mcastPorts c.mcastGrpA))

/-- `f` waits as `bs` for the egress pipeline of the protected port. -/
inductive Queued (f : List Bool) : List Bool → Prop
  | intro {regs port tstamp c bs} :
      Sender.ingressPass S.senderIg regs port tstamp f = some (c, bs) →
      c.bypassEgress = 0 → S.Sends c S.txPort → Queued f bs

/-- A copy of `f` is in the buffer of the sender as `bs`. -/
inductive Buffered (f : List Bool) : List Bool → Prop
  | mirrored {bs regs depth random c out m regs' depth' random' c' bs'} :
      S.Queued f bs →
      Sender.egressPass S.senderEg regs S.txPort depth random bs = some (c, out) →
      c.mirrorEmit = some m →
      Sender.egressPass S.senderEg regs' Sender.recircLpbkPort depth' random'
        (m.emit ++ out) = some (c', bs') →
      Buffered f bs'
  | recirculated {bs regs tstamp c bs'} :
      Buffered f bs →
      Sender.ingressPass S.senderIg regs Sender.recircLpbkPort tstamp bs = some (c, bs') →
      c.bypassEgress = 1 → S.Sends c Sender.recircLpbkPort → Buffered f bs'

/-- `f` is on the protected link as `bs`.  Either it has just left the egress of the sender, or it
comes from the loop, on request. -/
inductive OnLink (f : List Bool) : List Bool → Prop
  | direct {bs regs depth random c out} :
      S.Queued f bs →
      Sender.egressPass S.senderEg regs S.txPort depth random bs = some (c, out) →
      c.dropCtl = 0 → OnLink f out
  | retransmitted {bs regs tstamp c bs'} :
      S.Buffered f bs →
      Sender.ingressPass S.senderIg regs Sender.recircLpbkPort tstamp bs = some (c, bs') →
      c.bypassEgress = 1 → S.Sends c S.txPort → OnLink f bs'

/-- `f` is at an ingress port of the receiver as `bs`. -/
inductive AtReceiver (f : List Bool) : PortId → List Bool → Prop
  | arrived {bs} : S.OnLink f bs → AtReceiver f S.rxPort bs
  | filtered {port bs regs random c bs'} :
      AtReceiver f port bs →
      Receiver.ingressPass S.receiverIg regs (S.portMd port) random bs = some (c, bs') →
      c.bypassEgress = 1 → c.ucastEgressPort = (S.portMd port).lpbkPort →
      AtReceiver f (S.portMd port).lpbkPort bs'
  | held {port bs regs random c bs' regs' rid depth c' out} :
      AtReceiver f port bs →
      Receiver.ingressPass S.receiverIg regs (S.portMd port) random bs = some (c, bs') →
      c.dropCtl = 0 → c.bypassEgress = 0 → c.ucastEgressPort = Receiver.recircPortPipe0 →
      Receiver.egressPass S.receiverEg regs' Receiver.recircPortPipe0 rid depth bs' =
        some (c', out) →
      c'.dropCtl = 0 → AtReceiver f Receiver.recircPortPipe0 out

/-- The receiver forwards `f` as `g`, through a port that no leading ack is owed on. -/
inductive Forwarded (f : List Bool) : List Bool → Prop
  | intro {port bs regs random c bs' regs' out rid depth c' g} :
      S.AtReceiver f port bs →
      Receiver.ingressPass S.receiverIg regs (S.portMd port) random bs = some (c, bs') →
      c.dropCtl = 0 → c.bypassEgress = 0 → c.ucastEgressPort = out →
      out ≠ Receiver.recircPortPipe0 →
      Receiver.egressPass S.receiverEg regs' out rid depth bs' = some (c', g) →
      regs'.regLeadingAckNotifyCount (out.setWidth 8) = 0 → c'.dropCtl = 0 → Forwarded f g

/-- `f` goes from the receiver over the link to the sender, which forwards it as `g` through a
port that it does not protect. -/
inductive Returned (f : List Bool) : List Bool → Prop
  | intro {port regs random c bs regs' rid depth c' bs' regs₂ tstamp c₂ bs₂ out regs₃ depth'
        random' c₃ g} :
      Receiver.ingressPass S.receiverIg regs (S.portMd port) random f = some (c, bs) →
      c.dropCtl = 0 → c.bypassEgress = 0 → c.ucastEgressPort = S.rxPort →
      Receiver.egressPass S.receiverEg regs' S.rxPort rid depth bs = some (c', bs') →
      c'.dropCtl = 0 →
      Sender.ingressPass S.senderIg regs₂ S.txPort tstamp bs' = some (c₂, bs₂) →
      c₂.bypassEgress = 0 → S.Sends c₂ out → S.senderEg.linkProtect out = none →
      Sender.egressPass S.senderEg regs₃ out depth' random' bs₂ = some (c₃, g) →
      c₃.dropCtl = 0 → Returned f g

/-- The two switches send frames for `dst` over the link.  The receiver has to know where to hand
the frame on, or it is dropped there. -/
structure RoutesOut (dst : MacAddr) : Prop where
  sender : S.senderIg.l2Forward dst = some (.forward S.txPort)
  receiver : (S.receiverIg.l2Forward dst).isSome

/-- The two switches send frames for `dst` back over the link, through `port` of the receiver's
other side to `out` of the sender's. -/
structure RoutesBack (dst : MacAddr) (port out : PortId) : Prop where
  unfiltered : (S.portMd port).filterViaLpbk = 0
  receiver : (S.receiverIg.l2Forward dst).map Receiver.L2Action.port = some S.rxPort
  sender : S.senderIg.l2Forward dst = some (.forward out)
  unprotected : S.senderEg.linkProtect out = none

end Setup

/-! ## What arrives -/

variable {S : Setup} {f : Frame}

/-- A number of the link protocol, before or after retransmission, straight from the link. -/
abbrev OnWire (d : LinkradarData) : Prop := Receiver.WellMarked d .absent ∧ d.rxBuffered = 0

lemma onWire_nextStamp (regs : Sender.EgressRegs) (port : BitVec 8) (p : Sender.ProtectParams) :
    OnWire (Sender.Egress.nextStamp regs port p) :=
  ⟨⟨rfl, rfl, rfl, fun h => absurd h Bool.false_ne_true⟩, rfl⟩

lemma OnWire.reTx {d : LinkradarData} (h : OnWire d) : OnWire { d with reTx := 1 } :=
  ⟨⟨h.1.type, h.1.dummy, h.1.rxBuffered, fun hv => absurd hv Bool.false_ne_true⟩, h.2⟩

lemma queued_bits (hf : f.Ordinary) {bs : List Bool} (h : S.Queued f.bits bs) :
    ∃ body, BodyRefreshed f.ethernet.etherType f.body body ∧
      bs = Sender.bridgedBits (frameBits f.ethernet body) := by
  cases h with
  | intro hpass _ _ =>
    obtain ⟨body, hb, hbs, -⟩ := Sender.ingressPass_frame hf.pktgen hf.linkradar hpass
    exact ⟨body, hb, hbs⟩

/-- The direct way of a stamped frame, and what the mirror engine is asked for. -/
lemma protected_bits (hf : f.Ordinary) {bs out : List Bool} {regs : Sender.EgressRegs}
    {depth : BitVec 19} {random : BitVec 8} {c : Sender.Egress} (h : S.Queued f.bits bs)
    (hpass : Sender.egressPass S.senderEg regs S.txPort depth random bs = some (c, out)) :
    ∃ d body, OnWire d ∧ BodyPassed f.ethernet.etherType f.body body ∧
      out = dataBits f.ethernet d body ∧
      c.mirrorEmit = some (.bufferedPkt (Sender.Egress.bufferRequest S.txPort)) := by
  obtain ⟨b, hb, rfl⟩ := queued_bits hf h
  obtain ⟨body, hbody, hout, hmir, -⟩ :=
    Sender.egressPass_protected hf.linkradar S.linkProtect S.copyPktForBuffering hpass
  exact ⟨_, body, onWire_nextStamp _ _ _, hb.passed.passed_trans hbody, hout, hmir⟩

lemma buffered_bits (hf : f.Ordinary) {bs : List Bool} (h : S.Buffered f.bits bs) :
    ∃ d body, OnWire d ∧ BodyPassed f.ethernet.etherType f.body body ∧
      bs = bufferedBits f.ethernet (Sender.bufferedHdr S.txPort) d body := by
  induction h with
  | mirrored hq hpass hmir hcopy =>
    obtain ⟨d, body, hd, hbody, rfl, hm⟩ := protected_bits hf hq hpass
    rw [hm, Option.some.injEq] at hmir
    subst hmir
    exact ⟨d, body, hd, hbody, Sender.egressPass_mirrored hcopy⟩
  | recirculated hb hpass hbyp hsend ih =>
    obtain ⟨d, body, hd, hbody, rfl⟩ := ih
    rcases Sender.ingressPass_buffered hpass hbyp with ⟨hbs, -⟩ | ⟨hbs, huc⟩
    · exact ⟨d, body, hd, hbody, hbs⟩
    · rcases hsend.2 with hport | ⟨-, hmem⟩
      · rcases huc with htx | hzero
        · exact absurd (htx.symm.trans hport) S.txPort_ne_recirc
        · exact absurd (hzero.symm.trans hport) (by decide)
      · exact absurd hmem (S.mcastPorts_ne_recirc _)

lemma onLink_bits (hf : f.Ordinary) {bs : List Bool} (h : S.OnLink f.bits bs) :
    ∃ d body, OnWire d ∧ BodyPassed f.ethernet.etherType f.body body ∧
      bs = dataBits f.ethernet d body := by
  cases h with
  | direct hq hpass _ =>
    obtain ⟨d, body, hd, hbody, hout, -⟩ := protected_bits hf hq hpass
    exact ⟨d, body, hd, hbody, hout⟩
  | retransmitted hb hpass hbyp hsend =>
    obtain ⟨d, body, hd, hbody, rfl⟩ := buffered_bits hf hb
    rcases Sender.ingressPass_buffered hpass hbyp with ⟨-, huc, hmc⟩ | ⟨hbs, -⟩
    · rcases hsend.2 with hport | ⟨hne, -⟩
      · exact absurd (hport.symm.trans huc) S.txPort_ne_recirc
      · exact absurd hmc hne
    · exact ⟨_, body, hd.reTx, hbody, hbs⟩

/-- However often it has gone round, a frame at the receiver carries its body and a data
header. -/
lemma atReceiver_bits (hf : f.Ordinary) {port : PortId} {bs : List Bool}
    (h : S.AtReceiver f.bits port bs) :
    ∃ d x body, Receiver.WellMarked d x ∧ BodyPassed f.ethernet.etherType f.body body ∧
      bs = Receiver.protectedBits f.ethernet d x body := by
  induction h with
  | arrived hl =>
    obtain ⟨d, body, hd, hbody, hbs⟩ := onLink_bits hf hl
    exact ⟨d, .absent, body, hd.1, hbody, hbs⟩
  | filtered _ hpass hbyp hport ih =>
    obtain ⟨d, x, body, hd, hbody, rfl⟩ := ih
    rcases Receiver.ingressPass_protected hd hf.dstAddr hpass with
      ⟨-, -, hbs | haff⟩ | ⟨-, hzero, -⟩
    · exact ⟨d, x, body, hd, hbody, hbs⟩
    · exact absurd (hport.symm.trans haff) (S.lpbkPort_ne _)
    · exact absurd (hbyp.symm.trans hzero) (by decide)
  | held _ hpass hdrop hbyp hport hpass' _ ih =>
    obtain ⟨d, x, body, hd, hbody, rfl⟩ := ih
    rcases Receiver.ingressPass_protected hd hf.dstAddr hpass with
      ⟨-, hone, -⟩ | ⟨-, -, ⟨-, huc⟩ | ⟨d', x', hd', hx', rfl, -⟩ | hd'⟩
    · exact absurd (hbyp.symm.trans hone) (by decide)
    · rw [hport] at huc
      cases hroute : S.receiverIg.l2Forward f.ethernet.dstAddr with
      | none =>
        rw [hroute] at huc
        exact absurd huc (by decide)
      | some a =>
        rw [hroute] at huc
        exact absurd huc.symm (S.route_ne_recirc _ _ hroute)
    · exact ⟨d', x', body, hd', hbody, Receiver.egressPass_held hd' hx' hpass'⟩
    · exact absurd (hdrop.symm.trans hd') (by decide)

lemma ipv4_ne_pausePfc : EtherType.ipv4 ≠ EtherType.pausePfc := by decide

lemma trans_ipv4 {t : BitVec 16} {b b' b'' : List Bool} (h : BodyPassed t b b')
    (h' : BodyPassed EtherType.ipv4 b' b'') : BodyPassed EtherType.ipv4 b b'' :=
  BodyChanged.trans_ipv4 (R := Ipv4.Rewritten) (fun _ _ _ => Ipv4.Rewritten.trans) h h'

/-- **What the receiver forwards** is an IPv4 frame, whatever the sender was given. -/
lemma forwarded_bits (hf : f.Ordinary) {g : List Bool} (h : S.Forwarded f.bits g) :
    ∃ body, BodyPassed EtherType.ipv4 f.body body ∧ g = frameBits f.ethernet.asIpv4 body := by
  cases h with
  | intro hat hpass hdrop hbyp hport hne hpass' hcount _ =>
    obtain ⟨d, x, b, hd, hb, rfl⟩ := atReceiver_bits hf hat
    rcases Receiver.ingressPass_protected hd hf.dstAddr hpass with
      ⟨-, hone, -⟩ | ⟨-, -, ⟨rfl, -⟩ | ⟨_, _, _, _, _, huc, _⟩ | hd'⟩
    · exact absurd (hbyp.symm.trans hone) (by decide)
    · obtain ⟨-, body, hbody, hg⟩ :=
        Receiver.egressPass_frame ipv4_ne_linkradar ipv4_ne_pausePfc hpass'
      rw [if_neg (by rw [hcount]; decide)] at hg
      exact ⟨body, trans_ipv4 hb hbody.passed, hg⟩
    · exact absurd (hport.symm.trans huc) hne
    · exact absurd (hdrop.symm.trans hd') (by decide)

/-- What the sender forwards of an IPv4 frame that came back, with or without a leading ack. -/
lemma returned_bits (hf : f.Ordinary) (hip : f.ethernet.etherType = EtherType.ipv4)
    {g : List Bool} (h : S.Returned f.bits g) :
    ∃ body, BodyPassed EtherType.ipv4 f.body body ∧ g = frameBits f.ethernet body := by
  have he : f.ethernet.asIpv4 = f.ethernet := f.ethernet.asIpv4_eq_self_iff.mpr hip
  cases h with
  | intro hpass _ hbyp _ hpass' _ hpass₂ _ _ hprot hpass₃ _ =>
    rcases Receiver.ingressPass_frame hf.pktgen hf.linkradar hpass with ⟨-, hone⟩ | ⟨-, rfl, -⟩
    · exact absurd (hbyp.symm.trans hone) (by decide)
    obtain ⟨-, b₁, hb₁, hout⟩ := Receiver.egressPass_frame hf.linkradar
      (by rw [hip]; exact ipv4_ne_pausePfc) hpass'
    rw [hip] at hb₁
    split at hout
    · obtain ⟨l, hl, rfl⟩ := hout
      obtain ⟨rfl, -⟩ := Sender.ingressPass_lack hl.type (by rw [hl.isPiggyBacked]; decide) hpass₂
      rw [he] at hpass₃
      obtain ⟨b₂, hb₂, rfl, -⟩ := Sender.egressPass_unprotected hf.linkradar hprot hpass₃
      rw [hip] at hb₂
      exact ⟨b₂, hb₁.passed.passed_trans hb₂, rfl⟩
    · subst hout
      obtain ⟨b₂, hb₂, rfl, -⟩ := Sender.ingressPass_frame hf.pktgen hf.linkradar hpass₂
      obtain ⟨b₃, hb₃, rfl, -⟩ := Sender.egressPass_unprotected hf.linkradar hprot hpass₃
      rw [hip] at hb₂ hb₃
      exact ⟨b₃, (hb₁.passed.passed_trans hb₂.passed).passed_trans hb₃, rfl⟩

/-! ## Plain IPv4 frames are passed transparently -/

/-- The order of the words does not matter to the check. -/
lemma checksumOk_iff (h : Ipv4) (rest : List Bool) : ChecksumOk h rest ↔
    OnesComplement.sum (h.checksumWords ++
      h.hdrChecksum :: takeWords (2 * (h.ihl.toNat - 5)) rest) = BitVec.allOnes 16 := by
  have htotal : OnesComplement.total (headerWords h rest) =
      OnesComplement.total (h.checksumWords ++
        h.hdrChecksum :: takeWords (2 * (h.ihl.toNat - 5)) rest) := by
    simp only [headerWords, Ipv4.checksumWords, OnesComplement.total_append,
      OnesComplement.total_cons, OnesComplement.total_nil]
    omega
  rw [ChecksumOk, OnesComplement.sum_eq_allOnes_iff (by decide),
    OnesComplement.sum_eq_allOnes_iff (by decide), htotal]

/-- Marking a good header and writing its checksum anew leaves a good header. -/
lemma checksumOk_markCe {h : Ipv4} {rest : List Bool} (hplain : h.updateChecksum = h)
    (hok : ChecksumOk h rest) : ChecksumOk h.markCe.updateChecksum rest := by
  have hsum : h.hdrChecksum = OnesComplement.checksum h.checksumWords :=
    (congrArg Ipv4.hdrChecksum hplain).symm
  have hne : OnesComplement.total h.markCe.checksumWords ≠ 0 := by
    have hfirst : (h.version ++ h.ihl ++ h.dscp ++ (0b11 : BitVec 2)).toNat ≠ 0 := by
      intro hzero
      rw [BitVec.toNat_append, Nat.or_eq_zero_iff] at hzero
      exact absurd hzero.2 (by decide)
    have hlist : h.markCe.checksumWords =
        (h.version ++ h.ihl ++ h.dscp ++ (0b11 : BitVec 2)) :: h.checksumWords.tail := rfl
    rw [hlist, OnesComplement.total_cons]
    omega
  rw [checksumOk_iff] at hok ⊢
  rw [hsum] at hok
  exact OnesComplement.sum_checksum_congr (by decide) hok hne

lemma transparent_of_passed (hp : PlainIpv4 f) {body : List Bool}
    (hb : BodyPassed EtherType.ipv4 f.body body) :
    Transparent f.bits (frameBits f.ethernet body) := by
  obtain ⟨hip, h, rest, hbody, hplain⟩ := hp
  obtain ⟨k, k', rest', hk, rfl, hr⟩ : ∃ k k' rest', f.body = ipv4Format.emit k ++ rest' ∧
      body = ipv4Format.emit k' ++ rest' ∧ k.Rewritten k' := hb
  obtain ⟨rfl, rfl⟩ := emit_append_inj ipv4Format (hk.symm.trans hbody)
  rcases hr with rfl | ⟨hect, rfl⟩
  · left
    rw [hplain, Frame.bits, hk]
  · right
    refine ⟨f.ethernet, k, OnesComplement.checksum k.markCe.checksumWords, rest', hip, hect,
      ?_, rfl, fun hok => checksumOk_markCe hplain hok⟩
    rw [Frame.bits, hk]

/-! ## Other frames are not -/

/-- What comes out unmarked is what went in only if that was a plain IPv4 frame. -/
lemma plainIpv4_of_transparent {body : List Bool}
    (hb : BodyRefreshed EtherType.ipv4 f.body body)
    (ht : Transparent f.bits (frameBits f.ethernet.asIpv4 body)) : PlainIpv4 f := by
  obtain ⟨h, h', rest, hbody, rfl, hr⟩ : ∃ h h' rest, f.body = ipv4Format.emit h ++ rest ∧
      body = ipv4Format.emit h' ++ rest ∧ h.Refreshed h' := hb
  rcases ht with heq | ⟨e, k, checksum, rest', hip, hect, hin, hout, -⟩
  · obtain ⟨he, hrest⟩ := emit_append_inj ethernetFormat heq
    rw [hbody] at hrest
    obtain ⟨hh, -⟩ := emit_append_inj ipv4Format hrest
    exact ⟨f.ethernet.asIpv4_eq_self_iff.mp he, h, rest, hbody, hr.symm.trans hh⟩
  · obtain ⟨-, hin⟩ := emit_append_inj ethernetFormat hin
    obtain ⟨-, hout⟩ := emit_append_inj ethernetFormat hout
    rw [hbody] at hin
    obtain ⟨rfl, -⟩ := emit_append_inj ipv4Format hin
    obtain ⟨hh, -⟩ := emit_append_inj ipv4Format hout
    have hecn : h.ecn = 0b11 := by
      have := congrArg Ipv4.ecn (hr.symm.trans hh)
      exact this
    rcases hect with h₁ | h₁ <;> exact absurd (h₁.symm.trans hecn) (by decide)

/-- Registers with which a sender marks and drops nothing. -/
def quietRegs (seqNo : SeqNo) : Sender.EgressRegs :=
  { Sender.EgressRegs.init with
    regEcnMarkingThreshold := BitVec.allOnes 32, regCorruptionSeqNo := fun _ => seqNo }

lemma unmarked_quietRegs {t : Sender.EgressTables} {depth : BitVec 19} {random : BitVec 8}
    (hprob : t.dcqcnCompareProbability (t.dcqcnGetEcnProbability depth) random = false)
    (seqNo : SeqNo) : Sender.Unmarked t (quietRegs seqNo) depth random := by
  refine ⟨?_, hprob⟩
  change depth.setWidth 32 < BitVec.allOnes 32
  rw [BitVec.lt_def, BitVec.toNat_setWidth, BitVec.toNat_allOnes]
  have := depth.isLt
  omega

/-- A packet from the link gets past loss emulation. -/
lemma exists_unfiltered {d : LinkradarData} {body : List Bool} (hd : OnWire d)
    (h : S.OnLink f.bits (dataBits f.ethernet d body)) :
    ∃ port, S.AtReceiver f.bits port (dataBits f.ethernet d body) ∧
      (S.portMd port).filterViaLpbk = 0 := by
  by_cases hfilter : (S.portMd S.rxPort).filterViaLpbk = 1
  · obtain ⟨random, hrandom⟩ := S.emulation
    obtain ⟨c, hpass, hbyp, hport⟩ := Receiver.exists_filtered (.init 0) hd.1 hfilter hrandom
    exact ⟨_, .filtered (.arrived h) hpass hbyp hport, S.lpbkPort_unfiltered _⟩
  · refine ⟨S.rxPort, .arrived h, ?_⟩
    generalize (S.portMd S.rxPort).filterViaLpbk = b at hfilter
    revert b
    decide

/-- **The direct way**: every frame the two switches have a route for is forwarded, unmarked if
the queues are short. -/
lemma exists_forwarded (hf : f.Ordinary) (hroute : S.RoutesOut f.ethernet.dstAddr) :
    ∃ body, BodyRefreshed EtherType.ipv4 f.body body ∧
      S.Forwarded f.bits (frameBits f.ethernet.asIpv4 body) := by
  obtain ⟨depth, random, hprob⟩ := S.marking
  obtain ⟨seqNo, hseq⟩ := S.corruption
  obtain ⟨a, ha⟩ := Option.isSome_iff_exists.mp hroute.receiver
  -- through the sender
  obtain ⟨c₁, bs₁, h₁⟩ := Sender.exists_ingressPass S.senderIg .init 0 0 hf.pktgen hf.linkradar
    f.length_body
  obtain ⟨b₁, hb₁, rfl, hdrop₁, hbyp₁, hport₁⟩ :=
    Sender.ingressPass_frame hf.pktgen hf.linkradar h₁
  have hqueued : S.Queued f.bits _ :=
    .intro h₁ hbyp₁ ⟨hdrop₁, Or.inl (hport₁ _ hroute.sender)⟩
  have hlen₁ : 368 ≤ b₁.length := by rw [hb₁.length_eq]; exact f.length_body
  obtain ⟨c₂, bs₂, h₂⟩ := Sender.exists_egressPass S.senderEg (quietRegs seqNo) S.txPort depth
    random f.ethernet hf.linkradar hlen₁
  obtain ⟨b₂, -, rfl, -, hb₂, hdrop₂⟩ :=
    Sender.egressPass_protected hf.linkradar S.linkProtect S.copyPktForBuffering h₂
  replace hb₂ := hb₂ (unmarked_quietRegs hprob seqNo)
  have hlink : S.OnLink f.bits _ := .direct hqueued h₂ (hdrop₂ hseq)
  -- through the receiver
  have hwire := onWire_nextStamp (quietRegs seqNo) (S.txPort.setWidth 8) S.params
  obtain ⟨port, hat, hfilter⟩ := exists_unfiltered hwire hlink
  set d := Sender.Egress.nextStamp (quietRegs seqNo) (S.txPort.setWidth 8) S.params with hd
  obtain ⟨c₃, h₃, hdrop₃, hbyp₃, hport₃⟩ :=
    Receiver.exists_released
      { Receiver.IngressRegs.init 0 with regAck := fun _ => ⟨d.seqNo, 0⟩ } 0 b₂ hwire.1 hwire.2
      hf.dstAddr hfilter ha rfl
  have hlen₂ : 368 ≤ b₂.length := by rw [hb₂.length_eq]; exact hlen₁
  obtain ⟨c₄, bs₄, h₄⟩ := Receiver.exists_egressPass S.receiverEg .init a.port 0 0
    f.ethernet.asIpv4 ipv4_ne_linkradar hlen₂
  obtain ⟨hdrop₄, b₄, hb₄, hbs₄⟩ :=
    Receiver.egressPass_frame ipv4_ne_linkradar ipv4_ne_pausePfc h₄
  change (if (0 : BitVec 8) < 0 then _ else _) at hbs₄
  rw [if_neg (by decide)] at hbs₄
  subst hbs₄
  refine ⟨b₄, BodyChanged.trans_ipv4 (R := Ipv4.Refreshed) (fun _ _ _ => Ipv4.Refreshed.trans)
    (hb₁.refreshed_trans hb₂) hb₄, ?_⟩
  exact .intro hat h₃ hdrop₃ hbyp₃ hport₃ (S.route_ne_recirc _ _ ha) h₄ rfl hdrop₄

/-- **The way back with a leading ack**: every frame but a pause frame is forwarded by the
sender as an IPv4 frame. -/
lemma exists_returned (hf : f.Ordinary) {port out : PortId}
    (hroute : S.RoutesBack f.ethernet.dstAddr port out)
    (hpfc : f.ethernet.etherType ≠ EtherType.pausePfc) :
    ∃ body, BodyRefreshed EtherType.ipv4 f.body body ∧
      S.Returned f.bits (frameBits f.ethernet.asIpv4 body) := by
  obtain ⟨depth, random, hprob⟩ := S.marking
  obtain ⟨seqNo, hseq⟩ := S.corruption
  obtain ⟨a, ha, hport⟩ := Option.map_eq_some_iff.mp hroute.receiver
  -- through the receiver, which owes a leading ack
  obtain ⟨c₁, bs₁, h₁⟩ := Receiver.exists_ingressPass S.receiverIg (.init 0) (S.portMd port) 0
    hf.pktgen hf.linkradar f.length_body
  rcases Receiver.ingressPass_frame hf.pktgen hf.linkradar h₁ with
    ⟨hone, -⟩ | ⟨hbyp₁, rfl, hfwd⟩
  · exact absurd (hone.symm.trans hroute.unfiltered) (by decide)
  obtain ⟨hdrop₁, hport₁⟩ := hfwd a ha
  obtain ⟨c₂, bs₂, h₂⟩ := Receiver.exists_egressPass S.receiverEg
    { Receiver.EgressRegs.init with regLeadingAckNotifyCount := fun _ => 1 } S.rxPort 0 0
    f.ethernet hf.linkradar f.length_body
  obtain ⟨hdrop₂, b₂, hb₂, hbs₂⟩ := Receiver.egressPass_frame hf.linkradar hpfc h₂
  change (if (0 : BitVec 8) < 1 then _ else _) at hbs₂
  rw [if_pos (by decide)] at hbs₂
  obtain ⟨l, hl, rfl⟩ := hbs₂
  -- through the sender, which takes it off
  have h₃ := Sender.exists_ingressPass_lack S.senderIg .init S.txPort 0 f.ethernet hl.type b₂
  obtain ⟨c₃, bs₃, h₃⟩ := h₃
  obtain ⟨rfl, hdrop₃, hbyp₃, hport₃⟩ :=
    Sender.ingressPass_lack hl.type (by rw [hl.isPiggyBacked]; decide) h₃
  have hlen : 368 ≤ b₂.length := by rw [hb₂.length_eq]; exact f.length_body
  obtain ⟨c₄, bs₄, h₄⟩ := Sender.exists_egressPass S.senderEg (quietRegs seqNo) out depth random
    f.ethernet.asIpv4 ipv4_ne_linkradar hlen
  obtain ⟨b₄, -, rfl, hb₄, hdrop₄⟩ :=
    Sender.egressPass_unprotected ipv4_ne_linkradar hroute.unprotected h₄
  replace hb₄ := hb₄ (unmarked_quietRegs hprob seqNo)
  refine ⟨b₄, BodyChanged.trans_ipv4 (R := Ipv4.Refreshed) (fun _ _ _ => Ipv4.Refreshed.trans)
    hb₂ hb₄, ?_⟩
  exact .intro h₁ hdrop₁ hbyp₁ (hport₁.trans hport) h₂ hdrop₂ h₃ hbyp₃
    ⟨hdrop₃, Or.inl (hport₃ _ hroute.sender)⟩ hroute.unprotected h₄ (hdrop₄ hseq)

/-- The way back of a pause frame, with another pause time. -/
lemma exists_returned_pfc (hf : f.Ordinary) {port out : PortId}
    (hroute : S.RoutesBack f.ethernet.dstAddr port out)
    (hpfc : f.ethernet.etherType = EtherType.pausePfc) :
    ∃ body, body ≠ f.body ∧ S.Returned f.bits (frameBits f.ethernet body) := by
  obtain ⟨depth, random, hprob⟩ := S.marking
  obtain ⟨seqNo, hseq⟩ := S.corruption
  obtain ⟨a, ha, hport⟩ := Option.map_eq_some_iff.mp hroute.receiver
  have hip : f.ethernet.etherType ≠ EtherType.ipv4 := hpfc ▸ ipv4_ne_pausePfc.symm
  obtain ⟨c₁, bs₁, h₁⟩ := Receiver.exists_ingressPass S.receiverIg (.init 0) (S.portMd port) 0
    hf.pktgen hf.linkradar f.length_body
  rcases Receiver.ingressPass_frame hf.pktgen hf.linkradar h₁ with
    ⟨hone, -⟩ | ⟨hbyp₁, rfl, hfwd⟩
  · exact absurd (hone.symm.trans hroute.unfiltered) (by decide)
  obtain ⟨hdrop₁, hport₁⟩ := hfwd a ha
  obtain ⟨regs, c₂, b₂, h₂, hdrop₂, hlen₂, hne⟩ :=
    Receiver.exists_egressPass_pfc S.receiverEg S.rxPort 0 0 hpfc f.length_body
  have hlen : 368 ≤ b₂.length := by rw [hlen₂]; exact f.length_body
  obtain ⟨c₃, bs₃, h₃⟩ := Sender.exists_ingressPass S.senderIg .init S.txPort 0 hf.pktgen
    hf.linkradar hlen
  obtain ⟨b₃, hb₃, rfl, hdrop₃, hbyp₃, hport₃⟩ :=
    Sender.ingressPass_frame hf.pktgen hf.linkradar h₃
  replace hb₃ : b₃ = b₂ := (if_neg hip).mp hb₃
  subst hb₃
  obtain ⟨c₄, bs₄, h₄⟩ := Sender.exists_egressPass S.senderEg (quietRegs seqNo) out depth random
    f.ethernet hf.linkradar hlen
  obtain ⟨b₄, hb₄, rfl, -, hdrop₄⟩ :=
    Sender.egressPass_unprotected hf.linkradar hroute.unprotected h₄
  replace hb₄ : b₄ = b₃ := (if_neg hip).mp hb₄
  subst hb₄
  exact ⟨b₄, hne, .intro h₁ hdrop₁ hbyp₁ (hport₁.trans hport) h₂ hdrop₂ h₃ hbyp₃
    ⟨hdrop₃, Or.inl (hport₃ _ hroute.sender)⟩ hroute.unprotected h₄ (hdrop₄ hseq)⟩

/-! ## The result -/

/-- **Frame transparency.**  In each direction, the frame that comes out is the one that went
in, up to an ECN mark, on every way through the two switches exactly when it is an IPv4 frame
with the checksum of its first twenty bytes. -/
theorem frame_transparency (S : Setup) (f : Frame) (hf : f.Ordinary) :
    (S.RoutesOut f.ethernet.dstAddr →
      ((∀ g, S.Forwarded f.bits g → Transparent f.bits g) ↔ PlainIpv4 f)) ∧
    ∀ port out, S.RoutesBack f.ethernet.dstAddr port out →
      ((∀ g, S.Returned f.bits g → Transparent f.bits g) ↔ PlainIpv4 f) := by
  refine ⟨fun hroute => ⟨fun h => ?_, fun hp g hg => ?_⟩,
    fun port out hroute => ⟨fun h => ?_, fun hp g hg => ?_⟩⟩
  · obtain ⟨body, hb, hg⟩ := exists_forwarded hf hroute
    exact plainIpv4_of_transparent hb (h _ hg)
  · obtain ⟨body, hb, rfl⟩ := forwarded_bits hf hg
    rw [f.ethernet.asIpv4_eq_self_iff.mpr hp.1]
    exact transparent_of_passed hp hb
  · by_cases hpfc : f.ethernet.etherType = EtherType.pausePfc
    · obtain ⟨body, hne, hg⟩ := exists_returned_pfc hf hroute hpfc
      rcases h _ hg with heq | ⟨e, k, checksum, rest, hip, -, hin, -⟩
      · exact absurd (emit_append_inj ethernetFormat heq).2 hne
      · rw [← (emit_append_inj ethernetFormat hin).1, hpfc] at hip
        exact absurd hip.symm ipv4_ne_pausePfc
    · obtain ⟨body, hb, hg⟩ := exists_returned hf hroute hpfc
      exact plainIpv4_of_transparent hb (h _ hg)
  · obtain ⟨body, hb, rfl⟩ := returned_bits hf hp.1 hg
    exact transparent_of_passed hp hb

/-! ## The testbed -/

/-- The tables of the evaluation testbed: the sender reaches the protected link through its
port 32, the receiver through its port 36 with loss emulation behind the loopback port 44. -/
def testbed : Setup where
  senderIg :=
    { l2Forward := fun dst =>
        if dst = 0x1070fdb35e6f then some (.forward 32)
        else if dst = 0x1070fdb3618f then some (.forward 36) else none
      retxMcastBufferedPkt := fun port =>
        if port = 32 then some .doRetxBufferedPktUcast else none
      limitPktgenTraffic := true }
  senderEg :=
    { linkProtect := fun port => if port = 32 then some ⟨3, 1⟩ else none
      copyPktForBuffering := fun port => if port = 32 then some 100 else none
      mirrorDummyPkt := fun port => if port = 32 then some 101 else none
      decideToEmulateCorruption := fun _ => false
      emulateCorruption := fun _ => false
      dcqcnGetEcnProbability := fun _ => 0
      dcqcnCompareProbability := fun _ _ => false }
  receiverIg :=
    { timeoutVal100ns := 70
      l2Forward := fun dst =>
        if dst = 0x1070fdb35e6f then some (.l2Switch 52)
        else if dst = 0x1070fdb3618f then some (.l2Switch 36) else none
      generateLossNotification := fun port => if port = 36 then some 500 else none
      addPfcHdrAndRoute := none
      emulateRandomPktDrop := fun _ => false }
  receiverEg :=
    { getLeadingAckNotifyMaxCount := fun port => if port = 36 then some 2 else none
      getCourierPktMirrorSession := fun port => if port = 36 then some 400 else none
      addPfcC1Quanta := fun _ => none }
  txPort := 32
  rxPort := 36
  portMd := fun port =>
    if port = 36 then ⟨1, 0, 36, 44⟩ else if port = 44 then ⟨0, 1, 36, 44⟩ else ⟨0, 0, 0, 0⟩
  mcastPorts := fun _ => []
  params := ⟨3, 1⟩
  linkProtect := rfl
  copyPktForBuffering := rfl
  txPort_ne_recirc := by decide
  mcastPorts_ne_recirc := fun _ => List.not_mem_nil
  route_ne_recirc := by
    intro dst a h
    dsimp only at h
    split_ifs at h <;> cases h <;> decide
  lpbkPort_ne := by
    intro port
    split_ifs <;> decide
  lpbkPort_unfiltered := by
    intro port
    have h₀ : ¬ (0 : PortId) = 36 ∧ ¬ (0 : PortId) = 44 := by decide
    have h₄₄ : ¬ (44 : PortId) = 36 := by decide
    split_ifs <;> simp_all
  corruption := ⟨0, rfl⟩
  emulation := ⟨0, rfl⟩
  marking := ⟨0, 0, rfl⟩

/-- A frame of a host of the testbed with an IPv4 header and 26 bytes behind it. -/
def ipv4Frame (dst src : MacAddr) (h : Ipv4) : Frame where
  ethernet := ⟨dst, src, EtherType.ipv4⟩
  body := ipv4Format.emit h ++ List.replicate 208 false
  length_body := by rw [List.length_append, hasWidth_ipv4.length_emit, List.length_replicate]

/-- The header of a ping without options. -/
def pingHeader : Ipv4 :=
  { (default : Ipv4) with
    version := 4, ihl := 5, totalLen := 46, ttl := 64, protocol := 1
    srcAddr := 0x0a000001, dstAddr := 0x0a000002 }

theorem frame_transparency_ping :
    (∀ g, testbed.Forwarded
        (ipv4Frame 0x1070fdb35e6f 0x1070fdb3618f pingHeader.updateChecksum).bits g →
      Transparent (ipv4Frame 0x1070fdb35e6f 0x1070fdb3618f pingHeader.updateChecksum).bits g) ∧
    ∀ g, testbed.Returned
        (ipv4Frame 0x1070fdb3618f 0x1070fdb35e6f pingHeader.updateChecksum).bits g →
      Transparent (ipv4Frame 0x1070fdb3618f 0x1070fdb35e6f pingHeader.updateChecksum).bits g :=
  ⟨((frame_transparency testbed _ ⟨by decide, by decide, by decide⟩).1 ⟨rfl, rfl⟩).mpr
      ⟨rfl, _, _, rfl, rfl⟩,
    ((frame_transparency testbed _ ⟨by decide, by decide, by decide⟩).2 52 36
      ⟨rfl, rfl, rfl, rfl⟩).mpr ⟨rfl, _, _, rfl, rfl⟩⟩

/-- An ARP frame, all fields zero. -/
def arpFrame : Frame where
  ethernet := ⟨0x1070fdb35e6f, 0x1070fdb3618f, EtherType.arp⟩
  body := List.replicate 368 false
  length_body := by rw [List.length_replicate]

/-- A header with one word of options. -/
def optionsHeader : Ipv4 :=
  { pingHeader with ihl := 6, totalLen := 50, hdrChecksum := 0x64c8 }

/-- Two no-operation options, the end of the list, and the payload. -/
def optionsRest : List Bool := (WireFormat.bits 32).emit 0x01010000 ++ List.replicate 176 false

/-- The frame with that header. -/
def optionsFrame : Frame where
  ethernet := ⟨0x1070fdb35e6f, 0x1070fdb3618f, EtherType.ipv4⟩
  body := ipv4Format.emit optionsHeader ++ optionsRest
  length_body := by
    rw [List.length_append, optionsRest, List.length_append, hasWidth_ipv4.length_emit,
      (hasWidth_bits 32).length_emit, List.length_replicate]

/-- On the direct way through the testbed an ARP frame turns into an IPv4 frame, and a good
IPv4 header with options into one that its receiver discards. -/
theorem arp_and_options_altered :
    (∃ g, testbed.Forwarded arpFrame.bits g ∧ ¬ Transparent arpFrame.bits g) ∧
    ChecksumOk optionsHeader optionsRest ∧
    ¬ ChecksumOk optionsHeader.updateChecksum optionsRest ∧
    testbed.Forwarded optionsFrame.bits (frameBits optionsFrame.ethernet
      (ipv4Format.emit optionsHeader.updateChecksum ++ optionsRest)) := by
  refine ⟨?_, by unfold ChecksumOk; decide +kernel, by unfold ChecksumOk; decide +kernel, ?_⟩
  · obtain ⟨body, hb, hg⟩ := exists_forwarded (S := testbed) (f := arpFrame)
      ⟨by decide, by decide, by decide⟩ ⟨rfl, rfl⟩
    refine ⟨_, hg, fun ht => ?_⟩
    exact absurd (plainIpv4_of_transparent hb ht).1 (by decide)
  · obtain ⟨body, hb, hg⟩ := exists_forwarded (S := testbed) (f := optionsFrame)
      ⟨by decide, by decide, by decide⟩ ⟨rfl, rfl⟩
    obtain ⟨h, h', rest, hbody, rfl, hr⟩ : ∃ h h' rest, optionsFrame.body =
        ipv4Format.emit h ++ rest ∧ body = ipv4Format.emit h' ++ rest ∧ h.Refreshed h' := hb
    obtain ⟨rfl, rfl⟩ := emit_append_inj ipv4Format hbody
    rw [Ipv4.Refreshed] at hr
    rw [hr] at hg
    exact hg

end LinkGuardian.Transparency
