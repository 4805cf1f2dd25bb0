import LinkGuardian.Dataplane.Receiver.FramePasses
import LinkGuardian.Dataplane.Sender.FramePasses

/-!
# Header stacks between the controls

A stack is written by one deparser and read by the parser of another control, often in the
other program.  There is one type of stacks for each of the four parsers; `Tagged` says which
tags a stack bears (ether type, header type, `rx_buffered`, internal header), `emit` is the
deparser that writes it, and `parsed` what the parser makes of it: the same headers, and
nothing else.  All other fields are arbitrary, as are the bits behind the stack.

`header_round_trips` is one instance of `WireFormat.Recovers` for each parser, and the round of
a packet through the receiver buffer.
-/

namespace LinkGuardian

open P4 WireFormat

lemma Ethernet.asLinkradar_of_etherType {e : Ethernet} (h : e.etherType = EtherType.linkradar) :
    e.asLinkradar = e := by
  rw [Ethernet.asLinkradar, ← h]

/-! ## Ingress of the receiver -/

namespace Receiver

@[simp] lemma default_linkradarRxBuffered : (default : Hdr).linkradarRxBuffered = .absent := rfl

inductive IngressStack
  /-- a packet stamped by the egress of the sender -/
  | data (e : Ethernet) (d : LinkradarData)
  /-- a packet of the receiver buffer, from the egress of the receiver -/
  | rxBuffered (e : Ethernet) (d : LinkradarData) (x : LinkradarRxBuffered)

namespace IngressStack

def Tagged : IngressStack → Prop
  | data e d => e.etherType = EtherType.linkradar ∧ d.type = linkradarHdrTypeData ∧
      d.rxBuffered = 0
  | rxBuffered e d _ => e.etherType = EtherType.linkradar ∧ d.type = linkradarHdrTypeData ∧
      d.rxBuffered = 1

def emit : IngressStack → List Bool → List Bool
  | data e d => Sender.Hdr.emit
      { (default : Sender.Hdr) with ethernet := .of e, linkradarData := .of d }
  | rxBuffered e d x => Hdr.emit
      { (default : Hdr) with
        ethernet := .of e, linkradarData := .of d, linkradarRxBuffered := .of x }

def parsed : IngressStack → List Bool → Parsed
  | data e d, payload =>
    ({ (default : Hdr) with ethernet := .of e, linkradarData := .of d }, payload)
  | rxBuffered e d x, payload =>
    ({ (default : Hdr) with
      ethernet := .of e, linkradarData := .of d, linkradarRxBuffered := .of x }, payload)

lemma emit_data (e : Ethernet) (d : LinkradarData) (payload : List Bool) :
    (data e d).emit payload = frameBits e (linkradarDataFormat.emit d ++ payload) := by
  simp only [emit, Sender.Hdr.emit, frameBits, List.append_assoc]
  rfl

lemma emit_rxBuffered (e : Ethernet) (d : LinkradarData) (x : LinkradarRxBuffered)
    (payload : List Bool) : (rxBuffered e d x).emit payload =
      frameBits e
        (linkradarDataFormat.emit d ++ (linkradarRxBufferedFormat.emit x ++ payload)) := by
  simp only [emit, Hdr.emit, frameBits, List.append_assoc]
  rfl

lemma parse_emit (s : IngressStack) (hs : s.Tagged) (payload : List Bool) :
    IngressParser.parse (s.emit payload) = some (s.parsed payload) := by
  cases s with
  | data e d =>
    obtain ⟨he, ht, hrx⟩ := hs
    have h := IngressParser.parse_marked (e := e) (x := .absent) ht (by simp [hrx]) payload
    simp only [protectedBits, protectedHdr, Ethernet.asLinkradar_of_etherType he] at h
    rw [emit_data]
    exact h
  | rxBuffered e d x =>
    obtain ⟨he, ht, hrx⟩ := hs
    have h := IngressParser.parse_marked (e := e) (x := .of x) ht (by simp [hrx]) payload
    simp only [protectedBits, protectedHdr, Ethernet.asLinkradar_of_etherType he] at h
    rw [emit_rxBuffered]
    exact h

lemma recovers : Recovers Tagged emit IngressParser.parse parsed := by
  refine Recovers.of_injective parse_emit fun s s' payload payload' h => ?_
  cases s <;> cases s' <;> simp_all [parsed, Header.of, Header.absent]

end IngressStack

/-! ## Egress of the receiver -/

/-- The bits that the mirror engine puts in front of a mirrored packet. -/
def IgMirror.emit : IgMirror → List Bool
  | .lackUpdate h => igMirrorLackUpdateFormat.emit h
  | .lossNotification h => igMirrorLossNotificationFormat.emit h

/-- Every internal header starts with a type and an info. -/
lemma extract_internalHdr_igMirrorLackUpdate (m : IgMirrorLackUpdate) (rest : List Bool) :
    (internalHdrFormat.extract (igMirrorLackUpdateFormat.emit m ++ rest)).map Prod.fst =
      some ⟨m.type, m.info⟩ := by
  have hsplit : igMirrorLackUpdateFormat.emit m = internalHdrFormat.emit ⟨m.type, m.info⟩ ++
      ((bits 8).pair ((bits 16).pair ((bits 7).pair (bits 1)))).emit
        (m.ingressPort, m.leadingAck, m.pad, m.leadingAckEra) := (List.append_assoc _ _ _).symm
  rw [hsplit, List.append_assoc, internalHdrFormat.extract_emit, Option.map_some]

lemma extract_internalHdr_igMirrorLossNotification (m : IgMirrorLossNotification)
    (rest : List Bool) :
    (internalHdrFormat.extract (igMirrorLossNotificationFormat.emit m ++ rest)).map Prod.fst =
      some ⟨m.type, m.info⟩ := by
  have hsplit : igMirrorLossNotificationFormat.emit m =
      internalHdrFormat.emit ⟨m.type, m.info⟩ ++
        ((bits 16).pair ((bits 16).pair ((bits 16).pair ((bits 7).pair (bits 1))))).emit
          (m.holeSize, m.firstLostSeqNo, m.leadingAck, m.pad, m.leadingAckEra) :=
    (List.append_assoc _ _ _).symm
  rw [hsplit, List.append_assoc, internalHdrFormat.extract_emit, Option.map_some]

inductive EgressStack
  /-- a packet for the receiver buffer, bridged from the ingress -/
  | rxBuffered (b : InternalHdr) (e : Ethernet) (d : LinkradarData) (x : LinkradarRxBuffered)
  /-- a mirrored packet that only delivers its mirror header -/
  | lackUpdate (m : IgMirrorLackUpdate)
  /-- a mirrored packet that becomes a loss notification -/
  | lossNotification (m : IgMirrorLossNotification) (e : Ethernet)

/-- The headers by which the stacks differ. -/
def EgressParsed.headers (p : EgressParsed) :=
  (p.egMeta.bridgedMeta, p.egMeta.igMirrorLackUpdate, p.egMeta.igMirrorLossNotification,
    p.hdr.ethernet, p.hdr.linkradarData, p.hdr.linkradarRxBuffered)

namespace EgressStack

def Tagged : EgressStack → Prop
  | rxBuffered b e d _ => b.type = internalHdrTypeBridgedMeta ∧
      e.etherType = EtherType.linkradar ∧ d.type = linkradarHdrTypeData ∧ d.rxBuffered = 1
  | lackUpdate m => m.type = internalHdrTypeIgMirror ∧ m.info = igMirrorLackUpdate.setWidth 4
  | lossNotification m _ => m.type = internalHdrTypeIgMirror ∧
      m.info = igMirrorLossNotification.setWidth 4

def emit : EgressStack → List Bool → List Bool
  | rxBuffered b e d x, payload => Hdr.emit
      { (default : Hdr) with
        bridgedMeta := .of b, ethernet := .of e, linkradarData := .of d
        linkradarRxBuffered := .of x } payload
  | lackUpdate m, payload => (IgMirror.lackUpdate m).emit ++ payload
  | lossNotification m e, payload => (IgMirror.lossNotification m).emit ++ frameBits e payload

def parsed : EgressStack → List Bool → EgressParsed
  | rxBuffered b e d x, payload =>
    let hdr := { (default : Hdr) with
      ethernet := .of e, linkradarData := .of d, linkradarRxBuffered := .of x }
    ⟨hdr, { EgMeta.ofHdr hdr with bridgedMeta := .of b }, payload⟩
  | lackUpdate m, payload =>
    ⟨default, { (default : EgMeta) with igMirrorLackUpdate := .of m }, payload⟩
  | lossNotification m e, payload =>
    ⟨{ (default : Hdr) with ethernet := .of e },
      { (default : EgMeta) with igMirrorLossNotification := .of m }, payload⟩

def headers : EgressStack → Header InternalHdr × Header IgMirrorLackUpdate ×
    Header IgMirrorLossNotification × Header Ethernet × Header LinkradarData ×
    Header LinkradarRxBuffered
  | rxBuffered b e d x => (.of b, .absent, .absent, .of e, .of d, .of x)
  | lackUpdate m => (.absent, .of m, .absent, .absent, .absent, .absent)
  | lossNotification m e => (.absent, .absent, .of m, .of e, .absent, .absent)

lemma headers_parsed (s : EgressStack) (payload : List Bool) :
    (s.parsed payload).headers = s.headers := by
  cases s <;> rfl

lemma payload_parsed (s : EgressStack) (payload : List Bool) :
    (s.parsed payload).payload = payload := by
  cases s <;> rfl

lemma emit_rxBuffered (b : InternalHdr) (e : Ethernet) (d : LinkradarData)
    (x : LinkradarRxBuffered) (payload : List Bool) : (rxBuffered b e d x).emit payload =
      internalHdrFormat.emit b ++ (IngressStack.rxBuffered e d x).emit payload := by
  simp only [emit, IngressStack.emit, Hdr.emit, List.append_assoc]
  rfl

lemma parse_rxBuffered {b : InternalHdr} {e : Ethernet} {d : LinkradarData}
    {x : LinkradarRxBuffered} (hs : (rxBuffered b e d x).Tagged) (payload : List Bool) :
    EgressParser.parse ((rxBuffered b e d x).emit payload) =
      some ((rxBuffered b e d x).parsed payload) := by
  obtain ⟨hb, he, ht, hrx⟩ := hs
  have h := EgressParser.parseEthernet_marked (e := e) (x := .of x) ht (by simp [hrx]) payload
  simp only [protectedBits, protectedHdr, Ethernet.asLinkradar_of_etherType he] at h
  rw [emit_rxBuffered, EgressParser.parse_bridged hb, IngressStack.emit_rxBuffered]
  exact congrArg (Option.map _) h

lemma parse_lackUpdate {m : IgMirrorLackUpdate} (hs : (lackUpdate m).Tagged)
    (payload : List Bool) : EgressParser.parse ((lackUpdate m).emit payload) =
      some ((lackUpdate m).parsed payload) := by
  obtain ⟨ht, hi⟩ := hs
  have hlook : lookahead internalHdrFormat (default, (lackUpdate m).emit payload) =
      some ⟨m.type, m.info⟩ := extract_internalHdr_igMirrorLackUpdate m payload
  have hext : igMirrorLackUpdateFormat.extract ((lackUpdate m).emit payload) =
      some (m, payload) := igMirrorLackUpdateFormat.extract_emit m payload
  have hne : ¬ internalHdrTypeIgMirror = internalHdrTypeBridgedMeta := by decide
  simp only [EgressParser.parse, hlook, ht, hi, hext, if_neg hne, and_self, if_true,
    Option.bind_eq_bind, Option.bind_some]
  rfl

lemma parse_lossNotification {m : IgMirrorLossNotification} {e : Ethernet}
    (hs : (lossNotification m e).Tagged) (payload : List Bool) :
    EgressParser.parse ((lossNotification m e).emit payload) =
      some ((lossNotification m e).parsed payload) := by
  obtain ⟨ht, hi⟩ := hs
  have hlook : lookahead internalHdrFormat (default, (lossNotification m e).emit payload) =
      some ⟨m.type, m.info⟩ := extract_internalHdr_igMirrorLossNotification m _
  have hext : igMirrorLossNotificationFormat.extract ((lossNotification m e).emit payload) =
      some (m, frameBits e payload) := igMirrorLossNotificationFormat.extract_emit m _
  have hne : ¬ internalHdrTypeIgMirror = internalHdrTypeBridgedMeta := by decide
  simp only [EgressParser.parse, hlook, ht, hi, hext, if_neg hne, and_self, if_true,
    Option.bind_eq_bind, Option.bind_some, extractEthernet_frameBits]
  rfl

lemma recovers : Recovers Tagged emit EgressParser.parse parsed := by
  refine Recovers.of_injective (fun s hs payload => ?_) fun s s' payload payload' h => ?_
  · cases s with
    | rxBuffered b e d x => exact parse_rxBuffered hs payload
    | lackUpdate m => exact parse_lackUpdate hs payload
    | lossNotification m e => exact parse_lossNotification hs payload
  · have hheaders : s.headers = s'.headers := by
      have heq := congrArg EgressParsed.headers h
      rwa [headers_parsed, headers_parsed] at heq
    have hpayload : payload = payload' := by
      have heq := congrArg EgressParsed.payload h
      rwa [payload_parsed, payload_parsed] at heq
    refine ⟨?_, hpayload⟩
    cases s <;> cases s' <;> simp_all [headers, Header.of, Header.absent]

end EgressStack

/-- **A packet for the receiver buffer leaves the egress as it came**, less the bridged
metadata, whatever the control does about pausing the sender. -/
theorem egressPass_rxBuffered (t : EgressTables) (regs : EgressRegs) (port : PortId)
    (rid : BitVec 16) (depth : BitVec 19) {b : InternalHdr} {e : Ethernet} {d : LinkradarData}
    {x : LinkradarRxBuffered} (hs : (EgressStack.rxBuffered b e d x).Tagged)
    (payload : List Bool) :
    ∃ c, egressPass t regs port rid depth ((EgressStack.rxBuffered b e d x).emit payload) =
      some (c, (IngressStack.rxBuffered e d x).emit payload) := by
  rw [egressPass, EgressStack.parse_rxBuffered hs]
  refine ⟨_, congrArg some (congrArg (Prod.mk _) ?_)⟩
  exact Egress.deparse_of_not_ipv4 (Egress.apply_rxBuffered rfl rfl rfl rfl) rfl payload

end Receiver

/-! ## Ingress of the sender -/

namespace Sender

@[simp] lemma default_linkradarBuffered : (default : Hdr).linkradarBuffered = .absent := rfl
@[simp] lemma default_linkradarData : (default : Hdr).linkradarData = .absent := rfl
@[simp] lemma default_linkradarLack : (default : Hdr).linkradarLack = .absent := rfl
@[simp] lemma default_linkradarLossNotification :
    (default : Hdr).linkradarLossNotification = .absent := rfl

inductive IngressStack
  /-- a leading ack from the egress of the receiver -/
  | lack (e : Ethernet) (l : LinkradarLack)
  /-- a loss notification from the egress of the receiver -/
  | lackLossNotification (e : Ethernet) (l : LinkradarLack) (n : LinkradarLossNotification)
  /-- a copy for the buffer, from the egress of the sender -/
  | buffered (e : Ethernet) (b : LinkradarBuffered) (d : LinkradarData)

namespace IngressStack

def Tagged : IngressStack → Prop
  | lack e l => e.etherType = EtherType.linkradar ∧ l.type = linkradarHdrTypeLack
  | lackLossNotification e l _ => e.etherType = EtherType.linkradar ∧
      l.type = linkradarHdrTypeLackLossNotify
  | buffered e b _ => e.etherType = EtherType.linkradar ∧ b.type = linkradarHdrTypeTxBuffered

def emit : IngressStack → List Bool → List Bool
  | lack e l => Receiver.Hdr.emit
      { (default : Receiver.Hdr) with ethernet := .of e, linkradarLack := .of l }
  | lackLossNotification e l n => Receiver.Hdr.emit
      { (default : Receiver.Hdr) with
        ethernet := .of e, linkradarLack := .of l, linkradarLossNotification := .of n }
  | buffered e b d => Hdr.emit
      { (default : Hdr) with
        ethernet := .of e, linkradarBuffered := .of b, linkradarData := .of d }

def parsed : IngressStack → List Bool → Parsed
  | lack e l, payload =>
    ({ (default : Hdr) with ethernet := .of e, linkradarLack := .of l }, payload)
  | lackLossNotification e l n, payload =>
    ({ (default : Hdr) with
      ethernet := .of e, linkradarLack := .of l, linkradarLossNotification := .of n }, payload)
  | buffered e b d, payload =>
    ({ (default : Hdr) with
      ethernet := .of e, linkradarBuffered := .of b, linkradarData := .of d }, payload)

lemma emit_lack (e : Ethernet) (l : LinkradarLack) (payload : List Bool) :
    (lack e l).emit payload = frameBits e (linkradarLackFormat.emit l ++ payload) := by
  simp only [emit, Receiver.Hdr.emit, frameBits, List.append_assoc]
  rfl

lemma emit_lackLossNotification (e : Ethernet) (l : LinkradarLack)
    (n : LinkradarLossNotification) (payload : List Bool) :
    (lackLossNotification e l n).emit payload = frameBits e (linkradarLackFormat.emit l ++
      (linkradarLossNotificationFormat.emit n ++ payload)) := by
  simp only [emit, Receiver.Hdr.emit, frameBits, List.append_assoc]
  rfl

lemma emit_buffered (e : Ethernet) (b : LinkradarBuffered) (d : LinkradarData)
    (payload : List Bool) : (buffered e b d).emit payload =
      frameBits e (linkradarBufferedFormat.emit b ++ (linkradarDataFormat.emit d ++ payload)) := by
  simp only [emit, Hdr.emit, frameBits, List.append_assoc]
  rfl

lemma parse_lackLossNotification {e : Ethernet} {l : LinkradarLack}
    {n : LinkradarLossNotification} (hs : (lackLossNotification e l n).Tagged)
    (payload : List Bool) : IngressParser.parse ((lackLossNotification e l n).emit payload) =
      some ((lackLossNotification e l n).parsed payload) := by
  obtain ⟨he, hl⟩ := hs
  set body := linkradarLackFormat.emit l ++ (linkradarLossNotificationFormat.emit n ++ payload)
    with hbody
  have hlook : lookahead (bits 2) (afterEthernet e body) = some linkradarHdrTypeLackLossNotify :=
    hl ▸ extract_type_linkradarLack l _
  have hext : extractLinkradarLack (afterEthernet e body) =
      some ({ NetworkHdrs.hdr e default with linkradarLack := .of l },
        linkradarLossNotificationFormat.emit n ++ payload) := extractInto_emit _ _ _ _ _
  have h := IngressParser.parse_frameBits_asLinkradar e body
  have h₁ : linkradarHdrTypeLackLossNotify ≠ linkradarHdrTypeData := by decide
  have h₂ : linkradarHdrTypeLackLossNotify ≠ linkradarHdrTypeLack := by decide
  rw [Ethernet.asLinkradar_of_etherType he] at h
  rw [emit_lackLossNotification, ← hbody, h]
  simp only [IngressParser.parseLinkradar, hlook, hext, Option.bind_eq_bind, Option.bind_some,
    if_neg h₁, if_neg h₂, if_true]
  exact extractInto_emit _ _ _ _ _

lemma parse_emit (s : IngressStack) (hs : s.Tagged) (payload : List Bool) :
    IngressParser.parse (s.emit payload) = some (s.parsed payload) := by
  cases s with
  | lack e l =>
    have h := IngressParser.parse_lackBits (e := e) hs.2 payload
    simp only [lackBits, Ethernet.asLinkradar_of_etherType hs.1] at h
    rw [emit_lack]
    exact h
  | lackLossNotification e l n => exact parse_lackLossNotification hs payload
  | buffered e b d =>
    have h := IngressParser.parse_bufferedBits (e := e) (d := d) hs.2 payload
    simp only [bufferedBits, Ethernet.asLinkradar_of_etherType hs.1] at h
    rw [emit_buffered]
    exact h

lemma recovers : Recovers Tagged emit IngressParser.parse parsed := by
  refine Recovers.of_injective parse_emit fun s s' payload payload' h => ?_
  cases s <;> cases s' <;> simp_all [parsed, Header.of, Header.absent]

end IngressStack

/-! ## Egress of the sender -/

/-- A mirrored packet that becomes a copy for the buffer. -/
structure EgressStack where
  mirror : EgMirrorBufferedPkt
  ethernet : Ethernet
  data : LinkradarData

namespace EgressStack

def Tagged (s : EgressStack) : Prop :=
  s.mirror.type = internalHdrTypeEgMirror ∧ s.mirror.info = egMirrorBufferedPktType.setWidth 4

/-- The mirror header goes in front of what the deparser writes for the packet itself. -/
def emit (s : EgressStack) (payload : List Bool) : List Bool :=
  (EgMirror.bufferedPkt s.mirror).emit ++ Hdr.emit
    { (default : Hdr) with ethernet := .of s.ethernet, linkradarData := .of s.data } payload

def parsed (s : EgressStack) (payload : List Bool) : EgressParsed :=
  ⟨{ (default : Hdr) with ethernet := .of s.ethernet, linkradarData := .of s.data },
    { (default : EgMeta) with egMirrorBufferedPkt := .of s.mirror }, payload⟩

lemma parse_emit (s : EgressStack) (hs : s.Tagged) (payload : List Bool) :
    EgressParser.parse (s.emit payload) = some (s.parsed payload) := by
  obtain ⟨ht, hi⟩ := hs
  set body := linkradarDataFormat.emit s.data ++ payload with hbody
  have hemit : s.emit payload =
      (EgMirror.bufferedPkt s.mirror).emit ++ frameBits s.ethernet body := by
    simp only [emit, Hdr.emit, frameBits, hbody, List.append_assoc]
    rfl
  have hlook : lookahead internalHdrFormat
      (default, (EgMirror.bufferedPkt s.mirror).emit ++ frameBits s.ethernet body) =
        some ⟨s.mirror.type, s.mirror.info⟩ := extract_internalHdr_egMirrorBufferedPkt s.mirror _
  have hext : egMirrorBufferedPktFormat.extract
      ((EgMirror.bufferedPkt s.mirror).emit ++ frameBits s.ethernet body) =
        some (s.mirror, frameBits s.ethernet body) := egMirrorBufferedPktFormat.extract_emit _ _
  have hdata : (extractEthernet (default, frameBits s.ethernet body)).bind extractLinkradarData =
      some ({ NetworkHdrs.hdr s.ethernet default with linkradarData := .of s.data }, payload) := by
    rw [extractEthernet_frameBits, Option.bind_some]
    exact extractInto_emit _ _ _ _ _
  have hne : ¬ internalHdrTypeEgMirror = internalHdrTypeBridgedMeta := by decide
  rw [hemit]
  simp only [EgressParser.parse, hlook, hext, hdata, ht, hi, Option.bind_eq_bind,
    Option.bind_some, if_neg hne, and_self, if_true]
  rfl

lemma recovers : Recovers Tagged emit EgressParser.parse parsed := by
  refine Recovers.of_injective parse_emit fun s s' payload payload' h => ?_
  cases s
  cases s'
  simp_all [parsed, Header.of]

end EgressStack

end Sender

/-! ## From one stack to the next

The controls write the tags that the next parser looks at. -/

/-- A frame that the sender protects leaves as a data stack. -/
theorem Sender.egressPass_data {t : Sender.EgressTables} {regs : Sender.EgressRegs} {port : PortId}
    {depth : BitVec 19} {random : BitVec 8} {e : Ethernet} {body bs : List Bool}
    {c : Sender.Egress} {p : Sender.ProtectParams} (hlr : e.etherType ≠ EtherType.linkradar)
    (hp : t.linkProtect port = some p) (hcopy : (t.copyPktForBuffering port).isSome)
    (h : Sender.egressPass t regs port depth random
      (Sender.bridgedBits (frameBits e body)) = some (c, bs)) :
    ∃ d payload, (Receiver.IngressStack.data e.asLinkradar d).Tagged ∧
      bs = (Receiver.IngressStack.data e.asLinkradar d).emit payload := by
  obtain ⟨payload, -, hbs, -⟩ := Sender.egressPass_protected hlr hp hcopy h
  refine ⟨Sender.Egress.nextStamp regs (port.setWidth 8) p, payload, ⟨rfl, rfl, rfl⟩, ?_⟩
  rw [hbs, Receiver.IngressStack.emit_data, dataBits]

/-- The mirrored copy of a packet leaves as a stack for the buffer. -/
theorem Sender.egressPass_buffered (t : Sender.EgressTables) (regs : Sender.EgressRegs)
    (port : PortId) (depth : BitVec 19) (random : BitVec 8) {s : Sender.EgressStack}
    (hs : s.Tagged) (he : s.ethernet.etherType = EtherType.linkradar) (payload : List Bool) :
    ∃ c, Sender.egressPass t regs port depth random (s.emit payload) = some (c,
        (Sender.IngressStack.buffered s.ethernet (Sender.bufferedHdr s.mirror.dstEgPort)
          s.data).emit payload) ∧
      (Sender.IngressStack.buffered s.ethernet (Sender.bufferedHdr s.mirror.dstEgPort)
        s.data).Tagged := by
  rw [Sender.egressPass, s.parse_emit hs]
  refine ⟨_, congrArg some (congrArg (Prod.mk _) ?_), he, rfl⟩
  rw [Sender.Egress.deparse, (Sender.Egress.buffered_pass rfl rfl).1,
    Sender.IngressStack.emit_buffered]
  exact Sender.updateChecksum_emit s.ethernet default .absent
    (.of (Sender.bufferedHdr s.mirror.dstEgPort)) (.of s.data) payload

lemma Receiver.Egress.apply_lossNotification {t : Receiver.EgressTables} {c : Receiver.Egress}
    (hu : c.egMeta.igMirrorLackUpdate.valid = false)
    (h : c.egMeta.igMirrorLossNotification.valid = true)
    (hrid : c.egressRid ≠ Receiver.pauseFrameMcastRid) :
    (c.apply t).hdr = { c.addLackLossNotificationHdrs.copyDataToLossNotificationHdrs.hdr with
      bridgedMeta := c.hdr.bridgedMeta.setInvalid } := by
  simp only [apply, hu, h, if_true, Bool.false_eq_true, if_false, lossNotificationBranch,
    if_neg hrid]
  rfl

/-- A mirrored packet that reports a loss leaves as a loss notification. -/
theorem Receiver.egressPass_lossNotification (t : Receiver.EgressTables)
    (regs : Receiver.EgressRegs) (port : PortId) {rid : BitVec 16} (depth : BitVec 19)
    (hrid : rid ≠ Receiver.pauseFrameMcastRid) {m : Receiver.IgMirrorLossNotification}
    {e : Ethernet} (hs : (Receiver.EgressStack.lossNotification m e).Tagged)
    (payload : List Bool) :
    ∃ c e' l n, Receiver.egressPass t regs port rid depth
        ((Receiver.EgressStack.lossNotification m e).emit payload) =
          some (c, (Sender.IngressStack.lackLossNotification e' l n).emit payload) ∧
      (Sender.IngressStack.lackLossNotification e' l n).Tagged ∧
      l.leadingAck = m.leadingAck ∧ l.era = m.leadingAckEra ∧
      n = ⟨m.holeSize.setWidth 8, m.firstLostSeqNo⟩ := by
  rw [Receiver.egressPass, Receiver.EgressStack.parse_lossNotification hs]
  let l : LinkradarLack := { (default : LinkradarLack) with
    type := linkradarHdrTypeLackLossNotify, leadingAck := m.leadingAck, era := m.leadingAckEra }
  refine ⟨_, ⟨senderSwAddr, receiverSwAddr, EtherType.linkradar⟩, l, _,
    congrArg some (congrArg (Prod.mk _) ?_), ⟨rfl, rfl⟩, rfl, rfl, rfl⟩
  refine Receiver.Egress.deparse_of_not_ipv4 ?_ rfl payload
  exact Receiver.Egress.apply_lossNotification rfl rfl hrid

/-! ## All stacks together -/

/-- **The header formats of the two programs fit.**  Each parser recovers the stacks that the
controls send it, field for field and with the same payload behind them, and takes none for
another; and a packet on its way into the receiver buffer passes the egress of the receiver as
the stack that its ingress reads. -/
theorem header_round_trips :
    Recovers Receiver.IngressStack.Tagged Receiver.IngressStack.emit Receiver.IngressParser.parse
        Receiver.IngressStack.parsed ∧
      Recovers Receiver.EgressStack.Tagged Receiver.EgressStack.emit Receiver.EgressParser.parse
        Receiver.EgressStack.parsed ∧
      Recovers Sender.IngressStack.Tagged Sender.IngressStack.emit Sender.IngressParser.parse
        Sender.IngressStack.parsed ∧
      Recovers Sender.EgressStack.Tagged Sender.EgressStack.emit Sender.EgressParser.parse
        Sender.EgressStack.parsed ∧
      ∀ t regs port rid depth b e d x, (Receiver.EgressStack.rxBuffered b e d x).Tagged →
        (Receiver.IngressStack.rxBuffered e d x).Tagged ∧
          ∀ payload, ∃ c, Receiver.egressPass t regs port rid depth
            ((Receiver.EgressStack.rxBuffered b e d x).emit payload) =
              some (c, (Receiver.IngressStack.rxBuffered e d x).emit payload) :=
  ⟨Receiver.IngressStack.recovers, Receiver.EgressStack.recovers, Sender.IngressStack.recovers,
    Sender.EgressStack.recovers, fun t regs port rid depth _ _ _ _ hs =>
      ⟨hs.2, Receiver.egressPass_rxBuffered t regs port rid depth hs⟩⟩

end LinkGuardian
