import LinkGuardian.Protocol.BlockingMode
import LinkGuardian.Protocol.BufferSafety

/-!
# A protected link from end to end

The sender with its buffer, the link in both uses, and the receiver with its buffer, as one
system: originals cross the link in order, copies that the sender retransmits in any order, and
both meet in the registers of one receiver.  `SenderBuffer` and `ReceiverBuffer` are its two ends;
a step of the whole is a step of the one, of the other, or, when an original arrives, of both.
-/

namespace LinkGuardian.ProtectedLink

open P4 SerialNumber Execution

/-! ## The system -/

/-- The two switches of a protected link as the control plane sets them up. -/
structure Setup where
  sender : Buffer.Setup
  /-- the ports of the nodes of a multicast group -/
  mcastPorts : MulticastGroupId → List PortId
  recircMd : Receiver.PortMetadata
  recircMd_filter : recircMd.filterViaLpbk = 0
  recircMd_protect : recircMd.protect = 0

namespace Setup

variable (S : Setup)

def receiver : Receiver.Setup where
  tables := S.sender.link.rxTables
  portMd := S.sender.link.rxPortMd
  recircMd := S.recircMd
  portMd_filter := S.sender.link.filterViaLpbk
  portMd_protect := S.sender.link.protect
  recircMd_filter := S.recircMd_filter
  recircMd_protect := S.recircMd_protect

/-- The mode of the `link_protect` entry. -/
def mode : BitVec 1 := S.sender.link.params.blockingMode

/-- The receiver has a route for the destination. -/
def Routable (dst : MacAddr) : Prop := (S.sender.link.rxTables.l2Forward dst).isSome

instance (dst : MacAddr) : Decidable (S.Routable dst) :=
  inferInstanceAs (Decidable ((S.sender.link.rxTables.l2Forward dst).isSome = true))

/-- How many packets the traffic manager of the sender puts into the protected port. -/
def replicas (c : Sender.Ingress) : ℕ :=
  (if c.ucastEgressPort = S.sender.link.egressPort then 1 else 0) +
    if c.mcastGrpA = 0 then 0 else (S.mcastPorts c.mcastGrpA).count S.sender.link.egressPort

end Setup

structure State where
  sender : Buffer.State
  /-- the retransmitted copies on the link -/
  retx : List (ℕ × Sender.Hdr)
  /-- the numbers of the retransmitted copies that have arrived -/
  arrivedRetx : List ℕ
  /-- the buffer of the receiver -/
  rxBuffer : List (ℕ × Receiver.Hdr)
  /-- how often `reg_ack.ack_no` has been advanced -/
  advances : ℕ
  /-- the number behind `reg_expected_seq_no` -/
  rxExpected : ℕ
  history : List Receiver.Pass

/-- Power-on. -/
def init (S : Setup) : State where
  sender := Buffer.init S.sender
  retx := []
  arrivedRetx := []
  rxBuffer := []
  advances := 0
  rxExpected := 0
  history := []

namespace State

/-- The receiver's part of the state; its registers are those at the far end of the link. -/
def receiver (s : State) : Receiver.State where
  regs := s.sender.link.rxRegs
  buffer := s.rxBuffer
  advances := s.advances
  expected := s.rxExpected
  history := s.history

/-- The state after a step of the receiver to `r`. -/
def withReceiver (s : State) (r : Receiver.State) : State :=
  { s with
    sender := { s.sender with link := { s.sender.link with rxRegs := r.regs } }
    rxBuffer := r.buffer
    advances := r.advances
    rxExpected := r.expected
    history := r.history }

@[simp] lemma receiver_withReceiver (s : State) (r : Receiver.State) :
    (s.withReceiver r).receiver = r := rfl

/-- The numbers handed on so far, in order. -/
def released (s : State) : List ℕ := s.receiver.released

/-- The number of packets stamped. -/
def stamped (s : State) : ℕ := s.sender.link.stamped

end State

inductive Event
  /-- a normal packet, for a destination that the receiver knows, passes the sender -/
  | data (hdr : Sender.Hdr) (deqQdepth : BitVec 19) (random : BitVec 8)
  /-- a dummy passes the egress of the sender -/
  | dummy (hdr : Sender.Hdr)
  /-- the link loses the oldest original or dummy -/
  | lose
  /-- the oldest original or dummy arrives -/
  | arrive
  /-- report number `i` of the receiver reaches the sender in a packet with these headers -/
  | report (i : ℕ) (hdr : Sender.Hdr)
  /-- the ingress pass of the `i`-th copy in the sender's buffer -/
  | buffered (i : ℕ)
  /-- the link loses the `i`-th retransmitted copy -/
  | loseRetx (i : ℕ)
  /-- the `i`-th retransmitted copy arrives -/
  | arriveRetx (i : ℕ)
  /-- the ingress pass of the `i`-th packet in the receiver's buffer -/
  | recirculate (i : ℕ)
  | timer (hdr : Receiver.Hdr)

/-- The headers that the receiver parses off a retransmitted copy. -/
def retxHdr (hdr : Sender.Hdr) : Receiver.Hdr :=
  { (default : Receiver.Hdr) with ethernet := hdr.ethernet, linkradarData := hdr.linkradarData }

/-- A packet that comes off the link, as the receiver sees it. -/
def arrivalOf (p : Link.Packet) : Receiver.Event :=
  if p.isData then .data p.num p.rxHdr else .dummy p.num p.rxHdr

/-- What the pass of the `i`-th copy puts on the link. -/
def retransmissions (S : Setup) (s : State) (i : ℕ) : List (ℕ × Sender.Hdr) :=
  match s.sender.buffer[i]? with
  | none => []
  | some (n, hdr) =>
    let c := Buffer.igPass S.sender s.sender.igRegs Sender.recircLpbkPort hdr
    if Buffer.decision c = some .retransmitted then List.replicate (S.replicas c) (n, c.hdr)
    else []

/-- The state after a step of the sender to `b` that puts `new` on the link. -/
def State.afterSender (s : State) (b : Buffer.State) (new : List (ℕ × Sender.Hdr)) : State :=
  { s with sender := b, retx := s.retx ++ new }

/-- The state after the `i`-th retransmitted copy, number `n`, has taken the receiver to `r`. -/
def State.afterRetx (s : State) (i n : ℕ) (r : Receiver.State) : State :=
  { s.withReceiver r with retx := s.retx.eraseIdx i, arrivedRetx := s.arrivedRetx ++ [n] }

def step (S : Setup) (s : State) : Event → Option State
  | .data hdr deqQdepth random =>
    if S.Routable hdr.ethernet.fields.dstAddr then
      (Buffer.step S.sender s.sender (.link (.data hdr deqQdepth random))).map
        fun b => s.afterSender b []
    else none
  | .dummy hdr =>
    (Buffer.step S.sender s.sender (.link (.dummy hdr))).map fun b => s.afterSender b []
  | .lose => (Buffer.step S.sender s.sender (.link .lose)).map fun b => s.afterSender b []
  | .report i hdr => (Buffer.step S.sender s.sender (.report i hdr)).map fun b => s.afterSender b []
  | .buffered i =>
    (Buffer.step S.sender s.sender (.buffered i)).map
      fun b => s.afterSender b (retransmissions S s i)
  | .arrive =>
    match s.sender.link.link.head? with
    | none => none
    | some p =>
      (Buffer.step S.sender s.sender (.link .arrive)).bind fun b =>
        (Receiver.step S.receiver s.receiver (arrivalOf p)).map (s.afterSender b []).withReceiver
  | .loseRetx i =>
    if i < s.retx.length then some { s with retx := s.retx.eraseIdx i } else none
  | .arriveRetx i =>
    match s.retx[i]? with
    | none => none
    | some (n, hdr) =>
      (Receiver.step S.receiver s.receiver (.data n (retxHdr hdr))).map (s.afterRetx i n)
  | .recirculate i =>
    (Receiver.step S.receiver s.receiver (.recirculate i)).map s.withReceiver
  | .timer hdr => (Receiver.step S.receiver s.receiver (.timer hdr)).map s.withReceiver

/-! ## Conditions on a run -/

/-- The step that the sender takes in a step of the whole. -/
def Event.atSender : Event → Option Buffer.Event
  | .data hdr deqQdepth random => some (.link (.data hdr deqQdepth random))
  | .dummy hdr => some (.link (.dummy hdr))
  | .lose => some (.link .lose)
  | .arrive => some (.link .arrive)
  | .report i hdr => some (.report i hdr)
  | .buffered i => some (.buffered i)
  | .loseRetx _ | .arriveRetx _ | .recirculate _ | .timer _ => none

/-- The step that the receiver takes. -/
def Event.atReceiver (s : State) : Event → Option Receiver.Event
  | .arrive => s.sender.link.link.head?.map arrivalOf
  | .arriveRetx i => s.retx[i]?.map fun p => .data p.1 (retxHdr p.2)
  | .recirculate i => some (.recirculate i)
  | .timer hdr => some (.timer hdr)
  | .data _ _ _ | .dummy _ | .lose | .report _ _ | .buffered _ | .loseRetx _ => none

/-- The sender's buffer keeps near the stored leading ack. -/
def Windowed (s : State) : Prop := Buffer.Windowed s.sender

instance : DecidablePred Windowed := fun s => inferInstanceAs (Decidable (Buffer.Windowed s.sender))

/-- Reports come in order and losses are sparse, as in `sender_buffer_safe`. -/
def SenderGuard (s : State) (e : Event) : Prop := ∀ e' ∈ e.atSender, Buffer.Guard s.sender e'

/-- What passes the receiver is near the awaited number, and no timer packet gives up on one. -/
def ReceiverGuard (S : Setup) (s : State) (e : Event) : Prop :=
  ∀ e' ∈ e.atReceiver s,
    Receiver.InWindow s.receiver e' ∧ Receiver.NoTimerAdvance S.receiver s.receiver e'

instance (s : State) (e : Event) : Decidable (SenderGuard s e) :=
  inferInstanceAs (Decidable (∀ e' ∈ e.atSender, Buffer.Guard s.sender e'))

instance (S : Setup) (s : State) (e : Event) : Decidable (ReceiverGuard S s e) :=
  inferInstanceAs (Decidable (∀ e' ∈ e.atReceiver s,
    Receiver.InWindow s.receiver e' ∧ Receiver.NoTimerAdvance S.receiver s.receiver e'))

/-! ## What a step can do -/

variable {S : Setup} {s s' : State}

/-- A normal packet has a destination that the receiver knows. -/
def Event.Routed (S : Setup) : Event → Prop
  | .data hdr _ _ => S.Routable hdr.ethernet.fields.dstAddr
  | _ => True

/-- What a step of the sender puts on the link besides originals and dummies. -/
def newRetx (S : Setup) (s : State) : Event → List (ℕ × Sender.Hdr)
  | .buffered i => retransmissions S s i
  | _ => []

/-- A step of the receiver by itself. -/
def Internal : Receiver.Event → Prop
  | .recirculate _ | .timer _ => True
  | .data _ _ | .dummy _ _ => False

/-- **What a step can do.** -/
lemma step_cases {e : Event} (h : step S s e = some s') :
    (∃ e' b, e.atSender = some e' ∧ e' ≠ .link .arrive ∧ e.Routed S ∧
      Buffer.step S.sender s.sender e' = some b ∧ s' = s.afterSender b (newRetx S s e)) ∨
    (∃ p b r, e = .arrive ∧ s.sender.link.link.head? = some p ∧
      Buffer.step S.sender s.sender (.link .arrive) = some b ∧
      Receiver.step S.receiver s.receiver (arrivalOf p) = some r ∧
      s' = (s.afterSender b []).withReceiver r) ∨
    (∃ i, e = .loseRetx i ∧ s' = { s with retx := s.retx.eraseIdx i }) ∨
    (∃ i n hdr r, e = .arriveRetx i ∧ s.retx[i]? = some (n, hdr) ∧
      Receiver.step S.receiver s.receiver (.data n (retxHdr hdr)) = some r ∧
      s' = s.afterRetx i n r) ∨
    (∃ e' r, e.atReceiver s = some e' ∧ Internal e' ∧
      Receiver.step S.receiver s.receiver e' = some r ∧ s' = s.withReceiver r) := by
  -- which end an event belongs to is decided by its constructor
  cases e with
  | data hdr q r =>
    simp only [step, Option.ite_none_right_eq_some, Option.map_eq_some_iff] at h
    obtain ⟨hroute, b, hb, rfl⟩ := h
    exact Or.inl ⟨_, b, rfl, by simp, hroute, hb, rfl⟩
  | dummy hdr =>
    obtain ⟨b, hb, rfl⟩ := Option.map_eq_some_iff.mp h
    exact Or.inl ⟨_, b, rfl, by simp, trivial, hb, rfl⟩
  | lose =>
    obtain ⟨b, hb, rfl⟩ := Option.map_eq_some_iff.mp h
    exact Or.inl ⟨_, b, rfl, by simp, trivial, hb, rfl⟩
  | report i hdr =>
    obtain ⟨b, hb, rfl⟩ := Option.map_eq_some_iff.mp h
    exact Or.inl ⟨_, b, rfl, by simp, trivial, hb, rfl⟩
  | buffered i =>
    obtain ⟨b, hb, rfl⟩ := Option.map_eq_some_iff.mp h
    exact Or.inl ⟨_, b, rfl, by simp, trivial, hb, rfl⟩
  | arrive =>
    simp only [step] at h
    split at h
    · cases h
    · rename_i p hp
      obtain ⟨b, hb, h⟩ := Option.bind_eq_some_iff.mp h
      obtain ⟨r, hr, rfl⟩ := Option.map_eq_some_iff.mp h
      exact Or.inr (Or.inl ⟨p, b, r, rfl, hp, hb, hr, rfl⟩)
  | loseRetx i =>
    simp only [step, Option.ite_none_right_eq_some, Option.some_inj] at h
    exact Or.inr (Or.inr (Or.inl ⟨i, rfl, h.2.symm⟩))
  | arriveRetx i =>
    simp only [step] at h
    split at h
    · cases h
    · rename_i n hdr hget
      obtain ⟨r, hr, rfl⟩ := Option.map_eq_some_iff.mp h
      exact Or.inr (Or.inr (Or.inr (Or.inl ⟨i, n, hdr, r, rfl, hget, hr, rfl⟩)))
  | recirculate i =>
    obtain ⟨r, hr, rfl⟩ := Option.map_eq_some_iff.mp h
    exact Or.inr (Or.inr (Or.inr (Or.inr ⟨_, r, rfl, trivial, hr, rfl⟩)))
  | timer hdr =>
    obtain ⟨r, hr, rfl⟩ := Option.map_eq_some_iff.mp h
    exact Or.inr (Or.inr (Or.inr (Or.inr ⟨_, r, rfl, trivial, hr, rfl⟩)))

/-! ## The registers in common -/

/-- Of the receiver's registers the sender's invariant reads the expected number only. -/
lemma safetyInv_rxRegs {B : Buffer.Setup} {b : Buffer.State} (h : Buffer.SafetyInv B b)
    {regs : Receiver.IngressRegs}
    (hregs : regs.regExpectedSeqNo B.link.rxPort = b.link.rxRegs.regExpectedSeqNo B.link.rxPort) :
    Buffer.SafetyInv B { b with link := { b.link with rxRegs := regs } } := by
  obtain ⟨⟨hB, hO⟩, hH⟩ := h
  obtain ⟨hL, hord, hlack, hcopies, hnodup, hbelow, hkept, hproc⟩ := hB
  obtain ⟨h₁, h₂, h₃, h₄, h₅, hrx, h₇, h₈⟩ := hL
  refine ⟨⟨⟨⟨h₁, h₂, h₃, h₄, h₅, hregs.trans hrx, h₇, ?_⟩, ?_, hlack, hcopies, hnodup, hbelow,
    hkept, hproc⟩, ?_⟩, ?_⟩
  · exact ⟨h₈.settled, h₈.recent, h₈.lost, h₈.delivered, h₈.covered, h₈.passed, h₈.exact⟩
  · exact ⟨hord.pairwise, hord.span, hord.gap⟩
  · exact ⟨hO.ahead, hO.done, hO.bound⟩
  · exact ⟨⟨hH.smallHoles.lostRun, hH.smallHoles.reports⟩, hH.firstKept, hH.behind, hH.holeAt,
      hH.decided, hH.once, hH.recorded⟩

/-- A packet from the receiver buffer does not move the expected number. -/
lemma recirculate_expected {R : Receiver.Setup} {r : Receiver.State} {n : ℕ}
    {hdr : Receiver.Hdr} (h : Receiver.Buffered R n hdr) :
    ((Receiver.context r R.recircMd hdr).apply R.tables).regs.regExpectedSeqNo =
      r.regs.regExpectedSeqNo := by
  rw [Receiver.Ingress.apply_regExpectedSeqNo h.pktgenTimer R.recircMd_filter, if_neg]
  · rfl
  · rintro ⟨⟨hprot, -⟩, -⟩
    exact absurd (hprot.symm.trans R.recircMd_protect) (by decide)

/-- A retransmitted copy does not move the expected number. -/
lemma retx_expected {R : Receiver.Setup} {r : Receiver.State} {n : ℕ} {hdr : Receiver.Hdr}
    (h : Receiver.DataArrival R n hdr) (hretx : hdr.linkradarData.fields.reTx = 1) :
    ((Receiver.context r R.portMd hdr).apply R.tables).regs.regExpectedSeqNo =
      r.regs.regExpectedSeqNo := by
  rw [Receiver.Ingress.apply_regExpectedSeqNo h.pktgenTimer R.portMd_filter, if_neg]
  · rfl
  · rintro ⟨-, hzero⟩
    exact absurd (hretx.symm.trans hzero) (by decide)

/-- Neither does any other step of the receiver by itself. -/
lemma internal_expected {R : Receiver.Setup} {r r' : Receiver.State} {e : Receiver.Event}
    (hB : Receiver.BufferOk R r) (he : Internal e) (h : Receiver.step R r e = some r') :
    r'.regs.regExpectedSeqNo = r.regs.regExpectedSeqNo := by
  rcases Receiver.step_cases hB h with ⟨_, _, rfl, -, -⟩ | ⟨_, _, _, rfl, -, hb, rfl⟩ |
    ⟨_, _, _, rfl, -⟩ | ⟨_, rfl, rfl⟩
  · exact he.elim
  · exact recirculate_expected hb
  · exact he.elim
  · rfl

/-- An original or dummy takes both ends of the link to the same registers. -/
lemma arrival_regs {p : Link.Packet} {b : Buffer.State} {r : Receiver.State}
    (hp : s.sender.link.link.head? = some p)
    (hb : Buffer.step S.sender s.sender (.link .arrive) = some b)
    (hr : Receiver.step S.receiver s.receiver (arrivalOf p) = some r) :
    r.regs = b.link.rxRegs := by
  have hb' : b.link.rxRegs = (Link.rxPass S.sender.link s.sender.link.rxRegs p).regs := by
    rcases Buffer.step_cases hb with ⟨le, l, he, hl, rfl⟩ | ⟨_, _, _, he, -⟩ | ⟨_, _, _, he, -⟩
    · cases he
      rcases Link.step_cases hl with ⟨_, _, _, he, -⟩ | ⟨_, he, -⟩ | ⟨_, _, he, -⟩ |
        ⟨q, qs, -, hlink, -, rfl⟩
      · cases he
      · cases he
      · cases he
      · rw [hlink, List.head?_cons, Option.some_inj] at hp
        rw [← hp]
        rfl
    · cases he
    · cases he
  rw [hb']
  unfold arrivalOf at hr
  split at hr
  · simp only [Receiver.step, Option.ite_none_right_eq_some, Option.some_inj] at hr
    rw [← hr.2]
    rfl
  · simp only [Receiver.step, Option.ite_none_right_eq_some, Option.some_inj] at hr
    rw [← hr.2]
    rfl

/-- A step of the sender by itself leaves the receiver alone. -/
lemma sender_rxRegs {B : Buffer.Setup} {b b' : Buffer.State} {e : Buffer.Event}
    (he : e ≠ .link .arrive) (h : Buffer.step B b e = some b') :
    b'.link.rxRegs = b.link.rxRegs ∧
      Link.deliveredIn b'.link.fates = Link.deliveredIn b.link.fates := by
  rcases Buffer.step_cases h with ⟨le, l, rfl, hl, rfl⟩ | ⟨_, _, _, rfl, -, -, rfl⟩ |
    ⟨i, n, hdr, rfl, -, rfl⟩
  · rcases Link.step_cases hl with ⟨_, _, _, rfl, -, rfl⟩ | ⟨_, rfl, -, rfl | rfl⟩ |
      ⟨p, _, rfl, -, rfl⟩ | ⟨_, _, rfl, -⟩
    · exact ⟨rfl, rfl⟩
    · exact ⟨rfl, rfl⟩
    · exact ⟨rfl, rfl⟩
    · refine ⟨rfl, ?_⟩
      simp [Buffer.State.afterLink, Link.State.afterLoss]
    · exact absurd rfl he
  · exact ⟨rfl, rfl⟩
  · rw [(Buffer.afterCopy_keeps _ _ _ _).1]
    exact ⟨rfl, rfl⟩

/-! ## The headers on their way -/

/-- The data header and destination of a packet that the sender stamped, at any place of the
link or of the sender's buffer. -/
structure DataOk (S : Setup) (ethernet : Ethernet) (data : LinkradarData) : Prop where
  dummy : data.dummy = 0
  rxBuffered : data.rxBuffered = 0
  blockingMode : data.blockingMode = S.mode
  routable : S.Routable ethernet.dstAddr

/-- A copy in the sender's buffer. -/
structure CopyOk (S : Setup) (hdr : Sender.Hdr) : Prop where
  linkradarData : hdr.linkradarData.valid = true
  data : DataOk S hdr.ethernet.fields hdr.linkradarData.fields

/-- Copy number `n` on the link. -/
structure RetxOk (S : Setup) (n : ℕ) (hdr : Sender.Hdr) : Prop extends CopyOk S hdr where
  carries : Carries hdr.linkradarData.fields n
  reTx : hdr.linkradarData.fields.reTx = 1

lemma RetxOk.dataArrival {n : ℕ} {hdr : Sender.Hdr} (h : RetxOk S n hdr) :
    Receiver.DataArrival S.receiver n (retxHdr hdr) :=
  ⟨rfl, h.linkradarData, h.data.dummy, h.data.rxBuffered, rfl, h.carries, h.data.routable⟩

/-- What the sender makes of a normal packet. -/
lemma txPass_ok {L : Link.Setup} (regs : Sender.EgressRegs) {hdr : Sender.Hdr} (q : BitVec 19)
    (r : BitVec 8) (hn : hdr.linkradarData.valid = false) :
    (Link.txPass L regs hdr q r).hdr.linkradarData =
        .of (Sender.Egress.nextStamp regs L.txPort L.params) ∧
      (Link.txPass L regs hdr q r).hdr.ethernet.fields.dstAddr = hdr.ethernet.fields.dstAddr := by
  obtain ⟨hdata, -, heth, -, -⟩ := Sender.Egress.normal_pass (t := L.txTables)
    (c := .start regs L.egressPort q r hdr (.ofHdr hdr)) hn L.linkProtect
  refine ⟨hdata, ?_⟩
  rw [Link.txPass, heth]
  rfl

lemma dataOk_stamped (regs : Sender.EgressRegs) {hdr : Sender.Hdr} (q : BitVec 19)
    (r : BitVec 8) (hn : hdr.linkradarData.valid = false)
    (hroute : S.Routable hdr.ethernet.fields.dstAddr) :
    CopyOk S (Link.txPass S.sender.link regs hdr q r).hdr := by
  obtain ⟨hdata, hdst⟩ := txPass_ok (L := S.sender.link) regs q r hn
  refine ⟨by rw [hdata]; rfl, ?_⟩
  rw [hdata]
  exact ⟨rfl, rfl, rfl, by rwa [hdst]⟩

/-- The mirrored copy has the headers of the original. -/
lemma copyOf_ok {B : Buffer.Setup} {regs : Sender.EgressRegs} {hdr copy : Sender.Hdr}
    {q : BitVec 19} {r : BitVec 8} (hn : hdr.linkradarData.valid = false)
    (h : Buffer.copyOf B regs hdr q r = some copy) :
    copy.linkradarData = (Link.txPass B.link regs hdr q r).hdr.linkradarData ∧
      copy.ethernet = (Link.txPass B.link regs hdr q r).hdr.ethernet := by
  unfold Buffer.copyOf at h
  split at h
  · rename_i m hm
    rw [Option.some_inj] at h
    have hdata : (Link.txPass B.link regs hdr q r).hdr.linkradarData.valid = true := by
      rw [(txPass_ok _ _ _ hn).1]
      rfl
    have hpass := (Sender.Egress.buffered_pass (t := B.link.txTables)
      (c := .start (Link.txPass B.link regs hdr q r).regs Sender.recircLpbkPort 0 0
        { (default : Sender.Hdr) with
          ethernet := (Link.txPass B.link regs hdr q r).hdr.ethernet
          linkradarData := (Link.txPass B.link regs hdr q r).hdr.linkradarData }
        { (default : Sender.EgMeta) with egMirrorBufferedPkt := .of m }) hdata rfl).1
    change (Buffer.mirroredPass B (Link.txPass B.link regs hdr q r) m).hdr = _ at hpass
    rw [← h, hpass]
    exact ⟨rfl, rfl⟩
  · cases h

/-- The pass of a copy leaves its Ethernet header alone. -/
lemma buffered_ethernet {t : Sender.IngressTables} {c : Sender.Ingress} (h : c.IsBuffered) :
    (c.apply t).hdr.ethernet = c.hdr.ethernet := by
  have hcomp := (Sender.Ingress.compared_keeps c).1
  have hdecide : c.compared.checkResetHoles.decideRetxOrDrop.hdr.ethernet =
      c.compared.hdr.ethernet := by
    unfold Sender.Ingress.decideRetxOrDrop
    split <;> rfl
  have hbranch : (c.bufferedBranch t).hdr.ethernet = c.hdr.ethernet := by
    rw [Sender.Ingress.bufferedBranch_eq, ← hcomp]
    split
    · split
      · unfold Sender.Ingress.retxMcastBufferedPkt
        split <;> exact hdecide
      · exact hdecide
    · rfl
  have hforward : ((c.bufferedBranch t).l2Forward t).hdr.ethernet =
      (c.bufferedBranch t).hdr.ethernet := by
    unfold Sender.Ingress.l2Forward
    split <;> rfl
  rw [← hbranch]
  simp only [Sender.Ingress.apply, h.pktgenTimer, h.linkradarLack, h.linkradarBuffered, if_true,
    Bool.false_eq_true, if_false]
  split_ifs <;> first | rfl | exact hforward

/-- A pass that decides to retransmit does so. -/
lemma copy_retransmits {b : Buffer.State} {n : ℕ} {hdr : Sender.Hdr}
    (hB : Buffer.BufferInv S.sender b) (hmem : (n, hdr) ∈ b.buffer)
    (hd : Buffer.decision (Buffer.igPass S.sender b.igRegs Sender.recircLpbkPort hdr) =
      some .retransmitted) :
    Sender.Ingress.Retransmits S.sender.igTables
      (.start b.igRegs Sender.recircLpbkPort 0 hdr)
      (Buffer.igPass S.sender b.igRegs Sender.recircLpbkPort hdr) := by
  have hcopy := hB.copies _ hmem
  have hidx : (Sender.Ingress.start b.igRegs Sender.recircLpbkPort 0 hdr).copyIdx =
      S.sender.link.txPort := by
    change hdr.linkradarBuffered.fields.dstEgPort.setWidth 8 = _
    rw [hcopy.dstEgPort]
    rfl
  have hpass := Sender.Ingress.buffered_pass (t := S.sender.igTables)
    (c := .start b.igRegs Sender.recircLpbkPort 0 hdr)
    ⟨hcopy.pktgenTimer, hcopy.linkradarLack, hcopy.linkradarBuffered⟩
    (if_pos hcopy.linkradarBuffered) (e := era 16 b.lack)
    (by rw [hidx]; exact hB.storesLack.regLeadingAckEra)
    (by change (S.sender.igTables.retxMcastBufferedPkt
          hdr.linkradarBuffered.fields.dstEgPort).isSome
        rw [hcopy.dstEgPort]; exact S.sender.retxMcastBufferedPkt)
  have hretx : (Buffer.igPass S.sender b.igRegs Sender.recircLpbkPort hdr).igMeta.retx = 1 := by
    unfold Buffer.decision at hd
    split at hd
    · assumption
    · split at hd <;> cases hd
  split at hpass
  · split at hpass
    · exact hpass
    · exact absurd (hretx.symm.trans hpass.retx) (by decide)
  · have hzero : (1 : BitVec 1) = 0 := hretx.symm.trans hpass.retx
    exact absurd hzero (by decide)

/-- A copy that is retransmitted is marked as such and otherwise the same. -/
lemma buffered_retx {b : Buffer.State} {n : ℕ} {hdr : Sender.Hdr}
    (hB : Buffer.BufferInv S.sender b) (hmem : (n, hdr) ∈ b.buffer) (hok : CopyOk S hdr)
    (hd : Buffer.decision (Buffer.igPass S.sender b.igRegs Sender.recircLpbkPort hdr) =
      some .retransmitted) :
    RetxOk S n (Buffer.igPass S.sender b.igRegs Sender.recircLpbkPort hdr).hdr := by
  have hcopy := hB.copies _ hmem
  have heth := buffered_ethernet (t := S.sender.igTables)
    (c := .start b.igRegs Sender.recircLpbkPort 0 hdr)
    ⟨hcopy.pktgenTimer, hcopy.linkradarLack, hcopy.linkradarBuffered⟩
  have hdata : (Buffer.igPass S.sender b.igRegs Sender.recircLpbkPort hdr).hdr.linkradarData =
      hdr.linkradarData.modify fun d => { d with reTx := 1 } :=
    (copy_retransmits hB hmem hd).linkradarData
  have hcar := hcopy.carries
  change (Buffer.igPass S.sender b.igRegs Sender.recircLpbkPort hdr).hdr.ethernet =
    hdr.ethernet at heth
  constructor
  · refine ⟨by rw [hdata]; exact hok.linkradarData, ?_⟩
    rw [hdata, heth]
    exact ⟨hok.data.dummy, hok.data.rxBuffered, hok.data.blockingMode, hok.data.routable⟩
  · rw [hdata]
    exact ⟨hcar.seqNo_eq, hcar.era_eq⟩
  · rw [hdata]
    rfl

/-! ## The numbers at the receiver -/

/-- The number of the data packet that comes off the link. -/
def dataNum : Receiver.Event → Option ℕ
  | .data num _ => some num
  | .dummy _ _ | .recirculate _ | .timer _ => none

/-- A pass of number `n` straight from the link. -/
def fromLink (n : ℕ) (p : Receiver.Pass) : Bool := decide (p.num = n) && !p.recirculated

/-- The numbers that have passed the receiver or wait in its buffer. -/
def seen (r : Receiver.State) : List ℕ :=
  r.history.map Receiver.Pass.num ++ r.buffer.map Prod.fst

lemma seen_afterPass {R : Receiver.Setup} {r : Receiver.State} {rest : List (ℕ × Receiver.Hdr)}
    {num expected : ℕ} {recirculated : Bool} {mode : BitVec 1} {c : Receiver.Ingress}
    (hrest : ∀ p ∈ rest, p ∈ r.buffer) {n : ℕ}
    (hn : n ∈ seen (Receiver.afterPass R r rest num expected recirculated mode c)) :
    n ∈ seen r ∨ n = num := by
  have hold : n ∈ rest.map Prod.fst → n ∈ seen r := by
    intro hmem
    obtain ⟨p, hp, rfl⟩ := List.mem_map.mp hmem
    exact List.mem_append_right _ (List.mem_map_of_mem (hrest p hp))
  simp only [seen, Receiver.afterPass, List.map_append, List.map_singleton, List.mem_append,
    List.mem_singleton] at hn
  rcases hn with (hn | hn) | hn
  · exact Or.inl (List.mem_append_left _ hn)
  · exact Or.inr hn
  · split at hn
    · rw [List.map_append, List.mem_append] at hn
      exact hn.imp hold fun hn => by simpa using hn
    · exact Or.inl (hold hn)

lemma countP_afterPass {R : Receiver.Setup} {r : Receiver.State} {rest : List (ℕ × Receiver.Hdr)}
    {num expected : ℕ} {recirculated : Bool} {mode : BitVec 1} {c : Receiver.Ingress} (n : ℕ) :
    (Receiver.afterPass R r rest num expected recirculated mode c).history.countP (fromLink n) =
      r.history.countP (fromLink n) + if num = n ∧ recirculated = false then 1 else 0 := by
  simp only [Receiver.afterPass, List.countP_append, List.countP_singleton, fromLink,
    Bool.and_eq_true, decide_eq_true_eq, Bool.not_eq_true']

/-- A step of the receiver sees no other number than one off the link, and counts it once. -/
lemma receiver_numbers {R : Receiver.Setup} {r r' : Receiver.State} {e : Receiver.Event}
    (hB : Receiver.BufferOk R r) (h : Receiver.step R r e = some r') (n : ℕ) :
    r'.history.countP (fromLink n) =
        r.history.countP (fromLink n) + (if dataNum e = some n then 1 else 0) ∧
      (n ∈ seen r' → n ∈ seen r ∨ dataNum e = some n) := by
  rcases Receiver.step_cases hB h with ⟨num, hdr, rfl, -, rfl⟩ | ⟨i, num, hdr, rfl, hget, -, rfl⟩ |
    ⟨_, _, _, rfl, -, -, -, rfl⟩ | ⟨_, rfl, rfl⟩
  · rw [countP_afterPass]
    refine ⟨by simp [dataNum], fun hn => ?_⟩
    exact (seen_afterPass (fun _ hp => hp) hn).imp_right fun hn => congrArg some hn.symm
  · rw [countP_afterPass]
    refine ⟨by simp [dataNum], fun hn => Or.inl ?_⟩
    rcases seen_afterPass (fun _ hp => List.mem_of_mem_eraseIdx hp) hn with hn | rfl
    · exact hn
    · exact List.mem_append_right _ (List.mem_map_of_mem (List.mem_of_getElem? hget))
  · exact ⟨rfl, Or.inl⟩
  · exact ⟨rfl, Or.inl⟩

/-! ## The invariant -/

/-- Number `n` has come off the link, as an original or retransmitted. -/
def State.Arrived (s : State) (n : ℕ) : Prop :=
  n ∈ Link.deliveredIn s.sender.link.fates ∨ n ∈ s.arrivedRetx

/-- What every step keeps, in both modes.  It has the invariants of the two ends as fields and adds
what neither of them can say: what stands on the link and in the buffers was stamped by the sender,
and the receiver has counted what came off the link. -/
structure Inv (S : Setup) (s : State) : Prop where
  sender : Buffer.SafetyInv S.sender s.sender
  bufferOk : Receiver.BufferOk S.receiver s.receiver
  link : ∀ p ∈ s.sender.link.link, p.isData = true → DataOk S p.ethernet p.data
  copies : ∀ p ∈ s.sender.buffer, CopyOk S p.2
  retx : ∀ p ∈ s.retx, RetxOk S p.1 p.2 ∧ (p.1, .retransmitted) ∈ s.sender.decided
  arrivedRetx : ∀ n ∈ s.arrivedRetx, (n, .retransmitted) ∈ s.sender.decided
  counted : ∀ n, s.history.countP (fromLink n) =
    (Link.deliveredIn s.sender.link.fates).count n + s.arrivedRetx.count n
  arrived : ∀ n ∈ seen s.receiver, s.Arrived n

lemma inv_init (S : Setup) : Inv S (init S) where
  sender := ⟨Buffer.inv_init S.sender, Buffer.holesInv_init S.sender⟩
  bufferOk := fun _ hp => absurd hp List.not_mem_nil
  link := fun _ hp => absurd hp List.not_mem_nil
  copies := fun _ hp => absurd hp List.not_mem_nil
  retx := fun _ hp => absurd hp List.not_mem_nil
  arrivedRetx := fun _ hp => absurd hp List.not_mem_nil
  counted := fun _ => rfl
  arrived := fun _ hn => absurd hn List.not_mem_nil

lemma Inv.linkInv (h : Inv S s) : Link.Inv S.sender.link s.sender.link :=
  h.sender.inv.buffer.link

/-- What has arrived was stamped. -/
lemma Inv.lt_stamped (h : Inv S s) {n : ℕ} (hn : s.Arrived n) : n < s.stamped := by
  have hle := h.linkInv.sequenced.le
  rcases hn with hn | hn
  · have hlt := h.linkInv.ledger.delivered n hn
    unfold State.stamped
    omega
  · exact (h.sender.holes.decided _ (h.arrivedRetx n hn)).2.1

/-- A data packet at the head of the link is fit to arrive. -/
lemma Inv.dataArrival (h : Inv S s) {p : Link.Packet} (hp : p ∈ s.sender.link.link)
    (hdata : p.isData = true) : Receiver.DataArrival S.receiver p.num p.rxHdr := by
  have hok := h.linkInv.linkOk p hp
  obtain ⟨hdummy, hrx, -, hroute⟩ := h.link p hp hdata
  exact ⟨rfl, rfl, hdummy, hrx, rfl, hok.carries, hroute⟩

/-- Decisions are only ever added, so that a retransmission that was decided on is accounted for at
the end. -/
lemma decided_mono {B : Buffer.Setup} {b b' : Buffer.State} {e : Buffer.Event}
    (h : Buffer.step B b e = some b') : ∀ p ∈ b.decided, p ∈ b'.decided := by
  intro p hp
  rcases Buffer.step_cases h with ⟨le, l, rfl, hl, rfl⟩ | ⟨_, _, _, rfl, -, -, rfl⟩ |
    ⟨i, n, hdr, rfl, -, rfl⟩
  · exact hp
  · exact hp
  · unfold Buffer.State.afterCopy
    split
    · exact hp
    · exact List.mem_append_left _ hp

/-! ## Steps -/

lemma routable_of_data {e : Event} {hdr : Sender.Hdr} {q : BitVec 19} {r : BitVec 8}
    (he : e.atSender = some (.link (.data hdr q r))) (h : e.Routed S) :
    S.Routable hdr.ethernet.fields.dstAddr := by
  cases e with
  | data hdr' q' r' =>
    simp only [Event.atSender, Option.some.injEq, Buffer.Event.link.injEq,
      Link.Event.data.injEq] at he
    rw [← he.1]
    exact h
  | _ => cases he

/-- Data packets that a step of the sender puts on the link are well-formed. -/
lemma sender_link {e : Event} {e' : Buffer.Event} {b : Buffer.State} (h : Inv S s)
    (he : e.atSender = some e') (hroute : e.Routed S)
    (hb : Buffer.step S.sender s.sender e' = some b) :
    ∀ p ∈ b.link.link, p.isData = true → DataOk S p.ethernet p.data := by
  intro p hp hdata
  rcases Buffer.step_cases hb with ⟨le, l, rfl, hl, rfl⟩ | ⟨_, _, _, rfl, -, -, rfl⟩ |
    ⟨i, n, hdr, rfl, -, rfl⟩
  · rcases Link.step_cases hl with ⟨hdr, q, r, rfl, hn, rfl⟩ | ⟨hdr, rfl, hd, rfl | rfl⟩ |
      ⟨p', ps, rfl, hlink, rfl⟩ | ⟨p', ps, rfl, hlink, -, rfl⟩
    · rcases List.mem_append.mp hp with hp | hp
      · exact h.link p hp hdata
      · rw [List.mem_singleton.mp hp]
        exact (dataOk_stamped _ _ _ hn (routable_of_data he hroute)).data
    · rcases List.mem_append.mp hp with hp | hp
      · exact h.link p hp hdata
      · rw [List.mem_singleton.mp hp, (Link.txPass_dummy hd h.linkInv.tx).1] at hdata
        cases hdata
    · exact h.link p hp hdata
    · exact h.link p (by rw [hlink]; exact List.mem_cons_of_mem _ hp) hdata
    · exact h.link p (by rw [hlink]; exact List.mem_cons_of_mem _ hp) hdata
  · exact h.link p hp hdata
  · rw [(Buffer.afterCopy_keeps _ _ _ _).1] at hp
    exact h.link p hp hdata

/-- So are the copies in its buffer. -/
lemma sender_copies {e : Event} {e' : Buffer.Event} {b : Buffer.State} (h : Inv S s)
    (hw : Windowed s) (he : e.atSender = some e') (hroute : e.Routed S)
    (hb : Buffer.step S.sender s.sender e' = some b) : ∀ p ∈ b.buffer, CopyOk S p.2 := by
  intro p hp
  -- a new copy comes from a data packet, and a copy that goes round has its headers unchanged
  rcases Buffer.step_cases hb with ⟨le, l, rfl, hl, rfl⟩ | ⟨_, _, _, rfl, -, -, rfl⟩ |
    ⟨i, n, hdr, rfl, hget, rfl⟩
  · rcases List.mem_append.mp hp with hp | hp
    · exact h.copies p hp
    · cases le with
      | data hdr q r =>
        have hn : hdr.linkradarData.valid = false := by
          simp only [Link.step, Option.ite_none_right_eq_some] at hl
          exact hl.1
        obtain ⟨copy, hcopy, rfl⟩ := Option.map_eq_some_iff.mp (Option.mem_toList.mp hp)
        obtain ⟨hdata, heth⟩ := copyOf_ok hn hcopy
        have hok := dataOk_stamped (S := S) s.sender.link.txRegs q r hn
          (routable_of_data he hroute)
        exact ⟨by rw [hdata]; exact hok.linkradarData, by rw [hdata, heth]; exact hok.data⟩
      | dummy | lose | arrive => exact absurd hp List.not_mem_nil
  · exact h.copies p hp
  · have hB := h.sender.inv.buffer
    have hmem := List.mem_of_getElem? hget
    have hpass := Buffer.copy_spec (hB.copies _ hmem) hB.storesLack
      (hw n (List.mem_map_of_mem hmem))
    unfold Buffer.State.afterCopy at hp
    split at hp
    · rename_i hnone
      have hlt : s.sender.lack < n := by
        rw [hpass.decision] at hnone
        split at hnone
        · split at hnone <;> cases hnone
        · omega
      rcases List.mem_append.mp hp with hp | hp
      · exact h.copies p (List.mem_of_mem_eraseIdx hp)
      · rw [List.mem_singleton.mp hp, hpass.hdr hlt]
        exact h.copies _ hmem
    · exact h.copies p (List.mem_of_mem_eraseIdx hp)

/-- And what it retransmits, which it has decided on. -/
lemma sender_retx {e : Event} {e' : Buffer.Event} {b : Buffer.State} (h : Inv S s)
    (he : e.atSender = some e') (hb : Buffer.step S.sender s.sender e' = some b) :
    ∀ p ∈ newRetx S s e, RetxOk S p.1 p.2 ∧ (p.1, .retransmitted) ∈ b.decided := by
  intro p hp
  cases e with
  | buffered i =>
    simp only [newRetx, retransmissions] at hp
    split at hp
    · exact absurd hp List.not_mem_nil
    · rename_i n hdr hget
      have hmem := List.mem_of_getElem? hget
      split at hp
      · rename_i hd
        obtain rfl := List.eq_of_mem_replicate hp
        refine ⟨buffered_retx h.sender.inv.buffer hmem (h.copies _ hmem) hd, ?_⟩
        simp only [Event.atSender, Option.some.injEq] at he
        rw [← he] at hb
        simp only [Buffer.step, hget, Option.some.injEq] at hb
        rw [← hb]
        simp only [Buffer.State.afterCopy, hd]
        exact List.mem_append_right _ List.mem_cons_self
      · exact absurd hp List.not_mem_nil
  | _ => exact absurd hp List.not_mem_nil

lemma Inv.afterSender (h : Inv S s) {e : Event} {e' : Buffer.Event} {b : Buffer.State}
    (he : e.atSender = some e') (hne : e' ≠ .link .arrive) (hroute : e.Routed S)
    (hb : Buffer.step S.sender s.sender e' = some b) (hw : Windowed s) (hw' : Buffer.Windowed b)
    (hG : Buffer.Guard s.sender e') : Inv S (s.afterSender b (newRetx S s e)) := by
  obtain ⟨-, hfates⟩ := sender_rxRegs hne hb
  have hretx := sender_retx h he hb
  constructor
  · exact ⟨Buffer.inv_step h.sender.inv hw hG.1 hb,
      Buffer.holesInv_step h.sender.holes h.sender.inv hw hw' hG.1 hG.2 hb⟩
  · exact h.bufferOk
  · exact sender_link h he hroute hb
  · exact sender_copies h hw he hroute hb
  · intro p hp
    rcases List.mem_append.mp hp with hp | hp
    · exact (h.retx p hp).imp_right (decided_mono hb _)
    · exact hretx p hp
  · exact fun n hn => decided_mono hb _ (h.arrivedRetx n hn)
  · intro n
    change s.history.countP (fromLink n) =
      (Link.deliveredIn b.link.fates).count n + s.arrivedRetx.count n
    rw [hfates]
    exact h.counted n
  · intro n hn
    refine (h.arrived n hn).imp_left fun hd => ?_
    change n ∈ Link.deliveredIn b.link.fates
    rwa [hfates]

/-- A step of the receiver that keeps the expected number and sees no new one. -/
lemma Inv.internal (h : Inv S s) {e : Receiver.Event} {r : Receiver.State} (he : Internal e)
    (hr : Receiver.step S.receiver s.receiver e = some r) : Inv S (s.withReceiver r) := by
  have hnum : dataNum e = none := by
    cases e with
    | data | dummy => exact he.elim
    | recirculate | timer => rfl
  have hregs : r.regs.regExpectedSeqNo = s.sender.link.rxRegs.regExpectedSeqNo :=
    internal_expected h.bufferOk he hr
  constructor
  · exact safetyInv_rxRegs h.sender (congrFun hregs _)
  · exact Receiver.bufferOk_step h.bufferOk hr
  · exact h.link
  · exact h.copies
  · exact h.retx
  · exact h.arrivedRetx
  · intro n
    have hcount := (receiver_numbers h.bufferOk hr n).1
    rw [hnum, if_neg (by simp), add_zero] at hcount
    exact hcount.trans (h.counted n)
  · intro n hn
    rcases (receiver_numbers h.bufferOk hr n).2 hn with hold | hnew
    · exact h.arrived n hold
    · rw [hnum] at hnew
      cases hnew

/-- The arrival of a retransmitted copy. -/
lemma Inv.afterRetx (h : Inv S s) {i n : ℕ} {hdr : Sender.Hdr} {r : Receiver.State}
    (hget : s.retx[i]? = some (n, hdr))
    (hr : Receiver.step S.receiver s.receiver (.data n (retxHdr hdr)) = some r) :
    Inv S (s.afterRetx i n r) := by
  obtain ⟨hok, hdec⟩ := h.retx _ (List.mem_of_getElem? hget)
  have hregs : r.regs.regExpectedSeqNo = s.sender.link.rxRegs.regExpectedSeqNo := by
    simp only [Receiver.step, if_pos hok.dataArrival, Option.some.injEq] at hr
    rw [← hr]
    exact retx_expected hok.dataArrival hok.reTx
  constructor
  · exact safetyInv_rxRegs h.sender (congrFun hregs _)
  · exact Receiver.bufferOk_step h.bufferOk hr
  · exact h.link
  · exact h.copies
  · exact fun p hp => h.retx p (List.mem_of_mem_eraseIdx hp)
  · intro m hm
    rcases List.mem_append.mp hm with hm | hm
    · exact h.arrivedRetx m hm
    · rw [List.mem_singleton.mp hm]
      exact hdec
  · intro m
    have hcount := (receiver_numbers h.bufferOk hr m).1
    refine hcount.trans ?_
    change s.history.countP (fromLink m) + _ =
      (Link.deliveredIn s.sender.link.fates).count m + (s.arrivedRetx ++ [n]).count m
    rw [h.counted m, List.count_append, List.count_singleton, add_assoc]
    simp [dataNum]
  · intro m hm
    rcases (receiver_numbers h.bufferOk hr m).2 hm with hold | hnew
    · exact (h.arrived m hold).imp_right (List.mem_append_left _)
    · obtain rfl : n = m := Option.some_inj.mp hnew
      exact Or.inr (List.mem_append_right _ List.mem_cons_self)

/-- What the arrival of an original or dummy adds to the delivered numbers. -/
lemma arrive_delivered {p : Link.Packet} {b : Buffer.State}
    (hp : s.sender.link.link.head? = some p)
    (hb : Buffer.step S.sender s.sender (.link .arrive) = some b) :
    b.link.fates = s.sender.link.fates ++ [(p, true)] ∧ b.decided = s.sender.decided ∧
      b.buffer = s.sender.buffer ∧ ∀ q ∈ b.link.link, q ∈ s.sender.link.link := by
  rcases Buffer.step_cases hb with ⟨le, l, he, hl, rfl⟩ | ⟨_, _, _, he, -⟩ | ⟨_, _, _, he, -⟩
  · cases he
    rcases Link.step_cases hl with ⟨_, _, _, he, -⟩ | ⟨_, he, -⟩ | ⟨_, _, he, -⟩ |
      ⟨q, qs, -, hlink, -, rfl⟩
    · cases he
    · cases he
    · cases he
    · rw [hlink, List.head?_cons, Option.some_inj] at hp
      refine ⟨by rw [← hp]; rfl, rfl, List.append_nil _, fun q' hq' => ?_⟩
      rw [hlink]
      exact List.mem_cons_of_mem _ hq'
  · cases he
  · cases he

lemma dataNum_arrivalOf (p : Link.Packet) :
    dataNum (arrivalOf p) = if p.isData then some p.num else none := by
  unfold arrivalOf
  split <;> rfl

/-- The arrival of an original or dummy, which moves both ends. -/
lemma Inv.arrive (h : Inv S s) {p : Link.Packet} {b : Buffer.State} {r : Receiver.State}
    (hp : s.sender.link.link.head? = some p)
    (hb : Buffer.step S.sender s.sender (.link .arrive) = some b)
    (hr : Receiver.step S.receiver s.receiver (arrivalOf p) = some r)
    (hw : Windowed s) (hw' : Buffer.Windowed b) (hG : Buffer.Guard s.sender (.link .arrive)) :
    Inv S ((s.afterSender b []).withReceiver r) := by
  obtain ⟨hfates, hdec, hbuf, hlink⟩ := arrive_delivered hp hb
  -- a dummy is no data packet, and is counted on neither side
  have hcount : ∀ n, (Link.deliveredIn b.link.fates).count n =
      (Link.deliveredIn s.sender.link.fates).count n +
        if dataNum (arrivalOf p) = some n then 1 else 0 := by
    intro n
    rw [hfates, Link.deliveredIn_append, List.count_append, dataNum_arrivalOf]
    cases hd : p.isData <;> simp [Link.deliveredIn, hd, List.count_singleton]
  constructor
  · refine safetyInv_rxRegs (b := b) ⟨Buffer.inv_step h.sender.inv hw hG.1 hb,
      Buffer.holesInv_step h.sender.holes h.sender.inv hw hw' hG.1 hG.2 hb⟩ ?_
    rw [arrival_regs hp hb hr]
  · exact Receiver.bufferOk_step h.bufferOk hr
  · exact fun q hq => h.link q (hlink q hq)
  · intro q hq
    change q ∈ b.buffer at hq
    rw [hbuf] at hq
    exact h.copies q hq
  · intro q hq
    have hold := h.retx q ((List.append_nil s.retx) ▸ hq)
    rw [← hdec] at hold
    exact hold
  · intro n hn
    change (n, Buffer.Decision.retransmitted) ∈ b.decided
    rw [hdec]
    exact h.arrivedRetx n hn
  · intro n
    have hnum := (receiver_numbers h.bufferOk hr n).1
    refine hnum.trans ?_
    change s.history.countP (fromLink n) + _ =
      (Link.deliveredIn b.link.fates).count n + s.arrivedRetx.count n
    rw [hcount, h.counted n]
    omega
  · intro n hn
    rcases (receiver_numbers h.bufferOk hr n).2 hn with hold | hnew
    · refine (h.arrived n hold).imp_left fun hd => ?_
      change n ∈ Link.deliveredIn b.link.fates
      rw [hfates, Link.deliveredIn_append]
      exact List.mem_append_left _ hd
    · refine Or.inl ?_
      change n ∈ Link.deliveredIn b.link.fates
      rw [← List.count_pos_iff, hcount, if_pos hnew]
      omega

/-- **Step lemma.** -/
theorem inv_step {e : Event} (h : Inv S s) (hw : Windowed s) (hw' : Windowed s')
    (hG : SenderGuard s e) (hs : step S s e = some s') : Inv S s' := by
  rcases step_cases hs with ⟨e', b, he, hne, hroute, hb, rfl⟩ | ⟨p, b, r, rfl, hp, hb, hr, rfl⟩ |
    ⟨i, rfl, rfl⟩ | ⟨i, n, hdr, r, rfl, hget, hr, rfl⟩ | ⟨e', r, -, he, hr, rfl⟩
  · exact h.afterSender he hne hroute hb hw hw' (hG e' he)
  · refine h.arrive hp hb hr hw (fun n hn => ?_) (hG _ rfl)
    exact hw' n hn
  · exact ⟨h.sender, h.bufferOk, h.link, h.copies,
      fun p hp => h.retx p (List.mem_of_mem_eraseIdx hp), h.arrivedRetx, h.counted, h.arrived⟩
  · exact h.afterRetx hget hr
  · exact h.internal he hr

end LinkGuardian.ProtectedLink
