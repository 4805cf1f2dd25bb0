import LinkGuardian.Dataplane.Receiver.EgressSpec
import LinkGuardian.Protocol.LossDetection

/-!
# The leading-ack reports of the receiver

What the ingress of the receiver mirrors waits in two queues: lack updates towards the internal
recirculation port, loss notifications towards the protected port.  Their egress passes and
those of normal and courier packets share the leading-ack registers.  The reports that leave
towards the sender never go backwards as long as the two queues are served in the order in
which their entries were generated (`reports_monotone`); a lack update that a notification has
overtaken makes them go backwards (`overtaken_update_reported`).
-/

namespace LinkGuardian.LackReports

open P4 SerialNumber Execution Receiver Link

/-! ## The system -/

/-- A protected link and the egress tables of its receiver. -/
structure Setup where
  link : Link.Setup
  egTables : EgressTables

/-- A mirrored packet in a queue: its place in the order of generation, the number it accounts for,
and its mirror header.  Place and number are for the statement only; a queue is served by its own
order. -/
structure Queued (α : Type) where
  place : ℕ
  num : ℕ
  mirror : α
deriving DecidableEq, Repr

structure State where
  rxRegs : IngressRegs
  egRegs : EgressRegs
  /-- the number that the next data packet should carry -/
  expected : ℕ
  /-- how many mirrored packets the ingress has generated -/
  generated : ℕ
  /-- towards the recirculation port -/
  lackQueue : List (Queued IgMirrorLackUpdate)
  /-- towards the protected port -/
  notifyQueue : List (Queued IgMirrorLossNotification)
  /-- the number behind the leading-ack registers -/
  recorded : ℕ
  /-- the reports that left towards the sender, with the numbers behind them -/
  sent : List (ℕ × LinkradarLack)

/-- Power-on. -/
def init (S : Setup) : State where
  rxRegs := .init S.link.rxTables.timeoutVal100ns
  egRegs := .init
  expected := 0
  generated := 0
  lackQueue := []
  notifyQueue := []
  recorded := 0
  sent := []

inductive Event
  /-- a data packet or a dummy arrives on the protected link -/
  | arrive (p : Packet)
  /-- the oldest lack update passes the egress -/
  | lackUpdate
  /-- the oldest loss notification, cut from a packet with these headers, passes the egress -/
  | lossNotification (hdr : Hdr)
  /-- a normal or courier packet passes the egress on the protected port -/
  | packet (hdr : Hdr)

/-- The egress pass of a lack update. -/
def lackUpdatePass (S : Setup) (regs : EgressRegs) (m : IgMirrorLackUpdate) : Egress :=
  (Egress.start regs 68 0 0 default { (default : EgMeta) with igMirrorLackUpdate := .of m }).apply
    S.egTables

/-- The egress pass of a loss notification. -/
def notificationPass (S : Setup) (regs : EgressRegs) (m : IgMirrorLossNotification) (hdr : Hdr) :
    Egress :=
  (Egress.start regs S.link.rxPortMd.origIgPort 0 0
    { (default : Hdr) with ethernet := hdr.ethernet }
    { (default : EgMeta) with igMirrorLossNotification := .of m }).apply S.egTables

/-- The egress pass of a normal or courier packet. -/
def packetPass (S : Setup) (regs : EgressRegs) (hdr : Hdr) : Egress :=
  (Egress.start regs S.link.rxPortMd.origIgPort 0 0 hdr (.ofHdr hdr)).apply S.egTables

/-- A packet leaves with a report if it is not dropped and has a lack header. -/
def reportIn (n : ℕ) (c : Egress) : List (ℕ × LinkradarLack) :=
  if c.dropCtl = 0 ∧ c.hdr.linkradarLack.valid = true then [(n, c.hdr.linkradarLack.fields)] else []

instance (p : Packet) : Decidable p.Ok :=
  decidable_of_iff (Carries p.data p.num ∧ p.data.reTx = 0)
    ⟨fun h => ⟨h.1, h.2⟩, fun h => ⟨h.1, h.2⟩⟩

/-- Append what an arrival mirrored. -/
def State.enqueue (s : State) (num : ℕ) : Option IgMirror → State
  | none => s
  | some (.lackUpdate m) => { s with
      generated := s.generated + 1
      lackQueue := s.lackQueue ++ [⟨s.generated, num, m⟩] }
  | some (.lossNotification m) => { s with
      generated := s.generated + 1
      notifyQueue := s.notifyQueue ++ [⟨s.generated, num, m⟩] }

def step (S : Setup) (s : State) : Event → Option State
  | .arrive p =>
    if p.Ok ∧ s.expected ≤ p.num then
      let c := rxPass S.link s.rxRegs p
      some ({ s with rxRegs := c.regs, expected := p.next }.enqueue p.accounted c.mirrorEmit)
    else none
  | .lackUpdate =>
    match s.lackQueue with
    | [] => none
    | u :: us =>
      let c := lackUpdatePass S s.egRegs u.mirror
      some { s with
        egRegs := c.regs, lackQueue := us, recorded := u.num, sent := s.sent ++ reportIn u.num c }
  | .lossNotification hdr =>
    match s.notifyQueue with
    | [] => none
    | r :: rs =>
      let c := notificationPass S s.egRegs r.mirror hdr
      some { s with
        egRegs := c.regs, notifyQueue := rs, sent := s.sent ++ reportIn r.num c }
  | .packet hdr =>
    if hdr.linkradarRxBuffered.valid = false ∧ hdr.etherPfc.valid = false then
      let c := packetPass S s.egRegs hdr
      some { s with egRegs := c.regs, sent := s.sent ++ reportIn s.recorded c }
    else none

/-- The two queues are served in the order in which their entries were generated: at the pass of the
head of one queue, the head of the other was not generated before it.  Nothing in the source makes
them be; the two queues belong to different ports. -/
def InGenerationOrder (s : State) : Event → Prop
  | .lackUpdate => ∀ u ∈ s.lackQueue.head?, ∀ r ∈ s.notifyQueue.head?, u.place < r.place
  | .lossNotification _ => ∀ r ∈ s.notifyQueue.head?, ∀ u ∈ s.lackQueue.head?, r.place < u.place
  | _ => True

instance (s : State) : DecidablePred (InGenerationOrder s)
  | .lackUpdate => inferInstanceAs
      (Decidable (∀ u ∈ s.lackQueue.head?, ∀ r ∈ s.notifyQueue.head?, u.place < r.place))
  | .lossNotification _ => inferInstanceAs
      (Decidable (∀ r ∈ s.notifyQueue.head?, ∀ u ∈ s.lackQueue.head?, r.place < u.place))
  | .arrive _ | .packet _ => isTrue trivial

/-! ## Single passes -/

variable {S : Setup} {s s' : State}

/-- The header fields of a report denote `n`. -/
def LackDenotes (leadingAck : SeqNo) (e : BitVec 1) (n : ℕ) : Prop :=
  leadingAck = wire 16 n ∧ e = era 16 n

/-- A mirror header that accounts for number `n`. -/
def Accounts (S : Setup) (n : ℕ) : IgMirror → Prop
  | .lackUpdate u => u.ingressPort = S.link.rxPort ∧ LackDenotes u.leadingAck u.leadingAckEra n
  | .lossNotification r => LackDenotes r.leadingAck r.leadingAckEra n

/-- What an arrival mirrors accounts for the numbers from the expected one to the packet. -/
lemma rxPass_mirrors {regs : IngressRegs} {E : ℕ} {p : Packet} {m : IgMirror} (hp : p.Ok)
    (hE : regs.regExpectedSeqNo S.link.rxPort = wire 16 E) (hle : E ≤ p.num)
    (hm : (rxPass S.link regs p).mirrorEmit = some m) :
    E ≤ p.accounted ∧ p.accounted < p.next ∧ Accounts S p.accounted m := by
  rw [(rxPass_eq hp).2, hE, Ingress.reportOf] at hm
  by_cases hd : p.data.dummy = 0
  · have hdata : p.isData = true := by simpa [Packet.isData] using hd
    obtain ⟨hseq, hera⟩ := accounted_eq hp (Or.inl hdata)
    refine ⟨by rw [Packet.accounted, if_pos hdata]; exact hle,
      by rw [Packet.accounted, Packet.next, if_pos hdata, if_pos hdata]; omega, ?_⟩
    by_cases hne : p.data.seqNo - wire 16 E ≠ 0
    · rw [if_pos hne, Option.some_inj] at hm
      rw [← hm]
      exact ⟨hseq, hera⟩
    · rw [if_neg hne, if_pos hd, Option.some_inj] at hm
      rw [← hm, Packet.accounted, if_pos hdata]
      exact ⟨rfl, hp.carries.seqNo_eq, hp.carries.era_eq⟩
  · by_cases hne : p.data.seqNo - wire 16 E ≠ 0
    · rw [if_pos hne, Option.some_inj] at hm
      -- a dummy behind a gap announces a number beyond the expected one
      have hlt : E < p.num := by
        refine lt_of_le_of_ne hle fun heq => hne ?_
        rw [hp.carries.seqNo_eq, heq, BitVec.sub_self]
        rfl
      have hdata : ¬ p.isData = true := by simpa [Packet.isData] using hd
      obtain ⟨hseq, hera⟩ := accounted_eq hp (Or.inr (by omega))
      refine ⟨by rw [Packet.accounted, if_neg hdata]; omega,
        by rw [Packet.accounted, Packet.next, if_neg hdata, if_neg hdata]; omega, ?_⟩
      rw [← hm]
      exact ⟨hseq, hera⟩
    · rw [if_neg hne, if_neg hd] at hm
      cases hm

/-- The leading-ack registers of the port denote `n`. -/
def StoresLack (S : Setup) (regs : EgressRegs) (n : ℕ) : Prop :=
  Denotes (regs.regLeadingAck S.link.rxPort) (regs.regLeadingAckEra S.link.rxPort) n

/-- How many packets still have to report the stored leading ack. -/
def pendingReports (S : Setup) (regs : EgressRegs) : BitVec 8 :=
  regs.regLeadingAckNotifyCount S.link.rxPort

/-- A lack update stores its number and reports nothing. -/
lemma lackUpdatePass_spec (regs : EgressRegs) {m : IgMirrorLackUpdate} {n : ℕ}
    (hport : m.ingressPort = S.link.rxPort) (hm : LackDenotes m.leadingAck m.leadingAckEra n) :
    StoresLack S (lackUpdatePass S regs m).regs n ∧ reportIn n (lackUpdatePass S regs m) = [] := by
  obtain ⟨hdrop, hack, hera⟩ := Egress.lackUpdate_pass (t := S.egTables)
    (c := .start regs 68 0 0 default { (default : EgMeta) with igMirrorLackUpdate := .of m }) rfl
  have hround : ∀ b : BitVec 1, (b.setWidth 8).setWidth 1 = b := by decide
  refine ⟨⟨?_, ?_⟩, ?_⟩
  · rw [lackUpdatePass, hack]
    change regs.regLeadingAck.write m.ingressPort m.leadingAck S.link.rxPort = _
    rw [hport, Register.write_same]
    exact hm.1
  · rw [lackUpdatePass, hera]
    change (regs.regLeadingAckEra.write m.ingressPort (m.leadingAckEra.setWidth 8)
      S.link.rxPort).setWidth 1 = _
    rw [hport, Register.write_same, hround]
    exact hm.2
  · refine if_neg fun h => ?_
    have h0 := h.1
    rw [lackUpdatePass, hdrop] at h0
    exact absurd h0 (by decide)

/-- A loss notification reports its own number and leaves nothing pending. -/
lemma notificationPass_spec {regs : EgressRegs} {m : IgMirrorLossNotification} {n k : ℕ} (hdr : Hdr)
    (hm : LackDenotes m.leadingAck m.leadingAckEra n) (hregs : StoresLack S regs k) :
    StoresLack S (notificationPass S regs m hdr).regs k ∧
      pendingReports S (notificationPass S regs m hdr).regs = 0 ∧
      ∃ lack, reportIn n (notificationPass S regs m hdr) = [(n, lack)] ∧
        LackDenotes lack.leadingAck lack.era n := by
  obtain ⟨hdrop, hvalid, hack, hera, -, hr⟩ := Egress.lossNotification_pass (t := S.egTables)
    (c := .start regs S.link.rxPortMd.origIgPort 0 0
      { (default : Hdr) with ethernet := hdr.ethernet }
      { (default : EgMeta) with igMirrorLossNotification := .of m }) rfl rfl
    (show (0 : BitVec 16) ≠ pauseFrameMcastRid by decide)
  refine ⟨?_, ?_, _, if_pos ⟨hdrop, hvalid⟩, hack.trans hm.1, hera.trans hm.2⟩
  · rw [notificationPass, hr]
    exact hregs
  · rw [notificationPass, hr]
    exact Register.write_same _ _ _

/-- A normal or courier packet reports the stored number while reports are pending. -/
lemma packetPass_spec {regs : EgressRegs} {hdr : Hdr} {n : ℕ}
    (hb : hdr.linkradarRxBuffered.valid = false) (hp : hdr.etherPfc.valid = false)
    (hregs : StoresLack S regs n) :
    StoresLack S (packetPass S regs hdr).regs n ∧
      ((0 < pendingReports S regs ∧ ∃ lack, reportIn n (packetPass S regs hdr) = [(n, lack)] ∧
          LackDenotes lack.leadingAck lack.era n) ∨
        (pendingReports S regs = 0 ∧ pendingReports S (packetPass S regs hdr).regs = 0 ∧
          reportIn n (packetPass S regs hdr) = [])) := by
  have hnc :
      (Egress.start regs S.link.rxPortMd.origIgPort 0 0 hdr (.ofHdr hdr)).IsNormalOrCourier := by
    refine ⟨rfl, rfl, ?_⟩
    change (if hdr.linkradarRxBuffered.valid ∨ hdr.etherPfc.valid then (1 : BitVec 1) else 0) = 0
    rw [hb, hp]
    rfl
  have hpass := Egress.normalOrCourier_pass (t := S.egTables) hnc
  have hpend : (Egress.start regs S.link.rxPortMd.origIgPort 0 0 hdr (.ofHdr hdr)).pending =
      pendingReports S regs := rfl
  rw [hpend] at hpass
  -- either the packet takes the number along, or it leaves without a report or not at all
  by_cases h0 : 0 < pendingReports S regs
  · rw [if_pos h0] at hpass
    obtain ⟨hdrop, hvalid, hack, hera, hr⟩ := hpass
    refine ⟨?_, Or.inl ⟨h0, _, if_pos ⟨hdrop, hvalid⟩, ?_, ?_⟩⟩
    · rw [packetPass, hr]
      exact hregs
    · exact hack.trans hregs.seqNo_eq
    · exact hera.trans hregs.era_eq
  · rw [if_neg h0] at hpass
    obtain ⟨hr, hsilent⟩ := hpass
    have hzero : pendingReports S regs = 0 := by
      simpa using h0
    refine ⟨?_, Or.inr ⟨hzero, ?_, ?_⟩⟩
    · rw [packetPass, hr]
      exact hregs
    · rw [packetPass, hr]
      exact hzero
    · refine if_neg fun h => ?_
      split at hsilent
      · rw [packetPass, hsilent] at h
        exact absurd h.1 (by decide)
      · rw [packetPass, hsilent.1] at h
        cases h.2

/-! ## Invariant -/

/-- Two queued entries are numbered in the order in which they were generated. -/
def Numbered {α β : Type} (q : Queued α) (q' : Queued β) : Prop :=
  q.place < q'.place → q.num ≤ q'.num

/-- The queues hold reports of numbers below the expected one, numbered in the order of generation.
Across the two queues, too, a report that was generated later has no smaller number; which of them
is served first is left to the run. -/
structure QueuesInv (S : Setup) (s : State) : Prop where
  lack : ∀ u ∈ s.lackQueue, u.place < s.generated ∧ u.num < s.expected ∧
    Accounts S u.num (.lackUpdate u.mirror)
  notify : ∀ r ∈ s.notifyQueue, r.place < s.generated ∧ r.num < s.expected ∧
    Accounts S r.num (.lossNotification r.mirror)
  lackOrder : s.lackQueue.Pairwise fun u u' => u.place < u'.place ∧ u.num ≤ u'.num
  notifyOrder : s.notifyQueue.Pairwise fun r r' => r.place < r'.place ∧ r.num ≤ r'.num
  crossed : ∀ u ∈ s.lackQueue, ∀ r ∈ s.notifyQueue, Numbered u r ∧ Numbered r u

/-- What was sent, and how it relates to what is still to come: the reports sent so far do not
decrease, and neither what waits in the queues nor what is pending in the registers is below one of
them. -/
structure SentInv (S : Setup) (s : State) : Prop where
  storesLack : StoresLack S s.egRegs s.recorded
  sent : ∀ p ∈ s.sent, LackDenotes p.2.leadingAck p.2.era p.1
  monotone : (s.sent.map Prod.fst).Pairwise (· ≤ ·)
  pending : 0 < pendingReports S s.egRegs → ∀ p ∈ s.sent, p.1 ≤ s.recorded
  below : s.recorded ≤ s.expected ∧ ∀ p ∈ s.sent, p.1 ≤ s.expected
  lackAhead : ∀ u ∈ s.lackQueue, s.recorded ≤ u.num ∧ ∀ p ∈ s.sent, p.1 ≤ u.num
  notifyAhead : ∀ r ∈ s.notifyQueue, s.recorded ≤ r.num ∧ ∀ p ∈ s.sent, p.1 ≤ r.num

/-- What every step keeps. -/
structure Inv (S : Setup) (s : State) : Prop where
  rx : s.rxRegs.regExpectedSeqNo S.link.rxPort = wire 16 s.expected
  queues : QueuesInv S s
  reports : SentInv S s

lemma inv_init (S : Setup) : Inv S (init S) where
  rx := (wire_zero 16).symm
  queues := ⟨fun _ h => absurd h List.not_mem_nil, fun _ h => absurd h List.not_mem_nil,
    List.Pairwise.nil, List.Pairwise.nil, fun _ h => absurd h List.not_mem_nil⟩
  reports := ⟨denotes_zero, fun _ h => absurd h List.not_mem_nil, List.Pairwise.nil,
    fun _ _ h => absurd h List.not_mem_nil,
    ⟨le_refl _, fun _ h => absurd h List.not_mem_nil⟩,
    fun _ h => absurd h List.not_mem_nil, fun _ h => absurd h List.not_mem_nil⟩

/-- The expected number only grows, and what is in the queues stays below it. -/
lemma QueuesInv.expect (h : QueuesInv S s) (regs : IngressRegs) {n : ℕ} (hn : s.expected ≤ n) :
    QueuesInv S { s with rxRegs := regs, expected := n } where
  lack := fun u hu => ⟨(h.lack u hu).1, (h.lack u hu).2.1.trans_le hn, (h.lack u hu).2.2⟩
  notify := fun r hr => ⟨(h.notify r hr).1, (h.notify r hr).2.1.trans_le hn, (h.notify r hr).2.2⟩
  lackOrder := h.lackOrder
  notifyOrder := h.notifyOrder
  crossed := h.crossed

lemma SentInv.expect (h : SentInv S s) (regs : IngressRegs) {n : ℕ} (hn : s.expected ≤ n) :
    SentInv S { s with rxRegs := regs, expected := n } where
  storesLack := h.storesLack
  sent := h.sent
  monotone := h.monotone
  pending := h.pending
  below := ⟨h.below.1.trans hn, fun p hp => (h.below.2 p hp).trans hn⟩
  lackAhead := h.lackAhead
  notifyAhead := h.notifyAhead

/-- An arrival puts its report at the end of one queue. -/
lemma QueuesInv.enqueue (h : QueuesInv S s) {regs : IngressRegs} {n a : ℕ} {m : Option IgMirror}
    (hn : s.expected ≤ n) (hm : ∀ m' ∈ m, s.expected ≤ a ∧ a < n ∧ Accounts S a m') :
    QueuesInv S ({ s with rxRegs := regs, expected := n }.enqueue a m) := by
  obtain ⟨h₁, h₂, h₃, h₄, h₅⟩ := h.expect regs hn
  have hlack : ∀ u ∈ s.lackQueue, u.place < s.generated ∧ u.num < s.expected :=
    fun u hu => ⟨(h.lack u hu).1, (h.lack u hu).2.1⟩
  have hnotify : ∀ r ∈ s.notifyQueue, r.place < s.generated ∧ r.num < s.expected :=
    fun r hr => ⟨(h.notify r hr).1, (h.notify r hr).2.1⟩
  -- the entry is the youngest of all: it is behind both queues, in place and in number
  rcases m with _ | u | r
  · exact ⟨h₁, h₂, h₃, h₄, h₅⟩
  · obtain ⟨hge, hlt, hacc⟩ := hm _ rfl
    refine ⟨?_, ?_, ?_, h₄, ?_⟩
    · intro v hv
      rcases List.mem_append.mp hv with hv | hv
      · exact ⟨Nat.lt_succ_of_lt (h₁ v hv).1, (h₁ v hv).2⟩
      · rw [List.mem_singleton.mp hv]
        exact ⟨Nat.lt_succ_self _, hlt, hacc⟩
    · exact fun r hr => ⟨Nat.lt_succ_of_lt (h₂ r hr).1, (h₂ r hr).2⟩
    · refine List.pairwise_append.mpr ⟨h₃, List.pairwise_singleton _ _, fun v hv w hw => ?_⟩
      have := hlack v hv
      rw [List.mem_singleton.mp hw]
      exact ⟨this.1, by change v.num ≤ a; omega⟩
    · intro v hv r hr
      rcases List.mem_append.mp hv with hv | hv
      · exact h₅ v hv r hr
      · have := hnotify r hr
        rw [List.mem_singleton.mp hv]
        exact ⟨fun hc => absurd hc (by change ¬ s.generated < r.place; omega),
          fun _ => by change r.num ≤ a; omega⟩
  · obtain ⟨hge, hlt, hacc⟩ := hm _ rfl
    refine ⟨?_, ?_, h₃, ?_, ?_⟩
    · exact fun v hv => ⟨Nat.lt_succ_of_lt (h₁ v hv).1, (h₁ v hv).2⟩
    · intro v hv
      rcases List.mem_append.mp hv with hv | hv
      · exact ⟨Nat.lt_succ_of_lt (h₂ v hv).1, (h₂ v hv).2⟩
      · rw [List.mem_singleton.mp hv]
        exact ⟨Nat.lt_succ_self _, hlt, hacc⟩
    · refine List.pairwise_append.mpr ⟨h₄, List.pairwise_singleton _ _, fun v hv w hw => ?_⟩
      have := hnotify v hv
      rw [List.mem_singleton.mp hw]
      exact ⟨this.1, by change v.num ≤ a; omega⟩
    · intro u hu v hv
      rcases List.mem_append.mp hv with hv | hv
      · exact h₅ u hu v hv
      · have := hlack u hu
        rw [List.mem_singleton.mp hv]
        exact ⟨fun _ => by change u.num ≤ a; omega,
          fun hc => absurd hc (by change ¬ s.generated < u.place; omega)⟩

lemma SentInv.enqueue (h : SentInv S s) {regs : IngressRegs} {n a : ℕ} {m : Option IgMirror}
    (hn : s.expected ≤ n) (hm : ∀ m' ∈ m, s.expected ≤ a) :
    SentInv S ({ s with rxRegs := regs, expected := n }.enqueue a m) := by
  obtain ⟨h₁, h₂, h₃, h₄, h₅, h₆, h₇⟩ := h.expect regs hn
  rcases m with _ | u | r
  · exact ⟨h₁, h₂, h₃, h₄, h₅, h₆, h₇⟩
  · have hge := hm _ rfl
    refine ⟨h₁, h₂, h₃, h₄, h₅, fun v hv => ?_, h₇⟩
    rcases List.mem_append.mp hv with hv | hv
    · exact h₆ v hv
    · rw [List.mem_singleton.mp hv]
      exact ⟨h.below.1.trans hge, fun p hp => (h.below.2 p hp).trans hge⟩
  · have hge := hm _ rfl
    refine ⟨h₁, h₂, h₃, h₄, h₅, h₆, fun v hv => ?_⟩
    rcases List.mem_append.mp hv with hv | hv
    · exact h₇ v hv
    · rw [List.mem_singleton.mp hv]
      exact ⟨h.below.1.trans hge, fun p hp => (h.below.2 p hp).trans hge⟩

lemma enqueue_keeps (s : State) (a : ℕ) (m : Option IgMirror) :
    (s.enqueue a m).rxRegs = s.rxRegs ∧ (s.enqueue a m).expected = s.expected := by
  rcases m with _ | u | r <;> exact ⟨rfl, rfl⟩

lemma Inv.arrive (h : Inv S s) {p : Packet} (hp : p.Ok) (hle : s.expected ≤ p.num) :
    Inv S ({ s with rxRegs := (rxPass S.link s.rxRegs p).regs, expected := p.next }.enqueue
      p.accounted (rxPass S.link s.rxRegs p).mirrorEmit) := by
  have hnext : s.expected ≤ p.next := by
    unfold Packet.next
    split <;> omega
  have hm : ∀ m ∈ (rxPass S.link s.rxRegs p).mirrorEmit,
      s.expected ≤ p.accounted ∧ p.accounted < p.next ∧ Accounts S p.accounted m :=
    fun m hm => rxPass_mirrors hp h.rx hle hm
  refine ⟨?_, h.queues.enqueue hnext hm, h.reports.enqueue hnext fun m' hm' => (hm m' hm').1⟩
  obtain ⟨hregs, hexp⟩ := enqueue_keeps
    { s with rxRegs := (rxPass S.link s.rxRegs p).regs, expected := p.next } p.accounted
    (rxPass S.link s.rxRegs p).mirrorEmit
  rw [hregs, hexp]
  exact rxPass_next hp

lemma Inv.lackUpdate (h : Inv S s) {u : Queued IgMirrorLackUpdate}
    {us : List (Queued IgMirrorLackUpdate)} (hq : s.lackQueue = u :: us)
    (hG : ∀ r ∈ s.notifyQueue.head?, u.place < r.place) :
    Inv S { s with
      egRegs := (lackUpdatePass S s.egRegs u.mirror).regs, lackQueue := us, recorded := u.num
      sent := s.sent ++ reportIn u.num (lackUpdatePass S s.egRegs u.mirror) } := by
  obtain ⟨q₁, q₂, q₃, q₄, q₅⟩ := h.queues
  obtain ⟨h₁, h₂, h₃, h₄, h₅, h₆, h₇⟩ := h.reports
  rw [hq] at q₁ q₃ q₅ h₆
  obtain ⟨-, hlt, hport, hden⟩ := q₁ u List.mem_cons_self
  obtain ⟨hfirst, hrest⟩ := List.pairwise_cons.mp q₃
  obtain ⟨hstore, hsilent⟩ := lackUpdatePass_spec s.egRegs hport hden
  obtain ⟨hrec, hsent⟩ := h₆ u List.mem_cons_self
  -- the update comes before every notification in the queue
  have hbefore : ∀ r ∈ s.notifyQueue, u.num ≤ r.num := by
    intro r hr
    refine (q₅ u List.mem_cons_self r hr).1 ?_
    cases hn : s.notifyQueue with
    | nil => rw [hn] at hr; exact absurd hr List.not_mem_nil
    | cons r₀ rs =>
      have h0 := hG r₀ (by rw [hn]; rfl)
      rw [hn] at hr q₄
      rcases List.mem_cons.mp hr with rfl | hr
      · exact h0
      · exact h0.trans ((List.pairwise_cons.mp q₄).1 r hr).1
  rw [hsilent, List.append_nil]
  refine ⟨h.rx, ⟨fun v hv => q₁ v (List.mem_cons_of_mem u hv), q₂, hrest, q₄,
    fun v hv => q₅ v (List.mem_cons_of_mem u hv)⟩, hstore, h₂, h₃, fun _ => hsent,
    ⟨hlt.le, h₅.2⟩, ?_, ?_⟩
  · exact fun v hv => ⟨(hfirst v hv).2, (h₆ v (List.mem_cons_of_mem u hv)).2⟩
  · exact fun r hr => ⟨hbefore r hr, (h₇ r hr).2⟩

/-- A report sent at number `n`, ahead of which nothing waits, keeps the order. -/
lemma monotone_snoc {sent : List (ℕ × LinkradarLack)} {n : ℕ} {lack : LinkradarLack}
    (h : (sent.map Prod.fst).Pairwise (· ≤ ·)) (hn : ∀ p ∈ sent, p.1 ≤ n) :
    ((sent ++ [(n, lack)]).map Prod.fst).Pairwise (· ≤ ·) := by
  rw [List.map_append]
  refine List.pairwise_append.mpr ⟨h, List.pairwise_singleton _ _, fun a ha b hb => ?_⟩
  obtain ⟨p, hp, rfl⟩ := List.mem_map.mp ha
  rw [List.map_singleton, List.mem_singleton] at hb
  rw [hb]
  exact hn p hp

lemma forall_mem_snoc {sent : List (ℕ × LinkradarLack)} {q : ℕ × LinkradarLack}
    {P : ℕ × LinkradarLack → Prop} (h : ∀ p ∈ sent, P p) (hq : P q) : ∀ p ∈ sent ++ [q], P p := by
  intro p hp
  rcases List.mem_append.mp hp with hp | hp
  · exact h p hp
  · rw [List.mem_singleton.mp hp]
    exact hq

lemma Inv.lossNotification (h : Inv S s) {r : Queued IgMirrorLossNotification}
    {rs : List (Queued IgMirrorLossNotification)} {hdr : Hdr} (hq : s.notifyQueue = r :: rs)
    (hG : ∀ u ∈ s.lackQueue.head?, r.place < u.place) :
    Inv S { s with
      egRegs := (notificationPass S s.egRegs r.mirror hdr).regs, notifyQueue := rs
      sent := s.sent ++ reportIn r.num (notificationPass S s.egRegs r.mirror hdr) } := by
  obtain ⟨q₁, q₂, q₃, q₄, q₅⟩ := h.queues
  obtain ⟨h₁, h₂, h₃, h₄, h₅, h₆, h₇⟩ := h.reports
  rw [hq] at q₂ q₄ q₅ h₇
  obtain ⟨-, hlt, hden⟩ := q₂ r List.mem_cons_self
  obtain ⟨hfirst, hrest⟩ := List.pairwise_cons.mp q₄
  obtain ⟨hstore, hzero, lack, hreport, hlack⟩ :=
    notificationPass_spec hdr hden h₁
  obtain ⟨hrec, hsent⟩ := h₇ r List.mem_cons_self
  -- the notification comes before every update in the queue
  have hbefore : ∀ u ∈ s.lackQueue, r.num ≤ u.num := by
    intro u hu
    refine (q₅ u hu r List.mem_cons_self).2 ?_
    cases hn : s.lackQueue with
    | nil => rw [hn] at hu; exact absurd hu List.not_mem_nil
    | cons u₀ us =>
      have h0 := hG u₀ (by rw [hn]; rfl)
      rw [hn] at hu q₃
      rcases List.mem_cons.mp hu with rfl | hu
      · exact h0
      · exact h0.trans ((List.pairwise_cons.mp q₃).1 u hu).1
  rw [hreport]
  -- nothing is pending behind a notification, so that what is in the register need not be ahead of
  -- it
  refine ⟨h.rx, ⟨q₁, fun v hv => q₂ v (List.mem_cons_of_mem r hv), q₃, hrest,
    fun u hu v hv => q₅ u hu v (List.mem_cons_of_mem r hv)⟩, hstore, forall_mem_snoc h₂ hlack,
    monotone_snoc h₃ hsent, fun hp => ?_, ⟨h₅.1, forall_mem_snoc h₅.2 hlt.le⟩, ?_, ?_⟩
  · rw [hzero] at hp
    exact absurd hp (by decide)
  · exact fun u hu => ⟨(h₆ u hu).1, forall_mem_snoc (h₆ u hu).2 (hbefore u hu)⟩
  · intro v hv
    have hv' := h₇ v (List.mem_cons_of_mem r hv)
    exact ⟨hv'.1, forall_mem_snoc hv'.2 (hfirst v hv).2⟩

lemma Inv.packet (h : Inv S s) {hdr : Hdr} (hb : hdr.linkradarRxBuffered.valid = false)
    (hp : hdr.etherPfc.valid = false) :
    Inv S { s with
      egRegs := (packetPass S s.egRegs hdr).regs
      sent := s.sent ++ reportIn s.recorded (packetPass S s.egRegs hdr) } := by
  obtain ⟨h₁, h₂, h₃, h₄, h₅, h₆, h₇⟩ := h.reports
  obtain ⟨hstore, ⟨hpos, lack, hreport, hlack⟩ | ⟨-, hzero, hsilent⟩⟩ := packetPass_spec hb hp h₁
  · have hsent := h₄ hpos
    rw [hreport]
    exact ⟨h.rx, ⟨h.queues.lack, h.queues.notify, h.queues.lackOrder, h.queues.notifyOrder,
      h.queues.crossed⟩, hstore, forall_mem_snoc h₂ hlack, monotone_snoc h₃ hsent,
      fun _ => forall_mem_snoc hsent (le_refl _), ⟨h₅.1, forall_mem_snoc h₅.2 h₅.1⟩,
      fun u hu => ⟨(h₆ u hu).1, forall_mem_snoc (h₆ u hu).2 (h₆ u hu).1⟩,
      fun r hr => ⟨(h₇ r hr).1, forall_mem_snoc (h₇ r hr).2 (h₇ r hr).1⟩⟩
  · rw [hsilent, List.append_nil]
    refine ⟨h.rx, ⟨h.queues.lack, h.queues.notify, h.queues.lackOrder, h.queues.notifyOrder,
      h.queues.crossed⟩, hstore, h₂, h₃, fun hpos => ?_, h₅, h₆, h₇⟩
    rw [hzero] at hpos
    exact absurd hpos (by decide)

/-- **Step lemma.** -/
theorem inv_step {e : Event} (h : Inv S s) (hG : InGenerationOrder s e)
    (hs : step S s e = some s') : Inv S s' := by
  cases e with
  | arrive p =>
    simp only [step, Option.ite_none_right_eq_some, Option.some_inj] at hs
    obtain ⟨⟨hp, hle⟩, rfl⟩ := hs
    exact h.arrive hp hle
  | lackUpdate =>
    simp only [step] at hs
    split at hs
    · cases hs
    · rename_i u us hq
      rw [Option.some_inj] at hs
      rw [← hs]
      exact h.lackUpdate hq fun r hr => hG u (by rw [hq]; rfl) r hr
  | lossNotification hdr =>
    simp only [step] at hs
    split at hs
    · cases hs
    · rename_i r rs hq
      rw [Option.some_inj] at hs
      rw [← hs]
      exact h.lossNotification hq fun u hu => hG r (by rw [hq]; rfl) u hu
  | packet hdr =>
    simp only [step, Option.ite_none_right_eq_some, Option.some_inj] at hs
    obtain ⟨⟨hb, hp⟩, rfl⟩ := hs
    exact h.packet hb hp

/-! ## Whole runs -/

/-- **Reports never go backwards while the queues are served in the order of generation.**
Every packet that leaves towards the sender with a report carries the pair of its number, and
the numbers form a non-decreasing sequence. -/
theorem reports_monotone (S : Setup) (es : List Event) (s : State)
    (hrun : run (step S) (init S) es = some s)
    (hG : Along (step S) InGenerationOrder (init S) es) :
    (∀ p ∈ s.sent, LackDenotes p.2.leadingAck p.2.era p.1) ∧
      (s.sent.map Prod.fst).Pairwise (· ≤ ·) := by
  have h := run_invariant_along (fun _ _ _ h hG hs => inv_step h hG hs) (inv_init S) hG hrun
  exact ⟨h.reports.sent, h.reports.monotone⟩

/-- Port 36 of the receiver, where two packets report every leading ack. -/
def reports36 : Setup where
  link := link36
  egTables :=
    { getLeadingAckNotifyMaxCount := fun p => if p = 36 then some 2 else none
      getCourierPktMirrorSession := fun p => if p = 36 then some 200 else none
      addPfcC1Quanta := fun _ => none }

/-- Data packet `n` as it arrives. -/
def dataPacket (n : ℕ) : Packet where
  num := n
  ethernet := ⟨0, 0, EtherType.linkradar⟩
  data :=
    { type := linkradarHdrTypeData
      pad := 0
      era := era 16 n
      reTx := 0
      dummy := 0
      blockingMode := 1
      rxBuffered := 0
      seqNo := wire 16 n }
  dropped := false

/-- A courier in its loop at the receiver. -/
def courierHdr : Hdr :=
  { (default : Hdr) with linkradarLack := .of ⟨linkradarHdrTypeLack, 0, 0, 0, 0⟩ }

/-- Packet 0 is reported by its lack update, then packet 2 by the notification about packet 1. -/
theorem reports_monotone_one_loss :
    ∃ s, run (step reports36) (init reports36)
        [.arrive (dataPacket 0), .arrive (dataPacket 2), .lackUpdate, .packet courierHdr,
          .lossNotification default, .packet courierHdr] = some s ∧
      s.sent.map Prod.fst = [0, 2] ∧ (s.sent.map Prod.fst).Pairwise (· ≤ ·) := by
  have hrun : (run (step reports36) (init reports36)
      [.arrive (dataPacket 0), .arrive (dataPacket 2), .lackUpdate, .packet courierHdr,
        .lossNotification default, .packet courierHdr]).any
      (fun s => decide (s.sent.map Prod.fst = [0, 2])) := by decide +kernel
  obtain ⟨s, hs, hsent⟩ := (Option.any_eq_true _ _).mp hrun
  exact ⟨s, hs, of_decide_eq_true hsent,
    (reports_monotone reports36 _ s hs (by decide +kernel)).2⟩

/-- **An overtaken lack update makes the reports go backwards**: the notification about packet 1
leaves first with number 2 and clears the count, then the older update of packet 0 sets it
again, and the next courier reports 0. -/
theorem overtaken_update_reported :
    ∃ s, run (step reports36) (init reports36)
        [.arrive (dataPacket 0), .arrive (dataPacket 2), .lossNotification default, .lackUpdate,
          .packet courierHdr] = some s ∧
      s.sent.map (fun p => (p.1, p.2.leadingAck, p.2.era)) = [(2, 2, 0), (0, 0, 0)] ∧
      ¬ (s.sent.map Prod.fst).Pairwise (· ≤ ·) := by
  have hrun : (run (step reports36) (init reports36)
      [.arrive (dataPacket 0), .arrive (dataPacket 2), .lossNotification default, .lackUpdate,
        .packet courierHdr]).any (fun s => decide (
          s.sent.map (fun p => (p.1, p.2.leadingAck, p.2.era)) = [(2, 2, 0), (0, 0, 0)] ∧
          ¬ (s.sent.map Prod.fst).Pairwise (· ≤ ·))) := by decide +kernel
  obtain ⟨s, hs, hsent⟩ := (Option.any_eq_true _ _).mp hrun
  exact ⟨s, hs, of_decide_eq_true hsent⟩

end LinkGuardian.LackReports
