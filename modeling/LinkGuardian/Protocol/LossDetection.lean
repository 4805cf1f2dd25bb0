import LinkGuardian.Dataplane.Receiver.IngressSpec
import LinkGuardian.Dataplane.Sender.EgressSpec
import LinkGuardian.Library.Execution
import LinkGuardian.Protocol.Numbering

/-!
# Loss detection on a protected link

The egress of the sender, a first-in first-out link that loses packets, and the hole detection
at the ingress of the receiver, for one protected port.  Packets on the link are tagged with
their number: the count of data packets stamped before them, which for a dummy is the number
of the next data packet.  The link records the fate of every packet in order, and the reports
of the receiver are tagged with the number that was expected and the highest one accounted for.

`Ledger` is the abstract account of what has become of every number below the expected one, and
`loss_detection_exact` what the notifications make of it over whole runs.

The conditions of a run are on what the link loses, never on what the two switches do.  Hole
detection computes with 16-bit numbers, so that a gap of 65536 packets looks like none:
`LossBound 65536` is the one assumption that the exact account needs, and it is made step by step,
on the state before a loss.
-/

namespace LinkGuardian.Link

open P4 SerialNumber Execution

/-! ## The system -/

/-- A protected port at the sender and its counterpart at the receiver.  The fields after the tables
are what `enable_protection` and the port metadata of the receiver provide. -/
structure Setup where
  txTables : Sender.EgressTables
  egressPort : PortId
  params : Sender.ProtectParams
  rxTables : Receiver.IngressTables
  rxPortMd : Receiver.PortMetadata
  linkProtect : txTables.linkProtect egressPort = some params
  copyPktForBuffering : (txTables.copyPktForBuffering egressPort).isSome
  filterViaLpbk : rxPortMd.filterViaLpbk = 0
  protect : rxPortMd.protect = 1
  generateLossNotification : (rxTables.generateLossNotification rxPortMd.origIgPort).isSome

/-- The register index of the port at the sender. -/
def Setup.txPort (S : Setup) : BitVec 8 := S.egressPort.setWidth 8

/-- The register index of the port at the receiver. -/
def Setup.rxPort (S : Setup) : BitVec 8 := S.rxPortMd.origIgPort.setWidth 8

/-- A packet as it leaves the sender.  The number is a ghost, which the headers carry only modulo
the range. -/
structure Packet where
  num : ℕ
  ethernet : Ethernet
  data : LinkradarData
  /-- dropped at the egress of the sender (emulated corruption): it can only be lost -/
  dropped : Bool
deriving DecidableEq, Repr

def Packet.isData (p : Packet) : Bool := p.data.dummy = 0

/-- The number that follows a packet: dummies do not use one up. -/
def Packet.next (p : Packet) : ℕ := if p.isData then p.num + 1 else p.num

/-- The highest number that a packet accounts for: its own, or for a dummy the one before. -/
def Packet.accounted (p : Packet) : ℕ := if p.isData then p.num else p.num - 1

/-- A report of the receiver: what was mirrored, the number that was expected, and the packet that
triggered it.  Only the mirror header is on the wire; the other two say what it is about. -/
structure Report where
  mirror : Receiver.IgMirror
  first : ℕ
  trigger : Packet
deriving DecidableEq, Repr

structure State where
  txRegs : Sender.EgressRegs
  /-- the number of data packets stamped -/
  stamped : ℕ
  /-- every packet that left the sender -/
  sent : List Packet
  /-- the packets in flight, oldest first -/
  link : List Packet
  /-- the packets that left the link, in order, and whether they were delivered -/
  fates : List (Packet × Bool)
  rxRegs : Receiver.IngressRegs
  expected : ℕ
  /-- the number of data packets lost since the last delivery -/
  lostRun : ℕ
  reports : List Report

/-- Power-on. -/
def init (S : Setup) : State where
  txRegs := .init
  stamped := 0
  sent := []
  link := []
  fates := []
  rxRegs := .init S.rxTables.timeoutVal100ns
  expected := 0
  lostRun := 0
  reports := []

inductive Event
  /-- a normal packet passes the egress of the sender -/
  | data (hdr : Sender.Hdr) (deqQdepth : BitVec 19) (random : BitVec 8)
  /-- a dummy passes the egress of the sender -/
  | dummy (hdr : Sender.Hdr)
  /-- the link loses its oldest packet -/
  | lose
  /-- the oldest packet arrives at the receiver -/
  | arrive

/-- A dummy in its loop at the sender. -/
structure IsDummy (hdr : Sender.Hdr) : Prop where
  linkradarData : hdr.linkradarData.valid = true
  dummy : hdr.linkradarData.fields.dummy = 1
  reTx : hdr.linkradarData.fields.reTx = 0

instance (hdr : Sender.Hdr) : Decidable (IsDummy hdr) :=
  decidable_of_iff (hdr.linkradarData.valid = true ∧ hdr.linkradarData.fields.dummy = 1 ∧
      hdr.linkradarData.fields.reTx = 0)
    ⟨fun ⟨h₁, h₂, h₃⟩ => ⟨h₁, h₂, h₃⟩, fun ⟨h₁, h₂, h₃⟩ => ⟨h₁, h₂, h₃⟩⟩

/-- The egress pass of a packet at the sender. -/
def txPass (S : Setup) (regs : Sender.EgressRegs) (hdr : Sender.Hdr) (deqQdepth : BitVec 19)
    (random : BitVec 8) : Sender.Egress :=
  (Sender.Egress.start regs S.egressPort deqQdepth random hdr (.ofHdr hdr)).apply S.txTables

/-- The packet that a context puts on the wire, numbered `num`. -/
def onWire (num : ℕ) (c : Sender.Egress) : Packet where
  num := num
  ethernet := c.hdr.ethernet.fields
  data := c.hdr.linkradarData.fields
  dropped := decide (c.dropCtl ≠ 0)

/-- The headers that the receiver parses off a packet of the link. -/
def Packet.rxHdr (p : Packet) : Receiver.Hdr :=
  { (default : Receiver.Hdr) with ethernet := .of p.ethernet, linkradarData := .of p.data }

/-- The ingress pass of a packet at the receiver. -/
def rxPass (S : Setup) (regs : Receiver.IngressRegs) (p : Packet) : Receiver.Ingress :=
  (Receiver.Ingress.start regs S.rxPortMd 0 p.rxHdr).apply S.rxTables

def step (S : Setup) (s : State) : Event → Option State
  | .data hdr deqQdepth random =>
    if hdr.linkradarData.valid = false then
      let c := txPass S s.txRegs hdr deqQdepth random
      some { s with
        txRegs := c.regs
        stamped := s.stamped + 1
        sent := s.sent ++ [onWire s.stamped c]
        link := s.link ++ [onWire s.stamped c] }
    else none
  | .dummy hdr =>
    if IsDummy hdr then
      let c := txPass S s.txRegs hdr 0 0
      if c.dropCtl = 0 then
        some { s with
          txRegs := c.regs
          sent := s.sent ++ [onWire s.stamped c]
          link := s.link ++ [onWire s.stamped c] }
      else some { s with txRegs := c.regs }
    else none
  | .lose =>
    match s.link with
    | [] => none
    | p :: ps => some { s with
        link := ps
        fates := s.fates ++ [(p, false)]
        lostRun := if p.isData then s.lostRun + 1 else s.lostRun }
  | .arrive =>
    match s.link with
    | [] => none
    | p :: ps =>
      if p.dropped then none
      else
        let c := rxPass S s.rxRegs p
        some { s with
          link := ps
          fates := s.fates ++ [(p, true)]
          rxRegs := c.regs
          expected := p.next
          lostRun := 0
          reports := s.reports ++
            (c.mirrorEmit.map fun m => (⟨m, s.expected, p⟩ : Report)).toList }

/-- Fewer than `bound` data packets in a row are lost.  It restricts the step that loses a packet,
and no other. -/
def LossBound (bound : ℕ) (s : State) : Event → Prop
  | .lose => ∀ p ∈ s.link.head?, p.isData = true → s.lostRun + 1 < bound
  | _ => True

instance (bound : ℕ) (s : State) : DecidablePred (LossBound bound s)
  | .lose => inferInstanceAs
      (Decidable (∀ p ∈ s.link.head?, p.isData = true → s.lostRun + 1 < bound))
  | .data _ _ _ | .dummy _ | .arrive => isTrue trivial

/-! ## Single passes -/

variable {S : Setup} {s s' : State}

/-- A data packet leaves with the pair of its number, and the registers move on. -/
lemma txPass_data {regs : Sender.EgressRegs} {n : ℕ} {hdr : Sender.Hdr} {q : BitVec 19}
    {r : BitVec 8} (hn : hdr.linkradarData.valid = false)
    (h : Denotes (regs.regSeqNo S.txPort) (regs.regEra S.txPort) n) :
    (onWire n (txPass S regs hdr q r)).isData = true ∧
      (onWire n (txPass S regs hdr q r)).data.reTx = 0 ∧
      Carries (onWire n (txPass S regs hdr q r)).data n ∧
      Denotes ((txPass S regs hdr q r).regs.regSeqNo S.txPort)
        ((txPass S regs hdr q r).regs.regEra S.txPort) (n + 1) := by
  have hstamp := Sender.Egress.normal_pass (t := S.txTables)
    (c := .start regs S.egressPort q r hdr (.ofHdr hdr)) hn S.linkProtect
  have hw : (onWire n (txPass S regs hdr q r)).data =
      Sender.Egress.nextStamp regs S.txPort S.params := congrArg Header.fields hstamp.linkradarData
  refine ⟨?_, ?_, h.carries_of_stamps hstamp, h.succ_of_stamps hstamp⟩
  · rw [Packet.isData, hw]; rfl
  · rw [hw]; rfl

/-- A dummy leaves with the pair of the next number, and the registers stay. -/
lemma txPass_dummy {regs : Sender.EgressRegs} {n : ℕ} {hdr : Sender.Hdr} (hd : IsDummy hdr)
    (h : Denotes (regs.regSeqNo S.txPort) (regs.regEra S.txPort) n) :
    (onWire n (txPass S regs hdr 0 0)).isData = false ∧
      (onWire n (txPass S regs hdr 0 0)).data.reTx = 0 ∧
      Carries (onWire n (txPass S regs hdr 0 0)).data n ∧
      Denotes ((txPass S regs hdr 0 0).regs.regSeqNo S.txPort)
        ((txPass S regs hdr 0 0).regs.regEra S.txPort) n := by
  obtain ⟨hdata, -, hseq, hera⟩ := Sender.Egress.dummy_pass (t := S.txTables)
    (c := .start regs S.egressPort 0 0 hdr (.ofHdr hdr)) hd.linkradarData rfl hd.dummy
  have hw : (onWire n (txPass S regs hdr 0 0)).data = { hdr.linkradarData.fields with
      seqNo := regs.regSeqNo S.txPort, era := (regs.regEra S.txPort).setWidth 1 } :=
    congrArg Header.fields hdata
  refine ⟨?_, ?_, ?_, ?_⟩
  · rw [Packet.isData, hw, hd.dummy]; rfl
  · rw [hw]; exact hd.reTx
  · rw [hw]; exact ⟨h.seqNo_eq, h.era_eq⟩
  · change (txPass S regs hdr 0 0).regs.regSeqNo = regs.regSeqNo at hseq
    change (txPass S regs hdr 0 0).regs.regEra = regs.regEra at hera
    rw [hseq, hera]
    exact h

/-! ## The report of one arrival -/

def Report.isNotification (r : Report) : Bool :=
  match r.mirror with
  | .lossNotification _ => true
  | .lackUpdate _ => false

/-- The number that a report accounts for. -/
def Report.accounted (r : Report) : ℕ := r.trigger.accounted

/-- The numbers a report announces as lost. -/
def Report.covers (r : Report) (n : ℕ) : Bool :=
  match r.mirror with
  | .lossNotification h => decide (r.first ≤ n ∧ n < r.first + h.holeSize.toNat)
  | .lackUpdate _ => false

/-- The leading ack of a report denotes the highest number accounted for, and a notification
announces the numbers from the expected one up to the packet that triggered it.  This ties the
16-bit fields of the mirror header to the numbers behind them, and is all that the sender side uses
of a report. -/
def Report.Exact (r : Report) : Prop :=
  match r.mirror with
  | .lackUpdate h =>
    h.leadingAck = wire 16 r.trigger.accounted ∧ h.leadingAckEra = era 16 r.trigger.accounted
  | .lossNotification h =>
    h.leadingAck = wire 16 r.trigger.accounted ∧ h.leadingAckEra = era 16 r.trigger.accounted ∧
      h.firstLostSeqNo = wire 16 r.first ∧ r.first + h.holeSize.toNat = r.trigger.num

/-- A packet fit to arrive: it carries its number and is no retransmission. -/
structure Packet.Ok (p : Packet) : Prop where
  carries : Carries p.data p.num
  reTx : p.data.reTx = 0

/-- The number just before one that a header carries, as hole detection computes it. -/
lemma accounted_eq {p : Packet} (hp : p.Ok) (hpos : p.isData = true ∨ 0 < p.num) :
    Receiver.Ingress.accountedSeqNo p.data = wire 16 p.accounted ∧
      Receiver.Ingress.accountedEra p.data = era 16 p.accounted := by
  unfold Receiver.Ingress.accountedSeqNo Receiver.Ingress.accountedEra Packet.accounted
  by_cases hd : p.data.dummy = 0
  · have hdata : p.isData = true := by simpa [Packet.isData] using hd
    rw [if_pos hd, if_pos hdata, if_neg (fun h => h.1 hd)]
    exact ⟨hp.carries.seqNo_eq, hp.carries.era_eq⟩
  · have hdata : p.isData = false := by simpa [Packet.isData] using hd
    have hpos : 0 < p.num := by
      rcases hpos with h | h
      · rw [hdata] at h; cases h
      · exact h
    obtain ⟨k, hk⟩ : ∃ k, p.num = k + 1 := ⟨p.num - 1, by omega⟩
    rw [if_neg hd, hdata, hp.carries.seqNo_eq, hp.carries.era_eq, hk]
    simp only [Bool.false_eq_true, if_false, Nat.add_sub_cancel]
    refine ⟨wire_sub (m := 1) (n := k + 1) (by omega), ?_⟩
    by_cases hwrap : wire 16 (k + 1) = 0
    · rw [if_pos ⟨hd, hwrap⟩, era_succ_of_eq ((wire_succ_eq_zero_iff 16 k).mp hwrap)]
      simp
    · rw [if_neg (fun h => hwrap h.2), era_succ_of_ne]
      exact fun h => hwrap ((wire_succ_eq_zero_iff 16 k).mpr h)

/-- What an arrival does to the expected number, and what it mirrors. -/
lemma rxPass_eq {regs : Receiver.IngressRegs} {p : Packet} (hp : p.Ok) :
    (rxPass S regs p).regs.regExpectedSeqNo =
        regs.regExpectedSeqNo.write S.rxPort (Receiver.Ingress.nextExpected p.data) ∧
      (rxPass S regs p).mirrorEmit =
        Receiver.Ingress.reportOf S.rxPort (regs.regExpectedSeqNo S.rxPort) p.data := by
  have hprot : (Receiver.Ingress.start regs S.rxPortMd 0 p.rxHdr).IsProtected :=
    ⟨rfl, S.filterViaLpbk, S.protect, rfl, hp.reTx⟩
  exact hprot.pass_eq (t := S.rxTables) rfl S.generateLossNotification

/-- The expected number follows every packet from the link, original or dummy, whether it revealed a
hole or not. -/
lemma rxPass_next {regs : Receiver.IngressRegs} {p : Packet} (hp : p.Ok) :
    (rxPass S regs p).regs.regExpectedSeqNo S.rxPort = wire 16 p.next := by
  rw [(rxPass_eq hp).1, Register.write_same, Receiver.Ingress.nextExpected, Packet.next,
    Packet.isData, hp.carries.seqNo_eq, wire_succ]
  by_cases hd : p.data.dummy = 0
  · rw [if_pos hd, if_pos (decide_eq_true hd)]
  · rw [if_neg hd, if_neg (by simpa using hd)]

/-- **One arrival**: a report is mirrored exactly for data packets and for dummies behind a
gap. -/
lemma rxPass_spec {regs : Receiver.IngressRegs} {E : ℕ} {p : Packet} (hp : p.Ok)
    (hE : regs.regExpectedSeqNo S.rxPort = wire 16 E) (hle : E ≤ p.num)
    (hgap : p.num - E < 65536) :
    match (rxPass S regs p).mirrorEmit with
      | none => p.isData = false ∧ E = p.num
      | some m => (⟨m, E, p⟩ : Report).Exact ∧
          (match m with
            | .lackUpdate _ => p.isData = true ∧ E = p.num
            | .lossNotification _ => E < p.num) := by
  rw [(rxPass_eq hp).2, hE, Receiver.Ingress.reportOf]
  have hdiff : (p.data.seqNo - wire 16 E).toNat = p.num - E := by
    rw [hp.carries.seqNo_eq]
    exact wire_sub_toNat hle hgap
  by_cases heq : E = p.num
  · have hzero : p.data.seqNo - wire 16 E = 0 := by
      apply BitVec.eq_of_toNat_eq
      rw [hdiff, heq]
      simp
    rw [if_neg (not_not.mpr hzero)]
    by_cases hd : p.data.dummy = 0
    · have hisData : p.isData = true := by simpa [Packet.isData] using hd
      rw [if_pos hd]
      refine ⟨?_, hisData, heq⟩
      simp only [Report.Exact, Packet.accounted, hisData, if_true]
      exact ⟨hp.carries.seqNo_eq, hp.carries.era_eq⟩
    · rw [if_neg hd]
      exact ⟨by simpa [Packet.isData] using hd, heq⟩
  · have hne : p.data.seqNo - wire 16 E ≠ 0 := by
      intro hc
      rw [hc] at hdiff
      simp at hdiff
      omega
    obtain ⟨hseq, hera⟩ := accounted_eq hp (Or.inr (by omega))
    rw [if_pos hne]
    refine ⟨⟨hseq, hera, rfl, ?_⟩, by omega⟩
    change E + (p.data.seqNo - wire 16 E).toNat = p.num
    rw [hdiff]
    omega

/-! ## The ledger -/

/-- The data numbers delivered in a stretch of fates. -/
def deliveredIn (fates : List (Packet × Bool)) : List ℕ :=
  (fates.filter fun f => f.2 && f.1.isData).map fun f => f.1.num

/-- The data numbers lost in a stretch of fates. -/
def lostIn (fates : List (Packet × Bool)) : List ℕ :=
  (fates.filter fun f => !f.2 && f.1.isData).map fun f => f.1.num

/-- Data number `n` was lost before some packet that was delivered. -/
def LostBefore (fates : List (Packet × Bool)) (n : ℕ) : Prop :=
  ∃ before after, fates = before ++ after ∧ n ∈ lostIn before ∧ ∃ q, (q, true) ∈ after

/-- Consecutive packets: each carries on the numbering, from `a` to `b`. -/
def Sequenced : ℕ → List Packet → ℕ → Prop
  | a, [], b => a = b
  | a, p :: ps, b => p.num = a ∧ Sequenced p.next ps b

/-- What has become of the numbers below the expected one, and what has been announced.  Each of
them was delivered or lost, and those between the last delivery and the oldest packet on the link
are all lost (`recent`): this is what makes the gap in front of a packet equal to what was really
lost there. -/
structure Ledger (s : State) : Prop where
  settled : ∀ n < s.expected, n ∈ deliveredIn s.fates ∨ n ∈ lostIn s.fates
  recent : ∀ n, s.expected ≤ n → n < s.expected + s.lostRun → n ∈ lostIn s.fates
  lost : ∀ n ∈ lostIn s.fates, n < s.expected + s.lostRun ∧ n ∉ deliveredIn s.fates
  delivered : ∀ n ∈ deliveredIn s.fates, n < s.expected
  covered : ∀ n, s.reports.countP (fun r => r.covers n) =
    if n < s.expected ∧ n ∈ lostIn s.fates then 1 else 0
  passed : ∀ n, LostBefore s.fates n → n < s.expected
  exact : ∀ r ∈ s.reports, r.Exact

/-- The number of data packets among some packets. -/
def dataCount (ps : List Packet) : ℕ := ps.countP Packet.isData

/-- What every step keeps: the registers of both ends denote the two counts, the packets from the
expected number to the next one to be stamped stand on the link in order, and the ledger is
right. -/
structure Inv (S : Setup) (s : State) : Prop where
  tx : Denotes (s.txRegs.regSeqNo S.txPort) (s.txRegs.regEra S.txPort) s.stamped
  stamped : s.stamped = dataCount s.sent
  sent : ∀ before p after, s.sent = before ++ p :: after → p.num = dataCount before ∧ p.Ok
  linkOk : ∀ p ∈ s.link, p.Ok
  sequenced : Sequenced (s.expected + s.lostRun) s.link s.stamped
  rx : s.rxRegs.regExpectedSeqNo S.rxPort = wire 16 s.expected
  lostRun : s.lostRun < 65536
  ledger : Ledger s

@[simp] lemma deliveredIn_append (f g : List (Packet × Bool)) :
    deliveredIn (f ++ g) = deliveredIn f ++ deliveredIn g := by simp [deliveredIn]

@[simp] lemma lostIn_append (f g : List (Packet × Bool)) :
    lostIn (f ++ g) = lostIn f ++ lostIn g := by simp [lostIn]

@[simp] lemma deliveredIn_lost (p : Packet) : deliveredIn [(p, false)] = [] := rfl

@[simp] lemma lostIn_delivered (p : Packet) : lostIn [(p, true)] = [] := rfl

lemma mem_deliveredIn_delivered (p : Packet) (n : ℕ) :
    n ∈ deliveredIn [(p, true)] ↔ p.isData = true ∧ n = p.num := by
  cases h : p.isData <;> simp [deliveredIn, h]

lemma mem_lostIn_lost (p : Packet) (n : ℕ) :
    n ∈ lostIn [(p, false)] ↔ p.isData = true ∧ n = p.num := by
  cases h : p.isData <;> simp [lostIn, h]

lemma sequenced_append {a b : ℕ} {ps : List Packet} {p : Packet} (h : Sequenced a ps b)
    (hp : p.num = b) : Sequenced a (ps ++ [p]) p.next := by
  induction ps generalizing a with
  | nil => exact ⟨hp.trans (Eq.symm h), rfl⟩
  | cons q qs ih => exact ⟨h.1, ih h.2⟩

/-- A later packet that is lost makes nothing pass. -/
lemma lostBefore_append_lost {fates : List (Packet × Bool)} {p : Packet} {n : ℕ}
    (h : LostBefore (fates ++ [(p, false)]) n) : LostBefore fates n := by
  obtain ⟨before, after, heq, hn, q, hq⟩ := h
  rcases List.eq_nil_or_concat after with rfl | ⟨after', x, rfl⟩
  · exact absurd hq List.not_mem_nil
  · rw [List.concat_eq_append, ← List.append_assoc] at heq
    obtain ⟨h1, h2⟩ := List.append_inj' heq rfl
    have hx : x = (p, false) := by simpa using h2.symm
    refine ⟨before, after', h1, hn, q, ?_⟩
    simpa [hx] using hq

/-- A delivery makes exactly the numbers lost so far pass. -/
lemma lostBefore_append_delivered {fates : List (Packet × Bool)} {p : Packet} {n : ℕ}
    (h : LostBefore (fates ++ [(p, true)]) n) : n ∈ lostIn fates := by
  obtain ⟨before, after, heq, hn, q, hq⟩ := h
  have hmem : n ∈ lostIn (fates ++ [(p, true)]) := by rw [heq]; simp [hn]
  simpa using hmem

/-! ## Steps -/

lemma ledger_init (S : Setup) : Ledger (init S) where
  settled := fun n hn => absurd hn (Nat.not_lt_zero n)
  recent := fun n _ hn => absurd hn (Nat.not_lt_zero n)
  lost := fun n hn => absurd hn List.not_mem_nil
  delivered := fun n hn => absurd hn List.not_mem_nil
  covered := fun n => by simp [init]
  passed := by
    rintro n ⟨before, after, heq, hn, -⟩
    have : before = [] := (List.append_eq_nil_iff.mp heq.symm).1
    rw [this] at hn
    exact absurd hn List.not_mem_nil
  exact := fun r hr => absurd hr List.not_mem_nil

lemma inv_init (S : Setup) : Inv S (init S) where
  tx := denotes_zero
  stamped := rfl
  sent := fun before p after h => by simp [init] at h
  linkOk := fun p hp => absurd hp List.not_mem_nil
  sequenced := rfl
  rx := (wire_zero 16).symm
  lostRun := by simp [init]
  ledger := ledger_init S

/-- The state after `p` has left the sender, with registers `regs` and `n` numbers stamped. -/
def State.afterSend (s : State) (regs : Sender.EgressRegs) (n : ℕ) (p : Packet) : State :=
  { s with txRegs := regs, stamped := n, sent := s.sent ++ [p], link := s.link ++ [p] }

/-- Sending a packet: the number carries on, and nothing else is touched. -/
lemma Inv.send (h : Inv S s) {p : Packet} {regs : Sender.EgressRegs} (hp : p.Ok)
    (hnum : p.num = s.stamped)
    (htx : Denotes (regs.regSeqNo S.txPort) (regs.regEra S.txPort) p.next) :
    Inv S (s.afterSend regs p.next p) where
  tx := htx
  stamped := by
    have hst := h.stamped
    simp only [State.afterSend, dataCount, List.countP_append, List.countP_singleton] at hst ⊢
    rw [Packet.next, hnum, ← hst]
    split <;> rfl
  sent := by
    intro before q after heq
    rcases List.eq_nil_or_concat after with rfl | ⟨after', x, rfl⟩
    · obtain ⟨h1, h2⟩ := List.append_inj' heq rfl
      have hq : p = q := by simpa using h2
      rw [← hq, ← h1, ← h.stamped]
      exact ⟨hnum, hp⟩
    · rw [List.concat_eq_append, ← List.cons_append, ← List.append_assoc] at heq
      exact h.sent before q after' (List.append_inj' heq rfl).1
  linkOk := by
    intro q hq
    rcases List.mem_append.mp hq with hq | hq
    · exact h.linkOk q hq
    · rw [List.mem_singleton.mp hq]
      exact hp
  sequenced := sequenced_append h.sequenced hnum
  rx := h.rx
  lostRun := h.lostRun
  ledger :=
    { settled := h.ledger.settled
      recent := h.ledger.recent
      lost := h.ledger.lost
      delivered := h.ledger.delivered
      covered := h.ledger.covered
      passed := h.ledger.passed
      exact := h.ledger.exact }

/-- The state after the link has lost its oldest packet `p`. -/
def State.afterLoss (s : State) (p : Packet) (ps : List Packet) : State :=
  { s with
    link := ps
    fates := s.fates ++ [(p, false)]
    lostRun := if p.isData then s.lostRun + 1 else s.lostRun }

lemma Ledger.lose (h : Ledger s) {p : Packet} {ps : List Packet}
    (hnum : p.num = s.expected + s.lostRun) : Ledger (s.afterLoss p ps) where
  settled := fun n hn => (h.settled n hn).imp
    (fun hd => by simpa [State.afterLoss] using hd) (fun hl => by simp [State.afterLoss, hl])
  recent := by
    intro n h₁ h₂
    simp only [State.afterLoss, lostIn_append, List.mem_append, mem_lostIn_lost] at h₂ ⊢
    split at h₂
    · rename_i hd
      rcases Nat.lt_or_ge n (s.expected + s.lostRun) with hlt | hge
      · exact Or.inl (h.recent n h₁ hlt)
      · exact Or.inr ⟨hd, by omega⟩
    · exact Or.inl (h.recent n h₁ h₂)
  lost := by
    intro n hn
    simp only [State.afterLoss, lostIn_append, List.mem_append, mem_lostIn_lost] at hn
    simp only [State.afterLoss, deliveredIn_append, deliveredIn_lost, List.append_nil]
    rcases hn with hn | ⟨hd, rfl⟩
    · obtain ⟨hlt, hnot⟩ := h.lost n hn
      exact ⟨by split <;> omega, hnot⟩
    · rw [if_pos hd]
      refine ⟨by omega, fun hdel => ?_⟩
      have := h.delivered _ hdel
      omega
  delivered := by
    intro n hn
    simp only [State.afterLoss, deliveredIn_append, deliveredIn_lost, List.append_nil] at hn
    exact h.delivered n hn
  covered := by
    intro n
    simp only [State.afterLoss, lostIn_append, List.mem_append, mem_lostIn_lost]
    rw [h.covered n]
    -- the number that is lost now is not below the expected one, and nothing has announced it
    have hiff : (n < s.expected ∧ (n ∈ lostIn s.fates ∨ p.isData = true ∧ n = p.num)) ↔
        (n < s.expected ∧ n ∈ lostIn s.fates) := by
      constructor
      · rintro ⟨hlt, hl | ⟨-, rfl⟩⟩
        · exact ⟨hlt, hl⟩
        · omega
      · rintro ⟨hlt, hl⟩
        exact ⟨hlt, Or.inl hl⟩
    simp only [hiff]
  passed := fun n hn => h.passed n (lostBefore_append_lost hn)
  exact := h.exact

lemma Inv.lose (h : Inv S s) {p : Packet} {ps : List Packet} (hlink : s.link = p :: ps)
    (hbound : p.isData = true → s.lostRun + 1 < 65536) : Inv S (s.afterLoss p ps) := by
  have hseq := h.sequenced
  rw [hlink] at hseq
  refine ⟨h.tx, h.stamped, h.sent, fun q hq => h.linkOk q (hlink ▸ List.mem_cons_of_mem p hq),
    ?_, h.rx, ?_, h.ledger.lose hseq.1⟩
  · have h2 := hseq.2
    rw [Packet.next, hseq.1] at h2
    simp only [State.afterLoss]
    split at h2
    · rename_i hd
      rw [if_pos hd, ← Nat.add_assoc]
      exact h2
    · rename_i hd
      rw [if_neg hd]
      exact h2
  · simp only [State.afterLoss]
    split
    · exact hbound ‹_›
    · exact h.lostRun

/-- The state after `p` has arrived, with receiver registers `regs` and mirror `m`. -/
def State.afterArrival (s : State) (p : Packet) (ps : List Packet)
    (regs : Receiver.IngressRegs) (m : Option Receiver.IgMirror) : State :=
  { s with
    link := ps
    fates := s.fates ++ [(p, true)]
    rxRegs := regs
    expected := p.next
    lostRun := 0
    reports := s.reports ++ (m.map fun m => (⟨m, s.expected, p⟩ : Report)).toList }

/-- What `rxPass_spec` says about the mirror `m` of packet `p` when `E` was expected. -/
def ReportsGap (E : ℕ) (p : Packet) : Option Receiver.IgMirror → Prop
  | none => p.isData = false ∧ E = p.num
  | some m => (⟨m, E, p⟩ : Report).Exact ∧
      (match m with
        | .lackUpdate _ => p.isData = true ∧ E = p.num
        | .lossNotification _ => E < p.num)

/-- The report of one arrival announces exactly the gap in front of it. -/
lemma ReportsGap.covers {E : ℕ} {p : Packet} {m : Option Receiver.IgMirror}
    (h : ReportsGap E p m) (n : ℕ) :
    ((m.map fun m => (⟨m, E, p⟩ : Report)).toList).countP (fun r => r.covers n) =
      if E ≤ n ∧ n < p.num then 1 else 0 := by
  cases m with
  | none =>
    have h2 := h.2
    rw [if_neg (by omega)]
    rfl
  | some m =>
    cases m with
    | lackUpdate u =>
      have h2 := h.2.2
      rw [if_neg (by omega)]
      rfl
    | lossNotification u =>
      obtain ⟨⟨-, -, -, hsize⟩, -⟩ := h
      change E + u.holeSize.toNat = p.num at hsize
      simp only [Option.map_some, Option.toList_some, List.countP_singleton, Report.covers, hsize,
        decide_eq_true_eq]

lemma Ledger.arrive (h : Ledger s) {p : Packet} {ps : List Packet}
    {regs : Receiver.IngressRegs} {m : Option Receiver.IgMirror}
    (hnum : p.num = s.expected + s.lostRun) (hm : ReportsGap s.expected p m) :
    Ledger (s.afterArrival p ps regs m) where
  -- a number below the new expected one is old, or in the gap, or the packet itself
  settled := by
    intro n hn
    simp only [State.afterArrival, deliveredIn_append, lostIn_append, List.mem_append,
      mem_deliveredIn_delivered, lostIn_delivered, List.append_nil, Packet.next] at hn ⊢
    rcases Nat.lt_or_ge n s.expected with hlt | hge
    · rcases h.settled n hlt with hd | hl
      · exact Or.inl (Or.inl hd)
      · exact Or.inr hl
    · rcases Nat.lt_or_ge n p.num with hlt | hge'
      · exact Or.inr (h.recent n hge (by omega))
      · split at hn
        · rename_i hd
          exact Or.inl (Or.inr ⟨hd, by omega⟩)
        · omega
  recent := by
    intro n h₁ h₂
    simp only [State.afterArrival] at h₁ h₂
    omega
  lost := by
    intro n hn
    simp only [State.afterArrival, lostIn_append, lostIn_delivered, List.append_nil] at hn
    simp only [State.afterArrival, deliveredIn_append, List.mem_append,
      mem_deliveredIn_delivered, Packet.next]
    obtain ⟨hlt, hnot⟩ := h.lost n hn
    refine ⟨by split <;> omega, ?_⟩
    rintro (hd | ⟨-, rfl⟩)
    · exact hnot hd
    · omega
  delivered := by
    intro n hn
    simp only [State.afterArrival, deliveredIn_append, List.mem_append,
      mem_deliveredIn_delivered, Packet.next] at hn ⊢
    rcases hn with hn | ⟨hd, rfl⟩
    · have := h.delivered n hn
      split <;> omega
    · rw [if_pos hd]
      omega
  -- an old report covers nothing from the expected number on, the new one nothing below it
  covered := by
    intro n
    simp only [State.afterArrival, List.countP_append, hm.covers, lostIn_append, lostIn_delivered,
      List.append_nil, h.covered n, Packet.next]
    by_cases hl : n ∈ lostIn s.fates
    · have hlt := (h.lost n hl).1
      simp only [hl, and_true]
      split_ifs <;> omega
    · have hno : ¬ (s.expected ≤ n ∧ n < p.num) := fun hb => hl (h.recent n hb.1 (by omega))
      simp only [hl, and_false, if_false, if_neg hno]
  passed := by
    intro n hn
    have hlt := (h.lost n (lostBefore_append_delivered hn)).1
    simp only [State.afterArrival, Packet.next]
    split <;> omega
  exact := by
    intro r hr
    rcases List.mem_append.mp hr with hr | hr
    · exact h.exact r hr
    · cases m with
      | none => exact absurd hr List.not_mem_nil
      | some m =>
        rw [Option.map_some, Option.toList_some, List.mem_singleton] at hr
        rw [hr]
        exact hm.1

/-- The oldest packet on the link follows the numbers lost since the last delivery. -/
lemma Inv.head (h : Inv S s) {p : Packet} {ps : List Packet} (hlink : s.link = p :: ps) :
    p.num = s.expected + s.lostRun ∧ Sequenced p.next ps s.stamped := by
  have hseq := h.sequenced
  rw [hlink] at hseq
  exact hseq

lemma Inv.rxPass_spec (h : Inv S s) {p : Packet} {ps : List Packet} (hlink : s.link = p :: ps) :
    (rxPass S s.rxRegs p).regs.regExpectedSeqNo S.rxPort = wire 16 p.next ∧
      ReportsGap s.expected p (rxPass S s.rxRegs p).mirrorEmit := by
  have hnum := (h.head hlink).1
  have hrun := h.lostRun
  have hok := h.linkOk p (by rw [hlink]; simp)
  have hrep := Link.rxPass_spec hok h.rx (by rw [hnum]; omega) (by rw [hnum]; omega)
  refine ⟨rxPass_next hok, ?_⟩
  revert hrep
  cases (rxPass S s.rxRegs p).mirrorEmit <;> exact id

lemma Inv.reportsGap (h : Inv S s) {p : Packet} {ps : List Packet} (hlink : s.link = p :: ps) :
    ReportsGap s.expected p (rxPass S s.rxRegs p).mirrorEmit := (h.rxPass_spec hlink).2

lemma Inv.arrive (h : Inv S s) {p : Packet} {ps : List Packet} (hlink : s.link = p :: ps) :
    Inv S (s.afterArrival p ps (rxPass S s.rxRegs p).regs (rxPass S s.rxRegs p).mirrorEmit) := by
  obtain ⟨hnum, hseq⟩ := h.head hlink
  obtain ⟨hexp, hgap⟩ := h.rxPass_spec hlink
  exact ⟨h.tx, h.stamped, h.sent, fun q hq => h.linkOk q (hlink ▸ List.mem_cons_of_mem p hq),
    hseq, hexp, Nat.zero_lt_succ _, h.ledger.arrive hnum hgap⟩

/-! ## Steps of the system -/

/-- **What a step can do.** -/
lemma step_cases {e : Event} (h : step S s e = some s') :
    (∃ hdr q r, e = .data hdr q r ∧ hdr.linkradarData.valid = false ∧
      s' = s.afterSend (txPass S s.txRegs hdr q r).regs (s.stamped + 1)
        (onWire s.stamped (txPass S s.txRegs hdr q r))) ∨
    (∃ hdr, e = .dummy hdr ∧ IsDummy hdr ∧
      (s' = s.afterSend (txPass S s.txRegs hdr 0 0).regs s.stamped
          (onWire s.stamped (txPass S s.txRegs hdr 0 0)) ∨
        s' = { s with txRegs := (txPass S s.txRegs hdr 0 0).regs })) ∨
    (∃ p ps, e = .lose ∧ s.link = p :: ps ∧ s' = s.afterLoss p ps) ∨
    (∃ p ps, e = .arrive ∧ s.link = p :: ps ∧ p.dropped = false ∧
      s' = s.afterArrival p ps (rxPass S s.rxRegs p).regs (rxPass S s.rxRegs p).mirrorEmit) := by
  cases e with
  | data hdr q r =>
    simp only [step, Option.ite_none_right_eq_some, Option.some_inj] at h
    exact Or.inl ⟨hdr, q, r, rfl, h.1, h.2.symm⟩
  | dummy hdr =>
    simp only [step, Option.ite_none_right_eq_some] at h
    obtain ⟨hd, h⟩ := h
    refine Or.inr (Or.inl ⟨hdr, rfl, hd, ?_⟩)
    split at h <;> rw [Option.some_inj] at h
    · exact Or.inl h.symm
    · exact Or.inr h.symm
  | lose =>
    simp only [step] at h
    split at h
    · cases h
    · rename_i p ps hlink
      rw [Option.some_inj] at h
      exact Or.inr (Or.inr (Or.inl ⟨p, ps, rfl, hlink, h.symm⟩))
  | arrive =>
    simp only [step] at h
    split at h
    · cases h
    · rename_i p ps hlink
      split at h
      · cases h
      · rename_i hdrop
        rw [Option.some_inj] at h
        exact Or.inr (Or.inr (Or.inr ⟨p, ps, rfl, hlink, by simpa using hdrop, h.symm⟩))

/-- **Step lemma.** -/
theorem inv_step {e : Event} (h : Inv S s) (hG : LossBound 65536 s e)
    (hs : step S s e = some s') : Inv S s' := by
  rcases step_cases hs with ⟨hdr, q, r, rfl, hn, rfl⟩ | ⟨hdr, rfl, hd, rfl | rfl⟩ |
    ⟨p, ps, rfl, hlink, rfl⟩ | ⟨p, ps, rfl, hlink, -, rfl⟩
  · obtain ⟨hdata, hreTx, hcar, htx⟩ := txPass_data (S := S) (q := q) (r := r) hn h.tx
    have hnext : (onWire s.stamped (txPass S s.txRegs hdr q r)).next = s.stamped + 1 := if_pos hdata
    rw [← hnext]
    exact h.send ⟨hcar, hreTx⟩ rfl (by rw [hnext]; exact htx)
  · obtain ⟨hdata, hreTx, hcar, htx⟩ := txPass_dummy (S := S) hd h.tx
    have hnext : (onWire s.stamped (txPass S s.txRegs hdr 0 0)).next = s.stamped :=
      if_neg (by rw [hdata]; simp)
    have hsend := h.send ⟨hcar, hreTx⟩ rfl (by rw [hnext]; exact htx)
    rwa [hnext] at hsend
  · obtain ⟨-, -, -, htx⟩ := txPass_dummy (S := S) hd h.tx
    exact ⟨htx, h.stamped, h.sent, h.linkOk, h.sequenced, h.rx, h.lostRun,
      ⟨h.ledger.settled, h.ledger.recent, h.ledger.lost, h.ledger.delivered, h.ledger.covered,
        h.ledger.passed, h.ledger.exact⟩⟩
  · exact h.lose hlink (hG p (by rw [hlink]; rfl))
  · exact h.arrive hlink

/-- Reports and fates are only ever appended to, and each data packet takes the next number. -/
lemma step_grows {e : Event} (hs : step S s e = some s') :
    s.reports <+: s'.reports ∧ s.fates <+: s'.fates ∧
      s'.stamped = match e with | .data _ _ _ => s.stamped + 1 | _ => s.stamped := by
  rcases step_cases hs with ⟨hdr, q, r, rfl, -, rfl⟩ | ⟨hdr, rfl, -, rfl | rfl⟩ |
    ⟨p, ps, rfl, -, rfl⟩ | ⟨p, ps, rfl, -, -, rfl⟩
  · exact ⟨List.prefix_rfl, List.prefix_rfl, rfl⟩
  · exact ⟨List.prefix_rfl, List.prefix_rfl, rfl⟩
  · exact ⟨List.prefix_rfl, List.prefix_rfl, rfl⟩
  · exact ⟨List.prefix_rfl, List.prefix_append _ _, rfl⟩
  · exact ⟨List.prefix_append _ _, List.prefix_append _ _, rfl⟩

lemma Sequenced.le {a b : ℕ} {ps : List Packet} (h : Sequenced a ps b) : a ≤ b := by
  induction ps generalizing a with
  | nil => exact le_of_eq h
  | cons p ps ih =>
    have hnext := ih h.2
    have hnum := h.1
    unfold Packet.next at hnext
    split at hnext <;> omega

/-! ## The order of the reports -/

/-- Reports are generated in the order of their numbers: each starts behind the highest number
of the one before. -/
structure Ordered (s : State) : Prop where
  pairwise : s.reports.Pairwise fun r r' => r.accounted < r'.first
  span : ∀ r ∈ s.reports, r.first ≤ r.accounted ∧ r.accounted < s.expected
  gap : ∀ r ∈ s.reports, r.isNotification = true → r.first < r.trigger.num

lemma ordered_init (S : Setup) : Ordered (init S) :=
  ⟨List.Pairwise.nil, fun _ hr => absurd hr List.not_mem_nil,
    fun _ hr => absurd hr List.not_mem_nil⟩

/-- The report of one arrival spans the numbers from the expected one to the packet. -/
lemma ReportsGap.span {E : ℕ} {p : Packet} {m : Receiver.IgMirror} (h : ReportsGap E p (some m)) :
    E ≤ p.accounted ∧ p.accounted < p.next := by
  unfold Packet.accounted Packet.next
  cases m with
  | lackUpdate u =>
    have h2 : p.isData = true ∧ E = p.num := h.2
    rw [if_pos h2.1, if_pos h2.1]
    omega
  | lossNotification u =>
    have h2 : E < p.num := h.2
    split <;> omega

lemma Ordered.arrive (h : Ordered s) {p : Packet} {ps : List Packet}
    {regs : Receiver.IngressRegs} {m : Option Receiver.IgMirror}
    (hle : s.expected ≤ p.next) (hm : ReportsGap s.expected p m) :
    Ordered (s.afterArrival p ps regs m) := by
  have hspan : ∀ r ∈ s.reports, r.first ≤ r.accounted ∧ r.accounted < p.next :=
    fun r hr => ⟨(h.span r hr).1, by have := (h.span r hr).2; omega⟩
  cases m with
  | none =>
    have hsame : (s.afterArrival p ps regs none).reports = s.reports := List.append_nil _
    exact ⟨hsame ▸ h.pairwise, hsame ▸ hspan, hsame ▸ h.gap⟩
  | some m =>
    obtain ⟨h₁, h₂⟩ := hm.span
    have hnew : ∀ r ∈ (s.afterArrival p ps regs (some m)).reports,
        r ∈ s.reports ∨ r = ⟨m, s.expected, p⟩ := by
      intro r hr
      rw [← List.mem_singleton]
      exact List.mem_append.mp hr
    refine ⟨List.pairwise_append.mpr ⟨h.pairwise, List.pairwise_singleton _ _, ?_⟩, ?_, ?_⟩
    · intro r hr r' hr'
      rw [Option.map_some, Option.toList_some, List.mem_singleton] at hr'
      rw [hr']
      exact (h.span r hr).2
    · intro r hr
      rcases hnew r hr with hr | rfl
      · exact hspan r hr
      · exact ⟨h₁, h₂⟩
    · intro r hr hnot
      rcases hnew r hr with hr | rfl
      · exact h.gap r hr hnot
      · cases m with
        | lackUpdate u => cases hnot
        | lossNotification u => exact hm.2

theorem ordered_step {e : Event} (hI : Inv S s) (h : Ordered s) (hs : step S s e = some s') :
    Ordered s' := by
  rcases step_cases hs with ⟨hdr, q, r, rfl, -, rfl⟩ | ⟨hdr, rfl, -, rfl | rfl⟩ |
    ⟨p, ps, rfl, -, rfl⟩ | ⟨p, ps, rfl, hlink, -, rfl⟩
  · exact ⟨h.pairwise, h.span, h.gap⟩
  · exact ⟨h.pairwise, h.span, h.gap⟩
  · exact ⟨h.pairwise, h.span, h.gap⟩
  · exact ⟨h.pairwise, h.span, h.gap⟩
  · have hnum := (hI.head hlink).1
    refine h.arrive ?_ (hI.reportsGap hlink)
    rw [Packet.next, hnum]
    split <;> omega

/-- When fewer than `k` data packets in a row are lost, no hole is larger than that.  A hole is as
large as the run of losses before the packet that reveals it. -/
structure SmallHoles (k : ℕ) (s : State) : Prop where
  lostRun : s.lostRun < k
  reports : ∀ r ∈ s.reports, r.trigger.num < r.first + k

lemma smallHoles_init (S : Setup) {k : ℕ} (hk : 0 < k) : SmallHoles k (init S) :=
  ⟨hk, fun _ hr => absurd hr List.not_mem_nil⟩

theorem smallHoles_step {k : ℕ} {e : Event} (hI : Inv S s) (h : SmallHoles k s)
    (hG : LossBound k s e) (hs : step S s e = some s') : SmallHoles k s' := by
  rcases step_cases hs with ⟨hdr, q, r, rfl, -, rfl⟩ | ⟨hdr, rfl, -, rfl | rfl⟩ |
    ⟨p, ps, rfl, hlink, rfl⟩ | ⟨p, ps, rfl, hlink, -, rfl⟩
  · exact ⟨h.lostRun, h.reports⟩
  · exact ⟨h.lostRun, h.reports⟩
  · exact ⟨h.lostRun, h.reports⟩
  · refine ⟨?_, h.reports⟩
    simp only [State.afterLoss]
    split
    · exact hG p (by rw [hlink]; rfl) ‹_›
    · exact h.lostRun
  · have hrun := h.lostRun
    refine ⟨by simp only [State.afterArrival]; omega, fun r hr => ?_⟩
    rcases List.mem_append.mp hr with hr | hr
    · exact h.reports r hr
    · obtain ⟨m, -, rfl⟩ := Option.map_eq_some_iff.mp (Option.mem_toList.mp hr)
      change p.num < s.expected + k
      rw [(hI.head hlink).1]
      omega

/-- Only notifications cover anything. -/
lemma Report.isNotification_of_covers {r : Report} {n : ℕ} (hn : r.covers n = true) :
    r.isNotification = true := by
  unfold Report.covers at hn
  unfold Report.isNotification
  split at hn
  · rfl
  · cases hn

/-- Numbers covered by a report were expected, and are accounted for by it. -/
lemma Report.le_accounted_of_covers {r : Report} (h : r.Exact) {n : ℕ} (hn : r.covers n = true) :
    r.first ≤ n ∧ n < r.trigger.num ∧ n ≤ r.accounted := by
  unfold Report.covers at hn
  unfold Report.Exact at h
  split at hn
  · rename_i u hm
    rw [hm] at h
    obtain ⟨-, -, -, hsize⟩ := h
    obtain ⟨h₁, h₂⟩ := of_decide_eq_true hn
    refine ⟨h₁, by omega, ?_⟩
    unfold Report.accounted Packet.accounted
    split <;> omega
  · cases hn

/-- What a report announces as lost was lost. -/
lemma Inv.lost_of_covers (h : Inv S s) {r : Report} (hr : r ∈ s.reports) {n : ℕ}
    (hn : r.covers n = true) : n ∈ lostIn s.fates := by
  have hpos : 0 < s.reports.countP (fun r => r.covers n) :=
    List.countP_pos_iff.mpr ⟨r, hr, hn⟩
  rw [h.ledger.covered n] at hpos
  split at hpos
  · rename_i hc
    exact hc.2
  · exact absurd hpos (lt_irrefl 0)

/-- A number lost below the expected one has been announced. -/
lemma Inv.covers_of_lost (h : Inv S s) {n : ℕ} (hlt : n < s.expected)
    (hn : n ∈ lostIn s.fates) : ∃ r ∈ s.reports, r.covers n = true := by
  have hone := h.ledger.covered n
  rw [if_pos ⟨hlt, hn⟩] at hone
  exact List.countP_pos_iff.mp (by rw [hone]; exact Nat.one_pos)

/-! ## Whole runs -/

/-- **Loss detection is exact.**  In every run with fewer than 65536 data packets lost in a
row: each data packet carries the count of data packets sent before it and each dummy that of
the next one; every data number lost before some delivered packet is announced exactly once,
and no delivered number ever; the leading ack of every report denotes the highest number
accounted for by the packet that triggered it. -/
theorem loss_detection_exact (S : Setup) (es : List Event) (s : State)
    (hrun : run (step S) (init S) es = some s)
    (hG : Along (step S) (LossBound 65536) (init S) es) :
    (∀ before p after, s.sent = before ++ p :: after → Carries p.data (dataCount before)) ∧
      (∀ n, LostBefore s.fates n → s.reports.countP (fun r => r.covers n) = 1) ∧
      (∀ n ∈ deliveredIn s.fates, s.reports.countP (fun r => r.covers n) = 0) ∧
      ∀ r ∈ s.reports, r.Exact := by
  have h := run_invariant_along (fun _ _ _ h hG hs => inv_step h hG hs) (inv_init S) hG hrun
  refine ⟨?_, ?_, ?_, h.ledger.exact⟩
  · intro before p after heq
    obtain ⟨hnum, hok⟩ := h.sent before p after heq
    rw [← hnum]
    exact hok.carries
  · intro n hn
    have hlost : n ∈ lostIn s.fates := by
      obtain ⟨before, after, heq, hmem, -⟩ := hn
      rw [heq]
      simp [hmem]
    rw [h.ledger.covered n, if_pos ⟨h.ledger.passed n hn, hlost⟩]
  · intro n hn
    rw [h.ledger.covered n, if_neg (fun hc => (h.ledger.lost n hc.2).2 hn)]

/-- Port 36 of both switches, as the test bed sets it up. -/
def link36 : Setup where
  txTables :=
    { linkProtect := fun p => if p = 36 then some ⟨3, 1⟩ else none
      copyPktForBuffering := fun p => if p = 36 then some 100 else none
      mirrorDummyPkt := fun p => if p = 36 then some 101 else none
      decideToEmulateCorruption := fun _ => false
      emulateCorruption := fun _ => false
      dcqcnGetEcnProbability := fun _ => 0
      dcqcnCompareProbability := fun _ _ => false }
  egressPort := 36
  params := ⟨3, 1⟩
  rxTables :=
    { timeoutVal100ns := 70
      l2Forward := fun _ => some (.l2Switch 5)
      generateLossNotification := fun p => if p = 36 then some 500 else none
      addPfcHdrAndRoute := none
      emulateRandomPktDrop := fun _ => false }
  rxPortMd := ⟨0, 1, 36, 0⟩
  linkProtect := rfl
  copyPktForBuffering := rfl
  filterViaLpbk := rfl
  protect := rfl
  generateLossNotification := rfl

/-- Three packets, of which packet 1 is lost. -/
def oneLossRun : List Event :=
  [.data default 0 0, .data default 0 0, .data default 0 0, .arrive, .lose, .arrive]

/-- Of three packets the middle one is lost, and the arrival of the last announces exactly it. -/
theorem loss_detection_exact_one_loss :
    ∃ s, run (step link36) (init link36) oneLossRun = some s ∧
      s.reports.countP (fun r => r.covers 0) = 0 ∧
      s.reports.countP (fun r => r.covers 1) = 1 := by
  have hfates : (run (step link36) (init link36) oneLossRun).any (fun s =>
      decide (0 ∈ deliveredIn s.fates) && (decide (1 ∈ lostIn (s.fates.take 2)) &&
        (s.fates.drop 2).any (fun f => f.2))) := by decide +kernel
  obtain ⟨s, hs, hfates⟩ := (Option.any_eq_true _ _).mp hfates
  simp only [Bool.and_eq_true, decide_eq_true_eq, List.any_eq_true] at hfates
  obtain ⟨hdel, hlost, ⟨q, ok⟩, hq, rfl⟩ := hfates
  obtain ⟨-, hone, hzero, -⟩ :=
    loss_detection_exact link36 oneLossRun s hs (by decide +kernel)
  exact ⟨s, hs, hzero 0 hdel,
    hone 1 ⟨s.fates.take 2, s.fates.drop 2, (List.take_append_drop 2 s.fates).symm, hlost, q, hq⟩⟩

end LinkGuardian.Link
