import LinkGuardian.Dataplane.Sender.IngressSpec
import LinkGuardian.Protocol.LossDetection

/-!
# The buffer of the sender

A protected link together with the buffer of its sender: a copy of every stamped packet runs
round the recirculation port, reports of the receiver reach the ingress of the sender in any
order and number, and every pass of a copy retransmits it, drops it or sends it round again.
Copies and reports carry the numbers of `LossDetection`; the code never reads them.

A copy leaves the loop only when some processed report has accounted for its number, the
number 0 excepted (`BufferInv.kept`), and under the order assumption on reports
a hole bit is set exactly for the lost packets whose copy is still in the loop
(`HolesInv.holeAt`).

Reports reach the sender in any order and number here, since they may be lost, repeated and overtake
one another on the way.  What the safety of the buffer needs of their order is a condition of its
own (`BufferSafety`), so that it can be seen which results hang on it.
-/

namespace LinkGuardian.Buffer

open P4 SerialNumber Execution Sender

/-! ## The system -/

/-- A protected link and the ingress tables of its sender. -/
structure Setup where
  link : Link.Setup
  igTables : IngressTables
  retxMcastBufferedPkt : (igTables.retxMcastBufferedPkt link.egressPort).isSome

/-- How a copy leaves the loop.  A copy that goes round once more has no decision yet. -/
inductive Decision
  | dropped
  | retransmitted
deriving DecidableEq, Repr

structure State where
  link : Link.State
  igRegs : IngressRegs
  /-- the copies on their way round the recirculation port -/
  buffer : List (ℕ × Hdr)
  /-- the reports that the ingress has processed, latest first -/
  processed : List Link.Report
  decided : List (ℕ × Decision)

/-- Power-on. -/
def init (S : Setup) : State where
  link := Link.init S.link
  igRegs := .init
  buffer := []
  processed := []
  decided := []

inductive Event
  /-- a step of the link below -/
  | link (e : Link.Event)
  /-- report number `i` of the receiver reaches the sender in a packet with these headers -/
  | report (i : ℕ) (hdr : Hdr)
  /-- the ingress pass of the `i`-th copy -/
  | buffered (i : ℕ)

/-- The headers of a packet that carries a report: piggybacked, on a courier or with a loss
notification. Nothing is said of the rest of the packet, so that every way for a report to the
sender is covered. -/
structure Bears (r : Link.Report) (hdr : Hdr) : Prop where
  pktgenTimer : hdr.pktgenTimer.valid = false
  linkradarLack : hdr.linkradarLack.valid = true
  content : match r.mirror with
    | .lackUpdate m => hdr.linkradarLack.fields.leadingAck = m.leadingAck ∧
        hdr.linkradarLack.fields.era = m.leadingAckEra ∧
        hdr.linkradarLossNotification.valid = false
    | .lossNotification m => hdr.linkradarLack.fields.leadingAck = m.leadingAck ∧
        hdr.linkradarLack.fields.era = m.leadingAckEra ∧
        hdr.linkradarLossNotification = .of ⟨m.holeSize.setWidth 8, m.firstLostSeqNo⟩

instance (r : Link.Report) (hdr : Hdr) : Decidable (Bears r hdr) :=
  have : Decidable (match r.mirror with
      | .lackUpdate m => hdr.linkradarLack.fields.leadingAck = m.leadingAck ∧
          hdr.linkradarLack.fields.era = m.leadingAckEra ∧
          hdr.linkradarLossNotification.valid = false
      | .lossNotification m => hdr.linkradarLack.fields.leadingAck = m.leadingAck ∧
          hdr.linkradarLack.fields.era = m.leadingAckEra ∧
          hdr.linkradarLossNotification = .of ⟨m.holeSize.setWidth 8, m.firstLostSeqNo⟩) :=
    match r.mirror with
    | .lackUpdate _ => inferInstanceAs (Decidable (_ ∧ _))
    | .lossNotification _ => inferInstanceAs (Decidable (_ ∧ _))
  decidable_of_iff (hdr.pktgenTimer.valid = false ∧ hdr.linkradarLack.valid = true ∧ _)
    ⟨fun ⟨h₁, h₂, h₃⟩ => ⟨h₁, h₂, h₃⟩, fun ⟨h₁, h₂, h₃⟩ => ⟨h₁, h₂, h₃⟩⟩

/-- The second egress pass of a packet that left the context `c` and was mirrored with `m`. -/
def mirroredPass (S : Setup) (c : Egress) (m : EgMirrorBufferedPkt) : Egress :=
  (Egress.start c.regs recircLpbkPort 0 0
    { (default : Hdr) with ethernet := c.hdr.ethernet, linkradarData := c.hdr.linkradarData }
    { (default : EgMeta) with egMirrorBufferedPkt := .of m }).apply S.link.txTables

/-- The copy of a normal packet that the egress mirrors and that enters the loop. -/
def copyOf (S : Setup) (regs : EgressRegs) (hdr : Hdr) (deqQdepth : BitVec 19)
    (random : BitVec 8) : Option Hdr :=
  match (Link.txPass S.link regs hdr deqQdepth random).mirrorEmit with
  | some (.bufferedPkt m) =>
    some (mirroredPass S (Link.txPass S.link regs hdr deqQdepth random) m).hdr
  | _ => none

/-- The copies that a step of the link puts into the loop. -/
def newCopies (S : Setup) (s : State) : Link.Event → List (ℕ × Hdr)
  | .data hdr deqQdepth random =>
    ((copyOf S s.link.txRegs hdr deqQdepth random).map fun h => (s.link.stamped, h)).toList
  | .dummy _ | .lose | .arrive => []

/-- The ingress pass of a packet at the sender. -/
def igPass (S : Setup) (regs : IngressRegs) (port : PortId) (hdr : Hdr) : Ingress :=
  (Ingress.start regs port 0 hdr).apply S.igTables

/-- What became of a copy, `none` while it stays in the loop. -/
def decision (c : Ingress) : Option Decision :=
  if c.igMeta.retx = 1 then some .retransmitted
  else if c.dropCtl ≠ 0 then some .dropped
  else none

/-- The state after a step of the link to `l` that puts `new` into the loop. -/
def State.afterLink (s : State) (l : Link.State) (new : List (ℕ × Hdr)) : State :=
  { s with link := l, buffer := s.buffer ++ new }

/-- The state after report `r` has been processed. -/
def State.afterReport (s : State) (r : Link.Report) (regs : IngressRegs) : State :=
  { s with igRegs := regs, processed := r :: s.processed }

/-- The state after the pass `c` of the `i`-th copy, number `n`. -/
def State.afterCopy (s : State) (i n : ℕ) (c : Ingress) : State :=
  match decision c with
  | none => { s with igRegs := c.regs, buffer := s.buffer.eraseIdx i ++ [(n, c.hdr)] }
  | some d => { s with
      igRegs := c.regs, buffer := s.buffer.eraseIdx i, decided := s.decided ++ [(n, d)] }

def step (S : Setup) (s : State) : Event → Option State
  | .link e => (Link.step S.link s.link e).map fun l => s.afterLink l (newCopies S s e)
  | .report i hdr =>
    match s.link.reports[i]? with
    | none => none
    | some r =>
      if Bears r hdr then
        some (s.afterReport r (igPass S s.igRegs S.link.egressPort hdr).regs)
      else none
  | .buffered i =>
    match s.buffer[i]? with
    | none => none
    | some (n, hdr) => some (s.afterCopy i n (igPass S s.igRegs recircLpbkPort hdr))

/-- The numbers in the loop. -/
def State.nums (s : State) : List ℕ := s.buffer.map Prod.fst

/-- The number behind the stored leading ack: that of the last report, or 0 at power-on. -/
def State.lack (s : State) : ℕ := (s.processed.head?.map Link.Report.accounted).getD 0

/-- Every number in the loop is within half a range of the stored leading ack.  This is the
condition under which the comparison of the code is the order of the numbers, and it bounds how far
the receiver's reports may lag behind the sender. -/
def Windowed (s : State) : Prop := ∀ n ∈ s.nums, Within halfRange n s.lack

instance : DecidablePred Windowed := fun s =>
  inferInstanceAs (Decidable (∀ n ∈ s.nums, Within halfRange n s.lack))

/-- How many notifications the sender has processed. -/
def State.notified (s : State) : ℕ := s.processed.countP Link.Report.isNotification

/-- How many notifications were generated before report number `i`. -/
def State.notifiedBefore (s : State) (i : ℕ) : ℕ :=
  (s.link.reports.take i).countP Link.Report.isNotification

/-- Every notification reaches the sender once, and no report generated after a notification
overtakes it. -/
def ReportsInOrder (s : State) : Event → Prop
  | .report i _ => ∀ r ∈ s.link.reports[i]?,
      s.notifiedBefore i ≤ s.notified ∧ (r.isNotification = true → s.notified ≤ s.notifiedBefore i)
  | _ => True

instance (s : State) : DecidablePred (ReportsInOrder s)
  | .report i _ => inferInstanceAs (Decidable (∀ r ∈ s.link.reports[i]?,
      s.notifiedBefore i ≤ s.notified ∧
        (r.isNotification = true → s.notified ≤ s.notifiedBefore i)))
  | .link _ | .buffered _ => isTrue trivial

/-! ## Copies and reports -/

variable {S : Setup} {s s' : State}

/-- The copy of number `n` in the loop. -/
structure IsCopy (S : Setup) (n : ℕ) (hdr : Hdr) : Prop where
  pktgenTimer : hdr.pktgenTimer.valid = false
  linkradarLack : hdr.linkradarLack.valid = false
  linkradarBuffered : hdr.linkradarBuffered.valid = true
  dstEgPort : hdr.linkradarBuffered.fields.dstEgPort = S.link.egressPort
  carries : Carries hdr.linkradarData.fields n

/-- Every stamped packet leaves exactly one copy, with its number. -/
lemma copyOf_eq {regs : EgressRegs} {hdr : Hdr} {q : BitVec 19} {r : BitVec 8} {n : ℕ}
    (hn : hdr.linkradarData.valid = false)
    (h : Denotes (regs.regSeqNo S.link.txPort) (regs.regEra S.link.txPort) n) :
    ∃ copy, copyOf S regs hdr q r = some copy ∧ IsCopy S n copy := by
  have hdata := (Egress.normal_pass (t := S.link.txTables)
    (c := .start regs S.link.egressPort q r hdr (.ofHdr hdr)) hn S.link.linkProtect).linkradarData
  have hmirror := Egress.normal_pass_mirrorEmit (t := S.link.txTables)
    (c := .start regs S.link.egressPort q r hdr (.ofHdr hdr)) hn S.link.linkProtect
    S.link.copyPktForBuffering
  change (Link.txPass S.link regs hdr q r).hdr.linkradarData = _ at hdata
  change (Link.txPass S.link regs hdr q r).mirrorEmit = _ at hmirror
  unfold copyOf
  rw [hmirror]
  refine ⟨_, rfl, ?_⟩
  have hpass := (Egress.buffered_pass (t := S.link.txTables)
    (c := .start (Link.txPass S.link regs hdr q r).regs recircLpbkPort 0 0
      { (default : Hdr) with
        ethernet := (Link.txPass S.link regs hdr q r).hdr.ethernet
        linkradarData := (Link.txPass S.link regs hdr q r).hdr.linkradarData }
      { (default : EgMeta) with
        egMirrorBufferedPkt := .of (Egress.bufferRequest S.link.egressPort) })
    (by change (Link.txPass S.link regs hdr q r).hdr.linkradarData.valid = true; rw [hdata]; rfl)
    rfl).1
  change (mirroredPass S (Link.txPass S.link regs hdr q r)
    (Egress.bufferRequest S.link.egressPort)).hdr = _ at hpass
  change IsCopy S n (mirroredPass S (Link.txPass S.link regs hdr q r)
    (Egress.bufferRequest S.link.egressPort)).hdr
  rw [hpass]
  refine ⟨rfl, rfl, rfl, rfl, ?_⟩
  change Carries (Link.txPass S.link regs hdr q r).hdr.linkradarData.fields n
  rw [hdata]
  exact ⟨h.seqNo_eq, h.era_eq⟩

/-- The stored leading ack denotes `l`; the era cell holds nothing else. -/
structure StoresLack (S : Setup) (regs : IngressRegs) (l : ℕ) : Prop where
  regLeadingAck : regs.regLeadingAck S.link.txPort = wire 16 l
  regLeadingAckEra : regs.regLeadingAckEra S.link.txPort = (era 16 l).setWidth 8

/-- The number that a notification has the sender mark, as far as the ladder goes. -/
lemma marks_iff {r : Link.Report} {m : Receiver.IgMirrorLossNotification}
    (hm : r.mirror = .lossNotification m) (h : r.Exact) (hpos : r.first < r.trigger.num)
    (hsmall : r.trigger.num < r.first + 6) (s : SeqNo) :
    Marks ⟨m.holeSize.setWidth 8, m.firstLostSeqNo⟩ s ↔
      ∃ n, r.covers n = true ∧ s = wire 16 n := by
  unfold Link.Report.Exact at h
  rw [hm] at h
  obtain ⟨-, -, hfirst, hsize⟩ := h
  have hwidth : (m.holeSize.setWidth 8).toNat = m.holeSize.toNat := by
    rw [BitVec.toNat_setWidth]
    exact Nat.mod_eq_of_lt (by omega)
  have hcov : ∀ n, r.covers n = true ↔ r.first ≤ n ∧ n < r.first + m.holeSize.toNat := by
    intro n
    unfold Link.Report.covers
    rw [hm]
    exact decide_eq_true_iff
  unfold Marks
  simp only [hwidth, hfirst, wire_add, hcov]
  constructor
  · rintro ⟨i, hi, hor, rfl⟩
    exact ⟨r.first + i, by omega, rfl⟩
  · rintro ⟨n, hn, rfl⟩
    exact ⟨n - r.first, by omega, Or.inr (by omega), by rw [Nat.add_sub_cancel' hn.1]⟩

/-- **The pass of a report** stores its number and, for a notification, marks what it covers. -/
lemma report_spec {r : Link.Report} {hdr : Hdr} (regs : IngressRegs) (hb : Bears r hdr)
    (hr : r.Exact) :
    StoresLack S (igPass S regs S.link.egressPort hdr).regs r.accounted ∧
      ((r.isNotification = true → r.first < r.trigger.num ∧ r.trigger.num < r.first + 6) →
        ∀ s, (igPass S regs S.link.egressPort hdr).regs.HoleAt s ↔
          regs.HoleAt s ∨ ∃ n, r.covers n = true ∧ s = wire 16 n) := by
  obtain ⟨h₁, h₂, h₃⟩ := Ingress.report_pass (t := S.igTables)
    (c := .start regs S.link.egressPort 0 hdr) ⟨hb.pktgenTimer, hb.linkradarLack⟩
    (fun hv => if_pos hv)
  have hc := hb.content
  have hcov := hr
  unfold Link.Report.Exact at hcov
  -- a lack update covers nothing; a notification of at most five numbers marks what it covers
  cases hm : r.mirror with
  | lackUpdate m =>
    rw [hm] at hc hcov
    obtain ⟨g₁, g₂, g₃⟩ := hc
    refine ⟨⟨?_, ?_⟩, fun _ s => ?_⟩
    · rw [igPass, h₁]
      exact (Register.write_same _ _ _).trans (g₁.trans hcov.1)
    · rw [igPass, h₂]
      refine (Register.write_same _ _ _).trans (congrArg (BitVec.setWidth 8) (g₂.trans hcov.2))
    · rw [igPass, h₃]
      have hno : ¬ ∃ n, r.covers n = true ∧ s = wire 16 n := by
        rintro ⟨n, hn, -⟩
        rw [Link.Report.covers, hm] at hn
        cases hn
      refine or_congr Iff.rfl ⟨fun hv => ?_, fun hn => absurd hn hno⟩
      exact absurd hv.1 (by change ¬ hdr.linkradarLossNotification.valid = true; rw [g₃]; simp)
  | lossNotification m =>
    rw [hm] at hc hcov
    obtain ⟨g₁, g₂, g₃⟩ := hc
    refine ⟨⟨?_, ?_⟩, fun hsmall s => ?_⟩
    · rw [igPass, h₁]
      exact (Register.write_same _ _ _).trans (g₁.trans hcov.1)
    · rw [igPass, h₂]
      refine (Register.write_same _ _ _).trans (congrArg (BitVec.setWidth 8) (g₂.trans hcov.2.1))
    · obtain ⟨hpos, hlt⟩ := hsmall (by rw [Link.Report.isNotification, hm])
      rw [igPass, h₃, ← marks_iff hm hr hpos hlt]
      change (_ ∨ (hdr.linkradarLossNotification.valid = true ∧
        Marks hdr.linkradarLossNotification.fields s)) ↔ _
      rw [g₃]
      exact or_congr Iff.rfl ⟨fun hv => hv.2, fun hv => ⟨rfl, hv⟩⟩

/-- What the pass of copy `n` does when the leading ack denotes `l`.  The decision depends on the
stored ack and on the bit of the number, and on nothing else that is in the registers. -/
structure CopyPass (S : Setup) (regs : IngressRegs) (n l : ℕ) (hdr : Hdr) (c : Ingress) :
    Prop where
  decision : decision c = if n ≤ l then
    if regs.HoleAt (wire 16 n) then some .retransmitted else some .dropped else none
  storesLack : StoresLack S c.regs l
  holeAt : ∀ s, c.regs.HoleAt s ↔ regs.HoleAt s ∧ (n ≤ l → s ≠ wire 16 n)
  hdr : l < n → c.hdr = hdr

/-- **The pass of a copy**, in terms of numbers. -/
lemma copy_spec {regs : IngressRegs} {n l : ℕ} {hdr : Hdr} (hc : IsCopy S n hdr)
    (hl : StoresLack S regs l) (hw : Within halfRange n l) :
    CopyPass S regs n l hdr (igPass S regs recircLpbkPort hdr) := by
  have hidx : (Ingress.start regs recircLpbkPort 0 hdr).copyIdx = S.link.txPort := by
    change hdr.linkradarBuffered.fields.dstEgPort.setWidth 8 = _
    rw [hc.dstEgPort]
    rfl
  have hround : ∀ b : BitVec 1, (b.setWidth 8).setWidth 1 = b := by decide
  -- the test of the code is the order of the numbers: the copy and the stored leading ack are
  -- within half a range
  have hack : (Ingress.start regs recircLpbkPort 0 hdr).Acknowledged ↔ n ≤ l := by
    unfold Ingress.Acknowledged
    rw [hidx]
    change eraLe hdr.linkradarData.fields.seqNo hdr.linkradarData.fields.era
      (regs.regLeadingAck S.link.txPort) ((regs.regLeadingAckEra S.link.txPort).setWidth 1) ↔ _
    rw [hc.carries.seqNo_eq, hc.carries.era_eq, hl.regLeadingAck, hl.regLeadingAckEra, hround]
    exact eraLe_iff_of_within hw
  have hpass := Ingress.buffered_pass (t := S.igTables)
    (c := .start regs recircLpbkPort 0 hdr)
    ⟨hc.pktgenTimer, hc.linkradarLack, hc.linkradarBuffered⟩ (if_pos hc.linkradarBuffered)
    (e := era 16 l) (by rw [hidx]; exact hl.regLeadingAckEra)
    (by change (S.igTables.retxMcastBufferedPkt hdr.linkradarBuffered.fields.dstEgPort).isSome
        rw [hc.dstEgPort]; exact S.retxMcastBufferedPkt)
  have hseq : (Ingress.start regs recircLpbkPort 0 hdr).hdr.linkradarData.fields.seqNo =
      wire 16 n := hc.carries.seqNo_eq
  have hregs : (Ingress.start regs recircLpbkPort 0 hdr).regs = regs := rfl
  rw [hseq, hregs] at hpass
  -- retransmitted, dropped or sent round: one case for each branch of the control
  by_cases hle : n ≤ l
  · rw [if_pos (hack.mpr hle)] at hpass
    by_cases hhole : regs.HoleAt (wire 16 n)
    · rw [if_pos hhole] at hpass
      obtain ⟨⟨h₁, h₂, h₃⟩, h₄, -⟩ := hpass
      refine ⟨?_, ⟨?_, ?_⟩, ?_, fun h => absurd hle (by omega)⟩
      · rw [if_pos hle, if_pos hhole]
        exact if_pos h₄
      · exact (congrFun h₁ _).trans hl.regLeadingAck
      · exact (congrFun h₂ _).trans hl.regLeadingAckEra
      · intro s
        rw [igPass, h₃, hseq, hregs]
        exact and_congr_right fun _ => ⟨fun hs _ => hs, fun hs => hs hle⟩
    · rw [if_neg hhole] at hpass
      obtain ⟨⟨h₁, h₂, h₃⟩, h₄, h₅⟩ := hpass
      refine ⟨?_, ⟨?_, ?_⟩, ?_, fun h => absurd hle (by omega)⟩
      · rw [if_pos hle, if_neg hhole, Buffer.decision, igPass, h₄, h₅]
        rfl
      · exact (congrFun h₁ _).trans hl.regLeadingAck
      · exact (congrFun h₂ _).trans hl.regLeadingAckEra
      · intro s
        rw [igPass, h₃, hseq, hregs]
        exact and_congr_right fun _ => ⟨fun hs _ => hs, fun hs => hs hle⟩
  · rw [if_neg (fun ha => hle (hack.mp ha))] at hpass
    obtain ⟨h₁, h₂, h₃, -, h₅⟩ := hpass
    refine ⟨?_, ?_, ?_, fun _ => h₁⟩
    · rw [if_neg hle, Buffer.decision, igPass, h₃, h₅]
      rfl
    · rw [igPass, h₂]
      exact hl
    · intro s
      rw [igPass, h₂]
      exact (and_iff_left fun h => absurd h hle).symm

/-! ## Steps -/

/-- **What a step can do.** -/
lemma step_cases {e : Event} (h : step S s e = some s') :
    (∃ le l, e = .link le ∧ Link.step S.link s.link le = some l ∧
      s' = s.afterLink l (newCopies S s le)) ∨
    (∃ i hdr r, e = .report i hdr ∧ s.link.reports[i]? = some r ∧ Bears r hdr ∧
      s' = s.afterReport r (igPass S s.igRegs S.link.egressPort hdr).regs) ∨
    (∃ i n hdr, e = .buffered i ∧ s.buffer[i]? = some (n, hdr) ∧
      s' = s.afterCopy i n (igPass S s.igRegs recircLpbkPort hdr)) := by
  cases e with
  | link le =>
    simp only [step, Option.map_eq_some_iff] at h
    obtain ⟨l, hl, rfl⟩ := h
    exact Or.inl ⟨le, l, rfl, hl, rfl⟩
  | report i hdr =>
    simp only [step] at h
    split at h
    · cases h
    · rename_i r hr
      simp only [Option.ite_none_right_eq_some, Option.some_inj] at h
      exact Or.inr (Or.inl ⟨i, hdr, r, rfl, hr, h.1, h.2.symm⟩)
  | buffered i =>
    simp only [step] at h
    split at h
    · cases h
    · rename_i n hdr hget
      rw [Option.some_inj] at h
      exact Or.inr (Or.inr ⟨i, n, hdr, rfl, hget, h.symm⟩)

/-- A data packet brings its copy, nothing else does. -/
lemma newCopies_cases {le : Link.Event} {l : Link.State} (hI : Link.Inv S.link s.link)
    (h : Link.step S.link s.link le = some l) :
    (∃ copy, newCopies S s le = [(s.link.stamped, copy)] ∧ IsCopy S s.link.stamped copy ∧
      l.stamped = s.link.stamped + 1) ∨
    (newCopies S s le = [] ∧ l.stamped = s.link.stamped) := by
  have hst := (Link.step_grows h).2.2
  rcases Link.step_cases h with ⟨hdr, q, r, rfl, hn, -⟩ | ⟨hdr, rfl, -, -⟩ |
    ⟨p, ps, rfl, -, -⟩ | ⟨p, ps, rfl, -, -, -⟩
  · obtain ⟨copy, hcopy, his⟩ := copyOf_eq (q := q) (r := r) hn hI.tx
    refine Or.inl ⟨copy, ?_, his, hst⟩
    rw [newCopies, hcopy]
    rfl
  · exact Or.inr ⟨rfl, hst⟩
  · exact Or.inr ⟨rfl, hst⟩
  · exact Or.inr ⟨rfl, hst⟩

lemma nums_perm {i n : ℕ} {hdr : Hdr} (h : s.buffer[i]? = some (n, hdr)) :
    (n :: (s.buffer.eraseIdx i).map Prod.fst).Perm s.nums := by
  obtain ⟨hi, hget⟩ := List.getElem?_eq_some_iff.mp h
  have hperm := (List.getElem_cons_eraseIdx_perm hi).map Prod.fst
  rwa [hget] at hperm

/-! ## Copies stay until reported -/

/-- What every step of a run with a window keeps, whatever the order of the reports.  A copy other
than that of packet 0 is let go only by a report that has accounted for its number. -/
structure BufferInv (S : Setup) (s : State) : Prop where
  link : Link.Inv S.link s.link
  ordered : Link.Ordered s.link
  storesLack : StoresLack S s.igRegs s.lack
  copies : ∀ p ∈ s.buffer, IsCopy S p.1 p.2
  nodup : s.nums.Nodup
  below : ∀ n ∈ s.nums, n < s.link.stamped
  kept : ∀ n < s.link.stamped, n ∉ s.nums → n = 0 ∨ ∃ r ∈ s.processed, n ≤ r.accounted
  processed : ∀ r ∈ s.processed, r ∈ s.link.reports

lemma bufferInv_init (S : Setup) : BufferInv S (init S) where
  link := Link.inv_init S.link
  ordered := Link.ordered_init S.link
  storesLack := ⟨(wire_zero 16).symm, by rw [show (init S).lack = 0 from rfl, era_zero]; rfl⟩
  copies := fun _ hp => absurd hp List.not_mem_nil
  nodup := List.nodup_nil
  below := fun _ hn => absurd hn List.not_mem_nil
  kept := fun _ hn => absurd hn (Nat.not_lt_zero _)
  processed := fun _ hr => absurd hr List.not_mem_nil

lemma BufferInv.accounted_lt (h : BufferInv S s) {r : Link.Report} (hr : r ∈ s.processed) :
    r.accounted < s.link.expected := (h.ordered.span r (h.processed r hr)).2

/-- The stored leading ack is 0 or the number of a processed report. -/
lemma lack_cases (s : State) : s.lack = 0 ∨ ∃ r ∈ s.processed, s.lack = r.accounted := by
  unfold State.lack
  cases s.processed with
  | nil => exact Or.inl rfl
  | cons r rs => exact Or.inr ⟨r, List.mem_cons_self, rfl⟩

/-- The window keeps the number of packets lost in a row below the range. -/
lemma BufferInv.lossBound (h : BufferInv S s) (hw : Windowed s) :
    Link.LossBound 65536 s.link .lose := by
  intro p hp hdata
  obtain ⟨ps, hlink⟩ := List.head?_eq_some_iff.mp hp
  obtain ⟨hnum, hseq⟩ := h.link.head hlink
  have hlt : p.num < s.link.stamped := by
    have hle : p.next ≤ s.link.stamped := hseq.le
    rw [Link.Packet.next, if_pos hdata] at hle
    omega
  by_contra hbig
  have hexp : ∀ r ∈ s.processed, r.accounted < s.link.expected := fun r => h.accounted_lt
  by_cases hmem : p.num ∈ s.nums
  · have hwin := (hw p.num hmem).1
    simp only [halfRange] at hwin
    rcases lack_cases s with h0 | ⟨r, hr, hl⟩
    · omega
    · have := hexp r hr
      omega
  · rcases h.kept p.num hlt hmem with h0 | ⟨r, hr, hle⟩
    · omega
    · have := hexp r hr
      omega

lemma afterCopy_keeps (s : State) (i n : ℕ) (c : Ingress) :
    (s.afterCopy i n c).link = s.link ∧ (s.afterCopy i n c).processed = s.processed ∧
      (s.afterCopy i n c).igRegs = c.regs := by
  unfold State.afterCopy
  split <;> exact ⟨rfl, rfl, rfl⟩

lemma lack_eq_of_processed (h : s'.processed = s.processed) : s'.lack = s.lack := by
  rw [State.lack, State.lack, h]

/-- A copy that leaves the loop has been accounted for. -/
lemma afterCopy_cases {i n : ℕ} {hdr : Hdr} (h : BufferInv S s) (hw : Windowed s)
    (hget : s.buffer[i]? = some (n, hdr)) :
    (s.lack < n ∧ (s.afterCopy i n (igPass S s.igRegs recircLpbkPort hdr)).decided = s.decided ∧
      (s.afterCopy i n (igPass S s.igRegs recircLpbkPort hdr)).buffer =
        s.buffer.eraseIdx i ++ [(n, hdr)]) ∨
    (n ≤ s.lack ∧ (s.afterCopy i n (igPass S s.igRegs recircLpbkPort hdr)).decided =
        s.decided ++ [(n, if s.igRegs.HoleAt (wire 16 n) then .retransmitted else .dropped)] ∧
      (s.afterCopy i n (igPass S s.igRegs recircLpbkPort hdr)).buffer = s.buffer.eraseIdx i) := by
  have hmem := List.mem_of_getElem? hget
  have hpass := copy_spec (h.copies _ hmem) h.storesLack (hw n (List.mem_map_of_mem hmem))
  have hdec := hpass.decision
  unfold State.afterCopy
  by_cases hle : n ≤ s.lack
  · rw [if_pos hle] at hdec
    right
    refine ⟨hle, ?_⟩
    by_cases hhole : s.igRegs.HoleAt (wire 16 n)
    · rw [if_pos hhole] at hdec ⊢
      rw [hdec]
      exact ⟨rfl, rfl⟩
    · rw [if_neg hhole] at hdec ⊢
      rw [hdec]
      exact ⟨rfl, rfl⟩
  · rw [if_neg hle] at hdec
    left
    rw [hdec]
    refine ⟨by omega, rfl, ?_⟩
    rw [hpass.hdr (by omega)]

lemma BufferInv.afterLink (h : BufferInv S s) (hw : Windowed s) {le : Link.Event}
    {l : Link.State} (hstep : Link.step S.link s.link le = some l) :
    BufferInv S (s.afterLink l (newCopies S s le)) := by
  have hbound : Link.LossBound 65536 s.link le := by
    cases le with
    | lose => exact h.lossBound hw
    | data | dummy | arrive => trivial
  have hlink := Link.inv_step h.link hbound hstep
  have hord := Link.ordered_step h.link h.ordered hstep
  have hproc : ∀ r ∈ s.processed, r ∈ l.reports :=
    fun r hr => (Link.step_grows hstep).1.subset (h.processed r hr)
  -- a data packet brings one new copy, with the highest number; the other steps of the link bring
  -- none
  rcases newCopies_cases h.link hstep with ⟨copy, hnew, hcopy, hst⟩ | ⟨hnew, hst⟩
  · have hnums : (s.afterLink l (newCopies S s le)).nums = s.nums ++ [s.link.stamped] := by
      rw [State.nums, State.afterLink, hnew, List.map_append]
      rfl
    refine ⟨hlink, hord, h.storesLack, ?_, ?_, ?_, ?_, hproc⟩
    · intro p hp
      rw [State.afterLink, hnew] at hp
      rcases List.mem_append.mp hp with hp | hp
      · exact h.copies p hp
      · rw [List.mem_singleton.mp hp]
        exact hcopy
    · rw [hnums]
      refine List.nodup_append'.mpr ⟨h.nodup, List.nodup_singleton _, ?_⟩
      rw [List.disjoint_singleton]
      exact fun hm => absurd (h.below _ hm) (lt_irrefl _)
    · intro n hn
      change n < l.stamped
      rw [hnums] at hn
      rw [hst]
      rcases List.mem_append.mp hn with hn | hn
      · exact Nat.lt_succ_of_lt (h.below n hn)
      · rw [List.mem_singleton.mp hn]
        exact Nat.lt_succ_self _
    · intro n hn hout
      change n < l.stamped at hn
      rw [hnums, List.mem_append, List.mem_singleton, not_or] at hout
      exact h.kept n (by omega) hout.1
  · have hsame : s.afterLink l (newCopies S s le) = { s with link := l } := by
      rw [State.afterLink, hnew, List.append_nil]
    rw [hsame]
    refine ⟨hlink, hord, h.storesLack, h.copies, h.nodup, ?_, ?_, hproc⟩
    · intro n hn
      change n < l.stamped
      rw [hst]
      exact h.below n hn
    · intro n hn hout
      change n < l.stamped at hn
      rw [hst] at hn
      exact h.kept n hn hout

lemma BufferInv.afterReport (h : BufferInv S s) {r : Link.Report} {hdr : Hdr}
    (hr : r ∈ s.link.reports) (hb : Bears r hdr) :
    BufferInv S (s.afterReport r (igPass S s.igRegs S.link.egressPort hdr).regs) where
  link := h.link
  ordered := h.ordered
  storesLack := (report_spec _ hb (h.link.ledger.exact r hr)).1
  copies := h.copies
  nodup := h.nodup
  below := h.below
  kept := fun n hn hout => (h.kept n hn hout).imp_right
    fun ⟨r', hr', hle⟩ => ⟨r', List.mem_cons_of_mem r hr', hle⟩
  processed := by
    intro r' hr'
    rcases List.mem_cons.mp hr' with rfl | hr'
    · exact hr
    · exact h.processed r' hr'

lemma BufferInv.afterCopy (h : BufferInv S s) (hw : Windowed s) {i n : ℕ} {hdr : Hdr}
    (hget : s.buffer[i]? = some (n, hdr)) :
    BufferInv S (s.afterCopy i n (igPass S s.igRegs recircLpbkPort hdr)) := by
  have hmem := List.mem_of_getElem? hget
  have hpass := copy_spec (h.copies _ hmem) h.storesLack (hw n (List.mem_map_of_mem hmem))
  have hperm := nums_perm hget
  have hnodup := hperm.nodup_iff.mpr h.nodup
  have hcases := afterCopy_cases h hw hget
  obtain ⟨hlink, hproc, hregs⟩ :=
    afterCopy_keeps s i n (igPass S s.igRegs recircLpbkPort hdr)
  have hstores : StoresLack S (s.afterCopy i n (igPass S s.igRegs recircLpbkPort hdr)).igRegs
      (s.afterCopy i n (igPass S s.igRegs recircLpbkPort hdr)).lack := by
    rw [hregs, lack_eq_of_processed hproc]
    exact hpass.storesLack
  generalize s.afterCopy i n (igPass S s.igRegs recircLpbkPort hdr) = s' at *
  -- the copy goes back to the end of the queue, or leaves it
  rcases hcases with ⟨-, -, hbuf⟩ | ⟨hle, -, hbuf⟩
  · have hsame : s'.nums.Perm s.nums := by
      rw [State.nums, hbuf, List.map_append]
      exact (List.perm_append_singleton n _).trans hperm
    refine ⟨by rw [hlink]; exact h.link, by rw [hlink]; exact h.ordered, hstores, ?_,
      hsame.nodup_iff.mpr h.nodup, ?_, ?_, by rw [hlink, hproc]; exact h.processed⟩
    · intro p hp
      rw [hbuf] at hp
      rcases List.mem_append.mp hp with hp | hp
      · exact h.copies p (List.mem_of_mem_eraseIdx hp)
      · rw [List.mem_singleton.mp hp]
        exact h.copies _ hmem
    · intro m hm
      rw [hlink]
      exact h.below m (hsame.mem_iff.mp hm)
    · intro m hm hout
      rw [hlink] at hm
      rw [hproc]
      exact h.kept m hm fun hin => hout (hsame.mem_iff.mpr hin)
  · have hnums : s'.nums = (s.buffer.eraseIdx i).map Prod.fst := by rw [State.nums, hbuf]
    have hin : ∀ m, m ∈ s.nums ↔ m = n ∨ m ∈ s'.nums := by
      intro m
      rw [hnums, ← hperm.mem_iff, List.mem_cons]
    refine ⟨by rw [hlink]; exact h.link, by rw [hlink]; exact h.ordered, hstores, ?_, ?_, ?_, ?_,
      by rw [hlink, hproc]; exact h.processed⟩
    · intro p hp
      rw [hbuf] at hp
      exact h.copies p (List.mem_of_mem_eraseIdx hp)
    · rw [hnums]
      exact (List.nodup_cons.mp hnodup).2
    · intro m hm
      rw [hlink]
      exact h.below m ((hin m).mpr (Or.inr hm))
    · intro m hm hout
      rw [hlink] at hm
      rw [hproc]
      by_cases hmn : m = n
      · -- the copy leaves because the stored leading ack covers it: that came with a report, or is
        -- the 0 of power-on
        rw [hmn]
        rcases lack_cases s with h0 | ⟨r, hr, hl⟩
        · exact Or.inl (by omega)
        · exact Or.inr ⟨r, hr, by omega⟩
      · exact h.kept m hm fun hm' => ((hin m).mp hm').elim hmn hout

/-- **Step lemma**: nothing leaves the loop before a report has accounted for it, 0 excepted. -/
theorem bufferInv_step {e : Event} (h : BufferInv S s) (hw : Windowed s)
    (hs : step S s e = some s') : BufferInv S s' := by
  rcases step_cases hs with ⟨le, l, rfl, hstep, rfl⟩ | ⟨i, hdr, r, rfl, hget, hb, rfl⟩ |
    ⟨i, n, hdr, rfl, hget, rfl⟩
  · exact h.afterLink hw hstep
  · exact h.afterReport (List.mem_of_getElem? hget) hb
  · exact h.afterCopy hw hget

end LinkGuardian.Buffer
