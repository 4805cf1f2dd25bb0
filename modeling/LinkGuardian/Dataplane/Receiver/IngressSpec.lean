import LinkGuardian.Dataplane.Receiver.Parser
import LinkGuardian.Library.SerialNumber

/-!
# Receiver ingress: what one pass does

One lemma for each kind of packet: what hole detection reports and stores, and how a data packet
fares at the acknowledgement register (released, held back in the receiver buffer, or dropped).  The
protocol proofs use these and never unfold the control.

The two parts hardly meet.  Hole detection reads and writes the expected number and asks for a
mirror copy; the release reads and writes the acknowledgement record.  A pass runs one after the
other, and each part has a relation that says what it leaves to the other: `BeforeRelease` for the
packet and the record, `SameReport` for the mirror request.
-/

namespace LinkGuardian.Receiver

open P4 SerialNumber

namespace Ingress

/-! ## Hole detection -/

section HoleDetection

/-- The number the receiver expects after a packet: a dummy names the next one itself. -/
def nextExpected (d : LinkradarData) : SeqNo := if d.dummy = 0 then d.seqNo + 1 else d.seqNo

/-- The number up to which a packet accounts for all others: its own, or the one before it
for a dummy. -/
def accountedSeqNo (d : LinkradarData) : SeqNo := if d.dummy = 0 then d.seqNo else d.seqNo - 1

/-- The era of `accountedSeqNo`: a dummy numbered `0` speaks of the previous era. -/
def accountedEra (d : LinkradarData) : BitVec 1 :=
  if d.dummy ≠ 0 ∧ d.seqNo = 0 then ~~~ d.era else d.era

/-- Two contexts with the same packet and registers, and the same metadata as far as the
parser fills it in.  What a loss notification puts into the metadata is not among it. -/
structure SamePacket (c c' : Ingress) : Prop where
  hdr : c'.hdr = c.hdr
  portMd : c'.igMeta.portMd = c.igMeta.portMd
  pktSeqNo : c'.igMeta.pktSeqNo = c.igMeta.pktSeqNo
  regs : c'.regs = c.regs

variable (t : IngressTables) (c : Ingress)

/-- `countPktsLost` in one record update. -/
lemma countPktsLost_eq :
    c.countPktsLost = { c with
      igMeta := { c.igMeta with
        leadingAckEra := c.hdr.linkradarData.fields.era
        expectedSeqNo := c.regs.regExpectedSeqNo c.origIdx
        pktsLost := c.hdr.linkradarData.fields.seqNo - c.regs.regExpectedSeqNo c.origIdx }
      regs := { c.regs with
        regExpectedSeqNo := c.regs.regExpectedSeqNo.write c.origIdx
          (nextExpected c.hdr.linkradarData.fields) } } := by
  by_cases hd : c.hdr.linkradarData.fields.dummy = 0
  · have h : c.setLossNotificationLackEra.getUpdateExpectedSeqNo =
        c.setLossNotificationLackEra.getUpdateExpectedSeqNoNormal := if_pos hd
    rw [countPktsLost, h, nextExpected, if_pos hd]
    rfl
  · have h : c.setLossNotificationLackEra.getUpdateExpectedSeqNo =
        c.setLossNotificationLackEra.getUpdateExpectedSeqNoDummy := if_neg hd
    rw [countPktsLost, h, nextExpected, if_neg hd]
    rfl

/-- The mirror request of `generate_loss_notification` on a port that has an entry. -/
lemma generateLossNotification_eq {session : MirrorId}
    (hs : t.generateLossNotification c.igMeta.portMd.origIgPort = some session) :
    c.generateLossNotification t = { c with
      mirrorType := igMirrorLossNotification
      igMeta := { c.igMeta with
        mirrorSession := session
        internalHdrType := internalHdrTypeIgMirror
        internalHdrInfo := igMirrorLossNotification.setWidth 4 } } := by
  simp only [generateLossNotification, hs]

lemma samePacket_generateLossNotification : SamePacket c (c.generateLossNotification t) := by
  unfold generateLossNotification
  split <;> exact ⟨rfl, rfl, rfl, rfl⟩

lemma generateLossNotification_dropCtl : (c.generateLossNotification t).dropCtl = c.dropCtl := by
  unfold generateLossNotification
  split <;> rfl

variable {c} in
lemma reportHole_of_normal (hd : c.hdr.linkradarData.fields.dummy = 0) :
    c.reportHole t = (c.generateLossNotification t).setLossNotificationLackNormal :=
  if_pos (by rw [(samePacket_generateLossNotification t c).hdr]; exact hd)

variable {c} in
lemma reportHole_of_dummy (hd : c.hdr.linkradarData.fields.dummy ≠ 0) :
    c.reportHole t = (if c.hdr.linkradarData.fields.seqNo = 0 then
      (c.generateLossNotification t).setLossNotificationLackDummy.flipLossNotificationLackEra.drop
      else (c.generateLossNotification t).setLossNotificationLackDummy.drop) := by
  have hhdr := (samePacket_generateLossNotification t c).hdr
  have hset : (c.generateLossNotification t).setLossNotificationLackDummy.hdr = c.hdr := hhdr
  simp only [reportHole, hhdr, hset, if_neg hd]
  split <;> rfl

lemma samePacket_reportHole : SamePacket c (c.reportHole t) := by
  obtain ⟨h₁, h₂, h₃, h₄⟩ := samePacket_generateLossNotification t c
  by_cases hd : c.hdr.linkradarData.fields.dummy = 0
  · rw [reportHole_of_normal t hd]
    exact ⟨h₁, h₂, h₃, h₄⟩
  · rw [reportHole_of_dummy t hd]
    split <;> exact ⟨h₁, h₂, h₃, h₄⟩

/-- A reported hole stops dummies only.  The packet that reveals a hole is otherwise treated like
any other one. -/
lemma reportHole_dropCtl :
    (c.reportHole t).dropCtl =
      if c.hdr.linkradarData.fields.dummy = 0 then c.dropCtl else 1 := by
  by_cases hd : c.hdr.linkradarData.fields.dummy = 0
  · rw [reportHole_of_normal t hd, if_pos hd]
    exact generateLossNotification_dropCtl t c
  · rw [reportHole_of_dummy t hd, if_neg hd]
    split <;> rfl

/-- Hole detection leaves the packet and what the parser put into the metadata alone, and
stores the next expected number. -/
lemma samePacket_detectHole : SamePacket
    { c with regs := { c.regs with
        regExpectedSeqNo := c.regs.regExpectedSeqNo.write c.origIdx
          (nextExpected c.hdr.linkradarData.fields) } }
    (c.detectHole t) := by
  simp only [detectHole]
  split
  · obtain ⟨h₁, h₂, h₃, h₄⟩ := samePacket_reportHole t c.countPktsLost
    rw [countPktsLost_eq] at *
    exact ⟨h₁, h₂, h₃, h₄⟩
  · split <;> rw [countPktsLost_eq] <;> exact ⟨rfl, rfl, rfl, rfl⟩

/-- Dummies are always dropped, normal packets never here. -/
lemma detectHole_dropCtl :
    (c.detectHole t).dropCtl =
      if c.hdr.linkradarData.fields.dummy = 0 then c.dropCtl else 1 := by
  have heq := countPktsLost_eq c
  simp only [detectHole]
  split
  · rw [reportHole_dropCtl, heq]
  · have hhdr : c.countPktsLost.hdr = c.hdr := by rw [heq]
    rw [hhdr]
    split <;> rw [heq] <;> rfl

/-- What hole detection has mirrored towards the sender for a packet, when the receiver
expected `expected` on port `port`.  This is a function of the packet's header and of one register
cell, and it is all that the sender ever hears of a packet. -/
def reportOf (port : BitVec 8) (expected : SeqNo) (d : LinkradarData) : Option IgMirror :=
  if d.seqNo - expected ≠ 0 then
    some (.lossNotification
      { type := internalHdrTypeIgMirror
        info := igMirrorLossNotification.setWidth 4
        holeSize := d.seqNo - expected
        firstLostSeqNo := expected
        leadingAck := accountedSeqNo d
        pad := 0
        leadingAckEra := accountedEra d })
  else if d.dummy = 0 then
    some (.lackUpdate
      { type := internalHdrTypeIgMirror
        info := igMirrorLackUpdate.setWidth 4
        ingressPort := port
        leadingAck := d.seqNo
        pad := 0
        leadingAckEra := d.era })
  else none

variable {t c}

lemma reportHole_mirrorEmit
    (hs : (t.generateLossNotification c.igMeta.portMd.origIgPort).isSome)
    (he : c.igMeta.leadingAckEra = c.hdr.linkradarData.fields.era) :
    (c.reportHole t).mirrorEmit = some (.lossNotification
      { type := internalHdrTypeIgMirror
        info := igMirrorLossNotification.setWidth 4
        holeSize := c.igMeta.pktsLost
        firstLostSeqNo := c.igMeta.expectedSeqNo
        leadingAck := accountedSeqNo c.hdr.linkradarData.fields
        pad := 0
        leadingAckEra := accountedEra c.hdr.linkradarData.fields }) := by
  obtain ⟨session, hs⟩ := Option.isSome_iff_exists.mp hs
  by_cases hd : c.hdr.linkradarData.fields.dummy = 0
  · rw [reportHole_of_normal t hd, generateLossNotification_eq t c hs, accountedSeqNo,
      if_pos hd, accountedEra, if_neg (fun h => h.1 hd), ← he]
    rfl
  · rw [reportHole_of_dummy t hd, generateLossNotification_eq t c hs, accountedSeqNo, if_neg hd]
    -- only a dummy numbered 0 speaks of another era than its own
    by_cases h0 : c.hdr.linkradarData.fields.seqNo = 0
    · rw [if_pos h0, accountedEra, if_pos ⟨hd, h0⟩, ← he]
      rfl
    · rw [if_neg h0, accountedEra, if_neg (fun h => h0 h.2), ← he]
      rfl

/-- **Hole detection reports `reportOf`.** -/
lemma detectHole_mirrorEmit
    (hs : (t.generateLossNotification c.igMeta.portMd.origIgPort).isSome)
    (hm : c.mirrorType = 0) :
    (c.detectHole t).mirrorEmit =
      reportOf c.origIdx (c.regs.regExpectedSeqNo c.origIdx) c.hdr.linkradarData.fields := by
  have heq := countPktsLost_eq c
  have hlost : c.countPktsLost.igMeta.pktsLost =
      c.hdr.linkradarData.fields.seqNo - c.regs.regExpectedSeqNo c.origIdx := by rw [heq]
  have hhdr : c.countPktsLost.hdr = c.hdr := by rw [heq]
  simp only [detectHole, reportOf, hlost, hhdr]
  split
  · rw [reportHole_mirrorEmit (by rwa [heq]) (by rw [heq]), heq]
  · split
    · rw [heq]
      rfl
    · rw [heq]
      simp [drop, mirrorEmit, hm, igMirrorLackUpdate, igMirrorLossNotification]

end HoleDetection

/-! ## The acknowledgement register -/

/-- The register index a data packet uses: its own port, or for a packet from the receiver
buffer the port it once arrived on. -/
def ackIdx (c : Ingress) : BitVec 8 :=
  if c.hdr.linkradarData.fields.rxBuffered = 0 then c.origIdx
  else c.hdr.linkradarRxBuffered.fields.origIgPort

lemma fillBlockingModeOrigIgPort_eq (c : Ingress) :
    c.fillBlockingModeOrigIgPort =
      { c with igMeta := { c.igMeta with blockingModeOrigIgPort := c.ackIdx } } := by
  unfold fillBlockingModeOrigIgPort ackIdx
  split <;> rfl

/-- The test behind `min_val == curr_ack` is the era-corrected `curr_ack ≤ pkt_seq_no`.  The
adjustment is made when the eras differ, on both numbers. -/
lemma minVal_eq_currAck_iff (c : Ingress) :
    (c.eraCorrection.getMinCurrAckSeqNo.igMeta.minVal =
        c.eraCorrection.getMinCurrAckSeqNo.igMeta.currAck) ↔
      eraLe c.igMeta.currAck c.igMeta.currAckEra c.igMeta.pktSeqNo
        c.hdr.linkradarData.fields.era := by
  unfold eraCorrection eraLe
  by_cases he : c.hdr.linkradarData.fields.era = c.igMeta.currAckEra
  · rw [if_pos he, if_pos he.symm]
    exact min_eq_left_iff _ _
  · rw [if_neg he, if_neg (Ne.symm he)]
    exact min_eq_left_iff _ _

/-- A packet with the awaited number: what the control does to it.  The record moves on and its
timer starts anew, and neither header of the link protocol stays valid. -/
structure Releases (t : IngressTables) (port : BitVec 8) (c c' : Ingress) : Prop where
  linkradarData : c'.hdr.linkradarData.valid = false
  linkradarRxBuffered : c'.hdr.linkradarRxBuffered.valid = false
  dropCtl : c'.dropCtl = c.dropCtl
  regExpectedSeqNo : c'.regs.regExpectedSeqNo = c.regs.regExpectedSeqNo
  regAck : c'.regs.regAck =
    c.regs.regAck.write port ⟨(c.regs.regAck port).ackNo + 1, t.timeoutVal100ns⟩
  regAckEra : c'.regs.regAckEra =
    if (c.regs.regAck port).ackNo = maxSeqNo then
      c.regs.regAckEra.write port (~~~ c.regs.regAckEra port)
    else c.regs.regAckEra

/-- A packet that is ahead of the awaited number goes into the receiver buffer, which is the
recirculation port: it comes back with its number and asks again. -/
structure Holds (port : BitVec 8) (c c' : Ingress) : Prop where
  hdr : c'.hdr = { c.hdr with
    linkradarData := c.hdr.linkradarData.modify fun d => { d with rxBuffered := 1 }
    linkradarRxBuffered := .of ⟨port⟩ }
  dropCtl : c'.dropCtl = c.dropCtl
  ucastEgressPort : c'.ucastEgressPort = recircPortPipe0
  regs : c'.regs = c.regs

/-- A packet that is behind the awaited number is dropped.  It was handed on before, as a copy of it
that came first, or it was given up. -/
structure Drops (c c' : Ingress) : Prop where
  hdr : c'.hdr = c.hdr
  dropCtl : c'.dropCtl = 1
  regs : c'.regs = c.regs

section Release

variable {t : IngressTables} {c : Ingress}

lemma blockingMode_of_eq
    (h : (c.regs.regAck c.igMeta.blockingModeOrigIgPort).ackNo =
      c.hdr.linkradarData.fields.seqNo) :
    Releases t c.igMeta.blockingModeOrigIgPort c (c.blockingMode t) := by
  have hack : (c.getCheckUpdateCurrAck t).regs.regAck =
      c.regs.regAck.write c.igMeta.blockingModeOrigIgPort
        ⟨(c.regs.regAck c.igMeta.blockingModeOrigIgPort).ackNo + 1, t.timeoutVal100ns⟩ := if_pos h
  have hcurr : (c.getCheckUpdateCurrAck t).igMeta.currAck =
      (c.getCheckUpdateCurrAck t).hdr.linkradarData.fields.seqNo := h
  unfold blockingMode
  simp only [if_pos hcurr]
  by_cases hmax : (c.regs.regAck c.igMeta.blockingModeOrigIgPort).ackNo = maxSeqNo
  · have hmax' : (c.getCheckUpdateCurrAck t).decapLinkradarDataAndRxBufferedHdrs.igMeta.currAck =
        maxSeqNo := hmax
    rw [if_pos hmax']
    exact ⟨rfl, rfl, rfl, rfl, hack, (if_pos hmax).symm⟩
  · have hmax' : (c.getCheckUpdateCurrAck t).decapLinkradarDataAndRxBufferedHdrs.igMeta.currAck ≠
        maxSeqNo := hmax
    rw [if_neg hmax']
    exact ⟨rfl, rfl, rfl, rfl, hack, (if_neg hmax).symm⟩

lemma eraCorrection_keeps (c : Ingress) :
    c.eraCorrection.hdr = c.hdr ∧ c.eraCorrection.dropCtl = c.dropCtl ∧
      c.eraCorrection.regs = c.regs ∧
      c.eraCorrection.igMeta.blockingModeOrigIgPort = c.igMeta.blockingModeOrigIgPort := by
  unfold eraCorrection
  split <;> exact ⟨rfl, rfl, rfl, rfl⟩

/-- A number that is not awaited is held or dropped by the era-corrected comparison. -/
lemma blockingMode_of_ne
    (h : (c.regs.regAck c.igMeta.blockingModeOrigIgPort).ackNo ≠
      c.hdr.linkradarData.fields.seqNo) :
    if eraLe (c.regs.regAck c.igMeta.blockingModeOrigIgPort).ackNo
        ((c.regs.regAckEra c.igMeta.blockingModeOrigIgPort).setWidth 1)
        c.igMeta.pktSeqNo c.hdr.linkradarData.fields.era
    then Holds c.igMeta.blockingModeOrigIgPort c (c.blockingMode t)
    else Drops c (c.blockingMode t) := by
  have hregs : (c.getCheckUpdateCurrAck t).regs = c.regs := by
    have : (c.getCheckUpdateCurrAck t).regs.regAck = c.regs.regAck := if_neg h
    exact congrArg (fun r => { c.regs with regAck := r }) this
  have hcurr : (c.getCheckUpdateCurrAck t).igMeta.currAck ≠
      (c.getCheckUpdateCurrAck t).hdr.linkradarData.fields.seqNo := h
  obtain ⟨h₁, h₂, h₃, h₄⟩ := eraCorrection_keeps (c.getCheckUpdateCurrAck t).getAckEra
  have htest := minVal_eq_currAck_iff (c.getCheckUpdateCurrAck t).getAckEra
  unfold blockingMode
  simp only [if_neg hcurr]
  have hera : (c.getCheckUpdateCurrAck t).getAckEra.igMeta.currAckEra =
      (c.regs.regAckEra c.igMeta.blockingModeOrigIgPort).setWidth 1 := rfl
  by_cases hle : eraLe (c.regs.regAck c.igMeta.blockingModeOrigIgPort).ackNo
        ((c.regs.regAckEra c.igMeta.blockingModeOrigIgPort).setWidth 1)
        c.igMeta.pktSeqNo c.hdr.linkradarData.fields.era
  · rw [if_pos hle, if_pos (htest.mpr hle)]
    refine ⟨?_, h₂, rfl, h₃.trans hregs⟩
    simp only [addRxBufferedHdrAndRecirculate, getMinCurrAckSeqNo, h₁, h₄]
    rfl
  · rw [if_neg hle, if_neg (fun hm => hle (htest.mp hm))]
    exact ⟨h₁, rfl, h₃.trans hregs⟩

/-- A non-blocking packet is decapsulated and leaves the registers alone.  Its data header is gone,
and the pass has left no trace in the registers. -/
structure Decaps (c c' : Ingress) : Prop where
  linkradarData : c'.hdr.linkradarData.valid = false
  linkradarRxBuffered : c'.hdr.linkradarRxBuffered = c.hdr.linkradarRxBuffered
  dropCtl : c'.dropCtl = c.dropCtl
  regs : c'.regs = c.regs

lemma release_of_nonblocking (hm : c.hdr.linkradarData.fields.blockingMode = 0) :
    Decaps c (c.release t) := by
  simp only [release, fillBlockingModeOrigIgPort_eq, if_pos hm]
  exact ⟨rfl, rfl, rfl, rfl⟩

lemma release_of_eq (hm : c.hdr.linkradarData.fields.blockingMode ≠ 0)
    (h : (c.regs.regAck c.ackIdx).ackNo = c.hdr.linkradarData.fields.seqNo) :
    Releases t c.ackIdx c (c.release t) := by
  simp only [release, fillBlockingModeOrigIgPort_eq, if_neg hm]
  obtain ⟨h₁, h₂, h₃, h₄, h₅, h₆⟩ := blockingMode_of_eq (t := t)
    (c := { c with igMeta := { c.igMeta with blockingModeOrigIgPort := c.ackIdx } }) h
  exact ⟨h₁, h₂, h₃, h₄, h₅, h₆⟩

lemma release_of_ne (hm : c.hdr.linkradarData.fields.blockingMode ≠ 0)
    (h : (c.regs.regAck c.ackIdx).ackNo ≠ c.hdr.linkradarData.fields.seqNo) :
    if eraLe (c.regs.regAck c.ackIdx).ackNo ((c.regs.regAckEra c.ackIdx).setWidth 1)
        c.igMeta.pktSeqNo c.hdr.linkradarData.fields.era
    then Holds c.ackIdx c (c.release t)
    else Drops c (c.release t) := by
  simp only [release, fillBlockingModeOrigIgPort_eq, if_neg hm]
  have hn := blockingMode_of_ne (t := t)
    (c := { c with igMeta := { c.igMeta with blockingModeOrigIgPort := c.ackIdx } }) h
  split at hn
  · rename_i hle
    rw [if_pos hle]
    exact ⟨hn.hdr, hn.dropCtl, hn.ucastEgressPort, hn.regs⟩
  · rename_i hle
    rw [if_neg hle]
    exact ⟨hn.hdr, hn.dropCtl, hn.regs⟩

end Release

/-! ## Whole passes -/

/-- What becomes of a data packet.  It is read off the context after the pass, by
`Ingress.verdict`. -/
inductive Verdict
  | released
  | held
  | dropped
  | encapsulated
deriving DecidableEq, Repr

/-- Read off the headers and the drop bits: a packet for the receiver buffer carries both headers
of the link protocol and a released one neither, so that nothing of the protocol leaves with it.
The last verdict, a packet that goes on with one of them, is no data packet's (`IsData.pass_eq`). -/
def verdict (c : Ingress) : Verdict :=
  if c.dropCtl ≠ 0 then .dropped
  else match c.hdr.linkradarData.valid, c.hdr.linkradarRxBuffered.valid with
    | false, false => .released
    | true, true => .held
    | _, _ => .encapsulated

lemma verdict_eq_released_iff (c : Ingress) : c.verdict = .released ↔
    c.dropCtl = 0 ∧ c.hdr.linkradarData.valid = false ∧
      c.hdr.linkradarRxBuffered.valid = false := by
  unfold verdict
  split_ifs with hdrop
  · exact iff_of_false (by decide) fun h => hdrop h.1
  · rw [and_iff_right (not_not.mp hdrop)]
    cases c.hdr.linkradarData.valid <;> cases c.hdr.linkradarRxBuffered.valid <;> decide

/-- The acknowledgement record and era of a port after a data packet, and its verdict: the release
as a function of one cell of each register and of the packet's header. -/
def ackPass (timeoutVal100ns : BitVec 16) (ack : AckRecord) (ackEra : BitVec 8)
    (d : LinkradarData) : AckRecord × BitVec 8 × Verdict :=
  if d.blockingMode = 0 then (ack, ackEra, .released)
  else if ack.ackNo = d.seqNo then
    (⟨ack.ackNo + 1, timeoutVal100ns⟩, if ack.ackNo = maxSeqNo then ~~~ ackEra else ackEra,
      .released)
  else (ack, ackEra, if eraLe ack.ackNo (ackEra.setWidth 1) d.seqNo d.era then .held else .dropped)

/-- What the control does to a packet before its release: the expected number may move, and a route
is chosen, but what the release reads is as it was.  The source address of a retransmitted test
packet is not among it. -/
structure BeforeRelease (c c' : Ingress) : Prop where
  linkradarData : c'.hdr.linkradarData = c.hdr.linkradarData
  linkradarRxBuffered : c'.hdr.linkradarRxBuffered = c.hdr.linkradarRxBuffered
  pktgenTimer : c'.hdr.pktgenTimer = c.hdr.pktgenTimer
  dstAddr : c'.hdr.ethernet.fields.dstAddr = c.hdr.ethernet.fields.dstAddr
  portMd : c'.igMeta.portMd = c.igMeta.portMd
  pktSeqNo : c'.igMeta.pktSeqNo = c.igMeta.pktSeqNo
  dropCtl : c'.dropCtl = c.dropCtl
  regs : c'.regs = { c.regs with regExpectedSeqNo := c'.regs.regExpectedSeqNo }

lemma BeforeRelease.trans {a b c : Ingress} (h : BeforeRelease a b) (h' : BeforeRelease b c) :
    BeforeRelease a c where
  linkradarData := h'.linkradarData.trans h.linkradarData
  linkradarRxBuffered := h'.linkradarRxBuffered.trans h.linkradarRxBuffered
  pktgenTimer := h'.pktgenTimer.trans h.pktgenTimer
  dstAddr := h'.dstAddr.trans h.dstAddr
  portMd := h'.portMd.trans h.portMd
  pktSeqNo := h'.pktSeqNo.trans h.pktSeqNo
  dropCtl := h'.dropCtl.trans h.dropCtl
  regs := by rw [h'.regs, h.regs]

section Pass

variable {t : IngressTables} {c : Ingress}

lemma beforeRelease_l2Forward (hr : (t.l2Forward c.hdr.ethernet.fields.dstAddr).isSome) :
    BeforeRelease c (c.l2Forward t) := by
  obtain ⟨a, ha⟩ := Option.isSome_iff_exists.mp hr
  cases a <;> simp only [l2Forward, ha] <;> exact ⟨rfl, rfl, rfl, rfl, rfl, rfl, rfl, rfl⟩

lemma beforeRelease_detectHole (hd : c.hdr.linkradarData.fields.dummy = 0) :
    BeforeRelease c (c.detectHole t) := by
  obtain ⟨h₁, h₂, h₃, h₄⟩ := samePacket_detectHole t c
  have hdrop := detectHole_dropCtl t c
  rw [if_pos hd] at hdrop
  exact ⟨by rw [h₁], by rw [h₁], by rw [h₁], by rw [h₁], h₂, h₃, hdrop, by rw [h₄]⟩

lemma beforeRelease_linkProtocol (hd : c.hdr.linkradarData.fields.dummy = 0) :
    BeforeRelease c (c.linkProtocol t) := by
  unfold linkProtocol
  split
  · split
    · exact beforeRelease_detectHole hd
    · unfold retxArrival
      split <;> exact ⟨rfl, rfl, rfl, rfl, rfl, rfl, rfl, rfl⟩
  · exact ⟨rfl, rfl, rfl, rfl, rfl, rfl, rfl, rfl⟩

/-- A data packet on its way through the main branch.  It may come from the protected link, new or
retransmitted, or from the receiver buffer; that it has a route is what the source relies on
(`l2_forward above MUST work`). -/
structure IsData (t : IngressTables) (c : Ingress) : Prop where
  pktgenTimer : c.hdr.pktgenTimer.valid = false
  filterViaLpbk : c.igMeta.portMd.filterViaLpbk = 0
  linkradarData : c.hdr.linkradarData.valid = true
  dummy : c.hdr.linkradarData.fields.dummy = 0
  routable : (t.l2Forward c.hdr.ethernet.fields.dstAddr).isSome
  pktSeqNo : c.igMeta.pktSeqNo = c.hdr.linkradarData.fields.seqNo

/-- A data packet is forwarded, seen by the link protocol and then released. -/
lemma IsData.apply_eq (h : IsData t c) :
    ∃ c', BeforeRelease c c' ∧
      c.apply t = if (c'.release t).bypassEgress = 0 then (c'.release t).addBridgedMetadata
        else c'.release t := by
  have hl := beforeRelease_l2Forward h.routable
  have hp := beforeRelease_linkProtocol (t := t) (c := c.l2Forward t)
    (by rw [hl.linkradarData]; exact h.dummy)
  refine ⟨(c.l2Forward t).linkProtocol t, hl.trans hp, ?_⟩
  have hdata : ((c.l2Forward t).linkProtocol t).hdr.linkradarData = c.hdr.linkradarData :=
    (hl.trans hp).linkradarData
  have hmain : c.mainBranch t = ((c.l2Forward t).linkProtocol t).release t :=
    if_pos (by rw [hdata]; exact ⟨h.linkradarData, h.dummy⟩)
  simp only [apply, h.pktgenTimer, h.filterViaLpbk, hmain]
  rfl

/-- What stays of a header vector when the internal header is taken off at egress. -/
structure SameButBridge (c c' : Ingress) : Prop where
  hdr : c'.hdr = { c.hdr with bridgedMeta := c'.hdr.bridgedMeta }
  dropCtl : c'.dropCtl = c.dropCtl
  regs : c'.regs = c.regs

lemma SameButBridge.verdict_eq {c c' : Ingress} (h : SameButBridge c c') :
    c'.verdict = c.verdict := by
  unfold verdict
  rw [h.dropCtl, h.hdr]

lemma sameButBridge_bridge (c : Ingress) :
    SameButBridge c (if c.bypassEgress = 0 then c.addBridgedMetadata else c) := by
  split <;> exact ⟨rfl, rfl, rfl⟩

lemma ackIdx_congr {c c' : Ingress} (h : BeforeRelease c c') : c'.ackIdx = c.ackIdx := by
  unfold ackIdx origIdx
  rw [h.linkradarData, h.linkradarRxBuffered, h.portMd]

/-- **The acknowledgement pass**: registers and verdict of a data packet follow `ackPass`.  The
verdict is read off the headers that leave, so that this is also the proof that a released packet
carries none of the protocol and a held one all of it. -/
theorem IsData.pass_eq (h : IsData t c) (hdrop : c.dropCtl = 0)
    (hrx : c.hdr.linkradarData.fields.blockingMode = 0 →
      c.hdr.linkradarRxBuffered.valid = false) :
    ((c.apply t).regs.regAck c.ackIdx, (c.apply t).regs.regAckEra c.ackIdx, (c.apply t).verdict) =
      ackPass t.timeoutVal100ns (c.regs.regAck c.ackIdx) (c.regs.regAckEra c.ackIdx)
        c.hdr.linkradarData.fields := by
  obtain ⟨c', hb, happly⟩ := h.apply_eq
  have hs := sameButBridge_bridge (c'.release t)
  rw [← happly] at hs
  rw [hs.regs, hs.verdict_eq, ← ackIdx_congr hb, ← hb.linkradarData]
  have hack : c'.regs.regAck = c.regs.regAck := by rw [hb.regs]
  have hera : c'.regs.regAckEra = c.regs.regAckEra := by rw [hb.regs]
  have hdrop' : c'.dropCtl = 0 := hb.dropCtl.trans hdrop
  rw [← hack, ← hera, ackPass]
  -- the cases of `ackPass`, each from the lemma on the release that it is the summary of
  by_cases hm : c'.hdr.linkradarData.fields.blockingMode = 0
  · have hd := release_of_nonblocking (t := t) hm
    rw [hb.linkradarData] at hm
    rw [if_pos (by rw [hb.linkradarData]; exact hm), hd.regs, verdict, hd.dropCtl, hdrop',
      hd.linkradarData, hd.linkradarRxBuffered, hb.linkradarRxBuffered, hrx hm]
    rfl
  · rw [if_neg hm]
    by_cases heq : (c'.regs.regAck c'.ackIdx).ackNo = c'.hdr.linkradarData.fields.seqNo
    · have hr := release_of_eq (t := t) hm heq
      rw [if_pos heq, hr.regAck, hr.regAckEra, Register.write_same, verdict, hr.dropCtl, hdrop',
        hr.linkradarData, hr.linkradarRxBuffered]
      split <;> simp
    · have hn := release_of_ne (t := t) hm heq
      rw [hb.pktSeqNo, h.pktSeqNo, ← hb.linkradarData] at hn
      rw [if_neg heq]
      split at hn
      · rename_i hle
        have hvalid : (c'.release t).hdr.linkradarData.valid = true := by
          rw [hn.hdr, ← h.linkradarData, ← hb.linkradarData]
          rfl
        rw [if_pos hle, hn.regs, verdict, hn.dropCtl, hdrop', hvalid, hn.hdr]
        rfl
      · rename_i hle
        rw [if_neg hle, hn.regs, verdict, hn.dropCtl]
        rfl

/-- **The receiver buffer**: a held packet keeps its number, gets the `rx_buffered` header and
is routed as before when it returns.  The header names the port whose record it waits for, so that
the round through the recirculation port does not matter. -/
theorem IsData.held (h : IsData t c) (hdrop : c.dropCtl = 0)
    (hrx : c.hdr.linkradarData.fields.blockingMode = 0 →
      c.hdr.linkradarRxBuffered.valid = false) (hv : (c.apply t).verdict = .held) :
    (c.apply t).hdr.linkradarData =
        c.hdr.linkradarData.modify (fun d => { d with rxBuffered := 1 }) ∧
      (c.apply t).hdr.linkradarRxBuffered = .of ⟨c.ackIdx⟩ ∧
      (c.apply t).hdr.pktgenTimer = c.hdr.pktgenTimer ∧
      (c.apply t).hdr.ethernet.fields.dstAddr = c.hdr.ethernet.fields.dstAddr := by
  obtain ⟨c', hb, happly⟩ := h.apply_eq
  have hs := sameButBridge_bridge (c'.release t)
  rw [← happly] at hs
  have hdrop' : c'.dropCtl = 0 := hb.dropCtl.trans hdrop
  rw [hs.verdict_eq] at hv
  rw [hs.hdr, ← ackIdx_congr hb, ← hb.linkradarData, ← hb.pktgenTimer, ← hb.dstAddr]
  by_cases hm : c'.hdr.linkradarData.fields.blockingMode = 0
  · have hd := release_of_nonblocking (t := t) hm
    rw [hb.linkradarData] at hm
    rw [verdict, hd.dropCtl, hdrop', hd.linkradarData, hd.linkradarRxBuffered,
      hb.linkradarRxBuffered, hrx hm] at hv
    cases hv
  · by_cases heq : (c'.regs.regAck c'.ackIdx).ackNo = c'.hdr.linkradarData.fields.seqNo
    · have hr := release_of_eq (t := t) hm heq
      rw [verdict, hr.dropCtl, hdrop', hr.linkradarData, hr.linkradarRxBuffered] at hv
      cases hv
    · have hn := release_of_ne (t := t) hm heq
      split at hn
      · rw [hn.hdr]
        exact ⟨rfl, rfl, rfl, rfl⟩
      · rw [verdict, hn.dropCtl] at hv
        cases hv

/-! ### Hole detection over the whole pass -/

/-- Two contexts whose deparser mirrors the same, and with the same expected numbers.  The steps of
a pass after hole detection are such pairs. -/
structure SameReport (c c' : Ingress) : Prop where
  mirrorType : c'.mirrorType = c.mirrorType
  internalHdrType : c'.igMeta.internalHdrType = c.igMeta.internalHdrType
  internalHdrInfo : c'.igMeta.internalHdrInfo = c.igMeta.internalHdrInfo
  ingressPort : c'.igMeta.ingressPort = c.igMeta.ingressPort
  leadingAck : c'.igMeta.leadingAck = c.igMeta.leadingAck
  leadingAckEra : c'.igMeta.leadingAckEra = c.igMeta.leadingAckEra
  pktsLost : c'.igMeta.pktsLost = c.igMeta.pktsLost
  expectedSeqNo : c'.igMeta.expectedSeqNo = c.igMeta.expectedSeqNo
  regExpectedSeqNo : c'.regs.regExpectedSeqNo = c.regs.regExpectedSeqNo

lemma SameReport.mirrorEmit_eq {c c' : Ingress} (h : SameReport c c') :
    c'.mirrorEmit = c.mirrorEmit := by
  simp only [mirrorEmit, h.mirrorType, h.internalHdrType, h.internalHdrInfo, h.ingressPort,
    h.leadingAck, h.leadingAckEra, h.pktsLost, h.expectedSeqNo]

lemma SameReport.trans {a b c : Ingress} (h : SameReport a b) (h' : SameReport b c) :
    SameReport a c where
  mirrorType := h'.mirrorType.trans h.mirrorType
  internalHdrType := h'.internalHdrType.trans h.internalHdrType
  internalHdrInfo := h'.internalHdrInfo.trans h.internalHdrInfo
  ingressPort := h'.ingressPort.trans h.ingressPort
  leadingAck := h'.leadingAck.trans h.leadingAck
  leadingAckEra := h'.leadingAckEra.trans h.leadingAckEra
  pktsLost := h'.pktsLost.trans h.pktsLost
  expectedSeqNo := h'.expectedSeqNo.trans h.expectedSeqNo
  regExpectedSeqNo := h'.regExpectedSeqNo.trans h.regExpectedSeqNo

lemma sameReport_eraCorrection (c : Ingress) : SameReport c c.eraCorrection := by
  unfold eraCorrection
  split <;> exact ⟨rfl, rfl, rfl, rfl, rfl, rfl, rfl, rfl, rfl⟩

lemma sameReport_blockingMode (t : IngressTables) (c : Ingress) :
    SameReport c (c.blockingMode t) := by
  have hget : SameReport c (c.getCheckUpdateCurrAck t) :=
    ⟨rfl, rfl, rfl, rfl, rfl, rfl, rfl, rfl, rfl⟩
  refine hget.trans ?_
  simp only [blockingMode]
  split
  · split <;> exact ⟨rfl, rfl, rfl, rfl, rfl, rfl, rfl, rfl, rfl⟩
  · obtain ⟨h₁, h₂, h₃, h₄, h₅, h₆, h₇, h₈, h₉⟩ :=
      sameReport_eraCorrection (c.getCheckUpdateCurrAck t).getAckEra
    split <;> exact ⟨h₁, h₂, h₃, h₄, h₅, h₆, h₇, h₈, h₉⟩

lemma sameReport_release (t : IngressTables) (c : Ingress) : SameReport c (c.release t) := by
  rw [release, fillBlockingModeOrigIgPort_eq]
  dsimp only
  split
  · exact ⟨rfl, rfl, rfl, rfl, rfl, rfl, rfl, rfl, rfl⟩
  · obtain ⟨h₁, h₂, h₃, h₄, h₅, h₆, h₇, h₈, h₉⟩ := sameReport_blockingMode t
      { c with igMeta := { c.igMeta with blockingModeOrigIgPort := c.ackIdx } }
    exact ⟨h₁, h₂, h₃, h₄, h₅, h₆, h₇, h₈, h₉⟩

/-- A normal or dummy packet from the protected link, not a retransmission. -/
structure IsProtected (c : Ingress) : Prop where
  pktgenTimer : c.hdr.pktgenTimer.valid = false
  filterViaLpbk : c.igMeta.portMd.filterViaLpbk = 0
  protect : c.igMeta.portMd.protect = 1
  linkradarData : c.hdr.linkradarData.valid = true
  reTx : c.hdr.linkradarData.fields.reTx = 0

/-- **The hole-detection pass**: what a packet from the protected link leaves in the register
of expected numbers, and what is mirrored for it.  The release may come after it in the same pass;
by `SameReport` it adds nothing to the mirror request. -/
theorem IsProtected.pass_eq (h : IsProtected c) (hm : c.mirrorType = 0)
    (hs : (t.generateLossNotification c.igMeta.portMd.origIgPort).isSome) :
    (c.apply t).regs.regExpectedSeqNo =
        c.regs.regExpectedSeqNo.write c.origIdx (nextExpected c.hdr.linkradarData.fields) ∧
      (c.apply t).mirrorEmit =
        reportOf c.origIdx (c.regs.regExpectedSeqNo c.origIdx) c.hdr.linkradarData.fields := by
  have hl : SamePacket c (c.l2Forward t) ∧ (c.l2Forward t).mirrorType = 0 := by
    unfold l2Forward
    split <;> exact ⟨⟨rfl, rfl, rfl, rfl⟩, hm⟩
  obtain ⟨⟨hhdr, hmd, -, hregs⟩, hmir⟩ := hl
  have hproto : (c.l2Forward t).linkProtocol t = (c.l2Forward t).detectHole t := by
    unfold linkProtocol
    rw [if_pos (by rw [hmd, hhdr]; exact ⟨h.protect, h.linkradarData⟩),
      if_pos (by rw [hhdr]; exact h.reTx)]
  -- a normal packet is released after this, a dummy is not
  have hreport : SameReport ((c.l2Forward t).detectHole t) (c.apply t) := by
    have hmain : SameReport ((c.l2Forward t).detectHole t) (c.mainBranch t) := by
      simp only [mainBranch, hproto]
      split
      · exact sameReport_release t _
      · exact ⟨rfl, rfl, rfl, rfl, rfl, rfl, rfl, rfl, rfl⟩
    simp only [apply, h.pktgenTimer, h.filterViaLpbk]
    refine hmain.trans ?_
    change SameReport (c.mainBranch t) (if (c.mainBranch t).bypassEgress = 0 then _ else _)
    split <;> exact ⟨rfl, rfl, rfl, rfl, rfl, rfl, rfl, rfl, rfl⟩
  have hidx : (c.l2Forward t).origIdx = c.origIdx := by rw [origIdx, origIdx, hmd]
  constructor
  · rw [hreport.regExpectedSeqNo, (samePacket_detectHole t (c.l2Forward t)).regs]
    simp only [hregs, hidx, hhdr]
  · rw [hreport.mirrorEmit_eq, detectHole_mirrorEmit (by rwa [hmd]) hmir, hregs, hidx, hhdr]

/-- Only originals and dummies from the protected link move the expected number. -/
theorem apply_regExpectedSeqNo (hp : c.hdr.pktgenTimer.valid = false)
    (hf : c.igMeta.portMd.filterViaLpbk = 0) :
    (c.apply t).regs.regExpectedSeqNo =
      if (c.igMeta.portMd.protect = 1 ∧ c.hdr.linkradarData.valid) ∧
          c.hdr.linkradarData.fields.reTx = 0 then
        c.regs.regExpectedSeqNo.write c.origIdx (nextExpected c.hdr.linkradarData.fields)
      else c.regs.regExpectedSeqNo := by
  have hl : SamePacket c (c.l2Forward t) := by
    unfold l2Forward
    split <;> exact ⟨rfl, rfl, rfl, rfl⟩
  obtain ⟨hhdr, hmd, -, hregs⟩ := hl
  have hidx : (c.l2Forward t).origIdx = c.origIdx := by rw [origIdx, origIdx, hmd]
  have hproto : ((c.l2Forward t).linkProtocol t).regs.regExpectedSeqNo =
      if (c.igMeta.portMd.protect = 1 ∧ c.hdr.linkradarData.valid) ∧
          c.hdr.linkradarData.fields.reTx = 0 then
        c.regs.regExpectedSeqNo.write c.origIdx (nextExpected c.hdr.linkradarData.fields)
      else c.regs.regExpectedSeqNo := by
    unfold linkProtocol
    rw [hmd, hhdr]
    by_cases hprot : c.igMeta.portMd.protect = 1 ∧ c.hdr.linkradarData.valid
    · rw [if_pos hprot]
      by_cases hr : c.hdr.linkradarData.fields.reTx = 0
      · rw [if_pos hr, if_pos ⟨hprot, hr⟩, (samePacket_detectHole t (c.l2Forward t)).regs]
        simp only [hregs, hidx, hhdr]
      · rw [if_neg hr, if_neg (fun h => hr h.2), ← hregs]
        unfold retxArrival
        split <;> rfl
    · rw [if_neg hprot, if_neg (fun h => hprot h.1), hregs]
  have hmain : (c.mainBranch t).regs.regExpectedSeqNo =
      ((c.l2Forward t).linkProtocol t).regs.regExpectedSeqNo := by
    simp only [mainBranch]
    split
    · exact (sameReport_release t _).regExpectedSeqNo
    · rfl
  rw [← hproto, ← hmain]
  simp only [apply, hp, hf]
  change (if (c.mainBranch t).bypassEgress = 0 then _ else _ : Ingress).regs.regExpectedSeqNo = _
  split <;> rfl

/-- A dummy never touches the acknowledgement registers.  It has a number, but only to be compared
with the expected one; nothing is waited for on its account. -/
lemma dummy_pass (hp : c.hdr.pktgenTimer.valid = false)
    (hf : c.igMeta.portMd.filterViaLpbk = 0) (hd : c.hdr.linkradarData.fields.dummy ≠ 0) :
    (c.apply t).regs.regAck = c.regs.regAck ∧ (c.apply t).regs.regAckEra = c.regs.regAckEra := by
  have hl : (c.l2Forward t).hdr = c.hdr ∧ (c.l2Forward t).regs = c.regs := by
    unfold l2Forward
    split <;> exact ⟨rfl, rfl⟩
  have hproto : ((c.l2Forward t).linkProtocol t).hdr.linkradarData = c.hdr.linkradarData ∧
      ((c.l2Forward t).linkProtocol t).regs.regAck = c.regs.regAck ∧
      ((c.l2Forward t).linkProtocol t).regs.regAckEra = c.regs.regAckEra := by
    unfold linkProtocol
    split
    · split
      · obtain ⟨h₁, -, -, h₄⟩ := samePacket_detectHole t (c.l2Forward t)
        rw [h₁, h₄, hl.1, hl.2]
        exact ⟨rfl, rfl, rfl⟩
      · unfold retxArrival
        rw [← hl.1, ← hl.2]
        split <;> exact ⟨rfl, rfl, rfl⟩
    · rw [hl.1, hl.2]
      exact ⟨rfl, rfl, rfl⟩
  obtain ⟨hdata, hack, hera⟩ := hproto
  have hmain : c.mainBranch t = (c.l2Forward t).linkProtocol t :=
    if_neg (by rw [hdata]; exact fun h => hd h.2)
  simp only [apply, hp, hf]
  change (if (c.mainBranch t).bypassEgress = 0 then _ else _ : Ingress).regs.regAck = _ ∧
    (if (c.mainBranch t).bypassEgress = 0 then _ else _ : Ingress).regs.regAckEra = _
  rw [hmain, ← hack, ← hera]
  split <;> exact ⟨rfl, rfl⟩

/-! ### Timer packets -/

/-- The acknowledgement record of a port after a timer packet.  The era is not in the record: when
the number that is given up is the last of its era, the era register stays behind. -/
def timerPass (timeoutVal100ns : BitVec 16) (ack : AckRecord) (expected : SeqNo) : AckRecord :=
  if ack.ackNo - expected ≠ 0 then
    if ack.timeRemaining = 0 then ⟨ack.ackNo + 1, timeoutVal100ns⟩
    else ⟨ack.ackNo, ack.timeRemaining - 1⟩
  else ack

lemma checkTimeoutUpdateCurrAck_regs (t : IngressTables) (c : Ingress) :
    (c.checkTimeoutUpdateCurrAck t).regs = { c.regs with
      regAck := c.regs.regAck.write c.igMeta.hardCoded36
        (timerPass t.timeoutVal100ns (c.regs.regAck c.igMeta.hardCoded36)
          c.igMeta.currExpectedSeqNo) } := by
  simp only [checkTimeoutUpdateCurrAck, timerPass]
  split
  · split <;> rfl
  · rw [Register.write_self]

/-- **The timer pass** ages the acknowledgement record of port 36 and nothing else. -/
theorem timer_pass (hp : c.hdr.pktgenTimer.valid = true) :
    (c.apply t).regs = { c.regs with
      regAck := c.regs.regAck.write 36
        (timerPass t.timeoutVal100ns (c.regs.regAck 36) (c.regs.regExpectedSeqNo 36)) } := by
  have htimer : (c.timerBranch t).regs = { c.regs with
      regAck := c.regs.regAck.write 36
        (timerPass t.timeoutVal100ns (c.regs.regAck 36) (c.regs.regExpectedSeqNo 36)) } := by
    have h := checkTimeoutUpdateCurrAck_regs t
      ({ c with igMeta := { c.igMeta with hardCoded36 := 36 } } : Ingress).getCurrExpectedSeqNo
    simp only [timerBranch, addPfcHdrAndRoute]
    split <;> exact h
  simp only [apply, hp]
  change (if (c.timerBranch t).bypassEgress = 0 then _ else _ : Ingress).regs = _
  rw [← htimer]
  split <;> rfl

lemma checkTimeoutUpdateCurrAck_ackTimeoutTriggered (t : IngressTables) (c : Ingress) :
    (c.checkTimeoutUpdateCurrAck t).igMeta.ackTimeoutTriggered =
      if (c.regs.regAck c.igMeta.hardCoded36).ackNo - c.igMeta.currExpectedSeqNo ≠ 0 ∧
          (c.regs.regAck c.igMeta.hardCoded36).timeRemaining = 0 then 1 else 0 := by
  simp only [checkTimeoutUpdateCurrAck]
  split
  · rename_i hd
    split
    · rename_i ht
      rw [if_pos ⟨hd, ht⟩]
    · rename_i ht
      rw [if_neg (fun h => ht h.2)]
  · rename_i hd
    rw [if_neg (fun h => hd h.1)]

/-- A timer packet signals a timeout when the time for the number waited for is over. -/
theorem timer_ackTimeoutTriggered (hp : c.hdr.pktgenTimer.valid = true) :
    (c.apply t).igMeta.ackTimeoutTriggered =
      if (c.regs.regAck 36).ackNo - c.regs.regExpectedSeqNo 36 ≠ 0 ∧
          (c.regs.regAck 36).timeRemaining = 0 then 1 else 0 := by
  have htimer : (c.timerBranch t).igMeta.ackTimeoutTriggered =
      if (c.regs.regAck 36).ackNo - c.regs.regExpectedSeqNo 36 ≠ 0 ∧
          (c.regs.regAck 36).timeRemaining = 0 then 1 else 0 := by
    refine Eq.trans ?_ (checkTimeoutUpdateCurrAck_ackTimeoutTriggered t
      ({ c with igMeta := { c.igMeta with hardCoded36 := 36 } } : Ingress).getCurrExpectedSeqNo)
    simp only [timerBranch, addPfcHdrAndRoute]
    split <;> rfl
  simp only [apply, hp]
  change (if (c.timerBranch t).bypassEgress = 0 then _ else _ :
    Ingress).igMeta.ackTimeoutTriggered = _
  rw [← htimer]
  split <;> rfl

end Pass

end Ingress

end LinkGuardian.Receiver
