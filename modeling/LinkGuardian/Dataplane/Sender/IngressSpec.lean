import LinkGuardian.Dataplane.Sender.Parser
import LinkGuardian.Library.SerialNumber

/-!
# Sender ingress: what one pass does

The pass of a report from the receiver (the leading ack is stored, and a loss notification
sets hole bits) and the pass of a buffered copy (it is retransmitted, dropped or recirculated).
The five hole bitmaps matter only through their union, `IngressRegs.HoleAt`: a number is marked in
one of them, is looked up in all, and is cleared in all.

The protocol proofs take from here `report_pass` and `buffered_pass`, and no definition of the
control is unfolded in them.
-/

namespace LinkGuardian.Sender

open P4 SerialNumber

/-- Some bitmap marks the sequence number as lost. -/
def IngressRegs.HoleAt (regs : IngressRegs) (s : SeqNo) : Prop :=
  regs.regHoles1 s = 1 ∨ regs.regHoles2 s = 1 ∨ regs.regHoles3 s = 1 ∨ regs.regHoles4 s = 1 ∨
    regs.regHoles5 s = 1

instance (regs : IngressRegs) (s : SeqNo) : Decidable (regs.HoleAt s) :=
  inferInstanceAs (Decidable (_ ∨ _))

/-- The sequence numbers that a notification marks: the first lost one always, and of the four
after it those within the size of the hole.  The numbers wrap around, as the 16-bit additions of the
source do. -/
def Marks (h : LinkradarLossNotification) (s : SeqNo) : Prop :=
  ∃ i < 5, (i = 0 ∨ i < h.holeSize.toNat) ∧ s = h.firstLostSeqNo + wire 16 i

namespace Ingress

variable {t : IngressTables} {c : Ingress}

lemma write_one_eq_one (r : Register SeqNo (BitVec 1)) (x s : SeqNo) :
    r.write x 1 s = 1 ↔ r s = 1 ∨ s = x := by
  by_cases h : s = x
  · simp [h]
  · rw [Register.write_of_ne r 1 h]
    simp [h]

lemma write_zero_eq_one (r : Register SeqNo (BitVec 1)) (x s : SeqNo) :
    r.write x 0 s = 1 ↔ r s = 1 ∧ s ≠ x := by
  by_cases h : s = x
  · simp [h]
  · rw [Register.write_of_ne r 0 h]
    simp [h]

/-! ## Hole bits -/

lemma holeAt_setHoles1 (c : Ingress) (s : SeqNo) : c.setHoles1.regs.HoleAt s ↔
    c.regs.HoleAt s ∨ s = c.hdr.linkradarLossNotification.fields.firstLostSeqNo := by
  simp only [IngressRegs.HoleAt, setHoles1, write_one_eq_one]
  tauto

lemma holeAt_setHoles2 (c : Ingress) (s : SeqNo) : c.setHoles2.regs.HoleAt s ↔
    c.regs.HoleAt s ∨ s = c.igMeta.holes2SeqNo := by
  simp only [IngressRegs.HoleAt, setHoles2, write_one_eq_one]
  tauto

lemma holeAt_setHoles3 (c : Ingress) (s : SeqNo) : c.setHoles3.regs.HoleAt s ↔
    c.regs.HoleAt s ∨ s = c.igMeta.holes3SeqNo := by
  simp only [IngressRegs.HoleAt, setHoles3, write_one_eq_one]
  tauto

lemma holeAt_setHoles4 (c : Ingress) (s : SeqNo) : c.setHoles4.regs.HoleAt s ↔
    c.regs.HoleAt s ∨ s = c.igMeta.holes4SeqNo := by
  simp only [IngressRegs.HoleAt, setHoles4, write_one_eq_one]
  tauto

lemma holeAt_setHoles5 (c : Ingress) (s : SeqNo) : c.setHoles5.regs.HoleAt s ↔
    c.regs.HoleAt s ∨ s = c.igMeta.holes5SeqNo := by
  simp only [IngressRegs.HoleAt, setHoles5, write_one_eq_one]
  tauto

/-- What setting hole bits leaves alone: the packet, its metadata and the leading acks.  A rung of
the ladder can therefore be read in the context before all of them. -/
structure SameButHoles (c c' : Ingress) : Prop where
  hdr : c'.hdr = c.hdr
  igMeta : c'.igMeta = c.igMeta
  regLeadingAck : c'.regs.regLeadingAck = c.regs.regLeadingAck
  regLeadingAckEra : c'.regs.regLeadingAckEra = c.regs.regLeadingAckEra

lemma SameButHoles.trans {c c' c'' : Ingress} (h : SameButHoles c c') (h' : SameButHoles c' c'') :
    SameButHoles c c'' :=
  ⟨h'.hdr.trans h.hdr, h'.igMeta.trans h.igMeta, h'.regLeadingAck.trans h.regLeadingAck,
    h'.regLeadingAckEra.trans h.regLeadingAckEra⟩

/-- One rung of the ladder on `hole_size`, for any test `b` and any bitmap: the five rungs differ
only in these. -/
lemma holeAt_rung {b : Prop} [Decidable b] {c c' : Ingress} {x : SeqNo}
    (hset : ∀ s, c'.regs.HoleAt s ↔ c.regs.HoleAt s ∨ s = x) (s : SeqNo) :
    (if b then c' else c).regs.HoleAt s ↔ c.regs.HoleAt s ∨ (b ∧ s = x) := by
  split
  · rename_i hb
    simp [hset, hb]
  · rename_i hb
    simp [hb]

lemma sameButHoles_rung {b : Prop} [Decidable b] {c c' : Ingress} (h : SameButHoles c c') :
    SameButHoles c (if b then c' else c) := by
  split
  · exact h
  · exact ⟨rfl, rfl, rfl, rfl⟩

/-- The rungs from 2 to 5, on top of any context. -/
def setHolesFrom2 (holeSize : BitVec 8) (c : Ingress) : Ingress :=
  let c := if holeSize ≥ 2 then c.setHoles2 else c
  let c := if holeSize ≥ 3 then c.setHoles3 else c
  let c := if holeSize ≥ 4 then c.setHoles4 else c
  if holeSize ≥ 5 then c.setHoles5 else c

lemma sameButHoles_setHolesFrom2 (n : BitVec 8) (c : Ingress) :
    SameButHoles c (c.setHolesFrom2 n) := by
  have h2 : ∀ c : Ingress, SameButHoles c c.setHoles2 := fun _ => ⟨rfl, rfl, rfl, rfl⟩
  have h3 : ∀ c : Ingress, SameButHoles c c.setHoles3 := fun _ => ⟨rfl, rfl, rfl, rfl⟩
  have h4 : ∀ c : Ingress, SameButHoles c c.setHoles4 := fun _ => ⟨rfl, rfl, rfl, rfl⟩
  have h5 : ∀ c : Ingress, SameButHoles c c.setHoles5 := fun _ => ⟨rfl, rfl, rfl, rfl⟩
  exact (((sameButHoles_rung (h2 _)).trans (sameButHoles_rung (h3 _))).trans
    (sameButHoles_rung (h4 _))).trans (sameButHoles_rung (h5 _))

lemma holeAt_setHolesFrom2 (n : BitVec 8) (c : Ingress) (s : SeqNo) :
    (c.setHolesFrom2 n).regs.HoleAt s ↔ c.regs.HoleAt s ∨
      (2 ≤ n.toNat ∧ s = c.igMeta.holes2SeqNo) ∨ (3 ≤ n.toNat ∧ s = c.igMeta.holes3SeqNo) ∨
      (4 ≤ n.toNat ∧ s = c.igMeta.holes4SeqNo) ∨ (5 ≤ n.toNat ∧ s = c.igMeta.holes5SeqNo) := by
  have h2 : ∀ c : Ingress, SameButHoles c c.setHoles2 := fun _ => ⟨rfl, rfl, rfl, rfl⟩
  have h3 : ∀ c : Ingress, SameButHoles c c.setHoles3 := fun _ => ⟨rfl, rfl, rfl, rfl⟩
  have h4 : ∀ c : Ingress, SameButHoles c c.setHoles4 := fun _ => ⟨rfl, rfl, rfl, rfl⟩
  simp only [setHolesFrom2]
  rw [holeAt_rung (holeAt_setHoles5 _), holeAt_rung (holeAt_setHoles4 _),
    holeAt_rung (holeAt_setHoles3 _), holeAt_rung (holeAt_setHoles2 _),
    (sameButHoles_rung (h4 _)).igMeta, (sameButHoles_rung (h3 _)).igMeta,
    (sameButHoles_rung (h2 _)).igMeta]
  change (((_ ∨ (2 ≤ n.toNat ∧ _)) ∨ (3 ≤ n.toNat ∧ _)) ∨ (4 ≤ n.toNat ∧ _)) ∨ (5 ≤ n.toNat ∧ _) ↔ _
  tauto

/-- `setHoles` marks the numbers of the notification. -/
lemma holeAt_setHoles (h : c.igMeta.firstLostSeqNoCopy =
      c.hdr.linkradarLossNotification.fields.firstLostSeqNo) (s : SeqNo) :
    c.setHoles.regs.HoleAt s ↔
      c.regs.HoleAt s ∨ Marks c.hdr.linkradarLossNotification.fields s := by
  have hladder := holeAt_setHolesFrom2 c.hdr.linkradarLossNotification.fields.holeSize
    c.prepMultiHoleSeqNos.setHoles1 s
  rw [holeAt_setHoles1] at hladder
  change c.setHoles.regs.HoleAt s ↔ _ at hladder
  rw [hladder]
  change (c.regs.HoleAt s ∨ s = c.hdr.linkradarLossNotification.fields.firstLostSeqNo) ∨
    (_ ∧ s = c.igMeta.firstLostSeqNoCopy + 1) ∨ (_ ∧ s = c.igMeta.firstLostSeqNoCopy + 2) ∨
    (_ ∧ s = c.igMeta.firstLostSeqNoCopy + 3) ∨ (_ ∧ s = c.igMeta.firstLostSeqNoCopy + 4) ↔ _
  rw [h, or_assoc]
  apply or_congr_right
  generalize c.hdr.linkradarLossNotification.fields = n
  constructor
  · -- the first number has no threshold, so that its index takes the left half of `Marks`
    rintro (hs | ⟨hn, hs⟩ | ⟨hn, hs⟩ | ⟨hn, hs⟩ | ⟨hn, hs⟩)
    · exact ⟨0, by omega, Or.inl rfl, by rw [hs]; simp⟩
    · exact ⟨1, by omega, Or.inr (by omega), hs⟩
    · exact ⟨2, by omega, Or.inr (by omega), hs⟩
    · exact ⟨3, by omega, Or.inr (by omega), hs⟩
    · exact ⟨4, by omega, Or.inr (by omega), hs⟩
  · rintro ⟨i, hi, hn, hs⟩
    have hcases : i = 0 ∨ i = 1 ∨ i = 2 ∨ i = 3 ∨ i = 4 := by omega
    rcases hcases with rfl | rfl | rfl | rfl | rfl
    · exact Or.inl (by rw [hs]; simp)
    · exact Or.inr (Or.inl ⟨by omega, hs⟩)
    · exact Or.inr (Or.inr (Or.inl ⟨by omega, hs⟩))
    · exact Or.inr (Or.inr (Or.inr (Or.inl ⟨by omega, hs⟩)))
    · exact Or.inr (Or.inr (Or.inr (Or.inr ⟨by omega, hs⟩)))

/-! ## Reports -/

lemma l2Forward_regs (t : IngressTables) (c : Ingress) : (c.l2Forward t).regs = c.regs := by
  unfold l2Forward
  split <;> rfl

/-- A packet with a leading ack, not one of the packet generator.  It may be a courier, a loss
notification, or a normal packet that a leading ack came along with: the registers do not tell them
apart. -/
structure IsReport (c : Ingress) : Prop where
  pktgenTimer : c.hdr.pktgenTimer.valid = false
  linkradarLack : c.hdr.linkradarLack.valid = true

lemma IsReport.apply_regs (h : c.IsReport) : (c.apply t).regs = c.lackBranch.regs := by
  have hregs : ∀ c' : Ingress, (if c'.bypassEgress = 0 then c'.addBridgedMetadata else c').regs =
      c'.regs := fun c' => by split <;> rfl
  simp only [apply, h.pktgenTimer, h.linkradarLack, if_true, Bool.false_eq_true, if_false, hregs]
  split
  · exact l2Forward_regs t _
  · rfl

/-- What the storing of the leading ack leaves to `setHoles`.  The packet may be dropped or
decapsulated before the holes are set; neither touches what is read then. -/
lemma afterLack_keeps (c : Ingress) :
    let c' := c.recordLeadingAck.recordLeadingAckEra.dropCourierPktOrDecapPiggybackedPkt
    c'.regs = c.recordLeadingAck.recordLeadingAckEra.regs ∧ c'.igMeta = c.igMeta ∧
      c'.hdr.linkradarLossNotification = c.hdr.linkradarLossNotification := by
  dsimp only [dropCourierPktOrDecapPiggybackedPkt]
  split <;> exact ⟨rfl, rfl, rfl⟩

/-- What a report does to the registers.  The leading ack is overwritten, holes are only added: bits
are cleared by the copies that look them up. -/
structure Records (c c' : Ingress) : Prop where
  regLeadingAck : c'.regs.regLeadingAck =
    c.regs.regLeadingAck.write (c.ingressPort.setWidth 8) c.hdr.linkradarLack.fields.leadingAck
  regLeadingAckEra : c'.regs.regLeadingAckEra =
    c.regs.regLeadingAckEra.write (c.ingressPort.setWidth 8)
      (c.hdr.linkradarLack.fields.era.setWidth 8)
  holeAt : ∀ s, c'.regs.HoleAt s ↔ c.regs.HoleAt s ∨
    (c.hdr.linkradarLossNotification.valid = true ∧
      Marks c.hdr.linkradarLossNotification.fields s)

/-- **The pass of a report**: the leading ack is stored, and the numbers announced as lost are
marked.  The copy of the first lost number that the parser makes is the one the rungs count from,
whence the hypothesis on it. -/
theorem report_pass (h : c.IsReport) (hcopy : c.hdr.linkradarLossNotification.valid = true →
      c.igMeta.firstLostSeqNoCopy = c.hdr.linkradarLossNotification.fields.firstLostSeqNo) :
    Records c (c.apply t) := by
  obtain ⟨hregs, hmeta, hnot⟩ := afterLack_keeps c
  set c' := c.recordLeadingAck.recordLeadingAckEra.dropCourierPktOrDecapPiggybackedPkt with hc'
  have hbranch : c.lackBranch = if c'.hdr.linkradarLossNotification.valid then c'.setHoles
      else c' := rfl
  -- the bits are set one after the other, and none of these steps moves a leading ack
  have hsame : SameButHoles c'.prepMultiHoleSeqNos c'.setHoles :=
    have hfirst : SameButHoles c'.prepMultiHoleSeqNos c'.prepMultiHoleSeqNos.setHoles1 :=
      ⟨rfl, rfl, rfl, rfl⟩
    hfirst.trans (sameButHoles_setHolesFrom2 _ _)
  rw [hnot] at hbranch
  by_cases hv : c.hdr.linkradarLossNotification.valid = true
  · rw [if_pos hv] at hbranch
    constructor
    · rw [h.apply_regs, hbranch, hsame.regLeadingAck]
      change c'.regs.regLeadingAck = _
      rw [hregs]
      rfl
    · rw [h.apply_regs, hbranch, hsame.regLeadingAckEra]
      change c'.regs.regLeadingAckEra = _
      rw [hregs]
      rfl
    · intro s
      rw [h.apply_regs, hbranch, holeAt_setHoles (by rw [hmeta, hnot]; exact hcopy hv), hregs, hnot]
      exact or_congr_right (iff_and_self.mpr fun _ => hv)
  · rw [if_neg hv] at hbranch
    constructor
    · rw [h.apply_regs, hbranch, hregs]
      rfl
    · rw [h.apply_regs, hbranch, hregs]
      rfl
    · intro s
      rw [h.apply_regs, hbranch, hregs]
      exact (or_iff_left fun hc => hv hc.1).symm

/-! ## Buffered copies -/

/-- A copy on its way round the loop, not a report and not one of the packet generator. -/
structure IsBuffered (c : Ingress) : Prop where
  pktgenTimer : c.hdr.pktgenTimer.valid = false
  linkradarLack : c.hdr.linkradarLack.valid = false
  linkradarBuffered : c.hdr.linkradarBuffered.valid = true

/-- The register index of the port that a copy is for. -/
def copyIdx (c : Ingress) : BitVec 8 := c.hdr.linkradarBuffered.fields.dstEgPort.setWidth 8

/-- Whether the copy's number is at most the stored leading ack, era bits considered.  This is the
abstract form of the test in `bufferedBranch`: it says nothing of minima and adjusted numbers, and
in the protocol proofs it becomes `n ≤ lack` on numbers that do not wrap. -/
def Acknowledged (c : Ingress) : Prop :=
  eraLe c.hdr.linkradarData.fields.seqNo c.hdr.linkradarData.fields.era
    (c.regs.regLeadingAck c.copyIdx) ((c.regs.regLeadingAckEra c.copyIdx).setWidth 1)

instance (c : Ingress) : Decidable c.Acknowledged := inferInstanceAs (Decidable (eraLe _ _ _ _))

lemma eraCorrection_eq (c : Ingress) {e : BitVec 1} (he : c.igMeta.currEra = e.setWidth 8) :
    c.eraCorrection = if c.hdr.linkradarData.fields.era = e then c else c.adjustSeqNos := by
  have hbits : ∀ b : BitVec 1, b = 0 ∨ b = 1 := by decide
  unfold eraCorrection
  rw [he]
  rcases hbits c.hdr.linkradarData.fields.era with h | h <;> rcases hbits e with h' | h' <;>
    rw [h, h'] <;> rfl

/-- The test on the minimum is the era-corrected comparison.  Both sides of it may have been moved
by half the range, but by the same amount. -/
lemma minVal_eq_bufferedSeqNo_iff (c : Ingress) {e : BitVec 1}
    (he : c.igMeta.currEra = e.setWidth 8) :
    c.eraCorrection.getMinOfSeqLeadingAck.igMeta.minVal =
        c.eraCorrection.getMinOfSeqLeadingAck.igMeta.bufferedSeqNo ↔
      eraLe c.igMeta.bufferedSeqNo c.hdr.linkradarData.fields.era c.igMeta.currLeadingAck e := by
  rw [eraCorrection_eq c he]
  unfold eraLe
  split
  · exact min_eq_left_iff _ _
  · exact min_eq_left_iff _ _

/-- What reading and comparing the leading ack leaves alone. -/
lemma eraCorrection_keeps (c : Ingress) :
    c.eraCorrection.hdr = c.hdr ∧ c.eraCorrection.regs = c.regs ∧
      c.eraCorrection.dropCtl = c.dropCtl ∧ c.eraCorrection.bypassEgress = c.bypassEgress ∧
      c.eraCorrection.igMeta.retx = c.igMeta.retx := by
  unfold eraCorrection
  split <;> exact ⟨rfl, rfl, rfl, rfl, rfl⟩

/-- A copy that stays in the loop.  It comes back as it went, and the pass leaves nothing behind. -/
structure Recirculates (c c' : Ingress) : Prop where
  hdr : c'.hdr = c.hdr
  regs : c'.regs = c.regs
  dropCtl : c'.dropCtl = c.dropCtl
  ucastEgressPort : c'.ucastEgressPort = recircLpbkPort
  retx : c'.igMeta.retx = c.igMeta.retx

/-- A copy that leaves the loop clears its bit in every bitmap, so that the number is free to be
marked again when it comes round. -/
structure ClearsHole (c c' : Ingress) : Prop where
  regLeadingAck : c'.regs.regLeadingAck = c.regs.regLeadingAck
  regLeadingAckEra : c'.regs.regLeadingAckEra = c.regs.regLeadingAckEra
  holeAt : ∀ s, c'.regs.HoleAt s ↔ c.regs.HoleAt s ∧ s ≠ c.hdr.linkradarData.fields.seqNo

/-- A copy that is retransmitted on the port it is for. -/
structure Retransmits (t : IngressTables) (c c' : Ingress) : Prop extends ClearsHole c c' where
  retx : c'.igMeta.retx = 1
  dropCtl : c'.dropCtl = c.dropCtl
  linkradarBuffered : c'.hdr.linkradarBuffered.valid = false
  linkradarData : c'.hdr.linkradarData = c.hdr.linkradarData.modify fun d => { d with reTx := 1 }
  qid : c'.qid = retxQid
  bypassEgress : c'.bypassEgress = 1
  destination : match t.retxMcastBufferedPkt c.hdr.linkradarBuffered.fields.dstEgPort with
    | some .doRetxBufferedPktUcast =>
      c'.ucastEgressPort = c.hdr.linkradarBuffered.fields.dstEgPort
    | some (.doRetxBufferedPktMcast grpId) => c'.mcastGrpA = grpId
    | none => False

/-- A copy that is dropped.  The bit of its number is cleared for the next round of the numbers. -/
structure DropsCopy (c c' : Ingress) : Prop extends ClearsHole c c' where
  retx : c'.igMeta.retx = 0
  dropCtl : c'.dropCtl = 1

lemma holeAt_checkResetHoles (c : Ingress) (s : SeqNo) : c.checkResetHoles.regs.HoleAt s ↔
    c.regs.HoleAt s ∧ s ≠ c.hdr.linkradarData.fields.seqNo := by
  simp only [IngressRegs.HoleAt, checkResetHoles, write_zero_eq_one]
  tauto

lemma clearsHole_checkResetHoles (c : Ingress) : ClearsHole c c.checkResetHoles :=
  ⟨rfl, rfl, holeAt_checkResetHoles c⟩

/-- The decision reads the bits that the copy found: they are cleared in the same access, and the
metadata keep what they were. -/
lemma decideRetxOrDrop_eq (c : Ingress) :
    c.checkResetHoles.decideRetxOrDrop =
      if c.regs.HoleAt c.hdr.linkradarData.fields.seqNo then c.checkResetHoles.setBufferedPktRetx
      else c.checkResetHoles.dropBufferedPkt := by
  by_cases h : c.regs.HoleAt c.hdr.linkradarData.fields.seqNo
  · rw [if_pos h]
    exact if_pos h
  · rw [if_neg h]
    exact if_neg h

lemma retransmits_of_entry {action : RetxAction}
    (ht : t.retxMcastBufferedPkt c.hdr.linkradarBuffered.fields.dstEgPort = some action) :
    Retransmits t c (c.checkResetHoles.setBufferedPktRetx.retxMcastBufferedPkt t) := by
  have hkey : t.retxMcastBufferedPkt
      c.checkResetHoles.setBufferedPktRetx.hdr.linkradarBuffered.fields.dstEgPort =
        some action := ht
  cases action with
  | doRetxBufferedPktUcast =>
    rw [retxMcastBufferedPkt, hkey]
    dsimp only
    exact ⟨⟨rfl, rfl, holeAt_checkResetHoles c⟩, rfl, rfl, rfl, rfl, rfl, rfl, by rw [ht]; rfl⟩
  | doRetxBufferedPktMcast grpId =>
    rw [retxMcastBufferedPkt, hkey]
    dsimp only
    exact ⟨⟨rfl, rfl, holeAt_checkResetHoles c⟩, rfl, rfl, rfl, rfl, rfl, rfl, by rw [ht]; rfl⟩

/-- The context in which a copy has been compared with the leading ack, but nothing is decided. -/
def compared (c : Ingress) : Ingress :=
  c.retrieveLeadingAck.retrieveLeadingAckEra.eraCorrection.getMinOfSeqLeadingAck

lemma compared_keeps (c : Ingress) :
    c.compared.hdr = c.hdr ∧ c.compared.regs = c.regs ∧ c.compared.dropCtl = c.dropCtl ∧
      c.compared.bypassEgress = c.bypassEgress ∧ c.compared.igMeta.retx = c.igMeta.retx :=
  eraCorrection_keeps c.retrieveLeadingAck.retrieveLeadingAckEra

lemma compared_iff (c : Ingress) (hcopy : c.igMeta.bufferedSeqNo =
      c.hdr.linkradarData.fields.seqNo) {e : BitVec 1}
    (he : c.regs.regLeadingAckEra c.copyIdx = e.setWidth 8) :
    c.compared.igMeta.minVal = c.compared.igMeta.bufferedSeqNo ↔ c.Acknowledged := by
  have h := minVal_eq_bufferedSeqNo_iff c.retrieveLeadingAck.retrieveLeadingAckEra (e := e) he
  have he' : (c.regs.regLeadingAckEra c.copyIdx).setWidth 1 = e := by
    have hround : ∀ b : BitVec 1, (b.setWidth 8).setWidth 1 = b := by decide
    rw [he, hround]
  refine h.trans ?_
  unfold Acknowledged
  rw [he', ← hcopy]
  rfl

lemma Retransmits.of_keeps {c₀ c' : Ingress} (h : Retransmits t c c') (hhdr : c.hdr = c₀.hdr)
    (hregs : c.regs = c₀.regs) (hdrop : c.dropCtl = c₀.dropCtl) : Retransmits t c₀ c' := by
  obtain ⟨⟨h₁, h₂, h₃⟩, h₄, h₅, h₆, h₇, h₈, h₉, h₁₀⟩ := h
  rw [hregs] at h₁ h₂
  rw [hdrop] at h₅
  simp only [hhdr, hregs] at h₃ h₇ h₁₀
  exact ⟨⟨h₁, h₂, h₃⟩, h₄, h₅, h₆, h₇, h₈, h₉, h₁₀⟩

/-- The control on a copy, without the steps that pass it by. -/
lemma IsBuffered.apply_eq (h : c.IsBuffered)
    (hskip : (c.bufferedBranch t).hdr.linkradarBuffered.valid = true ∨
      (c.bufferedBranch t).igMeta.retx = 1) :
    c.apply t = if (c.bufferedBranch t).bypassEgress = 0 then
      (c.bufferedBranch t).addBridgedMetadata else c.bufferedBranch t := by
  -- a copy in the loop still has its header, and one that leaves it has set `retx`
  have hcond : ¬ ((!(c.bufferedBranch t).hdr.linkradarBuffered.valid) = true ∧
      (c.bufferedBranch t).igMeta.retx ≠ 1) := by
    rintro ⟨h₁, h₂⟩
    rcases hskip with hs | hs
    · rw [hs] at h₁
      cases h₁
    · exact h₂ hs
  simp only [apply, h.pktgenTimer, h.linkradarLack, h.linkradarBuffered, if_true,
    Bool.false_eq_true, if_false, if_neg hcond]

lemma bufferedBranch_eq (c : Ingress) : c.bufferedBranch t =
    if c.compared.igMeta.minVal = c.compared.igMeta.bufferedSeqNo then
      if c.compared.checkResetHoles.decideRetxOrDrop.igMeta.retx = 1 then
        c.compared.checkResetHoles.decideRetxOrDrop.retxMcastBufferedPkt t
      else c.compared.checkResetHoles.decideRetxOrDrop
    else c.compared.recirculate := rfl

/-- **The pass of a buffered copy**: recirculated while its number is ahead of the leading ack;
after that retransmitted if its number is marked as lost and dropped if not.  The era register has
eight bits, and the reports only ever write one of them; the hypothesis `he` says so, and every
state of the protocol model meets it. -/
theorem buffered_pass (h : c.IsBuffered)
    (hcopy : c.igMeta.bufferedSeqNo = c.hdr.linkradarData.fields.seqNo) {e : BitVec 1}
    (he : c.regs.regLeadingAckEra c.copyIdx = e.setWidth 8)
    (ht : (t.retxMcastBufferedPkt c.hdr.linkradarBuffered.fields.dstEgPort).isSome) :
    if c.Acknowledged then
      if c.regs.HoleAt c.hdr.linkradarData.fields.seqNo then Retransmits t c (c.apply t)
      else DropsCopy c (c.apply t)
    else Recirculates c (c.apply t) := by
  obtain ⟨hhdr, hregs, hdrop, hbyp, hretx⟩ := compared_keeps c
  obtain ⟨action, hact⟩ := Option.isSome_iff_exists.mp ht
  have hiff := compared_iff c hcopy he
  have hdecide := decideRetxOrDrop_eq c.compared
  rw [hregs, hhdr] at hdecide
  have hbranch := bufferedBranch_eq (t := t) c
  rw [hdecide] at hbranch
  by_cases hack : c.Acknowledged
  · rw [if_pos hack]
    rw [if_pos (hiff.mpr hack)] at hbranch
    by_cases hhole : c.regs.HoleAt c.hdr.linkradarData.fields.seqNo
    · rw [if_pos hhole]
      have hone : c.compared.checkResetHoles.setBufferedPktRetx.igMeta.retx = 1 := rfl
      rw [if_pos hhole, if_pos hone] at hbranch
      have hr : Retransmits t c (c.bufferedBranch t) := by
        rw [hbranch]
        exact (retransmits_of_entry (by rw [hhdr]; exact hact)).of_keeps hhdr hregs hdrop
      rw [h.apply_eq (Or.inr hr.retx), if_neg (by rw [hr.bypassEgress]; decide)]
      exact hr
    · -- the copy keeps its header, and the control after the branch passes it by
      rw [if_neg hhole]
      rw [if_neg hhole, if_neg (by change ¬((0 : BitVec 1) = 1); decide)] at hbranch
      have hclear := clearsHole_checkResetHoles c.compared
      have hd : DropsCopy c (c.bufferedBranch t) := by
        rw [hbranch]
        refine ⟨⟨?_, ?_, ?_⟩, rfl, rfl⟩
        · rw [← hregs]; exact hclear.regLeadingAck
        · rw [← hregs]; exact hclear.regLeadingAckEra
        · intro s
          rw [← hregs, ← hhdr]
          exact hclear.holeAt s
      have hvalid : (c.bufferedBranch t).hdr.linkradarBuffered.valid = true := by
        rw [hbranch]
        change c.compared.hdr.linkradarBuffered.valid = true
        rw [hhdr]
        exact h.linkradarBuffered
      rw [h.apply_eq (Or.inl hvalid)]
      split
      · exact ⟨⟨hd.regLeadingAck, hd.regLeadingAckEra, hd.holeAt⟩, hd.retx, hd.dropCtl⟩
      · exact hd
  · rw [if_neg hack]
    rw [if_neg (fun hm => hack (hiff.mp hm))] at hbranch
    have hr : Recirculates c (c.bufferedBranch t) := by
      rw [hbranch]
      exact ⟨hhdr, hregs, hdrop, rfl, hretx⟩
    have hvalid : (c.bufferedBranch t).hdr.linkradarBuffered.valid = true := by
      rw [hr.hdr]
      exact h.linkradarBuffered
    have hone : (c.bufferedBranch t).bypassEgress = 1 := by rw [hbranch]; rfl
    rw [h.apply_eq (Or.inl hvalid), if_neg (by rw [hone]; decide)]
    exact hr

end Ingress

end LinkGuardian.Sender
