import LinkGuardian.Dataplane.Receiver.Parser

/-!
# Receiver egress: what one pass does

The passes that touch the leading-ack registers: a mirrored lack update writes them, a loss
notification silences the pending count, and a normal or courier packet takes the leading ack
along while the count lasts.

That the update and the notification write in different places is where the order of the two starts
to matter: a notification reports its own number and leaves the register alone, and an update behind
it fills the register with an older one.
-/

namespace LinkGuardian.Receiver

open P4

namespace Egress

variable {t : EgressTables} {c : Egress}

/-! ## Lack updates -/

/-- A lack update stores its leading ack and is dropped: it is a mirror copy, and its packet has
gone its own way. -/
structure StoresUpdate (c c' : Egress) : Prop where
  dropCtl : c'.dropCtl = 1
  regLeadingAck : c'.regs.regLeadingAck = c.regs.regLeadingAck.write
    c.egMeta.igMirrorLackUpdate.fields.ingressPort c.egMeta.igMirrorLackUpdate.fields.leadingAck
  regLeadingAckEra : c'.regs.regLeadingAckEra = c.regs.regLeadingAckEra.write
    c.egMeta.igMirrorLackUpdate.fields.ingressPort
    (c.egMeta.igMirrorLackUpdate.fields.leadingAckEra.setWidth 8)

/-- **The pass of a lack update.** -/
theorem lackUpdate_pass (h : c.egMeta.igMirrorLackUpdate.valid = true) :
    StoresUpdate c (c.apply t) := by
  have hget : ∀ c : Egress, (c.getLeadingAckNotifyMaxCount t).regs = c.regs ∧
      (c.getLeadingAckNotifyMaxCount t).egMeta.igMirrorLackUpdate =
        c.egMeta.igMirrorLackUpdate := by
    intro c
    unfold getLeadingAckNotifyMaxCount
    split <;> exact ⟨rfl, rfl⟩
  obtain ⟨hregs, hmeta⟩ := hget c
  simp only [apply, h, if_true]
  refine ⟨rfl, ?_, ?_⟩
  · change (c.getLeadingAckNotifyMaxCount t).regs.regLeadingAck.write
      (c.getLeadingAckNotifyMaxCount t).egMeta.igMirrorLackUpdate.fields.ingressPort
      (c.getLeadingAckNotifyMaxCount t).egMeta.igMirrorLackUpdate.fields.leadingAck = _
    rw [hregs, hmeta]
  · change (c.getLeadingAckNotifyMaxCount t).regs.regLeadingAckEra.write
      (c.getLeadingAckNotifyMaxCount t).egMeta.igMirrorLackUpdate.fields.ingressPort
      ((c.getLeadingAckNotifyMaxCount t).egMeta.igMirrorLackUpdate.fields.leadingAckEra.setWidth
        8) = _
    rw [hregs, hmeta]

/-! ## Loss notifications -/

/-- A loss notification leaves with the leading ack and the hole of its mirror header, and no
report of the stored leading ack stays pending. -/
structure Notifies (c c' : Egress) : Prop where
  dropCtl : c'.dropCtl = c.dropCtl
  valid : c'.hdr.linkradarLack.valid = true
  leadingAck : c'.hdr.linkradarLack.fields.leadingAck =
    c.egMeta.igMirrorLossNotification.fields.leadingAck
  era : c'.hdr.linkradarLack.fields.era = c.egMeta.igMirrorLossNotification.fields.leadingAckEra
  linkradarLossNotification : c'.hdr.linkradarLossNotification =
    .of ⟨c.egMeta.igMirrorLossNotification.fields.holeSize.setWidth 8,
      c.egMeta.igMirrorLossNotification.fields.firstLostSeqNo⟩
  regs : c'.regs = { c.regs with
    regLeadingAckNotifyCount := c.regs.regLeadingAckNotifyCount.write c.portIdx 0 }

/-- **The pass of a loss notification**, not the copy that becomes a pause frame. -/
theorem lossNotification_pass (hu : c.egMeta.igMirrorLackUpdate.valid = false)
    (h : c.egMeta.igMirrorLossNotification.valid = true)
    (hrid : c.egressRid ≠ pauseFrameMcastRid) : Notifies c (c.apply t) := by
  simp only [apply, hu, h, if_true, Bool.false_eq_true, if_false, lossNotificationBranch,
    if_neg hrid]
  exact ⟨rfl, rfl, rfl, rfl, rfl, rfl⟩

/-! ## Normal and courier packets -/

/-- A normal packet or a courier, neither mirrored by the ingress nor of the receiver buffer. -/
structure IsNormalOrCourier (c : Egress) : Prop where
  igMirrorLackUpdate : c.egMeta.igMirrorLackUpdate.valid = false
  igMirrorLossNotification : c.egMeta.igMirrorLossNotification.valid = false
  eitherRxBufferedOrTimerPfc : c.egMeta.eitherRxBufferedOrTimerPfc = 0

/-- How many packets still have to take the stored leading ack along, on the port of the packet. -/
def pending (c : Egress) : BitVec 8 := c.regs.regLeadingAckNotifyCount c.portIdx

/-- A packet that takes the stored leading ack along.  The count goes down with the same pass, so
that a number is reported no more often than it was to be. -/
structure Reports (c c' : Egress) : Prop where
  dropCtl : c'.dropCtl = c.dropCtl
  valid : c'.hdr.linkradarLack.valid = true
  leadingAck : c'.hdr.linkradarLack.fields.leadingAck = c.regs.regLeadingAck c.portIdx
  era : c'.hdr.linkradarLack.fields.era = (c.regs.regLeadingAckEra c.portIdx).setWidth 1
  regs : c'.regs = { c.regs with
    regLeadingAckNotifyCount :=
      c.regs.regLeadingAckNotifyCount.write c.portIdx (c.pending - 1) }

/-- A normal packet that leaves without a report, or a courier that is dropped.  A courier has no
other purpose, so without a report it is dropped. -/
structure StaysSilent (c c' : Egress) : Prop where
  regs : c'.regs = c.regs
  silent : if c.hdr.linkradarLack.valid = true then c'.dropCtl = 1
    else c'.hdr.linkradarLack.valid = false ∧ c'.dropCtl = c.dropCtl

/-- The context in which the leading ack has been fetched. -/
def fetched (t : EgressTables) (c : Egress) : Egress :=
  c.retrieveLeadingAck.retrieveLeadingAckEra.getCourierPktMirrorSession t

/-- What fetching the leading ack does: the number and the era are in the lack header, and whether
the header is valid is still open. -/
lemma fetched_eq (t : EgressTables) (c : Egress) :
    (c.fetched t).regs = c.regs ∧ (c.fetched t).portIdx = c.portIdx ∧
      (c.fetched t).dropCtl = c.dropCtl ∧
      (c.fetched t).hdr.linkradarLack.valid = c.hdr.linkradarLack.valid ∧
      (c.fetched t).hdr.linkradarLack.fields.leadingAck = c.regs.regLeadingAck c.portIdx ∧
      (c.fetched t).hdr.linkradarLack.fields.era =
        (c.regs.regLeadingAckEra c.portIdx).setWidth 1 := by
  unfold fetched getCourierPktMirrorSession
  split <;> exact ⟨rfl, rfl, rfl, rfl, rfl, rfl⟩

lemma IsNormalOrCourier.apply_eq (h : c.IsNormalOrCourier) : c.apply t =
    { (c.fetched t).checkIfLackPending.addLackHdrOrDropMirrorCourierPkt with
      hdr := { (c.fetched t).checkIfLackPending.addLackHdrOrDropMirrorCourierPkt.hdr with
        bridgedMeta := (c.fetched t).checkIfLackPending.addLackHdrOrDropMirrorCourierPkt.hdr
          |>.bridgedMeta.setInvalid } } := by
  have hne : ¬ (c.egMeta.eitherRxBufferedOrTimerPfc = 1) := by
    rw [h.eitherRxBufferedOrTimerPfc]; decide
  simp only [apply, h.igMirrorLackUpdate, h.igMirrorLossNotification, Bool.false_eq_true, if_false,
    if_neg hne]
  rfl

lemma addLackHdr_of_pending (h : c.egMeta.isLackPending = 1) :
    c.addLackHdrOrDropMirrorCourierPkt =
      if c.hdr.linkradarLack.valid = true then c.mirrorCourierPkt else c.addLinkradarLackHdr := by
  unfold addLackHdrOrDropMirrorCourierPkt
  rw [decide_eq_true h]
  cases c.hdr.linkradarLack.valid <;> rfl

lemma addLackHdr_of_not_pending (h : c.egMeta.isLackPending = 0) :
    c.addLackHdrOrDropMirrorCourierPkt =
      if c.hdr.linkradarLack.valid = true then c.mirrorCourierPkt.drop else c := by
  unfold addLackHdrOrDropMirrorCourierPkt
  rw [decide_eq_false (by rw [h]; decide)]
  cases c.hdr.linkradarLack.valid <;> rfl

lemma checkIfLackPending_of_pos (h : 0 < c.pending) : c.checkIfLackPending = { c with
    egMeta := { c.egMeta with isLackPending := 1 }
    regs := { c.regs with
      regLeadingAckNotifyCount :=
        c.regs.regLeadingAckNotifyCount.write c.portIdx (c.pending - 1) } } := if_pos h

lemma checkIfLackPending_of_zero (h : ¬ 0 < c.pending) :
    c.checkIfLackPending = { c with egMeta := { c.egMeta with isLackPending := 0 } } := if_neg h

/-- **The pass of a normal or courier packet**: it reports the stored leading ack exactly while
reports are pending.  The two kinds differ in what happens otherwise, a normal packet goes on bare
and a courier is dropped, and in that a courier is mirrored in any case. -/
theorem normalOrCourier_pass (h : c.IsNormalOrCourier) :
    if 0 < c.pending then Reports c (c.apply t) else StaysSilent c (c.apply t) := by
  obtain ⟨hregs, hidx, hdrop, hvalid, hack, hera⟩ := fetched_eq t c
  have hpend : (c.fetched t).pending = c.pending := by rw [pending, hregs, hidx]; rfl
  rw [h.apply_eq]
  by_cases hp : 0 < c.pending
  · have hcount : (c.fetched t).checkIfLackPending.regs = { c.regs with
        regLeadingAckNotifyCount :=
          c.regs.regLeadingAckNotifyCount.write c.portIdx (c.pending - 1) } := by
      rw [checkIfLackPending_of_pos (by rwa [hpend]), hpend, hidx, hregs]
    rw [checkIfLackPending_of_pos (by rwa [hpend])] at hcount ⊢
    rw [if_pos hp, addLackHdr_of_pending rfl]
    by_cases hv : (c.fetched t).hdr.linkradarLack.valid = true
    · rw [if_pos hv]
      exact ⟨hdrop, hv, hack, hera, hcount⟩
    · rw [if_neg hv]
      exact ⟨hdrop, rfl, hack, hera, hcount⟩
  · -- nothing is counted down, and the registers stay as they are
    rw [if_neg hp, checkIfLackPending_of_zero (by rwa [hpend]), addLackHdr_of_not_pending rfl]
    by_cases hv : (c.fetched t).hdr.linkradarLack.valid = true
    · rw [if_pos hv]
      exact ⟨hregs, by rw [if_pos (hvalid ▸ hv)]; rfl⟩
    · rw [if_neg hv]
      exact ⟨hregs, by rw [if_neg (hvalid ▸ hv)]; exact ⟨by simpa using hv, hdrop⟩⟩

end Egress

end LinkGuardian.Receiver
