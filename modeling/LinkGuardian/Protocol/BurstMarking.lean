import LinkGuardian.Dataplane.Receiver.EgressSpec
import LinkGuardian.Dataplane.Sender.IngressSpec

/-!
# Marking a burst of losses

The receiver counts a burst of `n` lost packets in 16 bits, narrows the count to 8 bits when it
builds the loss notification, and the sender marks the first lost number and up to four more by
the narrowed count.  `Announced` follows a burst from the receiver's ingress to the headers that
reach the sender, and `burst_marks_iff` says for which bursts the sender marks the first five
lost numbers, or all of them.
-/

namespace LinkGuardian.Burst

open SerialNumber

/-- The ingress of the receiver ends in `c` and mirrors a loss notification, whose egress pass is
`e`; the sender receives it with the headers `hdr`. -/
structure Announced (te : Receiver.EgressTables) (c : Receiver.Ingress) (e : Receiver.Egress)
    (hdr : Sender.Hdr) : Prop where
  mirrorType : c.mirrorType = Receiver.igMirrorLossNotification
  mirrored : c.mirrorEmit = some (.lossNotification e.egMeta.igMirrorLossNotification.fields)
  igMirrorLossNotification : e.egMeta.igMirrorLossNotification.valid = true
  igMirrorLackUpdate : e.egMeta.igMirrorLackUpdate.valid = false
  egressRid : e.egressRid ≠ Receiver.pauseFrameMcastRid
  pktgenTimer : hdr.pktgenTimer.valid = false
  linkradarLack : hdr.linkradarLack.valid = true
  linkradarLossNotification :
    hdr.linkradarLossNotification = (e.apply te).hdr.linkradarLossNotification

instance (te : Receiver.EgressTables) (c : Receiver.Ingress) (e : Receiver.Egress)
    (hdr : Sender.Hdr) : Decidable (Announced te c e hdr) :=
  decidable_of_iff (_ ∧ _ ∧ _ ∧ _ ∧ _ ∧ _ ∧ _ ∧ _)
    ⟨fun ⟨h₁, h₂, h₃, h₄, h₅, h₆, h₇, h₈⟩ => ⟨h₁, h₂, h₃, h₄, h₅, h₆, h₇, h₈⟩,
      fun ⟨h₁, h₂, h₃, h₄, h₅, h₆, h₇, h₈⟩ => ⟨h₁, h₂, h₃, h₄, h₅, h₆, h₇, h₈⟩⟩

variable {te : Receiver.EgressTables} {c : Receiver.Ingress} {e : Receiver.Egress}
  {hdr : Sender.Hdr}

/-- The notification carries the low 8 bits of the loss count. -/
lemma Announced.fields (h : Announced te c e hdr) : hdr.linkradarLossNotification =
    .of ⟨c.igMeta.pktsLost.setWidth 8, c.igMeta.expectedSeqNo⟩ := by
  have hm := h.mirrored
  have hne : ¬ (Receiver.igMirrorLossNotification = Receiver.igMirrorLackUpdate) := by decide
  rw [Receiver.Ingress.mirrorEmit, h.mirrorType, if_neg hne, if_pos rfl, Option.some_inj,
    Receiver.IgMirror.lossNotification.injEq] at hm
  have hpass := Receiver.Egress.lossNotification_pass (t := te) h.igMirrorLackUpdate
    h.igMirrorLossNotification h.egressRid
  rw [h.linkradarLossNotification, hpass.linkradarLossNotification, ← hm]

/-- The registers of the sender after it has processed the notification. -/
def processed (ts : Sender.IngressTables) (regs : Sender.IngressRegs) (port : PortId)
    (tstamp : BitVec 48) (hdr : Sender.Hdr) : Sender.IngressRegs :=
  ((Sender.Ingress.start regs port tstamp hdr).apply ts).regs

lemma holeAt_processed (h : Announced te c e hdr) (ts : Sender.IngressTables)
    (regs : Sender.IngressRegs) (port : PortId) (tstamp : BitVec 48) (s : SeqNo) :
    (processed ts regs port tstamp hdr).HoleAt s ↔ regs.HoleAt s ∨
      ∃ i < 5, (i = 0 ∨ i < c.igMeta.pktsLost.toNat % 256) ∧
        s = c.igMeta.expectedSeqNo + wire 16 i := by
  have hvalid : hdr.linkradarLossNotification.valid = true := by rw [h.fields]; rfl
  have hpass := Sender.Ingress.report_pass (t := ts)
    (c := Sender.Ingress.start regs port tstamp hdr) ⟨h.pktgenTimer, h.linkradarLack⟩
    fun _ => if_pos hvalid
  have hholes := hpass.holeAt s
  change _ ↔ regs.HoleAt s ∨ (hdr.linkradarLossNotification.valid = true ∧
    Sender.Marks hdr.linkradarLossNotification.fields s) at hholes
  rw [h.fields] at hholes
  refine hholes.trans (or_congr_right ?_)
  rw [and_iff_right (show (P4.Header.of _).valid = true from rfl)]
  show (∃ i < 5, (i = 0 ∨ i < (c.igMeta.pktsLost.setWidth 8).toNat) ∧ _) ↔ _
  rw [BitVec.toNat_setWidth]
  rfl

/-! ## Which bursts are marked -/

/-- Among the first five numbers of the burst, those that the notification does not announce
have a bit already. -/
def RestMarked (regs : Sender.IngressRegs) (f : SeqNo) (n : ℕ) : Prop :=
  ∀ j, max 1 (n % 256) ≤ j → j < min n 5 → regs.HoleAt (f + wire 16 j)

lemma restMarked_of_small {regs : Sender.IngressRegs} {f : SeqNo} {n : ℕ}
    (h : n < 256 ∨ 5 ≤ n % 256) : RestMarked regs f n := by
  intro j hle hlt
  omega

/-- **A burst leaves its first five numbers marked exactly when the narrowed count announces
them**, or else they were marked before. -/
theorem burst_marks_iff (h : Announced te c e hdr) (ts : Sender.IngressTables)
    (regs : Sender.IngressRegs) (port : PortId) (tstamp : BitVec 48) {n : ℕ} (h0 : 1 ≤ n)
    (hn : n < 65536) (hlost : c.igMeta.pktsLost = BitVec.ofNat 16 n) :
    ({s | (processed ts regs port tstamp hdr).HoleAt s} = {s | regs.HoleAt s} ∪
        {s | ∃ j < min n 5, s = c.igMeta.expectedSeqNo + wire 16 j}) ↔
      n < 256 ∨ 5 ≤ n % 256 ∨ RestMarked regs c.igMeta.expectedSeqNo n := by
  have hcount : c.igMeta.pktsLost.toNat = n := by
    rw [hlost, BitVec.toNat_ofNat]
    exact Nat.mod_eq_of_lt hn
  have hafter := holeAt_processed h ts regs port tstamp
  rw [hcount] at hafter
  constructor
  · intro hset
    refine .inr (.inr fun j hle hlt => ?_)
    have hj : (processed ts regs port tstamp hdr).HoleAt (c.igMeta.expectedSeqNo + wire 16 j) := by
      have hmem : c.igMeta.expectedSeqNo + wire 16 j ∈ {s | regs.HoleAt s} ∪
          {s | ∃ j < min n 5, s = c.igMeta.expectedSeqNo + wire 16 j} := .inr ⟨j, hlt, rfl⟩
      rwa [← hset] at hmem
    -- the number is not among those announced, which are the ones before it
    rcases (hafter _).mp hj with hold | ⟨i, hi, hi', heq⟩
    · exact hold
    · have hij : wire 16 j = wire 16 i := (BitVec.add_right_inj _).mp heq
      have := wire_inj_of_near hij (by omega) (by omega)
      omega
  · intro hcond
    have hrest : RestMarked regs c.igMeta.expectedSeqNo n := by
      rcases hcond with hsmall | hlow | hrest
      · exact restMarked_of_small (.inl hsmall)
      · exact restMarked_of_small (.inr hlow)
      · exact hrest
    ext s
    rw [Set.mem_ofPred_eq, hafter s]
    constructor
    · rintro (hold | ⟨i, hi, hi', rfl⟩)
      · exact .inl hold
      · exact .inr ⟨i, by have := Nat.mod_le n 256; omega, rfl⟩
    · rintro (hold | ⟨j, hj, rfl⟩)
      · exact .inl hold
      · by_cases hann : j = 0 ∨ j < n % 256
        · exact .inr ⟨j, by omega, hann, rfl⟩
        · exact .inl (hrest j (by omega) hj)

/-! ## A burst of 256 -/

def rxTables : Receiver.IngressTables where
  timeoutVal100ns := 70
  l2Forward := fun _ => some (.l2Switch 5)
  generateLossNotification := fun _ => some 500
  addPfcHdrAndRoute := none
  emulateRandomPktDrop := fun _ => false

def rxEgressTables : Receiver.EgressTables where
  getLeadingAckNotifyMaxCount := fun _ => none
  getCourierPktMirrorSession := fun _ => none
  addPfcC1Quanta := fun _ => none

def txTables : Sender.IngressTables where
  l2Forward := fun _ => none
  retxMcastBufferedPkt := fun _ => none
  limitPktgenTraffic := false

/-- Packet `n` arrives on port 36 of a receiver that still expects packet 0. -/
def arrival (n : ℕ) : Receiver.Ingress :=
  let data : LinkradarData := { (default : LinkradarData) with seqNo := wire 16 n }
  (Receiver.Ingress.start (.init 70) ⟨0, 1, 36, 0⟩ 0
    { (default : Receiver.Hdr) with linkradarData := .of data }).apply rxTables

/-- The egress pass of what the arrival mirrors. -/
def notification (n : ℕ) : Receiver.Egress :=
  let mirrored := match (arrival n).mirrorEmit with
    | some (.lossNotification h) => P4.Header.of h
    | _ => default
  Receiver.Egress.start .init 36 0 0 default
    { (default : Receiver.EgMeta) with igMirrorLossNotification := mirrored }

/-- What the sender receives of it. -/
def received (n : ℕ) : Sender.Hdr :=
  { (default : Sender.Hdr) with
    linkradarLack := .of default
    linkradarLossNotification :=
      ((notification n).apply rxEgressTables).hdr.linkradarLossNotification }

/-- Of a burst of 256 the receiver announces a count of 0, and the sender marks the first number
only. -/
theorem burst_of_256_marks_one :
    Announced rxEgressTables (arrival 256) (notification 256) (received 256) ∧
      (arrival 256).igMeta.pktsLost = BitVec.ofNat 16 256 ∧
      {s | (processed txTables .init 36 0 (received 256)).HoleAt s} ≠
        {s | Sender.IngressRegs.init.HoleAt s} ∪
          {s | ∃ j < min 256 5, s = (arrival 256).igMeta.expectedSeqNo + wire 16 j} := by
  have hafter : ¬ (processed txTables .init 36 0 (received 256)).HoleAt 1 := by decide +kernel
  have hone : (1 : SeqNo) = (arrival 256).igMeta.expectedSeqNo + wire 16 1 := by decide +kernel
  refine ⟨by decide +kernel, by decide +kernel, fun hset => hafter ?_⟩
  show (1 : SeqNo) ∈ {s | (processed txTables .init 36 0 (received 256)).HoleAt s}
  rw [hset]
  exact .inr ⟨1, by omega, hone⟩

/-- Of a burst of 7 the sender marks the first five numbers. -/
theorem burst_marks_iff_seven :
    {s | (processed txTables .init 36 0 (received 7)).HoleAt s} =
      {s | Sender.IngressRegs.init.HoleAt s} ∪
        {s | ∃ j < min 7 5, s = (arrival 7).igMeta.expectedSeqNo + wire 16 j} := by
  have hann : Announced rxEgressTables (arrival 7) (notification 7) (received 7) := by
    decide +kernel
  have hlost : (arrival 7).igMeta.pktsLost = BitVec.ofNat 16 7 := by decide +kernel
  exact (burst_marks_iff hann txTables .init 36 0 (by omega) (by omega) hlost).mpr
    (.inl (by omega))

end LinkGuardian.Burst
