import LinkGuardian.Dataplane.Receiver.IngressSpec
import LinkGuardian.Dataplane.Sender.IngressSpec
import LinkGuardian.Protocol.Numbering
import Mathlib.Order.Bounds.Basic

/-!
# The era-corrected comparisons

Both switches compare two packet numbers that they hold as sequence number and era bit: the
sender the number of a buffered copy with the leading ack, the receiver the number of a packet
with the one it acknowledges next.  `SenderExact w` and `ReceiverExact w` say that the tests are
the order of the numbers as long as these are at most `w` apart, and half the range of sequence
numbers is the largest such `w`.
-/

namespace LinkGuardian.EraComparison

open SerialNumber

/-- The sender has fetched the leading ack `l` for a copy with the number `n`: the context between
step 1 and step 2 of the source, with the four fields that the comparison reads. -/
structure SenderCompares (c : Sender.Ingress) (n l : ℕ) : Prop where
  bufferedSeqNo : c.igMeta.bufferedSeqNo = wire 16 n
  pktEra : c.hdr.linkradarData.fields.era = era 16 n
  currLeadingAck : c.igMeta.currLeadingAck = wire 16 l
  currEra : c.igMeta.currEra = (era 16 l).setWidth 8

/-- The test of step 3: the minimum after the correction is the number of the copy. -/
def SenderTest (c : Sender.Ingress) : Prop :=
  c.eraCorrection.getMinOfSeqLeadingAck.igMeta.minVal =
    c.eraCorrection.getMinOfSeqLeadingAck.igMeta.bufferedSeqNo

/-- The receiver has fetched the ack `l` for a packet with the number `n`. -/
structure ReceiverCompares (c : Receiver.Ingress) (n l : ℕ) : Prop where
  pktSeqNo : c.igMeta.pktSeqNo = wire 16 n
  pktEra : c.hdr.linkradarData.fields.era = era 16 n
  currAck : c.igMeta.currAck = wire 16 l
  currAckEra : c.igMeta.currAckEra = era 16 l

/-- The test in blocking mode: the minimum after the correction is the ack. -/
def ReceiverTest (c : Receiver.Ingress) : Prop :=
  c.eraCorrection.getMinCurrAckSeqNo.igMeta.minVal =
    c.eraCorrection.getMinCurrAckSeqNo.igMeta.currAck

def SenderExact (w : ℕ) : Prop :=
  ∀ n l, Within w n l → ∀ c, SenderCompares c n l → (SenderTest c ↔ n ≤ l)

def ReceiverExact (w : ℕ) : Prop :=
  ∀ n l, Within w n l → n ≠ l → ∀ c, ReceiverCompares c n l → (ReceiverTest c ↔ l < n)

lemma SenderCompares.test_iff {c : Sender.Ingress} {n l : ℕ} (h : SenderCompares c n l) :
    SenderTest c ↔ eraLe (wire 16 n) (era 16 n) (wire 16 l) (era 16 l) := by
  rw [SenderTest, Sender.Ingress.minVal_eq_bufferedSeqNo_iff c h.currEra, h.bufferedSeqNo, h.pktEra,
    h.currLeadingAck]

lemma ReceiverCompares.test_iff {c : Receiver.Ingress} {n l : ℕ} (h : ReceiverCompares c n l) :
    ReceiverTest c ↔ eraLe (wire 16 l) (era 16 l) (wire 16 n) (era 16 n) := by
  rw [ReceiverTest, Receiver.Ingress.minVal_eq_currAck_iff, h.pktSeqNo, h.pktEra, h.currAck,
    h.currAckEra]

lemma senderExact_halfRange : SenderExact halfRange := by
  intro n l hw c hc
  rw [hc.test_iff]
  exact eraLe_iff_of_within hw

lemma receiverExact_halfRange : ReceiverExact halfRange := by
  intro n l hw hne c hc
  rw [hc.test_iff, eraLe_iff_of_within hw.symm]
  omega

/-- A context of the sender in which the numbers are compared. -/
def senderComparing (n l : ℕ) : Sender.Ingress :=
  let data : LinkradarData := { (default : LinkradarData) with era := era 16 n }
  let c := Sender.Ingress.start .init 0 0 { (default : Sender.Hdr) with linkradarData := .of data }
  { c with igMeta := { c.igMeta with
      bufferedSeqNo := wire 16 n
      currLeadingAck := wire 16 l
      currEra := (era 16 l).setWidth 8 } }

lemma senderCompares_senderComparing (n l : ℕ) : SenderCompares (senderComparing n l) n l :=
  ⟨rfl, rfl, rfl, rfl⟩

/-- One more than half the range apart, the sender takes a later number for an earlier one. -/
lemma not_senderExact {w : ℕ} (hw : halfRange < w) : ¬ SenderExact w := by
  intro h
  have htest := h 65536 32767 ⟨by unfold halfRange at hw; omega, by omega⟩ _
    (senderCompares_senderComparing 65536 32767)
  have hle : eraLe (wire 16 65536) (era 16 65536) (wire 16 32767) (era 16 32767) := by
    decide +kernel
  rw [(senderCompares_senderComparing 65536 32767).test_iff] at htest
  exact absurd (htest.mp hle) (by omega)

/-- **Half the range is the largest window in which both comparisons are the true order.** -/
theorem era_comparison_largest_window :
    IsGreatest {w | SenderExact w ∧ ReceiverExact w} 32768 := by
  constructor
  · exact ⟨senderExact_halfRange, receiverExact_halfRange⟩
  · intro w hw
    by_contra hlt
    exact not_senderExact (by unfold halfRange; omega) hw.1

end LinkGuardian.EraComparison
