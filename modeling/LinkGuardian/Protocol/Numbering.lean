import LinkGuardian.Dataplane.Sender.EgressSpec
import LinkGuardian.Library.SerialNumber

/-!
# Packet numbers behind sequence numbers and eras

Packet `n` of a protected port carries `(n mod 65536, (n / 65536) mod 2)`, and the registers of
both switches hold such pairs too, the era in an 8-bit cell of which only the low bit counts.
`Denotes` ties a register pair to the number behind it, `Carries` a data header.  A packet that the
sender stamps carries the number that the registers of its port denoted, and moves them to the next.
-/

namespace LinkGuardian

open P4 SerialNumber

/-- Half the range of sequence numbers: how far apart compared numbers may be. -/
def halfRange : ℕ := 32768

/-- A sequence-number register and an era register hold the pair of `n`.  The pair repeats after
131072 numbers, so a register denotes many numbers; the invariants pick the one that counts the
packets. -/
structure Denotes (seqNo : SeqNo) (eraReg : BitVec 8) (n : ℕ) : Prop where
  seqNo_eq : seqNo = wire 16 n
  era_eq : eraReg.setWidth 1 = era 16 n

instance (seqNo : SeqNo) (eraReg : BitVec 8) (n : ℕ) : Decidable (Denotes seqNo eraReg n) :=
  decidable_of_iff (seqNo = wire 16 n ∧ eraReg.setWidth 1 = era 16 n)
    ⟨fun h => ⟨h.1, h.2⟩, fun h => ⟨h.1, h.2⟩⟩

/-- A data header carries the pair of `n`.  It is all of a number that travels. -/
structure Carries (d : LinkradarData) (n : ℕ) : Prop where
  seqNo_eq : d.seqNo = wire 16 n
  era_eq : d.era = era 16 n

instance (d : LinkradarData) (n : ℕ) : Decidable (Carries d n) :=
  decidable_of_iff (d.seqNo = wire 16 n ∧ d.era = era 16 n)
    ⟨fun h => ⟨h.1, h.2⟩, fun h => ⟨h.1, h.2⟩⟩

lemma maxSeqNo_eq_allOnes : maxSeqNo = BitVec.allOnes 16 := rfl

lemma denotes_zero : Denotes 0 0 0 := ⟨(wire_zero 16).symm, (era_zero 16).symm⟩

/-- Incrementing the number and toggling the era at the top of the range moves a register
pair to the next number. -/
lemma Denotes.succ {seqNo : SeqNo} {eraReg : BitVec 8} {n : ℕ} (h : Denotes seqNo eraReg n) :
    Denotes (seqNo + 1) (if seqNo = maxSeqNo then ~~~ eraReg else eraReg) (n + 1) := by
  obtain ⟨hs, he⟩ := h
  refine ⟨by rw [hs, wire_succ], ?_⟩
  split
  · rename_i hmax
    rw [hs, maxSeqNo_eq_allOnes] at hmax
    rw [era_succ_of_eq hmax, ← he, BitVec.setWidth_not (by omega)]
  · rename_i hmax
    rw [hs, maxSeqNo_eq_allOnes] at hmax
    rw [era_succ_of_ne hmax, he]

/-- Only an exact multiple of the range apart do two numbers carry the same sequence number. -/
lemma wire_eq_iff_of_within {m n : ℕ} (hw : Within halfRange m n) :
    wire 16 m = wire 16 n ↔ m = n := by
  obtain ⟨h₁, h₂⟩ := hw
  simp only [halfRange] at h₁ h₂
  constructor
  · intro h
    exact wire_inj_of_near h (by omega) (by omega)
  · intro h
    rw [h]

/-- Within half a range the era-corrected test is the order of the numbers. -/
lemma eraLe_iff_of_within {m n : ℕ} (hw : Within halfRange m n) :
    eraLe (wire 16 m) (era 16 m) (wire 16 n) (era 16 n) ↔ m ≤ n :=
  eraLe_stamp_iff (by omega) hw

/-! ## What the sender stamps -/

section Stamps

variable {p : Sender.ProtectParams} {c c' : Sender.Egress} {n : ℕ}

lemma Denotes.carries_of_stamps
    (hn : Denotes (c.regs.regSeqNo c.portIdx) (c.regs.regEra c.portIdx) n)
    (h : Sender.Egress.Stamps p c c') : Carries c'.hdr.linkradarData.fields n := by
  rw [h.linkradarData]
  exact ⟨hn.seqNo_eq, hn.era_eq⟩

lemma Denotes.succ_of_stamps
    (hn : Denotes (c.regs.regSeqNo c.portIdx) (c.regs.regEra c.portIdx) n)
    (h : Sender.Egress.Stamps p c c') :
    Denotes (c'.regs.regSeqNo c.portIdx) (c'.regs.regEra c.portIdx) (n + 1) := by
  have hsucc := hn.succ
  rw [h.regSeqNo, h.regEra, Register.write_same]
  split_ifs at hsucc ⊢ with hmax
  · rwa [Register.write_same]
  · exact hsucc

/-- The other ports keep their numbers: each has a cell of its own in both registers. -/
lemma Denotes.of_stamps_of_ne {port : BitVec 8}
    (hn : Denotes (c.regs.regSeqNo port) (c.regs.regEra port) n)
    (h : Sender.Egress.Stamps p c c') (hne : port ≠ c.portIdx) :
    Denotes (c'.regs.regSeqNo port) (c'.regs.regEra port) n := by
  rw [h.regSeqNo, h.regEra, Register.write_of_ne _ _ hne]
  split_ifs
  · rwa [Register.write_of_ne _ _ hne]
  · exact hn

end Stamps

end LinkGuardian
