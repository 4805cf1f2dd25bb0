import LinkGuardian.Dataplane.Sender.Parser

/-!
# Sender egress: what one pass does

The pass of a normal packet through a protected port (it is stamped and mirrored), the pass of its
mirrored copy, and the pass of a dummy (it is given the number of the next packet).

Marking comes before the stamp and loss emulation after it.  Each has a lemma on what it leaves
alone, so that the stamp can be read in the context in which the packet came in.
-/

namespace LinkGuardian.Sender

open P4

namespace Egress

variable {t : EgressTables} {c : Egress}

/-! ## Normal packets -/

/-- What ECN marking leaves alone. -/
structure SameButEcn (c c' : Egress) : Prop where
  hdr : c'.hdr = { c.hdr with ipv4 := c'.hdr.ipv4 }
  egressPort : c'.egressPort = c.egressPort
  dropCtl : c'.dropCtl = c.dropCtl
  mirrorType : c'.mirrorType = c.mirrorType
  regs : c'.regs = c.regs

lemma sameButEcn_ecnMarking (t : EgressTables) (c : Egress) : SameButEcn c (c.ecnMarking t) := by
  simp only [ecnMarking]
  split
  · split <;> split <;> exact ⟨rfl, rfl, rfl, rfl, rfl⟩
  · exact ⟨rfl, rfl, rfl, rfl, rfl⟩

/-- What corruption emulation leaves alone: everything but its own counter and the drop bits. -/
structure SameButDrop (c c' : Egress) : Prop where
  hdr : c'.hdr = c.hdr
  mirrorEmit : c'.mirrorEmit = c.mirrorEmit
  regSeqNo : c'.regs.regSeqNo = c.regs.regSeqNo
  regEra : c'.regs.regEra = c.regs.regEra

lemma sameButDrop_emulateCorruption (t : EgressTables) (c : Egress) :
    SameButDrop c (c.emulateCorruption t) := by
  simp only [emulateCorruption]
  split_ifs <;> exact ⟨rfl, rfl, rfl, rfl⟩

/-- The data header of the next packet of a port, from the registers before its pass. -/
def nextStamp (regs : EgressRegs) (port : BitVec 8) (p : ProtectParams) : LinkradarData where
  type := linkradarHdrTypeData
  pad := 0
  era := (regs.regEra port).setWidth 1
  reTx := 0
  dummy := 0
  blockingMode := p.blockingMode
  rxBuffered := 0
  seqNo := regs.regSeqNo port

/-- A stamped packet and its registers.  The number moves on by one and wraps around, and with the
last number the era is toggled: the pair of the two counts the packets of the port. -/
structure Stamps (p : ProtectParams) (c c' : Egress) : Prop where
  linkradarData : c'.hdr.linkradarData = .of (nextStamp c.regs c.portIdx p)
  linkradarBuffered : c'.hdr.linkradarBuffered = c.hdr.linkradarBuffered
  ethernet : c'.hdr.ethernet =
    c.hdr.ethernet.modify fun e => { e with etherType := EtherType.linkradar }
  regSeqNo : c'.regs.regSeqNo =
    c.regs.regSeqNo.write c.portIdx (c.regs.regSeqNo c.portIdx + 1)
  regEra : c'.regs.regEra =
    if c.regs.regSeqNo c.portIdx = maxSeqNo then
      c.regs.regEra.write c.portIdx (~~~ c.regs.regEra c.portIdx)
    else c.regs.regEra

/-- The mirror header of a packet that is to be buffered. -/
def bufferRequest (egressPort : PortId) : EgMirrorBufferedPkt where
  type := internalHdrTypeEgMirror
  info := egMirrorBufferedPktType.setWidth 4
  pad := 0
  emulatedDropped := 0
  dstEgPort := egressPort

lemma copyPktForBuffering_keeps (t : EgressTables) (c : Egress) :
    (c.copyPktForBuffering t).hdr = c.hdr ∧ (c.copyPktForBuffering t).regs = c.regs ∧
      (c.copyPktForBuffering t).egressPort = c.egressPort := by
  unfold copyPktForBuffering
  split <;> exact ⟨rfl, rfl, rfl⟩

/-- `protect` and what follows it. -/
lemma stamps_protectedBranch (p : ProtectParams) (c : Egress) :
    Stamps p c ((c.protect p).protectedBranch t) := by
  -- the copy for the buffer may be asked for or not, and nothing here depends on it
  obtain ⟨hhdr, hregs, hport⟩ := copyPktForBuffering_keeps t (c.protect p)
  have hseq : ((c.protect p).copyPktForBuffering t).setDummyPktNotifyMaxCount.hdr.linkradarData =
      (c.protect p).hdr.linkradarData := congrArg Hdr.linkradarData hhdr
  simp only [protectedBranch, hseq]
  have hidx : ((c.protect p).copyPktForBuffering t).portIdx = c.portIdx := by
    rw [portIdx, hport]; rfl
  split
  · rename_i hmax
    have hmax : c.regs.regSeqNo c.portIdx = maxSeqNo := hmax
    constructor
    · simp only [getUpdateEra, getEra, setDummyPktNotifyMaxCount, hhdr, hregs, portIdx, hport]
      rfl
    · simp only [getUpdateEra, getEra, setDummyPktNotifyMaxCount, hhdr]
      rfl
    · simp only [getUpdateEra, getEra, setDummyPktNotifyMaxCount, hhdr]
      rfl
    · simp only [getUpdateEra, getEra, setDummyPktNotifyMaxCount, hregs]
      rfl
    · rw [if_pos hmax]
      simp only [getUpdateEra, getEra, setDummyPktNotifyMaxCount, hregs, portIdx, hport]
      rfl
  · rename_i hmax
    have hmax : c.regs.regSeqNo c.portIdx ≠ maxSeqNo := hmax
    constructor
    · simp only [getEra, setDummyPktNotifyMaxCount, hhdr, hregs, portIdx, hport]
      rfl
    · simp only [getEra, setDummyPktNotifyMaxCount, hhdr]
      rfl
    · simp only [getEra, setDummyPktNotifyMaxCount, hhdr]
      rfl
    · simp only [getEra, setDummyPktNotifyMaxCount, hregs]
      rfl
    · rw [if_neg hmax]
      simp only [getEra, setDummyPktNotifyMaxCount, hregs]
      rfl

/-- The mirror request of a port with a `copy_pkt_for_buffering` entry. -/
lemma protectedBranch_mirrorEmit (p : ProtectParams) (c : Egress)
    (hcopy : (t.copyPktForBuffering c.egressPort).isSome) :
    ((c.protect p).protectedBranch t).mirrorEmit =
      some (.bufferedPkt (bufferRequest c.egressPort)) := by
  obtain ⟨session, hs⟩ := Option.isSome_iff_exists.mp hcopy
  have hcopied : (c.protect p).copyPktForBuffering t = (c.protect p).copyForBuffering session := by
    unfold copyPktForBuffering
    rw [show t.copyPktForBuffering (c.protect p).egressPort = some session from hs]
  simp only [protectedBranch, hcopied]
  split <;> rfl

lemma apply_of_normal (hn : c.hdr.linkradarData.valid = false) :
    c.apply t = { c.normalBranch t with
      hdr := { (c.normalBranch t).hdr with
        bridgedMeta := (c.normalBranch t).hdr.bridgedMeta.setInvalid } } := by
  simp only [apply, hn]
  rfl

/-- What the branch of normal packets comes to on a protected port. -/
lemma normalBranch_eq {p : ProtectParams} (hp : t.linkProtect c.egressPort = some p) :
    c.normalBranch t =
      (((c.ecnMarking t).protect p).protectedBranch t).emulateCorruption t := by
  have hlink : (c.ecnMarking t).linkProtect t = (c.ecnMarking t).protect p := by
    unfold linkProtect
    rw [(sameButEcn_ecnMarking t c).egressPort, hp]
  have hvalid : ((c.ecnMarking t).protect p).hdr.linkradarData.valid = true := rfl
  simp only [normalBranch, hlink, hvalid, if_true]

/-- And on any other port. -/
lemma normalBranch_of_none (hn : c.hdr.linkradarData.valid = false)
    (hp : t.linkProtect c.egressPort = none) :
    c.normalBranch t = (c.ecnMarking t).emulateCorruption t := by
  have hmark := sameButEcn_ecnMarking t c
  have hlink : (c.ecnMarking t).linkProtect t = c.ecnMarking t := by
    unfold linkProtect
    rw [hmark.egressPort, hp]
  have hvalid : (c.ecnMarking t).hdr.linkradarData.valid = false := by
    rw [hmark.hdr]
    exact hn
  simp only [normalBranch, hlink, hvalid, Bool.false_eq_true, if_false]

/-- **The pass of a normal packet through a protected port.** -/
theorem normal_pass {p : ProtectParams} (hn : c.hdr.linkradarData.valid = false)
    (hp : t.linkProtect c.egressPort = some p) : Stamps p c (c.apply t) := by
  obtain ⟨hhdr, hport, -, -, hregs⟩ := sameButEcn_ecnMarking t c
  have hidx : (c.ecnMarking t).portIdx = c.portIdx := by rw [portIdx, portIdx, hport]
  obtain ⟨h₁, h₂, h₃, h₄, h₅⟩ := stamps_protectedBranch (t := t) p (c.ecnMarking t)
  obtain ⟨g₁, -, g₃, g₄⟩ :=
    sameButDrop_emulateCorruption t (((c.ecnMarking t).protect p).protectedBranch t)
  rw [hregs, hidx] at h₁ h₄ h₅
  rw [hhdr] at h₂ h₃
  rw [apply_of_normal hn, normalBranch_eq hp]
  constructor
  · rw [← h₁, ← g₁]
  · rw [g₁]; exact h₂
  · rw [g₁]; exact h₃
  · exact g₃.trans h₄
  · exact g₄.trans h₅

/-- Off an unprotected port a packet goes without a data header, and moves no number. -/
lemma unprotected_pass (hn : c.hdr.linkradarData.valid = false)
    (hp : t.linkProtect c.egressPort = none) :
    (c.apply t).hdr.linkradarData = c.hdr.linkradarData ∧
      (c.apply t).regs.regSeqNo = c.regs.regSeqNo ∧ (c.apply t).regs.regEra = c.regs.regEra := by
  have hmark := sameButEcn_ecnMarking t c
  obtain ⟨hhdr, -, hseq, hera⟩ := sameButDrop_emulateCorruption t (c.ecnMarking t)
  rw [apply_of_normal hn, normalBranch_of_none hn hp]
  rw [hmark.regs] at hseq hera
  refine ⟨?_, hseq, hera⟩
  change ((c.ecnMarking t).emulateCorruption t).hdr.linkradarData = c.hdr.linkradarData
  rw [hhdr, hmark.hdr]

/-- Every stamped packet is mirrored for buffering, also one that loss emulation takes: its loss is
to be repaired like a real one. -/
theorem normal_pass_mirrorEmit {p : ProtectParams} (hn : c.hdr.linkradarData.valid = false)
    (hp : t.linkProtect c.egressPort = some p)
    (hcopy : (t.copyPktForBuffering c.egressPort).isSome) :
    (c.apply t).mirrorEmit = some (.bufferedPkt (bufferRequest c.egressPort)) := by
  have hport := (sameButEcn_ecnMarking t c).egressPort
  have hmir := protectedBranch_mirrorEmit (t := t) p (c.ecnMarking t) (by rwa [hport])
  rw [hport] at hmir
  rw [apply_of_normal hn, normalBranch_eq hp]
  exact (sameButDrop_emulateCorruption t _).mirrorEmit.trans hmir

/-! ## Buffered copies -/

/-- **The pass of a mirrored copy**: it gets the buffered header with the port it is for. -/
theorem buffered_pass (hd : c.hdr.linkradarData.valid = true)
    (hm : c.egMeta.egMirrorBufferedPkt.valid = true) :
    (c.apply t).hdr = { c.hdr with
      bridgedMeta := c.hdr.bridgedMeta.setInvalid
      linkradarBuffered := .of
        { c.hdr.linkradarBuffered.fields with
          type := linkradarHdrTypeTxBuffered
          dstEgPort := c.egMeta.egMirrorBufferedPkt.fields.dstEgPort } } ∧
      (c.apply t).dropCtl = c.dropCtl ∧ (c.apply t).regs = c.regs := by
  simp only [apply, hd, hm]
  exact ⟨rfl, rfl, rfl⟩

/-! ## Dummies -/

lemma checkIfDummyPktPending_keeps (c : Egress) :
    c.checkIfDummyPktPending.hdr = c.hdr ∧
      c.checkIfDummyPktPending.regs.regSeqNo = c.regs.regSeqNo ∧
      c.checkIfDummyPktPending.regs.regEra = c.regs.regEra := by
  simp only [checkIfDummyPktPending]
  split <;> exact ⟨rfl, rfl, rfl⟩

lemma mirrorDummyPkt_keeps (t : EgressTables) (c : Egress) :
    (c.mirrorDummyPkt t).hdr = c.hdr ∧ (c.mirrorDummyPkt t).regs = c.regs := by
  unfold mirrorDummyPkt
  split <;> exact ⟨rfl, rfl⟩

/-- **The pass of a dummy**: it names the next number of the port and moves nothing. -/
theorem dummy_pass (hd : c.hdr.linkradarData.valid = true)
    (hm : c.egMeta.egMirrorBufferedPkt.valid = false)
    (hdummy : c.hdr.linkradarData.fields.dummy = 1) :
    (c.apply t).hdr.linkradarData = (c.hdr.linkradarData.modify fun d => { d with
        seqNo := c.regs.regSeqNo c.portIdx, era := (c.regs.regEra c.portIdx).setWidth 1 }) ∧
      (c.apply t).hdr.ethernet = c.hdr.ethernet ∧
      (c.apply t).regs.regSeqNo = c.regs.regSeqNo ∧ (c.apply t).regs.regEra = c.regs.regEra := by
  obtain ⟨h₁, h₂, h₃⟩ :=
    checkIfDummyPktPending_keeps ((c.addCurrSeqNoToDummy.getEra).mirrorDummyPkt t)
  obtain ⟨g₁, g₂⟩ := mirrorDummyPkt_keeps t c.addCurrSeqNoToDummy.getEra
  have hbranch : (c.dummyBranch t).hdr = c.addCurrSeqNoToDummy.getEra.hdr ∧
      (c.dummyBranch t).regs.regSeqNo = c.regs.regSeqNo ∧
      (c.dummyBranch t).regs.regEra = c.regs.regEra := by
    rw [g₁] at h₁
    rw [g₂] at h₂ h₃
    simp only [dummyBranch]
    split <;> exact ⟨h₁, h₂, h₃⟩
  have happly : c.apply t = { c.dummyBranch t with
      hdr := { (c.dummyBranch t).hdr with
        bridgedMeta := (c.dummyBranch t).hdr.bridgedMeta.setInvalid } } := by
    simp only [apply, hd, hm, hdummy]
    rfl
  rw [happly, hbranch.1]
  exact ⟨rfl, rfl, hbranch.2.1, hbranch.2.2⟩

/-- Whatever has a data header already moves no number: only a pass through `protect` does. -/
lemma linkradar_pass_regs (hd : c.hdr.linkradarData.valid = true) :
    (c.apply t).regs.regSeqNo = c.regs.regSeqNo ∧ (c.apply t).regs.regEra = c.regs.regEra := by
  cases hm : c.egMeta.egMirrorBufferedPkt.valid with
  | true =>
    rw [(buffered_pass hd hm).2.2]
    exact ⟨rfl, rfl⟩
  | false =>
    by_cases hdummy : c.hdr.linkradarData.fields.dummy = 1
    · exact (dummy_pass hd hm hdummy).2.2
    · simp only [apply, hd, hm, hdummy]
      exact ⟨rfl, rfl⟩

end Egress

end LinkGuardian.Sender
