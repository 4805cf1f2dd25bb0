import LinkGuardian.Dataplane.Receiver.IngressSpec
import LinkGuardian.Library.Execution
import LinkGuardian.Protocol.Numbering

/-!
# The receiver of a protected port as a system

The ingress of the receiver together with its recirculation buffer, driven by the packets of
one protected port: data packets in any order and number, dummies, packets coming back from
the receiver buffer, and timer packets.  Every packet is tagged with the number the sender
stamped it with; the tag is never read by the code.

`HandsOn` is the abstract receiver: a counter, and the rule that a packet with the awaited
number is handed on, one ahead of it held back and one behind it dropped.  `ackPass_spec` is
the refinement of one pass, `passesInOrder` what it gives for whole runs.

Nothing is assumed here about which packets come: duplicates, numbers from the future and late
copies are all steps.  The results on top of this module state what they need of a run as a
condition on each step, such as `InWindow` or `NoTimerAdvance`, and it is part of their statements.
-/

namespace LinkGuardian.Receiver

open P4 SerialNumber Execution Ingress

/-! ## The abstract receiver -/

/-- What a receiver awaiting number `next` does with packet `n`. -/
def inOrderVerdict (next n : ℕ) : Verdict :=
  if n = next then .released else if next < n then .held else .dropped

/-- The number awaited afterwards. -/
def inOrderNext (next n : ℕ) : ℕ := if n = next then next + 1 else next

/-! ## The system -/

/-- A protected port of a receiver as the control plane sets it up: packets arrive with
`portMd`, packets of the receiver buffer with `recircMd`. -/
structure Setup where
  tables : IngressTables
  portMd : PortMetadata
  recircMd : PortMetadata
  portMd_filter : portMd.filterViaLpbk = 0
  portMd_protect : portMd.protect = 1
  recircMd_filter : recircMd.filterViaLpbk = 0
  recircMd_protect : recircMd.protect = 0

/-- The register index of the port. -/
def Setup.port (S : Setup) : BitVec 8 := S.portMd.origIgPort.setWidth 8

/-- One pass of a data packet: its number, mode and provenance, the number that was awaited,
and the verdict. -/
structure Pass where
  num : ℕ
  blockingMode : BitVec 1
  recirculated : Bool
  awaited : ℕ
  verdict : Verdict
deriving DecidableEq, Repr

structure State where
  regs : IngressRegs
  /-- the receiver buffer: packets on their way round the recirculation port -/
  buffer : List (ℕ × Hdr)
  /-- how often `reg_ack.ack_no` has been advanced -/
  advances : ℕ
  /-- the number behind `reg_expected_seq_no` -/
  expected : ℕ
  history : List Pass

/-- Power-on. -/
def init (S : Setup) : State where
  regs := .init S.tables.timeoutVal100ns
  buffer := []
  advances := 0
  expected := 0
  history := []

inductive Event
  | data (num : ℕ) (hdr : Hdr)
  | dummy (num : ℕ) (hdr : Hdr)
  | recirculate (i : ℕ)
  | timer (hdr : Hdr)

/-- A data packet numbered `num` as it comes off the protected link, with a destination that
the forwarding table knows. -/
structure DataArrival (S : Setup) (num : ℕ) (hdr : Hdr) : Prop where
  pktgenTimer : hdr.pktgenTimer.valid = false
  linkradarData : hdr.linkradarData.valid = true
  dummy : hdr.linkradarData.fields.dummy = 0
  rxBuffered : hdr.linkradarData.fields.rxBuffered = 0
  linkradarRxBuffered : hdr.linkradarRxBuffered.valid = false
  carries : Carries hdr.linkradarData.fields num
  routable : (S.tables.l2Forward hdr.ethernet.fields.dstAddr).isSome

instance (S : Setup) (num : ℕ) (hdr : Hdr) : Decidable (DataArrival S num hdr) :=
  decidable_of_iff (hdr.pktgenTimer.valid = false ∧ hdr.linkradarData.valid = true ∧
      hdr.linkradarData.fields.dummy = 0 ∧ hdr.linkradarData.fields.rxBuffered = 0 ∧
      hdr.linkradarRxBuffered.valid = false ∧ Carries hdr.linkradarData.fields num ∧
      (S.tables.l2Forward hdr.ethernet.fields.dstAddr).isSome)
    ⟨fun ⟨h₁, h₂, h₃, h₄, h₅, h₆, h₇⟩ => ⟨h₁, h₂, h₃, h₄, h₅, h₆, h₇⟩,
      fun ⟨h₁, h₂, h₃, h₄, h₅, h₆, h₇⟩ => ⟨h₁, h₂, h₃, h₄, h₅, h₆, h₇⟩⟩

/-- A dummy announcing that `num` is the next number to be stamped. -/
structure DummyArrival (num : ℕ) (hdr : Hdr) : Prop where
  pktgenTimer : hdr.pktgenTimer.valid = false
  linkradarData : hdr.linkradarData.valid = true
  dummy : hdr.linkradarData.fields.dummy = 1
  reTx : hdr.linkradarData.fields.reTx = 0
  carries : Carries hdr.linkradarData.fields num

instance (num : ℕ) (hdr : Hdr) : Decidable (DummyArrival num hdr) :=
  decidable_of_iff (hdr.pktgenTimer.valid = false ∧ hdr.linkradarData.valid = true ∧
      hdr.linkradarData.fields.dummy = 1 ∧ hdr.linkradarData.fields.reTx = 0 ∧
      Carries hdr.linkradarData.fields num)
    ⟨fun ⟨h₁, h₂, h₃, h₄, h₅⟩ => ⟨h₁, h₂, h₃, h₄, h₅⟩,
      fun ⟨h₁, h₂, h₃, h₄, h₅⟩ => ⟨h₁, h₂, h₃, h₄, h₅⟩⟩

/-- The context in which the ingress control sees a packet. -/
def context (s : State) (portMd : PortMetadata) (hdr : Hdr) : Ingress :=
  .start s.regs portMd 0 hdr

/-- The header vector after the egress pass that takes the internal header off. -/
def Hdr.unbridged (hdr : Hdr) : Hdr := { hdr with bridgedMeta := hdr.bridgedMeta.setInvalid }

/-- `ack_no` of the port. -/
def State.ackNo (S : Setup) (s : State) : SeqNo := (s.regs.regAck S.port).ackNo

/-- Count an advance of `ack_no` between two register states. -/
def countAdvance (S : Setup) (s : State) (regs : IngressRegs) : ℕ :=
  if (regs.regAck S.port).ackNo = s.ackNo S then s.advances else s.advances + 1

/-- Book the outcome `c` of the pass of data packet `num`, which leaves `rest` in the buffer. -/
def afterPass (S : Setup) (s : State) (rest : List (ℕ × Hdr)) (num expected : ℕ)
    (recirculated : Bool) (mode : BitVec 1) (c : Ingress) : State where
  regs := c.regs
  buffer := if c.verdict = .held then rest ++ [(num, c.hdr.unbridged)] else rest
  advances := countAdvance S s c.regs
  expected := expected
  history := s.history ++ [⟨num, mode, recirculated, s.advances, c.verdict⟩]

def step (S : Setup) (s : State) : Event → Option State
  | .data num hdr =>
    if DataArrival S num hdr then
      some (afterPass S s s.buffer num
        (if hdr.linkradarData.fields.reTx = 0 then num + 1 else s.expected) false
        hdr.linkradarData.fields.blockingMode ((context s S.portMd hdr).apply S.tables))
    else none
  | .dummy num hdr =>
    if DummyArrival num hdr then
      let c := (context s S.portMd hdr).apply S.tables
      some { s with regs := c.regs, expected := num, advances := countAdvance S s c.regs }
    else none
  | .recirculate i =>
    match s.buffer[i]? with
    | some (num, hdr) =>
      some (afterPass S s (s.buffer.eraseIdx i) num s.expected true
        hdr.linkradarData.fields.blockingMode ((context s S.recircMd hdr).apply S.tables))
    | none => none
  | .timer hdr =>
    if hdr.pktgenTimer.valid then
      let c := (context s S.portMd hdr).apply S.tables
      some { s with regs := c.regs, advances := countAdvance S s c.regs }
    else none

/-- The numbers handed on so far, in order. -/
def State.released (s : State) : List ℕ :=
  (s.history.filter fun p => p.verdict = .released).map Pass.num

/-! ## One pass -/

lemma add_one_ne_self (x : SeqNo) : x + 1 ≠ x := by
  intro h
  have := congrArg (fun y => y - x) h
  simp at this

/-- The registers keep denoting the number of advances. -/
lemma ackPass_denotes {ack : AckRecord} {ackEra : BitVec 8} {A : ℕ}
    (h : Denotes ack.ackNo ackEra A) (T : BitVec 16) (d : LinkradarData) :
    Denotes (ackPass T ack ackEra d).1.ackNo (ackPass T ack ackEra d).2.1
      (if (ackPass T ack ackEra d).1.ackNo = ack.ackNo then A else A + 1) := by
  unfold ackPass
  split
  · rw [if_pos rfl]
    exact h
  · split
    · rw [if_neg (add_one_ne_self _)]
      exact h.succ
    · rw [if_pos rfl]
      exact h

/-- **One pass refines the abstract receiver** while the packet is within half a range of the
awaited number. The registers hold 16 bits and an era, the abstract receiver a natural number; the
window is what makes the two agree on what is ahead and what is behind. -/
lemma ackPass_spec {ack : AckRecord} {ackEra : BitVec 8} {d : LinkradarData} {A n : ℕ}
    (h : Denotes ack.ackNo ackEra A) (hd : Carries d n) (hb : d.blockingMode ≠ 0)
    (hw : Within halfRange n A) (T : BitVec 16) :
    (ackPass T ack ackEra d).2.2 = inOrderVerdict A n ∧
      (if (ackPass T ack ackEra d).1.ackNo = ack.ackNo then A else A + 1) =
        inOrderNext A n := by
  have hseq : ack.ackNo = d.seqNo ↔ n = A := by
    rw [h.seqNo_eq, hd.seqNo_eq, wire_eq_iff_of_within hw.symm]
    exact eq_comm
  have hle : eraLe ack.ackNo (ackEra.setWidth 1) d.seqNo d.era ↔ A ≤ n := by
    rw [h.seqNo_eq, h.era_eq, hd.seqNo_eq, hd.era_eq]
    exact eraLe_iff_of_within hw.symm
  unfold ackPass inOrderVerdict inOrderNext
  rw [if_neg hb]
  by_cases hn : n = A
  · rw [if_pos (hseq.mpr hn), if_pos hn, if_neg (add_one_ne_self _), if_pos hn]
    exact ⟨rfl, rfl⟩
  · rw [if_neg (fun he => hn (hseq.mp he)), if_neg hn, if_pos rfl, if_neg hn]
    refine ⟨?_, rfl⟩
    by_cases hlt : A < n
    · rw [if_pos hlt]
      exact if_pos (hle.mpr (by omega))
    · rw [if_neg hlt]
      exact if_neg (fun he => hlt (by have := hle.mp he; omega))

/-! ## The receiver buffer -/

/-- What a packet in the receiver buffer looks like: it has both headers of the link protocol, with
the number it was stamped with and the port it arrived on, and a destination that is known. -/
structure Buffered (S : Setup) (num : ℕ) (hdr : Hdr) : Prop where
  pktgenTimer : hdr.pktgenTimer.valid = false
  linkradarData : hdr.linkradarData.valid = true
  dummy : hdr.linkradarData.fields.dummy = 0
  rxBuffered : hdr.linkradarData.fields.rxBuffered = 1
  blockingMode : hdr.linkradarData.fields.blockingMode ≠ 0
  linkradarRxBuffered : hdr.linkradarRxBuffered = .of ⟨S.port⟩
  carries : Carries hdr.linkradarData.fields num
  routable : (S.tables.l2Forward hdr.ethernet.fields.dstAddr).isSome

/-- A data packet about to pass: fresh from the link, or from the receiver buffer.  It is what both
the ingress parser of the protected port and that of the loop leave behind. -/
structure Ready (S : Setup) (s : State) (num : ℕ) (mode : BitVec 1) (c : Ingress) : Prop where
  isData : IsData S.tables c
  dropCtl : c.dropCtl = 0
  rxBuffered : c.hdr.linkradarData.fields.blockingMode = 0 →
    c.hdr.linkradarRxBuffered.valid = false
  ackIdx : c.ackIdx = S.port
  carries : Carries c.hdr.linkradarData.fields num
  mode : c.hdr.linkradarData.fields.blockingMode = mode
  regs : c.regs = s.regs

variable {S : Setup} {s s' : State}

lemma DataArrival.ready {num : ℕ} {hdr : Hdr} (h : DataArrival S num hdr) (s : State) :
    Ready S s num hdr.linkradarData.fields.blockingMode (context s S.portMd hdr) where
  isData :=
    { pktgenTimer := h.pktgenTimer
      filterViaLpbk := S.portMd_filter
      linkradarData := h.linkradarData
      dummy := h.dummy
      routable := h.routable
      pktSeqNo := if_pos h.linkradarData }
  dropCtl := rfl
  rxBuffered := fun _ => h.linkradarRxBuffered
  ackIdx := if_pos h.rxBuffered
  carries := h.carries
  mode := rfl
  regs := rfl

lemma Buffered.ready {num : ℕ} {hdr : Hdr} (h : Buffered S num hdr) (s : State) :
    Ready S s num hdr.linkradarData.fields.blockingMode (context s S.recircMd hdr) where
  isData :=
    { pktgenTimer := h.pktgenTimer
      filterViaLpbk := S.recircMd_filter
      linkradarData := h.linkradarData
      dummy := h.dummy
      routable := h.routable
      pktSeqNo := if_pos h.linkradarData }
  dropCtl := rfl
  rxBuffered := fun hm => absurd hm h.blockingMode
  ackIdx := by
    have h1 : hdr.linkradarData.fields.rxBuffered ≠ 0 := by rw [h.rxBuffered]; decide
    have : (context s S.recircMd hdr).ackIdx = hdr.linkradarRxBuffered.fields.origIgPort :=
      if_neg h1
    rw [this, h.linkradarRxBuffered]
    rfl
  carries := h.carries
  mode := rfl
  regs := rfl

section Ready

variable {num : ℕ} {mode : BitVec 1} {c : Ingress}

lemma Ready.pass_eq (h : Ready S s num mode c) :
    ((c.apply S.tables).regs.regAck S.port, (c.apply S.tables).regs.regAckEra S.port,
        (c.apply S.tables).verdict) =
      ackPass S.tables.timeoutVal100ns (s.regs.regAck S.port) (s.regs.regAckEra S.port)
        c.hdr.linkradarData.fields := by
  have := h.isData.pass_eq h.dropCtl h.rxBuffered
  rwa [h.ackIdx, h.regs] at this

lemma Ready.denotes (h : Ready S s num mode c)
    (hs : Denotes (s.ackNo S) (s.regs.regAckEra S.port) s.advances) :
    Denotes ((c.apply S.tables).regs.regAck S.port).ackNo
      ((c.apply S.tables).regs.regAckEra S.port) (countAdvance S s (c.apply S.tables).regs) := by
  have heq := h.pass_eq
  have hd := ackPass_denotes hs S.tables.timeoutVal100ns c.hdr.linkradarData.fields
  rw [← heq] at hd
  exact hd

/-- **A pass refines the abstract receiver** inside the window. -/
lemma Ready.spec (h : Ready S s num mode c) (hb : mode ≠ 0)
    (hs : Denotes (s.ackNo S) (s.regs.regAckEra S.port) s.advances)
    (hw : Within halfRange num s.advances) :
    (c.apply S.tables).verdict = inOrderVerdict s.advances num ∧
      countAdvance S s (c.apply S.tables).regs = inOrderNext s.advances num := by
  have heq := h.pass_eq
  have hd := ackPass_spec hs h.carries (by rw [h.mode]; exact hb) hw S.tables.timeoutVal100ns
  rw [← heq] at hd
  exact hd

/-- What is held back goes into the receiver buffer well-formed. -/
lemma Ready.buffered (h : Ready S s num mode c) (hv : (c.apply S.tables).verdict = .held) :
    Buffered S num (c.apply S.tables).hdr.unbridged := by
  obtain ⟨hdata, hrx, hp, hdst⟩ := h.isData.held h.dropCtl h.rxBuffered hv
  have hmode : c.hdr.linkradarData.fields.blockingMode ≠ 0 := by
    intro hm
    have heq := h.pass_eq
    have h2 := congrArg (fun r => r.2.2) heq
    simp only [hv, ackPass, if_pos hm] at h2
    cases h2
  constructor
  · change (c.apply S.tables).hdr.pktgenTimer.valid = false
    rw [hp]; exact h.isData.pktgenTimer
  · change (c.apply S.tables).hdr.linkradarData.valid = true
    rw [hdata]; exact h.isData.linkradarData
  · change (c.apply S.tables).hdr.linkradarData.fields.dummy = 0
    rw [hdata]; exact h.isData.dummy
  · change (c.apply S.tables).hdr.linkradarData.fields.rxBuffered = 1
    rw [hdata]; rfl
  · change (c.apply S.tables).hdr.linkradarData.fields.blockingMode ≠ 0
    rw [hdata]; exact hmode
  · change (c.apply S.tables).hdr.linkradarRxBuffered = _
    rw [hrx, h.ackIdx]
  · change Carries (c.apply S.tables).hdr.linkradarData.fields num
    rw [hdata]; exact ⟨h.carries.seqNo_eq, h.carries.era_eq⟩
  · change (S.tables.l2Forward (c.apply S.tables).hdr.ethernet.fields.dstAddr).isSome
    rw [hdst]; exact h.isData.routable

end Ready

/-! ## Steps -/

/-- The next timer packet gives up on the awaited number of this port. -/
def TimerAdvances (S : Setup) (s : State) : Prop :=
  S.port = 36 ∧ s.ackNo S - s.regs.regExpectedSeqNo S.port ≠ 0 ∧
    (s.regs.regAck S.port).timeRemaining = 0

instance (S : Setup) (s : State) : Decidable (TimerAdvances S s) :=
  inferInstanceAs (Decidable (_ ∧ _ ∧ _))

/-- The registers after a timer packet. -/
def agedRegs (S : Setup) (s : State) : IngressRegs :=
  { s.regs with
    regAck := s.regs.regAck.write 36
      (timerPass S.tables.timeoutVal100ns (s.regs.regAck 36) (s.regs.regExpectedSeqNo 36)) }

lemma agedRegs_regAck_36 (S : Setup) (s : State) :
    (agedRegs S s).regAck 36 = timerPass S.tables.timeoutVal100ns (s.regs.regAck 36)
      (s.regs.regExpectedSeqNo 36) := by
  simp only [agedRegs, Register.write_same]

lemma agedRegs_ackNo (S : Setup) (s : State) :
    ((agedRegs S s).regAck S.port).ackNo =
      if TimerAdvances S s then s.ackNo S + 1 else s.ackNo S := by
  by_cases hp : S.port = 36
  · simp only [agedRegs, TimerAdvances, State.ackNo, hp, Register.write_same, timerPass, true_and]
    split
    · rename_i hne
      split
      · rename_i ht
        rw [if_pos ⟨hne, ht⟩]
      · rename_i ht
        rw [if_neg (fun h => ht h.2)]
    · rename_i hne
      rw [if_neg (fun h => hne h.1)]
  · rw [if_neg (fun h => hp h.1)]
    exact congrArg AckRecord.ackNo (Register.write_of_ne _ _ hp)

/-- A timer packet ages the ack register. -/
lemma step_timer (S : Setup) (s : State) {hdr : Hdr} (hp : hdr.pktgenTimer.valid = true) :
    step S s (.timer hdr) = some { s with
      regs := agedRegs S s, advances := countAdvance S s (agedRegs S s) } := by
  have hregs := timer_pass (t := S.tables) (c := context s S.portMd hdr) hp
  simp only [step, if_pos hp, hregs]
  rfl

/-- Every packet in the receiver buffer is well-formed. -/
def BufferOk (S : Setup) (s : State) : Prop := ∀ p ∈ s.buffer, Buffered S p.1 p.2

/-- **What a step can do**: pass a data packet, note a dummy, or age the ack register. -/
theorem step_cases {e : Event} (hB : BufferOk S s) (h : step S s e = some s') :
    (∃ num hdr, e = .data num hdr ∧ DataArrival S num hdr ∧
      s' = afterPass S s s.buffer num
        (if hdr.linkradarData.fields.reTx = 0 then num + 1 else s.expected) false
        hdr.linkradarData.fields.blockingMode ((context s S.portMd hdr).apply S.tables)) ∨
    (∃ i num hdr, e = .recirculate i ∧ s.buffer[i]? = some (num, hdr) ∧ Buffered S num hdr ∧
      s' = afterPass S s (s.buffer.eraseIdx i) num s.expected true
        hdr.linkradarData.fields.blockingMode ((context s S.recircMd hdr).apply S.tables)) ∨
    (∃ num hdr regs, e = .dummy num hdr ∧ DummyArrival num hdr ∧
      regs.regAck = s.regs.regAck ∧ regs.regAckEra = s.regs.regAckEra ∧
      s' = { s with regs := regs, expected := num }) ∨
    (∃ hdr, e = .timer hdr ∧
      s' = { s with regs := agedRegs S s, advances := countAdvance S s (agedRegs S s) }) := by
  -- the guards of `step` give the shape of the packet; for the receiver buffer it is the invariant
  -- that does
  cases e with
  | data num hdr =>
    simp only [step, Option.ite_none_right_eq_some, Option.some_inj] at h
    exact Or.inl ⟨num, hdr, rfl, h.1, h.2.symm⟩
  | recirculate i =>
    simp only [step] at h
    split at h
    · rename_i num hdr hget
      rw [Option.some_inj] at h
      exact Or.inr (Or.inl ⟨i, num, hdr, rfl, hget, hB _ (List.mem_of_getElem? hget), h.symm⟩)
    · cases h
  | dummy num hdr =>
    simp only [step, Option.ite_none_right_eq_some, Option.some_inj] at h
    obtain ⟨hd, rfl⟩ := h
    have h1 : hdr.linkradarData.fields.dummy ≠ 0 := by rw [hd.dummy]; decide
    obtain ⟨hack, hera⟩ := dummy_pass (t := S.tables) (c := context s S.portMd hdr)
      hd.pktgenTimer S.portMd_filter h1
    refine Or.inr (Or.inr (Or.inl ⟨num, hdr, _, rfl, hd, hack, hera, ?_⟩))
    have hcount : countAdvance S s ((context s S.portMd hdr).apply S.tables).regs = s.advances :=
      if_pos (by rw [hack]; rfl)
    rw [hcount]
  | timer hdr =>
    have hp : hdr.pktgenTimer.valid = true := by
      simp only [step, Option.ite_none_right_eq_some] at h
      exact h.1
    rw [step_timer S s hp, Option.some_inj] at h
    exact Or.inr (Or.inr (Or.inr ⟨hdr, rfl, h.symm⟩))

/-- The receiver buffer only ever holds packets that were held back. -/
lemma bufferOk_afterPass {num expected : ℕ} {mode : BitVec 1} {c : Ingress} {rest : List (ℕ × Hdr)}
    {recirculated : Bool} (hr : Ready S s num mode c) (hrest : ∀ p ∈ rest, Buffered S p.1 p.2) :
    BufferOk S (afterPass S s rest num expected recirculated mode (c.apply S.tables)) := by
  intro p hp
  simp only [afterPass] at hp
  split at hp
  · rename_i hv
    rcases List.mem_append.mp hp with hp | hp
    · exact hrest p hp
    · rw [List.mem_singleton] at hp
      rw [hp]
      exact hr.buffered hv
  · exact hrest p hp

theorem bufferOk_step {e : Event} (hB : BufferOk S s) (h : step S s e = some s') :
    BufferOk S s' := by
  rcases step_cases hB h with ⟨num, hdr, -, hd, rfl⟩ | ⟨i, num, hdr, -, -, hb, rfl⟩ |
    ⟨num, hdr, regs, -, -, -, -, rfl⟩ | ⟨hdr, -, rfl⟩
  · exact bufferOk_afterPass (hd.ready s) hB
  · exact bufferOk_afterPass (hb.ready s) fun p hp => hB p (List.mem_of_mem_eraseIdx hp)
  · exact hB
  · exact hB

lemma bufferOk_init (S : Setup) : BufferOk S (init S) := fun _ hp => absurd hp (List.not_mem_nil)

/-! ## The acknowledgement registers over a run -/

/-- `reg_ack.ack_no` and `reg_ack_era` denote the number of advances. -/
def Acked (S : Setup) (s : State) : Prop :=
  Denotes (s.ackNo S) (s.regs.regAckEra S.port) s.advances

lemma acked_init (S : Setup) : Acked S (init S) := denotes_zero

/-- This step is not a timer packet that advances the ack register past the end of its range.  A
matching packet toggles the era when the number wraps, a timer packet does not. -/
def NoTimerWrap (S : Setup) (s : State) : Event → Prop
  | .timer _ => ¬ (TimerAdvances S s ∧ s.ackNo S = maxSeqNo)
  | _ => True

/-- **Every step but a timer wrap keeps the registers and the advances together.**  The ack register
is then read as a number of advances, which is what the order of the releases is counted by. -/
theorem acked_step {e : Event} (hB : BufferOk S s) (hA : Acked S s) (hG : NoTimerWrap S s e)
    (h : step S s e = some s') : Acked S s' := by
  rcases step_cases hB h with ⟨num, hdr, -, hd, rfl⟩ | ⟨i, num, hdr, -, -, hb, rfl⟩ |
    ⟨num, hdr, regs, -, -, hack, hera, rfl⟩ | ⟨hdr, rfl, rfl⟩
  · exact (hd.ready s).denotes hA
  · exact (hb.ready s).denotes hA
  · unfold Acked State.ackNo
    rw [hack, hera]
    exact hA
  · have hno := agedRegs_ackNo S s
    unfold Acked State.ackNo
    simp only [countAdvance, hno]
    by_cases ht : TimerAdvances S s
    · rw [if_pos ht, if_neg (add_one_ne_self _)]
      have hsucc := Denotes.succ hA
      rwa [if_neg (fun hmax => hG ⟨ht, hmax⟩)] at hsucc
    · rw [if_neg ht, if_pos rfl]
      exact hA

/-! ## Conditions on a step -/

/-- Every data packet was stamped in blocking mode. -/
def Blocking : Event → Prop
  | .data _ hdr => hdr.linkradarData.fields.blockingMode = 1
  | _ => True

/-- The packet that passes is within half a range of the awaited number. -/
def InWindow (s : State) : Event → Prop
  | .data num _ => Within halfRange num s.advances
  | .recirculate i => ∀ p ∈ s.buffer[i]?, Within halfRange p.1 s.advances
  | _ => True

/-- No timer packet advances the ack register. -/
def NoTimerAdvance (S : Setup) (s : State) : Event → Prop
  | .timer _ => ¬ TimerAdvances S s
  | _ => True

instance : DecidablePred Blocking
  | .data _ hdr => inferInstanceAs (Decidable (hdr.linkradarData.fields.blockingMode = 1))
  | .dummy _ _ | .recirculate _ | .timer _ => isTrue trivial

instance (s : State) : DecidablePred (InWindow s)
  | .data num _ => inferInstanceAs (Decidable (Within halfRange num s.advances))
  | .recirculate i =>
    inferInstanceAs (Decidable (∀ p ∈ s.buffer[i]?, Within halfRange p.1 s.advances))
  | .dummy _ _ | .timer _ => isTrue trivial

instance (S : Setup) (s : State) : DecidablePred (NoTimerAdvance S s)
  | .timer _ => inferInstanceAs (Decidable (¬ TimerAdvances S s))
  | .data _ _ | .dummy _ _ | .recirculate _ => isTrue trivial

instance (S : Setup) (s : State) : DecidablePred (NoTimerWrap S s)
  | .timer _ => inferInstanceAs (Decidable (¬ (TimerAdvances S s ∧ s.ackNo S = maxSeqNo)))
  | .data _ _ | .dummy _ _ | .recirculate _ => isTrue trivial

lemma NoTimerAdvance.noTimerWrap {e : Event} (h : NoTimerAdvance S s e) : NoTimerWrap S s e := by
  cases e with
  | timer hdr => exact fun hw => h hw.1
  | _ => trivial

/-! ## A port to try things out on -/

lemma port36_unfiltered : (⟨0, 1, 36, 0⟩ : PortMetadata).filterViaLpbk = 0 := rfl

lemma port36_protected : (⟨0, 1, 36, 0⟩ : PortMetadata).protect = 1 := rfl

/-- The setup of the test bed: port 36, every destination routed, timeout 70. -/
def port36 : Setup where
  tables :=
    { timeoutVal100ns := 70
      l2Forward := fun _ => some (.l2Switch 5)
      generateLossNotification := fun p => if p = 36 then some 500 else none
      addPfcHdrAndRoute := none
      emulateRandomPktDrop := fun _ => false }
  portMd := ⟨0, 1, 36, 0⟩
  recircMd := ⟨0, 0, 20, 0⟩
  portMd_filter := port36_unfiltered
  portMd_protect := port36_protected
  recircMd_filter := rfl
  recircMd_protect := rfl

/-- A data packet numbered `num` as it arrives. -/
def dataHdr (num : ℕ) (reTx blockingMode : BitVec 1) : Hdr :=
  { (default : Hdr) with
    ethernet := .of ⟨0, 0, EtherType.linkradar⟩
    linkradarData := .of
      { type := linkradarHdrTypeData
        pad := 0
        era := era 16 num
        reTx := reTx
        dummy := 0
        blockingMode := blockingMode
        rxBuffered := 0
        seqNo := wire 16 num } }

lemma dataArrival_dataHdr (num : ℕ) (reTx blockingMode : BitVec 1) :
    DataArrival port36 num (dataHdr num reTx blockingMode) :=
  ⟨rfl, rfl, rfl, rfl, rfl, ⟨rfl, rfl⟩, rfl⟩

lemma step_dataHdr (s : State) (num : ℕ) (reTx blockingMode : BitVec 1) :
    step port36 s (.data num (dataHdr num reTx blockingMode)) =
      some (afterPass port36 s s.buffer num (if reTx = 0 then num + 1 else s.expected) false
        blockingMode
        ((context s port36.portMd (dataHdr num reTx blockingMode)).apply port36.tables)) :=
  if_pos (dataArrival_dataHdr num reTx blockingMode)

/-- A packet of the timer. -/
def timerHdr : Hdr :=
  { (default : Hdr) with pktgenTimer := .of default, remainingEthernet := .of default }

end LinkGuardian.Receiver
