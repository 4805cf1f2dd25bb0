import LinkGuardian.Protocol.CatchUp

/-!
# The ack registers under timeouts

`reg_ack.ack_no` is advanced by matching packets and by timer packets, but only a matching
packet toggles `reg_ack_era` when the number wraps.  The two registers stay together as long as
no timer packet advances the number past 65535 (`ack_denotes_advances`); when one does, the
eras are exchanged from then on, and a late copy of a number that was given up on is taken for
a future packet (`timer_wrap_breaks_era`).
-/

namespace LinkGuardian.Receiver

open P4 SerialNumber Execution Ingress

variable {S : Setup} {s s' : State}

/-- A step of a blocking-mode run in which timeouts do not wrap the ack register. -/
def UnwrappedStep (S : Setup) (s : State) (e : Event) : Prop := Blocking e ∧ NoTimerWrap S s e

instance (S : Setup) (s : State) (e : Event) : Decidable (UnwrappedStep S s e) :=
  inferInstanceAs (Decidable (_ ∧ _))

/-- A pass inside the window that went as its number demands: nothing ahead of the awaited number
dropped, nothing behind it held back.  Timeouts may move the awaited number on; what was given up on
counts as behind. -/
def Pass.Sound (p : Pass) : Prop :=
  Within halfRange p.num p.awaited →
    (p.awaited < p.num → p.verdict ≠ .dropped) ∧ (p.num < p.awaited → p.verdict ≠ .held)

lemma Pass.sound_of_inOrder {p : Pass}
    (h : Within halfRange p.num p.awaited → p.verdict = inOrderVerdict p.awaited p.num) :
    p.Sound := by
  intro hw
  rw [h hw, inOrderVerdict]
  split_ifs <;> constructor <;> intro hlt <;> first | omega | simp

/-- What a blocking-mode run keeps while timeouts do not wrap.  The timer advances the number by one
at a time; as long as no advance goes past the last number of the range, era and number stay
together. -/
structure UnwrappedInv (S : Setup) (s : State) : Prop where
  bufferOk : BufferOk S s
  acked : Acked S s
  sound : ∀ p ∈ s.history, p.Sound

lemma unwrappedInv_init (S : Setup) : UnwrappedInv S (init S) where
  bufferOk := bufferOk_init S
  acked := acked_init S
  sound := fun _ hp => absurd hp List.not_mem_nil

/-- Booking a pass keeps the history sound: only the new entry has to be looked at, and it is about
the registers before the pass. -/
lemma sound_afterPass (hI : UnwrappedInv S s) {num expected : ℕ} {recirculated : Bool}
    {mode : BitVec 1} {c : Ingress} {rest : List (ℕ × Hdr)} (hr : Ready S s num mode c)
    (hm : mode ≠ 0) :
    ∀ p ∈ (afterPass S s rest num expected recirculated mode (c.apply S.tables)).history,
      p.Sound := by
  intro p hp
  rcases List.mem_append.mp hp with hp | hp
  · exact hI.sound p hp
  · rw [List.mem_singleton] at hp
    subst hp
    exact Pass.sound_of_inOrder fun hw => (hr.spec hm hI.acked hw).1

/-- **Step lemma.** -/
lemma unwrappedInv_step {e : Event} (hI : UnwrappedInv S s) (hG : UnwrappedStep S s e)
    (h : step S s e = some s') : UnwrappedInv S s' := by
  obtain ⟨hmode, hwrap⟩ := hG
  refine ⟨bufferOk_step hI.bufferOk h, acked_step hI.bufferOk hI.acked hwrap h, ?_⟩
  rcases step_cases hI.bufferOk h with ⟨num, hdr, rfl, hd, rfl⟩ | ⟨i, num, hdr, rfl, -, hb, rfl⟩ |
    ⟨num, hdr, regs, -, -, -, -, rfl⟩ | ⟨hdr, rfl, rfl⟩
  · have hne : hdr.linkradarData.fields.blockingMode ≠ 0 := by
      rw [show hdr.linkradarData.fields.blockingMode = 1 from hmode]; decide
    exact sound_afterPass hI (hd.ready s) hne
  · exact sound_afterPass hI (hb.ready s) hb.blockingMode
  · exact hI.sound
  · exact hI.sound

/-- **The ack registers denote the number of advances** in every state of a run in which no
timer packet advances `ack_no` from 65535, and within half a range of that number no packet
ahead of it is dropped and none behind it is held back. -/
theorem ack_denotes_advances (S : Setup) (es : List Event) (s : State)
    (hrun : run (step S) (init S) es = some s)
    (hG : Along (step S) (UnwrappedStep S) (init S) es) :
    s.ackNo S = wire 16 s.advances ∧
      (s.regs.regAckEra S.port).setWidth 1 = era 16 s.advances ∧
      ∀ p ∈ s.history, Within halfRange p.num p.awaited →
        (p.awaited < p.num → p.verdict ≠ .dropped) ∧
        (p.num < p.awaited → p.verdict ≠ .held) := by
  have hI := run_invariant_along (fun _ _ _ hI hG h => unwrappedInv_step hI hG h)
    (unwrappedInv_init S) hG hrun
  exact ⟨hI.acked.seqNo_eq, hI.acked.era_eq, hI.sound⟩

/-- Packet 0 is lost, packet 1 held back, and the timer gives up on packet 0. -/
theorem ack_denotes_advances_one_timeout :
    ∃ s, run (step port36) (init port36)
        (.data 1 (dataHdr 1 0 1) :: List.replicate 71 (.timer timerHdr)) = some s ∧
      s.ackNo port36 = wire 16 s.advances := by
  have hrun : (run (step port36) (init port36)
      (.data 1 (dataHdr 1 0 1) :: List.replicate 71 (.timer timerHdr))).isSome := by
    decide +kernel
  obtain ⟨s, hs⟩ := Option.isSome_iff_exists.mp hrun
  exact ⟨s, hs, (ack_denotes_advances port36 _ s hs (by decide +kernel)).1⟩

/-! ## A timeout at the end of the range -/

/-- Port 36 awaits number `n` with `time` left, and expects `expected` next off the link.  This is
all of a state that the run to the wrap depends on, so that its 65535 steps are one induction. -/
structure Waiting (n : ℕ) (expected : SeqNo) (time : BitVec 16) (s : State) : Prop where
  bufferOk : BufferOk port36 s
  regExpectedSeqNo : s.regs.regExpectedSeqNo 36 = expected
  regAck : s.regs.regAck 36 = ⟨wire 16 n, time⟩
  regAckEra : s.regs.regAckEra 36 = 0
  advances : s.advances = n

/-- The registers after an original of port 36. -/
lemma original_pass (num : ℕ) (s : State) :
    let c := (context s port36.portMd (dataHdr num 0 1)).apply port36.tables
    c.regs.regExpectedSeqNo 36 = wire 16 (num + 1) ∧
      (c.regs.regAck 36, c.regs.regAckEra 36, c.verdict) =
        ackPass 70 (s.regs.regAck 36) (s.regs.regAckEra 36)
          (dataHdr num 0 1).linkradarData.fields := by
  have hprot : IsProtected (context s port36.portMd (dataHdr num 0 1)) :=
    ⟨rfl, rfl, rfl, rfl, rfl⟩
  have hexp := (hprot.pass_eq (t := port36.tables) rfl rfl).1
  refine ⟨?_, ((dataArrival_dataHdr num 0 1).ready s).pass_eq⟩
  rw [hexp]
  exact (Register.write_same _ _ _).trans (wire_succ 16 num)

lemma countAdvance_eq {regs : IngressRegs} {n : ℕ} (hA : s.ackNo S = wire 16 s.advances)
    (hack : (regs.regAck S.port).ackNo = wire 16 n) (hn : n = s.advances ∨ n = s.advances + 1) :
    countAdvance S s regs = n := by
  rcases hn with rfl | rfl
  · exact if_pos (hack.trans hA.symm)
  · refine if_neg ?_
    rw [hack, hA, ← wire_succ]
    exact add_one_ne_self _

lemma Waiting.ackNo {n : ℕ} {expected : SeqNo} {time : BitVec 16}
    (h : Waiting n expected time s) : s.ackNo port36 = wire 16 s.advances := by
  rw [h.advances]
  exact congrArg AckRecord.ackNo h.regAck

/-- An original moves the port as its pass says. -/
lemma Waiting.data {n n' num : ℕ} {expected : SeqNo} {time time' : BitVec 16} {v : Verdict}
    (h : Waiting n expected time s) (hn : n' = n ∨ n' = n + 1)
    (hpass : ackPass 70 ⟨wire 16 n, time⟩ 0 (dataHdr num 0 1).linkradarData.fields =
      (⟨wire 16 n', time'⟩, 0, v)) :
    ∃ s', step port36 s (.data num (dataHdr num 0 1)) = some s' ∧
      Waiting n' (wire 16 (num + 1)) time' s' := by
  have hstep := step_dataHdr s num 0 1
  obtain ⟨hexp, hack⟩ := original_pass num s
  rw [h.regAck, h.regAckEra, hpass] at hack
  obtain ⟨hreg, hrest⟩ := Prod.mk.inj hack
  have hadv := countAdvance_eq h.ackNo (congrArg AckRecord.ackNo hreg) (h.advances ▸ hn)
  exact ⟨_, hstep, bufferOk_step h.bufferOk hstep, hexp, hreg, (Prod.mk.inj hrest).1, hadv⟩

/-- An original with the awaited number moves the port on. -/
lemma Waiting.original {n : ℕ} {time : BitVec 16} (h : Waiting n (wire 16 n) time s)
    (hn : n < 65535) :
    ∃ s', step port36 s (.data n (dataHdr n 0 1)) = some s' ∧
      Waiting (n + 1) (wire 16 (n + 1)) 70 s' := by
  have hmax : wire 16 n ≠ maxSeqNo := by
    intro hc
    have := congrArg BitVec.toNat hc
    rw [wire_toNat, Nat.mod_eq_of_lt (by omega)] at this
    simp [maxSeqNo] at this
    omega
  refine h.data (v := .released) (.inr rfl) ?_
  rw [← wire_succ]
  simp [ackPass, dataHdr, hmax]

/-- The first `n` originals, all delivered. -/
def originals (n : ℕ) : List Event := (List.range n).map fun i => .data i (dataHdr i 0 1)

lemma waiting_originals (n : ℕ) (hn : n ≤ 65535) :
    ∃ s, run (step port36) (init port36) (originals n) = some s ∧
      Waiting n (wire 16 n) 70 s := by
  induction n with
  | zero => exact ⟨init port36, rfl, bufferOk_init _, rfl, rfl, rfl, rfl⟩
  | succ n ih =>
    obtain ⟨s, hs, hw⟩ := ih (by omega)
    obtain ⟨s', hs', hw'⟩ := hw.original (by omega)
    refine ⟨s', ?_, hw'⟩
    rw [originals, List.range_succ, List.map_append]
    exact run_append hs (run_cons_eq_some.mpr ⟨s', hs', rfl⟩)

/-- Packet 65535 is lost and packet 65536 held back: the port still awaits 65535. -/
lemma Waiting.skip {time : BitVec 16} (h : Waiting 65535 (wire 16 65535) time s) :
    ∃ s', step port36 s (.data 65536 (dataHdr 65536 0 1)) = some s' ∧
      Waiting 65535 (wire 16 65537) time s' := by
  have hne : wire 16 65535 ≠ (dataHdr 65536 0 1).linkradarData.fields.seqNo := by decide
  have hle : eraLe (wire 16 65535) ((0 : BitVec 8).setWidth 1)
    (dataHdr 65536 0 1).linkradarData.fields.seqNo
    (dataHdr 65536 0 1).linkradarData.fields.era := by decide
  refine h.data (v := .held) (.inl rfl) ?_
  rw [ackPass, if_neg (by decide)]
  dsimp only
  rw [if_neg hne, if_pos hle]

/-- After 71 timer packets the port has given up on 65535; the era register does not notice. -/
lemma Waiting.timeout (h : Waiting 65535 (wire 16 65537) 70 s) :
    ∃ s', run (step port36) s (List.replicate 71 (.timer timerHdr)) = some s' ∧
      Waiting 65536 (wire 16 65537) 70 s' := by
  have hv : Timers (List.replicate 71 timerHdr) := fun hdr hmem => by
    rw [List.eq_of_mem_replicate hmem]
    rfl
  obtain ⟨s', hrun, hcount, hexp, hera, -, hadv, -⟩ := run_timers (S := port36) rfl _ hv s
  rw [List.map_replicate] at hrun
  have hbefore : s.countdown port36 = ⟨2, 70⟩ := by
    show countdownOf (s.regs.regAck 36) (s.regs.regExpectedSeqNo 36) = _
    rw [h.regAck, h.regExpectedSeqNo]
    decide
  have hafter : s'.countdown port36 = ⟨1, 70⟩ := by
    rw [hcount, hbefore]
    decide +kernel
  have hreg : s'.regs.regExpectedSeqNo 36 = wire 16 65537 := by
    rw [hexp, h.regExpectedSeqNo]
  obtain ⟨hlag, htime⟩ := Countdown.mk.inj hafter
  refine ⟨s', hrun, run_invariant (fun _ _ _ => bufferOk_step) h.bufferOk hrun, hreg, ?_, ?_, ?_⟩
  · -- the lag of one leaves a single ack number, and the time is that of the countdown
    have hone : wire 16 65537 - (s'.regs.regAck 36).ackNo = 1 := by
      rw [← hreg]
      exact BitVec.eq_of_toNat_eq hlag
    have hack : (s'.regs.regAck 36).ackNo = wire 16 65536 := by
      rw [← sub_sub_cancel (wire 16 65537) (s'.regs.regAck 36).ackNo, hone]
      decide
    have htime : (s'.regs.regAck 36).timeRemaining = 70 := BitVec.eq_of_toNat_eq htime
    rw [← hack, ← htime]
  · rw [hera, h.regAckEra]
  · rw [hafter, hbefore, h.advances] at hadv
    exact Nat.add_right_cancel hadv

/-- Packets 0 to 65534 are delivered, 65535 is lost and 65536 arrives; 71 timer packets later
the port has given up on 65535, and then a retransmitted copy of it arrives after all. -/
def lateCopyRun : List Event :=
  originals 65535 ++ .data 65536 (dataHdr 65536 0 1) :: (List.replicate 70 (.timer timerHdr) ++
    [.timer timerHdr, .data 65535 (dataHdr 65535 1 1)])

/-- **The wrap by timeout breaks the era**: the registers no longer denote the number of
advances, and the late copy of 65535, although behind the awaited 65536, is held back. -/
theorem timer_wrap_breaks_era :
    ∃ s, run (step port36) (init port36) lateCopyRun = some s ∧
      s.ackNo port36 = wire 16 s.advances ∧
      (s.regs.regAckEra port36.port).setWidth 1 ≠ era 16 s.advances ∧
      ∃ p ∈ s.history, Within halfRange p.num p.awaited ∧ p.num < p.awaited ∧
        p.verdict = .held := by
  -- up to the loss by induction on the packets, from there on step by step
  obtain ⟨s₁, h₁, hw₁⟩ := waiting_originals 65535 (by omega)
  obtain ⟨s₂, h₂, hw₂⟩ := hw₁.skip
  obtain ⟨s₄, h₄, hw₄⟩ := hw₂.timeout
  -- the late copy is compared in the wrong era
  have h₅ := step_dataHdr s₄ 65535 1 1
  have hpass := ((dataArrival_dataHdr 65535 1 1).ready s₄).pass_eq
  have hack : ackPass 70 (s₄.regs.regAck 36) (s₄.regs.regAckEra 36)
      (dataHdr 65535 1 1).linkradarData.fields = (⟨wire 16 65536, 70⟩, 0, .held) := by
    rw [hw₄.regAck, hw₄.regAckEra]
    rfl
  obtain ⟨ha, hb⟩ := Prod.mk.inj (hpass.trans hack)
  obtain ⟨he, hv⟩ := Prod.mk.inj hb
  have hadv := countAdvance_eq hw₄.ackNo (congrArg AckRecord.ackNo ha) (.inl hw₄.advances.symm)
  have hlate : lateCopyRun = originals 65535 ++ .data 65536 (dataHdr 65536 0 1) ::
      (List.replicate 71 (.timer timerHdr) ++ [.data 65535 (dataHdr 65535 1 1)]) := by
    rw [lateCopyRun, List.replicate_succ', List.append_assoc]
    rfl
  refine ⟨_, hlate ▸ run_append h₁ (run_cons_eq_some.mpr ⟨s₂, h₂, run_append h₄
    (run_cons_eq_some.mpr ⟨_, h₅, rfl⟩)⟩), ?_, ?_, ?_⟩
  · change (((context s₄ port36.portMd (dataHdr 65535 1 1)).apply port36.tables).regs.regAck
      port36.port).ackNo = wire 16 (countAdvance port36 s₄ _)
    rw [ha, hadv]
  · change (((context s₄ port36.portMd (dataHdr 65535 1 1)).apply port36.tables).regs.regAckEra
      port36.port).setWidth 1 ≠ era 16 (countAdvance port36 s₄ _)
    rw [he, hadv]
    decide
  · refine ⟨_, List.mem_append_right _ (List.mem_singleton_self _), ?_⟩
    change Within halfRange 65535 s₄.advances ∧ 65535 < s₄.advances ∧ _ = _
    rw [hw₄.advances]
    exact ⟨by decide, by decide, hv⟩

end LinkGuardian.Receiver
