import LinkGuardian.Library.Countdown
import LinkGuardian.Protocol.LossDetection
import LinkGuardian.Protocol.ReceiverBuffer

/-!
# Catching up by timeouts

The timer gives up on the numbers that the receiver awaits but has not seen, as long as
`reg_ack.ack_no` differs from `reg_expected_seq_no`: the test is for inequality, so an ack
number beyond the expected one would be advanced through the whole range.  It never gets there
(`CatchUpInv.le`), whichever packets come in between, and from behind it arrives after a number
of timer packets that is known in advance: a `Countdown` with one deadline for each number
still to be given up.

The ends of the register updates that matter are `Ready.advance` for data packets and
`timerPass_countdown` for timer packets.
-/

namespace LinkGuardian.Receiver

open P4 SerialNumber Execution Ingress

variable {S : Setup} {s s' : State}

/-! ## What comes off the link -/

/-- The order of a first-in first-out link: an original or a dummy is never behind the expected
number, and what is retransmitted has been found missing, so it is below. -/
def InOrderArrival (s : State) : Event → Prop
  | .data num hdr =>
    if hdr.linkradarData.fields.reTx = 0 then s.expected ≤ num else num < s.expected
  | .dummy num _ => s.expected ≤ num
  | _ => True

instance (s : State) : DecidablePred (InOrderArrival s)
  | .data num hdr => inferInstanceAs (Decidable
      (if hdr.linkradarData.fields.reTx = 0 then s.expected ≤ num else num < s.expected))
  | .dummy num _ => inferInstanceAs (Decidable (s.expected ≤ num))
  | .recirculate _ | .timer _ => isTrue trivial


/-- A step of a run in which every packet that passes is near the awaited number. -/
def CatchUpStep (s : State) (e : Event) : Prop := InWindow s e ∧ InOrderArrival s e

instance (s : State) (e : Event) : Decidable (CatchUpStep s e) :=
  inferInstanceAs (Decidable (_ ∧ _))

/-! ## The numbers behind the registers -/

/-- A data packet advances the ack register only when it carries the awaited number. -/
lemma Ready.advance {num : ℕ} {mode : BitVec 1} {c : Ingress} (h : Ready S s num mode c)
    (hA : s.ackNo S = wire 16 s.advances) (hw : Within halfRange num s.advances) :
    ((c.apply S.tables).regs.regAck S.port).ackNo =
        wire 16 (countAdvance S s (c.apply S.tables).regs) ∧
      (countAdvance S s (c.apply S.tables).regs = s.advances ∨
        num = s.advances ∧ countAdvance S s (c.apply S.tables).regs = s.advances + 1) := by
  have hack := congrArg Prod.fst h.pass_eq
  have hsame (heq : (c.apply S.tables).regs.regAck S.port = s.regs.regAck S.port) :
      ((c.apply S.tables).regs.regAck S.port).ackNo =
          wire 16 (countAdvance S s (c.apply S.tables).regs) ∧
        countAdvance S s (c.apply S.tables).regs = s.advances := by
    have hcount : countAdvance S s (c.apply S.tables).regs = s.advances :=
      if_pos (congrArg AckRecord.ackNo heq)
    rw [hcount, heq]
    exact ⟨hA, rfl⟩
  simp only [ackPass] at hack
  split at hack
  · exact ⟨(hsame hack).1, Or.inl (hsame hack).2⟩
  · split at hack
    · rename_i hseq
      have hno : ((c.apply S.tables).regs.regAck S.port).ackNo = s.ackNo S + 1 :=
        congrArg AckRecord.ackNo hack
      have hcount : countAdvance S s (c.apply S.tables).regs = s.advances + 1 :=
        if_neg (by rw [hno]; exact add_one_ne_self _)
      have hnum : num = s.advances := by
        rw [← wire_eq_iff_of_within hw, ← hA, ← h.carries.seqNo_eq]
        exact hseq.symm
      rw [hcount, hno, hA, wire_succ]
      exact ⟨rfl, Or.inr ⟨hnum, rfl⟩⟩
    · exact ⟨(hsame hack).1, Or.inl (hsame hack).2⟩

/-- `reg_expected_seq_no` after a packet of the port. -/
lemma regExpectedSeqNo_pass {hdr : Hdr} {num : ℕ} (hp : hdr.pktgenTimer.valid = false)
    (hd : hdr.linkradarData.valid = true) (hc : Carries hdr.linkradarData.fields num) :
    ((context s S.portMd hdr).apply S.tables).regs.regExpectedSeqNo S.port =
      if hdr.linkradarData.fields.reTx = 0 then
        wire 16 (if hdr.linkradarData.fields.dummy = 0 then num + 1 else num)
      else s.regs.regExpectedSeqNo S.port := by
  rw [apply_regExpectedSeqNo (c := context s S.portMd hdr) hp S.portMd_filter]
  by_cases hr : hdr.linkradarData.fields.reTx = 0
  · rw [if_pos hr, if_pos ⟨⟨S.portMd_protect, hd⟩, hr⟩]
    refine (Register.write_same _ _ _).trans ?_
    change nextExpected hdr.linkradarData.fields = _
    rw [nextExpected, hc.seqNo_eq, wire_succ]
    split <;> rfl
  · rw [if_neg hr, if_neg (fun h => hr h.2)]
    rfl

/-- A packet from the receiver buffer is not counted again. -/
lemma regExpectedSeqNo_recirculated {hdr : Hdr} (hp : hdr.pktgenTimer.valid = false) :
    ((context s S.recircMd hdr).apply S.tables).regs.regExpectedSeqNo =
      s.regs.regExpectedSeqNo := by
  rw [apply_regExpectedSeqNo (c := context s S.recircMd hdr) hp S.recircMd_filter]
  refine if_neg fun h => ?_
  have h1 : S.recircMd.protect = 1 := h.1.1
  rw [S.recircMd_protect] at h1
  cases h1

/-- What a run keeps: the registers denote the advances and the expected number, the advances
stay behind, and whatever waits in the receiver buffer is below the expected number. -/
structure CatchUpInv (S : Setup) (s : State) : Prop where
  bufferOk : BufferOk S s
  ackNo : s.ackNo S = wire 16 s.advances
  regExpectedSeqNo : s.regs.regExpectedSeqNo S.port = wire 16 s.expected
  le : s.advances ≤ s.expected
  below : ∀ p ∈ s.buffer, p.1 < s.expected

lemma catchUpInv_init (S : Setup) : CatchUpInv S (init S) where
  bufferOk := bufferOk_init S
  ackNo := (wire_zero 16).symm
  regExpectedSeqNo := (wire_zero 16).symm
  le := le_rfl
  below := fun _ hp => absurd hp List.not_mem_nil

/-- The pass of a data packet that ends up below the expected number. -/
lemma CatchUpInv.pass (hI : CatchUpInv S s) {num expected : ℕ} {recirculated : Bool}
    {mode : BitVec 1} {c : Ingress} {rest : List (ℕ × Hdr)} (hr : Ready S s num mode c)
    (hw : Within halfRange num s.advances) (hrest : ∀ p ∈ rest, p ∈ s.buffer)
    (hle : s.expected ≤ expected) (hnum : num < expected)
    (hreg : (c.apply S.tables).regs.regExpectedSeqNo S.port = wire 16 expected) :
    CatchUpInv S (afterPass S s rest num expected recirculated mode (c.apply S.tables)) := by
  obtain ⟨hno, hadv⟩ := hr.advance hI.ackNo hw
  refine ⟨bufferOk_afterPass hr fun p hp => hI.bufferOk p (hrest p hp), hno, hreg, ?_, ?_⟩
  · have hA := hI.le
    change countAdvance S s (c.apply S.tables).regs ≤ expected
    rcases hadv with hsame | ⟨rfl, hsucc⟩ <;> omega
  · intro p hp
    simp only [afterPass] at hp ⊢
    split at hp
    · rcases List.mem_append.mp hp with hp | hp
      · exact (hI.below p (hrest p hp)).trans_le hle
      · rw [List.mem_singleton.mp hp]
        exact hnum
    · exact (hI.below p (hrest p hp)).trans_le hle

/-- The timer gives up on a number only while it is below the expected one. -/
lemma CatchUpInv.timer (hI : CatchUpInv S s) :
    CatchUpInv S { s with
      regs := agedRegs S s, advances := countAdvance S s (agedRegs S s) } := by
  have hno := agedRegs_ackNo S s
  by_cases ht : TimerAdvances S s
  · have hne : s.advances ≠ s.expected := by
      intro heq
      apply ht.2.1
      rw [hI.ackNo, hI.regExpectedSeqNo, heq, sub_self]
    have hcount : countAdvance S s (agedRegs S s) = s.advances + 1 := by
      refine if_neg ?_
      rw [hno, if_pos ht]
      exact add_one_ne_self _
    rw [if_pos ht, hI.ackNo, wire_succ, ← hcount] at hno
    refine ⟨hI.bufferOk, hno, hI.regExpectedSeqNo, ?_, hI.below⟩
    have hA := hI.le
    simp only [hcount]
    omega
  · have hcount : countAdvance S s (agedRegs S s) = s.advances := if_pos (by rw [hno, if_neg ht])
    rw [if_neg ht, hI.ackNo, ← hcount] at hno
    refine ⟨hI.bufferOk, hno, hI.regExpectedSeqNo, ?_, hI.below⟩
    simp only [hcount]
    exact hI.le

/-- **Step lemma.** -/
theorem catchUpInv_step {e : Event} (hI : CatchUpInv S s) (hG : CatchUpStep s e)
    (h : step S s e = some s') : CatchUpInv S s' := by
  obtain ⟨hwin, horder⟩ := hG
  -- originals may move the expected number, a matching number moves the ack, and neither passes the
  -- other
  cases e with
  | data num hdr =>
    simp only [step, Option.ite_none_right_eq_some, Option.some_inj] at h
    obtain ⟨hd, rfl⟩ := h
    have hreg := regExpectedSeqNo_pass (S := S) (s := s) hd.pktgenTimer hd.linkradarData hd.carries
    simp only [hd.dummy, if_true, hI.regExpectedSeqNo] at hreg
    simp only [InOrderArrival] at horder
    split_ifs at horder hreg ⊢
    · exact hI.pass (hd.ready s) hwin (fun _ hp => hp) (by omega) (by omega) hreg
    · exact hI.pass (hd.ready s) hwin (fun _ hp => hp) le_rfl horder hreg
  | dummy num hdr =>
    simp only [step, Option.ite_none_right_eq_some, Option.some_inj] at h
    obtain ⟨hd, rfl⟩ := h
    have h1 : hdr.linkradarData.fields.dummy ≠ 0 := by simp [hd.dummy]
    have hack := (dummy_pass (t := S.tables) (c := context s S.portMd hdr) hd.pktgenTimer
      S.portMd_filter h1).1
    have hcount : countAdvance S s ((context s S.portMd hdr).apply S.tables).regs = s.advances :=
      if_pos (by rw [hack]; rfl)
    have hreg := regExpectedSeqNo_pass (S := S) (s := s) hd.pktgenTimer hd.linkradarData hd.carries
    rw [if_pos hd.reTx, if_neg h1] at hreg
    simp only [hcount]
    refine ⟨hI.bufferOk, ?_, hreg, hI.le.trans horder,
      fun p hp => (hI.below p hp).trans_le horder⟩
    rw [State.ackNo, hack]
    exact hI.ackNo
  | recirculate i =>
    simp only [step] at h
    split at h
    · rename_i num hdr hget
      rw [Option.some_inj] at h
      subst h
      have hmem := List.mem_of_getElem? hget
      have hb := hI.bufferOk _ hmem
      refine hI.pass (hb.ready s) (hwin _ hget) (fun p hp => List.mem_of_mem_eraseIdx hp) le_rfl
        (hI.below _ hmem) ?_
      rw [regExpectedSeqNo_recirculated hb.pktgenTimer]
      exact hI.regExpectedSeqNo
    · cases h
  | timer hdr =>
    have hp : hdr.pktgenTimer.valid = true := by
      simp only [step, Option.ite_none_right_eq_some] at h
      exact h.1
    rw [step_timer S s hp, Option.some_inj] at h
    rw [← h]
    exact hI.timer

/-! ## Timer packets alone -/

/-- The deadlines of a port: one for each number between the ack number and the expected one. -/
def countdownOf (ack : AckRecord) (expected : SeqNo) : Countdown :=
  ⟨(expected - ack.ackNo).toNat, ack.timeRemaining.toNat⟩

def State.countdown (S : Setup) (s : State) : Countdown :=
  countdownOf (s.regs.regAck S.port) (s.regs.regExpectedSeqNo S.port)

/-- A timer packet, with `check_timeout_increment_ack` signalling a timeout or not. -/
def signalsTimeout (S : Setup) (s : State) (hdr : Hdr) : Bool :=
  ((context s S.portMd hdr).apply S.tables).igMeta.ackTimeoutTriggered = 1

/-- The timeouts signalled while timer packets pass one after the other. -/
def timeouts (S : Setup) : State → List Hdr → ℕ
  | _, [] => 0
  | s, hdr :: hdrs => (if signalsTimeout S s hdr then 1 else 0) +
      (step S s (.timer hdr)).elim 0 fun s' => timeouts S s' hdrs

/-- Packets of the timer. -/
def Timers (hdrs : List Hdr) : Prop := ∀ hdr ∈ hdrs, hdr.pktgenTimer.valid = true

lemma toNat_sub_one {x : BitVec 16} (h : x ≠ 0) : (x - 1).toNat = x.toNat - 1 := by
  have hpos : x.toNat ≠ 0 := fun hc => h (BitVec.eq_of_toNat_eq hc)
  have hlt := x.isLt
  rw [BitVec.toNat_sub]
  simp
  omega

/-- **The timer pass is a tick.** -/
lemma timerPass_countdown (T : BitVec 16) (ack : AckRecord) (expected : SeqNo) :
    countdownOf (timerPass T ack expected) expected =
      (countdownOf ack expected).tick T.toNat := by
  have hlag : (countdownOf ack expected).lag = 0 ↔ ack.ackNo - expected = 0 := by
    rw [sub_eq_zero, eq_comm (a := ack.ackNo), ← sub_eq_zero (a := expected)]
    exact BitVec.toNat_inj (y := 0)
  have htime : (countdownOf ack expected).time = 0 ↔ ack.timeRemaining = 0 :=
    BitVec.toNat_inj (y := 0)
  unfold timerPass Countdown.tick
  by_cases hne : ack.ackNo - expected = 0
  · rw [if_neg (not_not.mpr hne), if_pos (hlag.mpr hne)]
  · rw [if_pos hne, if_neg (fun h => hne (hlag.mp h))]
    by_cases ht : ack.timeRemaining = 0
    · have hsub : expected - ack.ackNo ≠ 0 := fun h => hne (hlag.mp (congrArg BitVec.toNat h))
      rw [if_pos ht, if_pos (htime.mpr ht)]
      simp only [countdownOf, ← sub_sub, toNat_sub_one hsub]
    · rw [if_neg ht, if_neg (fun h => ht (htime.mp h))]
      simp only [countdownOf, toNat_sub_one ht]

lemma bit_eq_one_iff {P : Prop} [Decidable P] :
    (if P then (1 : BitVec 1) else 0) = 1 ↔ P := by
  split <;> simp [*]

lemma countdown_lag_eq_zero_iff :
    (s.countdown S).lag = 0 ↔ s.ackNo S = s.regs.regExpectedSeqNo S.port := by
  have hsub : (s.countdown S).lag = 0 ↔ s.regs.regExpectedSeqNo S.port - s.ackNo S = 0 :=
    BitVec.toNat_inj (y := 0)
  rw [hsub, sub_eq_zero, eq_comm]

section Timers

variable {hdr : Hdr} (hport : S.port = 36)

include hport

lemma timerAdvances_iff_due : TimerAdvances S s ↔ (s.countdown S).Due := by
  have hlag : s.ackNo S - s.regs.regExpectedSeqNo S.port ≠ 0 ↔ (s.countdown S).lag ≠ 0 := by
    rw [Ne, sub_eq_zero, ← countdown_lag_eq_zero_iff]
  unfold TimerAdvances Countdown.Due
  rw [hlag]
  exact ⟨fun h => ⟨h.2.1, congrArg BitVec.toNat h.2.2⟩,
    fun h => ⟨hport, h.1, BitVec.eq_of_toNat_eq h.2⟩⟩

lemma signalsTimeout_iff (hp : hdr.pktgenTimer.valid = true) :
    signalsTimeout S s hdr = true ↔ (s.countdown S).Due := by
  rw [← timerAdvances_iff_due hport, signalsTimeout, decide_eq_true_iff,
    timer_ackTimeoutTriggered (c := context s S.portMd hdr) hp, TimerAdvances, State.ackNo, hport]
  simp only [context, Ingress.start, true_and]
  exact bit_eq_one_iff

/-- The countdown after a timer packet. -/
lemma countdown_aged : countdownOf ((agedRegs S s).regAck S.port)
    ((agedRegs S s).regExpectedSeqNo S.port) =
      (s.countdown S).tick S.tables.timeoutVal100ns.toNat := by
  rw [State.countdown, ← timerPass_countdown, hport, agedRegs_regAck_36]
  rfl

lemma countAdvance_aged :
    countAdvance S s (agedRegs S s) = s.advances + if (s.countdown S).Due then 1 else 0 := by
  unfold countAdvance
  rw [agedRegs_ackNo]
  simp only [timerAdvances_iff_due hport]
  split
  · rw [if_neg (add_one_ne_self _)]
  · simp

/-- **Timer packets alone** tick the countdown, signal a timeout at each deadline, and leave
the expected number and the era as they are. -/
theorem run_timers (hdrs : List Hdr) (hv : Timers hdrs) (s : State) :
    ∃ s', run (step S) s (hdrs.map .timer) = some s' ∧
      s'.countdown S = (Countdown.tick S.tables.timeoutVal100ns.toNat)^[hdrs.length]
        (s.countdown S) ∧
      s'.regs.regExpectedSeqNo = s.regs.regExpectedSeqNo ∧
      s'.regs.regAckEra = s.regs.regAckEra ∧ s'.expected = s.expected ∧
      s'.advances + (s'.countdown S).lag = s.advances + (s.countdown S).lag ∧
      timeouts S s hdrs + (s'.countdown S).lag = (s.countdown S).lag := by
  induction hdrs generalizing s with
  | nil => exact ⟨s, rfl, rfl, rfl, rfl, rfl, rfl, Nat.zero_add _⟩
  | cons hdr hdrs ih =>
    have hp := hv hdr List.mem_cons_self
    have hstep := step_timer S s hp
    obtain ⟨s', hrun, hcount, hreg, hera, hexp, hadv, hout⟩ := ih
      (fun h hh => hv h (List.mem_cons_of_mem _ hh)) _
    have htick : State.countdown S { s with
        regs := agedRegs S s, advances := countAdvance S s (agedRegs S s) } =
        (s.countdown S).tick S.tables.timeoutVal100ns.toNat := countdown_aged hport
    have hlag := (s.countdown S).lag_tick S.tables.timeoutVal100ns.toNat
    have hsig := signalsTimeout_iff hport (s := s) hp
    refine ⟨s', run_cons_eq_some.mpr ⟨_, hstep, hrun⟩, ?_, hreg, hera, hexp, ?_, ?_⟩
    · rw [hcount, htick]
      rfl
    · rw [hadv, htick]
      simp only [countAdvance_aged hport]
      omega
    · simp only [timeouts, hstep, Option.elim_some, hsig]
      rw [htick] at hout
      omega

/-- With no number left to give up, a timer packet changes nothing. -/
lemma run_timers_idle (hdrs : List Hdr) (hv : Timers hdrs) (hlag : (s.countdown S).lag = 0) :
    run (step S) s (hdrs.map .timer) = some s ∧ timeouts S s hdrs = 0 := by
  have hdue : ¬ (s.countdown S).Due := fun h => h.1 hlag
  have hregs : agedRegs S s = s.regs := by
    have hsub : (s.regs.regAck 36).ackNo - s.regs.regExpectedSeqNo 36 = 0 := by
      rw [countdown_lag_eq_zero_iff, State.ackNo, hport] at hlag
      exact sub_eq_zero.mpr hlag
    rw [agedRegs, timerPass, if_neg (not_not.mpr hsub), Register.write_self]
  induction hdrs with
  | nil => exact ⟨rfl, rfl⟩
  | cons hdr hdrs ih =>
    obtain ⟨hrun, hout⟩ := ih fun h hh => hv h (List.mem_cons_of_mem _ hh)
    have hp := hv hdr List.mem_cons_self
    have hstep : step S s (.timer hdr) = some s := by
      rw [step_timer S s hp, countAdvance_aged hport, if_neg hdue, hregs]
      rfl
    refine ⟨run_cons_eq_some.mpr ⟨s, hstep, hrun⟩, ?_⟩
    simp [timeouts, hstep, hout, (signalsTimeout_iff hport hp).not.mpr hdue]

end Timers

/-- Timer packets alone close a gap of `d` numbers with the last of `n` packets, signalling `d`
timeouts, and change nothing from then on.  That the last packet closes it says that `n` is not too
large. -/
structure CatchesUp (S : Setup) (s : State) (d n : ℕ) : Prop where
  waits : ∀ hdrs, Timers hdrs → hdrs.length < n →
    ∃ s', run (step S) s (hdrs.map .timer) = some s' ∧
      s'.ackNo S ≠ s'.regs.regExpectedSeqNo S.port
  arrives : ∀ hdrs, Timers hdrs → hdrs.length = n →
    ∃ s', run (step S) s (hdrs.map .timer) = some s' ∧ timeouts S s hdrs = d ∧
      s'.ackNo S = s'.regs.regExpectedSeqNo S.port ∧
      s'.regs.regExpectedSeqNo = s.regs.regExpectedSeqNo ∧
      s'.advances = s'.expected ∧ s'.expected = s.expected ∧
      ∀ more, Timers more → run (step S) s' (more.map .timer) = some s' ∧ timeouts S s' more = 0

/-- **Timeouts neither overtake nor stop short.**  In every run whose packets come off the link
in order and near the awaited number, the ack number `A` stays at most the expected number `E`.
From such a state of port 36, the one whose registers timer packets age, with `E - A = d > 0`
less than a range, and with `t` ticks left, timer packets alone signal `d` timeouts and bring
`ack_no` to `expected_seq_no` with packet `(t + 1) + (d - 1) * (TIMEOUT_VAL_100NS + 1)`. -/
theorem timer_catch_up (S : Setup) (es : List Event) (s : State)
    (hrun : run (step S) (init S) es = some s) (hG : Along (step S) CatchUpStep (init S) es) :
    s.ackNo S = wire 16 s.advances ∧ s.regs.regExpectedSeqNo S.port = wire 16 s.expected ∧
      s.advances ≤ s.expected ∧
      ∀ d, 0 < d → s.expected = s.advances + d → d < 65536 → S.port = 36 →
        CatchesUp S s d (((s.regs.regAck S.port).timeRemaining.toNat + 1) +
          (d - 1) * (S.tables.timeoutVal100ns.toNat + 1)) := by
  have hI := run_invariant_along (fun _ _ _ hI hG h => catchUpInv_step hI hG h)
    (catchUpInv_init S) hG hrun
  refine ⟨hI.ackNo, hI.regExpectedSeqNo, hI.le, fun d hd hgap hnear hport => ?_⟩
  have hlag : (s.countdown S).lag = d := by
    have hsub := wire_sub_toNat (w := 16) hI.le (by omega)
    rw [← hI.ackNo, ← hI.regExpectedSeqNo] at hsub
    exact hsub.trans (by omega)
  have hremaining : (s.countdown S).remaining S.tables.timeoutVal100ns.toNat =
      ((s.regs.regAck S.port).timeRemaining.toNat + 1) +
        (d - 1) * (S.tables.timeoutVal100ns.toNat + 1) := by
    rw [Countdown.remaining, hlag, if_neg hd.ne']
    rfl
  constructor
  · intro hdrs hv hlen
    obtain ⟨s', hs', hcount, -⟩ := run_timers hport hdrs hv s
    refine ⟨s', hs', fun heq => ?_⟩
    rw [← countdown_lag_eq_zero_iff, hcount, Countdown.lag_iterate_eq_zero_iff, hremaining] at heq
    omega
  · intro hdrs hv hlen
    obtain ⟨s', hs', hcount, hreg, -, hexp, hadv, hout⟩ := run_timers hport hdrs hv s
    have hzero : (s'.countdown S).lag = 0 := by
      rw [hcount, Countdown.lag_iterate_eq_zero_iff, hremaining, hlen]
    refine ⟨s', hs', by omega, countdown_lag_eq_zero_iff.mp hzero, hreg, by omega, hexp, ?_⟩
    exact fun more hm => run_timers_idle hport more hm hzero

/-- Packet 0 is lost, packet 1 arrives and is held back, and two timer packets pass: 69 more
give up on packet 0, another 71 on packet 1. -/
theorem timer_catch_up_two_behind :
    ∃ s, run (step port36) (init port36)
        [.data 1 (dataHdr 1 0 1), .timer timerHdr, .timer timerHdr] = some s ∧
      CatchesUp port36 s 2 140 := by
  have hrun : (run (step port36) (init port36)
      [.data 1 (dataHdr 1 0 1), .timer timerHdr, .timer timerHdr]).map
        (fun s => (s.advances, s.expected, (s.regs.regAck port36.port).timeRemaining)) =
      some (0, 2, 68) := by decide +kernel
  obtain ⟨s, hs, heq⟩ := Option.map_eq_some_iff.mp hrun
  obtain ⟨hadv, hexp, htime⟩ : s.advances = 0 ∧ s.expected = 2 ∧
      (s.regs.regAck port36.port).timeRemaining = 68 := by simpa using heq
  obtain ⟨-, -, -, hcatch⟩ := timer_catch_up port36 _ s hs (by decide +kernel)
  have h := hcatch 2 (by omega) (by omega) (by omega) rfl
  rw [htime] at h
  exact ⟨s, hs, h⟩

end LinkGuardian.Receiver

/-! ## The order of arrivals -/

namespace LinkGuardian.Link

open Execution

/-- The arrival of a packet of the link, as the receiver sees it. -/
def Packet.rxEvent (p : Packet) : Receiver.Event :=
  if p.isData then .data p.num p.rxHdr else .dummy p.num p.rxHdr

/-- **The sender and the link keep the order that catching up relies on**: whatever the link
delivers next is not behind the number that the receiver expects. -/
theorem arrival_in_order (S : Setup) (es : List Event) (s : State)
    (hrun : run (step S) (init S) es = some s)
    (hG : Along (step S) (LossBound 65536) (init S) es) {p : Packet} {ps : List Packet}
    (hlink : s.link = p :: ps) (r : Receiver.State) (hr : r.expected = s.expected) :
    Receiver.InOrderArrival r p.rxEvent := by
  have hI := run_invariant_along (fun _ _ _ h hG hs => inv_step h hG hs) (inv_init S) hG hrun
  have hle : r.expected ≤ p.num := by
    rw [hr, (hI.head hlink).1]
    exact Nat.le_add_right _ _
  have hre : p.rxHdr.linkradarData.fields.reTx = 0 := (hI.linkOk p (by simp [hlink])).reTx
  unfold Packet.rxEvent
  split
  · simp only [Receiver.InOrderArrival, hre, if_true]
    exact hle
  · exact hle

end LinkGuardian.Link
