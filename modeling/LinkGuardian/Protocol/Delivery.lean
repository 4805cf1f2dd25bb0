import LinkGuardian.Protocol.ProtectedLink

/-!
# What a protected link delivers

In blocking mode the receiver hands on the stamped packets in order, each once, and none before
it was stamped; once nothing is on its way any more and of every retransmitted packet some copy
has come through, all of them.  In non-blocking mode every original that gets through is handed
on once and in order, and a lost one as often as a retransmitted copy of it comes through.
-/

namespace LinkGuardian.ProtectedLink

open P4 SerialNumber Execution

variable {S : Setup} {s s' : State}

/-- Nothing is on its way: the originals are off the link, and both buffers are empty.
Retransmitted copies may still be on the link; by `RetxArrived` they are not needed any more. -/
structure Quiet (s : State) : Prop where
  link : s.sender.link.link = []
  buffer : s.sender.buffer = []
  rxBuffer : s.rxBuffer = []

/-- Of every packet that was retransmitted a copy has come through. -/
def RetxArrived (s : State) : Prop :=
  ∀ n, (n, .retransmitted) ∈ s.sender.decided → n ∈ s.arrivedRetx

/-- Once the originals are off the link and the sender's buffer is empty, every stamped packet was
delivered or retransmitted. -/
lemma Inv.delivered_or_retransmitted (h : Inv S s) (hlink : s.sender.link.link = [])
    (hbuffer : s.sender.buffer = []) {n : ℕ} (hn : n < s.stamped) :
    n ∈ Link.deliveredIn s.sender.link.fates ∨ (n, .retransmitted) ∈ s.sender.decided := by
  have hL := h.linkInv
  have hend : s.sender.link.expected + s.sender.link.lostRun = s.stamped := by
    have hseq := hL.sequenced
    rw [hlink] at hseq
    exact hseq
  rcases h.sender.holes.recorded n hn with hin | ⟨d, hd⟩
  · rw [Buffer.State.nums, hbuffer] at hin
    exact absurd hin List.not_mem_nil
  · cases d with
    | retransmitted => exact Or.inr hd
    | dropped =>
      rcases (h.sender.holes.decided _ hd).2.2 with hzero | hdel
      · -- packet 0 is the one that is dropped without a report
        obtain rfl : n = 0 := hzero
        have hkept := h.sender.holes.firstKept
        rcases Nat.eq_zero_or_pos s.sender.link.expected with h0 | hpos
        · exact absurd (hL.ledger.recent 0 (by omega) (by omega)) hkept
        · exact Or.inl ((hL.ledger.settled 0 hpos).resolve_right hkept)
      · exact Or.inl hdel

/-- **Nothing is lost for good.**  Once the originals are off the link and the sender's buffer
is empty, every stamped packet has arrived. -/
lemma Inv.arrived_of_quiet (h : Inv S s) (hlink : s.sender.link.link = [])
    (hbuffer : s.sender.buffer = []) (hretx : RetxArrived s) {n : ℕ} (hn : n < s.stamped) :
    s.Arrived n :=
  (h.delivered_or_retransmitted hlink hbuffer hn).imp_right (hretx n)

/-! ## Blocking mode -/

/-- Every number that has passed the receiver is behind the awaited one or in the buffer.  So a
number that has arrived and was not handed on is still there, and the only way to lose it would be a
full buffer, which the model does not have. -/
def Settled (r : Receiver.State) : Prop :=
  ∀ p ∈ r.history, p.num < r.advances ∨ p.num ∈ r.buffer.map Prod.fst

/-- One pass of the abstract receiver settles its number. -/
lemma settled_afterPass {R : Receiver.Setup} {r : Receiver.State} {rest : List (ℕ × Receiver.Hdr)}
    {num expected : ℕ} {recirculated : Bool} {mode : BitVec 1} {c : Receiver.Ingress}
    (h : Settled r) (hrest : ∀ n ∈ r.buffer.map Prod.fst, n = num ∨ n ∈ rest.map Prod.fst)
    (hv : c.verdict = Receiver.inOrderVerdict r.advances num)
    (ha : Receiver.countAdvance R r c.regs = Receiver.inOrderNext r.advances num) :
    Settled (Receiver.afterPass R r rest num expected recirculated mode c) := by
  have hle : r.advances ≤ Receiver.inOrderNext r.advances num := by
    unfold Receiver.inOrderNext
    split <;> omega
  have hnum : num < Receiver.inOrderNext r.advances num ∨
      num ∈ (if c.verdict = .held then rest ++ [(num, c.hdr.unbridged)] else rest).map
        Prod.fst := by
    rw [hv]
    unfold Receiver.inOrderVerdict Receiver.inOrderNext
    split_ifs <;> first | omega | simp_all
  have hkeep : ∀ n ∈ rest.map Prod.fst,
      n ∈ (if c.verdict = .held then rest ++ [(num, c.hdr.unbridged)] else rest).map Prod.fst := by
    intro n hn
    split
    · rw [List.map_append]
      exact List.mem_append_left _ hn
    · exact hn
  intro p hp
  change p.num < Receiver.countAdvance R r c.regs ∨ _
  rw [ha]
  rcases List.mem_append.mp hp with hp | hp
  · rcases h p hp with hlt | hbuf
    · exact Or.inl (Nat.lt_of_lt_of_le hlt hle)
    · rcases hrest _ hbuf with heq | hin
      · rw [heq]
        exact hnum
      · exact Or.inr (hkeep _ hin)
  · rw [List.mem_singleton.mp hp]
    exact hnum

lemma settled_step {R : Receiver.Setup} {r r' : Receiver.State} {e : Receiver.Event}
    (hI : Receiver.BlockingInv R r) (h : Settled r) (hG : Receiver.BlockingStep R r e)
    (hs : Receiver.step R r e = some r') : Settled r' := by
  obtain ⟨hmode, hwin, htimer⟩ := hG
  rcases Receiver.step_cases hI.bufferOk hs with ⟨num, hdr, rfl, hd, rfl⟩ |
    ⟨i, num, hdr, rfl, hget, hb, rfl⟩ | ⟨num, hdr, regs, -, -, -, -, rfl⟩ | ⟨hdr, rfl, rfl⟩
  · have hne : hdr.linkradarData.fields.blockingMode ≠ 0 := by
      rw [show hdr.linkradarData.fields.blockingMode = 1 from hmode]; decide
    obtain ⟨hv, ha⟩ := (hd.ready r).spec hne hI.acked hwin
    exact settled_afterPass h (fun _ hn => Or.inr hn) hv ha
  · obtain ⟨hv, ha⟩ := (hb.ready r).spec hb.blockingMode hI.acked (hwin _ hget)
    refine settled_afterPass h (fun n hn => ?_) hv ha
    obtain ⟨hi, hval⟩ := List.getElem?_eq_some_iff.mp hget
    have hperm := (List.getElem_cons_eraseIdx_perm hi).map Prod.fst
    rw [hval] at hperm
    exact List.mem_cons.mp (hperm.mem_iff.mpr hn)
  · exact h
  · have hsame : Receiver.countAdvance R r (Receiver.agedRegs R r) = r.advances :=
      if_pos (by rw [Receiver.agedRegs_ackNo, if_neg htimer])
    intro p hp
    change p.num < Receiver.countAdvance R r (Receiver.agedRegs R r) ∨ _
    rw [hsame]
    exact h p hp

/-- What a blocking-mode run keeps.  It joins the invariant of the two ends with what blocking mode
adds at the receiver. -/
structure BlockingInv (S : Setup) (s : State) : Prop where
  inv : Inv S s
  receiver : Receiver.BlockingInv S.receiver s.receiver
  settled : Settled s.receiver

lemma blockingInv_init (S : Setup) : BlockingInv S (init S) where
  inv := inv_init S
  receiver := Receiver.blockingInv_init S.receiver
  settled := fun _ hp => absurd hp List.not_mem_nil

/-- Every data packet was stamped in the given mode. -/
def InMode (mode : BitVec 1) : Receiver.Event → Prop
  | .data _ hdr => hdr.linkradarData.fields.blockingMode = mode
  | .dummy _ _ | .recirculate _ | .timer _ => True

/-- Whatever comes off the link was stamped in the mode of the port. -/
lemma Inv.inMode (h : Inv S s) {e : Event} {e' : Receiver.Event}
    (he : e.atReceiver s = some e') : InMode S.mode e' := by
  cases e with
  | arrive =>
    obtain ⟨p, hp, rfl⟩ := Option.map_eq_some_iff.mp he
    unfold arrivalOf
    split
    · rename_i hdata
      exact (h.link p (List.mem_of_mem_head? hp) hdata).blockingMode
    · trivial
  | arriveRetx i =>
    obtain ⟨p, hp, rfl⟩ := Option.map_eq_some_iff.mp he
    exact (h.retx p (List.mem_of_getElem? hp)).1.data.blockingMode
  | recirculate | timer =>
    obtain rfl := Option.some_inj.mp he
    trivial
  | data | dummy | lose | report | buffered | loseRetx => cases he

lemma Inv.blocking (h : Inv S s) (hmode : S.mode = 1) {e : Event} {e' : Receiver.Event}
    (he : e.atReceiver s = some e') : Receiver.Blocking e' := by
  have hin := h.inMode he
  rw [hmode] at hin
  cases e' with
  | data num hdr => exact hin
  | dummy | recirculate | timer => trivial

/-- The receiver's part of a step, if it takes one. -/
lemma receiver_step {e : Event} (hs : step S s e = some s') :
    (e.atReceiver s = none ∧ s'.receiver = s.receiver) ∨
      ∃ e', e.atReceiver s = some e' ∧
        Receiver.step S.receiver s.receiver e' = some s'.receiver := by
  rcases step_cases hs with ⟨e', b, he, hne, -, hb, rfl⟩ | ⟨p, b, r, rfl, hp, -, hr, rfl⟩ |
    ⟨i, rfl, rfl⟩ | ⟨i, n, hdr, r, rfl, hget, hr, rfl⟩ | ⟨e', r, he, -, hr, rfl⟩
  · refine Or.inl ⟨?_, ?_⟩
    · cases e with
      | arrive =>
        obtain rfl := Option.some_inj.mp he
        exact absurd rfl hne
      | data | dummy | lose | report | buffered => rfl
      | loseRetx | arriveRetx | recirculate | timer => cases he
    · rw [State.receiver, State.receiver]
      change Receiver.State.mk b.link.rxRegs _ _ _ _ = _
      rw [(sender_rxRegs hne hb).1]
      rfl
  · exact Or.inr ⟨_, congrArg (Option.map arrivalOf) hp, hr⟩
  · exact Or.inl ⟨rfl, rfl⟩
  · exact Or.inr ⟨_, congrArg (Option.map fun p => _) hget, hr⟩
  · exact Or.inr ⟨e', he, hr⟩

/-- The conditions on the steps of a blocking-mode run. -/
def BlockingGuard (S : Setup) (s : State) (e : Event) : Prop :=
  SenderGuard s e ∧ ReceiverGuard S s e

instance (S : Setup) (s : State) (e : Event) : Decidable (BlockingGuard S s e) :=
  inferInstanceAs (Decidable (_ ∧ _))

/-- **Step lemma.** -/
lemma blockingInv_step {e : Event} (hmode : S.mode = 1) (h : BlockingInv S s) (hw : Windowed s)
    (hw' : Windowed s') (hG : BlockingGuard S s e) (hs : step S s e = some s') :
    BlockingInv S s' := by
  refine ⟨inv_step h.inv hw hw' hG.1 hs, ?_, ?_⟩
  · rcases receiver_step hs with ⟨-, hsame⟩ | ⟨e', he, hr⟩
    · rw [hsame]
      exact h.receiver
    · exact Receiver.blockingInv_step h.receiver ⟨h.inv.blocking hmode he, hG.2 e' he⟩ hr
  · rcases receiver_step hs with ⟨-, hsame⟩ | ⟨e', he, hr⟩
    · rw [hsame]
      exact h.settled
    · exact settled_step h.receiver h.settled ⟨h.inv.blocking hmode he, hG.2 e' he⟩ hr

lemma blockingInv_run (hmode : S.mode = 1) {es : List Event}
    (hrun : run (step S) (init S) es = some s) (hw : Throughout (step S) Windowed (init S) es)
    (hG : Along (step S) (BlockingGuard S) (init S) es) : BlockingInv S s :=
  run_invariant_throughout (fun _ _ _ h hw hw' hG hs => blockingInv_step hmode h hw hw' hG hs)
    (blockingInv_init S) hw hG hrun

lemma mem_history_of_mem_released {r : Receiver.State} {n : ℕ} (h : n ∈ r.released) :
    n ∈ r.history.map Receiver.Pass.num := by
  obtain ⟨p, hp, rfl⟩ := List.mem_map.mp h
  exact List.mem_map_of_mem (List.mem_of_mem_filter hp)

lemma BlockingInv.advances_le (h : BlockingInv S s) : s.advances ≤ s.stamped := by
  by_contra hlt
  have hmem : s.stamped ∈ s.receiver.released := by
    rw [h.receiver.inOrder.released]
    exact List.mem_range.mpr (not_le.mp hlt)
  have harr := h.inv.arrived _ (List.mem_append_left _ (mem_history_of_mem_released hmem))
  exact absurd (h.inv.lt_stamped harr) (lt_irrefl _)

/-- **Blocking mode delivers the stamped packets in order.**  In every run with a window, sparse
losses, reports in order and no timeout, whatever is lost, repeated or delayed on the way: what
has been handed on is `0, …, A - 1`, each once and in this order, and all of it was stamped. -/
theorem protected_link_in_order (S : Setup) (hmode : S.mode = 1) (es : List Event) (s : State)
    (hrun : run (step S) (init S) es = some s) (hw : Throughout (step S) Windowed (init S) es)
    (hG : Along (step S) (BlockingGuard S) (init S) es) :
    s.released = List.range s.advances ∧ s.advances ≤ s.stamped := by
  have h := blockingInv_run hmode hrun hw hG
  exact ⟨h.receiver.inOrder.released, h.advances_le⟩

/-- A packet that has arrived is behind the awaited number or in the receiver's buffer. -/
lemma BlockingInv.waiting (h : BlockingInv S s) {n : ℕ} (harr : s.Arrived n)
    (hn : s.advances ≤ n) : n ∈ s.rxBuffer.map Prod.fst := by
  have hpos : 0 < s.history.countP (fromLink n) := by
    rw [h.inv.counted]
    rcases harr with hd | hr
    · exact Nat.add_pos_left (List.count_pos_iff.mpr hd) _
    · exact Nat.add_pos_right _ (List.count_pos_iff.mpr hr)
  obtain ⟨p, hp, hnum⟩ := List.countP_pos_iff.mp hpos
  obtain ⟨hnum, -⟩ := (Bool.and_eq_true _ _).mp hnum
  obtain rfl := of_decide_eq_true hnum
  exact (h.settled p hp).resolve_left (not_lt.mpr hn)

/-- **Blocking mode delivers every stamped packet.**  When nothing is on its way any more and of
every retransmitted packet a copy has come through, the packets handed on are all that were
stamped, in the order in which they were. -/
theorem protected_link_complete (S : Setup) (hmode : S.mode = 1) (es : List Event) (s : State)
    (hrun : run (step S) (init S) es = some s) (hw : Throughout (step S) Windowed (init S) es)
    (hG : Along (step S) (BlockingGuard S) (init S) es) (hquiet : Quiet s)
    (hretx : RetxArrived s) : s.released = List.range s.stamped := by
  have h := blockingInv_run hmode hrun hw hG
  have hall : s.stamped ≤ s.advances := by
    by_contra hlt
    have hbuf := h.waiting
      (h.inv.arrived_of_quiet hquiet.link hquiet.buffer hretx (not_le.mp hlt)) le_rfl
    rw [hquiet.rxBuffer] at hbuf
    exact absurd hbuf List.not_mem_nil
  rw [State.released, h.receiver.inOrder.released]
  exact congrArg List.range (le_antisymm h.advances_le hall)

/-- The test bed: port 36 at both ends, one copy for each retransmission. -/
def link36 : Setup where
  sender := Buffer.buffer36
  mcastPorts := fun _ => []
  recircMd := Receiver.port36.recircMd
  recircMd_filter := Receiver.port36.recircMd_filter
  recircMd_protect := Receiver.port36.recircMd_protect

/-- Of three packets the middle one is lost; its copy is retransmitted and lets the last one out
of the receiver's buffer. -/
def oneLossRun : List Event :=
  [.data default 0 0, .data default 0 0, .data default 0 0, .arrive, .lose, .arrive,
    .report 1 Buffer.notificationHdr, .buffered 0, .buffered 0, .buffered 0, .arriveRetx 0,
    .recirculate 0]

lemma oneLossRun_end : ∃ s, run (step link36) (init link36) oneLossRun = some s ∧
    s.stamped = 3 ∧ Quiet s ∧ RetxArrived s := by
  have hrun : (run (step link36) (init link36) oneLossRun).any (fun s =>
      decide (s.stamped = 3) && (s.sender.link.link.isEmpty && (s.sender.buffer.isEmpty &&
        (s.rxBuffer.isEmpty && (decide (s.arrivedRetx = [1]) && decide (s.sender.decided =
          [(0, .dropped), (1, .retransmitted), (2, .dropped)])))))) := by
    decide +kernel
  obtain ⟨s, hs, hend⟩ := (Option.any_eq_true _ _).mp hrun
  simp only [Bool.and_eq_true, decide_eq_true_eq, List.isEmpty_iff] at hend
  obtain ⟨hstamped, hlink, hbuffer, hrx, hretx, hdec⟩ := hend
  refine ⟨s, hs, hstamped, ⟨hlink, hbuffer, hrx⟩, fun n hn => ?_⟩
  rw [hdec] at hn
  rw [hretx]
  simpa using hn

/-- The three packets come out in order. -/
theorem protected_link_in_order_one_loss : ∃ s,
    run (step link36) (init link36) oneLossRun = some s ∧
      s.released = List.range s.advances ∧ s.advances ≤ 3 := by
  obtain ⟨s, hs, hstamped, -⟩ := oneLossRun_end
  obtain ⟨hrel, hle⟩ := protected_link_in_order link36 rfl oneLossRun s hs (by decide +kernel)
    (by decide +kernel)
  exact ⟨s, hs, hrel, hstamped ▸ hle⟩

/-- And all of them do. -/
theorem protected_link_complete_one_loss : ∃ s,
    run (step link36) (init link36) oneLossRun = some s ∧ s.released = [0, 1, 2] := by
  obtain ⟨s, hs, hstamped, hquiet, hretx⟩ := oneLossRun_end
  have hall := protected_link_complete link36 rfl oneLossRun s hs (by decide +kernel)
    (by decide +kernel) hquiet hretx
  rw [hstamped] at hall
  exact ⟨s, hs, hall⟩

/-! ## Non-blocking mode -/

/-- The receiver hands a non-blocking packet on at once. -/
lemma nonBlocking_step {R : Receiver.Setup} {r r' : Receiver.State} {e : Receiver.Event}
    (hbuf : r.buffer = []) (hmode : InMode 0 e) (hs : Receiver.step R r e = some r') :
    r'.buffer = [] ∧ r'.released = r.released ++ (dataNum e).toList := by
  have hB : Receiver.BufferOk R r := by
    intro p hp
    rw [hbuf] at hp
    exact absurd hp List.not_mem_nil
  rcases Receiver.step_cases hB hs with ⟨num, hdr, rfl, hd, rfl⟩ | ⟨i, num, hdr, rfl, hget, -, -⟩ |
    ⟨_, _, _, rfl, -, -, -, rfl⟩ | ⟨_, rfl, rfl⟩
  · have hzero : ((Receiver.context r R.portMd hdr).hdr.linkradarData.fields.blockingMode) = 0 :=
      hmode
    have hv : ((Receiver.context r R.portMd hdr).apply R.tables).verdict = .released := by
      have heq := (hd.ready r).pass_eq
      rw [Receiver.Ingress.ackPass, if_pos hzero] at heq
      exact congrArg (fun x => x.2.2) heq
    refine ⟨?_, ?_⟩
    · simp only [Receiver.afterPass, hv]
      exact hbuf
    · simp [Receiver.State.released, Receiver.afterPass, hv, dataNum]
  · rw [hbuf] at hget
    cases hget
  · exact ⟨hbuf, (List.append_nil _).symm⟩
  · exact ⟨hbuf, (List.append_nil _).symm⟩

/-- What a non-blocking run keeps: nothing is held back, the originals were handed on as they were
delivered, and every other number as often as a copy of it arrived. -/
structure PassingInv (S : Setup) (s : State) : Prop where
  inv : Inv S s
  rxBuffer : s.rxBuffer = []
  sorted : (Link.deliveredIn s.sender.link.fates).Pairwise (· < ·)
  originals : s.released.filter (· ∈ Link.deliveredIn s.sender.link.fates) =
    Link.deliveredIn s.sender.link.fates
  released : ∀ n, s.released.count n =
    (Link.deliveredIn s.sender.link.fates).count n + s.arrivedRetx.count n

lemma passingInv_init (S : Setup) : PassingInv S (init S) where
  inv := inv_init S
  rxBuffer := rfl
  sorted := List.Pairwise.nil
  originals := rfl
  released := fun _ => rfl

/-- A number that was retransmitted was not delivered as an original. -/
lemma Inv.not_delivered (h : Inv S s) {n : ℕ} (hn : (n, .retransmitted) ∈ s.sender.decided) :
    n ∉ Link.deliveredIn s.sender.link.fates :=
  (h.linkInv.ledger.lost n (h.sender.holes.decided _ hn).2.2).2

/-- The numbers handed on have arrived. -/
lemma PassingInv.arrived (h : PassingInv S s) {n : ℕ} (hn : n ∈ s.released) : s.Arrived n := by
  have hpos := List.count_pos_iff.mpr hn
  rw [h.released n] at hpos
  rcases Nat.add_pos_iff_pos_or_pos.mp hpos with hd | hr
  · exact Or.inl (List.count_pos_iff.mp hd)
  · exact Or.inr (List.count_pos_iff.mp hr)

/-- The next original that is delivered has a number above all that were. -/
lemma PassingInv.arrive (h : PassingInv S s) {p : Link.Packet} {b : Buffer.State}
    {r : Receiver.State} (hI : Inv S ((s.afterSender b []).withReceiver r))
    (hp : s.sender.link.link.head? = some p)
    (hb : Buffer.step S.sender s.sender (.link .arrive) = some b)
    (hbuf : r.buffer = []) (hr : r.released = s.released ++ (dataNum (arrivalOf p)).toList) :
    PassingInv S ((s.afterSender b []).withReceiver r) := by
  obtain ⟨hfates, -, -, -⟩ := arrive_delivered hp hb
  have hdel : Link.deliveredIn b.link.fates =
      Link.deliveredIn s.sender.link.fates ++ (dataNum (arrivalOf p)).toList := by
    rw [hfates, Link.deliveredIn_append, dataNum_arrivalOf]
    cases hd : p.isData <;> simp [Link.deliveredIn, hd]
  obtain ⟨ps, hlink⟩ := List.head?_eq_some_iff.mp hp
  have hnum := (h.inv.linkInv.head hlink).1
  -- the link delivers in order, and a number that has arrived is below the expected one
  have habove : ∀ m ∈ Link.deliveredIn s.sender.link.fates, m < p.num := by
    intro m hm
    have := h.inv.linkInv.ledger.delivered m hm
    omega
  have hmem : ∀ n ∈ (dataNum (arrivalOf p)).toList, n = p.num := by
    intro n hn
    rw [dataNum_arrivalOf] at hn
    split at hn <;> simp at hn
    exact hn
  refine ⟨hI, hbuf, ?_, ?_, ?_⟩
  · change (Link.deliveredIn b.link.fates).Pairwise (· < ·)
    rw [hdel]
    refine List.pairwise_append.mpr ⟨h.sorted, ?_, fun m hm n hn => ?_⟩
    · cases dataNum (arrivalOf p) with
      | none => exact List.Pairwise.nil
      | some n => exact List.pairwise_singleton _ _
    · rw [hmem n hn]
      exact habove m hm
  · change r.released.filter (· ∈ Link.deliveredIn b.link.fates) = Link.deliveredIn b.link.fates
    rw [hr, List.filter_append]
    have hold : s.released.filter (· ∈ Link.deliveredIn b.link.fates) =
        s.released.filter (· ∈ Link.deliveredIn s.sender.link.fates) := by
      refine List.filter_congr fun m hm => decide_eq_decide.mpr ⟨fun hin => ?_, fun hin => ?_⟩
      · -- a number handed on before is no new original
        rcases h.arrived hm with hd | hretx
        · exact hd
        · exact absurd hin (hI.not_delivered (hI.arrivedRetx m hretx))
      · rw [hdel]
        exact List.mem_append_left _ hin
    have hnew : (dataNum (arrivalOf p)).toList.filter (· ∈ Link.deliveredIn b.link.fates) =
        (dataNum (arrivalOf p)).toList := by
      refine List.filter_eq_self.mpr fun n hn => decide_eq_true ?_
      rw [hdel]
      exact List.mem_append_right _ hn
    rw [hold, hnew, h.originals, hdel]
  · intro n
    change r.released.count n =
      (Link.deliveredIn b.link.fates).count n + s.arrivedRetx.count n
    rw [hr, hdel, List.count_append, List.count_append, h.released n]
    omega

/-- **Step lemma.** -/
lemma passingInv_step {e : Event} (hmode : S.mode = 0) (h : PassingInv S s) (hw : Windowed s)
    (hw' : Windowed s') (hG : SenderGuard s e) (hs : step S s e = some s') : PassingInv S s' := by
  have hI := inv_step h.inv hw hw' hG hs
  rcases step_cases hs with ⟨e', b, he, hne, -, hb, rfl⟩ | ⟨p, b, r, rfl, hp, hb, hr, rfl⟩ |
    ⟨i, rfl, rfl⟩ | ⟨i, n, hdr, r, rfl, hget, hr, rfl⟩ | ⟨e', r, he, hint, hr, rfl⟩
  · have hfates := (sender_rxRegs hne hb).2
    refine ⟨hI, h.rxBuffer, ?_, ?_, fun n => ?_⟩
    · change (Link.deliveredIn b.link.fates).Pairwise (· < ·)
      rw [hfates]
      exact h.sorted
    · change s.released.filter (· ∈ Link.deliveredIn b.link.fates) = Link.deliveredIn b.link.fates
      rw [hfates]
      exact h.originals
    · change s.released.count n = (Link.deliveredIn b.link.fates).count n + s.arrivedRetx.count n
      rw [hfates]
      exact h.released n
  · have hin := h.inv.inMode (e := .arrive) (congrArg (Option.map arrivalOf) hp)
    rw [hmode] at hin
    obtain ⟨hbuf, hrel⟩ := nonBlocking_step h.rxBuffer hin hr
    exact h.arrive hI hp hb hbuf hrel
  · exact ⟨hI, h.rxBuffer, h.sorted, h.originals, h.released⟩
  · obtain ⟨hok, hdec⟩ := h.inv.retx _ (List.mem_of_getElem? hget)
    have hin : InMode 0 (.data n (retxHdr hdr)) := hok.data.blockingMode.trans hmode
    obtain ⟨hbuf, hrel⟩ := nonBlocking_step h.rxBuffer hin hr
    change r.released = s.released ++ [n] at hrel
    refine ⟨hI, hbuf, h.sorted, ?_, fun m => ?_⟩
    · change r.released.filter _ = _
      have hnot : [n].filter (· ∈ Link.deliveredIn s.sender.link.fates) = [] :=
        List.filter_eq_nil_iff.mpr fun m hm => by
          rw [List.mem_singleton.mp hm]
          simpa using h.inv.not_delivered hdec
      rw [hrel, List.filter_append]
      exact (congrArg _ hnot).trans ((List.append_nil _).trans h.originals)
    · change r.released.count m =
        (Link.deliveredIn s.sender.link.fates).count m + (s.arrivedRetx ++ [n]).count m
      rw [hrel, List.count_append, List.count_append, h.released m, add_assoc]
  · have hin := h.inv.inMode he
    rw [hmode] at hin
    obtain ⟨hbuf, hrel⟩ := nonBlocking_step h.rxBuffer hin hr
    have hnone : (dataNum e').toList = [] := by
      cases e' with
      | data | dummy => exact hint.elim
      | recirculate | timer => rfl
    rw [hnone, List.append_nil] at hrel
    refine ⟨hI, hbuf, h.sorted, ?_, fun n => ?_⟩
    · change r.released.filter _ = _
      rw [hrel]
      exact h.originals
    · change r.released.count n = _
      rw [hrel]
      exact h.released n

lemma passingInv_run (hmode : S.mode = 0) {es : List Event}
    (hrun : run (step S) (init S) es = some s) (hw : Throughout (step S) Windowed (init S) es)
    (hG : Along (step S) SenderGuard (init S) es) : PassingInv S s :=
  run_invariant_throughout (fun _ _ _ h hw hw' hG hs => passingInv_step hmode h hw hw' hG hs)
    (passingInv_init S) hw hG hrun

/-- **Non-blocking mode duplicates and reorders only what was lost.**  In every run with a window,
sparse losses and reports in order, the originals that got through are handed on exactly once
and in their order, a lost packet as often as a retransmitted copy of it came through; and when
nothing is on its way any more and each retransmission got through, every stamped packet was. -/
theorem nonblocking_delivery (S : Setup) (hmode : S.mode = 0) (es : List Event) (s : State)
    (hrun : run (step S) (init S) es = some s) (hw : Throughout (step S) Windowed (init S) es)
    (hG : Along (step S) SenderGuard (init S) es) :
    s.released.filter (· ∈ Link.deliveredIn s.sender.link.fates) =
        Link.deliveredIn s.sender.link.fates ∧
      (Link.deliveredIn s.sender.link.fates).Pairwise (· < ·) ∧
      (∀ n ∈ Link.deliveredIn s.sender.link.fates, s.released.count n = 1) ∧
      (∀ n ∈ Link.lostIn s.sender.link.fates, s.released.count n = s.arrivedRetx.count n) ∧
      (Quiet s → RetxArrived s → ∀ n < s.stamped, n ∈ s.released) := by
  have h := passingInv_run hmode hrun hw hG
  refine ⟨h.originals, h.sorted, fun n hn => ?_, fun n hn => ?_, fun hquiet hretx n hn => ?_⟩
  · have hnone : s.arrivedRetx.count n = 0 :=
      List.count_eq_zero.mpr fun hr => h.inv.not_delivered (h.inv.arrivedRetx n hr) hn
    rw [h.released n, hnone, List.count_eq_one_of_mem (h.sorted.imp fun hlt => hlt.ne) hn]
  · rw [h.released n, List.count_eq_zero.mpr (h.inv.linkInv.ledger.lost n hn).2, zero_add]
  · have harr := h.inv.arrived_of_quiet hquiet.link hquiet.buffer hretx hn
    rw [← List.count_pos_iff, h.released n]
    rcases harr with hd | hr
    · exact Nat.add_pos_left (List.count_pos_iff.mpr hd) _
    · exact Nat.add_pos_right _ (List.count_pos_iff.mpr hr)

/-- The test bed in non-blocking mode. -/
def link36NonBlocking : Setup where
  sender :=
    { link :=
        { Link.link36 with
          txTables := { Link.link36.txTables with
            linkProtect := fun p => if p = 36 then some ⟨3, 0⟩ else none }
          params := ⟨3, 0⟩
          linkProtect := rfl }
      igTables := Buffer.buffer36.igTables
      retxMcastBufferedPkt := Buffer.buffer36.retxMcastBufferedPkt }
  mcastPorts := link36.mcastPorts
  recircMd := link36.recircMd
  recircMd_filter := link36.recircMd_filter
  recircMd_protect := link36.recircMd_protect

/-- The lost packet is handed on last, the others in order. -/
theorem nonblocking_delivery_one_loss : ∃ s,
    run (step link36NonBlocking) (init link36NonBlocking) (oneLossRun.take 11) = some s ∧
      s.released = [0, 2, 1] ∧ s.released.count 1 = s.arrivedRetx.count 1 := by
  have hrun : (run (step link36NonBlocking) (init link36NonBlocking) (oneLossRun.take 11)).any
      (fun s => decide (s.released = [0, 2, 1]) &&
        decide (1 ∈ Link.lostIn s.sender.link.fates)) := by
    decide +kernel
  obtain ⟨s, hs, hend⟩ := (Option.any_eq_true _ _).mp hrun
  simp only [Bool.and_eq_true, decide_eq_true_eq] at hend
  obtain ⟨-, -, -, hlost, -⟩ := nonblocking_delivery link36NonBlocking rfl _ s hs
    (by decide +kernel) (by decide +kernel)
  exact ⟨s, hs, hend.1, hlost 1 hend.2⟩

end LinkGuardian.ProtectedLink
