import LinkGuardian.Protocol.ReceiverBuffer

/-!
# Blocking mode releases packets in order

In blocking mode, as long as no timer packet gives up on a number and every packet that passes
is within half a range of the awaited one, the receiver behaves as the abstract in-order
receiver: what it has handed on is `0, 1, …, A - 1`, each once and in this order.  Arrivals may
come in any order and any number of times, so lost originals, retransmitted copies at any
later moment and every schedule of the receiver buffer are covered.
-/

namespace LinkGuardian.Receiver

open SerialNumber Execution Ingress

variable {S : Setup} {s s' : State}

/-- A step of a blocking-mode run without timeouts. -/
def BlockingStep (S : Setup) (s : State) (e : Event) : Prop :=
  Blocking e ∧ InWindow s e ∧ NoTimerAdvance S s e

instance (S : Setup) (s : State) (e : Event) : Decidable (BlockingStep S s e) :=
  inferInstanceAs (Decidable (_ ∧ _ ∧ _))

/-- The history of an in-order receiver: the numbers handed on are `0, …, A - 1`, packets held back
were ahead of the awaited number, packets dropped behind it.  It speaks of the history only; that
the registers denote `A` is `Acked`. -/
structure InOrder (s : State) : Prop where
  released : s.released = List.range s.advances
  ahead : ∀ p ∈ s.history, p.verdict = .held → p.awaited < p.num
  behind : ∀ p ∈ s.history, p.verdict = .dropped → p.num < p.awaited

lemma inOrderVerdict_eq_released {A n : ℕ} : inOrderVerdict A n = .released ↔ n = A := by
  unfold inOrderVerdict
  split_ifs <;> simp [*]

/-- One pass of the abstract receiver keeps its history in order. -/
lemma InOrder.afterPass (h : InOrder s) {num expected : ℕ} {recirculated : Bool}
    {mode : BitVec 1} {c : Ingress} {rest : List (ℕ × Hdr)}
    (hv : c.verdict = inOrderVerdict s.advances num)
    (ha : countAdvance S s c.regs = inOrderNext s.advances num) :
    InOrder (afterPass S s rest num expected recirculated mode c) where
  -- handed on is one more number exactly when the awaited one came
  released := by
    have hr := h.released
    simp only [State.released, Receiver.afterPass, List.filter_append, List.map_append, ha, hv,
      inOrderNext] at hr ⊢
    rw [hr]
    by_cases hn : num = s.advances
    · rw [if_pos hn, List.range_succ, hn]
      simp [inOrderVerdict]
    · rw [if_neg hn]
      have : inOrderVerdict s.advances num ≠ .released :=
        fun h => hn (inOrderVerdict_eq_released.mp h)
      simp [this]
  -- the verdict of this pass compares with the number awaited now, which the pass is booked with
  ahead := by
    intro p hp hheld
    rcases List.mem_append.mp hp with hp | hp
    · exact h.ahead p hp hheld
    · rw [List.mem_singleton] at hp
      subst hp
      simp only [hv, inOrderVerdict] at hheld ⊢
      split_ifs at hheld with h1 h2
      exact h2
  behind := by
    intro p hp hdrop
    rcases List.mem_append.mp hp with hp | hp
    · exact h.behind p hp hdrop
    · rw [List.mem_singleton] at hp
      subst hp
      simp only [hv, inOrderVerdict] at hdrop ⊢
      split_ifs at hdrop with h1 h2
      omega

/-- What a blocking-mode run keeps. -/
structure BlockingInv (S : Setup) (s : State) : Prop where
  bufferOk : BufferOk S s
  acked : Acked S s
  inOrder : InOrder s

lemma blockingInv_init (S : Setup) : BlockingInv S (init S) where
  bufferOk := bufferOk_init S
  acked := acked_init S
  inOrder := ⟨rfl, fun _ hp => absurd hp List.not_mem_nil, fun _ hp => absurd hp List.not_mem_nil⟩

/-- **Step lemma.** -/
lemma blockingInv_step {e : Event} (hI : BlockingInv S s) (hG : BlockingStep S s e)
    (h : step S s e = some s') : BlockingInv S s' := by
  obtain ⟨hmode, hwin, htimer⟩ := hG
  refine ⟨bufferOk_step hI.bufferOk h,
    acked_step hI.bufferOk hI.acked htimer.noTimerWrap h, ?_⟩
  rcases step_cases hI.bufferOk h with ⟨num, hdr, rfl, hd, rfl⟩ |
    ⟨i, num, hdr, rfl, hget, hb, rfl⟩ | ⟨num, hdr, regs, -, -, -, -, rfl⟩ | ⟨hdr, rfl, rfl⟩
  · have hne : hdr.linkradarData.fields.blockingMode ≠ 0 := by
      rw [show hdr.linkradarData.fields.blockingMode = 1 from hmode]; decide
    obtain ⟨hv, ha⟩ := (hd.ready s).spec hne hI.acked hwin
    exact hI.inOrder.afterPass hv ha
  · obtain ⟨hv, ha⟩ := (hb.ready s).spec hb.blockingMode hI.acked (hwin _ hget)
    exact hI.inOrder.afterPass hv ha
  · exact ⟨hI.inOrder.released, hI.inOrder.ahead, hI.inOrder.behind⟩
  · -- an idle timer leaves the count of advances alone
    have hsame : countAdvance S s (agedRegs S s) = s.advances :=
      if_pos (by rw [agedRegs_ackNo, if_neg htimer])
    rw [hsame]
    exact ⟨hI.inOrder.released, hI.inOrder.ahead, hI.inOrder.behind⟩

/-- **Blocking mode hands packets on in order, without gaps and exactly once.**  In every state
of a blocking-mode run the released numbers are `0, …, A - 1` for the number `A` that the ack
registers denote; whatever was recirculated was ahead of the awaited number of its time, and
whatever was dropped as a duplicate behind it. -/
theorem blocking_mode_in_order (S : Setup) (es : List Event) (s : State)
    (hrun : run (step S) (init S) es = some s)
    (hG : Along (step S) (BlockingStep S) (init S) es) :
    Denotes (s.ackNo S) (s.regs.regAckEra S.port) s.advances ∧
      s.released = List.range s.advances ∧
      ∀ p ∈ s.history, (p.verdict = .held → p.awaited < p.num) ∧
        (p.verdict = .dropped → p.num < p.awaited) := by
  have hI := run_invariant_along (fun _ _ _ hI hG h => blockingInv_step hI hG h)
    (blockingInv_init S) hG hrun
  exact ⟨hI.acked, hI.inOrder.released,
    fun p hp => ⟨hI.inOrder.ahead p hp, hI.inOrder.behind p hp⟩⟩

/-- Packet 1 is lost, 2 is held back, 1 is retransmitted twice, and 2 is released. -/
theorem blocking_mode_in_order_one_loss :
    ∃ s, run (step port36) (init port36)
        [.data 0 (dataHdr 0 0 1), .data 2 (dataHdr 2 0 1), .recirculate 0,
          .data 1 (dataHdr 1 1 1), .data 1 (dataHdr 1 1 1), .recirculate 0] = some s ∧
      s.released = List.range s.advances := by
  have hrun : (run (step port36) (init port36)
      [.data 0 (dataHdr 0 0 1), .data 2 (dataHdr 2 0 1), .recirculate 0,
        .data 1 (dataHdr 1 1 1), .data 1 (dataHdr 1 1 1), .recirculate 0]).isSome := by
    decide +kernel
  obtain ⟨s, hs⟩ := Option.isSome_iff_exists.mp hrun
  exact ⟨s, hs, (blocking_mode_in_order port36 _ s hs (by decide +kernel)).2.1⟩

end LinkGuardian.Receiver
