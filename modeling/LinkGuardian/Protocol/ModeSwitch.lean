import LinkGuardian.Protocol.ReceiverBuffer

/-!
# Switching between the protection modes

The mode travels with every packet, and the receiver's two paths do not keep the same state: a
non-blocking packet is handed on without moving `reg_ack`.  Without losses and timers the
receiver hands on every packet promptly exactly when each blocking packet comes after a
multiple of 65536 non-blocking ones (`mode_switch_safe_iff`), so that the register happens to
hold the right sequence number; a single non-blocking packet in front already breaks it.
-/

namespace LinkGuardian.Receiver

open SerialNumber Execution Ingress

variable {S : Setup} {s s' : State}

/-- A step of a loss-free run without timers: every arrival is an original with the next
number, every dummy announces it. -/
def LossFreeStep (s : State) : Event → Prop
  | .data num hdr => num = s.expected ∧ hdr.linkradarData.fields.reTx = 0
  | .dummy num _ => num = s.expected
  | .recirculate _ => True
  | .timer _ => False

instance (s : State) : DecidablePred (LossFreeStep s)
  | .data num hdr =>
    inferInstanceAs (Decidable (num = s.expected ∧ hdr.linkradarData.fields.reTx = 0))
  | .dummy num _ => inferInstanceAs (Decidable (num = s.expected))
  | .recirculate _ => isTrue trivial
  | .timer _ => isFalse id

/-- The numbers handed on in a stretch of history. -/
def releasedIn (history : List Pass) : List ℕ :=
  (history.filter fun p => p.verdict = .released).map Pass.num

/-- Every blocking-mode packet was handed on when it arrived if all lower numbers had been, and no
packet was dropped that had not been handed on before.  This is a statement about the history of
passes; how the registers stand is not in it. -/
def Prompt (history : List Pass) : Prop :=
  ∀ before p after, history = before ++ p :: after →
    (p.blockingMode = 1 → p.recirculated = false → (∀ m < p.num, m ∈ releasedIn before) →
      p.verdict = .released) ∧
    (p.verdict = .dropped → p.num ∈ releasedIn before)

/-- Among the packets stamped, each blocking one comes after a multiple of 65536 non-blocking
ones; `k` of these came before. -/
def ModesAligned : ℕ → List Event → Prop
  | _, [] => True
  | k, .data _ hdr :: es =>
    if hdr.linkradarData.fields.blockingMode = 0 then ModesAligned (k + 1) es
    else k % 65536 = 0 ∧ ModesAligned k es
  | k, .dummy _ _ :: es => ModesAligned k es
  | k, .recirculate _ :: es => ModesAligned k es
  | k, .timer _ :: es => ModesAligned k es

/-- What holds while every packet so far was handed on at once, `k` of them non-blocking.  Each
advance of the ack register is one blocking packet, so the two counts add up to the expected
number. -/
structure PromptInv (S : Setup) (k : ℕ) (s : State) : Prop where
  acked : Acked S s
  buffer : s.buffer = []
  expected : s.expected = s.advances + k
  allReleased : ∀ p ∈ s.history, p.verdict = .released
  released : releasedIn s.history = List.range s.expected

lemma promptInv_init (S : Setup) : PromptInv S 0 (init S) where
  acked := acked_init S
  buffer := rfl
  expected := rfl
  allReleased := fun _ hp => absurd hp List.not_mem_nil
  released := rfl

lemma PromptInv.bufferOk {k : ℕ} (h : PromptInv S k s) : BufferOk S s := by
  intro p hp
  rw [h.buffer] at hp
  exact absurd hp List.not_mem_nil

lemma PromptInv.prompt {k : ℕ} (h : PromptInv S k s) : Prompt s.history := by
  intro before p after heq
  have hp : p.verdict = .released := h.allReleased p (by rw [heq]; simp)
  exact ⟨fun _ _ _ => hp, fun hd => by rw [hp] at hd; cases hd⟩

lemma releasedIn_append_singleton (history : List Pass) (p : Pass) :
    releasedIn (history ++ [p]) =
      if p.verdict = .released then releasedIn history ++ [p.num] else releasedIn history := by
  unfold releasedIn
  split <;> simp [*]

/-- A packet handed on at once keeps the invariant. -/
lemma PromptInv.afterPass {k k' : ℕ} (h : PromptInv S k s) {mode : BitVec 1}
    {c : Ingress} (hr : Ready S s s.expected mode c)
    (hv : (c.apply S.tables).verdict = .released)
    (ha : countAdvance S s (c.apply S.tables).regs + k' = s.expected + 1) :
    PromptInv S k' (Receiver.afterPass S s s.buffer s.expected (s.expected + 1) false mode
      (c.apply S.tables)) where
  acked := hr.denotes h.acked
  buffer := by
    simp only [Receiver.afterPass, hv]
    exact h.buffer
  expected := ha.symm
  allReleased := by
    intro p hp
    rcases List.mem_append.mp hp with hp | hp
    · exact h.allReleased p hp
    · rw [List.mem_singleton] at hp
      rw [hp]
      exact hv
  released := by
    simp only [Receiver.afterPass]
    rw [releasedIn_append_singleton, if_pos hv, h.released, List.range_succ]

/-- A non-blocking packet is handed on and leaves `reg_ack` behind. -/
lemma PromptInv.nonblocking {k : ℕ} (h : PromptInv S k s) {hdr : Hdr}
    (hd : DataArrival S s.expected hdr) (hm : hdr.linkradarData.fields.blockingMode = 0) :
    PromptInv S (k + 1) (Receiver.afterPass S s s.buffer s.expected (s.expected + 1) false
      hdr.linkradarData.fields.blockingMode ((context s S.portMd hdr).apply S.tables)) := by
  have hr := hd.ready s
  have hpass := hr.pass_eq
  rw [ackPass, if_pos (show (context s S.portMd hdr).hdr.linkradarData.fields.blockingMode = 0
    from hm)] at hpass
  obtain ⟨hack, hrest⟩ := Prod.mk.inj hpass
  have hadv : countAdvance S s ((context s S.portMd hdr).apply S.tables).regs = s.advances :=
    if_pos (by rw [hack]; rfl)
  exact h.afterPass hr (Prod.mk.inj hrest).2 (by rw [hadv, h.expected]; omega)

/-- A blocking packet is handed on at once exactly when `reg_ack` has been left behind by
whole ranges only. -/
lemma PromptInv.blocking_iff {k : ℕ} (h : PromptInv S k s) {hdr : Hdr}
    (hd : DataArrival S s.expected hdr) (hm : hdr.linkradarData.fields.blockingMode ≠ 0) :
    ((context s S.portMd hdr).apply S.tables).verdict = .released ↔ k % 65536 = 0 := by
  have hseq : (s.regs.regAck S.port).ackNo =
      (context s S.portMd hdr).hdr.linkradarData.fields.seqNo ↔ k % 65536 = 0 := by
    change (s.regs.regAck S.port).ackNo = hdr.linkradarData.fields.seqNo ↔ _
    rw [show (s.regs.regAck S.port).ackNo = wire 16 s.advances from h.acked.seqNo_eq,
      hd.carries.seqNo_eq, wire_eq_iff, h.expected]
    omega
  have hv := congrArg (fun r => r.2.2) (hd.ready s).pass_eq
  simp only [ackPass] at hv
  rw [if_neg (show (context s S.portMd hdr).hdr.linkradarData.fields.blockingMode ≠ 0 from hm)]
    at hv
  rw [← hseq, hv]
  split
  · rename_i heq
    exact iff_of_true rfl heq
  · rename_i hne
    refine iff_of_false ?_ hne
    dsimp only
    split <;> simp

/-- A blocking packet that is handed on advances `reg_ack`. -/
lemma PromptInv.blocking {k : ℕ} (h : PromptInv S k s) {hdr : Hdr}
    (hd : DataArrival S s.expected hdr) (hm : hdr.linkradarData.fields.blockingMode ≠ 0)
    (hk : k % 65536 = 0) :
    PromptInv S k (Receiver.afterPass S s s.buffer s.expected (s.expected + 1) false
      hdr.linkradarData.fields.blockingMode ((context s S.portMd hdr).apply S.tables)) := by
  have hv := (h.blocking_iff hd hm).mpr hk
  have hpass := (hd.ready s).pass_eq
  have hne : ((((context s S.portMd hdr).apply S.tables).regs.regAck S.port).ackNo) ≠
      s.ackNo S := by
    intro hsame
    have hack := congrArg (fun r => r.1.ackNo) hpass
    have hver := congrArg (fun r => r.2.2) hpass
    simp only [ackPass] at hack hver
    rw [if_neg (show (context s S.portMd hdr).hdr.linkradarData.fields.blockingMode ≠ 0 from hm)]
      at hack hver
    rw [hv] at hver
    split at hver
    · rw [if_pos (by assumption), hsame] at hack
      exact add_one_ne_self _ hack.symm
    · split at hver <;> cases hver
  exact h.afterPass (hd.ready s) hv (by rw [countAdvance, if_neg hne, h.expected]; omega)

/-! ## Runs -/

/-- History only grows: what went wrong once can still be seen at the end. -/
lemma history_step {e : Event} (h : step S s e = some s') :
    ∃ more, s'.history = s.history ++ more := by
  cases e with
  | data num hdr =>
    simp only [step, Option.ite_none_right_eq_some, Option.some_inj] at h
    exact ⟨_, by rw [← h.2]; rfl⟩
  | recirculate i =>
    simp only [step] at h
    split at h
    · rw [Option.some_inj] at h
      exact ⟨_, by rw [← h]; rfl⟩
    · cases h
  | dummy num hdr =>
    simp only [step, Option.ite_none_right_eq_some, Option.some_inj] at h
    exact ⟨[], by rw [← h.2, List.append_nil]⟩
  | timer hdr =>
    simp only [step, Option.ite_none_right_eq_some, Option.some_inj] at h
    exact ⟨[], by rw [← h.2, List.append_nil]⟩

lemma history_run {es : List Event} (h : run (step S) s es = some s') :
    ∃ more, s'.history = s.history ++ more := by
  have hstep : ∀ t e t', s.history <+: t.history → step S t e = some t' →
      s.history <+: t'.history := by
    intro t e t' hpre ht
    obtain ⟨more, hmore⟩ := history_step ht
    exact hpre.trans ⟨more, hmore.symm⟩
  obtain ⟨more, hmore⟩ := run_invariant hstep List.prefix_rfl h
  exact ⟨more, hmore.symm⟩

/-- A blocking packet that is not handed on although all lower numbers were spoils the run. -/
lemma PromptInv.not_prompt {k : ℕ} (h : PromptInv S k s) {hdr : Hdr} {es : List Event}
    (hd : DataArrival S s.expected hdr) (hm : hdr.linkradarData.fields.blockingMode = 1)
    (hk : k % 65536 ≠ 0)
    (hrun : run (step S) (Receiver.afterPass S s s.buffer s.expected (s.expected + 1) false
      hdr.linkradarData.fields.blockingMode ((context s S.portMd hdr).apply S.tables)) es =
      some s') : ¬ Prompt s'.history := by
  intro hp
  obtain ⟨more, hmore⟩ := history_run hrun
  have hsplit := hmore.trans (List.append_assoc s.history [_] more)
  refine hk ((h.blocking_iff hd (by rw [hm]; decide)).mp ((hp _ _ _ hsplit).1 hm rfl ?_))
  intro m hlt
  rw [h.released, List.mem_range]
  exact hlt

/-- The run lemma, from any state that has been prompt so far. -/
theorem prompt_iff_aligned (es : List Event) {k : ℕ} (hI : PromptInv S k s)
    (hrun : run (step S) s es = some s')
    (hG : Along (step S) LossFreeStep s es) : Prompt s'.history ↔ ModesAligned k es := by
  induction es generalizing s k with
  | nil =>
    rw [run_nil, Option.some_inj] at hrun
    subst hrun
    exact iff_of_true hI.prompt trivial
  | cons e es ih =>
    obtain ⟨s₁, hstep, hrest⟩ := run_cons_eq_some.mp hrun
    obtain ⟨hloss, hG⟩ := (along_cons hstep).mp hG
    -- only the pass of an original can end the promptness; a blocking one does where the register
    -- is behind
    rcases step_cases hI.bufferOk hstep with ⟨num, hdr, rfl, hd, rfl⟩ |
      ⟨i, num, hdr, rfl, hget, -, -⟩ | ⟨num, hdr, regs, rfl, -, hack, hera, rfl⟩ | ⟨hdr, rfl, -⟩
    · obtain ⟨rfl, hreTx⟩ := hloss
      rw [if_pos hreTx] at hrest hG
      by_cases hm : hdr.linkradarData.fields.blockingMode = 0
      · rw [ih (hI.nonblocking hd hm) hrest hG, ModesAligned, if_pos hm]
      · rw [ModesAligned, if_neg hm]
        by_cases hk : k % 65536 = 0
        · rw [ih (hI.blocking hd hm hk) hrest hG]
          exact (and_iff_right hk).symm
        · have hm1 : ∀ b : BitVec 1, b ≠ 0 → b = 1 := by decide
          exact iff_of_false (hI.not_prompt hd (hm1 _ hm) hk hrest) fun h => hk h.1
    · rw [hI.buffer] at hget
      cases hget
    · have hnum : num = s.expected := hloss
      have hacked : Acked S { s with regs := regs, expected := num } := by
        unfold Acked State.ackNo
        rw [hack, hera]
        exact hI.acked
      exact ih ⟨hacked, hI.buffer, hnum.trans hI.expected, hI.allReleased,
        by rw [hnum]; exact hI.released⟩ hrest hG
    · exact hloss.elim

/-- **Switching the mode is safe exactly for aligned mode sequences.**  In a loss-free run
without timers every blocking packet is handed on as soon as it arrives in order, and nothing
new is dropped as a duplicate, if and only if each blocking packet was stamped after a multiple
of 65536 non-blocking ones. -/
theorem mode_switch_safe_iff (S : Setup) (es : List Event) (s : State)
    (hrun : run (step S) (init S) es = some s)
    (hG : Along (step S) LossFreeStep (init S) es) :
    Prompt s.history ↔ ModesAligned 0 es :=
  prompt_iff_aligned es (promptInv_init S) hrun hG

/-- Two blocking packets in a row. -/
theorem mode_switch_safe_iff_two_blocking :
    ∃ s, run (step port36) (init port36)
        [.data 0 (dataHdr 0 0 1), .data 1 (dataHdr 1 0 1)] = some s ∧
      (Prompt s.history ↔ ModesAligned 0 [.data 0 (dataHdr 0 0 1), .data 1 (dataHdr 1 0 1)]) := by
  have hrun : (run (step port36) (init port36)
      [.data 0 (dataHdr 0 0 1), .data 1 (dataHdr 1 0 1)]).isSome := by decide +kernel
  obtain ⟨s, hs⟩ := Option.isSome_iff_exists.mp hrun
  exact ⟨s, hs, mode_switch_safe_iff port36 _ s hs (by decide +kernel)⟩

/-- **One non-blocking packet before the switch**: packet 1, in blocking mode, arrives right
after packet 0 has been handed on, and is held back. -/
theorem mode_switch_holds_back_next_packet :
    ∃ s, run (step port36) (init port36)
        [.data 0 (dataHdr 0 0 0), .data 1 (dataHdr 1 0 1)] = some s ∧
      Along (step port36) LossFreeStep (init port36)
        [.data 0 (dataHdr 0 0 0), .data 1 (dataHdr 1 0 1)] ∧
      ¬ Prompt s.history := by
  have hrun : ((run (step port36) (init port36)
      [.data 0 (dataHdr 0 0 0), .data 1 (dataHdr 1 0 1)]).map State.history) =
      some [⟨0, 0, false, 0, .released⟩, ⟨1, 1, false, 0, .held⟩] := by decide +kernel
  obtain ⟨s, hs, hhist⟩ := Option.map_eq_some_iff.mp hrun
  refine ⟨s, hs, by decide +kernel, fun hp => ?_⟩
  have := (hp [⟨0, 0, false, 0, .released⟩] ⟨1, 1, false, 0, .held⟩ [] hhist).1 rfl rfl
    (by decide)
  cases this

end LinkGuardian.Receiver
