import LinkGuardian.Dataplane.Sender.RetxTables
import LinkGuardian.Protocol.Delivery

/-!
# How many losses a retransmission survives

The control plane asks for `n` copies of each retransmission.  From its tables through the pass of a
buffered packet and over the link: of every lost packet exactly `n` copies are sent, so that it is
lost for good if and only if all `n` of them are.
-/

namespace LinkGuardian.Sender.Ingress

open P4

variable {t : IngressTables} {c : Ingress}

/-! ## Where a retransmission goes -/

lemma compared_destinations (c : Ingress) :
    c.compared.ucastEgressPort = c.ucastEgressPort ∧ c.compared.mcastGrpA = c.mcastGrpA := by
  unfold compared getMinOfSeqLeadingAck eraCorrection
  split <;> exact ⟨rfl, rfl⟩

/-- A packet that is retransmitted has run into one of the two actions. -/
lemma IsBuffered.apply_of_retx (h : c.IsBuffered) (hzero : c.igMeta.retx ≠ 1)
    (hretx : (c.apply t).igMeta.retx = 1) :
    (c.apply t).ucastEgressPort =
        (c.compared.checkResetHoles.setBufferedPktRetx.retxMcastBufferedPkt t).ucastEgressPort ∧
      (c.apply t).mcastGrpA =
        (c.compared.checkResetHoles.setBufferedPktRetx.retxMcastBufferedPkt t).mcastGrpA := by
  obtain ⟨hhdr, -, -, -, hkept⟩ := compared_keeps c
  have hbranch := bufferedBranch_eq (t := t) c
  rw [decideRetxOrDrop_eq] at hbranch
  by_cases hack : c.compared.igMeta.minVal = c.compared.igMeta.bufferedSeqNo
  · rw [if_pos hack] at hbranch
    by_cases hhole : c.compared.regs.HoleAt c.compared.hdr.linkradarData.fields.seqNo
    · have hone : c.compared.checkResetHoles.setBufferedPktRetx.igMeta.retx = 1 := rfl
      rw [if_pos hhole, if_pos hone] at hbranch
      have hskip : (c.bufferedBranch t).igMeta.retx = 1 := by
        rw [hbranch, retxMcastBufferedPkt]
        split <;> exact hone
      rw [h.apply_eq (Or.inr hskip), hbranch]
      split <;> exact ⟨rfl, rfl⟩
    · -- the copy would have been dropped
      rw [if_neg hhole, if_neg (by change ¬((0 : BitVec 1) = 1); decide)] at hbranch
      have hvalid : (c.bufferedBranch t).hdr.linkradarBuffered.valid = true := by
        rw [hbranch]
        change c.compared.hdr.linkradarBuffered.valid = true
        rw [hhdr]
        exact h.linkradarBuffered
      rw [h.apply_eq (Or.inl hvalid), hbranch] at hretx
      split at hretx <;> exact absurd hretx (by change ¬((0 : BitVec 1) = 1); decide)
  · -- the copy would have gone round again
    rw [if_neg hack] at hbranch
    have hvalid : (c.bufferedBranch t).hdr.linkradarBuffered.valid = true := by
      rw [hbranch]
      change c.compared.hdr.linkradarBuffered.valid = true
      rw [hhdr]
      exact h.linkradarBuffered
    rw [h.apply_eq (Or.inl hvalid), hbranch] at hretx
    have hrecirc : c.compared.igMeta.retx = 1 := by
      split at hretx <;> exact hretx
    exact absurd (hkept.symm.trans hrecirc) hzero

/-- The port and the group that an action gives a packet without a destination. -/
def destination (dstEgPort : PortId) : RetxAction → PortId × MulticastGroupId
  | .doRetxBufferedPktUcast => (dstEgPort, 0)
  | .doRetxBufferedPktMcast grpId => (0, grpId)

/-- **A retransmission goes to the port or to the group, never to both.** -/
lemma IsBuffered.apply_destination (h : c.IsBuffered) (hzero : c.igMeta.retx ≠ 1)
    (hport : c.ucastEgressPort = 0) (hgrp : c.mcastGrpA = 0)
    (hretx : (c.apply t).igMeta.retx = 1) {action : RetxAction}
    (ht : t.retxMcastBufferedPkt c.hdr.linkradarBuffered.fields.dstEgPort = some action) :
    ((c.apply t).ucastEgressPort, (c.apply t).mcastGrpA) =
      destination c.hdr.linkradarBuffered.fields.dstEgPort action := by
  obtain ⟨hport', hgrp'⟩ := h.apply_of_retx hzero hretx
  obtain ⟨hcport, hcgrp⟩ := compared_destinations c
  have hhdr := (compared_keeps c).1
  have hkey : t.retxMcastBufferedPkt
      c.compared.checkResetHoles.setBufferedPktRetx.hdr.linkradarBuffered.fields.dstEgPort =
        some action := by
    change t.retxMcastBufferedPkt c.compared.hdr.linkradarBuffered.fields.dstEgPort = _
    rwa [hhdr]
  rw [hport', hgrp', retxMcastBufferedPkt, hkey]
  cases action with
  | doRetxBufferedPktUcast =>
    change (c.compared.hdr.linkradarBuffered.fields.dstEgPort, c.compared.mcastGrpA) = _
    rw [hhdr, hcgrp, hgrp]
    rfl
  | doRetxBufferedPktMcast grpId =>
    change (c.compared.ucastEgressPort, grpId) = _
    rw [hcport, hport]
    rfl

end LinkGuardian.Sender.Ingress

namespace LinkGuardian.ProtectedLink

open P4 Execution Sender

variable {S : Setup} {s s' : State}

/-! ## From the tables to the link -/

/-- The sender runs with these tables, and the protected port is not the one that the ingress starts
with. -/
structure Installed (S : Setup) (t : RetxTables) : Prop where
  retxMcastBufferedPkt : S.sender.igTables.retxMcastBufferedPkt = t.retxMcastBufferedPkt
  mcastPorts : S.mcastPorts = t.mcastPorts
  egressPort : S.sender.link.egressPort ≠ 0

/-- The protected port gets `n` copies of every retransmission. -/
def SendsCopies (S : Setup) (n : ℕ) : Prop :=
  ∀ (b : Buffer.State) (m : ℕ) (hdr : Sender.Hdr), Buffer.BufferInv S.sender b →
    (m, hdr) ∈ b.buffer →
    Buffer.decision (Buffer.igPass S.sender b.igRegs recircLpbkPort hdr) = some .retransmitted →
      S.replicas (Buffer.igPass S.sender b.igRegs recircLpbkPort hdr) = n

lemma decision_eq_retransmitted {c : Sender.Ingress} :
    Buffer.decision c = some .retransmitted ↔ c.igMeta.retx = 1 := by
  unfold Buffer.decision
  split_ifs <;> simp_all

/-- **What was asked for is what is sent.** -/
lemma sendsCopies_requested {calls : List (ℕ × PortId)} {t : RetxTables}
    (ht : run RetxTables.call .empty calls = some t) (h : Installed S t) :
    SendsCopies S (requested calls S.sender.link.egressPort) := by
  intro b m hdr hB hmem hd
  have hcopy := hB.copies _ hmem
  have hholds := (RetxTables.holds_empty.run calls).2 t ht
  have hcount := (hholds.reads S.sender.link.egressPort).2
  obtain ⟨action, hact⟩ := Option.isSome_iff_exists.mp S.sender.retxMcastBufferedPkt
  have hentry : t.retxMcastBufferedPkt S.sender.link.egressPort = some action := by
    rwa [← h.retxMcastBufferedPkt]
  have hkey : S.sender.igTables.retxMcastBufferedPkt
      hdr.linkradarBuffered.fields.dstEgPort = some action := by
    rwa [hcopy.dstEgPort]
  have hdest := Ingress.IsBuffered.apply_destination (t := S.sender.igTables)
    (c := .start b.igRegs recircLpbkPort 0 hdr)
    ⟨hcopy.pktgenTimer, hcopy.linkradarLack, hcopy.linkradarBuffered⟩
    (by change ¬((0 : BitVec 1) = 1); decide) rfl rfl (decision_eq_retransmitted.mp hd) hkey
  change ((Buffer.igPass S.sender b.igRegs recircLpbkPort hdr).ucastEgressPort,
    (Buffer.igPass S.sender b.igRegs recircLpbkPort hdr).mcastGrpA) =
      Ingress.destination hdr.linkradarBuffered.fields.dstEgPort action at hdest
  rw [hcopy.dstEgPort, Prod.mk.injEq] at hdest
  obtain ⟨hport, hgrp⟩ := hdest
  change t.copies S.sender.link.egressPort = _ at hcount
  rw [requested, ← hcount, RetxTables.copies, hentry, Setup.replicas, hport, hgrp]
  cases action with
  | doRetxBufferedPktUcast => simp [Ingress.destination]
  | doRetxBufferedPktMcast grpId =>
    have hne : grpId ≠ 0 := by
      rintro rfl
      rw [hholds.action] at hentry
      revert hentry
      unfold RetxTables.actionFor
      split <;> simp [txMulticastGrpsBufferedPktsStart]
    rw [Ingress.destination, if_neg h.egressPort.symm, if_neg hne, h.mcastPorts, zero_add]

/-! ## The account of the copies -/

/-- The numbers of the retransmitted copies that a step loses. -/
def lostOf (s : State) : Event → List ℕ
  | .loseRetx i => ((s.retx[i]?).map Prod.fst).toList
  | _ => []

lemma lostOf_eq_nil {e : Event} (he : ∀ i, e ≠ .loseRetx i) : lostOf s e = [] := by
  cases e with
  | loseRetx i => exact absurd rfl (he i)
  | _ => rfl

/-- The numbers of those that are lost from power-on. -/
def lostRetx (S : Setup) (es : List Event) : List ℕ := emitted (step S) lostOf (init S) es

/-- Of each retransmitted packet every one of the `n` copies is on the link, has arrived or was
lost. -/
structure Accounted (S : Setup) (n : ℕ) (s : State) (lost : List ℕ) : Prop where
  inv : Inv S s
  balance : ∀ m, (s.retx.map Prod.fst).count m + s.arrivedRetx.count m + lost.count m =
    n * s.sender.decided.count (m, .retransmitted)

lemma accounted_init (S : Setup) (n : ℕ) : Accounted S n (init S) [] where
  inv := inv_init S
  balance := fun m => by simp [init, Buffer.init]

/-- A copy taken off the link. -/
lemma count_eraseIdx {retx : List (ℕ × Sender.Hdr)} {i k : ℕ} {hdr : Sender.Hdr}
    (hget : retx[i]? = some (k, hdr)) (m : ℕ) :
    (retx.map Prod.fst).count m = ((retx.eraseIdx i).map Prod.fst).count m + [k].count m := by
  obtain ⟨hi, hval⟩ := List.getElem?_eq_some_iff.mp hget
  have hperm := (List.getElem_cons_eraseIdx_perm hi).map Prod.fst
  rw [hval, List.map_cons] at hperm
  rw [← hperm.count_eq, List.count_cons, List.count_singleton]

lemma newRetx_eq_nil {e : Event} (he : ∀ i, e ≠ .buffered i) : newRetx S s e = [] := by
  cases e with
  | buffered i => exact absurd rfl (he i)
  | _ => rfl

/-- What a pass of the sender decides on is what it puts on the link. -/
lemma newRetx_count {n : ℕ} (hsend : SendsCopies S n) (hB : Buffer.BufferInv S.sender s.sender)
    {e : Event} {e' : Buffer.Event} {b : Buffer.State} (he : e.atSender = some e')
    (hb : Buffer.step S.sender s.sender e' = some b) (m : ℕ) :
    ((newRetx S s e).map Prod.fst).count m + n * s.sender.decided.count (m, .retransmitted) =
      n * b.decided.count (m, .retransmitted) := by
  rcases Buffer.step_cases hb with ⟨le, l, rfl, -, rfl⟩ | ⟨_, _, _, rfl, -, -, rfl⟩ |
    ⟨i, k, hdr, rfl, hget, rfl⟩
  · rw [newRetx_eq_nil (by rintro i rfl; cases he)]
    simp [Buffer.State.afterLink]
  · rw [newRetx_eq_nil (by rintro i rfl; cases he)]
    simp [Buffer.State.afterReport]
  · obtain rfl : e = .buffered i := by
      cases e with
      | buffered j =>
        rw [Event.atSender, Option.some_inj, Buffer.Event.buffered.injEq] at he
        rw [he]
      | _ => cases he
    simp only [newRetx, retransmissions, hget, Buffer.State.afterCopy]
    cases hd : Buffer.decision (Buffer.igPass S.sender s.sender.igRegs recircLpbkPort hdr) with
    | none => simp
    | some d =>
      cases d with
      | dropped => simp
      | retransmitted =>
        rw [if_pos rfl, hsend _ _ _ hB (List.mem_of_getElem? hget) hd, List.map_replicate,
          List.count_append, List.count_singleton, List.count_replicate, Nat.mul_add]
        by_cases hm : k = m
        · simp [hm, Nat.add_comm]
        · simp [hm]

/-- **Step lemma.** -/
lemma accounted_step {n : ℕ} {lost : List ℕ} {e : Event} (hsend : SendsCopies S n)
    (h : Accounted S n s lost) (hw : Windowed s) (hw' : Windowed s') (hG : SenderGuard s e)
    (hs : step S s e = some s') : Accounted S n s' (lost ++ lostOf s e) := by
  refine ⟨inv_step h.inv hw hw' hG hs, fun m => ?_⟩
  have hbal := h.balance m
  rcases step_cases hs with ⟨e', b, he, hne, -, hb, rfl⟩ | ⟨p, b, r, rfl, hp, hb, hr, rfl⟩ |
    ⟨i, rfl, rfl⟩ | ⟨i, k, hdr, r, rfl, hget, -, rfl⟩ | ⟨e', r, he, -, -, rfl⟩
  · -- the sender puts copies on the link when it decides to, and only then
    have hnew := newRetx_count hsend h.inv.sender.inv.buffer he hb m
    have hnone : lostOf s e = [] := lostOf_eq_nil (by rintro i rfl; cases he)
    change ((s.retx ++ newRetx S s e).map Prod.fst).count m + s.arrivedRetx.count m + _ =
      n * b.decided.count (m, .retransmitted)
    rw [hnone, List.append_nil, List.map_append, List.count_append, ← hnew, ← hbal]
    omega
  · change ((s.retx ++ []).map Prod.fst).count m + s.arrivedRetx.count m + (lost ++ []).count m =
      n * b.decided.count (m, .retransmitted)
    rw [(arrive_delivered hp hb).2.1, List.append_nil, List.append_nil]
    exact hbal
  · change ((s.retx.eraseIdx i).map Prod.fst).count m + s.arrivedRetx.count m +
      (lost ++ ((s.retx[i]?).map Prod.fst).toList).count m = _
    rw [List.count_append]
    -- a copy that is lost moves from the link to the list of the lost
    cases hget : s.retx[i]? with
    | none =>
      have hsame : s.retx.eraseIdx i = s.retx :=
        List.eraseIdx_of_length_le (List.getElem?_eq_none_iff.mp hget)
      simpa [hsame] using hbal
    | some p =>
      obtain ⟨k, hdr⟩ := p
      rw [count_eraseIdx hget] at hbal
      simp only [Option.map_some, Option.toList_some]
      omega
  · change ((s.retx.eraseIdx i).map Prod.fst).count m + (s.arrivedRetx ++ [k]).count m +
      (lost ++ []).count m = n * s.sender.decided.count (m, .retransmitted)
    rw [count_eraseIdx hget] at hbal
    rw [List.count_append, List.append_nil]
    omega
  · have hnone : lostOf s e = [] := lostOf_eq_nil (by rintro i rfl; cases he)
    rw [hnone, List.append_nil]
    exact hbal

lemma accounted_run {n : ℕ} {es : List Event} (hsend : SendsCopies S n)
    (hrun : run (step S) (init S) es = some s) (hw : Throughout (step S) Windowed (init S) es)
    (hG : Along (step S) SenderGuard (init S) es) : Accounted S n s (lostRetx S es) :=
  run_account lostOf (fun _ _ _ _ h hw hw' hG hs => accounted_step hsend h hw hw' hG hs)
    (accounted_init S n) hw hG hrun

/-! ## What is lost for good -/

/-- Nothing is left on the link or in the sender's buffer.  No copy can arrive any more, so that
what is missing then stays missing. -/
structure Drained (s : State) : Prop where
  link : s.sender.link.link = []
  buffer : s.sender.buffer = []
  retx : s.retx = []

/-- A number is decided on once, as its copy leaves the loop with the decision. -/
lemma Inv.decided_count_eq_one (h : Inv S s) {m : ℕ}
    (hm : (m, .retransmitted) ∈ s.sender.decided) :
    s.sender.decided.count (m, .retransmitted) = 1 :=
  List.count_eq_one_of_mem (h.sender.holes.once.of_map _) hm

/-- **A packet fails to arrive when all its copies are lost**, and only then. -/
lemma Accounted.arrived_iff {n : ℕ} {lost : List ℕ} (h : Accounted S n s lost) (hn : 0 < n)
    (hd : Drained s) {m : ℕ} (hm : m < s.stamped) :
    (s.Arrived m ↔ lost.count m < n) ∧ lost.count m ≤ n := by
  have hbal := h.balance m
  rw [hd.retx, List.map_nil, List.count_nil, zero_add] at hbal
  rcases h.inv.delivered_or_retransmitted hd.link hd.buffer hm with hdel | hretx
  · have hzero : s.sender.decided.count (m, .retransmitted) = 0 :=
      List.count_eq_zero.mpr fun hretx => h.inv.not_delivered hretx hdel
    rw [hzero, mul_zero] at hbal
    exact ⟨iff_of_true (Or.inl hdel) (by omega), by omega⟩
  · rw [h.inv.decided_count_eq_one hretx, mul_one] at hbal
    have harr : s.Arrived m ↔ 0 < s.arrivedRetx.count m :=
      (or_iff_right (h.inv.not_delivered hretx)).trans List.count_pos_iff.symm
    rw [harr]
    omega

/-- A port that retransmits has been given a copy at least. -/
lemma requested_pos {calls : List (ℕ × PortId)} {t : RetxTables}
    (ht : run RetxTables.call .empty calls = some t) (h : Installed S t) :
    0 < requested calls S.sender.link.egressPort := by
  have hentry := S.sender.retxMcastBufferedPkt
  rw [h.retxMcastBufferedPkt, ((RetxTables.holds_empty.run calls).2 t ht).action] at hentry
  refine Nat.pos_of_ne_zero fun hzero => ?_
  change requested calls S.sender.link.egressPort = 0 at hzero
  rw [requested] at hzero
  rw [hzero] at hentry
  cases hentry

/-- **Blocking mode goes on up to the first packet that lost all its copies.**  Let the control
plane have asked for `n` copies.  In every run, once nothing is left on the link or in the sender's
buffer and the awaited packet does not wait in the receiver's, what has been handed on is
`0, …, A - 1`; each of these lost fewer than `n` copies, and packet `A`, if it was stamped, lost all
`n` of them. -/
theorem released_up_to_loss (S : Setup) (hmode : S.mode = 1) (calls : List (ℕ × PortId))
    (t : RetxTables) (ht : run RetxTables.call .empty calls = some t) (hinst : Installed S t)
    (es : List Event) (s : State) (hrun : run (step S) (init S) es = some s)
    (hw : Throughout (step S) Windowed (init S) es)
    (hG : Along (step S) (BlockingGuard S) (init S) es) (hd : Drained s)
    (hawaited : s.advances ∉ s.rxBuffer.map Prod.fst) :
    s.released = List.range s.advances ∧ s.advances ≤ s.stamped ∧
      (∀ m < s.advances, (lostRetx S es).count m < requested calls S.sender.link.egressPort) ∧
      (s.advances < s.stamped →
        (lostRetx S es).count s.advances = requested calls S.sender.link.egressPort) := by
  have h := blockingInv_run hmode hrun hw hG
  have hacc := accounted_run (sendsCopies_requested ht hinst) hrun hw
    (hG.mono fun _ _ hguard => hguard.1)
  have hpos := requested_pos ht hinst
  refine ⟨h.receiver.inOrder.released, h.advances_le, fun m hm => ?_, fun hlt => ?_⟩
  · have hmem : m ∈ s.receiver.released := by
      rw [h.receiver.inOrder.released]
      exact List.mem_range.mpr hm
    have harr := h.inv.arrived _ (List.mem_append_left _ (mem_history_of_mem_released hmem))
    exact (hacc.arrived_iff hpos hd (h.inv.lt_stamped harr)).1.mp harr
  · have hnot : ¬ s.Arrived s.advances := fun harr => hawaited (h.waiting harr le_rfl)
    obtain ⟨hiff, hle⟩ := hacc.arrived_iff hpos hd hlt
    rw [hiff] at hnot
    omega

/-- **Non-blocking mode hands on every copy that comes through.**  With `n` copies asked for, at any
time in a run the copies of a lost packet that were handed on, are on the link and were lost are
`n` if it has been retransmitted.  Once nothing is left on the link or in the sender's buffer, a
packet that was not lost has been handed on once, and a lost one as often as copies of it were not
lost. -/
theorem released_copies (S : Setup) (hmode : S.mode = 0) (calls : List (ℕ × PortId))
    (t : RetxTables) (ht : run RetxTables.call .empty calls = some t) (hinst : Installed S t)
    (es : List Event) (s : State) (hrun : run (step S) (init S) es = some s)
    (hw : Throughout (step S) Windowed (init S) es)
    (hG : Along (step S) SenderGuard (init S) es) :
    (∀ m ∈ Link.lostIn s.sender.link.fates,
      s.released.count m + (s.retx.map Prod.fst).count m + (lostRetx S es).count m =
        requested calls S.sender.link.egressPort *
          s.sender.decided.count (m, .retransmitted)) ∧
      (Drained s → ∀ m < s.stamped, s.released.count m =
        if m ∈ Link.deliveredIn s.sender.link.fates then 1
        else requested calls S.sender.link.egressPort - (lostRetx S es).count m) := by
  have h := passingInv_run hmode hrun hw hG
  have hacc := accounted_run (sendsCopies_requested ht hinst) hrun hw hG
  refine ⟨fun m hm => ?_, fun hd m hm => ?_⟩
  · rw [h.released m, List.count_eq_zero.mpr (h.inv.linkInv.ledger.lost m hm).2, ← hacc.balance m]
    omega
  · have hbal := hacc.balance m
    rw [hd.retx, List.map_nil, List.count_nil] at hbal
    rw [h.released m]
    split_ifs with hdel
    · have hnone : s.arrivedRetx.count m = 0 :=
        List.count_eq_zero.mpr fun hr => h.inv.not_delivered (h.inv.arrivedRetx m hr) hdel
      rw [hnone, List.count_eq_one_of_mem (h.sorted.imp fun hlt => hlt.ne) hdel]
    · have hretx := (h.inv.delivered_or_retransmitted hd.link hd.buffer hm).resolve_left hdel
      rw [h.inv.decided_count_eq_one hretx] at hbal
      rw [List.count_eq_zero.mpr hdel]
      omega

/-! ## Two copies -/

/-- The sender with other tables for its retransmissions. -/
def Setup.withRetxTables (S : Setup) (t : RetxTables)
    (h : (t.retxMcastBufferedPkt S.sender.link.egressPort).isSome) : Setup where
  sender :=
    { link := S.sender.link
      igTables := { S.sender.igTables with retxMcastBufferedPkt := t.retxMcastBufferedPkt }
      retxMcastBufferedPkt := h }
  mcastPorts := t.mcastPorts
  recircMd := S.recircMd
  recircMd_filter := S.recircMd_filter
  recircMd_protect := S.recircMd_protect

/-- Two copies for port 36. -/
def twoCopies : RetxTables := (run RetxTables.call .empty [(2, 36)]).getD .empty

lemma twoCopies_run : run RetxTables.call .empty [(2, 36)] = some twoCopies := by
  obtain ⟨t, ht⟩ := Option.isSome_iff_exists.mp
    (show (run RetxTables.call .empty [(2, 36)]).isSome = true by decide +kernel)
  rw [twoCopies, ht, Option.getD_some]

def link36TwoCopies : Setup := link36.withRetxTables twoCopies (by decide +kernel)

/-- Both copies of packet 1 are lost, and packet 2 stays in the receiver's buffer. -/
theorem released_up_to_loss_both_copies : ∃ s,
    run (step link36TwoCopies) (init link36TwoCopies)
        (oneLossRun.take 10 ++ [.loseRetx 0, .loseRetx 0]) = some s ∧
      s.stamped = 3 ∧ s.released = [0] ∧
      (lostRetx link36TwoCopies
        (oneLossRun.take 10 ++ [.loseRetx 0, .loseRetx 0])).count 1 = 2 := by
  have hrun : (run (step link36TwoCopies) (init link36TwoCopies)
      (oneLossRun.take 10 ++ [.loseRetx 0, .loseRetx 0])).any (fun s =>
        decide (s.stamped = 3) && (decide (s.advances = 1) && (s.sender.link.link.isEmpty &&
          (s.sender.buffer.isEmpty && (s.retx.isEmpty &&
            decide (s.rxBuffer.map Prod.fst = [2])))))) := by
    decide +kernel
  obtain ⟨s, hs, hend⟩ := (Option.any_eq_true _ _).mp hrun
  simp only [Bool.and_eq_true, decide_eq_true_eq, List.isEmpty_iff] at hend
  obtain ⟨hstamped, hadv, hlink, hbuffer, hretx, hrx⟩ := hend
  obtain ⟨hrel, -, -, hlost⟩ := released_up_to_loss link36TwoCopies rfl [(2, 36)] twoCopies
    twoCopies_run ⟨rfl, rfl, by decide⟩ _ s hs (by decide +kernel) (by decide +kernel)
    ⟨hlink, hbuffer, hretx⟩ (by simp [hadv, hrx])
  rw [hadv] at hrel hlost
  exact ⟨s, hs, hstamped, hrel, hlost (by omega)⟩

def link36NonBlockingTwoCopies : Setup :=
  link36NonBlocking.withRetxTables twoCopies (by decide +kernel)

/-- One of the two copies gets through. -/
theorem released_copies_one_lost : ∃ s,
    run (step link36NonBlockingTwoCopies) (init link36NonBlockingTwoCopies)
        (oneLossRun.take 10 ++ [.loseRetx 1, .arriveRetx 0]) = some s ∧
      s.released = [0, 2, 1] ∧ s.released.count 1 =
        2 - (lostRetx link36NonBlockingTwoCopies
          (oneLossRun.take 10 ++ [.loseRetx 1, .arriveRetx 0])).count 1 := by
  have hrun : (run (step link36NonBlockingTwoCopies) (init link36NonBlockingTwoCopies)
      (oneLossRun.take 10 ++ [.loseRetx 1, .arriveRetx 0])).any (fun s =>
        decide (s.released = [0, 2, 1]) && (decide (s.stamped = 3) &&
          (s.sender.link.link.isEmpty && (s.sender.buffer.isEmpty && (s.retx.isEmpty &&
            decide (1 ∉ Link.deliveredIn s.sender.link.fates)))))) := by
    decide +kernel
  obtain ⟨s, hs, hend⟩ := (Option.any_eq_true _ _).mp hrun
  simp only [Bool.and_eq_true, decide_eq_true_eq, List.isEmpty_iff] at hend
  obtain ⟨hrel, hstamped, hlink, hbuffer, hretx, hlost⟩ := hend
  have hall := (released_copies link36NonBlockingTwoCopies rfl [(2, 36)] twoCopies
    twoCopies_run ⟨rfl, rfl, by decide⟩ _ s hs (by decide +kernel) (by decide +kernel)).2
    ⟨hlink, hbuffer, hretx⟩ 1 (by omega)
  rw [if_neg hlost] at hall
  exact ⟨s, hs, hrel, hall⟩

end LinkGuardian.ProtectedLink
