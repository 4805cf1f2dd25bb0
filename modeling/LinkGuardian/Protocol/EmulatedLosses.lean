import LinkGuardian.Dataplane.Sender.EmulatedHoles
import LinkGuardian.Protocol.RetxCopies
import Mathlib.Data.Nat.Periodic

/-!
# Emulated losses are recovered

The test bed has no corrupting cable: the egress of the sender drops the packets whose number is a
hole.  From the holes that the control plane picks to the protected link: the losses are as sparse
as the sender's buffer needs them, each wrap of the numbers loses as many packets as there are
holes, and what was lost is retransmitted and handed on.
-/

namespace LinkGuardian.Sender.Egress

open P4

variable {t : EgressTables} {c : Egress}

/-! ## The pass of a packet -/

/-- What neither marking nor protection touches. -/
structure SameEmulation (c c' : Egress) : Prop where
  egressPort : c'.egressPort = c.egressPort
  emulateCorruption : c'.egMeta.emulateCorruption = c.egMeta.emulateCorruption
  dropCtl : c'.dropCtl = c.dropCtl
  regCorruptionSeqNo : c'.regs.regCorruptionSeqNo = c.regs.regCorruptionSeqNo

lemma SameEmulation.trans {a b c : Egress} (h : SameEmulation a b) (h' : SameEmulation b c) :
    SameEmulation a c where
  egressPort := h'.egressPort.trans h.egressPort
  emulateCorruption := h'.emulateCorruption.trans h.emulateCorruption
  dropCtl := h'.dropCtl.trans h.dropCtl
  regCorruptionSeqNo := h'.regCorruptionSeqNo.trans h.regCorruptionSeqNo

lemma sameEmulation_ecnMarking (t : EgressTables) (c : Egress) :
    SameEmulation c (c.ecnMarking t) := by
  simp only [ecnMarking]
  split_ifs <;> exact ⟨rfl, rfl, rfl, rfl⟩

lemma sameEmulation_protectedBranch (t : EgressTables) (p : ProtectParams) (c : Egress) :
    SameEmulation c ((c.protect p).protectedBranch t) := by
  have hcopy : SameEmulation c ((c.protect p).copyPktForBuffering t) := by
    unfold copyPktForBuffering
    split <;> exact ⟨rfl, rfl, rfl, rfl⟩
  refine hcopy.trans ?_
  simp only [protectedBranch]
  split <;> exact ⟨rfl, rfl, rfl, rfl⟩

/-- **A normal packet on a port with emulation** is counted, and dropped if its count is a hole. -/
lemma normal_pass_emulation {p : ProtectParams} (hn : c.hdr.linkradarData.valid = false)
    (hp : t.linkProtect c.egressPort = some p)
    (hport : t.decideToEmulateCorruption c.portIdx = true) (hdrop : c.dropCtl = 0) :
    (c.apply t).regs.regCorruptionSeqNo = c.regs.regCorruptionSeqNo.write c.portIdx
        (c.regs.regCorruptionSeqNo c.portIdx + 1) ∧
      ((c.apply t).dropCtl ≠ 0 ↔
        t.emulateCorruption (c.regs.regCorruptionSeqNo c.portIdx) = true) := by
  obtain ⟨hegress, hmeta, hctl, hcount⟩ := (sameEmulation_ecnMarking t c).trans
    (sameEmulation_protectedBranch t p (c.ecnMarking t))
  rw [apply_of_normal hn, normalBranch_eq hp]
  generalize ((c.ecnMarking t).protect p).protectedBranch t = c' at *
  have hidx : c'.portIdx = c.portIdx := by rw [portIdx, portIdx, hegress]
  simp only [emulateCorruption, hidx, hport, if_true, hcount, true_and]
  split_ifs with hhole
  · exact ⟨rfl, iff_of_true (by change (1 : BitVec 3) ≠ 0; decide) hhole⟩
  · exact ⟨rfl, iff_of_false (not_not.mpr (hctl.trans hdrop)) hhole⟩

lemma checkIfDummyPktPending_regCorruptionSeqNo (c : Egress) :
    c.checkIfDummyPktPending.regs.regCorruptionSeqNo = c.regs.regCorruptionSeqNo := by
  unfold checkIfDummyPktPending
  dsimp only
  split <;> rfl

/-- A dummy is not counted. -/
lemma dummy_pass_emulation (hd : c.hdr.linkradarData.valid = true)
    (hm : c.egMeta.egMirrorBufferedPkt.valid = false)
    (hdummy : c.hdr.linkradarData.fields.dummy = 1) :
    (c.apply t).regs.regCorruptionSeqNo = c.regs.regCorruptionSeqNo := by
  have happly : (c.apply t).regs = (c.dummyBranch t).regs := by
    simp only [apply, hd, hm, hdummy]
    rfl
  have hmirror := (mirrorDummyPkt_keeps t c.addCurrSeqNoToDummy.getEra).2
  have hcount := checkIfDummyPktPending_regCorruptionSeqNo
    (c.addCurrSeqNoToDummy.getEra.mirrorDummyPkt t)
  rw [hmirror] at hcount
  rw [happly]
  simp only [dummyBranch]
  split <;> exact hcount

end LinkGuardian.Sender.Egress

namespace LinkGuardian.Link

open P4 SerialNumber Execution

variable {S : Setup} {s s' : State} {t : Table SeqNo Unit} {k : ℕ}

/-! ## The link -/

/-- The protected port emulates losses by this table.  The table answers for numbers, so that the
same numbers are dropped in every round of them. -/
structure Emulates (S : Setup) (t : Table SeqNo Unit) : Prop where
  decideToEmulateCorruption : S.txTables.decideToEmulateCorruption S.txPort = true
  emulateCorruption : ∀ x, S.txTables.emulateCorruption x = (t x).isSome

/-- Packet `n` is to be dropped. -/
def IsHole (t : Table SeqNo Unit) (n : ℕ) : Prop := (t (wire 16 n)).isSome

instance (t : Table SeqNo Unit) : DecidablePred (IsHole t) := fun n =>
  inferInstanceAs (Decidable ((t (wire 16 n)).isSome = true))

/-- The link loses nothing but what the sender has dropped. -/
def OnlyEmulated (s : State) : Event → Prop
  | .lose => ∀ p ∈ s.link.head?, p.dropped = true
  | _ => True

instance (s : State) : DecidablePred (OnlyEmulated s)
  | .lose => inferInstanceAs (Decidable (∀ p ∈ s.link.head?, p.dropped = true))
  | .data _ _ _ | .dummy _ | .arrive => isTrue trivial

/-- What is dropped on the way and what has become of the rest. -/
structure EmulatedInv (S : Setup) (t : Table SeqNo Unit) (s : State) : Prop where
  counter : s.txRegs.regCorruptionSeqNo S.txPort = wire 16 s.stamped
  link : ∀ p ∈ s.link, p.dropped = true ↔ p.isData = true ∧ IsHole t p.num
  lost : ∀ n ∈ lostIn s.fates, IsHole t n
  delivered : ∀ n ∈ deliveredIn s.fates, ¬ IsHole t n

lemma emulatedInv_init (S : Setup) (t : Table SeqNo Unit) : EmulatedInv S t (init S) where
  counter := rfl
  link := fun _ hp => absurd hp List.not_mem_nil
  lost := fun _ hn => absurd hn List.not_mem_nil
  delivered := fun _ hn => absurd hn List.not_mem_nil

/-- A normal packet leaves marked as dropped if its number is a hole. -/
lemma EmulatedInv.data (hE : Emulates S t) (h : EmulatedInv S t s) {hdr : Sender.Hdr}
    {q : BitVec 19} {r : BitVec 8} (hn : hdr.linkradarData.valid = false) :
    (txPass S s.txRegs hdr q r).regs.regCorruptionSeqNo S.txPort = wire 16 (s.stamped + 1) ∧
      ((onWire s.stamped (txPass S s.txRegs hdr q r)).dropped = true ↔ IsHole t s.stamped) := by
  obtain ⟨hcount, hdrop⟩ := Sender.Egress.normal_pass_emulation (t := S.txTables)
    (c := .start s.txRegs S.egressPort q r hdr (.ofHdr hdr)) hn S.linkProtect
    hE.decideToEmulateCorruption rfl
  change (txPass S s.txRegs hdr q r).regs.regCorruptionSeqNo = s.txRegs.regCorruptionSeqNo.write
    S.txPort (s.txRegs.regCorruptionSeqNo S.txPort + 1) at hcount
  change (txPass S s.txRegs hdr q r).dropCtl ≠ 0 ↔
    S.txTables.emulateCorruption (s.txRegs.regCorruptionSeqNo S.txPort) = true at hdrop
  rw [h.counter, hE.emulateCorruption] at hdrop
  refine ⟨?_, decide_eq_true_iff.trans hdrop⟩
  rw [hcount, Register.write_same, h.counter, wire_succ]

/-- A dummy is not counted. -/
lemma EmulatedInv.dummy (h : EmulatedInv S t s) {hdr : Sender.Hdr} (hd : IsDummy hdr) :
    (txPass S s.txRegs hdr 0 0).regs.regCorruptionSeqNo S.txPort = wire 16 s.stamped := by
  have hcount : (txPass S s.txRegs hdr 0 0).regs.regCorruptionSeqNo =
      s.txRegs.regCorruptionSeqNo :=
    Sender.Egress.dummy_pass_emulation (t := S.txTables)
      (c := .start s.txRegs S.egressPort 0 0 hdr (.ofHdr hdr)) hd.linkradarData rfl hd.dummy
  rw [hcount]
  exact h.counter

lemma EmulatedInv.send (h : EmulatedInv S t s) {regs : Sender.EgressRegs} {num : ℕ} {p : Packet}
    (hcount : regs.regCorruptionSeqNo S.txPort = wire 16 num)
    (hp : p.dropped = true ↔ p.isData = true ∧ IsHole t p.num) :
    EmulatedInv S t (s.afterSend regs num p) := by
  refine ⟨hcount, fun q hq => ?_, h.lost, h.delivered⟩
  rcases List.mem_append.mp hq with hq | hq
  · exact h.link q hq
  · rwa [List.mem_singleton.mp hq]

lemma EmulatedInv.lose (h : EmulatedInv S t s) {p : Packet} {ps : List Packet}
    (hlink : s.link = p :: ps) (hdrop : p.dropped = true) : EmulatedInv S t (s.afterLoss p ps) := by
  have hhole := (h.link p (by rw [hlink]; exact List.mem_cons_self)).mp hdrop
  refine ⟨h.counter, fun q hq => h.link q ?_, fun n hn => ?_, fun n hn => ?_⟩
  · rw [hlink]
    exact List.mem_cons_of_mem _ hq
  · rw [State.afterLoss, lostIn_append, List.mem_append, mem_lostIn_lost] at hn
    rcases hn with hn | ⟨-, rfl⟩
    · exact h.lost n hn
    · exact hhole.2
  · rw [State.afterLoss, deliveredIn_append, deliveredIn_lost, List.append_nil] at hn
    exact h.delivered n hn

lemma EmulatedInv.arrive (h : EmulatedInv S t s) {p : Packet} {ps : List Packet}
    (hlink : s.link = p :: ps) (hkept : p.dropped = false) {regs : Receiver.IngressRegs}
    {m : Option Receiver.IgMirror} : EmulatedInv S t (s.afterArrival p ps regs m) := by
  have hhole := h.link p (by rw [hlink]; exact List.mem_cons_self)
  rw [hkept] at hhole
  refine ⟨h.counter, fun q hq => h.link q ?_, fun n hn => ?_, fun n hn => ?_⟩
  · rw [hlink]
    exact List.mem_cons_of_mem _ hq
  · rw [State.afterArrival, lostIn_append, lostIn_delivered, List.append_nil] at hn
    exact h.lost n hn
  · rw [State.afterArrival, deliveredIn_append, List.mem_append, mem_deliveredIn_delivered] at hn
    rcases hn with hn | ⟨hdata, rfl⟩
    · exact h.delivered n hn
    · exact fun hn => absurd (hhole.mpr ⟨hdata, hn⟩) (by decide)

/-- **Step lemma.** -/
lemma emulatedInv_step (hE : Emulates S t) (hI : Inv S s) (h : EmulatedInv S t s) {e : Event}
    (hG : OnlyEmulated s e) (hs : step S s e = some s') : EmulatedInv S t s' := by
  cases e with
  | data hdr q r =>
    simp only [step, Option.ite_none_right_eq_some, Option.some_inj] at hs
    obtain ⟨hn, rfl⟩ := hs
    obtain ⟨hcount, hdrop⟩ := h.data hE (q := q) (r := r) hn
    have hdata := (txPass_data (q := q) (r := r) hn hI.tx).1
    exact h.send hcount (hdrop.trans (and_iff_right hdata).symm)
  | dummy hdr =>
    simp only [step, Option.ite_none_right_eq_some] at hs
    obtain ⟨hd, hs⟩ := hs
    have hdata := (txPass_dummy hd hI.tx).1
    split_ifs at hs with hkept
    · obtain rfl := Option.some_inj.mp hs
      have hdropped : (onWire s.stamped (txPass S s.txRegs hdr 0 0)).dropped = false :=
        decide_eq_false (not_not.mpr hkept)
      exact h.send (h.dummy hd) (by rw [hdata, hdropped]; simp)
    · obtain rfl := Option.some_inj.mp hs
      exact ⟨h.dummy hd, h.link, h.lost, h.delivered⟩
  | lose =>
    cases hlink : s.link with
    | nil => simp [step, hlink] at hs
    | cons p ps =>
      simp only [step, hlink, Option.some_inj] at hs
      obtain rfl := hs
      exact h.lose hlink (hG p (by rw [hlink]; rfl))
  | arrive =>
    cases hlink : s.link with
    | nil => simp [step, hlink] at hs
    | cons p ps =>
      simp only [step, hlink] at hs
      split_ifs at hs with hdrop
      obtain rfl := Option.some_inj.mp hs
      exact h.arrive hlink (Bool.eq_false_of_not_eq_true hdrop)

/-- A number off the link was lost if and only if it is a hole. -/
lemma EmulatedInv.lost_iff (hI : Inv S s) (h : EmulatedInv S t s) {n : ℕ}
    (hn : n < s.expected + s.lostRun) : n ∈ lostIn s.fates ↔ IsHole t n := by
  refine ⟨h.lost n, fun hhole => ?_⟩
  rcases Nat.lt_or_ge n s.expected with hlt | hge
  · exact (hI.ledger.settled n hlt).resolve_left fun hdel => h.delivered n hdel hhole
  · exact hI.ledger.recent n hge hn

/-- With no two holes for neighbours, a packet is dropped only if the one before was not. -/
lemma EmulatedInv.of_dropped (hsp : Sender.Spaced t k) (hI : Inv S s) (h : EmulatedInv S t s)
    {p : Packet} (hp : p ∈ s.link.head?) (hdrop : p.dropped = true) :
    s.lostRun = 0 ∧ p.num ≠ 0 := by
  have hhole := ((h.link p (List.mem_of_mem_head? hp)).mp hdrop).2
  obtain ⟨ps, hlink⟩ := List.head?_eq_some_iff.mp hp
  have hnum := (hI.head hlink).1
  refine ⟨?_, fun hzero => ?_⟩
  · -- the number before would be a hole as well
    by_contra hrun
    have hlost := hI.ledger.recent (p.num - 1) (by omega) (by omega)
    have hnext := hsp.apart _ (h.lost _ hlost)
    rw [wire_succ, Nat.sub_add_cancel (by omega)] at hnext
    rw [IsHole, hnext] at hhole
    cases hhole
  · rw [IsHole, hzero, wire_zero, hsp.zero] at hhole
    cases hhole

lemma lossBound_of_emulated (hsp : Sender.Spaced t k) (hI : Inv S s) (h : EmulatedInv S t s)
    {e : Event} (hG : OnlyEmulated s e) : LossBound 65536 s e := by
  cases e with
  | lose =>
    intro p hp _
    rw [(h.of_dropped hsp hI hp (hG p hp)).1]
    decide
  | data | dummy | arrive => trivial

lemma emulatedInv_run (hE : Emulates S t) (hsp : Sender.Spaced t k) {es : List Event}
    (hrun : run (step S) (init S) es = some s) (hG : Along (step S) OnlyEmulated (init S) es) :
    Inv S s ∧ EmulatedInv S t s := by
  have hstep : ∀ s e s', Inv S s ∧ EmulatedInv S t s → OnlyEmulated s e → step S s e = some s' →
      Inv S s' ∧ EmulatedInv S t s' := fun _ _ _ h hG hs =>
    ⟨inv_step h.1 (lossBound_of_emulated hsp h.1 h.2 hG) hs, emulatedInv_step hE h.1 h.2 hG hs⟩
  exact run_invariant_along hstep ⟨inv_init S, emulatedInv_init S t⟩ hG hrun

lemma periodic_isHole (t : Table SeqNo Unit) : Function.Periodic (IsHole t) 65536 := fun n => by
  have hwire : wire 16 (n + 65536) = wire 16 n := wire_eq_iff.mpr (by omega)
  rw [IsHole, hwire, IsHole]

/-- **The loss rate of the emulation.**  Whatever numbers `emulate_random_losses` draws, in every
run that loses nothing else: the packets lost are those whose number is a hole, no two of them in a
row, and of any 65536 packets in a row as many are lost as there are holes. -/
theorem emulated_loss_rate (S : Setup) (numHoles : ℕ) (draws : List ℕ)
    (hdraws : ∀ c ∈ draws, c ∈ Sender.candidates) (t : Table SeqNo Unit)
    (ht : Sender.emulateRandomLosses (fun _ => none) numHoles draws = some t) (hE : Emulates S t)
    (es : List Event) (s : State) (hrun : run (step S) (init S) es = some s)
    (hG : Along (step S) OnlyEmulated (init S) es) :
    (∀ n < s.expected + s.lostRun, n ∈ lostIn s.fates ↔ IsHole t n) ∧
      (∀ n ∈ lostIn s.fates, n + 1 ∉ lostIn s.fates) ∧
      ∀ a, a + 65536 ≤ s.expected + s.lostRun →
        ((Finset.Ico a (a + 65536)).filter (· ∈ lostIn s.fates)).card = numHoles := by
  have hsp := Sender.spaced_of_emulate hdraws ht
  obtain ⟨hI, h⟩ := emulatedInv_run hE hsp hrun hG
  refine ⟨fun n hn => h.lost_iff hI hn, fun n hn hnext => ?_, fun a ha => ?_⟩
  · have hhole := h.lost _ hnext
    rw [IsHole, ← wire_succ, hsp.apart _ (h.lost n hn)] at hhole
    cases hhole
  · rw [← hsp.count]
    calc ((Finset.Ico a (a + 65536)).filter (· ∈ lostIn s.fates)).card
        = ((Finset.Ico a (a + 65536)).filter (IsHole t)).card := by
          refine congrArg Finset.card (Finset.filter_congr fun n hn => h.lost_iff hI ?_)
          exact lt_of_lt_of_le (Finset.mem_Ico.mp hn).2 ha
      _ = Nat.count (IsHole t) 65536 := Nat.filter_Ico_card_eq_of_periodic _ _ _ (periodic_isHole t)
      _ = _ := List.countP_congr fun i _ => decide_eq_true_iff

/-- The hole that `emulate_random_losses` makes of one draw. -/
def holeAtOne : Table SeqNo Unit := fun x => if x.toNat ∈ [1] then some () else none

lemma holeAtOne_eq : Sender.emulateRandomLosses (fun _ => none) 1 [1] = some holeAtOne := by
  have hpick : Sender.pickHoles 1 [] [1] = some [1] := by decide
  rw [Sender.emulateRandomLosses_eq (by simp [Sender.mem_candidates]), hpick]
  rfl

/-- The link with emulated losses. -/
def Setup.withHoles (S : Setup) (t : Table SeqNo Unit) : Setup where
  txTables := { S.txTables with
    decideToEmulateCorruption := fun p => decide (p = S.txPort)
    emulateCorruption := fun x => (t x).isSome }
  egressPort := S.egressPort
  params := S.params
  rxTables := S.rxTables
  rxPortMd := S.rxPortMd
  linkProtect := S.linkProtect
  copyPktForBuffering := S.copyPktForBuffering
  filterViaLpbk := S.filterViaLpbk
  protect := S.protect
  generateLossNotification := S.generateLossNotification

lemma emulates_withHoles (S : Setup) (t : Table SeqNo Unit) : Emulates (S.withHoles t) t :=
  ⟨decide_eq_true rfl, fun _ => rfl⟩

/-- Port 36 with the loss of packet 1 emulated. -/
def link36OneHole : Setup := link36.withHoles holeAtOne

/-- Of three packets the one in the middle is dropped, and cannot arrive. -/
theorem emulated_loss_rate_one_hole : ∃ s,
    run (step link36OneHole) (init link36OneHole) oneLossRun = some s ∧
      0 ∉ lostIn s.fates ∧ 1 ∈ lostIn s.fates ∧ 2 ∉ lostIn s.fates := by
  have hrun : (run (step link36OneHole) (init link36OneHole) oneLossRun).any (fun s =>
      decide (s.expected = 3)) := by decide +kernel
  obtain ⟨s, hs, hend⟩ := (Option.any_eq_true _ _).mp hrun
  have hexp : s.expected = 3 := of_decide_eq_true hend
  obtain ⟨hlost, -, -⟩ := emulated_loss_rate link36OneHole 1 [1]
    (by simp [Sender.mem_candidates]) holeAtOne holeAtOne_eq (emulates_withHoles _ _) oneLossRun s
    hs (by decide +kernel)
  refine ⟨s, hs, ?_, ?_, ?_⟩
  · rw [hlost 0 (by omega)]
    decide
  · rw [hlost 1 (by omega)]
    decide
  · rw [hlost 2 (by omega)]
    decide

end LinkGuardian.Link

namespace LinkGuardian.ProtectedLink

open P4 SerialNumber Execution Sender

variable {S : Setup} {s s' : State} {t : Table SeqNo Unit} {k : ℕ}

/-! ## Sparse losses -/

/-- Nothing is lost but what the sender has dropped. -/
def OnlyEmulated (s : State) : Event → Prop
  | .lose => ∀ p ∈ s.sender.link.link.head?, p.dropped = true
  | .loseRetx _ => False
  | _ => True

instance (s : State) : DecidablePred (OnlyEmulated s)
  | .lose => inferInstanceAs (Decidable (∀ p ∈ s.sender.link.link.head?, p.dropped = true))
  | .loseRetx _ => isFalse id
  | .data _ _ _ | .dummy _ | .arrive | .report _ _ | .buffered _ | .arriveRetx _ | .recirculate _
  | .timer _ => isTrue trivial

/-- The conditions on the sender in a run with emulated losses. -/
def EmulatedGuard (s : State) (e : Event) : Prop :=
  OnlyEmulated s e ∧ ∀ e' ∈ e.atSender, Buffer.ReportsInOrder s.sender e'

instance (s : State) (e : Event) : Decidable (EmulatedGuard s e) :=
  inferInstanceAs (Decidable (OnlyEmulated s e ∧ ∀ e' ∈ e.atSender,
    Buffer.ReportsInOrder s.sender e'))

/-- Sparse holes are sparse losses: with no two neighbours in the table, at most one packet in a row
is dropped. -/
lemma senderGuard_of_emulated (hsp : Spaced t k) (hI : Inv S s)
    (h : Link.EmulatedInv S.sender.link t s.sender.link) {e : Event} (hG : EmulatedGuard s e) :
    SenderGuard s e := by
  intro e' he'
  refine ⟨hG.2 e' he', ?_⟩
  cases e with
  | lose =>
    obtain rfl := Option.some_inj.mp he'
    intro p hp _
    obtain ⟨hrun, hzero⟩ := h.of_dropped hsp hI.linkInv hp (hG.1 p hp)
    exact ⟨by omega, hzero⟩
  | data | dummy | arrive | report | buffered =>
    obtain rfl := Option.some_inj.mp he'
    trivial
  | loseRetx | arriveRetx | recirculate | timer => cases he'

/-- What a run with emulated losses keeps. -/
structure EmulatedInv (S : Setup) (t : Table SeqNo Unit) (s : State) : Prop where
  inv : Inv S s
  emulated : Link.EmulatedInv S.sender.link t s.sender.link

lemma emulatedInv_init (S : Setup) (t : Table SeqNo Unit) : EmulatedInv S t (init S) :=
  ⟨inv_init S, Link.emulatedInv_init S.sender.link t⟩

/-- The part of the link in a step of the sender. -/
lemma emulated_sender {b b' : Buffer.State} {e : Buffer.Event}
    (hE : Link.Emulates S.sender.link t) (hI : Link.Inv S.sender.link b.link)
    (h : Link.EmulatedInv S.sender.link t b.link)
    (hG : e = .link .lose → ∀ p ∈ b.link.link.head?, p.dropped = true)
    (hb : Buffer.step S.sender b e = some b') :
    Link.EmulatedInv S.sender.link t b'.link := by
  rcases Buffer.step_cases hb with ⟨le, l, rfl, hl, rfl⟩ | ⟨_, _, _, rfl, -, -, rfl⟩ |
    ⟨i, n, hdr, rfl, -, rfl⟩
  · refine Link.emulatedInv_step hE hI h ?_ hl
    cases le with
    | lose => exact hG rfl
    | data | dummy | arrive => trivial
  · exact h
  · rw [(Buffer.afterCopy_keeps _ _ _ _).1]
    exact h

/-- **Step lemma.** -/
lemma emulatedInv_step (hE : Link.Emulates S.sender.link t) (hsp : Spaced t k)
    (h : EmulatedInv S t s) (hw : Windowed s) (hw' : Windowed s') {e : Event}
    (hG : EmulatedGuard s e) (hs : step S s e = some s') : EmulatedInv S t s' := by
  refine ⟨inv_step h.inv hw hw' (senderGuard_of_emulated hsp h.inv h.emulated hG) hs, ?_⟩
  rcases step_cases hs with ⟨e', b, he, -, -, hb, rfl⟩ | ⟨p, b, r, rfl, -, hb, hr, rfl⟩ |
    ⟨i, rfl, rfl⟩ | ⟨i, n, hdr, r, rfl, -, -, rfl⟩ | ⟨e', r, -, -, -, rfl⟩
  · refine emulated_sender hE h.inv.linkInv h.emulated (fun hlose => ?_) hb
    have hevent : e = .lose := by
      rw [hlose] at he
      cases e with
      | lose => rfl
      | _ => cases he
    rw [hevent] at hG
    exact hG.1
  · have hb' := emulated_sender hE h.inv.linkInv h.emulated (by rintro ⟨⟩) hb
    exact ⟨hb'.counter, hb'.link, hb'.lost, hb'.delivered⟩
  · exact h.emulated
  · exact ⟨h.emulated.counter, h.emulated.link, h.emulated.lost, h.emulated.delivered⟩
  · exact ⟨h.emulated.counter, h.emulated.link, h.emulated.lost, h.emulated.delivered⟩

/-! ## What is handed on -/

section Runs

variable {es : List Event}

lemma emulatedInv_run (hE : Link.Emulates S.sender.link t) (hsp : Spaced t k)
    (hrun : run (step S) (init S) es = some s) (hw : Throughout (step S) Windowed (init S) es)
    (hG : Along (step S) EmulatedGuard (init S) es) : EmulatedInv S t s :=
  run_invariant_throughout (fun _ _ _ h hw hw' hG hs => emulatedInv_step hE hsp h hw hw' hG hs)
    (emulatedInv_init S t) hw hG hrun

/-- Such runs meet the conditions of the sender's buffer. -/
lemma along_senderGuard (hE : Link.Emulates S.sender.link t) (hsp : Spaced t k)
    (hw : Throughout (step S) Windowed (init S) es)
    (hG : Along (step S) EmulatedGuard (init S) es) : Along (step S) SenderGuard (init S) es :=
  along_of_invariant (fun _ _ _ h hw hw' hG hs => emulatedInv_step hE hsp h hw hw' hG hs)
    (fun _ _ h hG => senderGuard_of_emulated hsp h.inv h.emulated hG) (emulatedInv_init S t) hw hG

/-- No retransmitted copy is lost. -/
lemma lostRetx_eq_nil (hG : Along (step S) EmulatedGuard (init S) es) : lostRetx S es = [] := by
  refine emitted_eq_nil lostOf (fun s e hguard => lostOf_eq_nil ?_) hG
  rintro i rfl
  exact hguard.1

lemma accounted_of_emulated (hE : Link.Emulates S.sender.link t) (hsp : Spaced t k)
    {calls : List (ℕ × PortId)} {retx : RetxTables}
    (hretx : run RetxTables.call .empty calls = some retx) (hinst : Installed S retx)
    (hrun : run (step S) (init S) es = some s) (hw : Throughout (step S) Windowed (init S) es)
    (hG : Along (step S) EmulatedGuard (init S) es) :
    Accounted S (requested calls S.sender.link.egressPort) s [] := by
  rw [← lostRetx_eq_nil hG]
  exact accounted_run (sendsCopies_requested hretx hinst) hrun hw (along_senderGuard hE hsp hw hG)

end Runs

/-- Once nothing is left on the link or in the sender's buffer, the holes and nothing else have
been retransmitted. -/
lemma EmulatedInv.retransmitted_iff (h : EmulatedInv S t s) (hd : Drained s) {n : ℕ}
    (hn : n < s.stamped) : (n, .retransmitted) ∈ s.sender.decided ↔ Link.IsHole t n := by
  constructor
  · exact fun hretx => h.emulated.lost n (h.inv.sender.holes.decided _ hretx).2.2
  · intro hhole
    refine (h.inv.delivered_or_retransmitted hd.link hd.buffer hn).resolve_left fun hdel => ?_
    exact h.emulated.delivered n hdel hhole

lemma EmulatedInv.delivered_iff (h : EmulatedInv S t s) (hd : Drained s) {n : ℕ}
    (hn : n < s.stamped) : n ∈ Link.deliveredIn s.sender.link.fates ↔ ¬ Link.IsHole t n := by
  refine ⟨h.emulated.delivered n, fun hkept => ?_⟩
  refine (h.inv.delivered_or_retransmitted hd.link hd.buffer hn).resolve_right fun hretx => ?_
  exact hkept ((h.retransmitted_iff hd hn).mp hretx)

/-- The conditions of a blocking-mode run with emulated losses. -/
def EmulatedBlockingGuard (S : Setup) (s : State) (e : Event) : Prop :=
  EmulatedGuard s e ∧ ReceiverGuard S s e

instance (S : Setup) (s : State) (e : Event) : Decidable (EmulatedBlockingGuard S s e) :=
  inferInstanceAs (Decidable (_ ∧ _))

/-- **Emulated losses are hidden in blocking mode.**  Whatever numbers `emulate_random_losses` draws
and however many copies are asked for: in every run that loses nothing but the holes, once nothing
is left on the link or in the sender's buffer and the awaited packet does not wait in the
receiver's, every stamped packet has been handed on, once and in order, and the retransmitted ones
are the holes. -/
theorem emulated_losses_hidden (S : Setup) (hmode : S.mode = 1) (numHoles : ℕ) (draws : List ℕ)
    (hdraws : ∀ c ∈ draws, c ∈ candidates) (t : Table SeqNo Unit)
    (ht : emulateRandomLosses (fun _ => none) numHoles draws = some t)
    (hE : Link.Emulates S.sender.link t) (calls : List (ℕ × PortId)) (retx : RetxTables)
    (hretx : run RetxTables.call .empty calls = some retx) (hinst : Installed S retx)
    (es : List Event) (s : State) (hrun : run (step S) (init S) es = some s)
    (hw : Throughout (step S) Windowed (init S) es)
    (hG : Along (step S) (EmulatedBlockingGuard S) (init S) es) (hd : Drained s)
    (hawaited : s.advances ∉ s.rxBuffer.map Prod.fst) :
    s.released = List.range s.stamped ∧
      ∀ n < s.stamped, (n, .retransmitted) ∈ s.sender.decided ↔ Link.IsHole t n := by
  have hsp := spaced_of_emulate hdraws ht
  have hemu : Along (step S) EmulatedGuard (init S) es := hG.mono fun _ _ hguard => hguard.1
  have hsender := along_senderGuard hE hsp hw hemu
  have h := blockingInv_run hmode hrun hw (hsender.and (hG.mono fun _ _ hguard => hguard.2))
  have hacc := accounted_of_emulated hE hsp hretx hinst hrun hw hemu
  have hpos := requested_pos hretx hinst
  refine ⟨?_, fun n hn => (emulatedInv_run hE hsp hrun hw hemu).retransmitted_iff hd hn⟩
  have hall : s.stamped ≤ s.advances := by
    by_contra hlt
    have harr := (hacc.arrived_iff hpos hd (not_le.mp hlt)).1.mpr hpos
    exact hawaited (h.waiting harr le_rfl)
  rw [State.released, h.receiver.inOrder.released]
  exact congrArg List.range (le_antisymm h.advances_le hall)

/-- The protected link with emulated losses. -/
def Setup.withHoles (S : Setup) (t : Table SeqNo Unit) : Setup where
  sender :=
    { link := S.sender.link.withHoles t
      igTables := S.sender.igTables
      retxMcastBufferedPkt := S.sender.retxMcastBufferedPkt }
  mcastPorts := S.mcastPorts
  recircMd := S.recircMd
  recircMd_filter := S.recircMd_filter
  recircMd_protect := S.recircMd_protect

def link36OneHole : Setup := link36TwoCopies.withHoles Link.holeAtOne

/-- Packet 1 is dropped and comes twice, and the receiver hands on one of the copies. -/
theorem emulated_losses_hidden_one_hole : ∃ s,
    run (step link36OneHole) (init link36OneHole)
        (oneLossRun.take 10 ++ [.arriveRetx 0, .arriveRetx 0, .recirculate 0]) = some s ∧
      s.released = [0, 1, 2] ∧ (1, .retransmitted) ∈ s.sender.decided := by
  have hrun : (run (step link36OneHole) (init link36OneHole)
      (oneLossRun.take 10 ++ [.arriveRetx 0, .arriveRetx 0, .recirculate 0])).any (fun s =>
        decide (s.stamped = 3) && (s.rxBuffer.isEmpty && (s.sender.link.link.isEmpty &&
          (s.sender.buffer.isEmpty && s.retx.isEmpty)))) := by
    decide +kernel
  obtain ⟨s, hs, hend⟩ := (Option.any_eq_true _ _).mp hrun
  simp only [Bool.and_eq_true, decide_eq_true_eq, List.isEmpty_iff] at hend
  obtain ⟨hstamped, hrx, hlink, hbuffer, hretx⟩ := hend
  obtain ⟨hrel, hdec⟩ := emulated_losses_hidden link36OneHole rfl 1 [1]
    (by simp [mem_candidates]) Link.holeAtOne Link.holeAtOne_eq (Link.emulates_withHoles _ _)
    [(2, 36)] twoCopies twoCopies_run ⟨rfl, rfl, by decide⟩ _ s hs (by decide +kernel)
    (by decide +kernel) ⟨hlink, hbuffer, hretx⟩ (by simp [hrx])
  rw [hstamped] at hrel hdec
  exact ⟨s, hs, hrel, (hdec 1 (by decide)).mpr (by decide)⟩

/-- **Emulated losses show in non-blocking mode.**  Under the same conditions the packets that are
no holes have been handed on once and in order, and each hole as often as copies were asked for. -/
theorem emulated_losses_shown (S : Setup) (hmode : S.mode = 0) (numHoles : ℕ) (draws : List ℕ)
    (hdraws : ∀ c ∈ draws, c ∈ candidates) (t : Table SeqNo Unit)
    (ht : emulateRandomLosses (fun _ => none) numHoles draws = some t)
    (hE : Link.Emulates S.sender.link t) (calls : List (ℕ × PortId)) (retx : RetxTables)
    (hretx : run RetxTables.call .empty calls = some retx) (hinst : Installed S retx)
    (es : List Event) (s : State) (hrun : run (step S) (init S) es = some s)
    (hw : Throughout (step S) Windowed (init S) es)
    (hG : Along (step S) EmulatedGuard (init S) es) (hd : Drained s) :
    s.released.filter (¬ Link.IsHole t ·) = (List.range s.stamped).filter (¬ Link.IsHole t ·) ∧
      ∀ n < s.stamped, Link.IsHole t n →
        s.released.count n = requested calls S.sender.link.egressPort := by
  have hsp := spaced_of_emulate hdraws ht
  have h := passingInv_run hmode hrun hw (along_senderGuard hE hsp hw hG)
  have hinv := emulatedInv_run hE hsp hrun hw hG
  have hacc := accounted_of_emulated hE hsp hretx hinst hrun hw hG
  -- the originals that got through are the numbers that are no holes; a hole has one decision and
  -- its copies
  refine ⟨?_, fun n hn hhole => ?_⟩
  · have hkept : s.released.filter (¬ Link.IsHole t ·) =
        Link.deliveredIn s.sender.link.fates := by
      rw [← h.originals]
      refine List.filter_congr fun n hn => decide_eq_decide.mpr ?_
      exact (hinv.delivered_iff hd (h.inv.lt_stamped (h.arrived hn))).symm
    rw [hkept]
    -- two increasing lists of the same numbers
    refine h.sorted.eq_of_mem_iff (List.pairwise_lt_range.filter _) fun n => ?_
    rw [List.mem_filter, List.mem_range, decide_eq_true_iff]
    constructor
    · intro hdel
      have hn := h.inv.lt_stamped (Or.inl hdel)
      exact ⟨hn, (hinv.delivered_iff hd hn).mp hdel⟩
    · exact fun hn => (hinv.delivered_iff hd hn.1).mpr hn.2
  · have hdec := (hinv.retransmitted_iff hd hn).mpr hhole
    have hbal := hacc.balance n
    rw [hd.retx, List.map_nil, List.count_nil, hinv.inv.decided_count_eq_one hdec, mul_one] at hbal
    rw [h.released n, List.count_eq_zero.mpr (hinv.inv.not_delivered hdec)]
    omega

def link36NonBlockingOneHole : Setup := link36NonBlockingTwoCopies.withHoles Link.holeAtOne

/-- Both copies of packet 1 are handed on. -/
theorem emulated_losses_shown_one_hole : ∃ s,
    run (step link36NonBlockingOneHole) (init link36NonBlockingOneHole)
        (oneLossRun.take 10 ++ [.arriveRetx 0, .arriveRetx 0]) = some s ∧
      s.released.filter (¬ Link.IsHole Link.holeAtOne ·) = [0, 2] ∧ s.released.count 1 = 2 := by
  have hrun : (run (step link36NonBlockingOneHole) (init link36NonBlockingOneHole)
      (oneLossRun.take 10 ++ [.arriveRetx 0, .arriveRetx 0])).any (fun s =>
        decide (s.stamped = 3) && (s.sender.link.link.isEmpty && (s.sender.buffer.isEmpty &&
          s.retx.isEmpty))) := by
    decide +kernel
  obtain ⟨s, hs, hend⟩ := (Option.any_eq_true _ _).mp hrun
  simp only [Bool.and_eq_true, decide_eq_true_eq, List.isEmpty_iff] at hend
  obtain ⟨hstamped, hlink, hbuffer, hretx⟩ := hend
  obtain ⟨hkept, hholes⟩ := emulated_losses_shown link36NonBlockingOneHole rfl 1 [1]
    (by simp [mem_candidates]) Link.holeAtOne Link.holeAtOne_eq (Link.emulates_withHoles _ _)
    [(2, 36)] twoCopies twoCopies_run ⟨rfl, rfl, by decide⟩ _ s hs (by decide +kernel)
    (by decide +kernel) ⟨hlink, hbuffer, hretx⟩
  rw [hstamped] at hkept hholes
  exact ⟨s, hs, hkept.trans (by decide), hholes 1 (by decide) (by decide)⟩

end LinkGuardian.ProtectedLink
