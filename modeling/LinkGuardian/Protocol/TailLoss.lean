import LinkGuardian.Protocol.LossDetection
import Mathlib.Data.List.TakeWhile

/-!
# Losses at the tail

The receiver notices a gap only when something arrives behind it.  So that the last packets of a
burst are covered too, the sender owes the link a number of dummies after every data packet: each
data packet sets the count of its port, and each dummy that is put on the link takes one off.
With the link drained, the lost packets have all been announced exactly when the last data packet
or one of the dummies behind it came through.
-/

namespace LinkGuardian

open P4 hiding min
open Execution

/-! ## The count of dummies in one pass -/

namespace Sender.Egress

variable {t : EgressTables} {c : Egress}

/-- The pass of a normal packet sets the count of its port to that of the `link_protect` entry. -/
theorem normal_pass_notifyCount {p : ProtectParams} (hn : c.hdr.linkradarData.valid = false)
    (hp : t.linkProtect c.egressPort = some p) :
    (c.apply t).regs.regDummyPktNotifyCount c.portIdx = p.dummyPktMaxCount := by
  obtain ⟨-, hport, -, -, -⟩ := sameButEcn_ecnMarking t c
  have hidx : (c.ecnMarking t).portIdx = c.portIdx := by rw [portIdx, portIdx, hport]
  have hbranch (c : Egress) : ((c.protect p).protectedBranch t).regs.regDummyPktNotifyCount =
      c.regs.regDummyPktNotifyCount.write c.portIdx p.dummyPktMaxCount := by
    obtain ⟨-, hregs, hport⟩ := copyPktForBuffering_keeps t (c.protect p)
    have hmax : ((c.protect p).copyPktForBuffering t).egMeta.dummyPktNotifyMaxCount =
        p.dummyPktMaxCount := by
      unfold copyPktForBuffering
      split <;> rfl
    simp only [protectedBranch]
    split <;>
      simp only [getUpdateEra, getEra, setDummyPktNotifyMaxCount, hregs, hmax, portIdx, hport] <;>
      rfl
  have hdrop (c : Egress) : (c.emulateCorruption t).regs.regDummyPktNotifyCount =
      c.regs.regDummyPktNotifyCount := by
    simp only [emulateCorruption]
    split_ifs <;> rfl
  rw [apply_of_normal hn, normalBranch_eq hp]
  simp only [hdrop, hbranch, hidx, Register.write_same]

/-- The countdown: a dummy is pending exactly when one is owed, and then one fewer is. -/
lemma checkIfDummyPktPending_spec (c : Egress) :
    (c.checkIfDummyPktPending.egMeta.isDummyPktPending = 0 ↔
        c.regs.regDummyPktNotifyCount c.portIdx = 0) ∧
      (c.checkIfDummyPktPending.regs.regDummyPktNotifyCount c.portIdx).toNat =
        (c.regs.regDummyPktNotifyCount c.portIdx).toNat - 1 ∧
      c.checkIfDummyPktPending.dropCtl = c.dropCtl := by
  simp only [checkIfDummyPktPending]
  split
  · rename_i hpos
    have hle : (1 : BitVec 8) ≤ c.regs.regDummyPktNotifyCount c.portIdx :=
      BitVec.le_def.mpr (BitVec.lt_def.mp hpos)
    refine ⟨iff_of_false (by simp) (fun hzero => ?_), ?_, rfl⟩
    · rw [hzero] at hpos
      exact absurd hpos (by decide)
    · simp only [Register.write_same, BitVec.toNat_sub_of_le hle]
      rfl
  · rename_i hpos
    have hzero : c.regs.regDummyPktNotifyCount c.portIdx = 0 := by simpa using hpos
    exact ⟨iff_of_true rfl hzero, by simp [hzero], rfl⟩

/-- A dummy is put on the link exactly when one is owed, and then one fewer is. -/
theorem dummy_pass_notifyCount (hd : c.hdr.linkradarData.valid = true)
    (hm : c.egMeta.egMirrorBufferedPkt.valid = false)
    (hdummy : c.hdr.linkradarData.fields.dummy = 1) (hdrop : c.dropCtl = 0) :
    ((c.apply t).dropCtl = 0 ↔ c.regs.regDummyPktNotifyCount c.portIdx ≠ 0) ∧
      ((c.apply t).regs.regDummyPktNotifyCount c.portIdx).toNat =
        (c.regs.regDummyPktNotifyCount c.portIdx).toNat - 1 := by
  have happly : (c.apply t).dropCtl = (c.dummyBranch t).dropCtl ∧
      (c.apply t).regs = (c.dummyBranch t).regs := by
    simp only [apply, hd, hm, hdummy]
    exact ⟨rfl, rfl⟩
  have hkeeps : (c.addCurrSeqNoToDummy.getEra.mirrorDummyPkt t).regs = c.regs ∧
      (c.addCurrSeqNoToDummy.getEra.mirrorDummyPkt t).portIdx = c.portIdx ∧
      (c.addCurrSeqNoToDummy.getEra.mirrorDummyPkt t).dropCtl = 0 := by
    unfold mirrorDummyPkt
    split <;> exact ⟨rfl, rfl, hdrop⟩
  obtain ⟨hregs, hidx, hctl⟩ := hkeeps
  obtain ⟨hpending, hcount, hkeep⟩ :=
    checkIfDummyPktPending_spec (c.addCurrSeqNoToDummy.getEra.mirrorDummyPkt t)
  rw [hregs, hidx] at hpending hcount
  rw [hctl] at hkeep
  rw [happly.1, happly.2]
  simp only [dummyBranch]
  split
  · rename_i hzero
    refine ⟨iff_of_false (by simp [drop]) (not_not.mpr (hpending.mp hzero)), hcount⟩
  · rename_i hne
    exact ⟨iff_of_true hkeep (fun hzero => hne (hpending.mpr hzero)), hcount⟩

end Sender.Egress

namespace Link

variable {S : Setup} {s s' : State}

/-- The number of dummies that a data packet entitles the link to. -/
def Setup.maxDummies (S : Setup) : ℕ := S.params.dummyPktMaxCount.toNat

/-- The number of dummies that the sender still owes the link. -/
def State.owed (S : Setup) (s : State) : ℕ := (s.txRegs.regDummyPktNotifyCount S.txPort).toNat

def Event.isData : Event → Bool
  | .data _ _ _ => true
  | .dummy _ | .lose | .arrive => false

def Event.isDummy : Event → Bool
  | .dummy _ => true
  | .data _ _ _ | .lose | .arrive => false

lemma txPass_data_owed {regs : Sender.EgressRegs} {hdr : Sender.Hdr} {q : BitVec 19}
    {r : BitVec 8} (hn : hdr.linkradarData.valid = false) :
    ((txPass S regs hdr q r).regs.regDummyPktNotifyCount S.txPort).toNat = S.maxDummies :=
  congrArg BitVec.toNat (Sender.Egress.normal_pass_notifyCount (t := S.txTables)
    (c := .start regs S.egressPort q r hdr (.ofHdr hdr)) hn S.linkProtect)

lemma txPass_dummy_owed (regs : Sender.EgressRegs) {hdr : Sender.Hdr} (hd : IsDummy hdr) :
    ((txPass S regs hdr 0 0).dropCtl = 0 ↔ 0 < (regs.regDummyPktNotifyCount S.txPort).toNat) ∧
      ((txPass S regs hdr 0 0).regs.regDummyPktNotifyCount S.txPort).toNat =
        (regs.regDummyPktNotifyCount S.txPort).toNat - 1 := by
  obtain ⟨hemit, hcount⟩ := Sender.Egress.dummy_pass_notifyCount (t := S.txTables)
    (c := .start regs S.egressPort 0 0 hdr (.ofHdr hdr)) hd.linkradarData rfl hd.dummy rfl
  refine ⟨hemit.trans ?_, hcount⟩
  rw [Nat.pos_iff_ne_zero, not_iff_not]
  exact BitVec.toNat_inj.symm

/-! ## The packets behind the last data packet -/

/-- Behind the last data packet that left the sender, `n` dummies have passed; as many of them were
put on the link as were owed.  The count of the port is the rest. -/
structure Trailing (S : Setup) (n : ℕ) (s : State) : Prop where
  tail : ∃ before d after, s.sent = before ++ d :: after ∧ d.isData = true ∧
    (∀ p ∈ after, p.isData = false) ∧ after.length = min n S.maxDummies
  owed : s.owed S = S.maxDummies - n

lemma trailing_data {hdr : Sender.Hdr} {q : BitVec 19} {r : BitVec 8} (h : Inv S s)
    (hs : step S s (.data hdr q r) = some s') : Trailing S 0 s' := by
  rcases step_cases hs with ⟨hdr, q, r, -, hn, rfl⟩ | ⟨_, he, -⟩ | ⟨_, _, he, -⟩ | ⟨_, _, he, -⟩
  · exact ⟨⟨s.sent, _, [], rfl, (txPass_data hn h.tx).1, by simp, by simp⟩, txPass_data_owed hn⟩
  · cases he
  · cases he
  · cases he

/-- **Step lemma**: a dummy counts against what is owed, and nothing else does. -/
lemma trailing_step {e : Event} {n : ℕ} (h : Inv S s) (hT : Trailing S n s)
    (he : e.isData = false) (hs : step S s e = some s') :
    Trailing S (if e.isDummy then n + 1 else n) s' := by
  obtain ⟨⟨before, d, after, hsent, hd, hafter, hlen⟩, howed⟩ := hT
  rcases step_cases hs with ⟨hdr, q, r, rfl, -, rfl⟩ | ⟨hdr, rfl, hdummy, hs'⟩ |
    ⟨p, ps, rfl, -, rfl⟩ | ⟨p, ps, rfl, -, -, rfl⟩
  · cases he
  · obtain ⟨hemit, hcount⟩ := txPass_dummy_owed (S := S) s.txRegs hdummy
    have hleft : s.owed S - 1 = S.maxDummies - (n + 1) := by omega
    simp only [step, if_pos hdummy] at hs
    change Trailing S (n + 1) s'
    -- a dummy that is not owed passes the egress, too, but is not put on the link
    by_cases hpos : 0 < s.owed S
    · rw [if_pos (hemit.mpr hpos), Option.some_inj] at hs
      refine ⟨⟨before, d, after ++ [onWire s.stamped (txPass S s.txRegs hdr 0 0)], ?_, hd, ?_, ?_⟩,
        ?_⟩
      · rw [← hs]
        simp [hsent]
      · intro p hp
        rcases List.mem_append.mp hp with hp | hp
        · exact hafter p hp
        · rw [List.mem_singleton.mp hp]
          exact (txPass_dummy hdummy h.tx).1
      · rw [List.length_append, hlen, List.length_singleton]
        omega
      · rw [← hs]
        exact hcount.trans hleft
    · rw [if_neg (fun hc => hpos (hemit.mp hc)), Option.some_inj] at hs
      refine ⟨⟨before, d, after, ?_, hd, hafter, by omega⟩, ?_⟩
      · rw [← hs]
        exact hsent
      · rw [← hs]
        exact hcount.trans hleft
  · exact ⟨⟨before, d, after, hsent, hd, hafter, hlen⟩, howed⟩
  · exact ⟨⟨before, d, after, hsent, hd, hafter, hlen⟩, howed⟩

/-- **Run lemma**: after a run without data packets, the dummies that passed in it count. -/
lemma trailing_run {es : List Event} {n : ℕ} (h : Inv S s) (hT : Trailing S n s)
    (hno : ∀ e ∈ es, e.isData = false) (hG : Along (step S) (LossBound 65536) s es)
    (hrun : run (step S) s es = some s') : Trailing S (n + es.countP Event.isDummy) s' := by
  induction es generalizing s n with
  | nil =>
    rw [run_nil, Option.some_inj] at hrun
    rwa [← hrun]
  | cons e es ih =>
    obtain ⟨t, ht, hr⟩ := run_cons_eq_some.mp hrun
    have hstep := trailing_step h hT (hno e List.mem_cons_self) ht
    have hrest := ih (inv_step h hG.1 ht) hstep (fun e he => hno e (List.mem_cons_of_mem _ he))
      (hG.2 t ht) hr
    have hcount : (if e.isDummy then n + 1 else n) + es.countP Event.isDummy =
        n + (e :: es).countP Event.isDummy := by
      rw [List.countP_cons]
      split <;> omega
    rwa [hcount] at hrest

/-! ## What the fates say -/

/-- The packets lost since the last delivery, latest first. -/
def lostTail (fates : List (Packet × Bool)) : List (Packet × Bool) :=
  fates.reverse.takeWhile fun f => !f.2

@[simp] lemma lostTail_lost (fates : List (Packet × Bool)) (p : Packet) :
    lostTail (fates ++ [(p, false)]) = (p, false) :: lostTail fates := by simp [lostTail]

@[simp] lemma lostTail_delivered (fates : List (Packet × Bool)) (p : Packet) :
    lostTail (fates ++ [(p, true)]) = [] := by simp [lostTail]

/-- The fates account for everything that has left the link, and for the current run of losses.  The
protocol keeps no fates; they are the ghost by which a loss can be spoken of. -/
structure Accounted (s : State) : Prop where
  sent : s.sent = s.fates.map Prod.fst ++ s.link
  lostRun : s.lostRun = (lostTail s.fates).countP fun f => f.1.isData

lemma accounted_init (S : Setup) : Accounted (init S) := ⟨rfl, rfl⟩

lemma accounted_step {e : Event} (h : Accounted s) (hs : step S s e = some s') :
    Accounted s' := by
  obtain ⟨hsent, hlost⟩ := h
  rcases step_cases hs with ⟨hdr, q, r, rfl, -, rfl⟩ | ⟨hdr, rfl, -, rfl | rfl⟩ |
    ⟨p, ps, rfl, hlink, rfl⟩ | ⟨p, ps, rfl, hlink, -, rfl⟩
  · exact ⟨by simp [State.afterSend, hsent], hlost⟩
  · exact ⟨by simp [State.afterSend, hsent], hlost⟩
  · exact ⟨hsent, hlost⟩
  · refine ⟨by simp [State.afterLoss, hsent, hlink], ?_⟩
    simp only [State.afterLoss, lostTail_lost, List.countP_cons, hlost]
    split <;> rfl
  · exact ⟨by simp [State.afterArrival, hsent, hlink], by simp [State.afterArrival]⟩

/-- Every lost number has been announced exactly when no loss is more recent than the last
delivery. -/
lemma Inv.announced_iff (h : Inv S s) :
    (∀ n ∈ lostIn s.fates, s.reports.countP (fun r => r.covers n) = 1) ↔ s.lostRun = 0 := by
  constructor
  · intro hall
    by_contra hne
    have hlost := h.ledger.recent s.expected le_rfl (by omega)
    have hone := hall _ hlost
    rw [h.ledger.covered, if_neg (fun hc => lt_irrefl _ hc.1)] at hone
    exact absurd hone (by decide)
  · intro hzero n hn
    have hlt := (h.ledger.lost n hn).1
    rw [h.ledger.covered, if_pos ⟨by omega, hn⟩]

/-- No data packet is in the current run of losses exactly when something came through from the
last data packet on. -/
lemma lostTail_countP_eq_zero {before after : List (Packet × Bool)} {d : Packet × Bool}
    (hd : d.1.isData = true) (hafter : ∀ f ∈ after, f.1.isData = false) :
    (lostTail (before ++ d :: after)).countP (fun f => f.1.isData) = 0 ↔
      ∃ f ∈ d :: after, f.2 = true := by
  have hrev : (before ++ d :: after).reverse = after.reverse ++ d :: before.reverse := by simp
  rw [lostTail, hrev, List.takeWhile_append]
  by_cases hall : ∀ f ∈ after, f.2 = false
  · -- nothing behind the last data packet came through: its own fate decides
    have htake : after.reverse.takeWhile (fun f => !f.2) = after.reverse :=
      List.takeWhile_eq_self_iff.mpr fun f hf => by simpa using hall f (List.mem_reverse.mp hf)
    rw [htake, if_pos rfl, List.countP_append, List.takeWhile_cons]
    have hzero : after.reverse.countP (fun f => f.1.isData) = 0 :=
      List.countP_eq_zero.mpr fun f hf => by simp [hafter f (List.mem_reverse.mp hf)]
    cases hb : d.2 with
    | false =>
      refine iff_of_false (by simp [hd]) (fun hsome => ?_)
      obtain ⟨f, hf, htrue⟩ := hsome
      rcases List.mem_cons.mp hf with rfl | hf
      · rw [hb] at htrue; cases htrue
      · rw [hall f hf] at htrue; cases htrue
    | true => simp [hzero, hb]
  · push Not at hall
    obtain ⟨f, hf, hb⟩ := hall
    have hstop : ¬(after.reverse.takeWhile fun f => !f.2).length = after.reverse.length := by
      intro hlen
      have hself := (List.takeWhile_sublist fun f : Packet × Bool => !f.2).eq_of_length hlen
      have := List.takeWhile_eq_self_iff.mp hself f (List.mem_reverse.mpr hf)
      exact hb (by simpa using this)
    rw [if_neg hstop]
    refine iff_of_true (List.countP_eq_zero.mpr fun g hg => ?_)
      ⟨f, List.mem_cons_of_mem _ hf, by simpa using hb⟩
    simp [hafter g (List.mem_reverse.mp ((List.takeWhile_sublist _).subset hg))]

/-! ## Whole runs -/

/-- **Tail losses are announced once one packet of the tail comes through.**  In a run with fewer
than 65536 data packets lost in a row, let `d` be the last data packet and drain the link.  The
dummies that followed `d` are as many as passed the sender, up to the count of the port; every
lost number has been announced exactly when `d` or one of them came through, so that a tail of
losses no longer than the count is always announced once the count is used up. -/
theorem tail_loss_announced (S : Setup) (es₁ es₂ : List Event) (hdr : Sender.Hdr) (q : BitVec 19)
    (r : BitVec 8) (s : State)
    (hrun : run (step S) (init S) (es₁ ++ .data hdr q r :: es₂) = some s)
    (hG : Along (step S) (LossBound 65536) (init S) (es₁ ++ .data hdr q r :: es₂))
    (hno : ∀ e ∈ es₂, e.isData = false) (hlink : s.link = []) :
    ∃ before d after, s.fates = before ++ d :: after ∧ d.1.isData = true ∧
      (∀ f ∈ after, f.1.isData = false) ∧
      after.length = min (es₂.countP Event.isDummy) S.maxDummies ∧
      ((∀ n ∈ lostIn s.fates, s.reports.countP (fun r => r.covers n) = 1) ↔
        ∃ f ∈ d :: after, f.2 = true) ∧
      (S.maxDummies ≤ es₂.countP Event.isDummy → (lostTail s.fates).length ≤ S.maxDummies →
        ∀ n ∈ lostIn s.fates, s.reports.countP (fun r => r.covers n) = 1) := by
  have hinv : Inv S s :=
    run_invariant_along (fun _ _ _ h hG hs => inv_step h hG hs) (inv_init S) hG hrun
  have hacc : Accounted s :=
    run_invariant (fun _ _ _ h hs => accounted_step h hs) (accounted_init S) hrun
  -- behind the last data packet the run is one of dummies, losses and arrivals
  have htrail : Trailing S (es₂.countP Event.isDummy) s := by
    obtain ⟨t, ht, hr⟩ := run_append_eq_some.mp hrun
    have hG' := (along_append ht).mp hG
    have hI : Inv S t :=
      run_invariant_along (fun _ _ _ h hG hs => inv_step h hG hs) (inv_init S) hG'.1 ht
    obtain ⟨u, hu, hr⟩ := run_cons_eq_some.mp hr
    have := trailing_run (inv_step hI hG'.2.1 hu) (trailing_data hI hu) hno (hG'.2.2 u hu) hr
    rwa [zero_add] at this
  obtain ⟨sent, d, after, hsent, hd, hafter, hlen⟩ := htrail.tail
  rw [hacc.sent, hlink, List.append_nil] at hsent
  obtain ⟨before, rest, hfates, rfl, hrest⟩ := List.map_eq_append_iff.mp hsent
  obtain ⟨d, after, rfl, rfl, rfl⟩ := List.map_eq_cons_iff.mp hrest
  have hafter' : ∀ f ∈ after, f.1.isData = false :=
    fun f hf => hafter f.1 (List.mem_map_of_mem hf)
  have hiff : (∀ n ∈ lostIn s.fates, s.reports.countP (fun r => r.covers n) = 1) ↔
      ∃ f ∈ d :: after, f.2 = true := by
    rw [hinv.announced_iff, hacc.lostRun, hfates, lostTail_countP_eq_zero hd hafter']
  rw [List.length_map] at hlen
  refine ⟨before, d, after, hfates, hd, hafter', hlen, hiff, fun hcount hshort => ?_⟩
  refine hiff.mpr (by_contra fun hnone => ?_)
  push Not at hnone
  -- otherwise the whole tail, one packet more than the count, is in the run of losses
  have hpre : (d :: after).reverse <+: lostTail s.fates := by
    rw [hfates, lostTail, List.reverse_append, List.takeWhile_append_of_pos]
    · exact List.prefix_append _ _
    · intro f hf
      simpa using hnone f (List.mem_reverse.mp hf)
  have := hpre.length_le
  rw [List.length_reverse, List.length_cons] at this
  omega

/-- A dummy in the loop of the sender, before its first pass. -/
def loopingDummy : Sender.Hdr :=
  { (default : Sender.Hdr) with
    linkradarData := .of { (default : LinkradarData) with dummy := 1 } }

/-- Two packets, of which the last is lost; four dummies pass behind it, and the second of those
on the link comes through. -/
def lastLostRun : List Event :=
  [.data default 0 0, .arrive] ++ .data default 0 0 ::
    [.lose, .dummy loopingDummy, .dummy loopingDummy, .lose, .dummy loopingDummy, .arrive,
      .dummy loopingDummy, .lose]

/-- Three of the four dummies are put on the link, and the loss is announced once. -/
theorem tail_loss_announced_last_lost : ∃ s, run (step link36) (init link36) lastLostRun = some s ∧
    s.fates.length = 5 ∧ 1 ∈ lostIn s.fates ∧ s.reports.countP (fun r => r.covers 1) = 1 := by
  have hrun : (run (step link36) (init link36) lastLostRun).any (fun s =>
      decide (s.link = []) && (decide (s.fates.length = 5) && (decide (1 ∈ lostIn s.fates) &&
        decide ((lostTail s.fates).length ≤ 3)))) := by
    decide +kernel
  obtain ⟨s, hs, hend⟩ := (Option.any_eq_true _ _).mp hrun
  simp only [Bool.and_eq_true, decide_eq_true_eq] at hend
  obtain ⟨hlink, hlen, hlost, htail⟩ := hend
  obtain ⟨-, -, -, -, -, -, -, -, hshort⟩ := tail_loss_announced link36
    [.data default 0 0, .arrive] _ default 0 0 s hs (by decide +kernel) (by decide) hlink
  exact ⟨s, hs, hlen, hlost, hshort (by decide) htail 1 hlost⟩

end Link

end LinkGuardian
