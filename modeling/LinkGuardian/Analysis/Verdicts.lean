import LinkGuardian.Analysis.AffectedFlows
import LinkGuardian.Analysis.SenderRows

/-!
# Which flows are marked as affected

A row of the output is marked by what the sender saw of the flow and by the file of affected flows,
from which a flow is crossed out when a row asks for it.  From the packets that were lost to the
rows: the first row that asks for a flow that lost data is marked, and so is every flow that the
sender saw affected once all that lost data have been asked for.

`Ledger` is the invariant: what is left of the list are the flows that no row has asked for yet.  A
flow may be listed more than once, so the account is kept in numbers.
-/

namespace LinkGuardian.Analysis

/-- The list is looked up for this row. -/
def OutputRow.Asks (args : Args) (r : OutputRow) : Prop :=
  r.flow.affected = 1 ∨ (r.flow.affected = 0 ∧ args.evaluation = true)

instance (args : Args) (r : OutputRow) : Decidable (r.Asks args) :=
  inferInstanceAs (Decidable (_ ∨ _))

/-- The number of rows that asked for a flow. -/
def asked (args : Args) (out : List OutputRow) (flowId : ℤ) : ℕ :=
  out.countP fun r => r.flowId = flowId ∧ r.Asks args

variable {args : Args} {t t' : Trace} {flowId : ℤ} {flow : Flow}

lemma verdict_removes :
    (t.verdict args flowId flow).2 = true ↔
      flowId ∈ t.affectedFlows ∧ (t.outputRow args flowId flow).Asks args := by
  simp only [Trace.verdict, OutputRow.Asks, Trace.outputRow]
  split_ifs <;> grind

lemma verdict_eq_one :
    (t.verdict args flowId flow).1 = 1 ↔
      flowId ∈ t.affectedFlows ∧ (t.outputRow args flowId flow).Asks args ∨
        flow.affected = 1 ∧ t.affectedFlows = [] := by
  simp only [Trace.verdict, OutputRow.Asks, Trace.outputRow]
  split_ifs <;> grind

lemma verdict_of_ne_one (h : (t.verdict args flowId flow).1 ≠ 1) :
    (flow.affected = 1 → (t.verdict args flowId flow).1 = 2) ∧
      (flow.affected = 0 → (t.verdict args flowId flow).1 = 0) := by
  revert h
  simp only [Trace.verdict]
  split_ifs <;> grind

/-- What is listed, and what the rows say. -/
structure Ledger (args : Args) (listed consecutive : List ℤ) (t : Trace) : Prop where
  unchanged : t.affectedFlowsConsecutiveLoss = consecutive
  count : ∀ f, t.affectedFlows.count f = listed.count f - asked args t.out f
  affected : ∀ pre r post, t.out = pre ++ r :: post → (r.affected = 1 ↔
    r.Asks args ∧ asked args pre r.flowId < listed.count r.flowId ∨
      r.flow.affected = 1 ∧ ∀ f, listed.count f ≤ asked args pre f)
  unmarked : ∀ r ∈ t.out, r.affected ≠ 1 →
    (r.flow.affected = 1 → r.affected = 2) ∧ (r.flow.affected = 0 → r.affected = 0)
  consecutiveLoss : ∀ r ∈ t.out,
    (r.consecutiveLoss = 1 ↔ r.affected = 1 ∧ r.flowId ∈ consecutive)

lemma ledger_start (args : Args) (listed consecutive : List ℤ) :
    Ledger args listed consecutive (.start listed consecutive) :=
  ⟨rfl, fun _ => rfl, by simp [Trace.start], by simp [Trace.start], by simp [Trace.start]⟩

/-- **Step lemma**: a row is marked by what is left of the list. -/
lemma Ledger.moves {listed consecutive : List ℤ} {k : Track}
    (h : Ledger args listed consecutive t) (hmoves : t.Moves args t' flowId k) :
    Ledger args listed consecutive t' := by
  have hcons := hmoves.consecutive.trans h.unchanged
  -- most rows of the trace write nothing
  rcases hmoves.files with ⟨hleft, hout⟩ | ⟨flow, hout, hleft⟩
  · refine ⟨hcons, ?_, ?_, ?_, ?_⟩
    · rw [hleft, hout]
      exact h.count
    · rw [hout]
      exact h.affected
    · rw [hout]
      exact h.unmarked
    · rw [hout]
      exact h.consecutiveLoss
  · obtain ⟨r, hr⟩ : ∃ r, r = t.outputRow args flowId flow := ⟨_, rfl⟩
    rw [← hr] at hout
    have hid : r.flowId = flowId := by rw [hr, Trace.outputRow]
    refine ⟨hcons, fun f => ?_, fun pre r' post hsplit => ?_, fun r' hr' => ?_, fun r' hr' => ?_⟩
    · have hcount := h.count f
      have hasked : asked args (t.out ++ [r]) f =
          asked args t.out f + if flowId = f ∧ r.Asks args then 1 else 0 := by
        simp [asked, List.countP_append, List.countP_singleton, hid]
      rw [hleft, hout, hasked]
      -- a row that asks takes one entry of its flow out, if there is one left
      by_cases hremoves : (t.verdict args flowId flow).2 = true
      · have hasks : r.Asks args := hr ▸ (verdict_removes.mp hremoves).2
        rw [if_pos hremoves, List.count_erase, hcount]
        simp only [hasks, and_true, beq_iff_eq]
        exact Nat.sub_sub _ _ _
      · rw [if_neg hremoves, hcount]
        split_ifs with hown
        · -- the flow that was asked for is not listed any more
          have hnot : flowId ∉ t.affectedFlows := fun hmem =>
            hremoves (verdict_removes.mpr ⟨hmem, hr ▸ hown.2⟩)
          have hzero := List.count_eq_zero.mpr hnot
          rw [h.count, hown.1] at hzero
          omega
        · rfl
    · rw [hout] at hsplit
      -- the verdict of the row just written; those before it are as they were
      rcases List.eq_nil_or_concat post with rfl | ⟨post, last, rfl⟩
      · obtain ⟨rfl, hlast⟩ := List.append_inj' hsplit rfl
        obtain rfl := List.singleton_inj.mp hlast
        have hlisted : flowId ∈ t.affectedFlows ↔
            asked args t.out flowId < listed.count flowId := by
          rw [← List.count_pos_iff, h.count, Nat.sub_pos_iff_lt]
        have hnil : t.affectedFlows = [] ↔ ∀ f, listed.count f ≤ asked args t.out f := by
          rw [List.eq_nil_iff_forall_not_mem]
          refine forall_congr' fun f => ?_
          rw [← List.count_eq_zero, h.count, Nat.sub_eq_zero_iff_le]
        rw [hid, ← hlisted, ← hnil, and_comm, hr]
        exact verdict_eq_one
      · rw [List.concat_eq_append, ← List.cons_append, ← List.append_assoc] at hsplit
        exact h.affected pre r' post (List.append_inj' hsplit rfl).1
    · rw [hout] at hr'
      rcases List.mem_append.mp hr' with hr' | hr'
      · exact h.unmarked r' hr'
      · rw [List.mem_singleton.mp hr', hr]
        exact verdict_of_ne_one
    · rw [hout] at hr'
      rcases List.mem_append.mp hr' with hr' | hr'
      · exact h.consecutiveLoss r' hr'
      · rw [List.mem_singleton.mp hr', hr, ← h.unchanged]
        simp [Trace.outputRow]

/-- **Run lemma.**  Every row of the trace keeps the ledger, whether it writes or not. -/
lemma processRows_ledger {listed consecutive : List ℤ} {rows : List Pkt} {p p' : Processing}
    (hsack : ∀ row ∈ rows, row.CarriesSack) (h : Ledger args listed consecutive p.trace)
    (hrun : processRows args p rows = some p') : Ledger args listed consecutive p'.trace := by
  refine Loop.preserve (P := fun p : Processing => Ledger args listed consecutive p.trace) h
    (fun row hrow q q' hq hstep => ?_) hrun
  obtain ⟨q₁, hq₁, hmoves⟩ := processRow_moves args q (hsack row hrow)
  obtain rfl := Option.some_inj.mp (hq₁.symm.trans hstep)
  exact hq.moves hmoves

/-! ## From the packets that were lost to the rows -/

/-- The flow lost data. -/
def LosesData (lost : List LostPkt) (f : ℤ) : Prop := ∃ row ∈ lost, row.flowId = f ∧ row.IsData

lemma asked_eq_zero {out : List OutputRow} {f : ℤ} :
    asked args out f = 0 ↔ ∀ r ∈ out, r.flowId = f → ¬ r.Asks args := by
  simp [asked, List.countP_eq_zero]

/-- **The rows that are marked.**  With the file of the packets that were lost, a row is marked as
affected exactly when it is the first to ask for a flow that lost data, or the sender saw its flow
affected and all flows that lost data have been asked for.  The flows that are left are those that
lost data and that no row has asked for. -/
theorem marked_flows (args : Args) (lost : List LostPkt) (rows : List Pkt)
    (hsack : ∀ row ∈ rows, row.CarriesSack) :
    ∃ loaded p, loadAffectedFlows args.mssBytes (affectedFlowsFile lost) = some loaded ∧
      processRows args
        ⟨.start loaded.affectedFlows loaded.affectedFlowsConsecutiveLoss, none⟩ rows = some p ∧
      (∀ f, f ∈ p.trace.affectedFlows ↔
        LosesData lost f ∧ ∀ r ∈ p.trace.out, r.flowId = f → ¬ r.Asks args) ∧
      (∀ pre r post, p.trace.out = pre ++ r :: post → (r.affected = 1 ↔
        r.Asks args ∧ LosesData lost r.flowId ∧
            (∀ r' ∈ pre, r'.flowId = r.flowId → ¬ r'.Asks args) ∨
          r.flow.affected = 1 ∧
            ∀ f, LosesData lost f → ∃ r' ∈ pre, r'.flowId = f ∧ r'.Asks args)) ∧
      ∀ r ∈ p.trace.out, (r.affected ≠ 1 → r.flow.affected = 1 → r.affected = 2) ∧
        (r.consecutiveLoss = 1 ↔
          r.affected = 1 ∧ r.flowId ∈ loaded.affectedFlowsConsecutiveLoss) := by
  obtain ⟨loaded, hload, haffected, -⟩ := exists_loadAffectedFlows args.mssBytes lost
    fun e he => (of_mem_flushedFlows he).pktCount
  obtain ⟨p, hp, -⟩ := processRows_track args hsack
    ⟨.start loaded.affectedFlows loaded.affectedFlowsConsecutiveLoss, none⟩
  have hledger := processRows_ledger hsack (ledger_start args _ _) hp
  have hnodup : loaded.affectedFlows.Nodup := haffected ▸ nodup_map_losesData lost
  have hmem : ∀ f, f ∈ loaded.affectedFlows ↔ LosesData lost f := fun f =>
    haffected ▸ mem_map_losesData_iff
  have hcount : ∀ f n, n < loaded.affectedFlows.count f ↔ LosesData lost f ∧ n = 0 := by
    intro f n
    rw [hnodup.count, ← hmem]
    split_ifs with h <;> simp [h]
  refine ⟨loaded, p, hload, hp, fun f => ?_, fun pre r post hsplit => ?_, fun r hr => ⟨?_, ?_⟩⟩
  · rw [← List.count_pos_iff, hledger.count, Nat.sub_pos_iff_lt, hcount, asked_eq_zero]
  · rw [hledger.affected pre r post hsplit, hcount, asked_eq_zero]
    refine or_congr Iff.rfl (and_congr_right fun _ => forall_congr' fun f => ?_)
    rw [← not_lt, hcount, asked_eq_zero, not_and]
    simp
  · exact fun hne => (hledger.unmarked r hr hne).1
  · exact hledger.consecutiveLoss r hr

/-- Port 5001 lost data, and its row is marked; port 5003 did too, and is left. -/
theorem marked_flows_two_flows : ∃ loaded p,
    loadAffectedFlows twoFlowsArgs.mssBytes
      (affectedFlowsFile [.of 5001 0 1 540 461, .of 5003 0 1 540 7]) = some loaded ∧
      processRows twoFlowsArgs
        ⟨.start loaded.affectedFlows loaded.affectedFlowsConsecutiveLoss, none⟩ twoFlows = some p ∧
      (p.trace.out.map OutputRow.affected = [1] ∧ p.trace.affectedFlows = [5003]) ∧
      LosesData [.of 5001 0 1 540 461, .of 5003 0 1 540 7] 5003 := by
  have heval : ((loadAffectedFlows twoFlowsArgs.mssBytes
      (affectedFlowsFile [.of 5001 0 1 540 461, .of 5003 0 1 540 7])).any fun loaded =>
      (processRows twoFlowsArgs ⟨.start loaded.affectedFlows loaded.affectedFlowsConsecutiveLoss,
        none⟩ twoFlows).any fun p =>
        p.trace.out.map OutputRow.affected = [1] ∧ p.trace.affectedFlows = [5003]) = true := by
    decide +kernel
  obtain ⟨loaded, p, hload, hp, hleft, -⟩ := marked_flows twoFlowsArgs
    [.of 5001 0 1 540 461, .of 5003 0 1 540 7] twoFlows (by decide +kernel)
  rw [hload, Option.any_some, hp, Option.any_some, decide_eq_true_iff] at heval
  refine ⟨loaded, p, hload, hp, heval, ((hleft 5003).mp ?_).1⟩
  rw [heval.2]
  exact List.mem_cons_self

end LinkGuardian.Analysis
