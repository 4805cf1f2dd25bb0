import LinkGuardian.Analysis.SenderTrace
import LinkGuardian.Library.IntervalWalk

/-!
# SACK accounting

`update_bytes_acked_sack` counts the bytes of the SACK blocks by their lengths less the overlaps of
neighbours, over the reversed list.  Its count is that of the distinct bytes when the walk through
the reversed list misses as many bytes as the blocks have below the cumulative ACK.

Nothing makes the blocks of an ACK ascend, and where they do not, the difference of two neighbours
is a gap as easily as an overlap.  The count can therefore be too small for blocks that have nothing
in common.
-/

namespace LinkGuardian.Analysis

open IntervalWalk

/-- A cumulative ACK with SACK blocks.  Numbers are relative: the
first byte of the payload has the number 1. -/
structure SackAck (tcpAckNo : ℤ) (blocks : List (ℤ × ℤ)) : Prop where
  one_le_ack : 1 ≤ tcpAckNo
  nonempty : blocks ≠ []
  one_le : ∀ b ∈ blocks, 1 ≤ b.1
  le : ∀ b ∈ blocks, b.1 ≤ b.2

/-- The payload bytes that are acknowledged; the payload begins with byte 1. -/
def ackedBytes (tcpAckNo : ℤ) (blocks : List (ℤ × ℤ)) : Finset ℤ :=
  interval (1, tcpAckNo) ∪ covered blocks

/-- The bytes that are acknowledged twice. -/
def ackedTwice (tcpAckNo : ℤ) (blocks : List (ℤ × ℤ)) : Finset ℤ :=
  (covered blocks).filter (· < tcpAckNo)

/-- The blocks on which the accounting is right: none above the ACK, or as many bytes missed
as acknowledged twice. -/
def Accounted (tcpAckNo : ℤ) (blocks : List (ℤ × ℤ)) : Prop :=
  (∀ b ∈ blocks, b.2 ≤ tcpAckNo) ∨ (ackedTwice tcpAckNo blocks).card = missed blocks.reverse

variable {tcpAckNo : ℤ} {blocks : List (ℤ × ℤ)}

/-! ## The count of the code -/

lemma subtractOverlap_eq {r r' : ℤ × ℤ} (hr : r.1 ≤ r.2) (hr' : r'.1 ≤ r'.2) (n : ℤ) :
    subtractOverlap n (r, r') = n - max 0 (r.2 - r'.1) := by
  simp only [subtractOverlap, max_eq_right hr, min_eq_left hr']
  split_ifs <;> omega

lemma foldl_subtractOverlap {rs : List (ℤ × ℤ)} (h : ∀ r ∈ rs, r.1 ≤ r.2) (n : ℤ) :
    (rs.zip rs.tail).foldl subtractOverlap n = n - overlaps rs := by
  change (neighbours rs).foldl subtractOverlap n = n - overlaps rs
  induction rs generalizing n with
  | nil => simp [neighbours, overlaps]
  | cons r rs ih =>
    cases rs with
    | nil => simp [neighbours, overlaps]
    | cons r' rs =>
      have hrest := ih fun q hq => h q (List.mem_cons_of_mem _ hq)
      rw [neighbours_cons_cons, List.foldl_cons, hrest, overlaps_cons_cons,
        subtractOverlap_eq (h r (by simp)) (h r' (by simp))]
      ring

lemma foldl_lengths (rs : List (ℤ × ℤ)) (n : ℤ) :
    rs.foldl (fun sackedBytes r => sackedBytes + (r.2 - r.1)) n = n + total rs := by
  induction rs generalizing n with
  | nil => simp [total]
  | cons r rs ih => rw [List.foldl_cons, ih, total_cons, add_assoc]

/-- With blocks above the ACK, the lengths are added up and the overlaps subtracted. -/
lemma computeSackedBytes_eq (h : SackAck tcpAckNo blocks) :
    computeSackedBytes tcpAckNo (blocks.map Prod.fst) (blocks.map Prod.snd) =
      some (if ∀ b ∈ blocks, b.2 ≤ tcpAckNo then 0
        else total blocks - overlaps blocks.reverse) := by
  have hne : blocks.map Prod.snd ≠ [] := by simpa using h.nonempty
  obtain ⟨maxSackRe, hmax⟩ := Option.isSome_iff_exists.mp (List.isSome_max?_of_ne_nil hne)
  have hall : tcpAckNo ≥ maxSackRe ↔ ∀ b ∈ blocks, b.2 ≤ tcpAckNo :=
    (List.max?_le_iff hmax).trans List.forall_mem_map
  have hzip : (blocks.map Prod.fst).zip (blocks.map Prod.snd) = blocks := by
    rw [List.zip_map', List.map_id']
  have hlengths := foldl_lengths blocks 0
  rw [zero_add] at hlengths
  have hoverlaps := foldl_subtractOverlap
    (fun r (hr : r ∈ blocks.reverse) => h.le r (List.mem_reverse.mp hr)) (total blocks)
  simp only [computeSackedBytes, hmax, hzip, hlengths, hoverlaps, hall, Option.bind_eq_bind,
    Option.bind_some, Option.pure_def]
  by_cases hbelow : ∀ b ∈ blocks, b.2 ≤ tcpAckNo
  · rw [if_pos hbelow, if_pos hbelow]
  · rw [if_neg hbelow, if_neg hbelow]
    split_ifs with hlength
    · rfl
    · -- a single block has no neighbours
      obtain ⟨b, rfl⟩ := List.length_eq_one_iff.mp
        (le_antisymm (not_lt.mp hlength) (List.length_pos_iff.mpr h.nonempty))
      simp

/-! ## The distinct bytes -/

lemma card_ackedBytes (h : SackAck tcpAckNo blocks) :
    ((ackedBytes tcpAckNo blocks).card : ℤ) + (ackedTwice tcpAckNo blocks).card =
      tcpAckNo - 1 + (covered blocks).card := by
  have hinter : interval (1, tcpAckNo) ∩ covered blocks = ackedTwice tcpAckNo blocks := by
    ext x
    simp only [ackedTwice, Finset.mem_inter, mem_interval, Finset.mem_filter]
    constructor
    · rintro ⟨⟨-, hlt⟩, hx⟩
      exact ⟨hx, hlt⟩
    · rintro ⟨hx, hlt⟩
      obtain ⟨b, hb, hin⟩ := mem_covered.mp hx
      exact ⟨⟨(h.one_le b hb).trans hin.1, hlt⟩, hx⟩
  have hcard := Finset.card_union_add_card_inter (interval (1, tcpAckNo)) (covered blocks)
  rw [hinter, card_interval] at hcard
  have hack := h.one_le_ack
  rw [ackedBytes]
  omega

lemma ackedBytes_of_below (h : SackAck tcpAckNo blocks)
    (hbelow : ∀ b ∈ blocks, b.2 ≤ tcpAckNo) :
    ((ackedBytes tcpAckNo blocks).card : ℤ) = tcpAckNo - 1 := by
  have htwice : ackedTwice tcpAckNo blocks = covered blocks := by
    refine Finset.filter_true_of_mem fun x hx => ?_
    obtain ⟨b, hb, hin⟩ := mem_covered.mp hx
    exact hin.2.trans_le (hbelow b hb)
  have hcard := card_ackedBytes h
  rw [htwice] at hcard
  omega

/-- The count of the code is the number of distinct bytes exactly on such blocks. -/
lemma accounted_iff (h : SackAck tcpAckNo blocks) :
    tcpAckNo - 1 + (if ∀ b ∈ blocks, b.2 ≤ tcpAckNo then 0
        else total blocks - overlaps blocks.reverse) = ((ackedBytes tcpAckNo blocks).card : ℤ) ↔
      Accounted tcpAckNo blocks := by
  have hcard := card_ackedBytes h
  have hwalk := total_sub_overlaps fun r hr => h.le r (List.mem_reverse.mp hr)
  rw [total_reverse, covered_reverse] at hwalk
  rw [Accounted]
  split_ifs with hbelow
  · exact iff_of_true (by rw [ackedBytes_of_below h hbelow, add_zero]) (.inl hbelow)
  · simp only [hbelow, false_or]
    omega

/-- With all blocks above the ACK, nothing may be missed. -/
lemma accounted_iff_staircase (habove : ∀ b ∈ blocks, tcpAckNo ≤ b.1) :
    Accounted tcpAckNo blocks ↔ (∀ b ∈ blocks, b.2 ≤ tcpAckNo) ∨ Staircase blocks.reverse := by
  have htwice : ackedTwice tcpAckNo blocks = ∅ := by
    refine Finset.filter_false_of_mem fun x hx => ?_
    obtain ⟨b, hb, hin⟩ := mem_covered.mp hx
    exact not_lt.mpr ((habove b hb).trans hin.1)
  rw [Accounted, htwice, Finset.card_empty, eq_comm (a := 0), missed_eq_zero]

/-- Blocks above the ACK whose ends both descend are accounted. -/
lemma accounted_of_descending (habove : ∀ b ∈ blocks, tcpAckNo ≤ b.1)
    (h : blocks.Pairwise fun b b' => b'.1 ≤ b.1 ∧ b'.2 ≤ b.2) : Accounted tcpAckNo blocks :=
  (accounted_iff_staircase habove).mpr
    (.inr (staircase_of_ascending (List.pairwise_reverse.mpr h)))

/-! ## The flow after the ACK -/

variable {flows : CurrTrackedFlows} {flowId : ℤ} {flow : Flow}

/-- **When `bytes_acked` counts distinct bytes.**  The neighbours in the reversed list may overlap
only where some block has the bytes, and the blocks below the ACK are counted again. -/
theorem bytes_acked_sack_iff (hflow : flows flowId = some flow) (h : SackAck tcpAckNo blocks) :
    ∃ flow', updateBytesAckedSack flows flowId tcpAckNo (blocks.map Prod.fst)
        (blocks.map Prod.snd) = some (Function.update flows flowId (some flow')) ∧
      (flow'.bytesAcked = (ackedBytes tcpAckNo blocks).card ↔ Accounted tcpAckNo blocks) ∧
      ((∀ b ∈ blocks, tcpAckNo ≤ b.1) →
        (flow'.bytesAcked = (ackedBytes tcpAckNo blocks).card ↔
          (∀ b ∈ blocks, b.2 ≤ tcpAckNo) ∨ Staircase blocks.reverse)) := by
  have hiff := accounted_iff h
  refine ⟨_, updateBytesAckedSack_eq hflow (computeSackedBytes_eq h), ?_, fun habove => ?_⟩
  · rwa [Flow.updateMaxBif_bytesAcked]
  · rw [← accounted_iff_staircase habove]
    rwa [Flow.updateMaxBif_bytesAcked]

/-- The most recent blocks are the highest: bytes 1 to 9, and 20 in the blocks. -/
theorem bytes_acked_sack_two_blocks :
    ∃ flow', updateBytesAckedSack (Function.update (fun _ => none) 5000 (some {})) 5000 10
        [40, 20] [50, 30] =
        some (Function.update (Function.update (fun _ => none) 5000 (some {})) 5000 (some flow')) ∧
      flow'.bytesAcked = 29 := by
  have hflow : (Function.update (fun _ => none) 5000 (some {}) : CurrTrackedFlows) 5000 =
      some {} := Function.update_self ..
  have hack : SackAck 10 [(40, 50), (20, 30)] :=
    ⟨by decide, by decide, by decide, by decide⟩
  have hcard : (ackedBytes 10 [(40, 50), (20, 30)]).card = 29 := by decide +kernel
  obtain ⟨flow', hupdate, hiff, -⟩ := bytes_acked_sack_iff hflow hack
  refine ⟨flow', hupdate, ?_⟩
  rw [hiff.mpr (accounted_of_descending (by decide) (by decide)), hcard]
  rfl

/-- With the lower block the more recent one, its distance to the other block comes off. -/
theorem bytes_acked_sack_lower_block_last :
    ∃ flow', updateBytesAckedSack (Function.update (fun _ => none) 5000 (some {})) 5000 10
        [20, 40] [30, 50] =
        some (Function.update (Function.update (fun _ => none) 5000 (some {})) 5000 (some flow')) ∧
      flow'.bytesAcked = -1 ∧ (ackedBytes 10 [(20, 30), (40, 50)]).card = 29 := by
  have hflow : (Function.update (fun _ => none) 5000 (some {}) : CurrTrackedFlows) 5000 =
      some {} := Function.update_self ..
  have hsacked : computeSackedBytes 10 [20, 40] [30, 50] = some (-10) := by decide
  refine ⟨_, updateBytesAckedSack_eq hflow hsacked, ?_, by decide +kernel⟩
  rw [Flow.updateMaxBif_bytesAcked]
  rfl

/-- On such blocks a flow is complete when the distinct bytes are all that was sent. -/
theorem flushed_iff_of_accounted (args : Args) {t : Trace}
    (hflow : t.currTrackedFlows flowId = some flow) (pktTime : ℚ) {tcpHdrLen : ℤ}
    (hlen : tcpHdrLen ≥ 32) (h : SackAck tcpAckNo blocks) (hblocks : Accounted tcpAckNo blocks) :
    ∃ t', processAck args t flowId pktTime tcpHdrLen tcpAckNo
        (some (blocks.map Prod.fst, blocks.map Prod.snd)) = some t' ∧
      (t'.currTrackedFlows flowId = none ↔
        flow.senderFinSent = true ∧ flow.bytesSent ≤ (ackedBytes tcpAckNo blocks).card) := by
  rw [← (accounted_iff h).mpr hblocks]
  exact processAck_sack args hflow pktTime hlen (computeSackedBytes_eq h)

end LinkGuardian.Analysis
