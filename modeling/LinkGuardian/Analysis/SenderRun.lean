import LinkGuardian.Analysis.SenderRows
import LinkGuardian.Library.IntervalWalk

/-!
# The flows that are written

The packets of one port fall into the lives of the flows that used it: a life starts at a SYN and
ends with the packet that completes it.  What is written of a flow comes from its own life, and says
how many bytes of payload there are, whether some were sent twice, and how many were in flight at
most.
-/

namespace LinkGuardian.Analysis

open IntervalWalk

/-! ## The counts of a flow -/

/-- The columns of a flow without its times.  None of them depends on when the packets came, only on
their order. -/
structure Counts where
  bytesSent : ℤ := 0
  bytesAcked : ℤ := 0
  senderFinSent : Bool := false
  affected : ℕ := 0
  reTx : ℕ := 0
  maxBif : ℤ := -1

def Flow.counts (flow : Flow) : Counts where
  bytesSent := flow.bytesSent
  bytesAcked := flow.bytesAcked
  senderFinSent := flow.senderFinSent
  affected := flow.affected
  reTx := flow.reTx
  maxBif := flow.maxBif

namespace Pkt

variable (row : Pkt)

/-- Packets with payload that are taken for data. -/
def sends : Prop := row.kind = .data ∨ (row.kind = .finAck ∧ row.tcpPayloadLen > 0)

instance : Decidable row.sends := inferInstanceAs (Decidable (_ ∨ _))

/-- The payload bytes of the packet. -/
def segment : ℤ × ℤ := (row.tcpSeqNo, row.tcpSeqNo + row.tcpPayloadLen)

def acknowledges : Prop := row.kind = .ack ∨ row.kind = .receiverFinAck

instance : Decidable row.acknowledges := inferInstanceAs (Decidable (_ ∨ _))

lemma not_acknowledges_of_sends (h : row.sends) : ¬ row.acknowledges := by
  rcases h with h | ⟨h, -⟩ <;> simp [acknowledges, h]

/-- The bytes that the packet acknowledges. -/
def ackedCount : ℤ :=
  row.tcpAckNo - 1 + if row.kind = .ack ∧ row.tcpHdrLen ≥ 32 then row.sackedBytes else 0

end Pkt

namespace Counts

/-- The bytes in flight. -/
def inFlight (c : Counts) : ℤ := c.bytesSent - c.bytesAcked

def watch (c : Counts) : Counts := { c with maxBif := max c.maxBif c.inFlight }

def send (c : Counts) (s : ℤ × ℤ) : Counts :=
  if s.2 - 1 ≤ c.bytesSent then { c with affected := 1, reTx := 1 }
  else { c with bytesSent := c.bytesSent + (s.2 - s.1) }.watch

def after (c : Counts) (row : Pkt) : Counts :=
  let c := if row.kind = .finAck then { c with senderFinSent := true } else c
  if row.sends then c.send row.segment
  else if row.acknowledges then { c with bytesAcked := row.ackedCount }.watch
  else c

end Counts

@[simp] lemma counts_recordFirstAck (pktTime : ℚ) (flow : Flow) :
    (flow.recordFirstAck pktTime).counts = flow.counts := by
  simp only [Flow.recordFirstAck]
  split_ifs <;> rfl

@[simp] lemma counts_recordLastAck (args : Args) (pktTime : ℚ) (flow : Flow) :
    (flow.recordLastAck args pktTime).counts = flow.counts := by
  simp only [Flow.recordLastAck]
  split_ifs <;> rfl

@[simp] lemma counts_recordTailLoss (args : Args) (tcpHdrLen tcpAckNo : ℤ) (flow : Flow) :
    (flow.recordTailLoss args tcpHdrLen tcpAckNo).counts = flow.counts := by
  simp only [Flow.recordTailLoss]
  split_ifs <;> rfl

@[simp] lemma counts_recordFirstData (pktTime : ℚ) (flow : Flow) :
    (flow.recordFirstData pktTime).counts = flow.counts := by
  simp only [Flow.recordFirstData]
  split_ifs <;> rfl

@[simp] lemma counts_updateMaxBif (flow : Flow) : flow.updateMaxBif.counts = flow.counts.watch := by
  simp only [Flow.updateMaxBif]
  split_ifs with h
  · simp [Flow.counts, Counts.watch, Counts.inFlight, max_eq_right (le_of_lt h)]
  · simp [Flow.counts, Counts.watch, Counts.inFlight, max_eq_left (not_lt.mp h)]

lemma counts_sendPayload (row : Pkt) (flow : Flow) :
    (flow.sendPayload row).counts = flow.counts.send row.segment := by
  have hlen : row.segment.2 - row.segment.1 = row.tcpPayloadLen := by simp [Pkt.segment]
  by_cases hresent : row.tcpSeqNo + row.tcpPayloadLen - 1 ≤ flow.bytesSent
  · have hsegment : row.segment.2 - 1 ≤ flow.counts.bytesSent := hresent
    simp only [Flow.sendPayload, if_pos hresent, Counts.send, if_pos hsegment]
    rfl
  · have hsegment : ¬ row.segment.2 - 1 ≤ flow.counts.bytesSent := hresent
    simp only [Flow.sendPayload, if_neg hresent, Counts.send, if_neg hsegment, hlen]
    exact counts_updateMaxBif { flow with bytesSent := flow.bytesSent + row.tcpPayloadLen }

lemma counts_receiveAck (args : Args) {row : Pkt} (hrow : row.kind = .ack) (flow : Flow) :
    (flow.receiveAck args row).counts =
      { flow.counts with bytesAcked := row.ackedCount }.watch := by
  have hfirst := counts_recordFirstAck row.pktTime flow
  by_cases hlen : row.tcpHdrLen ≥ 32
  · have hcount : row.ackedCount = row.tcpAckNo - 1 + row.sackedBytes := by
      simp [Pkt.ackedCount, hrow, hlen]
    simp only [Flow.receiveAck, if_pos hlen, counts_recordTailLoss, counts_recordLastAck,
      counts_updateMaxBif, hcount, ← hfirst]
    rfl
  · have hcount : row.ackedCount = row.tcpAckNo - 1 := by simp [Pkt.ackedCount, hlen]
    simp only [Flow.receiveAck, if_neg hlen, counts_recordTailLoss, counts_recordLastAck,
      counts_updateMaxBif, hcount, ← hfirst]
    rfl

/-- **The counts follow the packets**, whatever the times are. -/
lemma counts_after (args : Args) (flow : Flow) (row : Pkt) :
    (flow.after args row).counts = flow.counts.after row := by
  cases hrow : row.kind with
  | syn | other => simp [Flow.after, Counts.after, Pkt.sends, Pkt.acknowledges, hrow]
  | finAck =>
    by_cases hlen : row.tcpPayloadLen > 0
    · have hsend := counts_sendPayload row { flow with senderFinSent := true }
      have hfin : { flow with senderFinSent := true }.counts =
        { flow.counts with senderFinSent := true } := rfl
      rw [hfin] at hsend
      simpa [Flow.after, Counts.after, Pkt.sends, hrow, hlen] using hsend
    · simp [Flow.after, Counts.after, Pkt.sends, Pkt.acknowledges, hrow, hlen, Flow.counts]
  | data =>
    have hsend := counts_sendPayload row (flow.recordFirstData row.pktTime)
    rw [counts_recordFirstData] at hsend
    simpa [Flow.after, Counts.after, Pkt.sends, hrow] using hsend
  | ack =>
    have hack := counts_receiveAck args hrow flow
    simpa [Flow.after, Counts.after, Pkt.sends, Pkt.acknowledges, hrow] using hack
  | receiverFinAck =>
    have hcount : row.ackedCount = row.tcpAckNo - 1 := by simp [Pkt.ackedCount, hrow]
    have hafter : (flow.after args row).counts =
        { flow with bytesAcked := row.ackedCount }.updateMaxBif.counts := by
      simp only [Flow.after, hrow, hcount]
      rfl
    rw [hafter, counts_updateMaxBif]
    simp [Counts.after, Pkt.sends, Pkt.acknowledges, hrow, Flow.counts]

lemma counts_foldl_after (args : Args) (body : List Pkt) (flow : Flow) :
    (body.foldl (Flow.after args) flow).counts = body.foldl Counts.after flow.counts := by
  induction body generalizing flow with
  | nil => rfl
  | cons row body ih => rw [List.foldl_cons, List.foldl_cons, ih, counts_after]

/-! ## Lives -/

/-- A flow from before its SYN: packets that it ignores, the SYN, and the rest. -/
structure Life where
  idle : List Pkt
  syn : Pkt
  body : List Pkt

namespace Life

variable (l : Life)

def rows : List Pkt := l.idle ++ l.syn :: l.body

/-- What the packets after the SYN make of the flow. -/
def flow (args : Args) : Flow := l.body.foldl (Flow.after args) {}

/-- The flow starts at its SYN. -/
structure Proper : Prop where
  idle : ∀ row ∈ l.idle, row.kind ≠ .syn
  syn : l.syn.kind = .syn

/-- The flow with one more packet. -/
def receive (row : Pkt) : Life := { l with body := l.body ++ [row] }

variable {l}

lemma rows_receive (row : Pkt) : (l.receive row).rows = l.rows ++ [row] := by
  simp [rows, receive]

lemma flow_receive (args : Args) (row : Pkt) :
    (l.receive row).flow args = (l.flow args).after args row := by
  simp [flow, receive]

end Life

/-- The packets are the lives of the flows that were written, and of one that is tracked.  The
packets before a SYN belong to the life that it starts, so that the lives cover all of them. -/
structure Split (args : Args) (rows : List Pkt) (k : Track) (lives : List Life)
    (rest : List Pkt) : Prop where
  rows : rows = lives.flatMap Life.rows ++ rest
  ended : ∀ l ∈ lives, l.Proper ∧ (l.flow args).isComplete
  written : k.written = lives.map fun l => l.flow args
  untracked : k.current = none → ∀ row ∈ rest, row.kind ≠ .syn
  tracked : ∀ flow, k.current = some flow →
    ∃ l : Life, l.Proper ∧ l.flow args = flow ∧ rest = l.rows

/-- **Step lemma**: a packet goes to the life that is on, ends it, or starts one. -/
lemma split_next {args : Args} {rows rest : List Pkt} {k : Track} {lives : List Life}
    (h : Split args rows k lives rest) (row : Pkt) :
    ∃ lives' rest', Split args (rows ++ [row]) (k.next args row) lives' rest' := by
  have hrows : rows ++ [row] = lives.flatMap Life.rows ++ (rest ++ [row]) := by
    rw [h.rows, List.append_assoc]
  cases hcur : k.current with
  | none =>
    by_cases hrow : row.kind = .syn
    · refine ⟨lives, rest ++ [row], hrows, h.ended, ?_, ?_, ?_⟩
      · simpa [Track.next, hcur, hrow] using h.written
      · simp [Track.next, hcur, hrow]
      · intro flow hflow
        have heq : {} = flow := by simpa [Track.next, hcur, hrow] using hflow
        exact ⟨⟨rest, row, []⟩, ⟨h.untracked hcur, hrow⟩, heq, rfl⟩
    · rw [Track.next_of_none hcur hrow]
      refine ⟨lives, rest ++ [row], hrows, h.ended, h.written, fun _ r hr => ?_, ?_⟩
      · rcases List.mem_append.mp hr with hr | hr
        · exact h.untracked hcur r hr
        · rwa [List.mem_singleton.mp hr]
      · simp [hcur]
  | some flow =>
    obtain ⟨l, hl, rfl, hrest⟩ := h.tracked flow hcur
    have hproper : (l.receive row).Proper := ⟨hl.idle, hl.syn⟩
    -- the packet that completes the flow still belongs to its life
    by_cases hend : row.mayEnd ∧ ((l.flow args).after args row).isComplete
    · refine ⟨lives ++ [l.receive row], [], ?_, ?_, ?_, ?_, ?_⟩
      · rw [hrows, hrest, List.flatMap_append, List.flatMap_singleton, Life.rows_receive,
          List.append_nil]
      · intro l' hl'
        rcases List.mem_append.mp hl' with hl' | hl'
        · exact h.ended l' hl'
        · rw [List.mem_singleton.mp hl', Life.flow_receive]
          exact ⟨hproper, hend.2⟩
      · simp [Track.next, hcur, hend, h.written, Life.flow_receive]
      · simp
      · simp [Track.next, hcur, hend]
    · refine ⟨lives, rest ++ [row], hrows, h.ended, ?_, ?_, ?_⟩
      · simpa [Track.next, hcur, hend] using h.written
      · simp [Track.next, hcur, hend]
      · intro flow hflow
        have heq : (l.flow args).after args row = flow := by
          simpa [Track.next, hcur, hend] using hflow
        exact ⟨l.receive row, hproper, by rw [Life.flow_receive, heq], by
          rw [hrest, Life.rows_receive]⟩

lemma exists_split (args : Args) (rows : List Pkt) :
    ∃ lives rest, Split args rows (rows.foldl (Track.next args) {}) lives rest := by
  induction rows using List.reverseRecOn with
  | nil => exact ⟨[], [], rfl, by simp, rfl, by simp, by simp⟩
  | append_singleton rows row ih =>
    obtain ⟨lives, rest, h⟩ := ih
    rw [List.foldl_concat]
    exact split_next h row

/-! ## The counts of a life -/

/-- The payload that was sent, packet by packet. -/
def segments (body : List Pkt) : List (ℤ × ℤ) := (body.filter Pkt.sends).map Pkt.segment

/-- Each packet repeats payload that was sent, or goes on with the byte after it. -/
def InStream (segs : List (ℤ × ℤ)) : Prop :=
  ∀ pre s post, segs = pre ++ s :: post → 1 ≤ s.1 ∧ s.1 < s.2 ∧
    (interval s ⊆ covered pre ∨ s.1 = (covered pre).card + 1)

/-- Some packet repeats payload that was sent. -/
def Resent (segs : List (ℤ × ℤ)) : Prop :=
  ∃ pre s post, segs = pre ++ s :: post ∧ interval s ⊆ covered pre

variable {segs : List (ℤ × ℤ)} {s : ℤ × ℤ}

lemma InStream.init (h : InStream (segs ++ [s])) : InStream segs := by
  intro pre q post heq
  exact h pre q (post ++ [s]) (by simp [heq])

lemma InStream.last (h : InStream (segs ++ [s])) : 1 ≤ s.1 ∧ s.1 < s.2 ∧
    (interval s ⊆ covered segs ∨ s.1 = (covered segs).card + 1) :=
  h segs s [] rfl

lemma resent_append_singleton :
    Resent (segs ++ [s]) ↔ Resent segs ∨ interval s ⊆ covered segs := by
  constructor
  · rintro ⟨pre, q, post, heq, hsub⟩
    rcases List.eq_nil_or_concat post with rfl | ⟨post, r, rfl⟩
    · obtain ⟨rfl, hq⟩ := List.append_inj' heq rfl
      rw [List.singleton_inj.mp hq]
      exact .inr hsub
    · rw [List.concat_eq_append, ← List.cons_append, ← List.append_assoc] at heq
      exact .inl ⟨pre, q, post, (List.append_inj' heq rfl).1, hsub⟩
  · rintro (⟨pre, q, post, rfl, hsub⟩ | hsub)
    · exact ⟨pre, q, post ++ [s], by simp, hsub⟩
    · exact ⟨segs, s, [], rfl, hsub⟩

lemma covered_append_singleton : covered (segs ++ [s]) = covered segs ∪ interval s := by
  ext x
  simp only [mem_covered, Finset.mem_union, mem_interval, List.mem_append, List.mem_singleton]
  constructor
  · rintro ⟨r, hr | rfl, hx⟩
    · exact .inl ⟨r, hr, hx⟩
    · exact .inr hx
  · rintro (⟨r, hr, hx⟩ | hx)
    · exact ⟨r, .inl hr, hx⟩
    · exact ⟨s, .inr rfl, hx⟩

/-- The next packet of a stream goes on where the payload ends. -/
lemma covered_of_next (hsegs : covered segs = interval (1, (covered segs).card + 1))
    (hlt : s.1 < s.2) (hnext : s.1 = (covered segs).card + 1) :
    covered (segs ++ [s]) = interval (1, s.2) := by
  rw [covered_append_singleton, hsegs]
  ext x
  simp only [Finset.mem_union, mem_interval]
  omega

/-- The payload of a stream has no gap. -/
lemma InStream.covered_eq (h : InStream segs) :
    covered segs = interval (1, (covered segs).card + 1) := by
  induction segs using List.reverseRecOn with
  | nil => simp [covered, interval]
  | append_singleton segs s ih =>
    have hsegs := ih h.init
    obtain ⟨hone, hlt, hold | hnext⟩ := h.last
    · rwa [covered_append_singleton, Finset.union_eq_left.mpr hold]
    · have hunion := covered_of_next hsegs hlt hnext
      have hcard : ((covered (segs ++ [s])).card : ℤ) = s.2 - 1 := by
        rw [hunion, card_interval]
        omega
      rw [hcard, sub_add_cancel, hunion]

/-- What was sent before ends where the count says. -/
lemma InStream.subset_iff (h : InStream (segs ++ [s])) :
    interval s ⊆ covered segs ↔ s.2 - 1 ≤ (covered segs).card := by
  obtain ⟨hone, hlt, -⟩ := h.last
  rw [h.init.covered_eq]
  constructor
  · intro hsub
    have hlast : s.2 - 1 ∈ interval s := mem_interval.mpr ⟨by omega, by omega⟩
    have hmem := mem_interval.mp (hsub hlast)
    rw [← h.init.covered_eq]
    omega
  · intro hle x hx
    rw [← h.init.covered_eq] at hle
    rw [mem_interval] at hx ⊢
    omega

/-- The counts of the payload.  It holds as long as the sender does not jump ahead, which leaves no
holes among the bytes it has sent. -/
structure Streamed (segs : List (ℤ × ℤ)) (c : Counts) : Prop where
  bytesSent : c.bytesSent = (covered segs).card
  reTx : c.reTx = 1 ↔ Resent segs
  affected : c.affected = c.reTx

lemma Streamed.send {c : Counts} (h : Streamed segs c) (hin : InStream (segs ++ [s])) :
    Streamed (segs ++ [s]) (c.send s) := by
  have hiff := hin.subset_iff
  rw [← h.bytesSent] at hiff
  by_cases hold : s.2 - 1 ≤ c.bytesSent
  · have hsub := hiff.mpr hold
    rw [Counts.send, if_pos hold]
    refine ⟨?_, ?_, rfl⟩
    · rw [covered_append_singleton, Finset.union_eq_left.mpr hsub]
      exact h.bytesSent
    · exact iff_of_true rfl (resent_append_singleton.mpr (.inr hsub))
  · have hnot : ¬ interval s ⊆ covered segs := fun hsub => hold (hiff.mp hsub)
    obtain ⟨-, hlt, hnext⟩ := hin.last
    have hnext := hnext.resolve_left hnot
    rw [Counts.send, if_neg hold]
    refine ⟨?_, ?_, h.affected⟩
    · show c.bytesSent + (s.2 - s.1) = (covered (segs ++ [s])).card
      rw [covered_of_next hin.init.covered_eq hlt hnext, card_interval, h.bytesSent]
      omega
    · rw [resent_append_singleton, or_iff_left hnot]
      exact h.reTx

/-! The counts of a life, packet by packet. -/

def countsOf (body : List Pkt) : Counts := body.foldl Counts.after {}

lemma countsOf_append_singleton (body : List Pkt) (row : Pkt) :
    countsOf (body ++ [row]) = (countsOf body).after row := by
  rw [countsOf, List.foldl_concat, countsOf]

lemma segments_append_singleton (body : List Pkt) (row : Pkt) :
    segments (body ++ [row]) = segments body ++ if row.sends then [row.segment] else [] := by
  by_cases hrow : row.sends
  · simp [segments, List.filter_append, hrow]
  · simp [segments, List.filter_append, hrow]

/-- **Payload bytes are counted once each.** -/
lemma streamed_countsOf {body : List Pkt} (h : InStream (segments body)) :
    Streamed (segments body) (countsOf body) := by
  induction body using List.reverseRecOn with
  | nil => exact ⟨rfl, by simp [countsOf, Resent, segments], rfl⟩
  | append_singleton body row ih =>
    rw [segments_append_singleton] at h ⊢
    rw [countsOf_append_singleton]
    by_cases hrow : row.sends
    · rw [if_pos hrow] at h ⊢
      have hc := ih h.init
      have hsend : Streamed (segments body ++ [row.segment])
          ((if row.kind = .finAck then { countsOf body with senderFinSent := true }
            else countsOf body).send row.segment) := by
        refine Streamed.send ?_ h
        split
        · exact ⟨hc.bytesSent, hc.reTx, hc.affected⟩
        · exact hc
      simpa [Counts.after, hrow] using hsend
    · rw [if_neg hrow, List.append_nil] at h ⊢
      have hc := ih h
      simp only [Counts.after, if_neg hrow]
      split_ifs <;> exact ⟨hc.bytesSent, hc.reTx, hc.affected⟩

/-- **The FIN of the sender is in the life of a flow that is complete.** -/
lemma senderFinSent_countsOf (body : List Pkt) :
    (countsOf body).senderFinSent = true ↔ ∃ row ∈ body, row.kind = .finAck := by
  induction body using List.reverseRecOn with
  | nil => simp [countsOf]
  | append_singleton body row ih =>
    have hafter : ((countsOf body).after row).senderFinSent = true ↔
        (countsOf body).senderFinSent = true ∨ row.kind = .finAck := by
      simp only [Counts.after, Counts.send, Counts.watch]
      split_ifs <;> simp_all
    rw [countsOf_append_singleton, hafter, ih]
    simp [or_and_right, exists_or]

/-- What is acknowledged is what the last ACK says. -/
lemma bytesAcked_countsOf (body : List Pkt) : (countsOf body).bytesAcked =
    (((body.filter Pkt.acknowledges).getLast?).map Pkt.ackedCount).getD 0 := by
  induction body using List.reverseRecOn with
  | nil => rfl
  | append_singleton body row ih =>
    have hafter : ((countsOf body).after row).bytesAcked =
        if row.acknowledges then row.ackedCount else (countsOf body).bytesAcked := by
      by_cases hsend : row.sends
      · simp only [Counts.after, if_pos hsend, if_neg (row.not_acknowledges_of_sends hsend),
          Counts.send, Counts.watch]
        split_ifs <;> rfl
      · simp only [Counts.after, if_neg hsend, Counts.watch]
        split_ifs <;> rfl
    rw [countsOf_append_singleton, hafter, List.filter_append]
    by_cases hrow : row.acknowledges
    · simp [hrow]
    · simp [hrow, ih]

/-- A packet leaves the bytes in flight and their maximum alone, or the maximum watches them. -/
lemma inFlight_after (c : Counts) (row : Pkt) :
    (c.after row).inFlight = c.inFlight ∧ (c.after row).maxBif = c.maxBif ∨
      (c.after row).maxBif = max c.maxBif (c.after row).inFlight := by
  simp only [Counts.after, Counts.send]
  split_ifs
  all_goals first
    | exact .inl ⟨rfl, rfl⟩
    | exact .inr rfl

/-- **`maxBif` is the greatest number of bytes in flight**, but for a flow that never had any. -/
lemma maxBif_countsOf (body : List Pkt) :
    (∀ pre, pre <+: body → (countsOf pre).inFlight ≤ max 0 (countsOf body).maxBif) ∧
      ∃ pre, pre <+: body ∧ (countsOf pre).inFlight = max 0 (countsOf body).maxBif := by
  induction body using List.reverseRecOn with
  | nil =>
    refine ⟨fun pre hpre => ?_, [], List.nil_prefix, rfl⟩
    rw [List.prefix_nil.mp hpre]
    exact le_max_left _ _
  | append_singleton body row ih =>
    obtain ⟨hle, pre, hpre, heq⟩ := ih
    rw [countsOf_append_singleton]
    rcases inFlight_after (countsOf body) row with ⟨hsame, hmax⟩ | hmax
    · rw [hmax]
      refine ⟨fun pre' hpre' => ?_, pre, hpre.trans (List.prefix_append _ _), heq⟩
      rcases List.prefix_concat_iff.mp hpre' with rfl | hpre'
      · rw [countsOf_append_singleton, hsame]
        exact hle body (List.prefix_refl _)
      · exact hle pre' hpre'
    · rw [hmax]
      refine ⟨fun pre' hpre' => ?_, ?_⟩
      · rcases List.prefix_concat_iff.mp hpre' with rfl | hpre'
        · rw [countsOf_append_singleton]
          omega
        · have hold := hle pre' hpre'
          omega
      · rcases le_total ((countsOf body).after row).inFlight (max 0 (countsOf body).maxBif) with
          hless | hmore
        · exact ⟨pre, hpre.trans (List.prefix_append _ _), by omega⟩
        · refine ⟨body ++ [row], List.prefix_refl _, ?_⟩
          rw [countsOf_append_singleton]
          omega

/-! ## Whole traces -/

/-- What is written of a flow, from the packets of its life.  `affected` is the flag that the flow
was tracked with, which a retransmission sets; the column of that name in the row is decided only
when the row is written, from this flag and the list of affected flows. -/
structure Sums (body : List Pkt) (flow : Flow) : Prop where
  finAck : ∃ row ∈ body, row.kind = .finAck
  bytesAcked : flow.bytesAcked =
    (((body.filter Pkt.acknowledges).getLast?).map Pkt.ackedCount).getD 0
  complete : flow.bytesSent ≤ flow.bytesAcked
  bytesSent : InStream (segments body) → flow.bytesSent = (covered (segments body)).card
  reTx : InStream (segments body) → (flow.reTx = 1 ↔ Resent (segments body))
  affected : InStream (segments body) → flow.affected = flow.reTx
  inFlight_le : ∀ pre, pre <+: body → (countsOf pre).inFlight ≤ max 0 flow.maxBif
  exists_inFlight : ∃ pre, pre <+: body ∧ (countsOf pre).inFlight = max 0 flow.maxBif

lemma Life.sums {args : Args} {l : Life} (h : (l.flow args).isComplete) :
    Sums l.body (l.flow args) := by
  have hcounts : (l.flow args).counts = countsOf l.body := counts_foldl_after args l.body {}
  rw [Flow.isComplete, Bool.and_eq_true, decide_eq_true_iff] at h
  have hsent : (l.flow args).bytesSent = (countsOf l.body).bytesSent :=
    congrArg Counts.bytesSent hcounts
  have hacked : (l.flow args).bytesAcked = (countsOf l.body).bytesAcked :=
    congrArg Counts.bytesAcked hcounts
  have hfin : (l.flow args).senderFinSent = (countsOf l.body).senderFinSent :=
    congrArg Counts.senderFinSent hcounts
  have hmax : (l.flow args).maxBif = (countsOf l.body).maxBif :=
    congrArg Counts.maxBif hcounts
  have hreTx : (l.flow args).reTx = (countsOf l.body).reTx :=
    congrArg Counts.reTx hcounts
  have haffected : (l.flow args).affected = (countsOf l.body).affected :=
    congrArg Counts.affected hcounts
  obtain ⟨hle, hattained⟩ := maxBif_countsOf l.body
  refine ⟨?_, ?_, h.2, ?_, ?_, ?_, ?_, ?_⟩
  · rw [← senderFinSent_countsOf, ← hfin]
    exact h.1
  · rw [hacked, bytesAcked_countsOf]
  · intro hin
    rw [hsent, (streamed_countsOf hin).bytesSent]
  · intro hin
    rw [hreTx, (streamed_countsOf hin).reTx]
  · intro hin
    rw [haffected, hreTx, (streamed_countsOf hin).affected]
  · rwa [hmax]
  · rwa [hmax]

/-- **The flows that are written.**  The packets of a port are the lives of the flows that were
written of it, one row for each, in order, and packets of which some is a SYN if and only if a flow
of the port is still tracked.  The flow of a row sums up its life; of the columns `affected` and
`consecutiveLoss`, which are no part of it, nothing is said. -/
theorem written_flows (args : Args) (affectedFlows affectedFlowsConsecutiveLoss : List ℤ)
    (rows : List Pkt) (hsack : ∀ row ∈ rows, row.CarriesSack) :
    ∃ p, processRows args ⟨.start affectedFlows affectedFlowsConsecutiveLoss, none⟩ rows = some p ∧
      ∀ f, ∃ (lives : List Life) (rest : List Pkt),
        (rows.filter fun row => row.flowId = f) = lives.flatMap Life.rows ++ rest ∧
        (p.trace.track f).written = lives.map (fun l => l.flow args) ∧
        (∀ l ∈ lives, l.Proper ∧ Sums l.body (l.flow args)) ∧
        (p.trace.currTrackedFlows f = none ↔ ∀ row ∈ rest, row.kind ≠ .syn) := by
  obtain ⟨p, hp, htrack⟩ := processRows_track args hsack
    ⟨.start affectedFlows affectedFlowsConsecutiveLoss, none⟩
  refine ⟨p, hp, fun f => ?_⟩
  obtain ⟨lives, rest, h⟩ := exists_split args (rows.filter fun row => row.flowId = f)
  have hf : p.trace.track f = (rows.filter fun row => row.flowId = f).foldl (Track.next args) {} :=
    htrack f
  rw [← hf] at h
  refine ⟨lives, rest, h.rows, h.written, fun l hl => ?_, h.untracked, fun hrest => ?_⟩
  · exact ⟨(h.ended l hl).1, Life.sums (h.ended l hl).2⟩
  · cases hcur : p.trace.currTrackedFlows f with
    | none => rfl
    | some flow =>
      -- the life that is on would have its SYN among these packets
      obtain ⟨l, hl, -, rfl⟩ := h.tracked flow hcur
      exact absurd hl.syn (hrest l.syn (by simp [Life.rows]))

/-- Of the two flows one is written, with its retransmission; the other is still tracked. -/
theorem written_flows_two_flows : ∃ p,
    processRows twoFlowsArgs ⟨.start [] [], none⟩ twoFlows = some p ∧
      (p.trace.track 5001).written.map Flow.reTx = [1] ∧ ∃ (lives : List Life) (rest : List Pkt),
        (twoFlows.filter fun row => row.flowId = 5001) = lives.flatMap Life.rows ++ rest ∧
        (∀ l ∈ lives, Sums l.body (l.flow twoFlowsArgs)) ∧ lives.length = 1 := by
  have hwritten : ((processRows twoFlowsArgs ⟨.start [] [], none⟩ twoFlows).any fun p =>
      (p.trace.track 5001).written.map Flow.reTx = [1]) = true := by decide +kernel
  obtain ⟨p, hp, hall⟩ := written_flows twoFlowsArgs [] [] twoFlows (by decide +kernel)
  obtain ⟨lives, rest, hrows, hlives, hsums, -⟩ := hall 5001
  rw [hp, Option.any_some, decide_eq_true_iff] at hwritten
  refine ⟨p, hp, hwritten, lives, rest, hrows, fun l hl => (hsums l hl).2, ?_⟩
  simpa [hlives] using congrArg List.length hwritten

end LinkGuardian.Analysis
