import LinkGuardian.Protocol.SenderBuffer

/-!
# No release before acknowledgement

Whether the copy of a packet is still in the loop when the loss of the packet is announced.
The power-on contents of the leading-ack registers denote 0, so the copy of packet 0 is
released at its first pass, before any report; every other copy stays until a report has
accounted for its number (`released_only_after_report_iff`).
-/

namespace LinkGuardian.Buffer

open P4 SerialNumber Execution Sender

variable {S : Setup} {s s' : State}

/-! ## Notifications in order -/

lemma notifiedBefore_mono (s : State) {i j : ℕ} (h : i ≤ j) :
    s.notifiedBefore i ≤ s.notifiedBefore j :=
  (List.take_sublist_take_left h).countP_le

lemma notifiedBefore_lt (s : State) {i j : ℕ} {r : Link.Report} (hi : s.link.reports[i]? = some r)
    (hr : r.isNotification = true) (h : i < j) : s.notifiedBefore i < s.notifiedBefore j := by
  have hsucc : s.notifiedBefore (i + 1) = s.notifiedBefore i + 1 := by
    rw [State.notifiedBefore, State.notifiedBefore, List.take_add_one, hi, List.countP_append,
      Option.toList_some, List.countP_singleton, if_pos hr]
  have hmono := notifiedBefore_mono s (show i + 1 ≤ j from h)
  omega

lemma notifiedBefore_le (s : State) (i : ℕ) :
    s.notifiedBefore i ≤ s.link.reports.countP Link.Report.isNotification :=
  (List.take_sublist i _).countP_le

/-- What the order of the notifications gives: those still to come are ahead of everything that was
processed. Lack updates may come in any order and any number of times in between; they do not set
hole bits, and an old one only makes copies wait longer. -/
structure OrderInv (s : State) : Prop where
  ahead : ∀ i r, s.link.reports[i]? = some r → r.isNotification = true →
    s.notified ≤ s.notifiedBefore i → ∀ p ∈ s.processed, p.accounted < r.first
  done : ∀ i r, s.link.reports[i]? = some r → r.isNotification = true →
    s.notifiedBefore i < s.notified → r ∈ s.processed
  bound : s.notified ≤ s.link.reports.countP Link.Report.isNotification

lemma orderInv_init (S : Setup) : OrderInv (init S) where
  ahead := fun _ _ _ _ _ _ hp => absurd hp List.not_mem_nil
  done := fun _ _ _ _ h => absurd h (Nat.not_lt_zero _)
  bound := Nat.zero_le _

/-- A report is ahead of everything that an earlier one accounts for. -/
lemma accounted_lt_first {reports : List Link.Report}
    (h : reports.Pairwise fun r r' => r.accounted < r'.first) {i j : ℕ}
    {r r' : Link.Report} (hi : reports[i]? = some r) (hj : reports[j]? = some r') (hij : i < j) :
    r.accounted < r'.first := by
  obtain ⟨hi', rfl⟩ := List.getElem?_eq_some_iff.mp hi
  obtain ⟨hj', rfl⟩ := List.getElem?_eq_some_iff.mp hj
  exact List.pairwise_iff_getElem.mp h i j hi' hj' hij

lemma OrderInv.afterLink (h : OrderInv s) {l : Link.State} {new : List (ℕ × Hdr)}
    (hpre : s.link.reports <+: l.reports) (hord : Link.Ordered l)
    (hproc : ∀ r ∈ s.processed, r ∈ s.link.reports) : OrderInv (s.afterLink l new) := by
  obtain ⟨newer, hl⟩ := hpre
  -- reports are only appended, so that nothing changes for those that were there
  have hold : ∀ i < s.link.reports.length, (s.afterLink l new).notifiedBefore i =
      s.notifiedBefore i := by
    intro i hi
    rw [State.notifiedBefore, State.afterLink, ← hl, List.take_append_of_le_length hi.le]
    rfl
  have hget : ∀ i < s.link.reports.length, l.reports[i]? = s.link.reports[i]? := by
    intro i hi
    rw [← hl, List.getElem?_append_left hi]
  constructor
  · intro i r hi hr hle p hp
    rcases Nat.lt_or_ge i s.link.reports.length with hlt | hge
    · rw [hold i hlt] at hle
      exact h.ahead i r ((hget i hlt).symm.trans hi) hr hle p hp
    · obtain ⟨j, hj⟩ := List.mem_iff_getElem?.mp (hproc p hp)
      have hjlt : j < s.link.reports.length := (List.getElem?_eq_some_iff.mp hj).1
      exact accounted_lt_first hord.pairwise ((hget j hjlt).trans hj) hi (by omega)
  · intro i r hi hr hlt
    rcases Nat.lt_or_ge i s.link.reports.length with hlt' | hge
    · rw [hold i hlt'] at hlt
      exact h.done i r ((hget i hlt').symm.trans hi) hr hlt
    · have hall : s.link.reports.countP Link.Report.isNotification ≤
          (s.afterLink l new).notifiedBefore i := by
        rw [State.notifiedBefore, State.afterLink, ← hl, List.take_append,
          List.take_of_length_le hge, List.countP_append]
        exact Nat.le_add_right _ _
      exact absurd (Nat.lt_of_le_of_lt hall hlt) (Nat.not_lt.mpr h.bound)
  · refine h.bound.trans ?_
    rw [State.afterLink, ← hl, List.countP_append]
    exact Nat.le_add_right _ _

lemma OrderInv.afterReport (h : OrderInv s) {i : ℕ} {r : Link.Report} {regs : IngressRegs}
    (hord : Link.Ordered s.link) (hi : s.link.reports[i]? = some r)
    (hle : s.notifiedBefore i ≤ s.notified)
    (hnot : r.isNotification = true → s.notified ≤ s.notifiedBefore i) :
    OrderInv (s.afterReport r regs) := by
  have hcount : (s.afterReport r regs).notified =
      s.notified + if r.isNotification = true then 1 else 0 := List.countP_cons
  have hbefore : ∀ j, (s.afterReport r regs).notifiedBefore j = s.notifiedBefore j := fun _ => rfl
  -- a notification still to come was generated after `r`
  have hlater : ∀ j r', s.link.reports[j]? = some r' → r'.isNotification = true →
      (s.afterReport r regs).notified ≤ s.notifiedBefore j → i < j := by
    intro j r' hj hr' hge
    rw [hcount] at hge
    rcases Nat.lt_trichotomy i j with hlt | heq | hgt
    · exact hlt
    · have hrr : r' = r := by
        rw [← heq, hi, Option.some_inj] at hj
        exact hj.symm
      rw [hrr] at hr'
      rw [if_pos hr', ← heq] at hge
      omega
    · have := notifiedBefore_lt s hj hr' hgt
      omega
  -- the notifications to come stay ahead, and those that are due have been processed
  constructor
  · intro j r' hj hr' hge p hp
    rcases List.mem_cons.mp hp with rfl | hp
    · exact accounted_lt_first hord.pairwise hi hj (hlater j r' hj hr' hge)
    · refine h.ahead j r' hj hr' ?_ p hp
      rw [hbefore, hcount] at hge
      omega
  · intro j r' hj hr' hlt
    rw [hbefore] at hlt
    rcases Nat.lt_or_ge (s.notifiedBefore j) s.notified with hold | hnew
    · exact List.mem_cons_of_mem r (h.done j r' hj hr' hold)
    · -- the notification just processed
      rw [hcount] at hlt
      have hr : r.isNotification = true := by
        by_contra hr
        rw [if_neg hr] at hlt
        omega
      rw [if_pos hr] at hlt
      have heq := hnot hr
      have hij : i = j := by
        rcases Nat.lt_trichotomy i j with hc | hc | hc
        · have := notifiedBefore_lt s hi hr hc
          omega
        · exact hc
        · have := notifiedBefore_lt s hj hr' hc
          omega
      have hrr : s.link.reports[i]? = some r' := by rw [hij]; exact hj
      rw [hi, Option.some_inj] at hrr
      rw [← hrr]
      exact List.mem_cons_self
  · rw [hcount]
    change _ ≤ s.link.reports.countP Link.Report.isNotification
    have hbound := h.bound
    split
    · rename_i hr
      have h1 := notifiedBefore_lt s hi hr (Nat.lt_add_one i)
      have h2 := notifiedBefore_le s (i + 1)
      have h3 := hnot hr
      omega
    · exact hbound

theorem orderInv_step {e : Event} (hB : BufferInv S s) (h : OrderInv s)
    (hG : ReportsInOrder s e) (hs : step S s e = some s') : OrderInv s' := by
  rcases step_cases hs with ⟨le, l, rfl, hstep, rfl⟩ | ⟨i, hdr, r, rfl, hget, -, rfl⟩ |
    ⟨i, n, hdr, rfl, -, rfl⟩
  · exact h.afterLink (Link.step_grows hstep).1 (Link.ordered_step hB.link hB.ordered hstep)
      hB.processed
  · obtain ⟨hle, hnot⟩ := hG r hget
    exact h.afterReport hB.ordered hget hle hnot
  · obtain ⟨hlink, hproc, -⟩ := afterCopy_keeps s i n (igPass S s.igRegs recircLpbkPort hdr)
    generalize s.afterCopy i n (igPass S s.igRegs recircLpbkPort hdr) = s' at *
    obtain ⟨h₁, h₂, h₃⟩ := h
    simp only [State.notified, State.notifiedBefore, ← hlink, ← hproc] at h₁ h₂ h₃
    exact ⟨h₁, h₂, h₃⟩

/-- What every step of a run with a window and reports in order keeps. -/
structure Inv (S : Setup) (s : State) : Prop where
  buffer : BufferInv S s
  order : OrderInv s

lemma inv_init (S : Setup) : Inv S (init S) := ⟨bufferInv_init S, orderInv_init S⟩

theorem inv_step {e : Event} (h : Inv S s) (hw : Windowed s) (hG : ReportsInOrder s e)
    (hs : step S s e = some s') : Inv S s' :=
  ⟨bufferInv_step h.buffer hw hs, orderInv_step h.buffer h.order hG hs⟩

/-- **A notification finds its copies**: when it is next in order, the copies of all numbers it
covers are in the loop, except number 0. -/
lemma covered_mem_nums {i : ℕ} {r : Link.Report} (h : Inv S s)
    (hi : s.link.reports[i]? = some r) (hr : r.isNotification = true)
    (hnext : s.notified ≤ s.notifiedBefore i) {n : ℕ} (hn : r.covers n = true) (h0 : n ≠ 0) :
    n ∈ s.nums := by
  have hB := h.buffer
  have hmem := List.mem_of_getElem? hi
  obtain ⟨hfirst, hlt, hacc⟩ := Link.Report.le_accounted_of_covers (hB.link.ledger.exact r hmem) hn
  have hspan := (hB.ordered.span r hmem).2
  have hst := hB.link.sequenced.le
  by_contra hout
  rcases hB.kept n (by omega) hout with hz | ⟨p, hp, hle⟩
  · exact h0 hz
  · have := h.order.ahead i r hi hr hnext p hp
    omega

/-! ## The release of one number -/

/-- The copy of `n` stays in the loop until some report accounting for `n` has been processed; so it
is still there as long as a notification that covers `n` is on its way.  A statement about one
number in all runs: for every number but 0 it is a theorem, and for 0 there is a run against it. -/
structure ReleasedAfterReport (S : Setup) (n : ℕ) : Prop where
  stays : ∀ es s, run (step S) (init S) es = some s → Throughout (step S) Windowed (init S) es →
    n < s.link.stamped → n ∈ s.nums ∨ ∃ r ∈ s.processed, n ≤ r.accounted
  found : ∀ es s, run (step S) (init S) es = some s → Throughout (step S) Windowed (init S) es →
    Along (step S) ReportsInOrder (init S) es → ∀ i r, s.link.reports[i]? = some r →
    r.isNotification = true → s.notified ≤ s.notifiedBefore i → r.covers n = true → n ∈ s.nums

/-- At power-on the stored leading ack already denotes 0: the copy of the first packet is
released at its first pass. -/
lemma first_copy_released (S : Setup) :
    ∃ es s, run (step S) (init S) es = some s ∧ Throughout (step S) Windowed (init S) es ∧
      0 < s.link.stamped ∧ s.nums = [] ∧ s.processed = [] := by
  have hw₀ : Windowed (init S) := fun _ hn => absurd hn List.not_mem_nil
  obtain ⟨l, hl⟩ : ∃ l, Link.step S.link (init S).link (.data default 0 0) = some l := ⟨_, rfl⟩
  have h₁ : step S (init S) (.link (.data default 0 0)) =
      some ((init S).afterLink l (newCopies S (init S) (.data default 0 0))) := by
    rw [step, hl, Option.map_some]
  have hB := bufferInv_step (bufferInv_init S) hw₀ h₁
  rcases newCopies_cases (Link.inv_init S.link) hl with ⟨copy, hnew, -, hst⟩ | ⟨-, hst⟩
  · set s₁ := (init S).afterLink l (newCopies S (init S) (.data default 0 0)) with hs₁
    have hbuf : s₁.buffer = [(0, copy)] := by rw [hs₁, State.afterLink, hnew]; rfl
    have hw₁ : Windowed s₁ := by
      intro n hn
      rw [State.nums, hbuf, List.map_singleton, List.mem_singleton] at hn
      rw [hn]
      exact ⟨Nat.zero_le _, Nat.zero_le _⟩
    have hget : s₁.buffer[0]? = some (0, copy) := by rw [hbuf]; rfl
    have h₂ : step S s₁ (.buffered 0) =
        some (s₁.afterCopy 0 0 (igPass S s₁.igRegs recircLpbkPort copy)) := by rw [step, hget]
    obtain ⟨hlink, hproc, -⟩ := afterCopy_keeps s₁ 0 0 (igPass S s₁.igRegs recircLpbkPort copy)
    have hempty : (s₁.afterCopy 0 0 (igPass S s₁.igRegs recircLpbkPort copy)).nums = [] := by
      rcases afterCopy_cases hB hw₁ hget with ⟨hlt, -⟩ | ⟨-, -, hb⟩
      · exact absurd hlt (Nat.not_lt_zero _)
      · rw [State.nums, hb, hbuf]
        rfl
    refine ⟨[.link (.data default 0 0), .buffered 0], _,
      run_cons_eq_some.mpr ⟨s₁, h₁, run_cons_eq_some.mpr ⟨_, h₂, rfl⟩⟩,
      (throughout_cons h₁).mpr ⟨hw₀, (throughout_cons h₂).mpr ⟨hw₁, fun n hn => ?_⟩⟩, ?_, hempty,
      hproc⟩
    · rw [hempty] at hn
      exact absurd hn List.not_mem_nil
    · rw [hlink]
      change 0 < l.stamped
      rw [hst]
      exact Nat.succ_pos _
  · exact absurd hst (by rw [(Link.step_grows hl).2.2]; exact Nat.succ_ne_self _)

/-- **No release before acknowledgement, for every number but the first.**  For packet 0 the initial
value of the registers passes for a report, so its copy may leave the loop before any. -/
theorem released_only_after_report_iff (S : Setup) (n : ℕ) :
    ReleasedAfterReport S n ↔ n ≠ 0 := by
  constructor
  · rintro h rfl
    obtain ⟨es, s, hrun, hw, hst, hnums, hproc⟩ := first_copy_released S
    rcases h.stays es s hrun hw hst with hmem | ⟨r, hr, -⟩
    · rw [hnums] at hmem
      exact absurd hmem List.not_mem_nil
    · rw [hproc] at hr
      exact absurd hr List.not_mem_nil
  · intro h0
    constructor
    · intro es s hrun hw hst
      have hB : BufferInv S s := run_invariant_throughout (G := fun _ _ => True)
        (fun _ _ _ h hw _ _ hs => bufferInv_step h hw hs) (bufferInv_init S) hw
        (along_true _ es) hrun
      by_cases hmem : n ∈ s.nums
      · exact Or.inl hmem
      · exact Or.inr ((hB.kept n hst hmem).resolve_left h0)
    · intro es s hrun hw hG i r hi hr hnext hn
      have hI : Inv S s := run_invariant_throughout
        (fun _ _ _ h hw _ hG hs => inv_step h hw hG hs) (inv_init S) hw hG hrun
      exact covered_mem_nums hI hi hr hnext hn h0

/-- Port 36 with unicast retransmissions. -/
def buffer36 : Setup where
  link := Link.link36
  igTables :=
    { l2Forward := fun _ => none
      retxMcastBufferedPkt := fun p => if p = 36 then some .doRetxBufferedPktUcast else none
      limitPktgenTraffic := false }
  retxMcastBufferedPkt := rfl

/-- Packet 0 is stamped and lost while its copy makes its first pass; packet 1 arrives. -/
def firstPacketLostRun : List Event :=
  [.link (.data default 0 0), .buffered 0, .link .lose, .link (.data default 0 0), .link .arrive]

/-- **The copy of packet 0 is dropped before any report**: when its loss is announced, it is no
longer there. -/
theorem first_packet_lost_copy_gone :
    ∃ s, run (step buffer36) (init buffer36) firstPacketLostRun = some s ∧
      Throughout (step buffer36) Windowed (init buffer36) firstPacketLostRun ∧
      s.processed = [] ∧ (0, Decision.dropped) ∈ s.decided ∧ 0 ∉ s.nums ∧
      0 ∈ Link.lostIn s.link.fates ∧
      ∃ r, s.link.reports = [r] ∧ r.isNotification = true ∧ r.covers 0 = true := by
  have hrun : (run (step buffer36) (init buffer36) firstPacketLostRun).any (fun s =>
      decide (s.processed = [] ∧ (0, Decision.dropped) ∈ s.decided ∧ 0 ∉ s.nums ∧
        0 ∈ Link.lostIn s.link.fates) && decide (s.link.reports.length = 1 ∧
          ∀ r ∈ s.link.reports, r.isNotification = true ∧ r.covers 0 = true)) := by
    decide +kernel
  obtain ⟨s, hs, hrun⟩ := (Option.any_eq_true _ _).mp hrun
  simp only [Bool.and_eq_true, decide_eq_true_eq] at hrun
  obtain ⟨⟨h₁, h₂, h₃, h₄⟩, hlength, hreports⟩ := hrun
  obtain ⟨r, hr⟩ := List.length_eq_one_iff.mp hlength
  exact ⟨s, hs, by decide +kernel, h₁, h₂, h₃, h₄, r, hr, hreports r (by simp [hr])⟩

end LinkGuardian.Buffer
