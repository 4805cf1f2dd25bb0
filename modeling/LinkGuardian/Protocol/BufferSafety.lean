import LinkGuardian.Protocol.BufferRelease

/-!
# Safety of the sender buffer

With at most five packets lost in a row, packet 0 not among them, a copy is dropped only if its
packet was delivered and retransmitted only if its packet was lost.  The invariant behind it
reads the hole bitmaps: a bit is set exactly for the numbers in the loop that a processed
notification covers, and what was processed is never more than half a range ahead of the loop,
so a bit can belong to no other wrap of the same sequence number.
-/

namespace LinkGuardian.Buffer

open P4 SerialNumber Execution Sender

variable {S : Setup} {s s' : State}

/-- At most five data packets in a row are lost, and packet 0 is not.  Five is the number of
bitmaps; packet 0 is excepted since its copy may leave the loop before any report. -/
def SparseLosses (s : State) : Event → Prop
  | .link .lose => ∀ p ∈ s.link.link.head?, p.isData = true → s.link.lostRun + 1 ≤ 5 ∧ p.num ≠ 0
  | _ => True

instance (s : State) : DecidablePred (SparseLosses s)
  | .link .lose => inferInstanceAs (Decidable (∀ p ∈ s.link.link.head?, p.isData = true →
      s.link.lostRun + 1 ≤ 5 ∧ p.num ≠ 0))
  | .link (.data _ _ _) | .link (.dummy _) | .link .arrive | .report _ _ | .buffered _ =>
    isTrue trivial

/-- A processed notification covers `n`. -/
def State.Notified (s : State) (n : ℕ) : Prop := ∃ r ∈ s.processed, r.covers n = true

/-- What a decision says about the fate of the original: a retransmitted packet was lost, a dropped
copy is of a packet that was delivered.  It is a statement about the link and not about the
registers that the decision was made from. -/
def Decision.Sound (fates : List (Link.Packet × Bool)) (n : ℕ) : Decision → Prop
  | .dropped => n = 0 ∨ n ∈ Link.deliveredIn fates
  | .retransmitted => n ∈ Link.lostIn fates

/-- What every step keeps when losses are sparse.  `holeAt` is the heart of it: the bitmaps are
exactly the announced numbers that are still in the loop.  The other fields are what that rests on
(no hole is too large, and nothing in the loop is behind a report) and what follows from it for the
decisions made so far. -/
structure HolesInv (s : State) : Prop where
  smallHoles : Link.SmallHoles 6 s.link
  firstKept : 0 ∉ Link.lostIn s.link.fates
  behind : ∀ n ∈ s.nums, ∀ r ∈ s.processed, r.accounted ≤ n + halfRange
  holeAt : ∀ x, s.igRegs.HoleAt x ↔ ∃ n ∈ s.nums, x = wire 16 n ∧ s.Notified n
  decided : ∀ p ∈ s.decided, p.1 ∉ s.nums ∧ p.1 < s.link.stamped ∧ p.2.Sound s.link.fates p.1
  once : (s.decided.map Prod.fst).Nodup
  recorded : ∀ n < s.link.stamped, n ∈ s.nums ∨ ∃ d, (n, d) ∈ s.decided

lemma holesInv_init (S : Setup) : HolesInv (init S) where
  smallHoles := Link.smallHoles_init S.link (by decide)
  firstKept := List.not_mem_nil
  behind := fun _ hn => absurd hn List.not_mem_nil
  holeAt := by
    intro x
    refine ⟨fun h => ?_, fun ⟨_, hn, _⟩ => absurd hn List.not_mem_nil⟩
    simp [IngressRegs.HoleAt, init, IngressRegs.init] at h
  decided := fun _ hp => absurd hp List.not_mem_nil
  once := List.nodup_nil
  recorded := fun _ hn => absurd hn (Nat.not_lt_zero _)

/-! ## Facts about one state -/

lemma Notified.le {n : ℕ} (hB : BufferInv S s) (h : s.Notified n) :
    ∃ r ∈ s.processed, n ≤ r.accounted ∧ n ∈ Link.lostIn s.link.fates := by
  obtain ⟨r, hr, hn⟩ := h
  have hmem := hB.processed r hr
  exact ⟨r, hr, (Link.Report.le_accounted_of_covers (hB.link.ledger.exact r hmem) hn).2.2,
    hB.link.lost_of_covers hmem hn⟩

/-- A marked number in the loop and one about to leave it do not share a sequence number. -/
lemma HolesInv.eq_of_wire_eq (h : HolesInv s) (hB : BufferInv S s) {m n : ℕ} (hm : m ∈ s.nums)
    (hn : n ∈ s.nums) (hnot : s.Notified m) (hle : n ≤ s.lack) (heq : wire 16 m = wire 16 n) :
    m = n := by
  obtain ⟨r, hr, hmr, -⟩ := Notified.le hB hnot
  have h₁ := h.behind n hn r hr
  have h₂ : n ≤ m + halfRange := by
    rcases lack_cases s with h0 | ⟨r', hr', hl⟩
    · omega
    · have := h.behind m hm r' hr'
      omega
  simp only [halfRange] at h₁ h₂
  exact wire_inj_of_near heq (by omega) (by omega)

/-- The bit of a number about to leave the loop tells whether it was announced as lost. -/
lemma HolesInv.holeAt_iff (h : HolesInv s) (hB : BufferInv S s) {n : ℕ} (hn : n ∈ s.nums)
    (hle : n ≤ s.lack) : s.igRegs.HoleAt (wire 16 n) ↔ s.Notified n := by
  rw [h.holeAt]
  constructor
  · rintro ⟨m, hm, heq, hnot⟩
    rwa [← h.eq_of_wire_eq hB hm hn hnot hle heq.symm]
  · intro hnot
    exact ⟨n, hn, rfl, hnot⟩

/-- An acknowledged number that was not announced as lost was delivered.  A leading ack does not say
so by itself, it only says that everything below it is settled; it is the completeness of the
notifications that rules out a loss. -/
lemma delivered_of_not_notified (hI : Inv S s) {n : ℕ} (hle : n ≤ s.lack)
    (hnot : ¬ s.Notified n) : n = 0 ∨ n ∈ Link.deliveredIn s.link.fates := by
  have hB := hI.buffer
  rcases lack_cases s with h0 | ⟨r, hr, hl⟩
  · exact Or.inl (by omega)
  · have hlt : n < s.link.expected := by
      have := hB.accounted_lt hr
      omega
    rcases hB.link.ledger.settled n hlt with hd | hlost
    · exact Or.inr hd
    · -- a lost number below the expected one was announced, so its notification is still to come
      obtain ⟨r', hr', hcov⟩ := hB.link.covers_of_lost hlt hlost
      obtain ⟨i, hi⟩ := List.mem_iff_getElem?.mp hr'
      have hfirst := (Link.Report.le_accounted_of_covers (hB.link.ledger.exact r' hr') hcov).1
      have hnotif := Link.Report.isNotification_of_covers hcov
      rcases Nat.lt_or_ge (s.notifiedBefore i) s.notified with hdone | hahead
      · exact absurd ⟨r', hI.order.done i r' hi hnotif hdone, hcov⟩ hnot
      · have := hI.order.ahead i r' hi hnotif hahead r hr
        omega

lemma Decision.Sound.mono {fates fates' : List (Link.Packet × Bool)} {n : ℕ} {d : Decision}
    (hpre : fates <+: fates') (h : d.Sound fates n) : d.Sound fates' n := by
  obtain ⟨more, rfl⟩ := hpre
  cases d with
  | dropped =>
    refine h.imp_right fun hd => ?_
    rw [Link.deliveredIn_append]
    exact List.mem_append_left _ hd
  | retransmitted =>
    change n ∈ Link.lostIn (fates ++ more)
    rw [Link.lostIn_append]
    exact List.mem_append_left _ h

/-! ## Steps -/

lemma firstKept_step {le : Link.Event} {l : Link.State} (h : 0 ∉ Link.lostIn s.link.fates)
    (hG : SparseLosses s (.link le)) (hstep : Link.step S.link s.link le = some l) :
    0 ∉ Link.lostIn l.fates := by
  rcases Link.step_cases hstep with ⟨hdr, q, r, rfl, -, rfl⟩ | ⟨hdr, rfl, -, rfl | rfl⟩ |
    ⟨p, ps, rfl, hlink, rfl⟩ | ⟨p, ps, rfl, -, -, rfl⟩
  · exact h
  · exact h
  · exact h
  · simp only [Link.State.afterLoss, Link.lostIn_append, List.mem_append, Link.mem_lostIn_lost]
    rintro (h0 | ⟨hdata, hnum⟩)
    · exact h h0
    · exact (hG p (by rw [hlink]; rfl) hdata).2 hnum.symm
  · simpa [Link.State.afterArrival] using h

lemma HolesInv.afterLink (h : HolesInv s) (hB : BufferInv S s) {le : Link.Event} {l : Link.State}
    (hG : SparseLosses s (.link le)) (hstep : Link.step S.link s.link le = some l) :
    HolesInv (s.afterLink l (newCopies S s le)) := by
  -- five losses in a row at most, as many as there are bitmaps
  have hbound : Link.LossBound 6 s.link le := by
    cases le with
    | lose => exact fun p hp hdata => Nat.lt_succ_of_le (hG p hp hdata).1
    | data | dummy | arrive => trivial
  have hsmall := Link.smallHoles_step hB.link h.smallHoles hbound hstep
  have hfates := (Link.step_grows hstep).2.1
  have hst := hB.link.sequenced.le
  have hnums : ∀ n ∈ (s.afterLink l (newCopies S s le)).nums, n ∈ s.nums ∨
      (n = s.link.stamped ∧ l.stamped = s.link.stamped + 1) := by
    intro n hn
    rw [State.nums, State.afterLink, List.map_append] at hn
    rcases List.mem_append.mp hn with hn | hn
    · exact Or.inl hn
    · rcases newCopies_cases hB.link hstep with ⟨copy, hnew, -, hstamp⟩ | ⟨hnew, -⟩
      · rw [hnew, List.map_singleton, List.mem_singleton] at hn
        exact Or.inr ⟨hn, hstamp⟩
      · rw [hnew] at hn
        exact absurd hn List.not_mem_nil
  have hkeep : ∀ n ∈ s.nums, n ∈ (s.afterLink l (newCopies S s le)).nums := by
    intro n hn
    rw [State.nums, State.afterLink, List.map_append]
    exact List.mem_append_left _ hn
  have hle : s.link.stamped ≤ l.stamped := by
    rcases newCopies_cases hB.link hstep with ⟨-, -, -, hstamp⟩ | ⟨-, hstamp⟩ <;> omega
  refine ⟨hsmall, firstKept_step h.firstKept hG hstep, ?_, ?_, ?_, h.once, ?_⟩
  · intro n hn r hr
    rcases hnums n hn with hn | ⟨rfl, -⟩
    · exact h.behind n hn r hr
    · have := hB.accounted_lt hr
      omega
  · intro x
    rw [show (s.afterLink l (newCopies S s le)).igRegs = s.igRegs from rfl, h.holeAt]
    constructor
    · rintro ⟨n, hn, hx, hnot⟩
      exact ⟨n, hkeep n hn, hx, hnot⟩
    · rintro ⟨n, hn, hx, hnot⟩
      rcases hnums n hn with hn | ⟨rfl, -⟩
      · exact ⟨n, hn, hx, hnot⟩
      · -- a number just stamped has not been announced
        obtain ⟨r, hr, hacc, -⟩ := Notified.le hB hnot
        have := hB.accounted_lt hr
        omega
  · intro p hp
    obtain ⟨hout, hlt, hsound⟩ := h.decided p hp
    refine ⟨fun hn => ?_, Nat.lt_of_lt_of_le hlt hle, hsound.mono hfates⟩
    rcases hnums p.1 hn with hn | ⟨heq, -⟩
    · exact hout hn
    · omega
  · intro n hn
    rcases newCopies_cases hB.link hstep with ⟨copy, hnew, -, hstamp⟩ | ⟨-, hstamp⟩
    · rcases Nat.lt_or_ge n s.link.stamped with hlt | hge
      · exact (h.recorded n hlt).imp_left (hkeep n)
      · have hlast : n < s.link.stamped + 1 := hstamp ▸ hn
        left
        rw [State.nums, State.afterLink, hnew, List.map_append, show n = s.link.stamped by omega]
        exact List.mem_append_right _ List.mem_cons_self
    · exact (h.recorded n (hstamp ▸ hn)).imp_left (hkeep n)

lemma HolesInv.afterReport (h : HolesInv s) (hI : Inv S s) {i : ℕ} {r : Link.Report} {hdr : Hdr}
    (hi : s.link.reports[i]? = some r) (hb : Bears r hdr)
    (hnext : r.isNotification = true → s.notified ≤ s.notifiedBefore i)
    (hw : Windowed (s.afterReport r (igPass S s.igRegs S.link.egressPort hdr).regs)) :
    HolesInv (s.afterReport r (igPass S s.igRegs S.link.egressPort hdr).regs) := by
  have hB := hI.buffer
  have hmem := List.mem_of_getElem? hi
  have hmark := (report_spec (S := S) s.igRegs hb (hB.link.ledger.exact r hmem)).2
    (fun hnot => ⟨hB.ordered.gap r hmem hnot, h.smallHoles.reports r hmem⟩)
  refine ⟨h.smallHoles, h.firstKept, ?_, ?_, h.decided, h.once, h.recorded⟩
  · intro n hn r' hr'
    rcases List.mem_cons.mp hr' with rfl | hr'
    · exact (hw n hn).2
    · exact h.behind n hn r' hr'
  · intro x
    refine (hmark x).trans ?_
    rw [h.holeAt]
    constructor
    · rintro (⟨n, hn, hx, r', hr', hcov⟩ | ⟨n, hcov, hx⟩)
      · exact ⟨n, hn, hx, r', List.mem_cons_of_mem r hr', hcov⟩
      · -- a covered packet was lost, so it is not packet 0 and its copy is still there
        have hnotif := Link.Report.isNotification_of_covers hcov
        have h0 : n ≠ 0 := by
          rintro rfl
          exact h.firstKept (hB.link.lost_of_covers hmem hcov)
        exact ⟨n, covered_mem_nums hI hi hnotif (hnext hnotif) hcov h0, hx, r,
          List.mem_cons_self, hcov⟩
    · rintro ⟨n, hn, hx, r', hr', hcov⟩
      rcases List.mem_cons.mp hr' with rfl | hr'
      · exact Or.inr ⟨n, hcov, hx⟩
      · exact Or.inl ⟨n, hn, hx, r', hr', hcov⟩

/-- The decision on an acknowledged copy is right. -/
lemma HolesInv.sound (h : HolesInv s) (hI : Inv S s) {n : ℕ} (hn : n ∈ s.nums) (hle : n ≤ s.lack) :
    (if s.igRegs.HoleAt (wire 16 n) then Decision.retransmitted else .dropped).Sound
      s.link.fates n := by
  have hiff := h.holeAt_iff hI.buffer hn hle
  split
  · rename_i hset
    obtain ⟨-, -, -, hlost⟩ := Notified.le hI.buffer (hiff.mp hset)
    exact hlost
  · rename_i hunset
    exact delivered_of_not_notified hI hle fun hc => hunset (hiff.mpr hc)

/-- A copy that goes round once more. -/
lemma HolesInv.recirculated (h : HolesInv s) (hlink : s'.link = s.link)
    (hproc : s'.processed = s.processed) (hdec : s'.decided = s.decided)
    (hin : ∀ m, m ∈ s'.nums ↔ m ∈ s.nums)
    (hhole : ∀ x, s'.igRegs.HoleAt x ↔ s.igRegs.HoleAt x) : HolesInv s' := by
  refine ⟨by rw [hlink]; exact h.smallHoles, by rw [hlink]; exact h.firstKept, ?_, ?_, ?_,
    by rw [hdec]; exact h.once, ?_⟩
  · intro m hm r hr
    rw [hproc] at hr
    exact h.behind m ((hin m).mp hm) r hr
  · intro x
    rw [hhole, h.holeAt]
    simp only [hin, State.Notified, hproc]
  · intro p hp
    rw [hdec] at hp
    rw [hin, hlink]
    exact h.decided p hp
  · intro m hm
    rw [hlink] at hm
    rw [hin, hdec]
    exact h.recorded m hm

/-- An acknowledged copy that leaves the loop takes its own bit along and no other. -/
lemma HolesInv.released (h : HolesInv s) (hB : BufferInv S s) {n : ℕ} {d : Decision}
    (hn : n ∈ s.nums) (hle : n ≤ s.lack) (hsound : d.Sound s.link.fates n)
    (hlink : s'.link = s.link) (hproc : s'.processed = s.processed)
    (hdec : s'.decided = s.decided ++ [(n, d)]) (hin : ∀ m, m ∈ s.nums ↔ m = n ∨ m ∈ s'.nums)
    (hout : n ∉ s'.nums)
    (hhole : ∀ x, s'.igRegs.HoleAt x ↔ s.igRegs.HoleAt x ∧ x ≠ wire 16 n) : HolesInv s' := by
  have hnot : ∀ m, s'.Notified m ↔ s.Notified m := by
    intro m
    rw [State.Notified, State.Notified, hproc]
  refine ⟨by rw [hlink]; exact h.smallHoles, by rw [hlink]; exact h.firstKept, ?_, ?_, ?_, ?_, ?_⟩
  · intro m hm r hr
    rw [hproc] at hr
    exact h.behind m ((hin m).mpr (Or.inr hm)) r hr
  · intro x
    rw [hhole, h.holeAt]
    simp only [hnot]
    constructor
    · rintro ⟨⟨m, hm, hx, hm'⟩, hne⟩
      rcases (hin m).mp hm with rfl | hm
      · exact absurd hx hne
      · exact ⟨m, hm, hx, hm'⟩
    · rintro ⟨m, hm, hx, hm'⟩
      have hms := (hin m).mpr (Or.inr hm)
      -- another marked number in the loop has another sequence number: the window keeps the two
      -- apart
      refine ⟨⟨m, hms, hx, hm'⟩, fun heq => hout ?_⟩
      rwa [← h.eq_of_wire_eq hB hms hn hm' hle (hx.symm.trans heq)]
  · intro p hp
    rw [hdec] at hp
    rw [hlink]
    rcases List.mem_append.mp hp with hp | hp
    · obtain ⟨h₁, h₂, h₃⟩ := h.decided p hp
      exact ⟨fun hm => h₁ ((hin _).mpr (Or.inr hm)), h₂, h₃⟩
    · rw [List.mem_singleton.mp hp]
      exact ⟨hout, hB.below n hn, hsound⟩
  · rw [hdec, List.map_append]
    refine List.nodup_append'.mpr ⟨h.once, List.nodup_singleton _, ?_⟩
    rw [List.map_singleton, List.disjoint_singleton]
    intro hd
    obtain ⟨p, hp, hpn⟩ := List.mem_map.mp hd
    exact (h.decided p hp).1 (hpn ▸ hn)
  · intro m hm
    rw [hlink] at hm
    rw [hdec]
    rcases h.recorded m hm with hms | ⟨d, hd⟩
    · rcases (hin m).mp hms with rfl | hms'
      · exact Or.inr ⟨_, List.mem_append_right _ List.mem_cons_self⟩
      · exact Or.inl hms'
    · exact Or.inr ⟨d, List.mem_append_left _ hd⟩

lemma HolesInv.afterCopy (h : HolesInv s) (hI : Inv S s) (hw : Windowed s) {i n : ℕ} {hdr : Hdr}
    (hget : s.buffer[i]? = some (n, hdr)) :
    HolesInv (s.afterCopy i n (igPass S s.igRegs recircLpbkPort hdr)) := by
  have hB := hI.buffer
  have hmem := List.mem_of_getElem? hget
  have hn : n ∈ s.nums := List.mem_map_of_mem hmem
  have hpass := copy_spec (hB.copies _ hmem) hB.storesLack (hw n hn)
  have hperm := nums_perm hget
  have hcases := afterCopy_cases hB hw hget
  obtain ⟨hlink, hproc, hregs⟩ :=
    afterCopy_keeps s i n (igPass S s.igRegs recircLpbkPort hdr)
  have hhole : ∀ x, (s.afterCopy i n (igPass S s.igRegs recircLpbkPort hdr)).igRegs.HoleAt x ↔
      s.igRegs.HoleAt x ∧ (n ≤ s.lack → x ≠ wire 16 n) := by
    intro x
    rw [hregs]
    exact hpass.holeAt x
  generalize s.afterCopy i n (igPass S s.igRegs recircLpbkPort hdr) = s' at *
  rcases hcases with ⟨hlt, hdec, hbuf⟩ | ⟨hle, hdec, hbuf⟩
  · refine h.recirculated hlink hproc hdec (fun m => ?_) fun x =>
      (hhole x).trans (and_iff_left fun hle => absurd hle (not_le.mpr hlt))
    rw [State.nums, hbuf, List.map_append]
    exact ((List.perm_append_singleton n _).trans hperm).mem_iff
  · have hnums : s'.nums = (s.buffer.eraseIdx i).map Prod.fst := by rw [State.nums, hbuf]
    refine h.released hB hn hle (h.sound hI hn hle) hlink hproc hdec (fun m => ?_) ?_ fun x =>
      (hhole x).trans (and_congr_right' ⟨fun hne => hne hle, fun hne _ => hne⟩)
    · rw [hnums, ← hperm.mem_iff, List.mem_cons]
    · rw [hnums]
      exact (List.nodup_cons.mp (hperm.nodup_iff.mpr hB.nodup)).1

/-- **Step lemma.** -/
theorem holesInv_step {e : Event} (h : HolesInv s) (hI : Inv S s) (hw : Windowed s)
    (hw' : Windowed s') (hR : ReportsInOrder s e) (hL : SparseLosses s e)
    (hs : step S s e = some s') : HolesInv s' := by
  rcases step_cases hs with ⟨le, l, rfl, hstep, rfl⟩ | ⟨i, hdr, r, rfl, hget, hb, rfl⟩ |
    ⟨i, n, hdr, rfl, hget, rfl⟩
  · exact h.afterLink hI.buffer hL hstep
  · exact h.afterReport hI hget hb (hR r hget).2 hw'
  · exact h.afterCopy hI hw hget

/-- The conditions on the steps of a run. -/
def Guard (s : State) (e : Event) : Prop := ReportsInOrder s e ∧ SparseLosses s e

instance (s : State) : DecidablePred (Guard s) := fun _ => inferInstanceAs (Decidable (_ ∧ _))

/-- The invariant of the safety proof.  The second half speaks of the bitmaps, which the release
alone does not need. -/
structure SafetyInv (S : Setup) (s : State) : Prop where
  inv : Inv S s
  holes : HolesInv s

/-- **The sender buffer is safe.**  In every run with a window, notifications in order and
sparse losses: the copy of a lost packet is never dropped, the copy of a packet is
retransmitted only if the packet was lost, each copy is decided on once, and the copy of a lost
packet is still in the loop until it is retransmitted. -/
theorem sender_buffer_safe (S : Setup) (es : List Event) (s : State)
    (hrun : run (step S) (init S) es = some s) (hw : Throughout (step S) Windowed (init S) es)
    (hG : Along (step S) Guard (init S) es) :
    (∀ n, (n, Decision.dropped) ∈ s.decided → n ∉ Link.lostIn s.link.fates) ∧
      (∀ n, (n, Decision.retransmitted) ∈ s.decided → n ∈ Link.lostIn s.link.fates) ∧
      (s.decided.map Prod.fst).Nodup ∧
      ∀ n ∈ Link.lostIn s.link.fates, n ∈ s.nums ∨ (n, Decision.retransmitted) ∈ s.decided := by
  have h : SafetyInv S s := run_invariant_throughout
    (fun _ _ _ h hw hw' hG hs =>
      ⟨inv_step h.inv hw hG.1 hs, holesInv_step h.holes h.inv hw hw' hG.1 hG.2 hs⟩)
    ⟨inv_init S, holesInv_init S⟩ hw hG hrun
  have hlink := h.inv.buffer.link
  have hdrop : ∀ n, (n, Decision.dropped) ∈ s.decided → n ∉ Link.lostIn s.link.fates := by
    intro n hn hlost
    rcases (h.holes.decided _ hn).2.2 with h0 | hd
    · change n = 0 at h0
      rw [h0] at hlost
      exact h.holes.firstKept hlost
    · exact (hlink.ledger.lost n hlost).2 hd
  refine ⟨hdrop, fun n hn => (h.holes.decided _ hn).2.2, h.holes.once, fun n hlost => ?_⟩
  have hlt := (hlink.ledger.lost n hlost).1
  have hst := hlink.sequenced.le
  rcases h.holes.recorded n (by omega) with hin | ⟨d, hd⟩
  · exact Or.inl hin
  · cases d with
    | dropped => exact absurd hlost (hdrop n hd)
    | retransmitted => exact Or.inr hd

/-- A courier with a loss notification for packet 1, leading ack 2. -/
def notificationHdr : Hdr :=
  { (default : Hdr) with
    linkradarLack := .of ⟨linkradarHdrTypeLackLossNotify, 0, 0, 0, 2⟩
    linkradarLossNotification := .of ⟨1, 1⟩ }

/-- Of three packets the middle one is lost; its notification arrives, and the copies pass. -/
def oneLossRun : List Event :=
  [.link (.data default 0 0), .link (.data default 0 0), .link (.data default 0 0),
    .link .arrive, .link .lose, .buffered 1, .link .arrive, .report 1 notificationHdr,
    .buffered 0, .buffered 0, .buffered 0]

/-- The copy of the lost packet is retransmitted, the others are dropped. -/
theorem sender_buffer_safe_one_loss :
    ∃ s, run (step buffer36) (init buffer36) oneLossRun = some s ∧
      s.decided = [(0, .dropped), (2, .dropped), (1, .retransmitted)] ∧
      1 ∈ Link.lostIn s.link.fates ∧ 2 ∉ Link.lostIn s.link.fates := by
  have hrun : (run (step buffer36) (init buffer36) oneLossRun).any (fun s =>
      decide (s.decided = [(0, .dropped), (2, .dropped), (1, .retransmitted)])) := by
    decide +kernel
  obtain ⟨s, hs, hdec⟩ := (Option.any_eq_true _ _).mp hrun
  have hdec := of_decide_eq_true hdec
  obtain ⟨hdrop, hretx, -⟩ :=
    sender_buffer_safe buffer36 oneLossRun s hs (by decide +kernel) (by decide +kernel)
  exact ⟨s, hs, hdec, hretx 1 (by rw [hdec]; simp), hdrop 2 (by rw [hdec]; simp)⟩

end LinkGuardian.Buffer
