import LinkGuardian.Corruptd.PollCounters
import LinkGuardian.Library.MovingWindow

/-!
# corruptd: the monitoring window

The window of a port is to move along its deltas: the most recent ones that stay within the
threshold.  The loop that trims the windows takes off the newest delta instead of the oldest, so
that the windows keep whatever fitted first (`Tracks`), and move only as long as nothing is
trimmed at all.  Besides, an offset of 0 is taken for one that is not set yet, so that the delta
with which a counter leaves 0 is lost.

`window_moves_iff` gives the exact condition on the polls of a port: nothing is ever trimmed, and no
counter is read as 0 before it is read as something else.  The deltas that the windows are compared
with are the differences of successive readings, whatever the code makes of these.
-/

namespace LinkGuardian.Corruptd

open MovingWindow

/-! ## Readings and deltas -/

/-- The readings of a port, in the order of its polls. -/
def readings (p : ℤ) (polls : List PortPoll) : List (ℕ × ℕ) :=
  (polls.filter fun e => e.devPort = p).map fun e => (e.framesRxOk, e.framesRxAll)

/-- How far both counters have come since the reading before; the first one has none before it. -/
def delta : Option (ℕ × ℕ) → ℕ × ℕ → ℤ × ℤ
  | none, _ => (0, 0)
  | some prev, r => ((r.1 : ℤ) - prev.1, (r.2 : ℤ) - prev.2)

def deltasFrom : Option (ℕ × ℕ) → List (ℕ × ℕ) → List (ℤ × ℤ)
  | _, [] => []
  | prev, r :: rs => delta prev r :: deltasFrom (some r) rs

/-- The deltas of the polls of a port: the differences of successive readings. -/
def deltas (p : ℤ) (polls : List PortPoll) : List (ℤ × ℤ) := deltasFrom none (readings p polls)

def polledDeltasFrom : ℕ × ℕ → List (ℕ × ℕ) → List (ℤ × ℤ)
  | _, [] => []
  | prev, r :: rs =>
    (rxDelta (some prev.1) r.1, rxDelta (some prev.2) r.2) :: polledDeltasFrom r rs

/-- What `poll_counters` makes of the readings instead. -/
def polledDeltas (p : ℤ) (polls : List PortPoll) : List (ℤ × ℤ) :=
  polledDeltasFrom (0, 0) (readings p polls)

/-- Readings of the two counters of a port.  Hardware counters only grow, and a frame that is OK is
counted in both. -/
structure Counting (rs : List (ℕ × ℕ)) : Prop where
  ok_le_all : ∀ r ∈ rs, r.1 ≤ r.2
  monotone : rs.Pairwise fun r r' => r.1 ≤ r'.1 ∧ r.2 ≤ r'.2

/-- No counter goes from a reading of 0 to a positive one. -/
def StaysOffZero (rs : List (ℕ × ℕ)) : Prop :=
  rs.IsChain fun r r' => (r.1 = 0 → r'.1 = 0) ∧ (r.2 = 0 → r'.2 = 0)

instance : DecidablePred StaysOffZero := fun rs => inferInstanceAs (Decidable (rs.IsChain _))

/-- How much a counter has grown from its first reading to its last. -/
def growth (frames : List ℕ) : ℤ := frames.getLastD 0 - frames.headD 0

@[simp] lemma readings_nil (p : ℤ) : readings p [] = [] := rfl

lemma readings_append (p : ℤ) (polls polls' : List PortPoll) :
    readings p (polls ++ polls') = readings p polls ++ readings p polls' := by
  simp [readings]

lemma readings_self (e : PortPoll) :
    readings e.devPort [e] = [(e.framesRxOk, e.framesRxAll)] := by
  simp [readings]

lemma readings_of_ne {p : ℤ} {e : PortPoll} (h : e.devPort ≠ p) : readings p [e] = [] := by
  simp [readings, h]

lemma Counting.of_append {p : ℤ} {polls polls' : List PortPoll}
    (h : Counting (readings p (polls ++ polls'))) : Counting (readings p polls) := by
  rw [readings_append] at h
  exact ⟨fun r hr => h.ok_le_all r (List.mem_append_left _ hr),
    (List.pairwise_append.mp h.monotone).1⟩

/-! ## The deltas of the readings -/

lemma deltasFrom_append (prev : ℕ × ℕ) (rs rs' : List (ℕ × ℕ)) :
    deltasFrom (some prev) (rs ++ rs') =
      deltasFrom (some prev) rs ++ deltasFrom (some (rs.getLastD prev)) rs' := by
  induction rs generalizing prev with
  | nil => rfl
  | cons r rs ih => simp only [List.cons_append, deltasFrom, ih r, List.getLastD_cons]

lemma deltas_append (p : ℤ) (polls polls' : List PortPoll) :
    ∃ rest, deltas p (polls ++ polls') = deltas p polls ++ rest := by
  rw [deltas, readings_append, deltas]
  cases readings p polls with
  | nil => exact ⟨_, rfl⟩
  | cons r rs =>
    refine ⟨deltasFrom (some (rs.getLastD r)) (readings p polls'), ?_⟩
    rw [List.cons_append, deltasFrom, deltasFrom, deltasFrom_append]
    rfl

lemma deltasFrom_nonneg {prev : Option (ℕ × ℕ)} {rs : List (ℕ × ℕ)}
    (h : (prev.toList ++ rs).Pairwise fun r r' => r.1 ≤ r'.1 ∧ r.2 ≤ r'.2) :
    ∀ d ∈ deltasFrom prev rs, 0 ≤ d.2 := by
  induction rs generalizing prev with
  | nil => simp [deltasFrom]
  | cons r rs ih =>
    obtain ⟨-, hrs, hprev⟩ := List.pairwise_append.mp h
    intro d hd
    rcases List.mem_cons.mp hd with rfl | hd
    · cases prev with
      | none => exact le_rfl
      | some prev =>
        have hle := (hprev prev (by simp) r List.mem_cons_self).2
        simp only [delta]
        omega
    · exact @ih (some r) hrs d hd

lemma Counting.deltas_nonneg {p : ℤ} {polls : List PortPoll} (h : Counting (readings p polls)) :
    ∀ d ∈ deltas p polls, 0 ≤ d.2 :=
  deltasFrom_nonneg h.monotone

/-- The first delta is 0: there is no reading before it that a counter could have come from. -/
lemma deltas_head (p : ℤ) (polls : List PortPoll) : ∀ d ∈ (deltas p polls).head?, d.2 = 0 := by
  unfold deltas
  cases readings p polls with
  | nil => simp [deltasFrom]
  | cons r rs => simp [deltasFrom, delta]

lemma total_deltasFrom (prev : ℕ × ℕ) (rs : List (ℕ × ℕ)) :
    total Prod.snd (deltasFrom (some prev) rs) =
      ((rs.map Prod.snd).getLastD prev.2 : ℕ) - prev.2 := by
  induction rs generalizing prev with
  | nil => simp [deltasFrom]
  | cons r rs ih =>
    simp only [deltasFrom, total_cons, ih, delta, List.map_cons, List.getLastD_cons]
    omega

/-- The deltas add up to the growth of the counter. -/
lemma total_deltas (p : ℤ) (polls : List PortPoll) :
    total Prod.snd (deltas p polls) = growth ((readings p polls).map Prod.snd) := by
  unfold deltas
  cases readings p polls with
  | nil => simp [deltasFrom, growth]
  | cons r rs =>
    simp only [deltasFrom, total_cons, total_deltasFrom, delta, zero_add, growth, List.map_cons,
      List.getLastD_cons, List.headD_cons]

lemma total_deltas_append {p : ℤ} {polls polls' : List PortPoll}
    (h : Counting (readings p (polls ++ polls'))) :
    total Prod.snd (deltas p polls) ≤ total Prod.snd (deltas p (polls ++ polls')) := by
  have hnonneg := h.deltas_nonneg
  obtain ⟨rest, hrest⟩ := deltas_append p polls polls'
  rw [hrest] at hnonneg ⊢
  rw [total_append]
  have hpos : 0 ≤ total Prod.snd rest :=
    total_nonneg Prod.snd fun d hd => hnonneg d (List.mem_append_right _ hd)
  omega

/-! ## The deltas of `poll_counters` -/

lemma rxDelta_of_zero (frames : ℕ) : rxDelta (some 0) frames = 0 := by
  simp [rxDelta]

lemma rxDelta_of_pos {prev : ℕ} (h : 0 < prev) (frames : ℕ) :
    rxDelta (some prev) frames = frames - prev := by
  simp [rxDelta, h.ne']

/-- Only a counter that leaves 0 has another delta. -/
lemma rxDelta_eq_sub_iff {prev frames : ℕ} :
    rxDelta (some prev) frames = frames - prev ↔ (prev = 0 → frames = 0) := by
  rcases Nat.eq_zero_or_pos prev with rfl | hpos
  · rw [rxDelta_of_zero]
    omega
  · rw [rxDelta_of_pos hpos]
    omega

lemma polledDeltasFrom_append (prev : ℕ × ℕ) (rs rs' : List (ℕ × ℕ)) :
    polledDeltasFrom prev (rs ++ rs') =
      polledDeltasFrom prev rs ++ polledDeltasFrom (rs.getLastD prev) rs' := by
  induction rs generalizing prev with
  | nil => rfl
  | cons r rs ih => simp only [List.cons_append, polledDeltasFrom, ih r, List.getLastD_cons]

lemma polledDeltasFrom_eq_iff (prev : ℕ × ℕ) (rs : List (ℕ × ℕ)) :
    polledDeltasFrom prev rs = deltasFrom (some prev) rs ↔ StaysOffZero (prev :: rs) := by
  induction rs generalizing prev with
  | nil => simp [polledDeltasFrom, deltasFrom, StaysOffZero]
  | cons r rs ih =>
    simp only [StaysOffZero] at ih
    simp only [polledDeltasFrom, deltasFrom, delta, List.cons.injEq, Prod.mk.injEq,
      rxDelta_eq_sub_iff, ih, StaysOffZero, List.isChain_cons_cons]

/-- The two agree as long as no counter leaves 0. -/
lemma polledDeltas_eq_iff (p : ℤ) (polls : List PortPoll) :
    polledDeltas p polls = deltas p polls ↔ StaysOffZero (readings p polls) := by
  unfold polledDeltas deltas
  cases readings p polls with
  | nil => simp [polledDeltasFrom, deltasFrom, StaysOffZero]
  | cons r rs =>
    simp only [polledDeltasFrom, deltasFrom, delta, rxDelta_of_zero, List.cons.injEq, true_and,
      polledDeltasFrom_eq_iff]

/-- Where they differ, `poll_counters` has a delta of 0. -/
lemma countP_deltasFrom_le (prev : ℕ × ℕ) (rs : List (ℕ × ℕ)) :
    (deltasFrom (some prev) rs).countP (Prod.snd · = 0) ≤
      (polledDeltasFrom prev rs).countP (Prod.snd · = 0) := by
  induction rs generalizing prev with
  | nil => exact le_rfl
  | cons r rs ih =>
    have hle := ih r
    have hzero : (r.2 : ℤ) - prev.2 = 0 → rxDelta (some prev.2) r.2 = 0 := by
      rcases Nat.eq_zero_or_pos prev.2 with h | hpos
      · exact fun _ => h ▸ rxDelta_of_zero _
      · rw [rxDelta_of_pos hpos]
        exact id
    simp only [deltasFrom, polledDeltasFrom, delta, List.countP_cons, decide_eq_true_eq]
    split_ifs with h₁ h₂
    · omega
    · exact absurd (hzero h₁) h₂
    · omega
    · exact hle

lemma countP_deltas_le (p : ℤ) (polls : List PortPoll) :
    (deltas p polls).countP (Prod.snd · = 0) ≤ (polledDeltas p polls).countP (Prod.snd · = 0) := by
  unfold polledDeltas deltas
  cases readings p polls with
  | nil => exact le_rfl
  | cons r rs =>
    have hle := countP_deltasFrom_le r rs
    simp only [deltasFrom, polledDeltasFrom, delta, rxDelta_of_zero, List.countP_cons,
      decide_true, if_true]
    omega

lemma length_deltas (p : ℤ) (polls : List PortPoll) :
    (deltas p polls).length = (polledDeltas p polls).length := by
  have hdeltas : ∀ prev rs, (deltasFrom prev rs).length = rs.length := by
    intro prev rs
    induction rs generalizing prev with
    | nil => rfl
    | cons r rs ih => rw [deltasFrom, List.length_cons, ih, List.length_cons]
  have hpolled : ∀ prev rs, (polledDeltasFrom prev rs).length = rs.length := by
    intro prev rs
    induction rs generalizing prev with
    | nil => rfl
    | cons r rs ih => rw [polledDeltasFrom, List.length_cons, ih, List.length_cons]
  rw [deltas, polledDeltas, hdeltas, hpolled]

/-! ## What the windows really hold -/

/-- Trimming after a new delta keeps it if it fits. -/
lemma trim_greedy {kept : List (ℤ × ℤ)} {d : ℤ × ℤ}
    (hkept : total Prod.snd kept ≤ monitoringThreshold) :
    trim (kept.map Prod.fst ++ [d.1]) (kept.map Prod.snd ++ [d.2]) =
      let kept' := if total Prod.snd kept + d.2 ≤ monitoringThreshold then kept ++ [d] else kept
      some (kept'.map Prod.fst, kept'.map Prod.snd) := by
  have hsum : (kept.map Prod.snd ++ [d.2]).sum = total Prod.snd kept + d.2 := by simp [total]
  rw [trim, hsum]
  by_cases hfits : total Prod.snd kept + d.2 ≤ monitoringThreshold
  · simp [hfits, not_lt.mpr hfits]
  · -- the newest delta is taken off again
    have hback : ¬ monitoringThreshold < (kept.map Prod.snd).sum := not_lt.mpr hkept
    rw [if_pos (not_le.mp hfits), if_neg (by simp), List.dropLast_concat, List.dropLast_concat,
      trim, if_neg hback]
    simp [hfits]

/-- The windows hold every delta that fitted behind those that they held, and the offsets are the
last readings. -/
structure Tracks (p : ℤ) (polls : List PortPoll) (m : Monitor) : Prop where
  okWindow : m.okWindow p =
    (greedy Prod.snd monitoringThreshold (polledDeltas p polls)).map Prod.fst
  allWindow : m.allWindow p =
    (greedy Prod.snd monitoringThreshold (polledDeltas p polls)).map Prod.snd
  okOffset : (m.rxOkOffset p).getD 0 = ((readings p polls).getLastD (0, 0)).1
  allOffset : (m.rxAllOffset p).getD 0 = ((readings p polls).getLastD (0, 0)).2

lemma tracks_init (p : ℤ) : Tracks p [] .init := ⟨rfl, rfl, rfl, rfl⟩

lemma threshold_nonneg : 0 ≤ monitoringThreshold := by decide

lemma polledDeltas_self (e : PortPoll) (polls : List PortPoll) :
    polledDeltas e.devPort (polls ++ [e]) = polledDeltas e.devPort polls ++
      [(rxDelta (some ((readings e.devPort polls).getLastD (0, 0)).1) e.framesRxOk,
        rxDelta (some ((readings e.devPort polls).getLastD (0, 0)).2) e.framesRxAll)] := by
  simp only [polledDeltas, readings_append, readings_self, polledDeltasFrom_append]
  rfl

lemma Tracks.rxDeltas {polls : List PortPoll} {m : Monitor} {e : PortPoll}
    (h : Tracks e.devPort polls m) :
    polledDeltas e.devPort (polls ++ [e]) = polledDeltas e.devPort polls ++ [m.rxDeltas e] := by
  rw [polledDeltas_self, ← h.okOffset, ← h.allOffset]
  rfl

/-- **One poll**, of the port or of another. -/
lemma Tracks.step {switchId p : ℤ} {polls : List PortPoll} {m m' : Monitor} {e : PortPoll}
    (h : Tracks p polls m) (hpoll : m.pollPort switchId e = some m') :
    Tracks p (polls ++ [e]) m' := by
  obtain ⟨ok, all, htrim, hok, hall, hokOffset, hallOffset⟩ := Monitor.pollPort_windows hpoll
  by_cases hp : e.devPort = p
  · subst hp
    rw [h.okWindow, h.allWindow, trim_greedy (greedy_total_le threshold_nonneg _)] at htrim
    obtain ⟨rfl, rfl⟩ : _ ∧ _ := by simpa using htrim
    refine ⟨?_, ?_, ?_, ?_⟩
    · simp [Monitor.okWindow, hok, h.rxDeltas, greedy_concat]
    · simp [Monitor.allWindow, hall, h.rxDeltas, greedy_concat]
    · simp [hokOffset, readings_append, readings_self]
    · simp [hallOffset, readings_append, readings_self]
  · have hne : p ≠ e.devPort := fun heq => hp heq.symm
    have hreadings : readings p (polls ++ [e]) = readings p polls := by
      simp [readings_append, readings_of_ne hp]
    have hdeltas : polledDeltas p (polls ++ [e]) = polledDeltas p polls := by
      rw [polledDeltas, hreadings, polledDeltas]
    refine ⟨?_, ?_, ?_, ?_⟩
    · simp [Monitor.okWindow, hok, hne, hdeltas, ← h.okWindow]
    · simp [Monitor.allWindow, hall, hne, hdeltas, ← h.allWindow]
    · simpa [hokOffset, hne, hreadings] using h.okOffset
    · simpa [hallOffset, hne, hreadings] using h.allOffset

lemma tracks_of_iteration {switchId p : ℤ} {polls : List PortPoll} {m : Monitor}
    (h : Monitor.iteration switchId .init polls = some m) : Tracks p polls m :=
  Loop.invariant (P := fun pre m => Tracks p pre m) (tracks_init p)
    (fun _ _ _ _ _ _ h hpoll => h.step hpoll) h

/-- Iterations are the polls in them, one port after the other: no state is kept from one iteration
to the next besides what each poll leaves. -/
lemma pollCounters_eq_iteration (switchId : ℤ) (m : Monitor) (its : List (List PortPoll)) :
    Monitor.pollCounters switchId m its = Monitor.iteration switchId m its.flatten := by
  have hflat : its.flatten = its.flatMap id := by simp
  rw [hflat, Monitor.iteration, Loop.flatMap]
  rfl

/-! ## The property -/

/-- Both windows consist of the deltas of the same most recent polls, the longest such part that
stays within the threshold.  The deltas are those of the readings; nothing of it refers to what the
code has stored. -/
structure WindowMoves (p : ℤ) (polls : List PortPoll) (m : Monitor) : Prop where
  aligned : (m.okWindow p).length = (m.allWindow p).length
  recent : ∃ v, IsRecent Prod.snd monitoringThreshold (deltas p polls) v ∧
    m.okWindow p = v.map Prod.fst ∧ m.allWindow p = v.map Prod.snd

/-- The loss rate that a poll compares is that of the window before it and the newest delta. -/
def RateMoves (p : ℤ) (polls : List PortPoll) (m : Monitor) (e : PortPoll) : Prop :=
  let newest := delta (readings p polls).getLast? (e.framesRxOk, e.framesRxAll)
  ∀ rate ∈ (m.appendDeltas e).lossRate p,
    ∃ v, IsRecent Prod.snd monitoringThreshold (deltas p polls) v ∧
      rate = computeLossRate ((v ++ [newest]).map Prod.fst).sum ((v ++ [newest]).map Prod.snd).sum

lemma eq_of_maps {l l' : List (ℤ × ℤ)} (hfst : l.map Prod.fst = l'.map Prod.fst)
    (hsnd : l.map Prod.snd = l'.map Prod.snd) : l = l' := by
  rw [← List.zip_unzip l, ← List.zip_unzip l', List.unzip_eq_map, List.unzip_eq_map, hfst, hsnd]

/-- The windows are the most recent deltas exactly while nothing has been trimmed or lost. -/
lemma windowMoves_iff {p : ℤ} {polls : List PortPoll} {m : Monitor} (h : Tracks p polls m)
    (hread : Counting (readings p polls)) : WindowMoves p polls m ↔
      StaysOffZero (readings p polls) ∧
        growth ((readings p polls).map Prod.snd) ≤ monitoringThreshold := by
  rw [← total_deltas, ← polledDeltas_eq_iff, ← greedy_isRecent_iff threshold_nonneg
    hread.deltas_nonneg (deltas_head p polls) (length_deltas p polls) (countP_deltas_le p polls)]
  constructor
  · rintro ⟨-, v, hv, hok, hall⟩
    rw [h.okWindow] at hok
    rw [h.allWindow] at hall
    rwa [eq_of_maps hok hall]
  · intro hrecent
    exact ⟨by simp [h.okWindow, h.allWindow], _, hrecent, h.okWindow, h.allWindow⟩

lemma StaysOffZero.of_append {p : ℤ} {polls polls' : List PortPoll}
    (h : StaysOffZero (readings p (polls ++ polls'))) : StaysOffZero (readings p polls) := by
  rw [readings_append] at h
  exact h.left_of_append

/-- A poll within the threshold compares no loss rate. -/
lemma lossRate_eq_none {polls : List PortPoll} {m : Monitor} {e : PortPoll}
    (h : Tracks e.devPort polls m) (hread : Counting (readings e.devPort (polls ++ [e])))
    (hoff : StaysOffZero (readings e.devPort (polls ++ [e])))
    (htotal : total Prod.snd (deltas e.devPort (polls ++ [e])) ≤ monitoringThreshold) :
    (m.appendDeltas e).lossRate e.devPort = none := by
  have hbefore := total_deltas_append hread
  have hkept : greedy Prod.snd monitoringThreshold (polledDeltas e.devPort polls) =
      polledDeltas e.devPort polls := by
    rw [(polledDeltas_eq_iff _ _).mpr hoff.of_append]
    exact greedy_eq_self hread.of_append.deltas_nonneg (hbefore.trans htotal)
  have hall : (m.appendDeltas e).allWindow e.devPort =
      (deltas e.devPort (polls ++ [e])).map Prod.snd := by
    have happend : (m.appendDeltas e).allWindow e.devPort =
        m.allWindow e.devPort ++ [(m.rxDeltas e).2] := by
      simp [Monitor.allWindow, Monitor.appendDeltas]
    rw [happend, h.allWindow, hkept, ← (polledDeltas_eq_iff _ _).mpr hoff, h.rxDeltas,
      List.map_append]
    rfl
  rw [Monitor.lossRate, hall]
  exact if_neg (not_lt.mpr htotal)

/-- **The monitoring window**: after each iteration the windows of a port hold the most recent
deltas, and each loss rate is one of them with the newest delta, exactly if the port never
receives more frames than the threshold, that is, if no loss rate is ever computed, and neither
counter is read as 0 before it is read as something else. -/
theorem window_moves_iff (switchId p : ℤ) (its : List (List PortPoll)) (m : Monitor)
    (hrun : Monitor.pollCounters switchId .init its = some m)
    (hread : Counting (readings p its.flatten)) :
    ((∀ its₁ its₂ m₁, its = its₁ ++ its₂ → Monitor.pollCounters switchId .init its₁ = some m₁ →
        WindowMoves p its₁.flatten m₁) ∧
      ∀ polls₁ e polls₂ m₁, its.flatten = polls₁ ++ e :: polls₂ →
        Monitor.iteration switchId .init polls₁ = some m₁ → e.devPort = p →
        RateMoves p polls₁ m₁ e) ↔
      StaysOffZero (readings p its.flatten) ∧
        growth ((readings p its.flatten).map Prod.snd) ≤ monitoringThreshold := by
  rw [pollCounters_eq_iteration] at hrun
  constructor
  · rintro ⟨hwindows, -⟩
    have hlast := hwindows its [] m (by simp) (by rwa [pollCounters_eq_iteration])
    exact (windowMoves_iff (tracks_of_iteration hrun) hread).mp hlast
  · rintro ⟨hoff, hgrowth⟩
    rw [← total_deltas] at hgrowth
    refine ⟨fun its₁ its₂ m₁ hits hm₁ => ?_, fun polls₁ e polls₂ m₁ hits hm₁ hp => ?_⟩
    · rw [pollCounters_eq_iteration] at hm₁
      rw [hits, List.flatten_append] at hread hoff hgrowth
      rw [windowMoves_iff (tracks_of_iteration hm₁) hread.of_append, ← total_deltas]
      exact ⟨hoff.of_append, (total_deltas_append hread).trans hgrowth⟩
    · subst hp
      have hsplit : its.flatten = (polls₁ ++ [e]) ++ polls₂ := by simp [hits]
      rw [hsplit] at hread hoff hgrowth
      intro rate hrate
      rw [lossRate_eq_none (tracks_of_iteration hm₁) hread.of_append hoff.of_append
        ((total_deltas_append hread).trans hgrowth)] at hrate
      cases hrate

/-! ## Two runs -/

def noTopology : RedisContents := ⟨none, none, fun _ => none⟩

/-- Ten million frames fill the window of port 64, and the hundred after them are dropped from
it instead. -/
def busyPort : List (List PortPoll) :=
  [[⟨64, 1, 1, noTopology⟩], [⟨64, 10000001, 10000001, noTopology⟩],
    [⟨64, 10000100, 10000101, noTopology⟩]]

theorem window_frozen : ∃ m, Monitor.pollCounters 1 .init busyPort = some m ∧
    m.allWindow 64 = [0, 10000000] ∧ ¬ WindowMoves 64 busyPort.flatten m := by
  have hrun : (Monitor.pollCounters 1 .init busyPort).any
      (fun m => m.allWindow 64 = [0, 10000000]) = true := by decide +kernel
  obtain ⟨m, hm, hwindow⟩ := (Option.any_eq_true _ _).mp hrun
  have htracks : Tracks 64 busyPort.flatten m :=
    tracks_of_iteration (by rwa [← pollCounters_eq_iteration])
  have hread : Counting (readings 64 busyPort.flatten) := ⟨by decide, by decide⟩
  refine ⟨m, hm, of_decide_eq_true hwindow, ?_⟩
  rw [windowMoves_iff htracks hread]
  decide +kernel

-- the first three frames that are OK are missing: the counter of them had been 0
example : (Monitor.pollCounters 1 .init [[⟨64, 0, 1, noTopology⟩], [⟨64, 0, 6, noTopology⟩],
    [⟨64, 3, 9, noTopology⟩]]).map (fun m => (m.okWindow 64, m.allWindow 64)) =
      some ([0, 0, 0], [0, 5, 3]) := by
  decide +kernel

/-- With the first two readings alone the window has moved. -/
theorem window_moves_quiet : ∃ m, Monitor.pollCounters 1 .init (busyPort.take 2) = some m ∧
    WindowMoves 64 (busyPort.take 2).flatten m := by
  have hrun : (Monitor.pollCounters 1 .init (busyPort.take 2)).isSome = true := by decide +kernel
  obtain ⟨m, hm⟩ := Option.isSome_iff_exists.mp hrun
  have hread : Counting (readings 64 (busyPort.take 2).flatten) := ⟨by decide, by decide⟩
  obtain ⟨hwindows, -⟩ := (window_moves_iff 1 64 _ m hm hread).mpr (by decide +kernel)
  exact ⟨m, hm, hwindows _ [] m (by simp) hm⟩

end LinkGuardian.Corruptd
