import LinkGuardian.Corruptd.PollCounters

/-!
# corruptd: when a poll publishes

A bad link is reported to the upstream switch unless its port is protected already.  The tuple by
which `get_upstream` says that it knows no upstream is compared with one of another length, so that
it passes for the port -1 of switch -1, and the lookup of the protection and the message are made
for that port.

`exists_report` is the poll of a bad link in one equation: windows and loss rate do not depend on
what Redis answers, and what is published depends on nothing else.
-/

namespace LinkGuardian.Corruptd

namespace Monitor

variable {switchId : ℤ} {m : Monitor} {e : PortPoll}

/-! ## The windows of a port -/

/-- The two windows of a port have the same length. -/
def Aligned (m : Monitor) (p : ℤ) : Prop := (m.okWindow p).length = (m.allWindow p).length

/-- Trimming windows of the same length raises no exception and leaves the same length. -/
lemma exists_trim (ok all : List ℤ) (h : ok.length = all.length) :
    ∃ w, trim ok all = some w ∧ w.1.length = w.2.length := by
  induction ok using List.reverseRecOn generalizing all with
  | nil =>
    have hall : all = [] := List.length_eq_zero_iff.mp h.symm
    exact ⟨([], []), by rw [hall, trim]; rfl, rfl⟩
  | append_singleton ok d ih =>
    by_cases hlong : monitoringThreshold < all.sum
    · obtain ⟨w, hw, hlen⟩ := ih all.dropLast (by simp [← h])
      exact ⟨w, by rw [trim, if_pos hlong, if_neg (by simp), List.dropLast_concat, hw], hlen⟩
    · exact ⟨(ok ++ [d], all), by rw [trim, if_neg hlong], h⟩

lemma aligned_init (p : ℤ) : init.Aligned p := rfl

lemma Aligned.appendDeltas {p : ℤ} (h : m.Aligned p) : (m.appendDeltas e).Aligned p := by
  unfold Aligned okWindow allWindow Monitor.appendDeltas at *
  by_cases hp : p = e.devPort
  · subst hp
    simpa [okWindow, allWindow] using h
  · simpa [hp] using h

lemma Aligned.pollPort {p : ℤ} {m' : Monitor} (h : m.Aligned p)
    (hpoll : m.pollPort switchId e = some m') : m'.Aligned p := by
  obtain ⟨ok, all, htrim, hok, hall, -, -⟩ := pollPort_windows hpoll
  unfold Aligned okWindow allWindow at h ⊢
  rw [hok, hall]
  by_cases hp : p = e.devPort
  · subst hp
    obtain ⟨w, hw, hlen⟩ := exists_trim (m.okWindow e.devPort ++ [(m.rxDeltas e).1])
      (m.allWindow e.devPort ++ [(m.rxDeltas e).2]) (by simpa [okWindow, allWindow] using h)
    obtain rfl : (ok, all) = w := Option.some_inj.mp (htrim.symm.trans hw)
    simpa using hlen
  · simpa [hp] using h

/-- **The windows of a port always have the same length.**  So what `decides_iff` asks of a state
holds in every state that a daemon reaches. -/
theorem aligned_pollCounters {its : List (List PortPoll)}
    (h : pollCounters switchId .init its = some m) (p : ℤ) : m.Aligned p := by
  refine Loop.preserve (P := fun m => m.Aligned p) (aligned_init p)
    (fun polls _ s s' hs hit => ?_) h
  exact Loop.preserve (P := fun m => m.Aligned p) hs (fun _ _ _ _ hs hpoll => hs.pollPort hpoll) hit

/-! ## What a poll publishes -/

/-- A poll that does not find a bad link publishes nothing. -/
lemma pollPort_of_good (switchId : ℤ) (haligned : m.Aligned e.devPort)
    (hgood : ∀ rate ∈ (m.appendDeltas e).lossRate e.devPort, rate < lossRateThreshold1) :
    ∃ m', m.pollPort switchId e = some m' ∧ m'.published = m.published := by
  unfold Monitor.pollPort
  cases hrate : (m.appendDeltas e).lossRate e.devPort with
  | none => exact ⟨m.appendDeltas e, by simp [hrate], rfl⟩
  | some rate =>
    obtain ⟨w, hw, -⟩ := exists_trim _ _ (haligned.appendDeltas (e := e))
    have hbad : isLinkBad rate = false := by simpa [isLinkBad] using hgood rate hrate
    exact ⟨(m.appendDeltas e).setWindows e.devPort w.1 w.2, by simp [hrate, hw, hbad], rfl⟩

/-- A poll that finds one reports it. -/
lemma pollPort_of_bad (switchId : ℤ) (haligned : m.Aligned e.devPort) {rate : ℚ}
    (hrate : (m.appendDeltas e).lossRate e.devPort = some rate)
    (hbad : lossRateThreshold1 ≤ rate) : ∃ m₁ : Monitor, m₁.cache = m.cache ∧
      m₁.published = m.published ∧
      m.pollPort switchId e = m₁.reportBadLink switchId e rate := by
  obtain ⟨w, hw, -⟩ := exists_trim _ _ (haligned.appendDeltas (e := e))
  have hbad : isLinkBad rate = true := by simpa [isLinkBad] using hbad
  exact ⟨(m.appendDeltas e).setWindows e.devPort w.1 w.2, rfl, rfl,
    by simp [Monitor.pollPort, hrate, hw, hbad]⟩

/-- The poll publishes a message. -/
def Publishes (switchId : ℤ) (m : Monitor) (e : PortPoll) : Prop :=
  ∃ m' msg, m.pollPort switchId e = some m' ∧ m'.published = m.published ++ [msg]

/-- What `get_upstream` answers when it is asked for the port. -/
def upstreamAnswer (switchId : ℤ) (m : Monitor) (e : PortPoll) : Answer :=
  (getUpstream e.redis m.cache switchId e.devPort).2

/-- The windows, with the new deltas, are long enough and show this bad loss rate. -/
def BadLink (m : Monitor) (e : PortPoll) (rate : ℚ) : Prop :=
  monitoringThreshold < ((m.appendDeltas e).allWindow e.devPort).sum ∧
    rate = computeLossRate ((m.appendDeltas e).okWindow e.devPort).sum
      ((m.appendDeltas e).allWindow e.devPort).sum ∧ lossRateThreshold1 ≤ rate

/-- **The decision that a poll is to make.**  It is what the code is for, and does not mention how
the code finds out that there is no upstream. -/
structure Decides (switchId : ℤ) (m : Monitor) (e : PortPoll) : Prop where
  publishes : Publishes switchId m e ↔ ∃ rate sw dp mcast, m.BadLink e rate ∧
    m.upstreamAnswer switchId e = .upstream sw dp mcast ∧
    isProtected e.redis sw dp (lossRateToAction rate) = some false
  /-- without an upstream nothing is published, and the loop goes on to the remaining ports -/
  unknown : m.upstreamAnswer switchId e = .unknown → ∃ m' : Monitor,
    m'.published = m.published ∧
    ∀ rest, m.iteration switchId (e :: rest) = m'.iteration switchId rest

lemma lossRate_eq_some_iff {rate : ℚ} :
    (m.appendDeltas e).lossRate e.devPort = some rate ∧ lossRateThreshold1 ≤ rate ↔
      m.BadLink e rate := by
  unfold lossRate BadLink
  split_ifs with hlong
  · simp [hlong, eq_comm]
  · simp [hlong]

/-- The message that a bad link leads to, for each answer of `get_upstream`. -/
lemma reportBadLink_eq {m₁ : Monitor} {rate : ℚ} (hcache : m₁.cache = m.cache) :
    m₁.reportBadLink switchId e rate =
      (m.upstreamAnswer switchId e).tuple.bind fun (sw, dp, mcastGrp) =>
        (isProtected e.redis sw dp (lossRateToAction rate)).map fun safe =>
          let m₁ := { m₁ with cache := (getUpstream e.redis m.cache switchId e.devPort).1 }
          if safe then m₁ else m₁.publish ⟨sw, dp, mcastGrp, lossRateToAction rate⟩ := by
  simp only [reportBadLink, upstreamAnswer, hcache]
  cases (getUpstream e.redis m.cache switchId e.devPort).2.tuple with
  | none => rfl
  | some tuple =>
    have hlengths : [tuple.1, tuple.2.1] ≠ [-1, -1, -1] := by simp
    cases hsafe : isProtected e.redis tuple.1 tuple.2.1 (lossRateToAction rate) with
    | none => simp [hsafe]
    | some safe => cases safe <;> simp [hsafe]

lemma not_publishes_of_raised (h : m.pollPort switchId e = none) : ¬ Publishes switchId m e := by
  rintro ⟨m', msg, hpoll, -⟩
  simp [h] at hpoll

lemma not_publishes_of_silent {m' : Monitor} (h : m.pollPort switchId e = some m')
    (hpub : m'.published = m.published) : ¬ Publishes switchId m e := by
  rintro ⟨m'', msg, hpoll, hmsg⟩
  rw [h, Option.some_inj] at hpoll
  rw [← hpoll, hpub] at hmsg
  simp at hmsg

/-- The loop goes on from where a poll has left. -/
lemma iteration_cons {m' : Monitor} (h : m.pollPort switchId e = some m') (rest : List PortPoll) :
    m.iteration switchId (e :: rest) = m'.iteration switchId rest := by
  simp [iteration, h]

/-- Without a bad link there is nothing to decide. -/
lemma decides_of_good (haligned : m.Aligned e.devPort) (hgood : ∀ rate, ¬ m.BadLink e rate) :
    Decides switchId m e := by
  obtain ⟨m', hpoll, hpub⟩ := pollPort_of_good switchId haligned fun rate hrate =>
    not_le.mp fun hle => hgood rate (lossRate_eq_some_iff.mp ⟨hrate, hle⟩)
  refine ⟨⟨fun h => absurd h (not_publishes_of_silent hpoll hpub), ?_⟩,
    fun _ => ⟨m', hpub, iteration_cons hpoll⟩⟩
  rintro ⟨rate, -, -, -, hbad, -⟩
  exact absurd hbad (hgood rate)

section BadLink

variable {rate : ℚ} (haligned : m.Aligned e.devPort) (hbad : m.BadLink e rate)

include haligned hbad

/-- The poll of a bad link is the report of it. -/
lemma exists_report (switchId : ℤ) : ∃ m₁ : Monitor, m₁.published = m.published ∧
    m.pollPort switchId e = (m.upstreamAnswer switchId e).tuple.bind fun (sw, dp, mcastGrp) =>
      (isProtected e.redis sw dp (lossRateToAction rate)).map fun safe =>
        if safe then m₁ else m₁.publish ⟨sw, dp, mcastGrp, lossRateToAction rate⟩ := by
  obtain ⟨hrate, hle⟩ := lossRate_eq_some_iff.mpr hbad
  obtain ⟨m₁, hcache, hpub, hpoll⟩ := pollPort_of_bad switchId haligned hrate hle
  exact ⟨{ m₁ with cache := (getUpstream e.redis m.cache switchId e.devPort).1 }, hpub,
    hpoll.trans (reportBadLink_eq hcache)⟩

/-- With an upstream, or after an exception, the decision is right. -/
lemma decides_of_known (hknown : m.upstreamAnswer switchId e ≠ .unknown) :
    Decides switchId m e := by
  obtain ⟨m₁, hpub, hpoll⟩ := exists_report haligned hbad switchId
  refine ⟨?_, fun h => absurd h hknown⟩
  cases hans : m.upstreamAnswer switchId e with
  | unknown => exact absurd hans hknown
  | raised =>
    rw [hans] at hpoll
    exact ⟨fun h => absurd h (not_publishes_of_raised hpoll), by simp⟩
  | upstream sw dp mcast =>
    rw [hans] at hpoll
    constructor
    · intro h
      cases hsafe : isProtected e.redis sw dp (lossRateToAction rate) with
      | none => exact absurd h (not_publishes_of_raised (by simp [hpoll, Answer.tuple, hsafe]))
      | some safe =>
        cases safe with
        | true =>
          have hsilent : m.pollPort switchId e = some m₁ := by simp [hpoll, Answer.tuple, hsafe]
          exact absurd h (not_publishes_of_silent hsilent hpub)
        | false => exact ⟨rate, sw, dp, mcast, hbad, rfl, hsafe⟩
    · rintro ⟨rate', sw', dp', mcast', hbad', hans', hsafe⟩
      obtain ⟨rfl, rfl, rfl⟩ : sw = sw' ∧ dp = dp' ∧ mcast = mcast' := by simpa using hans'
      obtain rfl : rate' = rate := hbad'.2.1.trans hbad.2.1.symm
      exact ⟨m₁.publish ⟨sw, dp, mcast, lossRateToAction rate'⟩, _,
        by simp [hpoll, Answer.tuple, hsafe], by rw [publish, hpub]⟩

/-- Without one, everything hangs on what is recorded for port -1 of switch -1. -/
lemma decides_of_unknown_iff (hunknown : m.upstreamAnswer switchId e = .unknown) :
    Decides switchId m e ↔
      isProtected e.redis (-1) (-1) (lossRateToAction rate) = some true := by
  obtain ⟨m₁, hpub, hpoll⟩ := exists_report haligned hbad switchId
  rw [hunknown] at hpoll
  constructor
  · intro h
    obtain ⟨m', hpub', hgoes⟩ := h.unknown hunknown
    have hpoll' : m.pollPort switchId e = some m' := by simpa [iteration] using hgoes []
    -- an unprotected port -1 gets a message, which nobody is to publish for an unknown port
    cases hsafe : isProtected e.redis (-1) (-1) (lossRateToAction rate) with
    | none => simp [hpoll', Answer.tuple, hsafe] at hpoll
    | some safe =>
      cases safe with
      | true => rfl
      | false =>
        have hmsg : m' = m₁.publish ⟨-1, -1, -1, lossRateToAction rate⟩ := by
          simpa [hpoll', Answer.tuple, hsafe] using hpoll
        simp [hmsg, publish, hpub] at hpub'
  · intro hsafe
    have hsilent : m.pollPort switchId e = some m₁ := by simp [hpoll, Answer.tuple, hsafe]
    exact ⟨⟨fun h => absurd h (not_publishes_of_silent hsilent hpub), by simp [hunknown]⟩,
      fun _ => ⟨m₁, hpub, iteration_cons hsilent⟩⟩

end BadLink

/-- **The publish decision**: a poll decides as it is to, exactly unless it finds a bad link for
which no upstream is known; only a protection recorded for port -1 of switch -1 makes up for
that. -/
theorem decides_iff (switchId : ℤ) (m : Monitor) (e : PortPoll) (haligned : m.Aligned e.devPort) :
    Decides switchId m e ↔ ∀ rate, m.BadLink e rate → m.upstreamAnswer switchId e = .unknown →
      isProtected e.redis (-1) (-1) (lossRateToAction rate) = some true := by
  by_cases hlink : ∃ rate, m.BadLink e rate
  · obtain ⟨rate, hbad⟩ := hlink
    by_cases hunknown : m.upstreamAnswer switchId e = .unknown
    · rw [decides_of_unknown_iff haligned hbad hunknown]
      refine ⟨fun h rate' hbad' _ => ?_, fun h => h rate hbad hunknown⟩
      rwa [show rate' = rate from hbad'.2.1.trans hbad.2.1.symm]
    · exact ⟨fun _ _ _ h => absurd h hunknown, fun _ => decides_of_known haligned hbad hunknown⟩
  · have hgood : ∀ rate, ¬ m.BadLink e rate := fun rate hbad => hlink ⟨rate, hbad⟩
    exact ⟨fun _ rate hbad => absurd hbad (hgood rate), fun _ => decides_of_good haligned hgood⟩

/-! ## Two polls -/

/-- Ten million frames have come in without a loss. -/
def monitored : Monitor :=
  { init with
    rxOkOffset := fun _ => some 10000001
    rxAllOffset := fun _ => some 10000001
    rxOkWindow := fun _ => some [10000000]
    rxAllWindow := fun _ => some [10000000] }

/-- The next million frames on port 64 are all corrupted. -/
def corrupted (redis : RedisContents) : PortPoll := ⟨64, 10000001, 11000001, redis⟩

/-- With nothing in Redis a message is published for switch -1. -/
theorem publishes_without_upstream :
    monitored.upstreamAnswer 1 (corrupted ⟨none, none, fun _ => none⟩) = .unknown ∧
      ¬ Decides 1 monitored (corrupted ⟨none, none, fun _ => none⟩) := by
  have hunknown : monitored.upstreamAnswer 1 (corrupted ⟨none, none, fun _ => none⟩) =
      .unknown := rfl
  have hpub : (monitored.pollPort 1 (corrupted ⟨none, none, fun _ => none⟩)).map
      Monitor.published = some [⟨-1, -1, -1, 2⟩] := by decide +kernel
  refine ⟨hunknown, fun h => ?_⟩
  obtain ⟨m', hpub', hgoes⟩ := h.unknown hunknown
  have hpoll : monitored.pollPort 1 (corrupted ⟨none, none, fun _ => none⟩) = some m' := by
    simpa [iteration] using hgoes []
  rw [hpoll, Option.map_some, hpub'] at hpub
  exact absurd hpub (by decide)

/-- With the upstream port in Redis the message is published for it. -/
theorem decides_with_upstream :
    Decides 1 monitored (corrupted ⟨some "1", some (.json [("1-64", "2-65-3")]), fun _ => none⟩) ∧
      (monitored.pollPort 1
        (corrupted ⟨some "1", some (.json [("1-64", "2-65-3")]), fun _ => none⟩)).map
          Monitor.published = some [⟨2, 65, 3, 2⟩] := by
  refine ⟨(decides_iff 1 monitored _ rfl).mpr fun rate _ hunknown => ?_, by decide +kernel⟩
  have hknown : monitored.upstreamAnswer 1
      (corrupted ⟨some "1", some (.json [("1-64", "2-65-3")]), fun _ => none⟩) =
        .upstream 2 65 3 := by decide +kernel
  simp [hknown] at hunknown

end Monitor

end LinkGuardian.Corruptd
