import LinkGuardian.Corruptd.Protection
import LinkGuardian.Corruptd.Upstream
import LinkGuardian.Library.Loops
import Mathlib.Data.Rat.Defs

/-!
# corruptd: polling the counters

`poll_counters` of `corruptd.py` with what it calls: the loss rate over the two windows of a
port, the trimming of the windows, the lookup of the upstream port and of its protection, and the
message published for a bad link.  Loss rates are exact quotients.  `none` is an exception, which
ends the coroutine; output is left out.
-/

namespace LinkGuardian.Corruptd

def monitoringThreshold : ℤ := 10000000

def computeLossRate (framesRxOk framesRxAll : ℤ) : ℚ :=
  if framesRxAll = 0 then 0 else 1 - (framesRxOk : ℚ) / framesRxAll

/-! ## Redis -/

/-- The text stored under `topo`. -/
inductive TopoText
  | empty
  | json (topo : Dict)
  /-- `json.loads` raises -/
  | malformed
deriving DecidableEq

structure RedisContents where
  topoVer : Option String
  topo : Option TopoText
  /-- the text stored under each of the keys `protected*` -/
  keys : String → Option String

/-- The two globals in which a daemon caches the topology.  They are read and written only inside
`get_upstream`. -/
structure TopoCache where
  topo : Option Dict
  topoVer : Option String
deriving DecidableEq

/-- `get_upstream`, with the cache that it leaves. -/
def getUpstream (r : RedisContents) (c : TopoCache) (sw dp : ℤ) : TopoCache × Answer :=
  match r.topoVer with
  | none => (c, .unknown)
  | some currVer =>
    if currVer = "" then (c, .unknown)
    else if c.topoVer ≠ some currVer then
      match r.topo with
      | none | some .empty => ({ c with topoVer := some currVer }, .unknown)
      | some .malformed => ({ c with topoVer := some currVer }, .raised)
      | some (.json topo) => (⟨some topo, some currVer⟩, answerFrom (some topo) sw dp)
    else (c, answerFrom c.topo sw dp)

/-- The tuple that `get_upstream` returns. -/
def Answer.tuple : Answer → Option (ℤ × ℤ × ℤ)
  | .unknown => some (-1, -1, -1)
  | .upstream sw dp mcast => some (sw, dp, mcast)
  | .raised => none

def protectedKey (sw dp : ℤ) : String := "protected-" ++ toString sw ++ "-" ++ toString dp

/-- `is_protected` -/
def isProtected (r : RedisContents) (sw dp action : ℤ) : Option Bool :=
  match r.keys (protectedKey sw dp) with
  | none => some false
  | some stored => (int stored.toList).map fun currAction => !decide (action > currAction)

/-! ## The monitor -/

/-- The global state of `poll_counters`; the dictionaries are indexed by the port.  A port that was
never polled is in none of these. -/
structure Monitor where
  rxOkOffset : ℤ → Option ℕ
  rxOkWindow : ℤ → Option (List ℤ)
  rxAllOffset : ℤ → Option ℕ
  rxAllWindow : ℤ → Option (List ℤ)
  cache : TopoCache
  /-- what has been published so far -/
  published : List Msg

/-- The poll of one port: what `$PORT_STAT` says of it, and Redis at that moment.  What Redis holds
is an input of each poll, since other programs write it at any time. -/
structure PortPoll where
  devPort : ℤ
  framesRxOk : ℕ
  framesRxAll : ℕ
  redis : RedisContents

/-- The growth of a counter since the last poll; an offset of 0 is taken as not yet set. -/
def rxDelta (offset : Option ℕ) (frames : ℕ) : ℤ :=
  frames - (if offset.getD 0 = 0 then frames else offset.getD 0)

/-- `list.pop` on both windows until the total of the second is within the threshold. -/
def trim (ok all : List ℤ) : Option (List ℤ × List ℤ) :=
  if monitoringThreshold < all.sum then
    if ok = [] then none else trim ok.dropLast all.dropLast
  else some (ok, all)
termination_by all.length
decreasing_by
  have hne : all ≠ [] := by
    rintro rfl
    simp [monitoringThreshold] at *
  have := List.length_pos_iff.mpr hne
  simp only [List.length_dropLast]
  omega

namespace Monitor

/-- Before the first poll. -/
def init : Monitor where
  rxOkOffset := fun _ => none
  rxOkWindow := fun _ => none
  rxAllOffset := fun _ => none
  rxAllWindow := fun _ => none
  cache := ⟨none, none⟩
  published := []

def okWindow (m : Monitor) (dp : ℤ) : List ℤ := (m.rxOkWindow dp).getD []
def allWindow (m : Monitor) (dp : ℤ) : List ℤ := (m.rxAllWindow dp).getD []

/-- What `poll_counters` computes as `rx_ok_delta` and `rx_all_delta`. -/
def rxDeltas (m : Monitor) (e : PortPoll) : ℤ × ℤ :=
  (rxDelta (m.rxOkOffset e.devPort) e.framesRxOk, rxDelta (m.rxAllOffset e.devPort) e.framesRxAll)

/-- The deltas are appended to the windows, and the offsets updated. -/
def appendDeltas (m : Monitor) (e : PortPoll) : Monitor :=
  { m with
    rxOkWindow := Function.update m.rxOkWindow e.devPort
      (some (m.okWindow e.devPort ++ [(m.rxDeltas e).1]))
    rxAllWindow := Function.update m.rxAllWindow e.devPort
      (some (m.allWindow e.devPort ++ [(m.rxDeltas e).2]))
    rxOkOffset := Function.update m.rxOkOffset e.devPort (some e.framesRxOk)
    rxAllOffset := Function.update m.rxAllOffset e.devPort (some e.framesRxAll) }

/-- The loss rate that is compared with the thresholds, if the windows are long enough. -/
def lossRate (m : Monitor) (dp : ℤ) : Option ℚ :=
  if monitoringThreshold < (m.allWindow dp).sum then
    some (computeLossRate (m.okWindow dp).sum (m.allWindow dp).sum)
  else none

def setWindows (m : Monitor) (dp : ℤ) (ok all : List ℤ) : Monitor :=
  { m with
    rxOkWindow := Function.update m.rxOkWindow dp (some ok)
    rxAllWindow := Function.update m.rxAllWindow dp (some all) }

/-- `r.publish` -/
def publish (m : Monitor) (msg : Msg) : Monitor := { m with published := m.published ++ [msg] }

/-- What is done about a bad link. -/
def reportBadLink (switchId : ℤ) (m : Monitor) (e : PortPoll) (lossRate : ℚ) : Option Monitor :=
  let action := lossRateToAction lossRate
  let (cache, answer) := getUpstream e.redis m.cache switchId e.devPort
  let m := { m with cache := cache }
  match answer.tuple with
  | none => none
  | some (sw, dp, mcastGrp) =>
    -- a pair compared with a triple
    if [sw, dp] = [-1, -1, -1] then some m
    else
      match isProtected e.redis sw dp action with
      | none => none
      | some true => some m
      | some false => some (m.publish ⟨sw, dp, mcastGrp, action⟩)

/-- The body of the loop over the ports. -/
def pollPort (switchId : ℤ) (m : Monitor) (e : PortPoll) : Option Monitor :=
  let m := m.appendDeltas e
  match m.lossRate e.devPort with
  | none => some m
  | some lossRate =>
    (trim (m.okWindow e.devPort) (m.allWindow e.devPort)).bind fun w =>
      let m := m.setWindows e.devPort w.1 w.2
      if isLinkBad lossRate then m.reportBadLink switchId e lossRate else some m

/-- One iteration of `poll_counters`: the ports that are up, one after the other. -/
def iteration (switchId : ℤ) (m : Monitor) (polls : List PortPoll) : Option Monitor :=
  polls.foldlM (pollPort switchId) m

/-- The loop of `poll_counters`. -/
def pollCounters (switchId : ℤ) (m : Monitor) (iterations : List (List PortPoll)) :
    Option Monitor :=
  iterations.foldlM (iteration switchId) m

end Monitor

/-! ## What a poll does to the windows -/

namespace Monitor

variable {switchId : ℤ} {m m' : Monitor} {e : PortPoll} {p : ℤ}

/-- Reporting a bad link leaves windows and offsets alone. -/
lemma reportBadLink_keeps {lossRate : ℚ} (h : reportBadLink switchId m e lossRate = some m') :
    m'.rxOkWindow = m.rxOkWindow ∧ m'.rxAllWindow = m.rxAllWindow ∧
      m'.rxOkOffset = m.rxOkOffset ∧ m'.rxAllOffset = m.rxAllOffset := by
  simp only [reportBadLink] at h
  split at h
  · cases h
  · split at h
    · cases h
      simp
    · split at h
      · cases h
      · cases h
        simp
      · cases h
        simp [publish]

/-- A poll that raises no exception has trimmed the windows with the new deltas. -/
lemma pollPort_windows (h : pollPort switchId m e = some m') : ∃ ok all,
    trim (m.okWindow e.devPort ++ [(m.rxDeltas e).1])
      (m.allWindow e.devPort ++ [(m.rxDeltas e).2]) = some (ok, all) ∧
    m'.rxOkWindow = Function.update m.rxOkWindow e.devPort (some ok) ∧
    m'.rxAllWindow = Function.update m.rxAllWindow e.devPort (some all) ∧
    m'.rxOkOffset = Function.update m.rxOkOffset e.devPort (some e.framesRxOk) ∧
    m'.rxAllOffset = Function.update m.rxAllOffset e.devPort (some e.framesRxAll) := by
  have hok : (m.appendDeltas e).okWindow e.devPort =
      m.okWindow e.devPort ++ [(m.rxDeltas e).1] := by simp [okWindow, appendDeltas]
  have hall : (m.appendDeltas e).allWindow e.devPort =
      m.allWindow e.devPort ++ [(m.rxDeltas e).2] := by simp [allWindow, appendDeltas]
  simp only [pollPort, lossRate, hok, hall] at h
  split_ifs at h with hlong
  · obtain ⟨⟨ok, all⟩, htrim, h⟩ := Option.bind_eq_some_iff.mp h
    refine ⟨ok, all, htrim, ?_⟩
    dsimp only at h
    split_ifs at h with hbad
    · obtain ⟨h₁, h₂, h₃, h₄⟩ := reportBadLink_keeps h
      simp [h₁, h₂, h₃, h₄, setWindows, appendDeltas]
    · cases h
      simp [setWindows, appendDeltas]
  · cases h
    exact ⟨_, _, by rw [trim, if_neg hlong], by simp [appendDeltas]⟩

end Monitor

end LinkGuardian.Corruptd
