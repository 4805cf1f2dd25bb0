import LinkGuardian.Library.Execution
import Mathlib.Algebra.Order.Field.Rat
import Mathlib.Data.Fintype.Basic
import Mathlib.Data.List.Pairwise
import Mathlib.Data.Nat.Notation
import Mathlib.Logic.Function.Basic
import Mathlib.Tactic.Linarith

/-!
# corruptd: the protection of a port

A downstream daemon asks the upstream switch of a bad link for protection: it looks the action
of the port up in Redis, and publishes a message unless the port is protected already.  The
upstream daemon installs what each message says and then records it in Redis.  The actions of a
port are 1, unicast, and 2, multicast.

`line` is what is recorded, installed and on its way for a port, in the order in which it takes
effect; the protection can fall only where a lower action is published behind a higher one.

The invariant is about one port of one switch, and no daemon knows more than it has read.  Between
the lookup and the publication other messages may be sent, so the condition `Safe` is on the state
at the publication.
-/

namespace LinkGuardian.Corruptd

open Execution

/-! ## The system -/

def lossRateThreshold1 : ℚ := 1 / 10 ^ 6
def lossRateThreshold2 : ℚ := 1 / 10 ^ 3

def isLinkBad (lossRate : ℚ) : Bool := lossRateThreshold1 ≤ lossRate

def lossRateToAction (lossRate : ℚ) : ℤ :=
  if lossRateThreshold2 ≤ lossRate then 2
  else if lossRateThreshold1 ≤ lossRate then 1
  else -1

/-- A message to `SWITCH-<switch_id>`, of that event. -/
structure Msg where
  switchId : ℤ
  devPort : ℤ
  mcastGrp : ℤ
  action : ℤ
deriving DecidableEq

/-- The port of an upstream switch that a message is about. -/
abbrev UpPort := ℤ × ℤ

def Msg.port (m : Msg) : UpPort := (m.switchId, m.devPort)

/-- An entry of `retx_mcast_buffered_pkt`. -/
inductive RetxEntry
  | doRetxBufferedPktUcast
  | doRetxBufferedPktMcast (grpId : ℤ)
deriving DecidableEq

def RetxEntry.action : RetxEntry → ℤ
  | doRetxBufferedPktUcast => 1
  | doRetxBufferedPktMcast _ => 2

/-- The data of `protect` in the table `link_protect`. -/
structure ProtectEntry where
  dummyPktMaxCount : ℕ
  blockingMode : ℕ

/-- Where the polling coroutine of a downstream daemon is.  Between the lookup and the publication
everybody else may move. -/
inductive Poll
  | idle
  /-- the key was there: about to get it -/
  | getting (m : Msg)
  /-- not protected enough: about to publish -/
  | publishing (m : Msg)

/-- `δ` are the downstream daemons; there is one upstream daemon a switch.  Redis, the tables of
all switches and the messages on their way are one state, so that a run is any interleaving. -/
structure ProtState (δ : Type*) where
  /-- `protected-<switch>-<port>` in Redis -/
  stored : UpPort → Option ℤ
  polls : δ → Poll
  /-- the messages published and not yet received, by the switch that they are for -/
  channel : ℤ → List Msg
  linkProtect : UpPort → Option ProtectEntry
  retx : UpPort → Option RetxEntry
  /-- the message that the daemon of a switch has installed and not yet recorded -/
  recording : ℤ → Option Msg

inductive ProtEvent (δ : Type*)
  /-- daemon `d` measures a loss rate on a link from the given port, up to `r.keys` -/
  | poll (d : δ) (sw dp mcastGrp : ℤ) (lossRate : ℚ)
  /-- `r.get` -/
  | get (d : δ)
  /-- `r.publish` -/
  | publish (d : δ)
  /-- the daemon of switch `sw` receives a message and writes its tables -/
  | install (sw : ℤ)
  /-- its `r.set` -/
  | record (sw : ℤ)
  /-- the time-out of its reader cancels the `r.set` -/
  | timeout (sw : ℤ)

namespace ProtState

variable {δ : Type*}

def init : ProtState δ where
  stored := fun _ => none
  polls := fun _ => .idle
  channel := fun _ => []
  linkProtect := fun _ => none
  retx := fun _ => none
  recording := fun _ => none

def setPoll [DecidableEq δ] (s : ProtState δ) (d : δ) (p : Poll) : ProtState δ :=
  { s with polls := Function.update s.polls d p }

/-- The tables that `activate_link_guardian` writes; `blocking_mode` stays 0. -/
def activateLinkGuardian (s : ProtState δ) (m : Msg) : ProtState δ :=
  { s with
    linkProtect := Function.update s.linkProtect m.port (some ⟨1, 0⟩)
    retx := Function.update s.retx m.port (some
      (if m.action = 1 then .doRetxBufferedPktUcast else .doRetxBufferedPktMcast m.mcastGrp)) }

def publishMsg (s : ProtState δ) (m : Msg) : ProtState δ :=
  { s with
    channel := Function.update s.channel m.switchId (s.channel m.switchId ++ [m]) }

/-- The daemon of the switch takes `m` out of its channel, where it leaves `rest`. -/
def processMsg (s : ProtState δ) (m : Msg) (rest : List Msg) : ProtState δ :=
  { s.activateLinkGuardian m with
    channel := Function.update s.channel m.switchId rest
    recording := Function.update s.recording m.switchId (some m) }

def endRecording (s : ProtState δ) (sw : ℤ) : ProtState δ :=
  { s with recording := Function.update s.recording sw none }

def setProtected (s : ProtState δ) (m : Msg) : ProtState δ :=
  { s with stored := Function.update s.stored m.port (some m.action) }

def step [DecidableEq δ] (s : ProtState δ) : ProtEvent δ → Option (ProtState δ)
  | .poll d sw dp mcastGrp lossRate =>
    match s.polls d with
    | .idle =>
      if isLinkBad lossRate then
        let m : Msg := ⟨sw, dp, mcastGrp, lossRateToAction lossRate⟩
        some (s.setPoll d (if (s.stored m.port).isSome then .getting m else .publishing m))
      else some s
    | _ => none
  | .get d =>
    match s.polls d with
    | .getting m =>
      match s.stored m.port with
      | none => some (s.setPoll d .idle)   -- `int(None)` raises; no key is ever deleted
      | some currAction =>
        some (s.setPoll d (if currAction < m.action then .publishing m else .idle))
    | _ => none
  | .publish d =>
    match s.polls d with
    | .publishing m => some ((s.setPoll d .idle).publishMsg m)
    | _ => none
  | .install sw =>
    match s.channel sw, s.recording sw with
    | m :: rest, none => if m.switchId = sw then some (s.processMsg m rest) else none
    | _, _ => none
  | .record sw =>
    match s.recording sw with
    | some m => some ((s.setProtected m).endRecording sw)
    | none => none
  | .timeout sw =>
    match s.recording sw with
    | some _ => some (s.endRecording sw)
    | none => none

/-! ## The property and the condition -/

/-- The action that `retx_mcast_buffered_pkt` holds for a port. -/
def installed (s : ProtState δ) (port : UpPort) : Option ℤ := (s.retx port).map RetxEntry.action

/-- The actions on their way to a port. -/
def inFlight (s : ProtState δ) (port : UpPort) : List ℤ :=
  ((s.channel port.1).filter fun m => m.port = port).map Msg.action

/-- What is recorded, installed and on its way for a port. -/
def line (s : ProtState δ) (port : UpPort) : List ℤ :=
  (s.stored port).toList ++ (s.installed port).toList ++ s.inFlight port

def SafeToPublish (s : ProtState δ) : Poll → Prop
  | .publishing m => m.action = 1 → 2 ∉ s.line m.port
  | _ => True

/-- **The condition**: when action 1 is published for a port, action 2 is neither recorded nor
installed nor on its way for it. -/
def Safe (s : ProtState δ) : ProtEvent δ → Prop
  | .publish d => s.SafeToPublish (s.polls d)
  | _ => True

/-! ## The invariant -/

structure Inv (s : ProtState δ) : Prop where
  actions : ∀ port, ∀ a ∈ s.line port, a = 1 ∨ a = 2
  /-- behind action 2 there is only action 2 -/
  rising : ∀ port, (s.line port).Pairwise fun a b => a = 2 → b = 2
  recording : ∀ sw m, s.recording sw = some m →
    m.switchId = sw ∧ s.installed m.port = some m.action
  polls : ∀ d m, s.polls d = .getting m ∨ s.polls d = .publishing m →
    m.action = 1 ∨ m.action = 2

lemma inv_init : (init : ProtState δ).Inv where
  actions := fun _ _ ha => by cases ha
  rising := fun _ => List.Pairwise.nil
  recording := fun _ _ h => by cases h
  polls := fun _ _ h => by rcases h with h | h <;> cases h

lemma action_of_bad {lossRate : ℚ} (h : isLinkBad lossRate = true) :
    lossRateToAction lossRate = 1 ∨ lossRateToAction lossRate = 2 := by
  have hbad : lossRateThreshold1 ≤ lossRate := of_decide_eq_true h
  rw [lossRateToAction, if_pos hbad]
  split
  · exact .inr rfl
  · exact .inl rfl

/-- Moving a daemon on in its poll changes nothing else. -/
lemma Inv.setPoll [DecidableEq δ] {s : ProtState δ} (h : s.Inv) {d : δ} {p : Poll}
    (hp : ∀ m, p = .getting m ∨ p = .publishing m → m.action = 1 ∨ m.action = 2) :
    (s.setPoll d p).Inv := by
  refine ⟨h.actions, h.rising, h.recording, fun k m hk => ?_⟩
  change Function.update s.polls d p k = _ ∨ Function.update s.polls d p k = _ at hk
  by_cases hd : k = d
  · rw [hd, Function.update_self] at hk
    exact hp m hk
  · rw [Function.update_of_ne hd] at hk
    exact h.polls k m hk

lemma Inv.setPoll_idle [DecidableEq δ] {s : ProtState δ} (h : s.Inv) (d : δ) :
    (s.setPoll d .idle).Inv :=
  h.setPoll fun m hm => by rcases hm with hm | hm <;> cases hm

/-! ### Publishing -/

/-- A published message is last in the line of its port. -/
lemma line_publishMsg (s : ProtState δ) (m : Msg) (port : UpPort) :
    (s.publishMsg m).line port = s.line port ++ (if m.port = port then [m.action] else []) := by
  have hflight : (s.publishMsg m).inFlight port =
      s.inFlight port ++ (if m.port = port then [m.action] else []) := by
    show ((Function.update s.channel m.switchId (s.channel m.switchId ++ [m]) port.1).filter
      fun m => m.port = port).map Msg.action = _
    by_cases hport : m.port = port
    · have hsw : port.1 = m.switchId := hport ▸ rfl
      rw [hsw, Function.update_self, List.filter_append, List.map_append, inFlight, hsw,
        List.filter_singleton, decide_eq_true hport, if_pos hport]
      rfl
    · rw [if_neg hport, List.append_nil, inFlight]
      by_cases hsw : port.1 = m.switchId
      · rw [hsw, Function.update_self, List.filter_append, List.filter_singleton,
          decide_eq_false hport]
        exact congrArg (List.map _) (List.append_nil _)
      · rw [Function.update_of_ne hsw]
  rw [line, hflight, ← List.append_assoc]
  rfl

/-- A message published under the condition keeps the invariant. -/
lemma Inv.publishMsg {s : ProtState δ} (h : s.Inv) {m : Msg} (hact : m.action = 1 ∨ m.action = 2)
    (hsafe : m.action = 1 → 2 ∉ s.line m.port) : (s.publishMsg m).Inv := by
  refine ⟨fun port a ha => ?_, fun port => ?_, h.recording, h.polls⟩
  · rw [line_publishMsg] at ha
    rcases List.mem_append.mp ha with hold | hnew
    · exact h.actions port a hold
    · split at hnew
      · rw [List.mem_singleton.mp hnew]
        exact hact
      · cases hnew
  · rw [line_publishMsg]
    split
    · next hport =>
      refine List.pairwise_append.mpr ⟨h.rising port, List.pairwise_singleton _ _, ?_⟩
      intro a ha b hb ha2
      rw [List.mem_singleton.mp hb]
      refine hact.resolve_left fun h1 => hsafe h1 ?_
      rwa [hport, ← ha2]
    · rw [List.append_nil]
      exact h.rising port

/-! ### Installing -/

section Install

variable {s : ProtState δ} {m : Msg} {rest : List Msg}

lemma inFlight_eq_cons (hchan : s.channel m.switchId = m :: rest) :
    s.inFlight m.port = m.action :: (s.processMsg m rest).inFlight m.port := by
  have hafter : (s.processMsg m rest).channel m.port.1 = rest := Function.update_self _ _ _
  have hbefore : s.channel m.port.1 = m :: rest := hchan
  rw [inFlight, inFlight, hafter, hbefore, List.filter_cons, if_pos (decide_eq_true rfl),
    List.map_cons]

lemma inFlight_processMsg_of_ne (hchan : s.channel m.switchId = m :: rest) {port : UpPort}
    (hport : m.port ≠ port) : (s.processMsg m rest).inFlight port = s.inFlight port := by
  rw [inFlight, inFlight]
  by_cases hsw : port.1 = m.switchId
  · have hafter : (s.processMsg m rest).channel port.1 = rest := by
      rw [hsw]
      exact Function.update_self _ _ _
    rw [hafter, hsw, hchan, List.filter_cons_of_neg (by simpa using hport)]
  · have hafter : (s.processMsg m rest).channel port.1 = s.channel port.1 :=
      Function.update_of_ne hsw _ _
    rw [hafter]

lemma installed_processMsg (hact : m.action = 1 ∨ m.action = 2) :
    (s.processMsg m rest).installed m.port = some m.action := by
  show (Function.update s.retx m.port _ m.port).map RetxEntry.action = _
  rw [Function.update_self, Option.map_some]
  rcases hact with h1 | h2
  · rw [if_pos h1, h1]
    rfl
  · rw [if_neg (by omega), h2]
    rfl

lemma installed_processMsg_of_ne {port : UpPort} (hport : m.port ≠ port) :
    (s.processMsg m rest).installed port = s.installed port :=
  congrArg (Option.map _) (Function.update_of_ne hport.symm _ _)

/-- A message that is installed takes the place of the action that was. -/
lemma line_processMsg (hchan : s.channel m.switchId = m :: rest)
    (hact : m.action = 1 ∨ m.action = 2) (port : UpPort) :
    ((s.processMsg m rest).line port).Sublist (s.line port) := by
  by_cases hport : m.port = port
  · subst hport
    rw [line, line, installed_processMsg hact, inFlight_eq_cons hchan, List.append_assoc,
      List.append_assoc]
    exact (List.Sublist.refl _).append (List.sublist_append_right _ _)
  · rw [line, line, installed_processMsg_of_ne hport, inFlight_processMsg_of_ne hchan hport]
    exact List.Sublist.refl _

lemma Inv.processMsg (h : s.Inv) (hchan : s.channel m.switchId = m :: rest) :
    (s.processMsg m rest).Inv := by
  have hact : m.action = 1 ∨ m.action = 2 := by
    refine h.actions m.port m.action (List.mem_append_right _ ?_)
    rw [inFlight_eq_cons hchan]
    exact List.mem_cons_self
  refine ⟨fun port a ha => h.actions port a ((line_processMsg hchan hact port).subset ha),
    fun port => (h.rising port).sublist (line_processMsg hchan hact port), ?_, h.polls⟩
  intro sw m' hm'
  change Function.update s.recording m.switchId (some m) sw = some m' at hm'
  by_cases hsw : sw = m.switchId
  · rw [hsw, Function.update_self] at hm'
    cases hm'
    exact ⟨hsw.symm, installed_processMsg hact⟩
  · rw [Function.update_of_ne hsw] at hm'
    obtain ⟨hsw', hinst⟩ := h.recording sw m' hm'
    have hport : m.port ≠ m'.port := fun heq => hsw (hsw' ▸ (congrArg Prod.fst heq).symm)
    exact ⟨hsw', by rw [installed_processMsg_of_ne hport, hinst]⟩

end Install

/-! ### Recording -/

lemma Inv.endRecording {s : ProtState δ} (h : s.Inv) (sw : ℤ) : (s.endRecording sw).Inv := by
  refine ⟨h.actions, h.rising, fun sw' m hm => ?_, h.polls⟩
  change Function.update s.recording sw none sw' = some m at hm
  by_cases hsw : sw' = sw
  · rw [hsw, Function.update_self] at hm
    cases hm
  · rw [Function.update_of_ne hsw] at hm
    exact h.recording sw' m hm

/-- The line of the port before and after its action is recorded. -/
lemma line_of_recording {s : ProtState δ} {m : Msg} (hinst : s.installed m.port = some m.action) :
    s.line m.port = (s.stored m.port).toList ++ m.action :: s.inFlight m.port ∧
      (s.setProtected m).line m.port = m.action :: m.action :: s.inFlight m.port := by
  constructor
  · rw [line, hinst, List.append_assoc]
    rfl
  · have hstored : (s.setProtected m).stored m.port = some m.action := Function.update_self _ _ _
    rw [line, hstored, show (s.setProtected m).installed m.port = some m.action from hinst]
    rfl

lemma line_setProtected_of_ne {s : ProtState δ} {m : Msg} {port : UpPort} (hport : m.port ≠ port) :
    (s.setProtected m).line port = s.line port := by
  have hstored : (s.setProtected m).stored port = s.stored port :=
    Function.update_of_ne hport.symm _ _
  rw [line, hstored]
  rfl

lemma Inv.setProtected {s : ProtState δ} (h : s.Inv) {sw : ℤ} {m : Msg}
    (hrec : s.recording sw = some m) : (s.setProtected m).Inv := by
  obtain ⟨hbefore, hafter⟩ := line_of_recording (h.recording sw m hrec).2
  have hmem : ∀ a ∈ (s.setProtected m).line m.port, a ∈ s.line m.port := by
    rw [hbefore, hafter]
    intro a ha
    refine List.mem_append_right _ ?_
    rcases List.mem_cons.mp ha with rfl | ha
    · exact List.mem_cons_self
    · exact ha
  refine ⟨fun port a ha => ?_, fun port => ?_, h.recording, h.polls⟩
  · by_cases hport : m.port = port
    · subst hport
      exact h.actions m.port a (hmem a ha)
    · rw [line_setProtected_of_ne hport] at ha
      exact h.actions port a ha
  · by_cases hport : m.port = port
    · subst hport
      rw [hafter]
      have hrising := h.rising m.port
      rw [hbefore] at hrising
      have hfrom := (List.pairwise_append.mp hrising).2.1
      refine List.pairwise_cons.mpr ⟨fun b hb => ?_, hfrom⟩
      rcases List.mem_cons.mp hb with rfl | hb
      · exact id
      · exact (List.pairwise_cons.mp hfrom).1 b hb
    · rw [line_setProtected_of_ne hport]
      exact h.rising port

/-! ## The run -/

/-- Action 2 stays where it is recorded or installed. -/
def Kept (s t : ProtState δ) : Prop :=
  ∀ port, (s.stored port = some 2 → t.stored port = some 2) ∧
    (s.installed port = some 2 → t.installed port = some 2)

lemma Kept.refl (s : ProtState δ) : Kept s s := fun _ => ⟨id, id⟩

lemma Kept.trans {s t u : ProtState δ} (h : Kept s t) (h' : Kept t u) : Kept s u :=
  fun port => ⟨(h' port).1 ∘ (h port).1, (h' port).2 ∘ (h port).2⟩

lemma Inv.kept_processMsg {s : ProtState δ} (h : s.Inv) {m : Msg} {rest : List Msg}
    (hchan : s.channel m.switchId = m :: rest) : Kept s (s.processMsg m rest) := by
  intro port
  refine ⟨id, fun hinst => ?_⟩
  by_cases hport : m.port = port
  · subst hport
    have hmem : m.action ∈ s.inFlight m.port := by
      rw [inFlight_eq_cons hchan]
      exact List.mem_cons_self
    rw [installed_processMsg (h.actions m.port _ (List.mem_append_right _ hmem))]
    -- the message is behind the installed action
    have hrising := (List.pairwise_append.mp (h.rising m.port)).2.2 2
      (List.mem_append_right _ (by rw [hinst]; exact List.mem_singleton_self 2)) m.action hmem rfl
    rw [hrising]
  · rwa [installed_processMsg_of_ne hport]

lemma Inv.kept_setProtected {s : ProtState δ} (h : s.Inv) {sw : ℤ} {m : Msg}
    (hrec : s.recording sw = some m) : Kept s (s.setProtected m) := by
  intro port
  refine ⟨fun hstored => ?_, id⟩
  show Function.update s.stored m.port (some m.action) port = some 2
  by_cases hport : m.port = port
  · subst hport
    have hrising := h.rising m.port
    rw [(line_of_recording (h.recording sw m hrec).2).1, hstored] at hrising
    rw [Function.update_self, (List.pairwise_cons.mp hrising).1 m.action List.mem_cons_self rfl]
  · rwa [Function.update_of_ne (Ne.symm hport)]

variable [DecidableEq δ]

/-- A step that meets the condition keeps the invariant and action 2. -/
lemma inv_step {s s' : ProtState δ} {e : ProtEvent δ} (h : s.Inv) (hsafe : s.Safe e)
    (hs : s.step e = some s') : s'.Inv ∧ Kept s s' := by
  cases e with
  | poll d sw dp mcastGrp lossRate =>
    simp only [step] at hs
    split at hs
    · split at hs
      · next hbad =>
        cases hs
        refine ⟨h.setPoll fun m hm => ?_, Kept.refl s⟩
        have hact := action_of_bad hbad
        split at hm
        · rcases hm with hm | hm <;> cases hm
          exact hact
        · rcases hm with hm | hm <;> cases hm
          exact hact
      · cases hs
        exact ⟨h, Kept.refl s⟩
    · cases hs
  | get d =>
    simp only [step] at hs
    split at hs
    · next m hpoll =>
      split at hs
      · cases hs
        exact ⟨h.setPoll_idle d, Kept.refl s⟩
      · cases hs
        refine ⟨h.setPoll fun m' hm' => ?_, Kept.refl s⟩
        split at hm'
        · rcases hm' with hm' | hm' <;> cases hm'
          exact h.polls d m (.inl hpoll)
        · rcases hm' with hm' | hm' <;> cases hm'
    · cases hs
  -- the condition is needed here alone: a message goes behind what is on its way
  | publish d =>
    simp only [step] at hs
    split at hs
    · next m hpoll =>
      have hsafe : s.SafeToPublish (s.polls d) := hsafe
      rw [hpoll] at hsafe
      cases hs
      exact ⟨(h.setPoll_idle d).publishMsg (h.polls d m (.inr hpoll)) hsafe, Kept.refl s⟩
    · cases hs
  | install sw =>
    simp only [step] at hs
    split at hs
    · next m rest hchan hrec =>
      split at hs
      · next hsw =>
        cases hs
        rw [← hsw] at hchan
        exact ⟨h.processMsg hchan, h.kept_processMsg hchan⟩
      · cases hs
    · cases hs
  | record sw =>
    simp only [step] at hs
    split at hs
    · next m hrec =>
      cases hs
      exact ⟨(h.setProtected hrec).endRecording sw, h.kept_setProtected hrec⟩
    · cases hs
  | timeout sw =>
    simp only [step] at hs
    split at hs
    · cases hs
      exact ⟨h.endRecording sw, Kept.refl s⟩
    · cases hs

/-- **The protection of a port never falls** in a run whose publications all meet `Safe`. -/
theorem protection_kept_of_safe {es fs : List (ProtEvent δ)} {s t : ProtState δ}
    (hs : run step init es = some s) (ht : run step s fs = some t)
    (hsafe : Along step Safe init (es ++ fs)) (port : UpPort) :
    (s.stored port = some 2 → t.stored port = some 2) ∧
      (s.installed port = some 2 → t.installed port = some 2) := by
  obtain ⟨hsafe, hsafe'⟩ := (along_append hs).mp hsafe
  have hinv : s.Inv := run_invariant_along (fun _ _ _ h hg he => (inv_step h hg he).1) inv_init
    hsafe hs
  have hstep : ∀ (u : ProtState δ) e u', u.Inv ∧ Kept s u → u.Safe e → u.step e = some u' →
      u'.Inv ∧ Kept s u' := by
    rintro u e u' ⟨hu, hkept⟩ hg he
    obtain ⟨hu', hkept'⟩ := inv_step hu hg he
    exact ⟨hu', hkept.trans hkept'⟩
  exact (run_invariant_along hstep ⟨hinv, Kept.refl s⟩ hsafe' ht).2 port

/-! ## Two runs of one daemon -/

instance (s : ProtState δ) : DecidablePred s.SafeToPublish := fun p => by
  cases p <;> unfold SafeToPublish <;> infer_instance

instance (s : ProtState δ) : DecidablePred s.Safe := fun e => by
  cases e <;> unfold Safe <;> infer_instance

/-- Two polls, the first of a loss rate for multicast and the second of one for unicast, before
the first message is received. -/
def twoInFlight : List (ProtEvent Unit) :=
  [.poll () 2 65 3 (1 / 100), .publish (), .poll () 2 65 3 (1 / 100000), .publish (),
    .install 2, .record 2]

/-- One poll for unicast and a later one for multicast. -/
def raised : List (ProtEvent Unit) :=
  [.poll () 2 65 3 (1 / 100000), .publish (), .install 2, .record 2, .poll () 2 65 3 (1 / 100),
    .get (), .publish (), .install 2, .record 2]

/-- A further poll for unicast finds the port protected. -/
def polledAgain : List (ProtEvent Unit) := [.poll () 2 65 3 (1 / 100000), .get ()]

/-- The second message takes the port back to unicast.  The first was
still on its way when it was published, so that the condition fails there. -/
theorem protection_falls :
    ∃ s t : ProtState Unit, run step init twoInFlight = some s ∧
      run step s [.install 2, .record 2] = some t ∧
      (s.stored (2, 65) = some 2 ∧ s.installed (2, 65) = some 2) ∧
      t.stored (2, 65) = some 1 ∧ t.installed (2, 65) = some 1 := by
  have hruns : (run step init twoInFlight).any (fun s =>
      decide (s.stored (2, 65) = some 2 ∧ s.installed (2, 65) = some 2) &&
        (run step s [.install 2, .record 2]).any (fun t =>
          decide (t.stored (2, 65) = some 1 ∧ t.installed (2, 65) = some 1))) := by
    decide +kernel
  obtain ⟨s, hs, hprop⟩ := (Option.any_eq_true _ _).mp hruns
  obtain ⟨hup, hdown⟩ := (Bool.and_eq_true _ _).mp hprop
  obtain ⟨t, ht, hdown⟩ := (Option.any_eq_true _ _).mp hdown
  exact ⟨s, t, hs, ht, of_decide_eq_true hup, of_decide_eq_true hdown⟩

/-- A port raised to multicast stays there. -/
theorem protection_kept_of_safe_raised :
    ∃ s t : ProtState Unit, run step init raised = some s ∧ run step s polledAgain = some t ∧
      t.stored (2, 65) = some 2 ∧ t.installed (2, 65) = some 2 := by
  have hruns : (run step init raised).any (fun s =>
      decide (s.stored (2, 65) = some 2 ∧ s.installed (2, 65) = some 2) &&
        (run step s polledAgain).isSome) := by decide +kernel
  obtain ⟨s, hs, hprop⟩ := (Option.any_eq_true _ _).mp hruns
  obtain ⟨hup, hsome⟩ := (Bool.and_eq_true _ _).mp hprop
  obtain ⟨t, ht⟩ := Option.isSome_iff_exists.mp hsome
  obtain ⟨hstored, hinstalled⟩ := of_decide_eq_true hup
  have hkept := protection_kept_of_safe hs ht (by decide +kernel) (2, 65)
  exact ⟨s, t, hs, ht, hkept.1 hstored, hkept.2 hinstalled⟩

end ProtState

end LinkGuardian.Corruptd
