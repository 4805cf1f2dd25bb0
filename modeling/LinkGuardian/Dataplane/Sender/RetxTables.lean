import LinkGuardian.Dataplane.Sender.Ingress
import LinkGuardian.Library.EntryTable
import LinkGuardian.Library.Execution

/-!
# The number of copies of a retransmission

`set_number_of_retx_copies` of `sender/setup-ae.py` says for a port how many copies of a lost packet
are sent.  One copy is an entry of `retx_mcast_buffered_pkt`; several are a multicast group, whose
nodes have to be in the replication engine.  There is one group for all ports, so only one port at a
time can have several copies.
-/

namespace LinkGuardian.Sender

open P4 EntryTable Execution

/-! ## The control plane -/

/-- A node of the packet replication engine; `MULTICAST_LAG_ID` is always empty. -/
structure PreNode where
  multicastRid : ℕ
  devPort : List PortId

/-- The tables that `set_number_of_retx_copies` edits. -/
structure RetxTables where
  retxMcastBufferedPkt : Table PortId RetxAction
  preNode : Table ℕ PreNode
  /-- the `MULTICAST_NODE_ID` of each group -/
  preMgid : Table MulticastGroupId (List ℕ)

def txMulticastGrpsBufferedPktsStart : MulticastGroupId := 1

namespace RetxTables

/-- No entry in any table. -/
def empty : RetxTables := ⟨fun _ => none, fun _ => none, fun _ => none⟩

/-- `get_number_of_retx_copies`; an entry for a group that is not there raises. -/
def getNumberOfRetxCopies (t : RetxTables) (devport : PortId) : Option ℕ :=
  match t.retxMcastBufferedPkt devport with
  | none => some 0
  | some .doRetxBufferedPktUcast => some 1
  | some (.doRetxBufferedPktMcast mgid) => (t.preMgid mgid).map List.length

/-- `clear_retx_mcast_pre_tables` -/
def clearRetxMcastPreTables (t : RetxTables) (mgid : MulticastGroupId) : Option RetxTables :=
  (t.preMgid mgid).bind fun nodes =>
    (deleteAll t.preNode nodes).bind fun preNode =>
      (delete t.preMgid mgid).map fun preMgid => { t with preNode, preMgid }

def addAction (t : RetxTables) (devport : PortId) (action : RetxAction) : Option RetxTables :=
  (add t.retxMcastBufferedPkt devport action).map fun entries =>
    { t with retxMcastBufferedPkt := entries }

/-- Several copies: the nodes, the group, and then the entry. -/
def addGroup (t : RetxTables) (numRetxCopies : ℕ) (devport : PortId) : Option RetxTables :=
  (addAll t.preNode (fun i => ⟨i, [devport]⟩) (List.range numRetxCopies)).bind fun preNode =>
    (add t.preMgid txMulticastGrpsBufferedPktsStart (List.range numRetxCopies)).bind fun preMgid =>
      addAction { t with preNode, preMgid } devport
        (.doRetxBufferedPktMcast txMulticastGrpsBufferedPktsStart)

/-- The first half of `set_number_of_retx_copies`: the entry is deleted, if there is one, and what
several copies had put into the replication engine. -/
def clear (t : RetxTables) (currNumRetxCopies : ℕ) (devport : PortId) : Option RetxTables :=
  let t := { t with
    retxMcastBufferedPkt := Function.update t.retxMcastBufferedPkt devport none }
  if currNumRetxCopies > 1 then t.clearRetxMcastPreTables txMulticastGrpsBufferedPktsStart
  else some t

/-- The second half. -/
def install (t : RetxTables) (numRetxCopies : ℕ) (devport : PortId) : Option RetxTables :=
  if numRetxCopies = 0 then some t
  else if numRetxCopies = 1 then t.addAction devport .doRetxBufferedPktUcast
  else t.addGroup numRetxCopies devport

/-- `set_number_of_retx_copies`; what a table refuses is `none`. -/
def setNumberOfRetxCopies (t : RetxTables) (numRetxCopies : ℕ) (devport : PortId) :
    Option RetxTables :=
  (t.getNumberOfRetxCopies devport).bind fun currNumRetxCopies =>
    if numRetxCopies = currNumRetxCopies then some t
    else (t.clear currNumRetxCopies devport).bind fun t => t.install numRetxCopies devport

/-- A call sets the number of copies of a port. -/
def call (t : RetxTables) (c : ℕ × PortId) : Option RetxTables := t.setNumberOfRetxCopies c.1 c.2

/-! ## What the traffic manager makes of the tables -/

/-- The ports of the nodes of a group. -/
def mcastPorts (t : RetxTables) (grpId : MulticastGroupId) : List PortId :=
  ((t.preMgid grpId).getD []).flatMap fun i => ((t.preNode i).map PreNode.devPort).getD []

/-- The number of copies that leave through the port. -/
def copies (t : RetxTables) (devport : PortId) : ℕ :=
  match t.retxMcastBufferedPkt devport with
  | none => 0
  | some .doRetxBufferedPktUcast => 1
  | some (.doRetxBufferedPktMcast grpId) => (t.mcastPorts grpId).count devport

end RetxTables

/-! ## What is asked for -/

/-- The call seen from outside: the port gets the number. -/
def request (want : PortId → ℕ) (c : ℕ × PortId) : Option (PortId → ℕ) :=
  some (Function.update want c.2 c.1)

/-- What a list of calls asks for in the end. -/
def requested (calls : List (ℕ × PortId)) : PortId → ℕ :=
  calls.foldl (fun want c => Function.update want c.2 c.1) fun _ => 0

/-- Several copies are asked for while no other port has several. -/
def OnePort (want : PortId → ℕ) (c : ℕ × PortId) : Prop :=
  1 < c.1 → ∀ q, q ≠ c.2 → want q ≤ 1

/-! ## What the tables hold -/

namespace RetxTables

def actionFor : ℕ → Option RetxAction
  | 0 => none
  | 1 => some .doRetxBufferedPktUcast
  | _ => some (.doRetxBufferedPktMcast txMulticastGrpsBufferedPktsStart)

def nodesFor (devport : PortId) (n : ℕ) : Table ℕ PreNode :=
  fun i => if i < n then some ⟨i, [devport]⟩ else none

def groupsFor (n : ℕ) : Table MulticastGroupId (List ℕ) :=
  fun grpId => if grpId = txMulticastGrpsBufferedPktsStart then some (List.range n) else none

/-- No port wants several copies, and the replication engine is empty. -/
structure Idle (want : PortId → ℕ) (t : RetxTables) : Prop where
  le_one : ∀ q, want q ≤ 1
  preNode : t.preNode = fun _ => none
  preMgid : t.preMgid = fun _ => none

/-- One port wants several copies, and the replication engine holds what they take. -/
structure Replicates (want : PortId → ℕ) (t : RetxTables) (p : PortId) : Prop where
  several : 1 < want p
  le_one : ∀ q, q ≠ p → want q ≤ 1
  preNode : t.preNode = nodesFor p (want p)
  preMgid : t.preMgid = groupsFor (want p)

/-- The tables hold what is wanted, and nothing else. -/
structure Holds (want : PortId → ℕ) (t : RetxTables) : Prop where
  action : ∀ p, t.retxMcastBufferedPkt p = actionFor (want p)
  engine : Idle want t ∨ ∃ p, Replicates want t p

variable {want : PortId → ℕ} {t : RetxTables} {p : PortId} {n : ℕ}

lemma actionFor_of_several (h : 1 < n) :
    actionFor n = some (.doRetxBufferedPktMcast txMulticastGrpsBufferedPktsStart) := by
  match n, h with
  | n + 2, _ => rfl

lemma holds_empty : Holds (fun _ => 0) empty where
  action := fun _ => rfl
  engine := .inl ⟨fun _ => Nat.zero_le _, rfl, rfl⟩

lemma addAction_of_none (h : t.retxMcastBufferedPkt p = none) (action : RetxAction) :
    t.addAction p action = some { t with
      retxMcastBufferedPkt := Function.update t.retxMcastBufferedPkt p (some action) } := by
  rw [addAction, add_of_none h, Option.map_some]

lemma Holds.replicates (h : Holds want t) (hp : 1 < want p) : Replicates want t p := by
  rcases h.engine with hidle | ⟨q, hq⟩
  · exact absurd (hidle.le_one p) (by omega)
  · by_cases heq : p = q
    · rwa [heq]
    · exact absurd (hq.le_one p heq) (by omega)

/-- The group of a port with several copies has that many nodes, all of that port. -/
lemma Replicates.mcastPorts (h : Replicates want t p) :
    t.mcastPorts txMulticastGrpsBufferedPktsStart = List.replicate (want p) p := by
  have hnode : ∀ i ∈ List.range (want p), ((t.preNode i).map PreNode.devPort).getD [] = [p] := by
    intro i hi
    simp [h.preNode, nodesFor, List.mem_range.mp hi]
  have hgroup : (t.preMgid txMulticastGrpsBufferedPktsStart).getD [] = List.range (want p) := by
    simp [h.preMgid, groupsFor]
  rw [RetxTables.mcastPorts, hgroup, List.flatMap_congr hnode, List.eq_replicate_iff]
  simp

/-- **What is read back and what is sent is what is wanted.** -/
lemma Holds.reads (h : Holds want t) (p : PortId) :
    t.getNumberOfRetxCopies p = some (want p) ∧ t.copies p = want p := by
  unfold getNumberOfRetxCopies copies
  rw [h.action]
  rcases Nat.lt_or_ge 1 (want p) with hp | hp
  · have hr := h.replicates hp
    rw [actionFor_of_several hp]
    simp [hr.mcastPorts, hr.preMgid, groupsFor]
  · interval_cases hw : want p <;> simp [actionFor]

/-! ## What a call does -/

/-- Where a port has one copy at most, the replication engine does not change with it. -/
lemma Holds.engine_update (h : Holds want t) (hp : want p ≤ 1) (hn : n ≤ 1)
    (entries : Table PortId RetxAction) :
    Idle (Function.update want p n) { t with retxMcastBufferedPkt := entries } ∨
      ∃ q, Replicates (Function.update want p n) { t with retxMcastBufferedPkt := entries } q := by
  have hle : ∀ q, want q ≤ 1 → Function.update want p n q ≤ 1 := by
    intro q hq
    by_cases heq : q = p
    · simpa [heq] using hn
    · simpa [heq] using hq
  rcases h.engine with hidle | ⟨q, hq⟩
  · exact .inl ⟨fun q => hle q (hidle.le_one q), hidle.preNode, hidle.preMgid⟩
  · have hne : q ≠ p := by
      rintro rfl
      exact absurd hq.several (by omega)
    have hsame : Function.update want p n q = want q := Function.update_of_ne hne _ _
    refine .inr ⟨q, ?_, fun q' hq' => hle q' (hq.le_one q' hq'), ?_, ?_⟩
    · rw [hsame]; exact hq.several
    · rw [hsame]; exact hq.preNode
    · rw [hsame]; exact hq.preMgid

lemma Holds.action_update (h : Holds want t) (p : PortId) (n : ℕ) (q : PortId) :
    Function.update t.retxMcastBufferedPkt p (actionFor n) q =
      actionFor (Function.update want p n q) := by
  by_cases heq : q = p
  · simp [heq]
  · simp [heq, h.action q]

/-- The group of a port with several copies is cleared without a refusal. -/
lemma Replicates.clear (h : Replicates want t p) :
    t.clearRetxMcastPreTables txMulticastGrpsBufferedPktsStart =
      some { t with preNode := fun _ => none, preMgid := fun _ => none } := by
  have hgroup : t.preMgid txMulticastGrpsBufferedPktsStart = some (List.range (want p)) := by
    simp [h.preMgid, groupsFor]
  have hnodes : deleteAll t.preNode (List.range (want p)) = some fun _ => none := by
    rw [deleteAll_eq List.nodup_range (fun i hi => by
      simp [h.preNode, nodesFor, List.mem_range.mp hi])]
    congr 1
    funext i
    simp [h.preNode, nodesFor]
  have hmgid : delete t.preMgid txMulticastGrpsBufferedPktsStart = some fun _ => none := by
    rw [delete, if_pos (by rw [hgroup]; rfl)]
    congr 1
    funext grpId
    by_cases heq : grpId = txMulticastGrpsBufferedPktsStart
    · simp [heq]
    · simp [heq, h.preMgid, groupsFor]
  simp only [clearRetxMcastPreTables, hgroup, hnodes, hmgid, Option.bind_some, Option.map_some]

/-- The first half of a call leaves the port without copies. -/
lemma Holds.clear (h : Holds want t) (p : PortId) :
    ∃ t', t.clear (want p) p = some t' ∧ Holds (Function.update want p 0) t' := by
  unfold RetxTables.clear
  by_cases hp : 1 < want p
  · have hr := h.replicates hp
    have hr' : Replicates want { t with
        retxMcastBufferedPkt := Function.update t.retxMcastBufferedPkt p none } p :=
      ⟨hr.several, hr.le_one, hr.preNode, hr.preMgid⟩
    refine ⟨_, (if_pos hp).trans hr'.clear, h.action_update p 0, .inl ⟨fun q => ?_, rfl, rfl⟩⟩
    by_cases heq : q = p
    · simp [heq]
    · simpa [heq] using hr.le_one q heq
  · exact ⟨_, if_neg hp, h.action_update p 0,
      h.engine_update (by omega) (Nat.zero_le _) _⟩

/-- The second half gives it its copies, unless they are several and so are another port's. -/
lemma Holds.install (h : Holds want t) (hp : want p = 0) (hone : 1 < n → ∀ q, want q ≤ 1) :
    ∃ t', t.install n p = some t' ∧ Holds (Function.update want p n) t' := by
  have hnone : t.retxMcastBufferedPkt p = none := by rw [h.action, hp]; rfl
  unfold RetxTables.install
  rcases Nat.lt_trichotomy n 1 with hn | rfl | hn
  · obtain rfl : n = 0 := by omega
    refine ⟨t, by simp, ?_⟩
    rwa [← hp, Function.update_eq_self]
  · exact ⟨_, addAction_of_none hnone _, h.action_update p 1,
      h.engine_update (by omega) le_rfl _⟩
  · have hidle : Idle want t := h.engine.resolve_right fun ⟨q, hq⟩ => by
      have := hone hn q
      have := hq.several
      omega
    have hadd : addAll t.preNode (fun i => ⟨i, [p]⟩) (List.range n) = some (nodesFor p n) := by
      rw [addAll_eq _ List.nodup_range (fun i _ => by rw [hidle.preNode])]
      congr 1
      funext i
      simp [hidle.preNode, nodesFor]
    have hgroup : add t.preMgid txMulticastGrpsBufferedPktsStart (List.range n) =
        some (groupsFor n) := by
      rw [add_of_none (by rw [hidle.preMgid])]
      congr 1
      funext grpId
      by_cases heq : grpId = txMulticastGrpsBufferedPktsStart
      · simp [heq, groupsFor]
      · simp [heq, groupsFor, hidle.preMgid]
    have hset : Function.update want p n p = n := Function.update_self _ _ _
    rw [if_neg (by omega), if_neg (by omega), addGroup, hadd, Option.bind_some, hgroup,
      Option.bind_some]
    refine ⟨_, addAction_of_none (by exact hnone) _, ?_, .inr ⟨p, ?_, fun q hq => ?_, ?_, ?_⟩⟩
    · intro q
      rw [← h.action_update, actionFor_of_several hn]
    · rwa [hset]
    · rw [Function.update_of_ne hq]
      exact hone hn q
    · rw [hset]
    · rw [hset]

/-- The nodes of another port with several copies are in the way. -/
lemma Holds.install_none (h : Holds want t) (hn : 1 < n) {q : PortId} (hq : 1 < want q) :
    t.install n p = none := by
  have hr := h.replicates hq
  have hold : (t.preNode 0).isSome := by
    simp [hr.preNode, nodesFor, Nat.lt_trans Nat.zero_lt_one hq]
  rw [RetxTables.install, if_neg (by omega), if_neg (by omega), addGroup,
    addAll_eq_none _ (List.mem_range.mpr (by omega)) hold, Option.bind_none]

/-- **Step lemma**: a call that asks for several copies on one port only is carried out. -/
lemma Holds.call (h : Holds want t) {c : ℕ × PortId} (hc : OnePort want c) :
    ∃ t', t.call c = some t' ∧ Holds (Function.update want c.2 c.1) t' := by
  simp only [RetxTables.call, setNumberOfRetxCopies, (h.reads c.2).1, Option.bind_some]
  by_cases heq : c.1 = want c.2
  · refine ⟨t, if_pos heq, ?_⟩
    rwa [heq, Function.update_eq_self]
  · obtain ⟨t₁, ht₁, h₁⟩ := h.clear c.2
    obtain ⟨t₂, ht₂, h₂⟩ := h₁.install (n := c.1) (Function.update_self _ _ _) (fun hn q => by
      by_cases hq : q = c.2
      · simp [hq]
      · simpa [hq] using hc hn q hq)
    rw [Function.update_idem] at h₂
    exact ⟨t₂, by rw [if_neg heq, ht₁, Option.bind_some, ht₂], h₂⟩

/-- A call that asks for several copies on a second port is refused. -/
lemma Holds.call_none (h : Holds want t) {c : ℕ × PortId} (hc : ¬ OnePort want c) :
    t.call c = none := by
  simp only [OnePort, not_forall, not_le, exists_prop] at hc
  obtain ⟨hn, q, hq, hwant⟩ := hc
  have hone : want c.2 ≤ 1 := (h.replicates hwant).le_one _ (Ne.symm hq)
  obtain ⟨t₁, ht₁, h₁⟩ := h.clear c.2
  simp only [RetxTables.call, setNumberOfRetxCopies, (h.reads c.2).1, Option.bind_some]
  rw [if_neg (by omega), ht₁, Option.bind_some]
  exact h₁.install_none hn (q := q) (by rwa [Function.update_of_ne hq])

/-! ## Any number of calls -/

lemma Holds.run (h : Holds want t) (calls : List (ℕ × PortId)) :
    ((run RetxTables.call t calls).isSome ↔ Along request OnePort want calls) ∧
      ∀ t', run RetxTables.call t calls = some t' →
        Holds (calls.foldl (fun want c => Function.update want c.2 c.1) want) t' := by
  induction calls generalizing want t with
  | nil => simpa using h
  | cons c calls ih =>
    have hrequest : request want c = some (Function.update want c.2 c.1) := rfl
    rw [run_cons, along_cons hrequest]
    by_cases hc : OnePort want c
    · obtain ⟨t₁, ht₁, h₁⟩ := h.call hc
      rw [ht₁, Option.bind_some]
      simpa [hc] using ih h₁
    · rw [h.call_none hc]
      simp [hc]

end RetxTables

end LinkGuardian.Sender
