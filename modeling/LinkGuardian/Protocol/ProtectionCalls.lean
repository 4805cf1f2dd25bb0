import LinkGuardian.Dataplane.Sender.EgressSpec
import LinkGuardian.Dataplane.Sender.Parser
import LinkGuardian.Library.EntryTable
import LinkGuardian.Library.Execution
import LinkGuardian.Protocol.Numbering

/-!
# Protection on and off while traffic flows

`enable_protection` and `disable_protection` of `sender/devtest_cmds.py` between the packets that
leave the sender.  Where it cannot add an entry, `enable_protection` reads the one of port 32,
whatever port it was called for: if port 32 is in the new mode already, the port of the call stays
as it is.  `protection_follows_calls` says when the ports are in the modes asked for, and that their
numbers go on over all of these calls.

How many entries the switch takes beyond the `size` of `link_protect` is up to its driver: `room`
says whether there is room for one more.
-/

namespace LinkGuardian.Sender

open P4 EntryTable Execution SerialNumber

/-! ## The control plane -/

section ControlPlane

variable (room : Table PortId ProtectParams → Bool)

/-- `add_with_protect`; an entry that is there, or no room for it, raises. -/
def addWithProtect (linkProtect : Table PortId ProtectParams) (devport : PortId)
    (mode : BitVec 1) : Option (Table PortId ProtectParams) :=
  if room linkProtect then add linkProtect devport ⟨3, mode⟩ else none

/-- A missing entry does not raise here. -/
def disableProtection (linkProtect : Table PortId ProtectParams) (devport : PortId) :
    Table PortId ProtectParams :=
  Function.update linkProtect devport none

/-- `enable_protection`; the entry of port 32 that is not there raises. -/
def enableProtection (linkProtect : Table PortId ProtectParams) (devport : PortId)
    (mode : BitVec 1) : Option (Table PortId ProtectParams) :=
  match addWithProtect room linkProtect devport mode with
  | some added => some added
  | none => (linkProtect 32).bind fun entry =>
    if entry.blockingMode = mode then some linkProtect
    else addWithProtect room (disableProtection linkProtect devport) devport mode

variable {room}

lemma addWithProtect_eq (linkProtect : Table PortId ProtectParams) (devport : PortId)
    (mode : BitVec 1) : addWithProtect room linkProtect devport mode =
      if linkProtect devport = none ∧ room linkProtect = true then
        some (Function.update linkProtect devport (some ⟨3, mode⟩))
      else none := by
  cases hold : linkProtect devport with
  | none => simp [addWithProtect, add_of_none hold]
  | some old => simp [addWithProtect, add, hold]

/-- What an `enable_protection` that does not raise leaves: the entry asked for, or nothing new. -/
lemma enableProtection_cases {linkProtect table : Table PortId ProtectParams} {devport : PortId}
    {mode : BitVec 1} (h : enableProtection room linkProtect devport mode = some table) :
    (table = Function.update linkProtect devport (some ⟨3, mode⟩) ∧
        ((linkProtect devport = none ∧ room linkProtect = true) ∨
          ∃ entry ∈ linkProtect 32, entry.blockingMode ≠ mode)) ∨
      (table = linkProtect ∧ ¬ (linkProtect devport = none ∧ room linkProtect = true) ∧
        ∃ entry ∈ linkProtect 32, entry.blockingMode = mode) := by
  rw [enableProtection, addWithProtect_eq] at h
  by_cases hfree : linkProtect devport = none ∧ room linkProtect = true
  · rw [if_pos hfree, Option.some_inj] at h
    exact Or.inl ⟨h.symm, Or.inl hfree⟩
  · rw [if_neg hfree, Option.bind_eq_some_iff] at h
    obtain ⟨entry, hentry, h⟩ := h
    split_ifs at h with hmode
    · exact Or.inr ⟨(Option.some_inj.mp h).symm, hfree, entry, hentry, hmode⟩
    · rw [addWithProtect_eq, Option.ite_none_right_eq_some, Option.some_inj, disableProtection,
        Function.update_idem] at h
      exact Or.inl ⟨h.2.symm, Or.inr ⟨entry, hentry, hmode⟩⟩

-- the call for mode 0 finds port 32 in mode 0 and leaves port 36 as it is
example : ((enableProtection (fun _ => true) (fun p => if p = 32 then some ⟨3, 0⟩ else
    if p = 36 then some ⟨3, 1⟩ else none) 36 0).bind (· 36)).map (·.blockingMode) = some 1 := by
  decide

end ControlPlane

/-! ## Calls between packets -/

/-- A packet on its way out of the sender, and what was asked for its port by then. -/
structure Sent where
  port : PortId
  asked : Option (BitVec 1)
  linkradarData : Header LinkradarData

namespace Protecting

structure State where
  linkProtect : Table PortId ProtectParams
  /-- the mode last asked for, by port -/
  asked : PortId → Option (BitVec 1)
  regs : EgressRegs
  /-- the packets that came without a data header -/
  sent : List Sent

/-- Anything that passes the egress: packets, mirrored copies, dummies. -/
structure Packet where
  port : PortId
  hdr : Hdr
  egMeta : EgMeta
  deqQdepth : BitVec 19
  random : BitVec 8

inductive Event
  | enableProtection (devport : PortId) (mode : BitVec 1)
  | disableProtection (devport : PortId)
  | packet (x : Packet)

def init : State where
  linkProtect := fun _ => none
  asked := fun _ => none
  regs := .init
  sent := []

variable (room : Table PortId ProtectParams → Bool) (t : EgressTables)

/-- The egress pass with the entries that there are now. -/
def pass (s : State) (x : Packet) : Egress :=
  (Egress.start s.regs x.port x.deqQdepth x.random x.hdr x.egMeta).apply
    { t with linkProtect := s.linkProtect }

def step (s : State) : Event → Option State
  | .enableProtection devport mode =>
    (Sender.enableProtection room s.linkProtect devport mode).map fun linkProtect =>
      { s with linkProtect, asked := Function.update s.asked devport (some mode) }
  | .disableProtection devport => some { s with
      linkProtect := Sender.disableProtection s.linkProtect devport
      asked := Function.update s.asked devport none }
  | .packet x =>
    let c := pass t s x
    some { s with
      regs := c.regs
      sent := if x.hdr.linkradarData.valid then s.sent
        else s.sent ++ [⟨x.port, s.asked x.port, c.hdr.linkradarData⟩] }

/-- Every port is in the mode last asked for, and unprotected if that was a call to disable or no
call at all. -/
def AsAsked (s : State) : Prop := ∀ port, (s.linkProtect port).map (·.blockingMode) = s.asked port

/-- The port is in the mode already, or free and there is room, or port 32 is in the other mode:
then the entry is modified.  Port 32 stands in the source where the port of the call is meant. -/
def TakesEffect (s : State) : Event → Prop
  | .enableProtection devport mode =>
    (s.linkProtect devport).map (·.blockingMode) = some mode ∨
      (s.linkProtect devport = none ∧ room s.linkProtect = true) ∨
      ∀ entry ∈ s.linkProtect 32, entry.blockingMode ≠ mode
  | _ => True

instance (s : State) : DecidablePred (TakesEffect room s)
  | .enableProtection devport mode => inferInstanceAs (Decidable
      ((s.linkProtect devport).map (·.blockingMode) = some mode ∨
        (s.linkProtect devport = none ∧ room s.linkProtect = true) ∨
        ∀ entry ∈ s.linkProtect 32, entry.blockingMode ≠ mode))
  | .disableProtection _ => isTrue trivial
  | .packet _ => isTrue trivial

variable {room t} {s s' : State} {x : Packet}

lemma asAsked_init : AsAsked init := fun _ => rfl

/-- A call leaves the other ports as they were asked for, so only its own port matters. -/
lemma asAsked_update (h : AsAsked s) {table : Table PortId ProtectParams} {devport : PortId}
    {mode : Option (BitVec 1)} (hkept : ∀ p ≠ devport, table p = s.linkProtect p) :
    AsAsked { s with linkProtect := table, asked := Function.update s.asked devport mode } ↔
      (table devport).map (·.blockingMode) = mode := by
  refine ⟨fun hall => by simpa using hall devport, fun hport p => ?_⟩
  by_cases hp : p = devport
  · simpa [hp] using hport
  · change (table p).map _ = Function.update s.asked devport mode p
    rw [hkept p hp, Function.update_of_ne hp]
    exact h p

/-- **Step lemma**: the ports stay in the modes asked for if and only if the call takes effect. -/
lemma asAsked_step {e : Event} (h : AsAsked s) (hs : step room t s e = some s') :
    AsAsked s' ↔ TakesEffect room s e := by
  cases e with
  | enableProtection devport mode =>
    obtain ⟨table, htable, rfl⟩ := Option.map_eq_some_iff.mp hs
    rcases enableProtection_cases htable with ⟨rfl, hread⟩ | ⟨rfl, hfull, entry, hentry, hmode⟩
    · rw [asAsked_update h fun p hp => Function.update_of_ne hp _ _]
      refine iff_of_true (by simp) (Or.inr (hread.imp_right ?_))
      rintro ⟨entry, hentry, hne⟩ entry' hentry'
      rwa [Option.mem_unique hentry' hentry]
    · rw [asAsked_update h fun _ _ => rfl]
      refine ⟨Or.inl, fun heff => ?_⟩
      rcases heff with hsame | hfree | hother
      · exact hsame
      · exact absurd hfree hfull
      · exact absurd hmode (hother entry hentry)
  | disableProtection devport =>
    obtain rfl := Option.some_inj.mp hs
    refine iff_of_true ((asAsked_update h fun p hp => Function.update_of_ne hp _ _).mpr ?_) trivial
    simp [disableProtection]
  | packet x =>
    obtain rfl := Option.some_inj.mp hs
    exact iff_of_true h trivial

/-! ## What passes the egress -/

lemma pass_of_linkradar (hd : x.hdr.linkradarData.valid = true) :
    (pass t s x).regs.regSeqNo = s.regs.regSeqNo ∧ (pass t s x).regs.regEra = s.regs.regEra :=
  Egress.linkradar_pass_regs hd

lemma pass_of_none (hn : x.hdr.linkradarData.valid = false) (hp : s.linkProtect x.port = none) :
    (pass t s x).hdr.linkradarData = x.hdr.linkradarData ∧
      (pass t s x).regs.regSeqNo = s.regs.regSeqNo ∧
      (pass t s x).regs.regEra = s.regs.regEra :=
  Egress.unprotected_pass hn hp

lemma pass_of_some {p : ProtectParams} (hn : x.hdr.linkradarData.valid = false)
    (hp : s.linkProtect x.port = some p) :
    Egress.Stamps p (.start s.regs x.port x.deqQdepth x.random x.hdr x.egMeta) (pass t s x) :=
  Egress.normal_pass hn hp

/-- A step sends one more packet, or nothing, and then no number moves. -/
lemma step_cases {e : Event} (hs : step room t s e = some s') :
    (s'.sent = s.sent ∧ s'.regs.regSeqNo = s.regs.regSeqNo ∧ s'.regs.regEra = s.regs.regEra) ∨
      ∃ x : Packet, x.hdr.linkradarData.valid = false ∧ s'.regs = (pass t s x).regs ∧
        s'.sent = s.sent ++ [⟨x.port, s.asked x.port, (pass t s x).hdr.linkradarData⟩] := by
  cases e with
  | enableProtection devport mode =>
    obtain ⟨table, -, rfl⟩ := Option.map_eq_some_iff.mp hs
    exact Or.inl ⟨rfl, rfl, rfl⟩
  | disableProtection devport =>
    obtain rfl := Option.some_inj.mp hs
    exact Or.inl ⟨rfl, rfl, rfl⟩
  | packet x =>
    obtain rfl := Option.some_inj.mp hs
    by_cases hd : x.hdr.linkradarData.valid = true
    · exact Or.inl ⟨if_pos hd, pass_of_linkradar hd⟩
    · exact Or.inr ⟨x, Bool.eq_false_iff.mpr hd, rfl, if_neg hd⟩

/-! ## The numbers of a port -/

/-- The packets stamped so far with the registers of a port. -/
def stampedOn (port : BitVec 8) (sent : List Sent) : ℕ :=
  sent.countP fun x => x.linkradarData.valid && decide (x.port.setWidth 8 = port)

/-- The registers hold the next number of each port, and the packets carry the numbers before.
Calls change who is protected and never the registers, so the numbers of a port go on where they
were. -/
structure Numbered (s : State) : Prop where
  regs : ∀ port, Denotes (s.regs.regSeqNo port) (s.regs.regEra port) (stampedOn port s.sent)
  sent : ∀ before x after, s.sent = before ++ x :: after → x.linkradarData.valid = true →
    Carries x.linkradarData.fields (stampedOn (x.port.setWidth 8) before)

lemma numbered_init : Numbered init where
  regs := fun _ => denotes_zero
  sent := fun before x after h => by simp [init] at h

lemma stampedOn_append (port : BitVec 8) (sent : List Sent) (x : Sent) :
    stampedOn port (sent ++ [x]) = stampedOn port sent +
      if x.linkradarData.valid = true ∧ x.port.setWidth 8 = port then 1 else 0 := by
  simp [stampedOn, List.countP_append, List.countP_singleton]

/-- One more packet gets the next number of its port; those before it keep theirs. -/
lemma Numbered.append (h : Numbered s) {x : Sent} (hsent : s'.sent = s.sent ++ [x])
    (hregs : ∀ port, Denotes (s'.regs.regSeqNo port) (s'.regs.regEra port)
      (stampedOn port s'.sent))
    (hx : x.linkradarData.valid = true →
      Carries x.linkradarData.fields (stampedOn (x.port.setWidth 8) s.sent)) : Numbered s' := by
  refine ⟨hregs, fun before y after heq hy => ?_⟩
  rw [hsent] at heq
  rcases List.eq_nil_or_concat after with rfl | ⟨after, z, rfl⟩
  · obtain ⟨rfl, hxy⟩ := List.append_inj' heq rfl
    obtain rfl := (List.cons.inj hxy).1
    exact hx hy
  · refine h.sent before y after ?_ hy
    rw [List.concat_eq_append, ← List.cons_append, ← List.append_assoc] at heq
    exact (List.append_inj' heq rfl).1

/-- **Step lemma**: whatever the calls have made of the entries, a packet takes the next number of
its port or none. -/
lemma numbered_step {e : Event} (h : Numbered s) (hs : step room t s e = some s') :
    Numbered s' := by
  obtain ⟨hsent, hseq, hera⟩ | ⟨x, hn, hregs, hsent⟩ := step_cases hs
  · refine ⟨fun port => ?_, fun before y after heq hy => h.sent before y after (hsent ▸ heq) hy⟩
    rw [hsent, hseq, hera]
    exact h.regs port
  · cases hp : s.linkProtect x.port with
    | none =>
      obtain ⟨hdata, hseq, hera⟩ := pass_of_none (t := t) hn hp
      have hvalid : (pass t s x).hdr.linkradarData.valid = false := by rw [hdata, hn]
      refine h.append hsent (fun port => ?_) fun hx => absurd (hvalid.symm.trans hx) (by decide)
      rw [hregs, hsent, hseq, hera, stampedOn_append, if_neg (by simp [hvalid])]
      exact h.regs port
    | some p =>
      have hstamp := pass_of_some (t := t) hn hp
      have hvalid : (pass t s x).hdr.linkradarData.valid = true := by
        rw [hstamp.linkradarData]
        rfl
      have hcur := h.regs (x.port.setWidth 8)
      refine h.append hsent (fun port => ?_) fun _ => hcur.carries_of_stamps hstamp
      rw [hregs, hsent, stampedOn_append]
      by_cases hport : x.port.setWidth 8 = port
      · rw [if_pos ⟨hvalid, hport⟩, ← hport]
        exact hcur.succ_of_stamps hstamp
      · rw [if_neg fun hx => hport hx.2, add_zero]
        exact (h.regs port).of_stamps_of_ne hstamp (Ne.symm hport)

/-! ## The modes of the packets -/

/-- The packets left as it was asked for their ports. -/
def SentAsAsked (s : State) : Prop := ∀ x ∈ s.sent, x.linkradarData.valid = x.asked.isSome ∧
  ∀ mode ∈ x.asked, x.linkradarData.fields.blockingMode = mode

lemma sentAsAsked_step {e : Event} (h : SentAsAsked s) (ha : AsAsked s)
    (hs : step room t s e = some s') : SentAsAsked s' := by
  intro y hy
  obtain ⟨hsent, -, -⟩ | ⟨x, hn, -, hsent⟩ := step_cases hs
  · exact h y (hsent ▸ hy)
  rw [hsent] at hy
  rcases List.mem_append.mp hy with hy | hy
  · exact h y hy
  obtain rfl := List.mem_singleton.mp hy
  have hasked := ha x.port
  cases hp : s.linkProtect x.port with
  | none =>
    rw [hp, Option.map_none] at hasked
    simp [← hasked, (pass_of_none (t := t) hn hp).1, hn]
  | some p =>
    rw [hp, Option.map_some] at hasked
    simp only [← hasked, (pass_of_some (t := t) hn hp).linkradarData]
    exact ⟨rfl, fun mode hmode => Option.some_inj.mp hmode⟩

/-- **Protection follows the calls, and the numbers go on.**  In every run of calls and packets on
any ports that no call breaks off: all ports are in the modes last asked for at all times if and
only if every call takes effect, and then each packet left protected or not, and in the mode, as
was asked for its port by then.  In any case the protected packets of a port, which is the low 8
bits for the registers, are numbered from 0 on without a gap, however often its protection was
switched. -/
theorem protection_follows_calls (room : Table PortId ProtectParams → Bool) (t : EgressTables)
    (es : List Event) (s : State) (hrun : run (step room t) init es = some s) :
    (Throughout (step room t) AsAsked init es ↔ Along (step room t) (TakesEffect room) init es) ∧
      (Along (step room t) (TakesEffect room) init es → SentAsAsked s) ∧
      ∀ before x after, s.sent = before ++ x :: after → x.linkradarData.valid = true →
        Carries x.linkradarData.fields (stampedOn (x.port.setWidth 8) before) := by
  refine ⟨throughout_iff_along (fun _ _ _ h hs => asAsked_step h hs) asAsked_init hrun,
    fun hG => ?_, ?_⟩
  · have hstep : ∀ s e s', AsAsked s ∧ SentAsAsked s → TakesEffect room s e →
        step room t s e = some s' → AsAsked s' ∧ SentAsAsked s' := fun _ _ _ h hG hs =>
      ⟨(asAsked_step h.1 hs).mpr hG, sentAsAsked_step h.2 h.1 hs⟩
    have hinit : AsAsked init ∧ SentAsAsked init :=
      ⟨asAsked_init, fun x hx => absurd hx List.not_mem_nil⟩
    exact (run_invariant_along hstep hinit hG hrun).2
  · exact (run_invariant (fun _ _ _ h hs => numbered_step h hs) numbered_init hrun).sent

/-- MAX_PROTECTED_PORTS -/
def maxProtectedPorts : ℕ := 16

/-- A switch that takes as many entries as `size` says and no more. -/
def sizeLeft (linkProtect : Table PortId ProtectParams) : Bool :=
  (List.range 512).countP (fun i => (linkProtect (BitVec.ofNat 9 i)).isSome) < maxProtectedPorts

/-- No other entry in any table. -/
def bareTables : EgressTables where
  linkProtect := fun _ => none
  copyPktForBuffering := fun _ => none
  mirrorDummyPkt := fun _ => none
  decideToEmulateCorruption := fun _ => false
  emulateCorruption := fun _ => false
  dcqcnGetEcnProbability := fun _ => 0
  dcqcnCompareProbability := fun _ _ => false

/-- Port 36 is protected in mode 1 beside port 32 in mode 0, gives its protection up and gets it
back. -/
def twoPortsRun : List Event :=
  [.enableProtection 32 0, .enableProtection 36 1, .packet ⟨36, default, default, 0, 0⟩,
    .disableProtection 36, .packet ⟨36, default, default, 0, 0⟩, .enableProtection 36 1,
    .packet ⟨36, default, default, 0, 0⟩]

theorem protection_follows_calls_two_ports : ∃ s,
    run (step sizeLeft bareTables) init twoPortsRun = some s ∧
      Throughout (step sizeLeft bareTables) AsAsked init twoPortsRun ∧ SentAsAsked s := by
  have hrun : (run (step sizeLeft bareTables) init twoPortsRun).isSome := by decide +kernel
  obtain ⟨s, hs⟩ := Option.isSome_iff_exists.mp hrun
  have heff : Along (step sizeLeft bareTables) (TakesEffect sizeLeft) init twoPortsRun := by
    decide +kernel
  obtain ⟨hasked, hsent, -⟩ := protection_follows_calls sizeLeft bareTables twoPortsRun s hs
  exact ⟨s, hs, hasked.mpr heff, hsent heff⟩

end Protecting

end LinkGuardian.Sender
