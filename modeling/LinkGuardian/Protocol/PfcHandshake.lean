import LinkGuardian.Dataplane.Receiver.FramePasses
import LinkGuardian.Library.Execution

/-!
# The PFC handshake

Packets of the receiver buffer note at egress whether the sender is to be paused, and leave a
request behind; a packet of the timer takes the request and becomes a PFC frame, or is dropped.
State, request and frames on the wire are changed by different packets, and a request may
overwrite one that no timer packet has taken yet.

`Coherent` is what every egress pass keeps, whatever packet it is of: a pending request always
speaks for the current state, and without one the last frame did.
-/

namespace LinkGuardian.Receiver

open P4 Execution

/-! ## The system -/

structure PfcState where
  regs : EgressRegs
  /-- the PFC frames sent so far -/
  frames : List EtherPfc

/-- Power-on, with the two thresholds as the control plane sets them. -/
def PfcState.init (pause resume : BitVec 32) : PfcState where
  regs := { EgressRegs.init with
    regRecircBufferPfcPauseThreshold := pause
    regRecircBufferPfcResumeThreshold := resume }
  frames := []

/-- What a PFC frame does to the pause state of the class of protected traffic. -/
def EtherPfc.effect (state : BitVec 8) (h : EtherPfc) : BitVec 8 :=
  if h.c1Enabled = 1 then if h.c1Quanta = 0 then pfcStateResumed else pfcStatePaused else state

/-- The pause state of the sender, as the frames have set it. -/
def PfcState.senderState (s : PfcState) : BitVec 8 := s.frames.foldl EtherPfc.effect pfcStateResumed

/-- A packet at the egress of the receiver. -/
structure PfcEvent where
  egressPort : PortId
  egressRid : BitVec 16
  deqQdepth : BitVec 19
  packet : List Bool

/-- The packet was mirrored by the ingress as a loss notification. -/
def PfcEvent.isLossNotification (e : PfcEvent) : Bool :=
  (EgressParser.parse e.packet).any fun p => p.egMeta.igMirrorLossNotification.valid

/-- The packet is one of the timer, made a PFC frame by the ingress. -/
def PfcEvent.isTimerPfc (e : PfcEvent) : Bool :=
  (EgressParser.parse e.packet).any fun p => p.hdr.etherPfc.valid

/-- The PFC frame that a packet leaves as. -/
def Egress.pfcFrame (c : Egress) : Option EtherPfc :=
  if c.dropCtl = 0 ∧ c.hdr.etherPfc.valid then some c.hdr.etherPfc.fields else none

/-- One egress pass.  With the pause on a loss notification disabled, no copies of one are made
that would become pause frames. -/
def pfcStep (t : EgressTables) (s : PfcState) (e : PfcEvent) : Option PfcState :=
  if e.egressRid = pauseFrameMcastRid ∧ e.isLossNotification then none
  else (egressPass t s.regs e.egressPort e.egressRid e.deqQdepth e.packet).map fun r =>
    ⟨r.1.regs, s.frames ++ r.1.pfcFrame.toList⟩

/-! ## What the parser lets through -/

/-- A packet as the egress parser hands it over: mirrored by the ingress for one of two reasons,
or a packet flagged when it is of the receiver buffer or a PFC frame, and never both. -/
inductive EgressParsed.Kind (p : EgressParsed) : Prop
  | lackUpdate (valid : p.egMeta.igMirrorLackUpdate.valid = true)
      (etherPfc : p.hdr.etherPfc.valid = false)
  | lossNotification (update : p.egMeta.igMirrorLackUpdate.valid = false)
      (valid : p.egMeta.igMirrorLossNotification.valid = true)
      (etherPfc : p.hdr.etherPfc.valid = false)
  | packet (update : p.egMeta.igMirrorLackUpdate.valid = false)
      (loss : p.egMeta.igMirrorLossNotification.valid = false)
      (flag : p.egMeta.eitherRxBufferedOrTimerPfc =
        if p.hdr.linkradarRxBuffered.valid ∨ p.hdr.etherPfc.valid then 1 else 0)
      (exclusive : p.hdr.linkradarRxBuffered.valid = true → p.hdr.etherPfc.valid = false)

lemma extractInto_etherPfc {α : Type} {F : WireFormat α} {store : Hdr → α → Hdr} {p q : Parsed}
    (h : extractInto F store p = some q) (hs : ∀ h a, (store h a).etherPfc = h.etherPfc) :
    q.1.etherPfc = p.1.etherPfc := by
  obtain ⟨a, rest, -, rfl⟩ := extractInto_eq_some_iff.mp h
  exact hs _ _

lemma parseLinkradar_etherPfc {p q : Parsed} (h : parseLinkradar p = some q) :
    q.1.etherPfc = p.1.etherPfc := by
  obtain ⟨ty, -, h⟩ := Option.bind_eq_some_iff.mp h
  split at h
  · obtain ⟨r, hr, h⟩ := Option.bind_eq_some_iff.mp h
    unfold extractLinkradarData at hr
    have hr' : r.1.etherPfc = p.1.etherPfc := extractInto_etherPfc hr fun _ _ => rfl
    split at h
    · rw [← Option.some.inj h, hr']
    · unfold extractLinkradarRxBuffered at h
      exact (extractInto_etherPfc h fun _ _ => rfl).trans hr'
  · split at h
    · unfold extractLinkradarLack at h
      exact extractInto_etherPfc h fun _ _ => rfl
    · rw [← Option.some.inj h]

lemma parseEthernet_exclusive {bs : List Bool} {q : Parsed}
    (h : EgressParser.parseEthernet (default, bs) = some q) :
    q.1.linkradarRxBuffered.valid = true → q.1.etherPfc.valid = false := by
  obtain ⟨p, hp, h⟩ := Option.bind_eq_some_iff.mp h
  obtain ⟨e, rest, -, rfl⟩ := extractInto_eq_some_iff.mp hp
  split at h
  · intro _
    rw [parseLinkradar_etherPfc h]
    rfl
  · split at h
    · obtain ⟨i, r, -, rfl⟩ := extractInto_eq_some_iff.mp h
      exact fun _ => rfl
    · split at h
      · obtain ⟨f, r, -, rfl⟩ := extractInto_eq_some_iff.mp h
        exact fun hrx => absurd hrx Bool.false_ne_true
      · rw [← Option.some.inj h]
        exact fun _ => rfl

lemma kind_of_parse {bs : List Bool} {p : EgressParsed} (h : EgressParser.parse bs = some p) :
    p.Kind := by
  obtain ⟨i, -, h⟩ := Option.bind_eq_some_iff.mp h
  split at h
  · obtain ⟨⟨b, rest⟩, -, h⟩ := Option.bind_eq_some_iff.mp h
    obtain ⟨q, hq, h⟩ := Option.bind_eq_some_iff.mp h
    cases h
    exact .packet rfl rfl rfl (parseEthernet_exclusive hq)
  · split at h
    · obtain ⟨⟨m, rest⟩, -, h⟩ := Option.bind_eq_some_iff.mp h
      cases h
      exact .lackUpdate rfl rfl
    · split at h
      · obtain ⟨⟨m, rest⟩, -, h⟩ := Option.bind_eq_some_iff.mp h
        obtain ⟨q, hq, h⟩ := Option.bind_eq_some_iff.mp h
        obtain ⟨e, r, -, rfl⟩ := extractInto_eq_some_iff.mp hq
        cases h
        exact .lossNotification rfl rfl rfl
      · split at h
        · obtain ⟨⟨b, rest⟩, -, h⟩ := Option.bind_eq_some_iff.mp h
          obtain ⟨q, hq, h⟩ := Option.bind_eq_some_iff.mp h
          cases h
          exact .packet rfl rfl rfl (parseEthernet_exclusive hq)
        · cases h

/-! ## What one pass does to the pause bookkeeping -/

namespace Egress

variable {t : EgressTables} {c : Egress}

/-- State and request stay, and the packet leaves as no PFC frame. -/
structure KeepsPfc (c c' : Egress) : Prop where
  state : c'.regs.regPfcCurrState = c.regs.regPfcCurrState
  request : c'.regs.regPfcGenReq = c.regs.regPfcGenReq
  frame : c'.pfcFrame = none

/-- The state is turned over and a request for it is left, over whatever was pending.  A request
that was not sent yet is overwritten: it asked for the state that is left here. -/
structure RequestsPfc (c c' : Egress) (state request : BitVec 8) : Prop where
  state : c'.regs.regPfcCurrState = state
  request : c'.regs.regPfcGenReq = request
  frame : c'.pfcFrame = none

/-- The pending request is taken, and the packet leaves as the frame that says it.  Only one packet
can take it, since it is cleared with the same access. -/
structure TakesRequest (c c' : Egress) : Prop where
  state : c'.regs.regPfcCurrState = c.regs.regPfcCurrState
  request : c'.regs.regPfcGenReq = pfcGenReqDrop
  drop : c.regs.regPfcGenReq = pfcGenReqDrop → c'.pfcFrame = none
  pause : c.regs.regPfcGenReq = pfcGenReqPause →
    ∃ h ∈ c'.pfcFrame, ∀ state, EtherPfc.effect state h = pfcStatePaused
  resume : c.regs.regPfcGenReq = pfcGenReqResume →
    ∃ h ∈ c'.pfcFrame, ∀ state, EtherPfc.effect state h = pfcStateResumed

lemma pfcFrame_of_not_valid (h : c.hdr.etherPfc.valid = false) : c.pfcFrame = none := by
  simp [pfcFrame, h]

lemma pfcFrame_of_dropped (h : c.dropCtl = 1) : c.pfcFrame = none := by
  simp [pfcFrame, h]

lemma pfcFrame_of_sent (h : c.dropCtl = 0) (hv : c.hdr.etherPfc.valid = true) :
    c.pfcFrame = some c.hdr.etherPfc.fields := by
  simp [pfcFrame, h, hv]

/-- The depth of the receiver buffer turns the state over, or nothing happens. -/
lemma rxBufferedBranch_pfc (h : c.hdr.etherPfc.valid = false) :
    KeepsPfc c c.rxBufferedBranch ∨
      RequestsPfc c c.rxBufferedBranch pfcStatePaused pfcGenReqPause ∨
      RequestsPfc c c.rxBufferedBranch pfcStateResumed pfcGenReqResume := by
  have hframe : c.rxBufferedBranch.pfcFrame = none :=
    pfcFrame_of_not_valid (by rw [rxBufferedBranch_hdr, h])
  by_cases hpause : c.deqQdepth.setWidth 32 ≥ c.regs.regRecircBufferPfcPauseThreshold
  · by_cases hpaused : c.regs.regPfcCurrState = pfcStatePaused
    · refine Or.inl ⟨?_, ?_, hframe⟩ <;>
        simp [rxBufferedBranch, checkRecircBufferPfcPauseThreshold,
          checkRecircBufferPfcResumeThreshold, checkUpdatePfcPauseState, hpause, hpaused]
    · refine Or.inr (Or.inl ⟨?_, ?_, hframe⟩) <;>
        simp [rxBufferedBranch, checkRecircBufferPfcPauseThreshold,
          checkRecircBufferPfcResumeThreshold, checkUpdatePfcPauseState,
          scheduleToGeneratePfcPause, hpause, hpaused]
  · by_cases hresume : c.deqQdepth.setWidth 32 ≤ c.regs.regRecircBufferPfcResumeThreshold
    · by_cases hresumed : c.regs.regPfcCurrState = pfcStateResumed
      · refine Or.inl ⟨?_, ?_, hframe⟩ <;>
          simp [rxBufferedBranch, checkRecircBufferPfcPauseThreshold,
            checkRecircBufferPfcResumeThreshold, checkUpdatePfcResumeState, hpause, hresume,
            hresumed]
      · refine Or.inr (Or.inr ⟨?_, ?_, hframe⟩) <;>
          simp [rxBufferedBranch, checkRecircBufferPfcPauseThreshold,
            checkRecircBufferPfcResumeThreshold, checkUpdatePfcResumeState,
            scheduleToGeneratePfcResume, hpause, hresume, hresumed]
    · refine Or.inl ⟨?_, ?_, hframe⟩ <;>
        simp [rxBufferedBranch, checkRecircBufferPfcPauseThreshold,
          checkRecircBufferPfcResumeThreshold, hpause, hresume]

/-- A packet of the timer takes the request. -/
lemma genPfcOrDrop_pfc (h : c.hdr.etherPfc.valid = true) (hdrop : c.dropCtl = 0) :
    TakesRequest c c.checkResetPfcGenReq.genPfcOrDrop := by
  have hregs : c.checkResetPfcGenReq.genPfcOrDrop.regs = c.checkResetPfcGenReq.regs := by
    unfold genPfcOrDrop
    split_ifs <;> rfl
  refine ⟨by rw [hregs]; rfl, by rw [hregs]; rfl, fun hreq => ?_, fun hreq => ?_, fun hreq => ?_⟩
  · have hgen : c.checkResetPfcGenReq.genPfcOrDrop = c.checkResetPfcGenReq.drop := by
      simp [genPfcOrDrop, checkResetPfcGenReq, hreq]
    rw [hgen]
    exact pfcFrame_of_dropped rfl
  · have hgen : c.checkResetPfcGenReq.genPfcOrDrop =
        c.checkResetPfcGenReq.transformPfcGenToPause := by
      simp [genPfcOrDrop, checkResetPfcGenReq, hreq, pfcGenReqDrop, pfcGenReqPause]
    rw [hgen]
    refine ⟨_, pfcFrame_of_sent hdrop h, fun state => ?_⟩
    simp [EtherPfc.effect, transformPfcGenToPause, maxPfcQuanta]
  · have hgen : c.checkResetPfcGenReq.genPfcOrDrop =
        c.checkResetPfcGenReq.transformPfcGenToResume := by
      simp [genPfcOrDrop, checkResetPfcGenReq, hreq, pfcGenReqDrop, pfcGenReqPause,
        pfcGenReqResume]
    rw [hgen]
    refine ⟨_, pfcFrame_of_sent hdrop h, fun state => ?_⟩
    simp [EtherPfc.effect, transformPfcGenToResume]

/-- Reporting the leading ack adds no PFC header. -/
lemma normalOrCourier_etherPfc (h : c.IsNormalOrCourier) :
    (c.apply t).hdr.etherPfc = c.hdr.etherPfc := by
  have hfetched : (c.fetched t).hdr.etherPfc = c.hdr.etherPfc := by
    unfold fetched getCourierPktMirrorSession
    split <;> rfl
  have hcheck : ∀ c : Egress, c.checkIfLackPending.hdr = c.hdr := by
    intro c
    simp only [checkIfLackPending]
    split_ifs <;> rfl
  have hadd : ∀ c : Egress,
      c.addLackHdrOrDropMirrorCourierPkt.hdr.etherPfc = c.hdr.etherPfc := by
    intro c
    unfold addLackHdrOrDropMirrorCourierPkt
    split <;> rfl
  rw [h.apply_eq]
  exact (hadd _).trans (by rw [hcheck, hfetched])

lemma normalOrCourier_pfc (h : c.IsNormalOrCourier) (hv : c.hdr.etherPfc.valid = false) :
    KeepsPfc c (c.apply t) := by
  have hframe : (c.apply t).pfcFrame = none :=
    pfcFrame_of_not_valid (by rw [normalOrCourier_etherPfc h, hv])
  have hpass := normalOrCourier_pass (t := t) h
  split_ifs at hpass
  · exact ⟨by rw [hpass.regs], by rw [hpass.regs], hframe⟩
  · exact ⟨by rw [hpass.regs], by rw [hpass.regs], hframe⟩

lemma lackUpdate_pfc (h : c.egMeta.igMirrorLackUpdate.valid = true) : KeepsPfc c (c.apply t) := by
  have hget : (c.getLeadingAckNotifyMaxCount t).regs = c.regs := by
    unfold getLeadingAckNotifyMaxCount
    split <;> rfl
  refine ⟨?_, ?_, pfcFrame_of_dropped (lackUpdate_pass h).dropCtl⟩ <;>
    simp [apply, h, lackUpdateBranch, drop, recordLeadingAckEra, recordLeadingAck,
      setLeadingAckNotifyMaxCount, hget]

lemma lossNotification_pfc (hu : c.egMeta.igMirrorLackUpdate.valid = false)
    (h : c.egMeta.igMirrorLossNotification.valid = true)
    (hrid : c.egressRid ≠ pauseFrameMcastRid) (hv : c.hdr.etherPfc.valid = false) :
    KeepsPfc c (c.apply t) := by
  have hpass := lossNotification_pass (t := t) hu h hrid
  refine ⟨by rw [hpass.regs], by rw [hpass.regs], pfcFrame_of_not_valid ?_⟩
  simp [apply, hu, h, lossNotificationBranch, hrid, setLeadingAckNotifyMaxCountToZero,
    copyDataToLossNotificationHdrs, addLackLossNotificationHdrs, hv]

end Egress

/-- The control of a packet, by what the parser found in it. -/
inductive PfcPass (c c' : Egress) : Prop
  | keeps (timer : c.hdr.etherPfc.valid = false) (h : c.KeepsPfc c')
  | pauses (timer : c.hdr.etherPfc.valid = false)
      (h : c.RequestsPfc c' pfcStatePaused pfcGenReqPause)
  | resumes (timer : c.hdr.etherPfc.valid = false)
      (h : c.RequestsPfc c' pfcStateResumed pfcGenReqResume)
  | takes (timer : c.hdr.etherPfc.valid = true) (h : c.TakesRequest c')

/-- **What one pass does**: only a packet of the timer is ever sent as a PFC frame, and it takes
the request with it. -/
theorem pfcPass_of_kind {t : EgressTables} {c : Egress} {payload : List Bool}
    (hk : EgressParsed.Kind ⟨c.hdr, c.egMeta, payload⟩) (hdrop : c.dropCtl = 0)
    (hcopy : ¬ (c.egressRid = pauseFrameMcastRid ∧
      c.egMeta.igMirrorLossNotification.valid = true)) : PfcPass c (c.apply t) := by
  -- the parser leaves three kinds of packets, and only those flagged for one of two reasons touch
  -- the handshake
  cases hk with
  | lackUpdate hu hv => exact .keeps hv (Egress.lackUpdate_pfc hu)
  | lossNotification hu hn hv =>
    have hrid : c.egressRid ≠ pauseFrameMcastRid := fun hrid => hcopy ⟨hrid, hn⟩
    exact .keeps hv (Egress.lossNotification_pfc hu hn hrid hv)
  | packet hu hn hflag hexcl =>
    dsimp only at hu hn hflag hexcl
    by_cases hrx : c.hdr.linkradarRxBuffered.valid = true
    · have happly : c.apply t = { c.rxBufferedBranch with
          hdr := { c.rxBufferedBranch.hdr with
            bridgedMeta := c.rxBufferedBranch.hdr.bridgedMeta.setInvalid } } := by
        simp only [Egress.apply, hu, hn, hflag, hrx, Bool.false_eq_true, true_or, if_true, if_false]
      have hv := hexcl hrx
      rw [happly]
      obtain h | h | h := Egress.rxBufferedBranch_pfc hv
      · exact .keeps hv ⟨h.state, h.request, h.frame⟩
      · exact .pauses hv ⟨h.state, h.request, h.frame⟩
      · exact .resumes hv ⟨h.state, h.request, h.frame⟩
    · by_cases hv : c.hdr.etherPfc.valid = true
      · have happly : c.apply t = { c.checkResetPfcGenReq.genPfcOrDrop with
            hdr := { c.checkResetPfcGenReq.genPfcOrDrop.hdr with
              bridgedMeta := c.checkResetPfcGenReq.genPfcOrDrop.hdr.bridgedMeta.setInvalid } } := by
          simp only [Egress.apply, hu, hn, hflag, hrx, hv, Bool.false_eq_true, or_true, if_true,
            if_false]
        have h := Egress.genPfcOrDrop_pfc hv hdrop
        rw [happly]
        exact .takes hv ⟨h.state, h.request, h.drop, h.pause, h.resume⟩
      · have hnormal : c.IsNormalOrCourier := ⟨hu, hn, by simp [hflag, hrx, hv]⟩
        have hv : c.hdr.etherPfc.valid = false := by simpa using hv
        exact .keeps hv (Egress.normalOrCourier_pfc hnormal hv)

/-! ## The invariant -/

/-- A pending request speaks for the current state, and without one the last frame did.  So a
request that overwrites another one does no harm: what was overwritten spoke for a state that is not
the current one. -/
structure PfcState.Coherent (s : PfcState) : Prop where
  request : s.regs.regPfcGenReq = pfcGenReqDrop ∨ s.regs.regPfcGenReq = pfcGenReqPause ∨
    s.regs.regPfcGenReq = pfcGenReqResume
  pause : s.regs.regPfcGenReq = pfcGenReqPause → s.regs.regPfcCurrState = pfcStatePaused
  resume : s.regs.regPfcGenReq = pfcGenReqResume → s.regs.regPfcCurrState = pfcStateResumed
  drop : s.regs.regPfcGenReq = pfcGenReqDrop → s.senderState = s.regs.regPfcCurrState

lemma PfcState.coherent_init (pause resume : BitVec 32) : (init pause resume).Coherent :=
  { request := .inl rfl
    pause := fun h => by simp [init, EgressRegs.init, pfcGenReqDrop, pfcGenReqPause] at h
    resume := fun h => by simp [init, EgressRegs.init, pfcGenReqDrop, pfcGenReqResume] at h
    drop := fun _ => rfl }

/-- An enabled step is the pass of some parsed packet. -/
lemma pfcStep_pass {t : EgressTables} {s s' : PfcState} {e : PfcEvent}
    (h : pfcStep t s e = some s') : ∃ c c', e.isTimerPfc = c.hdr.etherPfc.valid ∧
      c.regs = s.regs ∧ PfcPass c c' ∧ s' = ⟨c'.regs, s.frames ++ c'.pfcFrame.toList⟩ := by
  unfold pfcStep at h
  split_ifs at h with hcopy
  obtain ⟨r, hr, rfl⟩ := Option.map_eq_some_iff.mp h
  obtain ⟨p, hp, rfl⟩ := Option.map_eq_some_iff.mp hr
  have htimer : e.isTimerPfc = p.hdr.etherPfc.valid := by simp [PfcEvent.isTimerPfc, hp]
  have hloss : e.isLossNotification = p.egMeta.igMirrorLossNotification.valid := by
    simp [PfcEvent.isLossNotification, hp]
  rw [hloss] at hcopy
  exact ⟨Egress.start s.regs e.egressPort e.egressRid e.deqQdepth p.hdr p.egMeta, _, htimer, rfl,
    pfcPass_of_kind (kind_of_parse hp) rfl hcopy, rfl⟩

lemma senderState_append (regs : EgressRegs) (frames : List EtherPfc) (frame : Option EtherPfc) :
    PfcState.senderState ⟨regs, frames ++ frame.toList⟩ =
      frame.toList.foldl EtherPfc.effect (frames.foldl EtherPfc.effect pfcStateResumed) := by
  simp [PfcState.senderState]

/-- A taken request leaves the sender in the current state. -/
lemma PfcState.Coherent.takes {s : PfcState} {c c' : Egress} (hs : s.Coherent)
    (hc : c.regs = s.regs) (h : c.TakesRequest c') :
    PfcState.senderState ⟨c'.regs, s.frames ++ c'.pfcFrame.toList⟩ = c'.regs.regPfcCurrState := by
  rw [senderState_append, h.state, hc]
  rcases hs.request with hreq | hreq | hreq
  · rw [h.drop (hc ▸ hreq), ← hs.drop hreq]
    rfl
  · obtain ⟨f, hf, heff⟩ := h.pause (hc ▸ hreq)
    rw [Option.mem_def.mp hf, hs.pause hreq]
    exact heff _
  · obtain ⟨f, hf, heff⟩ := h.resume (hc ▸ hreq)
    rw [Option.mem_def.mp hf, hs.resume hreq]
    exact heff _

/-- **Every pass keeps the bookkeeping coherent.**  What the sender will have been told when the
request has been taken is the state that the receiver is in. -/
theorem PfcState.Coherent.step {t : EgressTables} {s s' : PfcState} {e : PfcEvent}
    (hs : s.Coherent) (h : pfcStep t s e = some s') : s'.Coherent := by
  obtain ⟨c, c', -, hc, hpass, rfl⟩ := pfcStep_pass h
  cases hpass with
  | keeps _ h =>
    have hsender : senderState ⟨c'.regs, s.frames ++ c'.pfcFrame.toList⟩ = s.senderState := by
      rw [senderState_append, h.frame]
      rfl
    have hstate : c'.regs.regPfcCurrState = s.regs.regPfcCurrState := h.state.trans (by rw [hc])
    have hreq : c'.regs.regPfcGenReq = s.regs.regPfcGenReq := h.request.trans (by rw [hc])
    exact ⟨by simpa [hreq] using hs.request, by simpa [hreq, hstate] using hs.pause,
      by simpa [hreq, hstate] using hs.resume, by simpa [hsender, hreq, hstate] using hs.drop⟩
  | pauses _ h =>
    refine ⟨.inr (.inl h.request), fun _ => h.state, fun hreq => ?_, fun hreq => ?_⟩ <;>
      exact absurd (h.request.symm.trans hreq) (by decide)
  | resumes _ h =>
    refine ⟨.inr (.inr h.request), fun hreq => ?_, fun _ => h.state, fun hreq => ?_⟩ <;>
      exact absurd (h.request.symm.trans hreq) (by decide)
  | takes _ h =>
    refine ⟨.inl h.request, fun hreq => ?_, fun hreq => ?_, fun _ => hs.takes hc h⟩ <;>
      exact absurd (h.request.symm.trans hreq) (by decide)

/-- After the packet of the timer, the sender is in the current state. -/
lemma PfcState.Coherent.timer {t : EgressTables} {s s' : PfcState} {e : PfcEvent}
    (hs : s.Coherent) (he : e.isTimerPfc = true) (h : pfcStep t s e = some s') :
    s'.senderState = s'.regs.regPfcCurrState := by
  obtain ⟨c, c', hv, hc, hpass, rfl⟩ := pfcStep_pass h
  rw [he] at hv
  cases hpass with
  | keeps htimer | pauses htimer | resumes htimer => simp [htimer] at hv
  | takes _ h => exact hs.takes hc h

/-- **The PFC handshake.**  In every reachable state a pending request speaks for the current
state and without one the last frame did; a packet of the timer brings the sender to the current
state, however many requests have overwritten each other before. -/
theorem pfc_handshake (t : EgressTables) (pause resume : BitVec 32) (es : List PfcEvent)
    (s : PfcState) (hrun : run (pfcStep t) (.init pause resume) es = some s) :
    (s.regs.regPfcGenReq = pfcGenReqPause → s.regs.regPfcCurrState = pfcStatePaused) ∧
    (s.regs.regPfcGenReq = pfcGenReqResume → s.regs.regPfcCurrState = pfcStateResumed) ∧
    (s.regs.regPfcGenReq = pfcGenReqDrop → s.senderState = s.regs.regPfcCurrState) ∧
    ∀ e s', e.isTimerPfc = true → pfcStep t s e = some s' →
      s'.senderState = s'.regs.regPfcCurrState := by
  have hs : s.Coherent := run_invariant (fun _ _ _ hs h => hs.step h)
    (PfcState.coherent_init pause resume) hrun
  exact ⟨hs.pause, hs.resume, hs.drop, fun e s' he h => hs.timer he h⟩

def emptyTables : EgressTables := ⟨fun _ => none, fun _ => none, fun _ => none⟩

/-- A packet of the receiver buffer that leaves a queue of this depth. -/
def rxBufferedEvent (deqQdepth : BitVec 19) : PfcEvent where
  egressPort := 36
  egressRid := 0
  deqQdepth := deqQdepth
  packet := bridgedBits
    (protectedBits default { (default : LinkradarData) with blockingMode := 1, rxBuffered := 1 }
      (.of ⟨36⟩) [])

/-- A packet of the timer, with the header that the ingress gave it. -/
def timerPfcEvent : PfcEvent where
  egressPort := 36
  egressRid := 0
  deqQdepth := 0
  packet := bridgedBits (frameBits { (default : Ethernet) with etherType := EtherType.pausePfc }
    (etherPfcFormat.emit { (default : EtherPfc) with opCode := pfcOpCode }))

/-- With thresholds 50 and 10, a full queue asks for a pause and an empty one overwrites it before
the timer has come: the sender, never paused, is told to resume. -/
theorem pfc_handshake_overwritten : ∃ s s',
    run (pfcStep emptyTables) (.init 50 10) [rxBufferedEvent 100, rxBufferedEvent 0] = some s ∧
      s.regs.regPfcCurrState = pfcStateResumed ∧
      pfcStep emptyTables s timerPfcEvent = some s' ∧
      s'.senderState = s'.regs.regPfcCurrState := by
  have hrun : (run (pfcStep emptyTables) (.init 50 10)
      [rxBufferedEvent 100, rxBufferedEvent 0]).any (fun s =>
        s.regs.regPfcGenReq = pfcGenReqResume ∧
          (pfcStep emptyTables s timerPfcEvent).isSome) = true := by decide +kernel
  obtain ⟨s, hs, hany⟩ := (Option.any_eq_true _ _).mp hrun
  obtain ⟨hreq, hsome⟩ := of_decide_eq_true hany
  obtain ⟨s', hs'⟩ := Option.isSome_iff_exists.mp hsome
  obtain ⟨-, hresume, -, htimer⟩ := pfc_handshake emptyTables 50 10 _ s hs
  exact ⟨s, s', hs, hresume hreq, hs', htimer _ s' (by decide +kernel) hs'⟩

end LinkGuardian.Receiver
