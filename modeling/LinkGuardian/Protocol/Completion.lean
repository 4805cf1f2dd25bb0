import LinkGuardian.Library.ServeInTurn
import LinkGuardian.Protocol.Delivery

/-!
# A protected link finishes

In-order delivery says nothing about the packets that are still under way.  Once the originals
are off the link and the sender has heard of all of them, finitely many passes deliver the rest:
one for every copy in the sender's buffer, one for every copy that was retransmitted, and then the
receiver's buffer, served in turn, hands everything on.

The service of the receiver's buffer is the abstract queue of `ServeInTurn`: a number is let go when
it is awaited and goes to the end of the queue otherwise.  `landed_step` is the simulation between
the two, and the bound on the number of turns comes from there.
-/

namespace LinkGuardian.ProtectedLink

open P4 SerialNumber Execution ServeInTurn

variable {S : Setup} {s : State} {N : ℕ}

/-! ## Retransmissions reach the link -/

/-- Every retransmission puts a copy into the protected port: its entry is unicast, or a multicast
group that the port is in. -/
def Setup.Replicates (S : Setup) : Prop :=
  match S.sender.igTables.retxMcastBufferedPkt S.sender.link.egressPort with
  | some .doRetxBufferedPktUcast => True
  | some (.doRetxBufferedPktMcast grpId) =>
    grpId ≠ 0 ∧ S.sender.link.egressPort ∈ S.mcastPorts grpId
  | none => False

lemma Setup.Replicates.pos (h : S.Replicates) {b : Buffer.State} {n : ℕ} {hdr : Sender.Hdr}
    (hB : Buffer.BufferInv S.sender b) (hmem : (n, hdr) ∈ b.buffer)
    (hd : Buffer.decision (Buffer.igPass S.sender b.igRegs Sender.recircLpbkPort hdr) =
      some .retransmitted) :
    0 < S.replicas (Buffer.igPass S.sender b.igRegs Sender.recircLpbkPort hdr) := by
  have hdst := (copy_retransmits hB hmem hd).destination
  have hport : hdr.linkradarBuffered.fields.dstEgPort = S.sender.link.egressPort :=
    (hB.copies _ hmem).dstEgPort
  change (match S.sender.igTables.retxMcastBufferedPkt hdr.linkradarBuffered.fields.dstEgPort with
    | some .doRetxBufferedPktUcast => _ = hdr.linkradarBuffered.fields.dstEgPort
    | some (.doRetxBufferedPktMcast grpId) => _ = grpId
    | none => False) at hdst
  unfold Setup.Replicates at h
  unfold Setup.replicas
  rw [hport] at hdst
  split at h
  · rename_i hact
    rw [hact] at hdst
    rw [if_pos hdst]
    omega
  · rename_i grpId hact
    rw [hact] at hdst
    obtain ⟨hgrp, hmember⟩ := h
    have hcount := List.count_pos_iff.mpr hmember
    change (Buffer.igPass S.sender b.igRegs Sender.recircLpbkPort hdr).mcastGrpA = grpId at hdst
    rw [hdst, if_neg hgrp]
    omega
  · exact h.elim

/-! ## States that only need to be served -/

/-- The sender has heard of everything: the originals are off the link, the leading ack covers
every copy that is left, and no retransmission was lost for good. -/
structure Heard (s : State) : Prop where
  link : s.sender.link.link = []
  reported : ∀ n ∈ s.sender.nums, n ≤ s.sender.lack
  underway : ∀ n, (n, .retransmitted) ∈ s.sender.decided →
    n ∈ s.arrivedRetx ∨ n ∈ s.retx.map Prod.fst

/-- The awaited number and all that is under way are among the last half range stamped.  No original
is stamped in the passes that follow, so this is kept, and it gives the windows that each of these
passes asks for. -/
structure Recent (s : State) : Prop where
  awaited : s.stamped ≤ s.advances + halfRange
  nums : ∀ n ∈ s.sender.nums, s.stamped ≤ n + halfRange
  retx : ∀ p ∈ s.retx, s.stamped ≤ p.1 + halfRange
  rxBuffer : ∀ p ∈ s.rxBuffer, s.stamped ≤ p.1 + halfRange

/-- What a pass of a state that has heard of everything keeps.  These do not get lost in the passes
that remain, since nothing new is stamped or reported in them. -/
structure Finishing (S : Setup) (N : ℕ) (s : State) : Prop where
  blocking : BlockingInv S s
  heard : Heard s
  recent : Recent s
  stamped : s.stamped = N

lemma Finishing.windowed (h : Finishing S N s) : Windowed s := by
  intro n hn
  have hB := h.blocking.inv.sender.inv.buffer
  have hle := h.blocking.inv.linkInv.sequenced.le
  have hreported := h.heard.reported n hn
  have hrecent := h.recent.nums n hn
  have hlack : s.sender.lack ≤ s.sender.link.stamped := by
    rcases Buffer.lack_cases s.sender with hzero | ⟨r, hr, heq⟩
    · omega
    · have := hB.accounted_lt hr
      omega
  unfold State.stamped at hrecent
  exact ⟨by omega, by omega⟩

/-- What arrives or comes back from the buffer is near the awaited number. -/
lemma Finishing.near (h : Finishing S N s) {n : ℕ} (hlt : n < s.stamped)
    (hn : s.stamped ≤ n + halfRange) : Within halfRange n s.advances := by
  have hle := h.blocking.advances_le
  have hwin := h.recent.awaited
  exact ⟨by omega, by omega⟩

/-- The receiver's buffer after a pass: what it held before, and perhaps the packet itself. -/
lemma mem_afterPass_buffer {R : Receiver.Setup} {r : Receiver.State}
    {rest : List (ℕ × Receiver.Hdr)} {num expected : ℕ} {recirculated : Bool} {mode : BitVec 1}
    {c : Receiver.Ingress} {p : ℕ × Receiver.Hdr}
    (hp : p ∈ (Receiver.afterPass R r rest num expected recirculated mode c).buffer) :
    p ∈ rest ∨ p.1 = num := by
  simp only [Receiver.afterPass] at hp
  split at hp
  · rcases List.mem_append.mp hp with hp | hp
    · exact Or.inl hp
    · rw [List.mem_singleton.mp hp]
      exact Or.inr rfl
  · exact Or.inl hp

lemma advances_le_afterPass {R : Receiver.Setup} {r : Receiver.State}
    {rest : List (ℕ × Receiver.Hdr)} {num expected : ℕ} {recirculated : Bool} {mode : BitVec 1}
    {c : Receiver.Ingress} :
    r.advances ≤ (Receiver.afterPass R r rest num expected recirculated mode c).advances := by
  simp only [Receiver.afterPass, Receiver.countAdvance]
  split <;> omega

/-- A pass of the abstract receiver, read as a service of the queue of its buffer. -/
lemma afterPass_serve {R : Receiver.Setup} {r : Receiver.State} {rest : List (ℕ × Receiver.Hdr)}
    {num expected : ℕ} {recirculated : Bool} {mode : BitVec 1} {c : Receiver.Ingress}
    (hv : c.verdict = Receiver.inOrderVerdict r.advances num)
    (ha : Receiver.countAdvance R r c.regs = Receiver.inOrderNext r.advances num) :
    serve (r.advances, num :: rest.map Prod.fst) () =
      some ((Receiver.afterPass R r rest num expected recirculated mode c).advances,
        (Receiver.afterPass R r rest num expected recirculated mode c).buffer.map Prod.fst) := by
  simp only [serve, Receiver.afterPass, hv, ha, Receiver.inOrderVerdict, Receiver.inOrderNext]
  by_cases heq : num = r.advances
  · simp [heq]
  · by_cases hlt : r.advances < num
    · simp [heq, hlt]
    · simp [heq, hlt]

/-! ## The sender's buffer -/

/-- What the pass of the first copy in the sender's buffer comes to: the copy is gone, and if it was
retransmitted, it is on the link. -/
structure CopyPass (S : Setup) (s : State) (n : ℕ) (b : Buffer.State) : Prop where
  step : step S s (.buffered 0) = some (s.afterSender b (retransmissions S s 0))
  nums : s.sender.nums = n :: b.nums
  link : b.link = s.sender.link
  lack : b.lack = s.sender.lack
  copies : ∀ p ∈ retransmissions S s 0, p.1 = n
  decided : ∀ m, (m, .retransmitted) ∈ b.decided → (m, .retransmitted) ∈ s.sender.decided ∨
    m ∈ (retransmissions S s 0).map Prod.fst

/-- A copy of a hole is retransmitted when the leading ack covers it. -/
lemma Finishing.mem_retransmissions (hrep : S.Replicates) (h : Finishing S N s) {n : ℕ}
    {hdr : Sender.Hdr} (hget : s.sender.buffer[0]? = some (n, hdr))
    (hhole : s.sender.igRegs.HoleAt (wire 16 n)) :
    n ∈ (retransmissions S s 0).map Prod.fst := by
  have hB := h.blocking.inv.sender.inv.buffer
  have hmem : (n, hdr) ∈ s.sender.buffer := List.mem_of_getElem? hget
  have hnum : n ∈ s.sender.nums := List.mem_map_of_mem hmem
  have hdec := (Buffer.copy_spec (hB.copies _ hmem) hB.storesLack (h.windowed n hnum)).decision
  rw [if_pos (h.heard.reported n hnum), if_pos hhole] at hdec
  simp only [retransmissions, hget, if_pos hdec, List.map_replicate]
  exact List.mem_replicate.mpr ⟨(hrep.pos hB hmem hdec).ne', rfl⟩

lemma Finishing.copyPass (hrep : S.Replicates) (h : Finishing S N s)
    (hpos : 0 < s.sender.buffer.length) : ∃ n b, CopyPass S s n b := by
  obtain ⟨⟨n, hdr⟩, rest, hbuf⟩ := List.exists_cons_of_length_pos hpos
  have hget : s.sender.buffer[0]? = some (n, hdr) := by rw [hbuf]; rfl
  have hnum : n ∈ s.sender.nums := List.mem_map_of_mem (List.mem_of_getElem? hget)
  obtain ⟨hlink, hproc, -⟩ := Buffer.afterCopy_keeps s.sender 0 n
    (Buffer.igPass S.sender s.sender.igRegs Sender.recircLpbkPort hdr)
  -- the copy is not above the leading ack, so it does not stay in the loop
  obtain ⟨-, hdecided, hbuffer⟩ :=
    (Buffer.afterCopy_cases h.blocking.inv.sender.inv.buffer h.windowed hget).resolve_left
      fun hlt => absurd (h.heard.reported n hnum) (by omega)
  refine ⟨n, s.sender.afterCopy 0 n
    (Buffer.igPass S.sender s.sender.igRegs Sender.recircLpbkPort hdr), ?_, ?_, hlink,
    Buffer.lack_eq_of_processed hproc, fun p hp => ?_, fun m hm => ?_⟩
  · simp only [ProtectedLink.step, Buffer.step, hget, Option.map_some]
  · rw [Buffer.State.nums, Buffer.State.nums, hbuffer, hbuf]
    rfl
  · simp only [retransmissions, hget] at hp
    split at hp
    · rw [List.eq_of_mem_replicate hp]
    · exact absurd hp List.not_mem_nil
  · rw [hdecided] at hm
    refine (List.mem_append.mp hm).imp_right fun hm => ?_
    have heq := List.mem_singleton.mp hm
    rw [Prod.mk.injEq] at heq
    obtain ⟨rfl, hretx⟩ := heq
    refine h.mem_retransmissions hrep hget ?_
    by_contra hno
    rw [if_neg hno] at hretx
    cases hretx

lemma CopyPass.mem_nums {n : ℕ} {b : Buffer.State} (hp : CopyPass S s n b) {m : ℕ}
    (hm : m ∈ b.nums) : m ∈ s.sender.nums := by
  rw [hp.nums]
  exact List.mem_cons_of_mem n hm

/-- The sender has still heard of everything: letting go of a copy takes no number back. -/
lemma CopyPass.heard {n : ℕ} {b : Buffer.State} (hp : CopyPass S s n b) (h : Heard s) :
    Heard (s.afterSender b (retransmissions S s 0)) where
  link := (congrArg Link.State.link hp.link).trans h.link
  reported := by
    intro m hm
    change m ≤ b.lack
    rw [hp.lack]
    exact h.reported m (hp.mem_nums hm)
  underway := by
    intro m hm
    change m ∈ s.arrivedRetx ∨ m ∈ (s.retx ++ retransmissions S s 0).map Prod.fst
    rw [List.map_append, List.mem_append]
    rcases hp.decided m hm with hm | hnew
    · exact (h.underway m hm).imp_right Or.inl
    · exact Or.inr (Or.inr hnew)

lemma CopyPass.recent {n : ℕ} {b : Buffer.State} (hp : CopyPass S s n b) (h : Recent s) :
    Recent (s.afterSender b (retransmissions S s 0)) := by
  have hstamped : (s.afterSender b (retransmissions S s 0)).stamped = s.stamped :=
    congrArg Link.State.stamped hp.link
  refine ⟨?_, fun m hm => ?_, fun p hmem => ?_, fun p hmem => ?_⟩
  · rw [hstamped]
    exact h.awaited
  · rw [hstamped]
    exact h.nums m (hp.mem_nums hm)
  · rw [hstamped]
    rcases List.mem_append.mp hmem with hold | hnew
    · exact h.retx p hold
    · rw [hp.copies p hnew]
      refine h.nums n ?_
      rw [hp.nums]
      exact List.mem_cons_self
  · rw [hstamped]
    exact h.rxBuffer p hmem

/-- **The pass of a copy** that the leading ack covers takes it out of the loop. -/
lemma Finishing.buffered (hmode : S.mode = 1) (hrep : S.Replicates) (h : Finishing S N s)
    (hpos : 0 < s.sender.buffer.length) :
    ∃ t, step S s (.buffered 0) = some t ∧ Finishing S N t ∧
      t.sender.buffer.length + 1 = s.sender.buffer.length := by
  obtain ⟨n, b, hp⟩ := h.copyPass hrep hpos
  have hw := h.windowed
  have hblocking : BlockingInv S (s.afterSender b (retransmissions S s 0)) := by
    refine blockingInv_step hmode h.blocking hw (fun m hm => ?_) ⟨fun e he => ?_, fun e he => ?_⟩
      hp.step
    · change Within halfRange m b.lack
      rw [hp.lack]
      exact hw m (hp.mem_nums hm)
    · obtain rfl := Option.some_inj.mp he
      exact ⟨trivial, trivial⟩
    · cases he
  have hstamped : (s.afterSender b (retransmissions S s 0)).stamped = s.stamped :=
    congrArg Link.State.stamped hp.link
  refine ⟨_, hp.step, ⟨hblocking, hp.heard h.heard, hp.recent h.recent,
    hstamped.trans h.stamped⟩, ?_⟩
  have hlength := congrArg List.length hp.nums
  rw [List.length_cons, Buffer.State.nums, Buffer.State.nums, List.length_map,
    List.length_map] at hlength
  exact hlength.symm

/-! ## The copies on the link -/

/-- The sender has let go of every copy.  What was to be retransmitted has been put on the link. -/
structure Sent (S : Setup) (N : ℕ) (s : State) : Prop extends Finishing S N s where
  buffer : s.sender.buffer = []

/-- **The arrival of a retransmitted copy.** -/
lemma Sent.arriveRetx (hmode : S.mode = 1) (h : Sent S N s) (hpos : 0 < s.retx.length) :
    ∃ t, step S s (.arriveRetx 0) = some t ∧ Sent S N t ∧ t.retx.length + 1 = s.retx.length := by
  obtain ⟨⟨n, hdr⟩, rest, hretx⟩ := List.exists_cons_of_length_pos hpos
  have hget : s.retx[0]? = some (n, hdr) := by rw [hretx]; rfl
  have hmem : (n, hdr) ∈ s.retx := List.mem_of_getElem? hget
  have herase : s.retx.eraseIdx 0 = rest := by rw [hretx]; rfl
  obtain ⟨hok, hdec⟩ := h.blocking.inv.retx _ hmem
  have hlt : n < s.stamped := (h.blocking.inv.sender.holes.decided _ hdec).2.1
  obtain ⟨r, hr, hrbuf, hradv⟩ : ∃ r,
      Receiver.step S.receiver s.receiver (.data n (retxHdr hdr)) = some r ∧
        (∀ p ∈ r.buffer, p ∈ s.rxBuffer ∨ p.1 = n) ∧ s.advances ≤ r.advances :=
    ⟨_, if_pos hok.dataArrival, fun p hp => mem_afterPass_buffer hp,
      advances_le_afterPass (r := s.receiver)⟩
  have hstep : step S s (.arriveRetx 0) = some (s.afterRetx 0 n r) := by
    simp only [step, hget, hr, Option.map_some]
  have hstamped : (s.afterRetx 0 n r).stamped = s.stamped := rfl
  -- the copy is off the link; its number has arrived, and is held back at most
  refine ⟨_, hstep, ⟨⟨?_, ⟨h.heard.link, h.heard.reported, ?_⟩, ⟨?_, h.recent.nums, ?_, ?_⟩,
    hstamped.trans h.stamped⟩, h.buffer⟩, ?_⟩
  · refine blockingInv_step hmode h.blocking h.windowed h.windowed ⟨fun e he => ?_, fun e he => ?_⟩
      hstep
    · cases he
    · obtain rfl := Option.some_inj.mp ((congrArg (Option.map _) hget).symm.trans he)
      exact ⟨h.near hlt (h.recent.retx _ hmem), trivial⟩
  · intro m hm
    change m ∈ s.arrivedRetx ++ [n] ∨ m ∈ (s.retx.eraseIdx 0).map Prod.fst
    rw [List.mem_append, List.mem_singleton, herase]
    rcases h.heard.underway m hm with harr | hon
    · exact Or.inl (Or.inl harr)
    · rw [hretx, List.map_cons, List.mem_cons] at hon
      exact hon.imp_left Or.inr
  · rw [hstamped]
    exact h.recent.awaited.trans (Nat.add_le_add_right hradv _)
  · intro p hp
    exact h.recent.retx p (List.mem_of_mem_eraseIdx hp)
  · intro p hp
    rcases hrbuf p hp with hold | hnew
    · exact h.recent.rxBuffer p hold
    · rw [hstamped, hnew]
      exact h.recent.retx _ hmem
  · change (s.retx.eraseIdx 0).length + 1 = _
    rw [herase, hretx, List.length_cons]

/-! ## The receiver's buffer -/

/-- Everything that was stamped has come off the link.  What is missing from the order can only be
in the buffer of the receiver. -/
structure Landed (S : Setup) (N : ℕ) (s : State) : Prop extends Sent S N s where
  retx : s.retx = []

/-- The receiver's buffer as a queue of numbers. -/
def State.queue (s : State) : ℕ × List ℕ := (s.advances, s.rxBuffer.map Prod.fst)

lemma Landed.holds (h : Landed S N s) : Holds N s.advances (s.rxBuffer.map Prod.fst) where
  le := h.stamped ▸ h.blocking.advances_le
  all := by
    intro n hn hlt
    have hretx : RetxArrived s := by
      intro m hm
      refine (h.heard.underway m hm).resolve_right fun hon => ?_
      rw [h.retx] at hon
      exact absurd hon List.not_mem_nil
    refine h.blocking.waiting ?_ hn
    exact h.blocking.inv.arrived_of_quiet h.heard.link h.buffer hretx (h.stamped ▸ hlt)
  lt := by
    intro n hn
    rw [← h.stamped]
    exact h.blocking.inv.lt_stamped (h.blocking.inv.arrived n (List.mem_append_right _ hn))

/-- **A pass from the receiver's buffer serves the queue.** -/
lemma Landed.recirculate (hmode : S.mode = 1) (h : Landed S N s) {q : ℕ × List ℕ}
    (hserve : serve s.queue () = some q) :
    ∃ t, step S s (.recirculate 0) = some t ∧ Landed S N t ∧ t.queue = q := by
  cases hbuf : s.rxBuffer with
  | nil =>
    rw [State.queue, hbuf] at hserve
    cases hserve
  | cons p rest =>
    obtain ⟨n, hdr⟩ := p
    have hget : s.receiver.buffer[0]? = some (n, hdr) := congrArg (fun l => l[0]?) hbuf
    have hmem : (n, hdr) ∈ s.rxBuffer := by rw [hbuf]; exact List.mem_cons_self
    have hb := h.blocking.inv.bufferOk _ hmem
    have hwin : Within halfRange n s.advances := by
      refine h.near ?_ (h.recent.rxBuffer _ hmem)
      rw [h.stamped]
      exact h.holds.lt n (List.mem_map_of_mem hmem)
    obtain ⟨hv, ha⟩ := (hb.ready s.receiver).spec hb.blockingMode h.blocking.receiver.acked hwin
    -- the pass of the faithful receiver and the turn of the queue, side by side
    obtain ⟨r, hr, hrbuf, hradv, hqueue⟩ : ∃ r,
        Receiver.step S.receiver s.receiver (.recirculate 0) = some r ∧
          (∀ p ∈ r.buffer, p ∈ rest ∨ p.1 = n) ∧ s.advances ≤ r.advances ∧
          (r.advances, r.buffer.map Prod.fst) = q := by
      refine ⟨Receiver.afterPass S.receiver s.receiver rest n s.rxExpected true
        hdr.linkradarData.fields.blockingMode
        ((Receiver.context s.receiver S.receiver.recircMd hdr).apply S.receiver.tables), ?_,
        fun p hp => mem_afterPass_buffer hp, advances_le_afterPass (r := s.receiver), ?_⟩
      · have herase : s.receiver.buffer.eraseIdx 0 = rest := congrArg (List.eraseIdx · 0) hbuf
        simp only [Receiver.step, hget, herase]
        rfl
      · rw [State.queue, hbuf, List.map_cons] at hserve
        exact Option.some_inj.mp ((afterPass_serve (r := s.receiver) hv ha).symm.trans hserve)
    have hstep : step S s (.recirculate 0) = some (s.withReceiver r) := by
      simp only [step, hr, Option.map_some]
    have hstamped : (s.withReceiver r).stamped = s.stamped := rfl
    refine ⟨_, hstep, ⟨⟨⟨?_, ⟨h.heard.link, h.heard.reported, h.heard.underway⟩,
      ⟨?_, h.recent.nums, h.recent.retx, ?_⟩, hstamped.trans h.stamped⟩, h.buffer⟩, h.retx⟩, hqueue⟩
    · refine blockingInv_step hmode h.blocking h.windowed h.windowed
        ⟨fun e he => ?_, fun e he => ?_⟩ hstep
      · cases he
      · obtain rfl := Option.some_inj.mp he
        refine ⟨fun p hp => ?_, trivial⟩
        obtain rfl := Option.some_inj.mp (hget.symm.trans hp)
        exact hwin
    · rw [hstamped]
      exact h.recent.awaited.trans (Nat.add_le_add_right hradv _)
    · intro p hp
      rw [hstamped]
      rcases hrbuf p hp with hold | hnew
      · exact h.recent.rxBuffer p (by rw [hbuf]; exact List.mem_cons_of_mem _ hold)
      · rw [hnew]
        exact h.recent.rxBuffer _ hmem

/-- Seen through the queue, the pass is a turn of its service. -/
lemma landed_step (hmode : S.mode = 1) (q : ℕ × List ℕ) (s : State) (u : Unit) (q' : ℕ × List ℕ)
    (h : Landed S N s ∧ s.queue = q) (_ : True) (hserve : serve q u = some q') :
    ∃ t, step S s (.recirculate 0) = some t ∧ Landed S N t ∧ t.queue = q' := by
  obtain ⟨h, rfl⟩ := h
  exact h.recirculate hmode hserve

/-! ## Whole runs -/

/-- **A protected link finishes.**  From every state of a blocking-mode run in which the sender has
heard of everything, this many passes deliver what is left: one for each copy in the sender's
buffer, one for each copy then on the link, and, with `n` packets in the receiver's buffer by
then, at most `n (n + 1) / 2` from that buffer, served in turn.  All that was stamped has been
handed on, in order, and nothing is under way any more. -/
theorem protected_link_finishes (S : Setup) (hmode : S.mode = 1) (hrep : S.Replicates)
    (es : List Event) (s : State) (hrun : run (step S) (init S) es = some s)
    (hw : Throughout (step S) Windowed (init S) es)
    (hG : Along (step S) (BlockingGuard S) (init S) es) (hheard : Heard s) (hrecent : Recent s) :
    ∃ t u k v, run (step S) s (List.replicate s.sender.buffer.length (.buffered 0)) = some t ∧
      run (step S) t (List.replicate t.retx.length (.arriveRetx 0)) = some u ∧
      2 * k ≤ u.rxBuffer.length * (u.rxBuffer.length + 1) ∧
      run (step S) u (List.replicate k (.recirculate 0)) = some v ∧
      Quiet v ∧ v.retx = [] ∧ v.released = List.range s.stamped := by
  have hfin : Finishing S s.stamped s := ⟨blockingInv_run hmode hrun hw hG, hheard, hrecent, rfl⟩
  obtain ⟨t, ht, hfin, hempty⟩ := run_drain (fun s : State => s.sender.buffer.length)
    (fun s h hpos => h.buffered hmode hrep hpos) hfin
  have hsent : Sent S s.stamped t := ⟨hfin, List.length_eq_zero_iff.mp hempty⟩
  obtain ⟨u, hu, hsent, hempty⟩ := run_drain (fun s : State => s.retx.length)
    (fun s h hpos => h.arriveRetx hmode hpos) hsent
  have hland : Landed S s.stamped u := ⟨hsent, List.length_eq_zero_iff.mp hempty⟩
  obtain ⟨k, hk, hserve⟩ := hland.holds.drain
  rw [List.length_map] at hk
  obtain ⟨v, hv, hland, hqueue⟩ := run_simulation
    (R := fun q s' => Landed S s.stamped s' ∧ s'.queue = q) (fun _ => Event.recirculate 0)
    (landed_step hmode) (a := u) ⟨hland, rfl⟩ (along_true _ _) hserve
  rw [List.map_replicate] at hv
  have hadv : v.advances = s.stamped := congrArg Prod.fst hqueue
  have hrx : v.rxBuffer = [] := List.map_eq_nil_iff.mp (congrArg Prod.snd hqueue)
  refine ⟨t, u, k, v, ht, hu, hk, hv, ⟨hland.heard.link, hland.buffer, hrx⟩, hland.retx, ?_⟩
  rw [State.released, hland.blocking.receiver.inOrder.released]
  exact congrArg List.range hadv

/-- When the sender of `link36` hears of the loss, three copies are in its buffer and one packet in
the receiver's; the passes deliver all three packets. -/
theorem protected_link_finishes_one_loss : ∃ s es t,
    run (step link36) (init link36) (oneLossRun.take 7) = some s ∧ s.released = [0] ∧
      run (step link36) s es = some t ∧ t.released = [0, 1, 2] := by
  have hrun : (run (step link36) (init link36) (oneLossRun.take 7)).any (fun s =>
      decide (s.released = [0]) && (decide (s.stamped = 3) && (s.sender.link.link.isEmpty &&
        (decide (s.sender.nums = [0, 1, 2]) && (decide (s.sender.lack = 2) &&
          s.sender.decided.isEmpty))))) := by
    decide +kernel
  obtain ⟨s, hs, hend⟩ := (Option.any_eq_true _ _).mp hrun
  simp only [Bool.and_eq_true, decide_eq_true_eq, List.isEmpty_iff] at hend
  obtain ⟨hrel, hstamped, hlink, hnums, hlack, hdec⟩ := hend
  have hheard : Heard s := by
    refine ⟨hlink, fun n hn => ?_, fun n hn => ?_⟩
    · rw [hnums] at hn
      rw [hlack]
      simp at hn
      omega
    · rw [hdec] at hn
      exact absurd hn List.not_mem_nil
  have hrecent : Recent s := by
    refine ⟨?_, fun n _ => ?_, fun p _ => ?_, fun p _ => ?_⟩ <;>
      simp only [hstamped, halfRange] <;> omega
  obtain ⟨t, u, k, v, ht, hu, -, hv, -, -, hall⟩ := protected_link_finishes link36 rfl trivial
    (oneLossRun.take 7) s hs (by decide +kernel) (by decide +kernel) hheard hrecent
  rw [hstamped] at hall
  exact ⟨s, _, v, hs, hrel, run_append ht (run_append hu hv), hall⟩

end LinkGuardian.ProtectedLink
