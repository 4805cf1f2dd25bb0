import LinkGuardian.Library.Loops
import LinkGuardian.Simulator.Simulation

/-!
# What the solutions do

Whatever a solution does besides running LinkGuardian on a link, it does by disabling links one
after the other and scheduling the recovery of each: `Acting.disableAll`.  `Simulation.Processed`
says where a solution comes in when an event is processed.
-/

namespace LinkGuardian.Simulator

/-! ## Disabling links -/

lemma getCorroptRecoveryEvent_eq (gen : RandGen) (linkId : ℕ) (currTime : ℤ) :
    ∃ delay : ℤ, 0 < delay ∧ (getCorroptRecoveryEvent gen linkId currTime).1 =
      ⟨currTime + delay, .RecoveryEvent, linkId, initialLinkLossRate⟩ := by
  refine ⟨if gen.randint.1 ≤ 80 then 2 * 24 * 3600 else 4 * 24 * 3600, ?_, rfl⟩
  split <;> omega

namespace Acting

/-- Disable links in turn. -/
def disableAll (time : ℤ) (links : List ℕ) (a : Acting) : Option Acting :=
  links.foldlM (fun a linkId => a.disable time linkId) a

lemma disable_eq_some {a a' : Acting} {time : ℤ} {linkId : ℕ} :
    a.disable time linkId = some a' ↔ ∃ topo, a.topo.disableLink linkId = some topo ∧
      a' = { topo := topo
             gen := (getCorroptRecoveryEvent a.gen linkId time).2
             events := a.events ++ [(getCorroptRecoveryEvent a.gen linkId time).1] } := by
  rw [disable]
  cases a.topo.disableLink linkId with
  | none => simp
  | some topo => simp [eq_comm]

lemma disableAll_cons_eq_some {a a' : Acting} {time : ℤ} {linkId : ℕ} {links : List ℕ} :
    disableAll time (linkId :: links) a = some a' ↔
      ∃ b, a.disable time linkId = some b ∧ disableAll time links b = some a' :=
  Loop.cons_eq_some

lemma disableAll_append_eq_some {a a' : Acting} {time : ℤ} {links links' : List ℕ} :
    disableAll time (links ++ links') a = some a' ↔
      ∃ b, disableAll time links a = some b ∧ disableAll time links' b = some a' := by
  rw [disableAll, List.foldlM_append]
  exact Option.bind_eq_some_iff

/-- Disabling the links of a list that meet a condition, in a loop over the list. -/
lemma foldlM_disable_if {p : Acting → ℕ → Prop} [∀ a l, Decidable (p a l)] {time : ℤ}
    {links : List ℕ} {a a' : Acting}
    (h : links.foldlM (fun a l => if p a l then a.disable time l else some a) a = some a') :
    ∃ disabled, disableAll time disabled a = some a' := by
  induction links generalizing a with
  | nil => exact ⟨[], h⟩
  | cons l links ih =>
    obtain ⟨b, hb, h⟩ := Loop.cons_eq_some.mp h
    obtain ⟨disabled, hdisabled⟩ := ih h
    split at hb
    · exact ⟨l :: disabled, disableAll_cons_eq_some.mpr ⟨b, hb, hdisabled⟩⟩
    · cases hb
      exact ⟨disabled, hdisabled⟩

end Acting

/-! ## CorrOpt -/

namespace CorrOptSolution

variable {sol : CorrOptSolution} {orders : SetOrders} {topo : Topology} {gen : RandGen}
  {time : ℤ} {a a' : Acting}

lemma corroptFastChecker_cases {linkId : ℕ}
    (h : sol.corroptFastChecker topo gen time linkId = some a) :
    a = { topo := topo, gen := gen, events := [nopEvent] } ∨
      ({ topo := topo, gen := gen } : Acting).disable time linkId = some a := by
  unfold corroptFastChecker at h
  obtain ⟨violating, -, h⟩ := Option.bind_eq_some_iff.mp h
  cases violating with
  | none => exact .inr h
  | some affectedTor =>
    obtain ⟨-, -, h⟩ := Option.bind_eq_some_iff.mp h
    cases h
    exact .inl rfl

lemma disableBestSubset_disableAll (h : sol.disableBestSubset orders time a = some a') :
    ∃ links, a.disableAll time links = some a' := by
  obtain ⟨search, -, h⟩ := Option.bind_eq_some_iff.mp h
  split at h
  · obtain ⟨⟨rate, leastSubset⟩, -, h⟩ := Option.bind_eq_some_iff.mp h
    exact ⟨_, h⟩
  · cases h
    exact ⟨[], rfl⟩

lemma corroptOptimizer_disableAll (h : sol.corroptOptimizer orders topo gen time = some a) :
    ∃ links, Acting.disableAll time links { topo := topo, gen := gen } = some a := by
  unfold corroptOptimizer at h
  split at h
  · cases h
    exact ⟨[], rfl⟩
  · obtain ⟨violation, -, h⟩ := Option.bind_eq_some_iff.mp h
    obtain ⟨b, hb, h⟩ := Option.bind_eq_some_iff.mp h
    obtain ⟨links, hlinks⟩ := Acting.foldlM_disable_if hb
    split at h
    · cases h
      exact ⟨links, hlinks⟩
    · obtain ⟨links', hlinks'⟩ := disableBestSubset_disableAll h
      exact ⟨links ++ links', Acting.disableAll_append_eq_some.mpr ⟨b, hlinks, hlinks'⟩⟩

end CorrOptSolution

/-! ## The requested events -/

/-- Only recoveries at later times, and events that are not queued. -/
def Requestable (time : ℤ) (event : LinkEvent) : Prop :=
  event.type = .NopEvent ∨ event.type = .RecoveryEvent ∧ time < event.time

lemma requestable_recovery (gen : RandGen) (linkId : ℕ) (time : ℤ) :
    Requestable time (getCorroptRecoveryEvent gen linkId time).1 := by
  obtain ⟨delay, hdelay, heq⟩ := getCorroptRecoveryEvent_eq gen linkId time
  rw [heq]
  exact .inr ⟨rfl, by show time < time + delay; omega⟩

lemma Acting.requestable_disableAll {time : ℤ} {links : List ℕ} {a a' : Acting}
    (ha : ∀ e ∈ a.events, Requestable time e) (h : a.disableAll time links = some a') :
    ∀ e ∈ a'.events, Requestable time e := by
  refine Loop.preserve (P := fun b => ∀ e ∈ b.events, Requestable time e) ha
    (fun l _ b b' hb hstep => ?_) h
  obtain ⟨topo, -, rfl⟩ := disable_eq_some.mp hstep
  intro e he
  rcases List.mem_append.mp he with he | he
  · exact hb e he
  · rw [List.mem_singleton.mp he]
    exact requestable_recovery b.gen l time

lemma requestable_nop {time : ℤ} : ∀ e ∈ [nopEvent], Requestable time e := by
  intro e he
  rw [List.mem_singleton.mp he]
  exact .inl rfl

namespace Solution

variable {sol : Solution} {topo : Topology} {gen : RandGen} {time : ℤ} {a : Acting}

lemma requestable_fastChecker {corropt : CorrOptSolution} {linkId : ℕ}
    (h : corropt.corroptFastChecker topo gen time linkId = some a) :
    ∀ e ∈ a.events, Requestable time e := by
  rcases CorrOptSolution.corroptFastChecker_cases h with rfl | h
  · exact requestable_nop
  · have hall : Acting.disableAll time [linkId] { topo := topo, gen := gen } = some a :=
      Acting.disableAll_cons_eq_some.mpr ⟨a, h, rfl⟩
    exact Acting.requestable_disableAll (fun e he => by cases he) hall

/-- **The events that a solution requests are later than the failure that it handles.**  So the
queue can be served in the order of the times without coming back to one that has passed. -/
theorem requestable_processFailureEvent {linkId : ℕ} {lossRate : ℚ}
    (h : sol.processFailureEvent topo gen time linkId lossRate = some a) :
    ∀ e ∈ a.events, Requestable time e := by
  cases sol with
  | doNothing =>
    cases h
    exact requestable_nop
  | disableAndRepair =>
    obtain ⟨topo', -, h⟩ := Option.bind_eq_some_iff.mp h
    cases h
    intro e he
    rw [List.mem_singleton.mp he]
    exact .inr ⟨rfl, by show time < time + 4 * 24 * 3600; omega⟩
  | corrOpt corropt => exact requestable_fastChecker h
  | linkGuardian linkguardian =>
    obtain ⟨topo', -, h⟩ := Option.bind_eq_some_iff.mp h
    cases h
    exact requestable_nop
  | lgCorrOpt linkguardian corropt =>
    obtain ⟨topo', -, h⟩ := Option.bind_eq_some_iff.mp h
    exact requestable_fastChecker h

theorem requestable_postRecoveryEventCb {orders : SetOrders}
    (h : sol.postRecoveryEventCb orders topo gen time = some a) :
    ∀ e ∈ a.events, Requestable time e := by
  have hoptimizer : ∀ corropt : CorrOptSolution,
      corropt.corroptOptimizer orders topo gen time = some a →
        ∀ e ∈ a.events, Requestable time e := by
    intro corropt h
    obtain ⟨links, hlinks⟩ := CorrOptSolution.corroptOptimizer_disableAll h
    exact Acting.requestable_disableAll (fun e he => by cases he) hlinks
  cases sol with
  | corrOpt corropt => exact hoptimizer corropt h
  | lgCorrOpt linkguardian corropt => exact hoptimizer corropt h
  | doNothing => cases h; exact requestable_nop
  | disableAndRepair => cases h; exact requestable_nop
  | linkGuardian linkguardian => cases h; exact requestable_nop

end Solution

/-! ## One event -/

namespace Simulation

/-- What processing an event comes to: a failure of a disabled link, or no event at all; a
failure that the solution handles; or a recovery. -/
inductive Processed (orders : SetOrders) (event : LinkEvent) (sim sim' : Simulation) : Prop
  | ignored (skippedLossEvents : ℕ)
      (heq : sim' = { sim with skippedLossEvents := skippedLossEvents })
  | failure (l : ℕ) (failed : Topology) (a : Acting)
      (hlookup : sim.topo.fabric.lookupLink event.linkId = some l)
      (hdis : ¬ sim.topo.isLinkDisabled l = true)
      (hrecord : recordFailure sim.topo l event.lossRate = some failed)
      (ha : sim.solution.processFailureEvent failed sim.corroptRecoveryRandGen event.time l
        event.lossRate = some a)
      (hacted : sim.acted a = some sim')
  | recovery (l : ℕ) (topo : Topology) (a : Acting)
      (henable : sim.topo.enableLink l = some topo)
      (ha : sim.solution.postRecoveryEventCb orders topo sim.corroptRecoveryRandGen event.time =
        some a)
      (hacted : sim.acted a = some sim')

variable {orders : SetOrders} {event : LinkEvent} {sim sim' : Simulation}

theorem processed (h : sim.processEvent orders event = some sim') :
    Processed orders event sim sim' := by
  obtain ⟨l, hlookup, h⟩ := Option.bind_eq_some_iff.mp h
  split at h
  · split at h
    · cases h
      exact .ignored _ rfl
    · next hdis =>
      obtain ⟨failed, hrecord, h⟩ := Option.bind_eq_some_iff.mp h
      obtain ⟨a, ha, h⟩ := Option.bind_eq_some_iff.mp h
      exact .failure l failed a hlookup hdis hrecord ha h
  · obtain ⟨topo, henable, h⟩ := Option.bind_eq_some_iff.mp h
    obtain ⟨a, ha, h⟩ := Option.bind_eq_some_iff.mp h
    exact .recovery l topo a henable ha h
  · cases h
    exact .ignored sim.skippedLossEvents rfl

end Simulation

end LinkGuardian.Simulator
