import Mathlib.Order.Basic
import Mathlib.Tactic.Common

/-!
# Runs of a partial step function

A system is a step function `σ → ε → Option σ`: the event says which party moves, and `none`
means that the event is not enabled.  `run` folds a schedule, `Reachable` is the set of end
states of all schedules, `Along` says that a condition on the state before each step held during
a whole schedule, and `Throughout` that a property held of every state on the way.

The rules carry a property from one step to every run: `run_invariant` for an invariant,
`run_invariant_along` for one that needs the condition, `throughout_iff_along` for a condition that
says exactly when a property is kept, `run_account` for one that speaks of what the steps have given
out as well, and `run_simulation` for a forward simulation between two systems driven by related
events.
-/

namespace Execution

variable {σ ε : Type*} (step : σ → ε → Option σ)

/-- Fold a schedule from a state; `none` as soon as an event is not enabled. -/
def run : σ → List ε → Option σ
  | s, [] => some s
  | s, e :: es => (step s e).bind fun s' => run s' es

@[simp] lemma run_nil (s : σ) : run step s [] = some s := rfl

lemma run_cons (s : σ) (e : ε) (es : List ε) :
    run step s (e :: es) = (step s e).bind fun s' => run step s' es := rfl

variable {step}

lemma run_cons_eq_some {s t : σ} {e : ε} {es : List ε} :
    run step s (e :: es) = some t ↔ ∃ s', step s e = some s' ∧ run step s' es = some t := by
  rw [run_cons, Option.bind_eq_some_iff]

lemma run_append {s t u : σ} {es fs : List ε} (h : run step s es = some t)
    (h' : run step t fs = some u) : run step s (es ++ fs) = some u := by
  induction es generalizing s with
  | nil => rw [run_nil, Option.some_inj] at h; rwa [h]
  | cons e es ih =>
    obtain ⟨s', hs, hr⟩ := run_cons_eq_some.mp h
    exact run_cons_eq_some.mpr ⟨s', hs, ih hr⟩

lemma run_append_eq_some {s u : σ} {es fs : List ε} :
    run step s (es ++ fs) = some u ↔ ∃ t, run step s es = some t ∧ run step t fs = some u := by
  refine ⟨fun h => ?_, fun ⟨t, ht, hr⟩ => run_append ht hr⟩
  induction es generalizing s with
  | nil => exact ⟨s, rfl, h⟩
  | cons e es ih =>
    obtain ⟨s', he, hr⟩ := run_cons_eq_some.mp h
    obtain ⟨t, ht, hu⟩ := ih hr
    exact ⟨t, run_cons_eq_some.mpr ⟨s', he, ht⟩, hu⟩

variable (step) in
/-- The states at the end of some schedule from `s`. -/
def Reachable (s t : σ) : Prop := ∃ es, run step s es = some t

lemma Reachable.refl (s : σ) : Reachable step s s := ⟨[], rfl⟩

lemma Reachable.tail {s t u : σ} {e : ε} (h : Reachable step s t) (he : step t e = some u) :
    Reachable step s u := by
  obtain ⟨es, hes⟩ := h
  exact ⟨es ++ [e], run_append hes (run_cons_eq_some.mpr ⟨u, he, rfl⟩)⟩

/-- **Invariant rule**: what every step preserves holds at the end of every run.  The induction over
schedules is made here, and the users of the rule look at a single step. -/
theorem run_invariant {Inv : σ → Prop}
    (hstep : ∀ s e s', Inv s → step s e = some s' → Inv s')
    {s t : σ} {es : List ε} (hs : Inv s) (h : run step s es = some t) : Inv t := by
  induction es generalizing s with
  | nil => rw [run_nil, Option.some_inj] at h; rwa [← h]
  | cons e es ih =>
    obtain ⟨s', he, hr⟩ := run_cons_eq_some.mp h
    exact ih (hstep s e s' hs he) hr

/-- **Progress rule**: a step that is enabled wherever the invariant holds, and keeps it, gives
runs of every schedule. -/
theorem run_total {Inv : σ → Prop} (hstep : ∀ s e, Inv s → ∃ s', step s e = some s' ∧ Inv s')
    {s : σ} (es : List ε) (hs : Inv s) : ∃ t, run step s es = some t ∧ Inv t := by
  induction es generalizing s with
  | nil => exact ⟨s, rfl, hs⟩
  | cons e es ih =>
    obtain ⟨s', he, hs'⟩ := hstep s e hs
    obtain ⟨t, ht, hinv⟩ := ih hs'
    exact ⟨t, run_cons_eq_some.mpr ⟨s', he, ht⟩, hinv⟩

/-- **Drain rule**: a step that is enabled while something is left, and takes one off, repeated
as often as there is something left, leaves nothing. -/
theorem run_drain {Inv : σ → Prop} (size : σ → ℕ) {e : ε}
    (hstep : ∀ s, Inv s → 0 < size s → ∃ s', step s e = some s' ∧ Inv s' ∧ size s' + 1 = size s)
    {s : σ} (hs : Inv s) :
    ∃ t, run step s (List.replicate (size s) e) = some t ∧ Inv t ∧ size t = 0 := by
  obtain ⟨n, hn⟩ : ∃ n, size s = n := ⟨_, rfl⟩
  rw [hn]
  induction n generalizing s with
  | zero => exact ⟨s, rfl, hs, hn⟩
  | succ n ih =>
    obtain ⟨s', he, hs', hsize⟩ := hstep s hs (by omega)
    obtain ⟨t, ht, hinv⟩ := ih hs' (by omega)
    exact ⟨t, run_cons_eq_some.mpr ⟨s', he, ht⟩, hinv⟩

theorem Reachable.invariant {Inv : σ → Prop}
    (hstep : ∀ s e s', Inv s → step s e = some s' → Inv s')
    {s t : σ} (hs : Inv s) (h : Reachable step s t) : Inv t := by
  obtain ⟨es, hes⟩ := h
  exact run_invariant hstep hs hes

/-! ## Schedules that meet a condition -/

variable (step) in
/-- The condition `G` holds of the state before each step of the schedule and its event. -/
def Along (G : σ → ε → Prop) : σ → List ε → Prop
  | _, [] => True
  | s, e :: es => G s e ∧ ∀ s', step s e = some s' → Along G s' es

@[simp] lemma along_nil (G : σ → ε → Prop) (s : σ) : Along step G s [] := trivial

lemma along_true (s : σ) (es : List ε) : Along step (fun _ _ => True) s es := by
  induction es generalizing s with
  | nil => trivial
  | cons e es ih => exact ⟨trivial, fun s' _ => ih s'⟩

lemma along_cons {G : σ → ε → Prop} {s s' : σ} {e : ε} {es : List ε}
    (he : step s e = some s') : Along step G s (e :: es) ↔ G s e ∧ Along step G s' es := by
  constructor
  · rintro ⟨hg, h⟩
    exact ⟨hg, h s' he⟩
  · rintro ⟨hg, h⟩
    refine ⟨hg, fun t ht => ?_⟩
    rw [he, Option.some_inj] at ht
    rwa [← ht]

/-- Whether a finite schedule meets a decidable condition can be computed. -/
instance decidableAlong {G : σ → ε → Prop} [∀ s e, Decidable (G s e)] :
    ∀ (s : σ) (es : List ε), Decidable (Along step G s es)
  | _, [] => isTrue trivial
  | s, e :: es =>
    match h : step s e with
    | none => decidable_of_iff (G s e) ⟨fun hg => ⟨hg, fun s' he => by rw [h] at he; cases he⟩,
        fun ha => ha.1⟩
    | some s' =>
      have : Decidable (Along step G s' es) := decidableAlong s' es
      decidable_of_iff (G s e ∧ Along step G s' es) (along_cons h).symm

lemma along_append {G : σ → ε → Prop} {s t : σ} {es fs : List ε}
    (h : run step s es = some t) :
    Along step G s (es ++ fs) ↔ Along step G s es ∧ Along step G t fs := by
  induction es generalizing s with
  | nil => rw [run_nil, Option.some_inj] at h; subst h; simp
  | cons e es ih =>
    obtain ⟨s', he, hr⟩ := run_cons_eq_some.mp h
    rw [List.cons_append, along_cons he, along_cons he, ih hr, and_assoc]

lemma Along.mono {G G' : σ → ε → Prop} (hG : ∀ s e, G s e → G' s e) {s : σ} {es : List ε}
    (h : Along step G s es) : Along step G' s es := by
  induction es generalizing s with
  | nil => trivial
  | cons e es ih => exact ⟨hG s e h.1, fun s' he => ih (h.2 s' he)⟩

lemma Along.and {G G' : σ → ε → Prop} {s : σ} {es : List ε} (h : Along step G s es)
    (h' : Along step G' s es) : Along step (fun s e => G s e ∧ G' s e) s es := by
  induction es generalizing s with
  | nil => trivial
  | cons e es ih => exact ⟨⟨h.1, h'.1⟩, fun s' he => ih (h.2 s' he) (h'.2 s' he)⟩

/-- **Guarded invariant rule**: a property that the steps meeting `G` preserve holds at the
end of every run whose steps all meet `G`. -/
theorem run_invariant_along {Inv : σ → Prop} {G : σ → ε → Prop}
    (hstep : ∀ s e s', Inv s → G s e → step s e = some s' → Inv s')
    {s t : σ} {es : List ε} (hs : Inv s) (hG : Along step G s es)
    (h : run step s es = some t) : Inv t := by
  induction es generalizing s with
  | nil => rw [run_nil, Option.some_inj] at h; rwa [← h]
  | cons e es ih =>
    obtain ⟨s', he, hr⟩ := run_cons_eq_some.mp h
    exact ih (hstep s e s' hs hG.1 he) (hG.2 s' he) hr

/-- `run_total` for schedules whose steps all meet a condition. -/
theorem run_total_along {Inv : σ → Prop} {G : σ → ε → Prop}
    (hstep : ∀ s e, Inv s → G s e → ∃ s', step s e = some s' ∧ Inv s')
    {s : σ} {es : List ε} (hs : Inv s) (hG : Along step G s es) :
    ∃ t, run step s es = some t ∧ Inv t := by
  induction es generalizing s with
  | nil => exact ⟨s, rfl, hs⟩
  | cons e es ih =>
    obtain ⟨s', he, hs'⟩ := hstep s e hs hG.1
    obtain ⟨t, ht, hinv⟩ := ih hs' (hG.2 s' he)
    exact ⟨t, run_cons_eq_some.mpr ⟨s', he, ht⟩, hinv⟩

/-! ## Schedules that visit only certain states -/

variable (step) in
/-- The property `P` holds of every state that the schedule visits. -/
def Throughout (P : σ → Prop) : σ → List ε → Prop
  | s, [] => P s
  | s, e :: es => P s ∧ ∀ s', step s e = some s' → Throughout P s' es

lemma Throughout.head {P : σ → Prop} {s : σ} {es : List ε} (h : Throughout step P s es) : P s := by
  cases es with
  | nil => exact h
  | cons e es => exact h.1

lemma throughout_cons {P : σ → Prop} {s s' : σ} {e : ε} {es : List ε} (he : step s e = some s') :
    Throughout step P s (e :: es) ↔ P s ∧ Throughout step P s' es := by
  constructor
  · rintro ⟨hP, h⟩
    exact ⟨hP, h s' he⟩
  · rintro ⟨hP, h⟩
    refine ⟨hP, fun t ht => ?_⟩
    rw [he, Option.some_inj] at ht
    rwa [← ht]

/-- Whether a finite schedule visits only states with a decidable property can be computed. -/
instance decidableThroughout {P : σ → Prop} [∀ s, Decidable (P s)] :
    ∀ (s : σ) (es : List ε), Decidable (Throughout step P s es)
  | s, [] => inferInstanceAs (Decidable (P s))
  | s, e :: es =>
    match h : step s e with
    | none => decidable_of_iff (P s) ⟨fun hP => ⟨hP, fun s' he => by rw [h] at he; cases he⟩,
        fun ha => ha.1⟩
    | some s' =>
      have : Decidable (Throughout step P s' es) := decidableThroughout s' es
      decidable_of_iff (P s ∧ Throughout step P s' es) (throughout_cons h).symm

/-- **Invariant rule under a state property**: steps meeting `G` between states with the
property `P` preserve the invariant, so every such run does. -/
theorem run_invariant_throughout {Inv P : σ → Prop} {G : σ → ε → Prop}
    (hstep : ∀ s e s', Inv s → P s → P s' → G s e → step s e = some s' → Inv s')
    {s t : σ} {es : List ε} (hs : Inv s) (hP : Throughout step P s es) (hG : Along step G s es)
    (h : run step s es = some t) : Inv t := by
  induction es generalizing s with
  | nil => rw [run_nil, Option.some_inj] at h; rwa [← h]
  | cons e es ih =>
    obtain ⟨s', he, hr⟩ := run_cons_eq_some.mp h
    have hP' := hP.2 s' he
    exact ih (hstep s e s' hs hP.1 hP'.head hG.1 he) hP' (hG.2 s' he) hr

/-- **Strengthening rule**: where an invariant holds, `G` may say more than it does alone.  It turns
a condition that is easy to check into the one that a rule asks for. -/
theorem along_of_invariant {Inv P : σ → Prop} {G G' : σ → ε → Prop}
    (hstep : ∀ s e s', Inv s → P s → P s' → G s e → step s e = some s' → Inv s')
    (himp : ∀ s e, Inv s → G s e → G' s e)
    {s : σ} {es : List ε} (hs : Inv s) (hP : Throughout step P s es) (hG : Along step G s es) :
    Along step G' s es := by
  induction es generalizing s with
  | nil => trivial
  | cons e es ih =>
    refine ⟨himp s e hs hG.1, fun s' he => ?_⟩
    have hP' := hP.2 s' he
    exact ih (hstep s e s' hs hP.1 hP'.head hG.1 he) hP' (hG.2 s' he)

/-- **Exactness rule**: where a step keeps `P` if and only if it meets `G`, a run visits only states
with `P` if and only if its steps all meet `G`. -/
theorem throughout_iff_along {P : σ → Prop} {G : σ → ε → Prop}
    (hstep : ∀ s e s', P s → step s e = some s' → (P s' ↔ G s e)) {s t : σ} {es : List ε}
    (hs : P s) (h : run step s es = some t) : Throughout step P s es ↔ Along step G s es := by
  induction es generalizing s with
  | nil => exact iff_of_true hs trivial
  | cons e es ih =>
    obtain ⟨s', he, hr⟩ := run_cons_eq_some.mp h
    rw [throughout_cons he, along_cons he]
    constructor
    · rintro ⟨-, hP⟩
      exact ⟨(hstep s e s' hs he).mp hP.head, (ih hP.head hr).mp hP⟩
    · rintro ⟨hg, hG⟩
      have hs' := (hstep s e s' hs he).mpr hg
      exact ⟨hs, (ih hs' hr).mpr hG⟩

/-! ## What a schedule gives out -/

section Emitted

variable {β : Type*} (out : σ → ε → List β)

variable (step) in
/-- What the steps of a schedule give out, one after the other. -/
def emitted : σ → List ε → List β
  | _, [] => []
  | s, e :: es => out s e ++ ((step s e).map fun s' => emitted s' es).getD []

lemma emitted_cons {s s' : σ} {e : ε} {es : List ε} (he : step s e = some s') :
    emitted step out s (e :: es) = out s e ++ emitted step out s' es := by
  rw [emitted, he, Option.map_some, Option.getD_some]

lemma emitted_eq_nil {G : σ → ε → Prop} (hout : ∀ s e, G s e → out s e = []) {s : σ} {es : List ε}
    (hG : Along step G s es) : emitted step out s es = [] := by
  induction es generalizing s with
  | nil => rfl
  | cons e es ih =>
    rw [emitted, hout s e hG.1, List.nil_append]
    cases he : step s e with
    | none => rfl
    | some s' => exact ih (hG.2 s' he)

/-- **Account rule**: an invariant of the state and of all that was given out so far.  What was
given out is not part of the state, so an invariant of the state alone could not speak of it. -/
theorem run_account {Inv : σ → List β → Prop} {P : σ → Prop} {G : σ → ε → Prop}
    (hstep : ∀ s acc e s', Inv s acc → P s → P s' → G s e → step s e = some s' →
      Inv s' (acc ++ out s e))
    {s t : σ} {acc : List β} {es : List ε} (hs : Inv s acc) (hP : Throughout step P s es)
    (hG : Along step G s es) (h : run step s es = some t) :
    Inv t (acc ++ emitted step out s es) := by
  induction es generalizing s acc with
  | nil =>
    rw [run_nil, Option.some_inj] at h
    rwa [← h, emitted, List.append_nil]
  | cons e es ih =>
    obtain ⟨s', he, hr⟩ := run_cons_eq_some.mp h
    have hP' := hP.2 s' he
    rw [emitted_cons out he, ← List.append_assoc]
    exact ih (hstep s acc e s' hs hP.1 hP'.head hG.1 he) hP' (hG.2 s' he) hr

end Emitted

/-! ## Simulation -/

/-- **Forward simulation**: when each step of the concrete system meeting `G` from related
states is answered by the abstract step on the related event, so is each run. -/
theorem run_simulation {σ' ε' : Type*} {astep : σ' → ε' → Option σ'} {R : σ → σ' → Prop}
    {G : σ → ε → Prop} (abs : ε → ε')
    (hstep : ∀ s a e s', R s a → G s e → step s e = some s' →
      ∃ a', astep a (abs e) = some a' ∧ R s' a')
    {s t : σ} {a : σ'} {es : List ε} (hR : R s a) (hG : Along step G s es)
    (h : run step s es = some t) :
    ∃ b, run astep a (es.map abs) = some b ∧ R t b := by
  induction es generalizing s a with
  | nil => rw [run_nil, Option.some_inj] at h; subst h; exact ⟨a, rfl, hR⟩
  | cons e es ih =>
    obtain ⟨s', he, hr⟩ := run_cons_eq_some.mp h
    obtain ⟨a', ha, hR'⟩ := hstep s a e s' hR hG.1 he
    obtain ⟨b, hb, hRb⟩ := ih hR' (hG.2 s' he) hr
    exact ⟨b, run_cons_eq_some.mpr ⟨a', ha, hb⟩, hRb⟩

end Execution
