import LinkGuardian.Library.Execution
import LinkGuardian.Library.Loops

/-!
# Two programs in lockstep

Two programs that may raise run side by side.  `Option.Rel R` says that both raise, or that both
return and the results are related; `Both R` says that the results are related where both return.
Each has a rule for one program after another and for a loop, and `rel_of_view` turns an equation
about what a program leaves of a view of the state into a relation.
-/

namespace Lockstep

variable {α α' β β' : Type*} {R : α → α' → Prop} {S : β → β' → Prop}

/-! ## Both raise, or both return -/

lemma rel_bind {x : Option α} {y : Option α'} {f : α → Option β} {g : α' → Option β'}
    (h : Option.Rel R x y) (hf : ∀ a b, R a b → Option.Rel S (f a) (g b)) :
    Option.Rel S (x.bind f) (y.bind g) := by
  cases h with
  | some hab => exact hf _ _ hab
  | none => exact .none

/-- Two programs after the same one. -/
lemma rel_bind_same {γ : Type*} {x : Option γ} {f : γ → Option β} {g : γ → Option β'}
    (hf : ∀ a, Option.Rel S (f a) (g a)) : Option.Rel S (x.bind f) (x.bind g) := by
  cases x with
  | some a => exact hf a
  | none => exact .none

lemma rel_foldlM {σ σ' ι : Type*} {R : σ → σ' → Prop} {f : σ → ι → Option σ}
    {g : σ' → ι → Option σ'} {xs : List ι}
    (h : ∀ x ∈ xs, ∀ s t, R s t → Option.Rel R (f s x) (g t x)) {s : σ} {t : σ'} (hst : R s t) :
    Option.Rel R (xs.foldlM f s) (xs.foldlM g t) := by
  induction xs generalizing s t with
  | nil => exact .some hst
  | cons x xs ih =>
    refine rel_bind (h x List.mem_cons_self s t hst) fun s' t' hst' => ?_
    exact ih (fun y hy => h y (List.mem_cons_of_mem x hy)) hst'

lemma rel_of_map_eq {γ : Type*} {v : α → γ} {w : α' → γ} {x : Option α} {y : Option α'}
    (h : x.map v = y.map w) : Option.Rel (fun a b => v a = w b) x y := by
  cases x with
  | none =>
    cases y with
    | none => exact .none
    | some b => cases h
  | some a =>
    cases y with
    | none => cases h
    | some b => exact .some (Option.some_inj.mp h)

/-- More is known of the results that are returned. -/
lemma rel_strengthen {R' : α → α' → Prop} {x : Option α} {y : Option α'} (h : Option.Rel R x y)
    (hR : ∀ a b, x = some a → y = some b → R a b → R' a b) : Option.Rel R' x y := by
  cases h with
  | some hab => exact .some (hR _ _ rfl rfl hab)
  | none => exact .none

lemma rel_mono {R' : α → α' → Prop} {x : Option α} {y : Option α'} (h : Option.Rel R x y)
    (hR : ∀ a b, R a b → R' a b) : Option.Rel R' x y :=
  rel_strengthen h fun a b _ _ => hR a b

lemma exists_of_rel {x : Option α} {y : Option α'} (h : Option.Rel R x y) {a : α}
    (hx : x = some a) : ∃ b, y = some b ∧ R a b := by
  cases h with
  | none => cases hx
  | some hab =>
    cases hx
    exact ⟨_, rfl, hab⟩

lemma exists_of_rel_right {x : Option α} {y : Option α'} (h : Option.Rel R x y) {b : α'}
    (hy : y = some b) : ∃ a, x = some a ∧ R a b := by
  cases h with
  | none => cases hy
  | some hab =>
    cases hy
    exact ⟨_, rfl, hab⟩

lemma eq_none_iff_of_rel {x : Option α} {y : Option α'} (h : Option.Rel R x y) :
    x = none ↔ y = none := by
  cases h with
  | none => exact iff_of_true rfl rfl
  | some hab => exact iff_of_false (Option.some_ne_none _) (Option.some_ne_none _)

/-! ## Where both return -/

/-- The results are related where both programs return. -/
def Both (R : α → α' → Prop) (x : Option α) (y : Option α') : Prop :=
  ∀ a b, x = some a → y = some b → R a b

lemma both_of_rel {x : Option α} {y : Option α'} (h : Option.Rel R x y) : Both R x y := by
  intro a b hx hy
  obtain ⟨b', hy', hab⟩ := exists_of_rel h hx
  rw [hy, Option.some_inj] at hy'
  rwa [hy']

lemma both_some {a : α} {b : α'} (h : R a b) : Both R (some a) (some b) := by
  rintro _ _ ⟨⟩ ⟨⟩
  exact h

lemma Both.bind {x : Option α} {y : Option α'} {f : α → Option β} {g : α' → Option β'}
    (h : Both R x y) (hf : ∀ a b, R a b → Both S (f a) (g b)) :
    Both S (x.bind f) (y.bind g) := by
  intro c d hc hd
  obtain ⟨a, hx, hc⟩ := Option.bind_eq_some_iff.mp hc
  obtain ⟨b, hy, hd⟩ := Option.bind_eq_some_iff.mp hd
  exact hf a b (h a b hx hy) c d hc hd

/-- Two programs after two tests. -/
lemma both_bind_any {x : Option α} {y : Option α'} {f : α → Option β} {g : α' → Option β'}
    (hf : ∀ a b, Both S (f a) (g b)) : Both S (x.bind f) (y.bind g) :=
  Both.bind (R := fun _ _ => True) (fun _ _ _ _ => trivial) fun a b _ => hf a b

/-- Two programs after the same one. -/
lemma both_bind_same {γ : Type*} {x : Option γ} {f : γ → Option β} {g : γ → Option β'}
    (hf : ∀ a, Both S (f a) (g a)) : Both S (x.bind f) (x.bind g) := by
  cases x with
  | none => exact fun _ _ hc _ => by cases hc
  | some a => exact hf a

lemma both_foldlM {σ σ' ι : Type*} {R : σ → σ' → Prop} {f : σ → ι → Option σ}
    {g : σ' → ι → Option σ'} {xs : List ι}
    (h : ∀ x ∈ xs, ∀ s t, R s t → Both R (f s x) (g t x)) {s : σ} {t : σ'} (hst : R s t) :
    Both R (xs.foldlM f s) (xs.foldlM g t) := by
  induction xs generalizing s t with
  | nil => exact both_some hst
  | cons x xs ih =>
    refine (h x List.mem_cons_self s t hst).bind fun s' t' hst' => ?_
    exact ih (fun y hy => h y (List.mem_cons_of_mem x hy)) hst'

end Lockstep
