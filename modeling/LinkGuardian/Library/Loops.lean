import Mathlib.Data.List.Basic
import Mathlib.Data.List.Range
import Mathlib.Tactic.Common

/-!
# Loops whose body may raise

A `for` loop over a list is `List.foldlM` in `Option`, where `none` is an exception raised by the
body.  The rules carry an invariant, which speaks of the part of the list that is done, through a
loop that has returned (`invariant`), and show that a loop returns (`total`).
-/

namespace Loop

variable {α σ : Type*} {f : σ → α → Option σ}

lemma cons_eq_some {s t : σ} {x : α} {xs : List α} :
    (x :: xs).foldlM f s = some t ↔ ∃ s', f s x = some s' ∧ xs.foldlM f s' = some t := by
  rw [List.foldlM_cons]
  exact Option.bind_eq_some_iff

/-- A loop in a loop is a loop over all the elements. -/
lemma flatMap {β : Type*} {g : β → List α} {xs : List β} {s : σ} :
    (xs.flatMap g).foldlM f s = xs.foldlM (fun s x => (g x).foldlM f s) s := by
  induction xs generalizing s with
  | nil => rfl
  | cons x xs ih =>
    rw [List.flatMap_cons, List.foldlM_append, List.foldlM_cons]
    exact congrArg (Option.bind _) (funext fun s => ih)

lemma congr {f' : σ → α → Option σ} {xs : List α} {s : σ}
    (h : ∀ x ∈ xs, ∀ s, f s x = f' s x) : xs.foldlM f s = xs.foldlM f' s := by
  induction xs generalizing s with
  | nil => rfl
  | cons x xs ih =>
    rw [List.foldlM_cons, List.foldlM_cons, h x List.mem_cons_self]
    exact congrArg (Option.bind _)
      (funext fun s => ih fun y hy => h y (List.mem_cons_of_mem x hy))

/-- A loop over different elements has not seen the next one. -/
lemma notMem_of_nodup {xs pre post : List α} {x : α} (hnodup : xs.Nodup)
    (hxs : xs = pre ++ x :: post) : x ∉ pre := by
  intro hmem
  rw [hxs] at hnodup
  exact (List.nodup_append.mp hnodup).2.2 x hmem x List.mem_cons_self rfl

/-- A call for each element, none of which raises. -/
lemma mapM_eq_some {β : Type*} {g : α → Option β} {k : α → β} {xs : List α}
    (h : ∀ x ∈ xs, g x = some (k x)) : xs.mapM g = some (xs.map k) := by
  induction xs with
  | nil => rfl
  | cons x xs ih =>
    rw [List.mapM_cons, h x List.mem_cons_self, ih fun y hy => h y (List.mem_cons_of_mem x hy)]
    rfl

/-- A loop whose body never raises is a fold. -/
lemma eq_some_foldl {g : σ → α → σ} (h : ∀ s x, f s x = some (g s x)) (xs : List α) (s : σ) :
    xs.foldlM f s = some (xs.foldl g s) := by
  induction xs generalizing s with
  | nil => rfl
  | cons x xs ih => rw [List.foldlM_cons, h, List.foldl_cons, ← ih, Option.bind_eq_bind,
      Option.bind_some]

/-- A loop over the indices of the rest of a list is a loop over the rest. -/
lemma range'_getElem? (pre rest : List α) (s : σ) :
    (List.range' pre.length rest.length).foldlM
      (fun s i => ((pre ++ rest)[i]?).bind fun x => f s x) s = rest.foldlM f s := by
  induction rest generalizing pre s with
  | nil => rfl
  | cons x rest ih =>
    have hget : (pre ++ x :: rest)[pre.length]? = some x := by simp
    have hlater := ih (pre ++ [x])
    rw [List.append_assoc, List.length_append] at hlater
    rw [List.length_cons, List.range'_succ, List.foldlM_cons, hget, List.foldlM_cons]
    exact congrArg (Option.bind _) (funext hlater)

/-- The first element with a property whose test does not raise. -/
lemma findM?_eq_some {β : Type} {g : β → Option Bool} {k : β → Bool} {xs : List β}
    (h : ∀ x ∈ xs, g x = some (k x)) : xs.findM? g = some (xs.find? k) := by
  induction xs with
  | nil => rfl
  | cons x xs ih =>
    rw [List.findM?, h x List.mem_cons_self, List.find?_cons]
    cases k x with
    | true => rfl
    | false => exact ih fun y hy => h y (List.mem_cons_of_mem x hy)

/-- A loop over blocks of the same length. -/
lemma range_mul {f : σ → ℕ → Option σ} {n m : ℕ} {s : σ} : (List.range (n * m)).foldlM f s =
    (List.range n).foldlM (fun s j => (List.range m).foldlM (fun s i => f s (j * m + i)) s) s := by
  have hblocks : List.range (n * m) =
      (List.range n).flatMap fun j => (List.range m).map (j * m + ·) := by
    induction n with
    | zero => rw [Nat.zero_mul]; rfl
    | succ n ih =>
      rw [Nat.succ_mul, List.range_add, List.range_succ, List.flatMap_append,
        List.flatMap_singleton, ih]
  rw [hblocks, flatMap]
  simp only [List.foldlM_map]

/-- **Partial correctness**: what the body preserves holds after the loop.  The property may speak
of the part of the list that is done, and so say what the loop has computed. -/
theorem invariant {P : List α → σ → Prop} {xs : List α} {s t : σ} (h₀ : P [] s)
    (hstep : ∀ pre x post s s', xs = pre ++ x :: post → P pre s → f s x = some s' →
      P (pre ++ [x]) s')
    (h : xs.foldlM f s = some t) : P xs t := by
  -- generalise over the part that is done
  suffices hdone : ∀ rest pre s, xs = pre ++ rest → P pre s → rest.foldlM f s = some t →
      P xs t from hdone xs [] s rfl h₀ h
  intro rest
  induction rest with
  | nil =>
    intro pre s hxs hP ht
    cases ht
    rwa [hxs, List.append_nil]
  | cons x rest ih =>
    intro pre s hxs hP ht
    obtain ⟨s', hs, ht⟩ := cons_eq_some.mp ht
    exact ih (pre ++ [x]) s' (by rw [hxs, List.append_assoc]; rfl)
      (hstep pre x rest s s' hxs hP hs) ht

/-- **Total correctness**: a loop whose body never raises under the invariant returns.  One proof
gives that the loop returns and what it returns. -/
theorem total {P : List α → σ → Prop} {xs : List α} {s : σ} (h₀ : P [] s)
    (hstep : ∀ pre x post s, xs = pre ++ x :: post → P pre s →
      ∃ s', f s x = some s' ∧ P (pre ++ [x]) s') :
    ∃ t, xs.foldlM f s = some t ∧ P xs t := by
  suffices hdone : ∀ rest pre s, xs = pre ++ rest → P pre s →
      ∃ t, rest.foldlM f s = some t ∧ P xs t from hdone xs [] s rfl h₀
  intro rest
  induction rest with
  | nil =>
    intro pre s hxs hP
    exact ⟨s, rfl, by rwa [hxs, List.append_nil]⟩
  | cons x rest ih =>
    intro pre s hxs hP
    obtain ⟨s', hs, hP'⟩ := hstep pre x rest s hxs hP
    obtain ⟨t, ht, hPt⟩ := ih (pre ++ [x]) s' (by rw [hxs, List.append_assoc]; rfl) hP'
    exact ⟨t, cons_eq_some.mpr ⟨s', hs, ht⟩, hPt⟩

/-- `invariant` for a property that does not speak of what is done. -/
theorem preserve {P : σ → Prop} {xs : List α} {s t : σ} (h₀ : P s)
    (hstep : ∀ x ∈ xs, ∀ s s', P s → f s x = some s' → P s')
    (h : xs.foldlM f s = some t) : P t := by
  refine invariant (P := fun _ => P) h₀ (fun pre x post s s' hxs hP hs => ?_) h
  exact hstep x (by rw [hxs]; exact List.mem_append_right _ List.mem_cons_self) s s' hP hs

/-- `invariant` for a loop over `range n`. -/
theorem range_invariant {f : σ → ℕ → Option σ} {P : ℕ → σ → Prop} {n : ℕ} {s t : σ}
    (h₀ : P 0 s) (hstep : ∀ i < n, ∀ s s', P i s → f s i = some s' → P (i + 1) s')
    (h : (List.range n).foldlM f s = some t) : P n t := by
  induction n generalizing t with
  | zero =>
    cases h
    exact h₀
  | succ n ih =>
    rw [List.range_succ, List.foldlM_append] at h
    obtain ⟨u, hu, ht⟩ := Option.bind_eq_some_iff.mp h
    obtain ⟨t', ht', hnil⟩ := cons_eq_some.mp ht
    cases hnil
    exact hstep n (Nat.lt_succ_self n) u t
      (ih (fun i hi => hstep i (Nat.lt_succ_of_lt hi)) hu) ht'

/-- `total` for a loop over `range n`. -/
theorem range_total {f : σ → ℕ → Option σ} {P : ℕ → σ → Prop} {n : ℕ} {s : σ} (h₀ : P 0 s)
    (hstep : ∀ i < n, ∀ s, P i s → ∃ s', f s i = some s' ∧ P (i + 1) s') :
    ∃ t, (List.range n).foldlM f s = some t ∧ P n t := by
  induction n with
  | zero => exact ⟨s, rfl, h₀⟩
  | succ n ih =>
    obtain ⟨u, hu, hP⟩ := ih fun i hi => hstep i (Nat.lt_succ_of_lt hi)
    obtain ⟨t, ht, hPt⟩ := hstep n (Nat.lt_succ_self n) u hP
    refine ⟨t, ?_, hPt⟩
    rw [List.range_succ, List.foldlM_append, hu]
    exact cons_eq_some.mpr ⟨t, ht, rfl⟩

/-! ## While loops -/

/-- A `while` loop of at most so many rounds; `none` when it has not ended. -/
def whileLoop (cond : σ → Bool) (body : σ → Option σ) : ℕ → σ → Option σ
  | 0, _ => none
  | fuel + 1, s => if cond s then (body s).bind (whileLoop cond body fuel) else some s

/-- **A `while` loop ends** when what is left to do gets less in each round.  The bound on the
rounds is then a bound that the loop does not reach. -/
theorem whileLoop_total {cond : σ → Bool} {body : σ → Option σ} {P : σ → Prop} (left : σ → ℕ)
    (hbody : ∀ s, P s → cond s = true → ∃ s', body s = some s' ∧ P s' ∧ left s' < left s)
    {fuel : ℕ} {s : σ} (h : P s) (hfuel : left s < fuel) :
    ∃ t, whileLoop cond body fuel s = some t ∧ P t ∧ cond t = false := by
  induction fuel generalizing s with
  | zero => exact absurd hfuel (Nat.not_lt_zero _)
  | succ fuel ih =>
    rw [whileLoop]
    by_cases hcond : cond s = true
    · obtain ⟨s', hs, h', hlt⟩ := hbody s h hcond
      rw [if_pos hcond, hs]
      exact ih h' (Nat.lt_of_lt_of_le hlt (Nat.le_of_lt_succ hfuel))
    · rw [if_neg hcond]
      exact ⟨s, rfl, h, Bool.eq_false_iff.mpr hcond⟩

end Loop
