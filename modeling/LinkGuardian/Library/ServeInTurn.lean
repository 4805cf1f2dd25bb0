import LinkGuardian.Library.Execution
import Mathlib.Data.List.Basic
import Mathlib.Tactic.Ring

/-!
# A queue served in turn

A server awaits the numbers one after the other and serves a queue of numbered items in turn: the
awaited item leaves and the next number is awaited, an item that is late leaves as well, and one
that is early goes to the back.  A queue that holds everything up to a bound is empty after at
most quadratically many services, and then the bound is awaited.
-/

namespace ServeInTurn

open Execution

/-- Serve the head of the queue while `A` is awaited. -/
def serve : ℕ × List ℕ → Unit → Option (ℕ × List ℕ)
  | (_, []), _ => none
  | (A, n :: q), _ => some (if n = A then (A + 1, q) else if A < n then (A, q ++ [n]) else (A, q))

/-- The queue holds every number from the awaited one up to `M`, and none from `M` on.  Without a
gap, the awaited item is always in the queue until the bound is reached. -/
structure Holds (M A : ℕ) (q : List ℕ) : Prop where
  le : A ≤ M
  all : ∀ n, A ≤ n → n < M → n ∈ q
  lt : ∀ n ∈ q, n < M

variable {M A n : ℕ} {q : List ℕ}

lemma run_serve_cons {k : ℕ} {t : ℕ × List ℕ} :
    run serve (A, n :: q) (List.replicate (k + 1) ()) = some t ↔
      run serve (if n = A then (A + 1, q) else if A < n then (A, q ++ [n]) else (A, q))
        (List.replicate k ()) = some t := by
  simp [List.replicate_succ, run_cons_eq_some, serve]

lemma Holds.awaited (h : Holds M A (A :: q)) : Holds M (A + 1) q where
  le := h.lt A List.mem_cons_self
  all := by
    intro m hA hM
    refine (List.mem_cons.mp (h.all m (by omega) hM)).resolve_left ?_
    omega
  lt := fun m hm => h.lt m (List.mem_cons_of_mem _ hm)

lemma Holds.late (h : Holds M A (n :: q)) (hn : n < A) : Holds M A q where
  le := h.le
  all := by
    intro m hA hM
    refine (List.mem_cons.mp (h.all m hA hM)).resolve_left ?_
    omega
  lt := fun m hm => h.lt m (List.mem_cons_of_mem _ hm)

lemma Holds.rotate (h : Holds M A (n :: q)) : Holds M A (q ++ [n]) where
  le := h.le
  all := fun m hA hM => by simpa [or_comm] using h.all m hA hM
  lt := fun m hm => h.lt m (by simpa [or_comm] using hm)

/-- Within one round some item leaves. -/
lemma Holds.shorten (h : Holds M A q) (hq : q ≠ []) : ∃ k A' q', k ≤ q.length ∧
    q'.length + 1 = q.length ∧ Holds M A' q' ∧
    run serve (A, q) (List.replicate k ()) = some (A', q') := by
  -- the awaited item comes one place nearer with every service of an early one
  obtain ⟨i, hi⟩ : ∃ i, q.idxOf A = i := ⟨_, rfl⟩
  suffices hbound : ∃ k A' q', k ≤ i + 1 ∧ k ≤ q.length ∧ q'.length + 1 = q.length ∧
      Holds M A' q' ∧ run serve (A, q) (List.replicate k ()) = some (A', q') by
    obtain ⟨k, A', q', -, hk⟩ := hbound
    exact ⟨k, A', q', hk⟩
  induction i generalizing q with
  | zero =>
    cases q with
    | nil => exact absurd rfl hq
    | cons n q =>
      obtain rfl : n = A := by
        by_contra hne
        rw [List.idxOf_cons_ne _ hne] at hi
        cases hi
      exact ⟨1, _, q, Nat.le_refl _, by simp, rfl, h.awaited, run_serve_cons.mpr (by simp)⟩
  | succ i ih =>
    cases q with
    | nil => exact absurd rfl hq
    | cons n q =>
      have hne : n ≠ A := by
        rintro rfl
        simp at hi
      -- a late item leaves at once, an early one goes behind the awaited item
      rcases Nat.lt_or_ge n A with hlate | hearly
      · refine ⟨1, A, q, by omega, by simp, rfl, h.late hlate, run_serve_cons.mpr ?_⟩
        rw [if_neg hne, if_neg (by omega)]
        rfl
      · have hlt : A < n := by omega
        have hmem : A ∈ q := by
          have hM := h.lt n List.mem_cons_self
          exact (List.mem_cons.mp (h.all A (Nat.le_refl A) (by omega))).resolve_left (Ne.symm hne)
        have hsame : (q ++ [n]).idxOf A = q.idxOf A := List.idxOf_append_of_mem hmem
        have hidx : (q ++ [n]).idxOf A = i := by
          rw [List.idxOf_cons_ne _ hne] at hi
          omega
        obtain ⟨k, A', q', hk, -, hlen, hholds, hrun⟩ := ih h.rotate (by simp) hidx
        rw [List.length_append, List.length_singleton] at hlen
        have hpos := List.idxOf_lt_length_of_mem hmem
        rw [← hsame, hidx] at hpos
        refine ⟨k + 1, A', q', by omega, ?_, ?_, hholds, run_serve_cons.mpr ?_⟩
        · rw [List.length_cons]
          omega
        · rw [List.length_cons]
          omega
        · rwa [if_neg hne, if_pos hlt]

/-- **Served in turn, a queue without gaps drains**, and the bound is awaited. -/
theorem Holds.drain (h : Holds M A q) : ∃ k, 2 * k ≤ q.length * (q.length + 1) ∧
    run serve (A, q) (List.replicate k ()) = some (M, []) := by
  obtain ⟨l, hl⟩ : ∃ l, q.length = l := ⟨_, rfl⟩
  -- each item that leaves costs at most one round of the queue, and a round gets shorter with it
  induction l generalizing A q with
  | zero =>
    obtain rfl := List.length_eq_zero_iff.mp hl
    have hM : A = M := by
      by_contra hne
      have hle := h.le
      simpa using h.all A (Nat.le_refl A) (by omega)
    exact ⟨0, by simp, by rw [hM]; rfl⟩
  | succ l ih =>
    obtain ⟨k, A', q', hk, hlen, hholds, hrun⟩ := h.shorten (by rintro rfl; cases hl)
    obtain ⟨k', hk', hrun'⟩ := ih hholds (by omega)
    obtain rfl : q'.length = l := by omega
    refine ⟨k + k', ?_, ?_⟩
    · have hsum : (q'.length + 1) * (q'.length + 1 + 1) =
          q'.length * (q'.length + 1) + 2 * (q'.length + 1) := by ring
      rw [hl] at hk ⊢
      omega
    · rw [List.replicate_add]
      exact run_append hrun hrun'

end ServeInTurn
