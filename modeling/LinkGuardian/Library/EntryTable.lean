import Mathlib.Logic.Function.Basic
import Mathlib.Tactic.Common

/-!
# Tables of entries

Tables as a control plane edits them: an entry is added under a key that has none and deleted under
a key that has one.  Anything else is refused, which raises and so ends the edit; the state that a
refused edit leaves behind is not followed here (`none`).
-/

namespace EntryTable

variable {κ δ : Type*} [DecidableEq κ] {t : κ → Option δ} {ks : List κ}

def add (t : κ → Option δ) (k : κ) (d : δ) : Option (κ → Option δ) :=
  if (t k).isSome then none else some (Function.update t k (some d))

def delete (t : κ → Option δ) (k : κ) : Option (κ → Option δ) :=
  if (t k).isSome then some (Function.update t k none) else none

def addAll (t : κ → Option δ) (d : κ → δ) (ks : List κ) : Option (κ → Option δ) :=
  ks.foldlM (fun t k => add t k (d k)) t

def deleteAll (t : κ → Option δ) (ks : List κ) : Option (κ → Option δ) := ks.foldlM delete t

lemma add_of_none {k : κ} (h : t k = none) (d : δ) :
    add t k d = some (Function.update t k (some d)) := by
  simp [add, h]

lemma add_of_isSome {k : κ} (h : (t k).isSome) (d : δ) : add t k d = none := if_pos h

lemma addAll_cons (t : κ → Option δ) (d : κ → δ) (k : κ) (ks : List κ) :
    addAll t d (k :: ks) = (add t k (d k)).bind fun t' => addAll t' d ks := List.foldlM_cons

lemma deleteAll_cons (t : κ → Option δ) (k : κ) (ks : List κ) :
    deleteAll t (k :: ks) = (delete t k).bind fun t' => deleteAll t' ks := List.foldlM_cons

/-- Different keys without an entry are all taken. -/
lemma addAll_eq (d : κ → δ) (hnodup : ks.Nodup) (hnew : ∀ k ∈ ks, t k = none) :
    addAll t d ks = some fun k => if k ∈ ks then some (d k) else t k := by
  induction ks generalizing t with
  | nil => simp [addAll]
  | cons k ks ih =>
    obtain ⟨hk, hnodup⟩ := List.nodup_cons.mp hnodup
    have hnew' : ∀ k' ∈ ks, Function.update t k (some (d k)) k' = none := by
      intro k' hk'
      rw [Function.update_of_ne (by rintro rfl; exact hk hk')]
      exact hnew k' (List.mem_cons_of_mem _ hk')
    rw [addAll_cons, add_of_none (hnew k List.mem_cons_self), Option.bind_some, ih hnodup hnew']
    congr 1
    funext k'
    by_cases heq : k' = k
    · simp [heq, hk]
    · simp [heq]

/-- One key that has an entry, and all are refused. -/
lemma addAll_eq_none (d : κ → δ) {k : κ} (hk : k ∈ ks) (hold : (t k).isSome) :
    addAll t d ks = none := by
  induction ks generalizing t with
  | nil => exact absurd hk List.not_mem_nil
  | cons k' ks ih =>
    rw [addAll_cons]
    by_cases hk' : (t k').isSome
    · rw [add_of_isSome hk', Option.bind_none]
    · have hne : k ≠ k' := by
        rintro rfl
        exact hk' hold
      rw [add_of_none (by simpa using hk'), Option.bind_some]
      refine ih ((List.mem_cons.mp hk).resolve_left hne) ?_
      rwa [Function.update_of_ne hne]

/-- Different keys with an entry are all deleted. -/
lemma deleteAll_eq (hnodup : ks.Nodup) (hold : ∀ k ∈ ks, (t k).isSome) :
    deleteAll t ks = some fun k => if k ∈ ks then none else t k := by
  induction ks generalizing t with
  | nil => simp [deleteAll]
  | cons k ks ih =>
    obtain ⟨hk, hnodup⟩ := List.nodup_cons.mp hnodup
    have hold' : ∀ k' ∈ ks, (Function.update t k none k').isSome := by
      intro k' hk'
      rw [Function.update_of_ne (by rintro rfl; exact hk hk')]
      exact hold k' (List.mem_cons_of_mem _ hk')
    rw [deleteAll_cons, delete, if_pos (hold k List.mem_cons_self), Option.bind_some,
      ih hnodup hold']
    congr 1
    funext k'
    by_cases heq : k' = k
    · simp [heq, hk]
    · simp [heq]

end EntryTable
