import Mathlib.Data.List.Nodup
import Mathlib.Tactic.Common

/-!
# Match tables of a size

A table lists its entries, keys with data, as they were added.  It takes no second entry with a
key and no more entries than its size: such an entry is refused, which raises and so ends the edit,
and what the edit has added before is still in the table.
-/

namespace MatchTable

variable {κ δ : Type*} {size : ℕ} {table entries : List (κ × δ)} {entry : κ × δ}

def keys (table : List (κ × δ)) : List κ := table.map Prod.fst

lemma keys_append (table entries : List (κ × δ)) :
    keys (table ++ entries) = keys table ++ keys entries := List.map_append

variable [DecidableEq κ]

def add (size : ℕ) (table : List (κ × δ)) (entry : κ × δ) : Option (List (κ × δ)) :=
  if table.length < size ∧ entry.1 ∉ keys table then some (table ++ [entry]) else none

/-- The table after an edit, and whether the edit came to its end. -/
def addAll (size : ℕ) : List (κ × δ) → List (κ × δ) → List (κ × δ) × Bool
  | table, [] => (table, true)
  | table, entry :: entries =>
    match add size table entry with
    | some table' => addAll size table' entries
    | none => (table, false)

/-! ## One entry -/

lemma add_of_room (hroom : table.length < size) (hnew : entry.1 ∉ keys table) :
    add size table entry = some (table ++ [entry]) := if_pos ⟨hroom, hnew⟩

lemma add_of_mem (hold : entry.1 ∈ keys table) : add size table entry = none :=
  if_neg fun h => h.2 hold

lemma eq_of_add {table' : List (κ × δ)} (h : add size table entry = some table') :
    table' = table ++ [entry] :=
  (Option.some_inj.mp (Option.ite_none_right_eq_some.mp h).2).symm

/-! ## A list of entries -/

/-- Different entries that fit are all taken, in the order in which they come. -/
lemma addAll_eq_append (hnodup : (keys (table ++ entries)).Nodup)
    (hfit : (table ++ entries).length ≤ size) :
    addAll size table entries = (table ++ entries, true) := by
  induction entries generalizing table with
  | nil => rw [addAll, List.append_nil]
  | cons entry entries ih =>
    rw [List.append_cons] at hnodup hfit ⊢
    have hnew : entry.1 ∉ keys table := by
      rw [keys_append, keys_append, List.nodup_append, List.nodup_append] at hnodup
      exact fun hmem => hnodup.1.2.2 _ hmem _ (by simp [keys]) rfl
    have hroom : table.length < size := by
      simp only [List.length_append, List.length_singleton] at hfit
      omega
    rw [addAll, add_of_room hroom hnew]
    exact ih hnodup hfit

/-- A key that comes again ends the edit at the latest. -/
lemma addAll_prefix_of_mem {before after : List (κ × δ)}
    (hold : entry.1 ∈ keys (table ++ before)) :
    (addAll size table (before ++ entry :: after)).1 <+: table ++ before := by
  -- an entry before it may be refused already, and then no more is added
  induction before generalizing table with
  | nil =>
    rw [List.append_nil] at hold
    rw [List.nil_append, addAll, add_of_mem hold]
    exact List.prefix_append table []
  | cons first before ih =>
    rw [List.cons_append]
    unfold addAll
    split
    · next table' hadd =>
      rw [eq_of_add hadd]
      have hnext : entry.1 ∈ keys ((table ++ [first]) ++ before) := by simpa using hold
      simpa using ih hnext
    · exact List.prefix_append table _

end MatchTable
