import Mathlib.Order.Lattice
import Mathlib.Tactic.Common

/-!
# Ranges that tile an interval

Half-open ranges, each of which begins where the one before it ends.  A point of the interval is
in exactly one of them.
-/

variable {α : Type*} [LinearOrder α]

/-- The ranges of the list cover the points from `lo` up to `hi`, one after the other. -/
inductive Tiling : α → List (α × α) → α → Prop
  | nil (lo : α) : Tiling lo [] lo
  | cons {lo mid hi : α} {rs : List (α × α)} (hlt : lo < mid) (h : Tiling mid rs hi) :
    Tiling lo ((lo, mid) :: rs) hi

namespace Tiling

variable {lo mid hi x : α} {rs rs' : List (α × α)} {r r' : α × α}

lemma le (h : Tiling lo rs hi) : lo ≤ hi := by
  induction h with
  | nil lo => exact le_rfl
  | cons hlt _ ih => exact hlt.le.trans ih

lemma append (h : Tiling lo rs mid) (h' : Tiling mid rs' hi) : Tiling lo (rs ++ rs') hi := by
  induction h with
  | nil lo => exact h'
  | cons hlt _ ih => exact .cons hlt (ih h')

lemma concat (h : Tiling lo rs mid) (hlt : mid < hi) : Tiling lo (rs ++ [(mid, hi)]) hi :=
  h.append (.cons hlt (.nil hi))

lemma nonempty (h : Tiling lo rs hi) : ∀ r ∈ rs, r.1 < r.2 := by
  induction h with
  | nil lo => exact fun r hr => absurd hr List.not_mem_nil
  | cons hlt _ ih => exact List.forall_mem_cons.mpr ⟨hlt, ih⟩

lemma within (h : Tiling lo rs hi) : ∀ r ∈ rs, lo ≤ r.1 ∧ r.2 ≤ hi := by
  induction h with
  | nil lo => exact fun r hr => absurd hr List.not_mem_nil
  | cons hlt h ih =>
    refine List.forall_mem_cons.mpr ⟨⟨le_rfl, h.le⟩, fun r hr => ?_⟩
    exact ⟨hlt.le.trans (ih r hr).1, (ih r hr).2⟩

/-- Each range ends before those after it, so no point can be in two of them. -/
lemma pairwise (h : Tiling lo rs hi) : rs.Pairwise fun r r' => r.2 ≤ r'.1 := by
  induction h with
  | nil lo => exact List.Pairwise.nil
  | cons hlt h ih => exact List.pairwise_cons.mpr ⟨fun r hr => (h.within r hr).1, ih⟩

/-- Every point is in a range. -/
lemma exists_mem (h : Tiling lo rs hi) (hlo : lo ≤ x) (hhi : x < hi) :
    ∃ r ∈ rs, r.1 ≤ x ∧ x < r.2 := by
  induction h with
  | nil lo => exact absurd hhi (not_lt.mpr hlo)
  | @cons lo mid hi rs hlt h ih =>
    rcases lt_or_ge x mid with hx | hx
    · exact ⟨(lo, mid), List.mem_cons_self, hlo, hx⟩
    · obtain ⟨r, hr, hin⟩ := ih hx hhi
      exact ⟨r, List.mem_cons_of_mem _ hr, hin⟩

/-- No point is in the ranges of two entries. -/
lemma unique {β : Type*} {f : β → α × α} {bs : List β} {b b' : β} (h : Tiling lo (bs.map f) hi)
    (hb : b ∈ bs) (hb' : b' ∈ bs) (hx : (f b).1 ≤ x ∧ x < (f b).2)
    (hx' : (f b').1 ≤ x ∧ x < (f b').2) : b = b' := by
  induction bs generalizing lo with
  | nil => exact absurd hb List.not_mem_nil
  | cons c bs ih =>
    have hpair := List.pairwise_cons.mp h.pairwise
    -- a point of the first range is in no later one
    have hlater : ∀ d ∈ bs, x < (f c).2 → ¬ (f d).1 ≤ x := fun d hd hlt hle =>
      absurd (hlt.trans_le (hpair.1 _ (List.mem_map_of_mem hd))) (not_lt.mpr hle)
    rcases List.mem_cons.mp hb with rfl | hmem
    · rcases List.mem_cons.mp hb' with rfl | hmem'
      · rfl
      · exact absurd hx'.1 (hlater b' hmem' hx.2)
    · rcases List.mem_cons.mp hb' with rfl | hmem'
      · exact absurd hx.1 (hlater b hmem hx'.2)
      · rw [List.map_cons] at h
        generalize f c = r at h
        cases h with
        | cons hlt h => exact ih h hmem hmem'

/-- The ranges are different. -/
lemma nodup (h : Tiling lo rs hi) : rs.Nodup := by
  refine List.Pairwise.imp_of_mem (fun {r r'} hr _ hle heq => ?_) h.pairwise
  subst heq
  exact absurd (h.nonempty r hr) (not_lt.mpr hle)

end Tiling
