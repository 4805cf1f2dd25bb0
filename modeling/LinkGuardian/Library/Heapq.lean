import Mathlib.Data.Multiset.AddSub
import Mathlib.Order.Defs.PartialOrder
import Mathlib.Tactic.Common

/-!
# Binary heaps in an array

The heap operations of Python's `heapq`, over any comparison `lt`.  The algorithms only ever ask
`lt`, which need not be a linear order: tuples whose first components tie and whose second
components are sets are compared by inclusion.  The order results therefore speak of a *key*
with `Compat lt key`: what the comparison answers never contradicts the order of the keys, and
it may answer as it likes between equal keys.

`items` is the multiset of a heap's members.  Every operation says what it does to `items`, and
`heappop_key_le` that the item taken out has a least key.

The operations whose names end in `M` are the same over a comparison that may raise, and do not
raise on items of which every two can be compared.

While an item moves, the heap is in order except at one place; `UpOrder` and `DownOrder` say where,
and that the neighbours of the place are in order across it.
-/

namespace Heapq

variable {α : Type*} (lt : α → α → Bool)

/-! ## The algorithms -/

/-- Swap the item at `pos` with its parents above `startpos` for as long as it is less. -/
def siftdown (heap : Array α) (startpos pos : ℕ) : Array α :=
  if h : startpos < pos ∧ pos < heap.size then
    if lt heap[pos] heap[(pos - 1) / 2] then
      siftdown (heap.swap pos ((pos - 1) / 2)) startpos ((pos - 1) / 2)
    else heap
  else heap
termination_by pos

/-- The child that moves up: the right one unless the left one is less. -/
def smallerChild (heap : Array α) (pos : ℕ) (h : 2 * pos + 1 < heap.size) : ℕ :=
  if hr : 2 * pos + 2 < heap.size then
    if lt heap[2 * pos + 1] heap[2 * pos + 2] then 2 * pos + 1 else 2 * pos + 2
  else 2 * pos + 1

lemma smallerChild_eq (heap : Array α) (pos : ℕ) (h : 2 * pos + 1 < heap.size) :
    smallerChild lt heap pos h = 2 * pos + 1 ∨ smallerChild lt heap pos h = 2 * pos + 2 := by
  unfold smallerChild
  split
  · split
    · exact .inl rfl
    · exact .inr rfl
  · exact .inl rfl

lemma smallerChild_lt (heap : Array α) (pos : ℕ) (h : 2 * pos + 1 < heap.size) :
    smallerChild lt heap pos h < heap.size := by
  unfold smallerChild
  split
  · split <;> assumption
  · exact h

lemma lt_smallerChild (heap : Array α) (pos : ℕ) (h : 2 * pos + 1 < heap.size) :
    pos < smallerChild lt heap pos h := by
  rcases smallerChild_eq lt heap pos h with hc | hc <;> omega

/-- Swap the item at `pos` down to a leaf; the heap and the position of the leaf. -/
def bubble (heap : Array α) (pos : ℕ) : Array α × ℕ :=
  if h : 2 * pos + 1 < heap.size then
    bubble (heap.swap pos (smallerChild lt heap pos h) (by omega) (smallerChild_lt lt heap pos h))
      (smallerChild lt heap pos h)
  else (heap, pos)
termination_by heap.size - pos
decreasing_by
  have hlt := lt_smallerChild lt heap pos h
  have hsz := smallerChild_lt lt heap pos h
  simp only [Array.size_swap]
  omega

/-- Move the item at `pos` down to a leaf, then up again to its place. -/
def siftup (heap : Array α) (pos : ℕ) : Array α :=
  siftdown lt (bubble lt heap pos).1 pos (bubble lt heap pos).2

def heappush (heap : Array α) (item : α) : Array α :=
  siftdown lt (heap.push item) 0 heap.size

/-- The first item and the heap without it; `none` on an empty heap. -/
def heappop (heap : Array α) : Option (α × Array α) :=
  match heap.back? with
  | none => none
  | some lastelt =>
    if h : 0 < heap.pop.size then
      some (heap.pop[0], siftup lt (heap.pop.set 0 lastelt) 0)
    else some (lastelt, heap.pop)

def heapify (x : Array α) : Array α :=
  (List.range (x.size / 2)).reverse.foldl (siftup lt) x

/-- `list.remove`: without the first item equal to `a`; `none` when there is none. -/
def remove [DecidableEq α] (heap : Array α) (a : α) : Option (Array α) :=
  if a ∈ heap then some (heap.erase a) else none

/-! ## The items of a heap -/

/-- The members of a heap, with their multiplicities. -/
def items (heap : Array α) : Multiset α := heap.toList

lemma mem_items {heap : Array α} {a : α} : a ∈ items heap ↔ a ∈ heap := by
  rw [items, Multiset.mem_coe, Array.mem_toList_iff]

lemma mem_items_iff_getElem {heap : Array α} {a : α} :
    a ∈ items heap ↔ ∃ (i : ℕ) (h : i < heap.size), heap[i] = a := by
  rw [mem_items, Array.mem_iff_getElem]

lemma items_swap (heap : Array α) (i j : ℕ) (hi : i < heap.size) (hj : j < heap.size) :
    items (heap.swap i j) = items heap :=
  Multiset.coe_eq_coe.mpr (Array.perm_iff_toList_perm.mp (Array.swap_perm hi hj))

lemma items_push (heap : Array α) (a : α) : items (heap.push a) = a ::ₘ items heap := by
  rw [items, Array.toList_push, ← Multiset.coe_add, Multiset.add_comm]
  rfl

lemma items_siftdown (heap : Array α) (startpos pos : ℕ) :
    items (siftdown lt heap startpos pos) = items heap := by
  induction heap, pos using siftdown.induct lt startpos with
  | case1 heap pos h hlt ih =>
    rw [siftdown, dif_pos h, if_pos hlt, ih, items_swap]
  | case2 heap pos h hlt => rw [siftdown, dif_pos h, if_neg hlt]
  | case3 heap pos h => rw [siftdown, dif_neg h]

lemma items_bubble (heap : Array α) (pos : ℕ) : items (bubble lt heap pos).1 = items heap := by
  induction heap, pos using bubble.induct lt with
  | case1 heap pos h ih => rw [bubble, dif_pos h, ih, items_swap]
  | case2 heap pos h => rw [bubble, dif_neg h]

lemma items_siftup (heap : Array α) (pos : ℕ) : items (siftup lt heap pos) = items heap := by
  rw [siftup, items_siftdown, items_bubble]

@[simp] lemma items_heappush (heap : Array α) (item : α) :
    items (heappush lt heap item) = item ::ₘ items heap := by
  rw [heappush, items_siftdown, items_push]

@[simp] lemma items_heapify (x : Array α) : items (heapify lt x) = items x := by
  unfold heapify
  induction (List.range (x.size / 2)).reverse generalizing x with
  | nil => rfl
  | cons i is ih => rw [List.foldl_cons, ih, items_siftup]

section Remove
variable [DecidableEq α]

/-- Removing succeeds on a member, at the first place where it is found; the heap has to be put in
order after it. -/
lemma remove_isSome {heap : Array α} {a : α} (h : a ∈ items heap) :
    ∃ heap', remove heap a = some heap' :=
  ⟨heap.erase a, if_pos (mem_items.mp h)⟩

lemma items_remove {heap heap' : Array α} {a : α} (h : remove heap a = some heap') :
    a ∈ items heap ∧ items heap' = (items heap).erase a := by
  unfold remove at h
  split at h
  · case isTrue ha =>
    rw [Option.some_inj] at h
    obtain ⟨l⟩ := heap
    rw [← h, items, items, List.erase_toArray, ← Multiset.coe_erase]
    exact ⟨mem_items.mpr ha, rfl⟩
  · cases h

end Remove

/-! ## Order -/

/-- The comparison never contradicts the order of the keys.  Between equal keys it may answer as it
likes, and the order results hold all the same. -/
structure Compat {β : Type*} [Preorder β] (key : α → β) : Prop where
  le_of_lt : ∀ {a b}, lt a b = true → key a ≤ key b
  le_of_not_lt : ∀ {a b}, lt a b = false → key b ≤ key a

variable {lt} {β : Type*} [Preorder β] {key : α → β}

variable (key) in
/-- Every item is at or after its parent. -/
def Ordered (heap : Array α) : Prop :=
  ∀ (i : ℕ) (h : i < heap.size), 0 < i → key heap[(i - 1) / 2] ≤ key heap[i]

variable (key) in
/-- Ordered but for the item at `pos`, which may have to move up: what hangs below it is at or
after its parent. -/
structure UpOrder (heap : Array α) (pos : ℕ) : Prop where
  except : ∀ (i : ℕ) (h : i < heap.size), 0 < i → i ≠ pos → key heap[(i - 1) / 2] ≤ key heap[i]
  grand : ∀ (hp : 0 < pos) (hs : pos < heap.size) (c : ℕ) (h : c < heap.size), 0 < c →
    (c - 1) / 2 = pos → key heap[(pos - 1) / 2] ≤ key heap[c]

variable (key) in
/-- Ordered but for the item at `pos`, which may have to move down or up.  Its parent and its
children are in order across it, so that moving it repairs the heap. -/
structure DownOrder (heap : Array α) (pos : ℕ) : Prop where
  except : ∀ (i : ℕ) (h : i < heap.size), 0 < i → i ≠ pos → (i - 1) / 2 ≠ pos →
    key heap[(i - 1) / 2] ≤ key heap[i]
  grand : ∀ (hp : 0 < pos) (hs : pos < heap.size) (c : ℕ) (h : c < heap.size), 0 < c →
    (c - 1) / 2 = pos → key heap[(pos - 1) / 2] ≤ key heap[c]

lemma Ordered.root_le {heap : Array α} (ho : Ordered key heap) (i : ℕ) (h : i < heap.size) :
    key heap[0] ≤ key heap[i] := by
  induction i using Nat.strong_induction_on with
  | _ i ih =>
    rcases Nat.eq_zero_or_pos i with rfl | hi
    · exact le_refl _
    · exact (ih ((i - 1) / 2) (by omega) (by omega)).trans (ho i h hi)

lemma UpOrder.move (hlt : Compat lt key) {heap : Array α} {pos : ℕ} (h : 0 < pos)
    (hs : pos < heap.size) (o : UpOrder key heap pos)
    (hless : lt heap[pos] heap[(pos - 1) / 2] = true) :
    UpOrder key (heap.swap pos ((pos - 1) / 2)) ((pos - 1) / 2) := by
  have hle := hlt.le_of_lt hless
  constructor
  · intro i hi hi0 hne
    rw [Array.size_swap] at hi
    simp only [Array.getElem_swap]
    by_cases hip : i = pos
    · subst hip
      rw [if_neg (show ¬ (i - 1) / 2 = i by omega), if_pos rfl, if_pos rfl]
      exact hle
    · rw [if_neg hip, if_neg hne]
      by_cases hpp : (i - 1) / 2 = pos
      · rw [if_pos hpp]
        exact o.grand h hs i hi hi0 hpp
      · rw [if_neg hpp]
        have hold := o.except i hi hi0 hip
        by_cases hpq : (i - 1) / 2 = (pos - 1) / 2
        · rw [if_pos hpq]
          simp only [hpq] at hold
          exact hle.trans hold
        · rwa [if_neg hpq]
  · intro hp hs' c hc hc0 hcp
    rw [Array.size_swap] at hc hs'
    have hpar := o.except ((pos - 1) / 2) hs' hp (by omega)
    simp only [Array.getElem_swap]
    rw [if_neg (show ¬ ((pos - 1) / 2 - 1) / 2 = pos by omega),
      if_neg (show ¬ ((pos - 1) / 2 - 1) / 2 = (pos - 1) / 2 by omega)]
    by_cases hcpos : c = pos
    · rw [if_pos hcpos]
      exact hpar
    · rw [if_neg hcpos, if_neg (show ¬ c = (pos - 1) / 2 by omega)]
      have hold := o.except c hc hc0 hcpos
      simp only [hcp] at hold
      exact hpar.trans hold

lemma UpOrder.finish {heap : Array α} {pos : ℕ} (o : UpOrder key heap pos)
    (hstop : ∀ (_ : 0 < pos) (h : pos < heap.size), key heap[(pos - 1) / 2] ≤ key heap[pos]) :
    Ordered key heap := by
  intro i hi hi0
  by_cases hip : i = pos
  · subst hip
    exact hstop hi0 hi
  · exact o.except i hi hi0 hip

lemma ordered_siftdown (hlt : Compat lt key) (heap : Array α) (pos : ℕ)
    (o : UpOrder key heap pos) : Ordered key (siftdown lt heap 0 pos) := by
  induction heap, pos using siftdown.induct lt 0 with
  | case1 heap pos h hless ih =>
    rw [siftdown, dif_pos h, if_pos hless]
    exact ih (o.move hlt h.1 h.2 hless)
  | case2 heap pos h hless =>
    rw [siftdown, dif_pos h, if_neg hless]
    exact o.finish fun _ _ => hlt.le_of_not_lt (Bool.not_eq_true _ ▸ hless)
  | case3 heap pos h =>
    rw [siftdown, dif_neg h]
    exact o.finish fun hp hs => absurd ⟨hp, hs⟩ h

/-- The chosen child has a least key among the children. -/
lemma smallerChild_key_le (hlt : Compat lt key) (heap : Array α) (pos : ℕ)
    (h : 2 * pos + 1 < heap.size) (hsz : smallerChild lt heap pos h < heap.size) (c : ℕ)
    (hc : c < heap.size) (hcp : c = 2 * pos + 1 ∨ c = 2 * pos + 2) :
    key heap[smallerChild lt heap pos h] ≤ key heap[c] := by
  by_cases hr : 2 * pos + 2 < heap.size
  · cases hless : lt heap[2 * pos + 1] heap[2 * pos + 2] with
    | true =>
      have heq : smallerChild lt heap pos h = 2 * pos + 1 := by
        rw [smallerChild, dif_pos hr, if_pos hless]
      simp only [heq]
      rcases hcp with rfl | rfl
      · exact le_refl _
      · exact hlt.le_of_lt hless
    | false =>
      have heq : smallerChild lt heap pos h = 2 * pos + 2 := by
        rw [smallerChild, dif_pos hr, hless, if_neg Bool.false_ne_true]
      simp only [heq]
      rcases hcp with rfl | rfl
      · exact hlt.le_of_not_lt hless
      · exact le_refl _
  · have heq : smallerChild lt heap pos h = 2 * pos + 1 := by rw [smallerChild, dif_neg hr]
    simp only [heq]
    rcases hcp with rfl | rfl
    · exact le_refl _
    · exact absurd hc hr

lemma DownOrder.move {heap : Array α} {pos c : ℕ} (hp : pos < heap.size) (hsz : c < heap.size)
    (hchild : c = 2 * pos + 1 ∨ c = 2 * pos + 2)
    (hmin : ∀ (c' : ℕ) (hc : c' < heap.size), c' = 2 * pos + 1 ∨ c' = 2 * pos + 2 →
      key heap[c] ≤ key heap[c']) (o : DownOrder key heap pos) :
    DownOrder key (heap.swap pos c) c := by
  constructor
  · intro i hi hi0 hic hpc
    rw [Array.size_swap] at hi
    simp only [Array.getElem_swap]
    rw [if_neg hic, if_neg hpc]
    by_cases hip : i = pos
    · rw [if_pos hip, if_neg (show ¬ (i - 1) / 2 = pos by omega)]
      simp only [hip]
      exact o.grand (by omega) (by omega) c hsz (by omega) (by omega)
    · rw [if_neg hip]
      by_cases hpp : (i - 1) / 2 = pos
      · rw [if_pos hpp]
        exact hmin i hi (by omega)
      · rw [if_neg hpp]
        exact o.except i hi hi0 hip hpp
  · intro hp hs d hd hd0 hdc
    rw [Array.size_swap] at hd hs
    simp only [Array.getElem_swap]
    rw [if_pos (show (c - 1) / 2 = pos by omega), if_neg (show ¬ d = pos by omega),
      if_neg (show ¬ d = c by omega)]
    have hold := o.except d hd hd0 (by omega) (by omega)
    simpa only [hdc] using hold

/-- At the leaf that `bubble` stops at, only the leaf itself may be out of order. -/
lemma upOrder_bubble (hlt : Compat lt key) (heap : Array α) (pos : ℕ)
    (o : DownOrder key heap pos) :
    UpOrder key (bubble lt heap pos).1 (bubble lt heap pos).2 := by
  induction heap, pos using bubble.induct lt with
  | case1 heap pos h ih =>
    rw [bubble, dif_pos h]
    exact ih (o.move (by omega) (smallerChild_lt lt heap pos h) (smallerChild_eq lt heap pos h)
      (smallerChild_key_le hlt heap pos h (smallerChild_lt lt heap pos h)))
  | case2 heap pos h =>
    rw [bubble, dif_neg h]
    constructor
    · intro i hi hi0 hip
      change i < heap.size at hi
      exact o.except i hi hi0 hip (by omega)
    · intro hp hs c hc hc0 hcp
      exact o.grand hp hs c hc hc0 hcp

theorem ordered_empty : Ordered key (#[] : Array α) := fun _ h => absurd h (Nat.not_lt_zero _)

theorem ordered_heappush (hlt : Compat lt key) {heap : Array α} (ho : Ordered key heap)
    (item : α) : Ordered key (heappush lt heap item) := by
  refine ordered_siftdown hlt _ _ ⟨fun i hi hi0 hne => ?_, fun hp hs c hc hc0 hcp => ?_⟩
  · rw [Array.size_push] at hi
    rw [Array.getElem_push_lt (show i < heap.size by omega),
      Array.getElem_push_lt (show (i - 1) / 2 < heap.size by omega)]
    exact ho i (by omega) hi0
  · rw [Array.size_push] at hc
    omega

/-! ## Taking the first item -/

lemma heappop_append (l : List α) (a b : α) :
    heappop lt (a :: l ++ [b]).toArray = some (a, siftup lt (b :: l).toArray 0) := by
  have hback : (a :: l ++ [b]).toArray.back? = some b := by
    rw [List.back?_toArray, List.getLast?_concat]
  have hpop : (a :: l ++ [b]).toArray.pop = (a :: l).toArray := by
    rw [List.pop_toArray, List.dropLast_concat]
  simp only [heappop, hback, hpop]
  rfl

/-- Off the root, putting the last item at the root changes nothing. -/
lemma getElem_replace_root (l : List α) (a b : α) (i : ℕ) (hi0 : 0 < i)
    (hi : i < l.length + 1) (hleft : i < (a :: l ++ [b]).toArray.size)
    (hright : i < (b :: l).toArray.size) :
    (a :: l ++ [b]).toArray[i] = (b :: l).toArray[i] := by
  obtain ⟨j, rfl⟩ : ∃ j, i = j + 1 := ⟨i - 1, by omega⟩
  simp only [List.getElem_toArray, List.cons_append, List.getElem_cons_succ]
  exact List.getElem_append_left (by omega)

lemma heappop_singleton (a : α) : heappop lt #[a] = some (a, #[]) := rfl

/-- A nonempty heap is a single item, or has a first and a last one. -/
lemma heap_cases (heap : Array α) (h : 0 < heap.size) :
    (∃ a, heap = #[a]) ∨ ∃ a l b, heap = (a :: l ++ [b]).toArray := by
  obtain ⟨l⟩ := heap
  cases l with
  | nil => exact absurd h (Nat.lt_irrefl 0)
  | cons a l =>
    rcases List.eq_nil_or_concat l with rfl | ⟨l', b, rfl⟩
    · exact .inl ⟨a, rfl⟩
    · exact .inr ⟨a, l', b, by rw [List.concat_eq_append, List.cons_append]⟩

lemma heappop_eq_none {heap : Array α} : heappop lt heap = none ↔ heap = #[] := by
  constructor
  · intro h
    by_contra hne
    rcases heap_cases heap (Array.size_pos_iff.mpr hne) with ⟨a, rfl⟩ | ⟨a, l, b, rfl⟩
    · rw [heappop_singleton] at h; cases h
    · rw [heappop_append] at h; cases h
  · rintro rfl
    rfl

variable {heap heap' : Array α} {a : α}

lemma items_heappop (h : heappop lt heap = some (a, heap')) :
    items heap = a ::ₘ items heap' := by
  have hne : heap ≠ #[] := by
    rintro rfl
    cases h
  rcases heap_cases heap (Array.size_pos_iff.mpr hne) with ⟨b, rfl⟩ | ⟨b, l, c, rfl⟩
  · rw [heappop_singleton, Option.some_inj, Prod.mk.injEq] at h
    rw [← h.1, ← h.2]
    rfl
  · rw [heappop_append, Option.some_inj, Prod.mk.injEq] at h
    rw [← h.1, ← h.2, items_siftup]
    refine Multiset.coe_eq_coe.mpr ((List.perm_cons b).mpr ?_)
    exact List.perm_append_singleton c l

lemma ordered_heappop (hlt : Compat lt key) (ho : Ordered key heap)
    (h : heappop lt heap = some (a, heap')) : Ordered key heap' := by
  have hne : heap ≠ #[] := by
    rintro rfl
    cases h
  rcases heap_cases heap (Array.size_pos_iff.mpr hne) with ⟨b, rfl⟩ | ⟨b, l, c, rfl⟩
  · rw [heappop_singleton, Option.some_inj, Prod.mk.injEq] at h
    rw [← h.2]
    exact ordered_empty
  · rw [heappop_append, Option.some_inj, Prod.mk.injEq] at h
    rw [← h.2]
    refine ordered_siftdown hlt _ _ (upOrder_bubble hlt _ 0 ⟨?_, fun hp => absurd hp ?_⟩)
    · -- off the root, the heap is the old one without its last item
      intro i hi hi0 _ hpar
      have hi' : i < l.length + 1 := hi
      have hold := ho i (show i < (b :: l ++ [c]).length by simp; omega) hi0
      rwa [getElem_replace_root l b c ((i - 1) / 2) (by omega) (by omega),
        getElem_replace_root l b c i hi0 hi'] at hold
    · exact Nat.lt_irrefl 0

/-- **The item taken out of a heap has a least key.** -/
theorem heappop_key_le (ho : Ordered key heap) (h : heappop lt heap = some (a, heap'))
    {b : α} (hb : b ∈ items heap) : key a ≤ key b := by
  obtain ⟨i, hi, rfl⟩ := mem_items_iff_getElem.mp hb
  have hroot := ho.root_le i hi
  rcases heap_cases heap (by omega) with ⟨c, rfl⟩ | ⟨c, l, d, rfl⟩
  · rw [heappop_singleton, Option.some_inj, Prod.mk.injEq] at h
    rw [← h.1]
    exact hroot
  · rw [heappop_append, Option.some_inj, Prod.mk.injEq] at h
    rw [← h.1]
    exact hroot

/-! ## Comparisons that raise -/

section Raising

variable (ltM : α → α → Option Bool)

def siftdownM (heap : Array α) (startpos pos : ℕ) : Option (Array α) :=
  if h : startpos < pos ∧ pos < heap.size then
    match ltM heap[pos] heap[(pos - 1) / 2] with
    | none => none
    | some true => siftdownM (heap.swap pos ((pos - 1) / 2)) startpos ((pos - 1) / 2)
    | some false => some heap
  else some heap
termination_by pos

def smallerChildM (heap : Array α) (pos : ℕ) (h : 2 * pos + 1 < heap.size) :
    Option {c : ℕ // pos < c ∧ c < heap.size} :=
  if hr : 2 * pos + 2 < heap.size then
    match ltM heap[2 * pos + 1] heap[2 * pos + 2] with
    | none => none
    | some true => some ⟨2 * pos + 1, by omega⟩
    | some false => some ⟨2 * pos + 2, by omega⟩
  else some ⟨2 * pos + 1, by omega⟩

def bubbleM (heap : Array α) (pos : ℕ) : Option (Array α × ℕ) :=
  if h : 2 * pos + 1 < heap.size then
    match smallerChildM ltM heap pos h with
    | none => none
    | some ⟨c, hc⟩ => bubbleM (heap.swap pos c (by omega) hc.2) c
  else some (heap, pos)
termination_by heap.size - pos
decreasing_by
  simp only [Array.size_swap]
  omega

def siftupM (heap : Array α) (pos : ℕ) : Option (Array α) := do
  let (heap', pos') ← bubbleM ltM heap pos
  siftdownM ltM heap' pos pos'

def heappushM (heap : Array α) (item : α) : Option (Array α) :=
  siftdownM ltM (heap.push item) 0 heap.size

/-- The outer `none` is an exception, the inner one says that the heap is empty. -/
def heappopM (heap : Array α) : Option (Option (α × Array α)) :=
  match heap.back? with
  | none => some none
  | some lastelt =>
    if h : 0 < heap.pop.size then do
      let heap' ← siftupM ltM (heap.pop.set 0 lastelt) 0
      return some (heap.pop[0], heap')
    else some (some (lastelt, heap.pop))

variable (lt) in
/-- Every two members can be compared, with the answer of `lt`. -/
def Comparable (heap : Array α) : Prop :=
  heap.toList.Pairwise fun a b => ltM a b = some (lt a b) ∧ ltM b a = some (lt b a)

variable {ltM}

lemma Comparable.of_items {heap heap' : Array α} (h : Comparable lt ltM heap)
    (hitems : items heap' = items heap) : Comparable lt ltM heap' :=
  (List.Perm.pairwise_iff (fun hab => ⟨hab.2, hab.1⟩) (Multiset.coe_eq_coe.mp hitems)).mpr h

lemma Comparable.ltM_eq {heap : Array α} (h : Comparable lt ltM heap) {i j : ℕ}
    (hi : i < heap.size) (hj : j < heap.size) (hne : i ≠ j) :
    ltM heap[i] heap[j] = some (lt heap[i] heap[j]) := by
  have hpair := List.pairwise_iff_getElem.mp h
  rcases Nat.lt_or_gt_of_ne hne with hlt | hlt
  · exact (hpair i j hi hj hlt).1
  · exact (hpair j i hj hi hlt).2

lemma siftdownM_eq {heap : Array α} {startpos pos : ℕ} (h : Comparable lt ltM heap) :
    siftdownM ltM heap startpos pos = some (siftdown lt heap startpos pos) := by
  induction heap, pos using siftdown.induct lt startpos with
  | case1 heap pos hpos hless ih =>
    rw [siftdownM, dif_pos hpos, siftdown, dif_pos hpos,
      h.ltM_eq hpos.2 (by omega) (by omega), hless, if_pos rfl]
    exact ih (h.of_items (items_swap _ _ _ _ _))
  | case2 heap pos hpos hless =>
    rw [siftdownM, dif_pos hpos, siftdown, dif_pos hpos,
      h.ltM_eq hpos.2 (by omega) (by omega), if_neg hless, Bool.eq_false_iff.mpr hless]
  | case3 heap pos hpos => rw [siftdownM, dif_neg hpos, siftdown, dif_neg hpos]

lemma smallerChildM_eq {heap : Array α} {pos : ℕ} (h : Comparable lt ltM heap)
    (hpos : 2 * pos + 1 < heap.size) : smallerChildM ltM heap pos hpos =
      some ⟨smallerChild lt heap pos hpos, lt_smallerChild lt heap pos hpos,
        smallerChild_lt lt heap pos hpos⟩ := by
  unfold smallerChildM smallerChild
  by_cases hr : 2 * pos + 2 < heap.size
  · simp only [dif_pos hr, h.ltM_eq hpos hr (by omega)]
    by_cases hless : lt heap[2 * pos + 1] heap[2 * pos + 2] = true
    · simp only [hless, if_true]
    · simp only [hless, Bool.false_eq_true, if_false]
  · simp only [dif_neg hr]

lemma bubbleM_eq {heap : Array α} {pos : ℕ} (h : Comparable lt ltM heap) :
    bubbleM ltM heap pos = some (bubble lt heap pos) := by
  induction heap, pos using bubble.induct lt with
  | case1 heap pos hpos ih =>
    rw [bubbleM, dif_pos hpos, smallerChildM_eq h, bubble, dif_pos hpos]
    exact ih (h.of_items (items_swap _ _ _ _ _))
  | case2 heap pos hpos => rw [bubbleM, dif_neg hpos, bubble, dif_neg hpos]

lemma siftupM_eq {heap : Array α} {pos : ℕ} (h : Comparable lt ltM heap) :
    siftupM ltM heap pos = some (siftup lt heap pos) := by
  rw [siftupM, bubbleM_eq h]
  exact siftdownM_eq (h.of_items (items_bubble lt heap pos))

/-- **Pushing compares no two items that cannot be compared.** -/
theorem heappushM_eq {heap : Array α} {item : α} (h : Comparable lt ltM (heap.push item)) :
    heappushM ltM heap item = some (heappush lt heap item) :=
  siftdownM_eq h

/-- **Neither does popping.** -/
theorem heappopM_eq {heap : Array α} (h : Comparable lt ltM heap) :
    heappopM ltM heap = some (heappop lt heap) := by
  by_cases hne : heap = #[]
  · subst hne
    rfl
  rcases heap_cases heap (Array.size_pos_iff.mpr hne) with ⟨b, rfl⟩ | ⟨b, l, c, rfl⟩
  · rfl
  · have hback : (b :: l ++ [c]).toArray.back? = some c := by
      rw [List.back?_toArray, List.getLast?_concat]
    have hpop : (b :: l ++ [c]).toArray.pop = (b :: l).toArray := by
      rw [List.pop_toArray, List.dropLast_concat]
    -- what is sifted is the heap without its first item
    have hrest : Comparable lt ltM (c :: l).toArray := by
      have hperm : List.Perm (b :: l ++ [c]) (b :: (c :: l)) :=
        (List.perm_cons b).mpr (List.perm_append_singleton c l)
      have hsame : items (b :: c :: l).toArray = items (b :: l ++ [c]).toArray :=
        Multiset.coe_eq_coe.mpr hperm.symm
      exact (h.of_items hsame).of_cons
    rw [heappop_append]
    simp only [heappopM, hback, hpop]
    show (siftupM ltM (c :: l).toArray 0).bind _ = _
    rw [siftupM_eq hrest]
    rfl

end Raising

end Heapq
