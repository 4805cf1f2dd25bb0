import LinkGuardian.Dataplane.Sender.Egress
import LinkGuardian.Library.EntryTable
import Mathlib.Data.List.Perm.Subperm

/-!
# Holes for the emulation of losses

`emulate_random_losses` of `sender/devtest_cmds.py` fills the table `emulate_corruption`: it draws
sequence numbers until it has enough of them, and passes over those next to one that it has.  So no
two packets in a row are dropped, and number 0 is not.  For the same reason the draws may never be
enough.
-/

namespace LinkGuardian.Sender

open P4 EntryTable

/-! ## The control plane -/

/-- The numbers of `random.randint(1, 65450)`. -/
def candidates : List ℕ := List.range' 1 65450

/-- One turn of the loop. -/
def addHole (holes : List ℕ) (candidateHole : ℕ) : List ℕ :=
  if candidateHole - 1 ∈ holes ∨ candidateHole ∈ holes ∨ candidateHole + 1 ∈ holes then holes
  else holes ++ [candidateHole]

/-- The loop on the numbers drawn; `none` if it is still on when they run out. -/
def pickHoles (numHoles : ℕ) : List ℕ → List ℕ → Option (List ℕ)
  | holes, [] => if holes.length = numHoles then some holes else none
  | holes, candidateHole :: draws =>
    if holes.length = numHoles then some holes
    else pickHoles numHoles (addHole holes candidateHole) draws

/-- `mark_for_corruption` for each of the holes in order. -/
def markForCorruption (emulateCorruption : Table SeqNo Unit) (holes : List ℕ) :
    Option (Table SeqNo Unit) :=
  addAll emulateCorruption (fun _ => ()) ((holes.mergeSort (· ≤ ·)).map (BitVec.ofNat 16))

/-- `emulate_random_losses` with `num_holes` and the numbers drawn. -/
def emulateRandomLosses (emulateCorruption : Table SeqNo Unit) (numHoles : ℕ) (draws : List ℕ) :
    Option (Table SeqNo Unit) :=
  (pickHoles numHoles [] draws).bind (markForCorruption emulateCorruption)

/-! ## Numbers that keep apart -/

/-- Different candidates, no two of them neighbours. -/
structure Apart (holes : List ℕ) : Prop where
  nodup : holes.Nodup
  candidate : ∀ h ∈ holes, h ∈ candidates
  apart : ∀ h ∈ holes, h + 1 ∉ holes

lemma mem_candidates {n : ℕ} : n ∈ candidates ↔ 1 ≤ n ∧ n ≤ 65450 := by
  rw [candidates, List.mem_range'_1]
  omega

lemma apart_nil : Apart [] :=
  ⟨List.nodup_nil, fun _ hh => absurd hh List.not_mem_nil, fun _ hh => absurd hh List.not_mem_nil⟩

variable {holes : List ℕ} {c numHoles : ℕ}

lemma Apart.addHole (h : Apart holes) (hc : c ∈ candidates) : Apart (addHole holes c) := by
  unfold Sender.addHole
  split_ifs with hnear
  · exact h
  · push Not at hnear
    obtain ⟨hbefore, hsame, hafter⟩ := hnear
    have hpos := (mem_candidates.mp hc).1
    refine ⟨?_, fun x hx => ?_, fun x hx hnext => ?_⟩
    · rw [← List.concat_eq_append]
      exact h.nodup.concat hsame
    · rcases List.mem_append.mp hx with hx | hx
      · exact h.candidate x hx
      · rwa [List.mem_singleton.mp hx]
    · rw [List.mem_append, List.mem_singleton] at hx hnext
      rcases hx with hx | rfl
      · rcases hnext with hnext | hnext
        · exact h.apart x hx hnext
        · refine hbefore ?_
          rwa [← hnext, Nat.add_sub_cancel]
      · rcases hnext with hnext | hnext
        · exact hafter hnext
        · omega

/-- There is room for one in two of the candidates at most. -/
lemma Apart.length_le (h : Apart holes) : holes.length ≤ 32725 := by
  have hnodup : (holes ++ holes.map (· + 1)).Nodup := by
    refine List.nodup_append.mpr ⟨h.nodup, h.nodup.map fun _ _ heq => Nat.succ_injective heq, ?_⟩
    rintro x hx y hy rfl
    obtain ⟨z, hz, rfl⟩ := List.mem_map.mp hy
    exact h.apart z hz hx
  have hsub : holes ++ holes.map (· + 1) ⊆ List.range' 1 65451 := by
    intro x hx
    rw [List.mem_range'_1]
    rcases List.mem_append.mp hx with hx | hx
    · have := mem_candidates.mp (h.candidate x hx)
      omega
    · obtain ⟨z, hz, rfl⟩ := List.mem_map.mp hx
      have := mem_candidates.mp (h.candidate z hz)
      omega
  have hlen := (hnodup.subperm hsub).length_le
  rw [List.length_append, List.length_map, List.length_range'] at hlen
  omega

/-- As long as each hole keeps only three candidates out, there is one more. -/
lemma exists_free (hfew : holes.length ≤ 21816) :
    ∃ c ∈ candidates, ¬ (c - 1 ∈ holes ∨ c ∈ holes ∨ c + 1 ∈ holes) := by
  by_contra hnone
  push Not at hnone
  have hsub : candidates ⊆ holes.map (· + 1) ++ holes ++ holes.map (· - 1) := by
    intro c hc
    have hpos := (mem_candidates.mp hc).1
    rw [List.mem_append, List.mem_append]
    rcases hnone c hc with hbefore | hsame | hafter
    · exact Or.inl (Or.inl (List.mem_map.mpr ⟨c - 1, hbefore, by omega⟩))
    · exact Or.inl (Or.inr hsame)
    · exact Or.inr (List.mem_map.mpr ⟨c + 1, hafter, by omega⟩)
  have hnodup : candidates.Nodup := List.nodup_range'
  have hlen := (hnodup.subperm hsub).length_le
  simp only [candidates, List.length_range', List.length_append, List.length_map] at hlen
  omega

/-! ## The loop -/

lemma pickHoles_apart {draws : List ℕ} (h : Apart holes) (hdraws : ∀ c ∈ draws, c ∈ candidates)
    {result : List ℕ} (hpick : pickHoles numHoles holes draws = some result) :
    Apart result ∧ result.length = numHoles := by
  induction draws generalizing holes with
  | nil =>
    rw [pickHoles, Option.ite_none_right_eq_some, Option.some_inj] at hpick
    obtain ⟨hlen, rfl⟩ := hpick
    exact ⟨h, hlen⟩
  | cons c draws ih =>
    rw [pickHoles] at hpick
    split_ifs at hpick with hlen
    · obtain rfl := Option.some_inj.mp hpick
      exact ⟨h, hlen⟩
    · exact ih (h.addHole (hdraws c List.mem_cons_self))
        (fun c' hc' => hdraws c' (List.mem_cons_of_mem _ hc')) hpick

lemma length_addHole_le (holes : List ℕ) (c : ℕ) :
    (addHole holes c).length ≤ holes.length + 1 := by
  unfold addHole
  split_ifs
  · exact Nat.le_succ _
  · simp

lemma subset_addHole (holes : List ℕ) (c : ℕ) : holes ⊆ addHole holes c := by
  unfold addHole
  split_ifs
  · exact List.Subset.refl holes
  · exact List.subset_append_left holes [c]

/-- A number drawn is a hole now, or a hole keeps it out. -/
lemma near_addHole (holes : List ℕ) (c : ℕ) :
    c - 1 ∈ addHole holes c ∨ c ∈ addHole holes c ∨ c + 1 ∈ addHole holes c := by
  unfold addHole
  split_ifs with hnear
  · exact hnear
  · exact Or.inr (Or.inl (by simp))

/-- **Draws that run out** are all kept out by the holes found so far, of which there are too few.
The holes only grow, so what has kept a number out once still does at the end. -/
lemma pickHoles_eq_none {draws : List ℕ} (hle : holes.length ≤ numHoles)
    (hpick : pickHoles numHoles holes draws = none) :
    ∃ holes', holes ⊆ holes' ∧ holes'.length < numHoles ∧
      ∀ c ∈ draws, c - 1 ∈ holes' ∨ c ∈ holes' ∨ c + 1 ∈ holes' := by
  induction draws generalizing holes with
  | nil =>
    have hne : holes.length ≠ numHoles := by simpa [pickHoles] using hpick
    exact ⟨holes, List.Subset.refl holes, lt_of_le_of_ne hle hne,
      fun _ hc => absurd hc List.not_mem_nil⟩
  | cons c draws ih =>
    rw [pickHoles] at hpick
    split_ifs at hpick with hlen
    have hroom : (addHole holes c).length ≤ numHoles := by
      have hone := length_addHole_le holes c
      omega
    obtain ⟨holes', hsub, hfew, hall⟩ := ih hroom hpick
    refine ⟨holes', List.Subset.trans (subset_addHole holes c) hsub, hfew, fun c' hc' => ?_⟩
    rcases List.mem_cons.mp hc' with rfl | hc'
    · exact (near_addHole holes c').imp (@hsub _) (Or.imp (@hsub _) (@hsub _))
    · exact hall c' hc'

/-- **Enough draws are enough**: one of each candidate, in any order. -/
lemma pickHoles_isSome {draws : List ℕ} (hfew : numHoles ≤ 21817)
    (hcover : 0 < numHoles → candidates ⊆ draws) : (pickHoles numHoles [] draws).isSome := by
  by_contra hnone
  obtain ⟨holes, -, hless, hall⟩ := pickHoles_eq_none (Nat.zero_le _)
    (Option.not_isSome_iff_eq_none.mp hnone)
  have hroom : holes.length ≤ 21816 := by omega
  obtain ⟨c, hc, hfree⟩ := exists_free hroom
  exact hfree (hall c (hcover (by omega) hc))

/-! ## The table -/

lemma Apart.lt (h : Apart holes) {n : ℕ} (hn : n ∈ holes) : n < 65536 := by
  have := mem_candidates.mp (h.candidate n hn)
  omega

/-- The entries of the table are the holes. -/
lemma Apart.markForCorruption (h : Apart holes) :
    markForCorruption (fun _ => none) holes =
      some fun x => if x.toNat ∈ holes then some () else none := by
  have hmem : ∀ n, n ∈ holes.mergeSort (· ≤ ·) ↔ n ∈ holes := fun n =>
    (List.mergeSort_perm holes _).mem_iff
  have hnodup : ((holes.mergeSort (· ≤ ·)).map (BitVec.ofNat 16)).Nodup := by
    refine ((List.mergeSort_perm holes _).nodup_iff.mpr h.nodup).map_on fun m hm n hn heq => ?_
    have hval := congrArg BitVec.toNat heq
    rwa [BitVec.toNat_ofNat, BitVec.toNat_ofNat, Nat.mod_eq_of_lt (h.lt ((hmem m).mp hm)),
      Nat.mod_eq_of_lt (h.lt ((hmem n).mp hn))] at hval
  have hkeys : ∀ x : SeqNo, x ∈ (holes.mergeSort (· ≤ ·)).map (BitVec.ofNat 16) ↔
      x.toNat ∈ holes := by
    intro x
    rw [List.mem_map]
    constructor
    · rintro ⟨n, hn, rfl⟩
      rwa [BitVec.toNat_ofNat, Nat.mod_eq_of_lt (h.lt ((hmem n).mp hn)), ← hmem]
    · exact fun hx => ⟨x.toNat, (hmem _).mpr hx, by simp⟩
  rw [Sender.markForCorruption, addAll_eq _ hnodup (fun _ _ => rfl)]
  congr 1
  funext x
  simp only [hkeys]

/-- The table has `n` entries, no two of them for neighbours, and none for number 0.  Number 65535
has 0 as its neighbour, and 0 is free, so this is true across the wrap of the numbers too. -/
structure Spaced (t : Table SeqNo Unit) (n : ℕ) : Prop where
  zero : t 0 = none
  apart : ∀ x, (t x).isSome → t (x + 1) = none
  count : (List.range 65536).countP (fun i => (t (BitVec.ofNat 16 i)).isSome) = n

lemma Apart.spaced (h : Apart holes) :
    Spaced (fun x => if x.toNat ∈ holes then some () else none) holes.length where
  zero := if_neg fun hzero => by
    have := mem_candidates.mp (h.candidate _ hzero)
    exact absurd this.1 (by decide)
  apart := by
    intro x hx
    have hmem : x.toNat ∈ holes := by
      by_contra hnot
      simp [hnot] at hx
    have hle := (mem_candidates.mp (h.candidate _ hmem)).2
    have hnext : (x + 1).toNat = x.toNat + 1 := by
      rw [BitVec.toNat_add]
      exact Nat.mod_eq_of_lt (by change x.toNat + 1 < 65536; omega)
    rw [hnext]
    exact if_neg (h.apart _ hmem)
  count := by
    have hperm : ((List.range 65536).filter (· ∈ holes)).Perm holes := by
      refine (List.perm_ext_iff_of_nodup (List.nodup_range.filter _) h.nodup).mpr fun n => ?_
      rw [List.mem_filter, decide_eq_true_iff, List.mem_range]
      exact and_iff_right_of_imp h.lt
    rw [← hperm.length_eq, ← List.countP_eq_length_filter]
    refine List.countP_congr fun i hi => ?_
    rw [BitVec.toNat_ofNat, Nat.mod_eq_of_lt (List.mem_range.mp hi)]
    by_cases hmem : i ∈ holes <;> simp [hmem]

lemma emulateRandomLosses_eq {draws : List ℕ} (hdraws : ∀ c ∈ draws, c ∈ candidates) :
    emulateRandomLosses (fun _ => none) numHoles draws = (pickHoles numHoles [] draws).map
      fun holes x => if x.toNat ∈ holes then some () else none := by
  unfold emulateRandomLosses
  cases hpick : pickHoles numHoles [] draws with
  | none => simp
  | some holes =>
    rw [Option.bind_some, Option.map_some]
    exact (pickHoles_apart apart_nil hdraws hpick).1.markForCorruption

lemma spaced_of_emulate {draws : List ℕ} (hdraws : ∀ c ∈ draws, c ∈ candidates)
    {t : Table SeqNo Unit} (ht : emulateRandomLosses (fun _ => none) numHoles draws = some t) :
    Spaced t numHoles := by
  rw [emulateRandomLosses_eq hdraws, Option.map_eq_some_iff] at ht
  obtain ⟨holes, hpick, rfl⟩ := ht
  obtain ⟨hapart, hlen⟩ := pickHoles_apart apart_nil hdraws hpick
  rw [← hlen]
  exact hapart.spaced

/-- **The holes of the emulation.**  On an empty table, whatever is drawn, the table that
`emulate_random_losses` fills has the number of holes asked for, each by itself and none at 0.  Up
to 21817 holes are found at the latest once every candidate has been drawn, in whatever order;
more than 32725 never. -/
theorem emulated_holes (numHoles : ℕ) :
    (∀ draws t, (∀ c ∈ draws, c ∈ candidates) →
      emulateRandomLosses (fun _ => none) numHoles draws = some t → Spaced t numHoles) ∧
    (numHoles ≤ 21817 → ∀ draws, (∀ c ∈ draws, c ∈ candidates) →
      (0 < numHoles → ∀ c ∈ candidates, c ∈ draws) →
        (emulateRandomLosses (fun _ => none) numHoles draws).isSome) ∧
    (32725 < numHoles → ∀ draws, (∀ c ∈ draws, c ∈ candidates) →
      emulateRandomLosses (fun _ => none) numHoles draws = none) := by
  refine ⟨fun draws t hdraws ht => spaced_of_emulate hdraws ht,
    fun hfew draws hdraws hcover => ?_, fun hmany draws hdraws => ?_⟩
  · rw [emulateRandomLosses_eq hdraws, Option.isSome_map]
    exact pickHoles_isSome hfew hcover
  · rw [emulateRandomLosses_eq hdraws, Option.map_eq_none_iff]
    cases hpick : pickHoles numHoles [] draws with
    | none => rfl
    | some holes =>
      obtain ⟨hapart, hlen⟩ := pickHoles_apart apart_nil hdraws hpick
      have := hapart.length_le
      omega

/-- The second number drawn is next to the first and is passed over. -/
example : pickHoles 2 [] [5, 6, 9, 7] = some [5, 9] := by decide

end LinkGuardian.Sender
