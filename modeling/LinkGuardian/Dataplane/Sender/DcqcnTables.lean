import LinkGuardian.Dataplane.Sender.Egress
import LinkGuardian.Library.MatchTable
import LinkGuardian.Library.Tiling
import Mathlib.Data.Rat.Floor
import Mathlib.Tactic.Linarith

/-!
# The DCQCN tables

`reconfig_dcqcn_ecn_threshold` of `sender/devtest_cmds.py` installs the two tables that mark RoCE
packets: ranges of the queue depth with a value each, and the random numbers that mark a packet of
each value.  The last range begins a step too early, so that the two never implement the profile
that is asked for (`red_profile_never`), though up to that range they do (`marking_of_fits`).
-/

namespace LinkGuardian.Sender

open MatchTable

/-! ## The control plane -/

/-- `range(start, stop)` -/
def pyRange (start stop : ℤ) : List ℤ :=
  (List.range (stop - start).toNat).map fun i : ℕ => start + (i : ℤ)

def qdepthRangeMax : ℤ := 2 ^ 19
/-- Random numbers are bytes. -/
def seedRangeMax : ℤ := 256

/-- The sizes of the two tables in `sender.p4`. -/
def dcqcnGetEcnProbabilitySize : ℕ := 1024
def dcqcnCompareProbabilitySize : ℕ := 8192

/-- One range more, from `last_range` on. -/
def addRange (qdepthStepsize : ℤ) (state : List ((ℤ × ℤ) × ℤ) × ℤ) (i : ℤ) :
    List ((ℤ × ℤ) × ℤ) × ℤ :=
  let (entries, lastRange) := state
  (entries ++ [((lastRange, lastRange + qdepthStepsize - 1), i)], lastRange + qdepthStepsize)

/-- What is added to `dcqcn_get_ecn_probability`: ranges with their values. -/
def probabilityEntries (kMin kMax seedKMax : ℤ) : List ((ℤ × ℤ) × ℤ) :=
  let qdepthStepsize := ⌊((kMax - kMin : ℤ) / seedKMax : ℚ)⌋
  let (entries, lastRange) :=
    (pyRange 1 seedKMax).foldl (addRange qdepthStepsize) ([((0, kMin - 1), 0)], kMin)
  entries ++ [((lastRange, qdepthRangeMax - 1), seedRangeMax - 1)]

/-- What is added to `dcqcn_compare_probability`: values with a random number. -/
def comparisonEntries (seedKMax : ℤ) : List ((ℤ × ℤ) × Unit) :=
  ((pyRange 1 seedKMax).flatMap fun probOutput =>
    ((pyRange 0 seedRangeMax).filter (· < probOutput)).map fun randomNumber =>
      ((probOutput, randomNumber), ())) ++
  (pyRange 0 seedRangeMax).map fun randomNumber => ((seedRangeMax - 1, randomNumber), ())

structure DcqcnTables where
  getEcnProbability : List ((ℤ × ℤ) × ℤ)
  compareProbability : List ((ℤ × ℤ) × Unit)

/-- The tables as the call leaves them, when the second one takes `compareSize` entries.  A
`SEED_K_MAX` of 0 raises before anything is cleared; an entry that is refused raises as well, and
the call goes no further. -/
def reconfigDcqcnEcnThreshold (compareSize : ℕ) (kMin kMax : ℤ) (pMax : ℚ) :
    Option DcqcnTables :=
  let seedKMax := ⌈pMax * seedRangeMax⌉
  if seedKMax = 0 then none
  else
    let (getEcnProbability, completed) :=
      addAll dcqcnGetEcnProbabilitySize [] (probabilityEntries kMin kMax seedKMax)
    some
      { getEcnProbability
        compareProbability :=
          if completed then (addAll compareSize [] (comparisonEntries seedKMax)).1 else [] }

/-! ## The tables in the egress -/

/-- The value of the first range that holds `x`. -/
def lookupRange (table : List ((ℤ × ℤ) × ℤ)) (x : ℤ) : Option ℤ :=
  (table.find? fun entry => entry.1.1 ≤ x ∧ x ≤ entry.1.2).map Prod.snd

namespace DcqcnTables

variable (d : DcqcnTables)

/-- The range match; the default is `dcqcn_mark_probability(0)`. -/
def getProbability (depth : BitVec 19) : BitVec 8 :=
  BitVec.ofInt 8 ((lookupRange d.getEcnProbability depth.toNat).getD 0)

def marks (prob random : BitVec 8) : Bool :=
  ((prob.toNat : ℤ), (random.toNat : ℤ)) ∈ keys d.compareProbability

def install (t : EgressTables) : EgressTables :=
  { t with
    dcqcnGetEcnProbability := d.getProbability
    dcqcnCompareProbability := d.marks }

/-- The share of the random numbers with which a packet is marked at a queue depth. -/
def markingProbability (depth : BitVec 19) : ℚ :=
  (List.range 256).countP (fun r => d.marks (d.getProbability depth) (BitVec.ofNat 8 r)) / 256

end DcqcnTables

/-- A RoCE packet that can be marked is marked by its queue depth and its random number. -/
lemma Egress.ecnMarking_roce (d : DcqcnTables) (t : EgressTables) {c : Egress}
    (hecn : c.hdr.ipv4.fields.ecn = 0b01 ∨ c.hdr.ipv4.fields.ecn = 0b10)
    (hroce : c.egMeta.isRoceV2 = 1) (hunmarked : c.egMeta.markEcnCodepoint = 0) :
    (c.ecnMarking (d.install t)).hdr =
      if d.marks (d.getProbability c.deqQdepth) c.random then c.markEcnCeCodepoint.hdr
      else c.hdr := by
  rw [ecnMarking, if_pos hecn, if_pos hroce]
  cases hmarks : d.marks (d.getProbability c.deqQdepth) c.random with
  | true => simp [dcqcnMarking, DcqcnTables.install, hmarks, markEcnCeCodepoint]
  | false => simp [dcqcnMarking, DcqcnTables.install, hmarks, hunmarked]

/-! ## The profile -/

/-- The RED profile of the thresholds.  It is stated for the probability with which a packet is
marked, and so depends on both tables. -/
structure RedProfile (d : DcqcnTables) (kMin kMax : ℤ) (pMax : ℚ) : Prop where
  nonempty : ∀ entry ∈ d.getEcnProbability, entry.1.1 ≤ entry.1.2
  disjoint : d.getEcnProbability.Pairwise fun entry entry' =>
    ∀ x, entry.1.1 ≤ x ∧ x ≤ entry.1.2 → ¬ (entry'.1.1 ≤ x ∧ x ≤ entry'.1.2)
  cover : ∀ depth : BitVec 19, ∃ entry ∈ d.getEcnProbability,
    entry.1.1 ≤ depth.toNat ∧ (depth.toNat : ℤ) ≤ entry.1.2
  monotone : ∀ depth depth' : BitVec 19, depth ≤ depth' →
    d.markingProbability depth ≤ d.markingProbability depth'
  zero : ∀ depth : BitVec 19, (depth.toNat : ℤ) < kMin → d.markingProbability depth = 0
  bounded : ∀ depth : BitVec 19, (depth.toNat : ℤ) < kMax →
    d.markingProbability depth ≤ ⌈256 * pMax⌉ / 256
  one : ∀ depth : BitVec 19, kMax ≤ depth.toNat → d.markingProbability depth = 1

/-- Thresholds with a depth at least for each value. -/
structure Thresholds (kMin kMax : ℤ) (pMax : ℚ) : Prop where
  one_le : 1 ≤ kMin
  lt : kMin < kMax
  kMax_lt : kMax < 2 ^ 19
  pMax_pos : 0 < pMax
  pMax_lt : pMax < 1
  room : ⌈256 * pMax⌉ ≤ kMax - kMin

/-! ## Ranges of numbers -/

lemma mem_pyRange {a b i : ℤ} : i ∈ pyRange a b ↔ a ≤ i ∧ i < b := by
  rw [pyRange, List.mem_map]
  constructor
  · rintro ⟨j, hj, rfl⟩
    rw [List.mem_range] at hj
    omega
  · rintro ⟨ha, hb⟩
    exact ⟨(i - a).toNat, List.mem_range.mpr (by omega), by omega⟩

lemma nodup_pyRange (a b : ℤ) : (pyRange a b).Nodup :=
  (List.nodup_range).map fun i j h => by simpa using h

lemma pyRange_append {a b c : ℤ} (hab : a ≤ b) (hbc : b ≤ c) :
    pyRange a c = pyRange a b ++ pyRange b c := by
  have hlength : (c - a).toNat = (b - a).toNat + (c - b).toNat := by omega
  rw [pyRange, hlength, List.range_add, List.map_append, List.map_map]
  refine congrArg _ (List.map_congr_left fun i _ => ?_)
  simp only [Function.comp_apply]
  omega

/-- The random numbers that mark a packet of a value. -/
lemma filter_pyRange {v : ℤ} (h₀ : 0 ≤ v) (h₁ : v ≤ seedRangeMax) :
    (pyRange 0 seedRangeMax).filter (· < v) = pyRange 0 v := by
  rw [pyRange_append h₀ h₁, List.filter_append]
  have hlow : (pyRange 0 v).filter (· < v) = pyRange 0 v :=
    List.filter_eq_self.mpr fun i hi => decide_eq_true (mem_pyRange.mp hi).2
  have hhigh : (pyRange v seedRangeMax).filter (· < v) = [] :=
    List.filter_eq_nil_iff.mpr fun i hi => by simpa using (mem_pyRange.mp hi).1
  rw [hlow, hhigh, List.append_nil]

/-! ## The ranges of the queue depth -/

/-- `n` steps of a size between the thresholds, with room for one more. -/
structure Steps (kMin kMax s : ℤ) (n : ℕ) : Prop where
  one_le : 1 ≤ kMin
  step_pos : 1 ≤ s
  room : kMin + (n + 1) * s ≤ kMax
  kMax_lt : kMax < 2 ^ 19
  few : n ≤ 255

lemma Thresholds.steps {kMin kMax : ℤ} {pMax : ℚ} (h : Thresholds kMin kMax pMax) :
    ∃ n : ℕ, ⌈pMax * seedRangeMax⌉ = n + 1 ∧
      Steps kMin kMax ⌊((kMax - kMin : ℤ) / (n + 1 : ℤ) : ℚ)⌋ n := by
  have hroom := h.room
  rw [mul_comm] at hroom
  have hpos : 0 < ⌈pMax * 256⌉ := Int.ceil_pos.mpr (by linarith [h.pMax_pos])
  have hle : ⌈pMax * 256⌉ ≤ 256 := Int.ceil_le.mpr (by push_cast; linarith [h.pMax_lt])
  obtain ⟨n, hn⟩ := Int.eq_ofNat_of_zero_le (show 0 ≤ ⌈pMax * 256⌉ - 1 by omega)
  have hseed : ⌈pMax * 256⌉ = n + 1 := by omega
  have hcast : (0 : ℚ) < ((n + 1 : ℤ) : ℚ) := by exact_mod_cast Nat.succ_pos n
  refine ⟨n, by exact_mod_cast hseed, h.one_le, ?_, ?_, h.kMax_lt, by omega⟩
  · rw [Int.le_floor, le_div_iff₀ hcast]
    have hdepths : (n + 1 : ℤ) ≤ kMax - kMin := hseed ▸ hroom
    push_cast
    rw [one_mul]
    exact_mod_cast hdepths
  · have hfloor := Int.floor_le (((kMax - kMin : ℤ) : ℚ) / (n + 1 : ℤ))
    rw [le_div_iff₀ hcast] at hfloor
    have hfit : ⌊((kMax - kMin : ℤ) / (n + 1 : ℤ) : ℚ)⌋ * (n + 1 : ℤ) ≤ kMax - kMin := by
      exact_mod_cast hfloor
    linarith

/-- The range below `kMin` and those of the steps. -/
def ranges (kMin s : ℤ) (n : ℕ) : List ((ℤ × ℤ) × ℤ) :=
  ((0, kMin - 1), 0) :: (List.range n).map fun j : ℕ =>
    ((kMin + j * s, kMin + (j + 1) * s - 1), 1 + (j : ℤ))

/-- All ranges; the last one takes the rest. -/
def allRanges (kMin s : ℤ) (n : ℕ) : List ((ℤ × ℤ) × ℤ) :=
  ranges kMin s n ++ [((kMin + n * s, qdepthRangeMax - 1), seedRangeMax - 1)]

/-- The depths of an entry, as a half-open range. -/
def depths (entry : (ℤ × ℤ) × ℤ) : ℤ × ℤ := (entry.1.1, entry.1.2 + 1)

variable {kMin kMax s : ℤ} {n : ℕ}

lemma foldl_addRange (kMin s : ℤ) (n : ℕ) : (pyRange 1 (n + 1)).foldl (addRange s)
    ([((0, kMin - 1), 0)], kMin) = (ranges kMin s n, kMin + n * s) := by
  have hrange : (n + 1 - 1 : ℤ).toNat = n := by omega
  rw [pyRange, hrange]
  clear hrange
  induction n with
  | zero => simp [ranges]
  | succ n ih =>
    have hend : kMin + n * s + s = kMin + (n + 1) * s := by ring
    rw [List.range_succ, List.map_append, List.foldl_append, ih]
    simp [addRange, ranges, List.range_succ, hend]

lemma probabilityEntries_eq (kMin kMax : ℤ) (n : ℕ) : probabilityEntries kMin kMax (n + 1) =
    allRanges kMin ⌊((kMax - kMin : ℤ) / (n + 1 : ℤ) : ℚ)⌋ n := by
  rw [probabilityEntries, foldl_addRange]
  rfl

lemma tiling_ranges (h₁ : 1 ≤ kMin) (hs : 1 ≤ s) (n : ℕ) :
    Tiling 0 ((ranges kMin s n).map depths) (kMin + n * s) := by
  induction n with
  | zero =>
    have hfirst : Tiling 0 [((0 : ℤ), kMin)] kMin := .cons (by omega) (.nil kMin)
    simpa [ranges, depths] using hfirst
  | succ n ih =>
    have hnext := ih.concat (show kMin + n * s < kMin + (n + 1) * s by linarith)
    have hmap : (ranges kMin s (n + 1)).map depths =
        (ranges kMin s n).map depths ++ [(kMin + n * s, kMin + (n + 1) * s)] := by
      simp [ranges, depths, List.range_succ]
    rw [hmap]
    exact_mod_cast hnext

/-- The value that the tables have for a depth. -/
def valueAt (kMin s : ℤ) (n : ℕ) (x : ℤ) : ℤ :=
  if x < kMin then 0 else if x < kMin + n * s then (x - kMin) / s + 1 else 255

variable (h : Steps kMin kMax s n)
include h

lemma Steps.lastRange_lt : kMin + n * s < kMax := by
  have hroom := h.room
  have hstep := h.step_pos
  linarith

lemma Steps.tiling : Tiling 0 ((allRanges kMin s n).map depths) (2 ^ 19) := by
  have hlast := h.lastRange_lt.trans h.kMax_lt
  rw [allRanges, List.map_append]
  exact (tiling_ranges h.one_le h.step_pos n).concat hlast

/-- The ranges fit into the table. -/
lemma Steps.addAll_allRanges :
    addAll dcqcnGetEcnProbabilitySize [] (allRanges kMin s n) =
      (allRanges kMin s n, true) := by
  have hhalf : (allRanges kMin s n).map depths =
      (keys (allRanges kMin s n)).map fun r => (r.1, r.2 + 1) := by
    rw [keys, List.map_map]
    rfl
  have hnodup : (keys (allRanges kMin s n)).Nodup :=
    List.Nodup.of_map _ (hhalf ▸ h.tiling.nodup)
  refine addAll_eq_append hnodup ?_
  have hfew := h.few
  simp only [List.nil_append, allRanges, ranges, List.length_append, List.length_cons,
    List.length_map, List.length_range, List.length_nil, dcqcnGetEcnProbabilitySize]
  omega

/-- Every depth is in a range with its value. -/
lemma Steps.exists_mem {x : ℤ} (h₀ : 0 ≤ x) (h₁ : x < 2 ^ 19) :
    ∃ entry ∈ allRanges kMin s n, (entry.1.1 ≤ x ∧ x ≤ entry.1.2) ∧
      entry.2 = valueAt kMin s n x := by
  have hs : 0 < s := h.step_pos
  unfold valueAt
  split_ifs with hlow hmid
  · exact ⟨_, List.mem_append_left _ List.mem_cons_self, ⟨h₀, Int.le_sub_one_of_lt hlow⟩, rfl⟩
  · -- the step whose range holds the depth
    obtain ⟨j, hj⟩ := Int.eq_ofNat_of_zero_le
      (Int.ediv_nonneg (show 0 ≤ x - kMin by omega) hs.le)
    have hdown := Int.ediv_mul_le (x - kMin) hs.ne'
    have hup := Int.lt_ediv_add_one_mul_self (x - kMin) hs
    rw [hj] at hdown hup ⊢
    have hlt : j < n := by
      have hmul : (j : ℤ) * s < n * s := by linarith
      exact_mod_cast lt_of_mul_lt_mul_right hmul hs.le
    refine ⟨((kMin + j * s, kMin + (j + 1) * s - 1), 1 + (j : ℤ)),
      List.mem_append_left _ (List.mem_cons_of_mem _
        (List.mem_map.mpr ⟨j, List.mem_range.mpr hlt, rfl⟩)), ⟨?_, ?_⟩, add_comm _ _⟩
    · show kMin + j * s ≤ x
      linarith
    · show x ≤ kMin + (j + 1) * s - 1
      linarith
  · exact ⟨_, List.mem_append_right _ List.mem_cons_self,
      ⟨not_lt.mp hmid, Int.le_sub_one_of_lt h₁⟩, rfl⟩

lemma Steps.lookupRange_eq {x : ℤ} (h₀ : 0 ≤ x) (h₁ : x < 2 ^ 19) :
    lookupRange (allRanges kMin s n) x = some (valueAt kMin s n x) := by
  obtain ⟨entry, hmem, hin, hvalue⟩ := h.exists_mem h₀ h₁
  have hsome : ((allRanges kMin s n).find? fun entry =>
      entry.1.1 ≤ x ∧ x ≤ entry.1.2).isSome :=
    List.find?_isSome.mpr ⟨entry, hmem, decide_eq_true hin⟩
  obtain ⟨entry', hfind⟩ := Option.isSome_iff_exists.mp hsome
  have hin' : entry'.1.1 ≤ x ∧ x ≤ entry'.1.2 := by simpa using List.find?_some hfind
  have heq : entry' = entry := h.tiling.unique (List.mem_of_find?_eq_some hfind) hmem
    ⟨hin'.1, Int.lt_add_one_of_le hin'.2⟩ ⟨hin.1, Int.lt_add_one_of_le hin.2⟩
  rw [lookupRange, hfind, heq, ← hvalue]
  rfl

omit h

/-! ## The random numbers that mark -/

lemma mem_comparisonEntries {v r p : ℤ} (hp : p ≤ seedRangeMax) :
    (v, r) ∈ keys (comparisonEntries p) ↔
      0 ≤ r ∧ r < 256 ∧ (1 ≤ v ∧ v < p ∧ r < v ∨ v = 255) := by
  have hrange : seedRangeMax = 256 := rfl
  simp only [keys, comparisonEntries, List.map_append, List.map_flatMap, List.map_map,
    List.mem_append, List.mem_flatMap, List.mem_map, List.mem_filter, mem_pyRange,
    decide_eq_true_eq, Function.comp_apply, Prod.mk.injEq]
  constructor
  · rintro (⟨v', hv', r', hr', rfl, rfl⟩ | ⟨r', hr', rfl, rfl⟩)
    · omega
    · omega
  · rintro ⟨h₀, h₁, ⟨hone, hlt, hr⟩ | rfl⟩
    · exact .inl ⟨v, ⟨hone, hlt⟩, r, ⟨⟨h₀, hrange ▸ h₁⟩, hr⟩, rfl, rfl⟩
    · exact .inr ⟨r, ⟨h₀, hrange ▸ h₁⟩, rfl, rfl⟩

/-- How many random numbers mark a packet of a value. -/
def weight (v : ℤ) : ℤ := if v = 255 then 256 else v

lemma countP_range_lt {v : ℤ} (h₀ : 0 ≤ v) (h₁ : v ≤ 256) :
    (((List.range 256).countP fun r : ℕ => (r : ℤ) < v : ℕ) : ℤ) = v := by
  obtain ⟨m, rfl⟩ := Int.eq_ofNat_of_zero_le h₀
  have hsplit : (256 : ℕ) = m + (256 - m) := by omega
  rw [hsplit, List.range_add, List.countP_append, List.countP_eq_length.mpr,
    List.countP_eq_zero.mpr, List.length_range, add_zero]
  · intro r hr
    obtain ⟨i, -, rfl⟩ := List.mem_map.mp hr
    simp
  · intro r hr
    simpa using hr

/-- The tables that the call installs. -/
def tables (size : ℕ) (kMin s : ℤ) (n : ℕ) : DcqcnTables where
  getEcnProbability := allRanges kMin s n
  compareProbability := (addAll size [] (comparisonEntries (n + 1))).1

lemma reconfig_eq (size : ℕ) {pMax : ℚ} (h : Thresholds kMin kMax pMax) :
    ∃ s n, reconfigDcqcnEcnThreshold size kMin kMax pMax = some (tables size kMin s n) ∧
      ⌈256 * pMax⌉ = (n : ℤ) + 1 ∧ Steps kMin kMax s n := by
  obtain ⟨n, hseed, hsteps⟩ := h.steps
  refine ⟨_, n, ?_, ?_, hsteps⟩
  · have hne : ¬ (n + 1 : ℤ) = 0 := by omega
    simp only [reconfigDcqcnEcnThreshold, hseed, if_neg hne, probabilityEntries_eq,
      hsteps.addAll_allRanges]
    rfl
  · rw [mul_comm]
    exact_mod_cast hseed

/-! ## The comparison table -/

lemma keys_comparisonEntries (n : ℕ) (hn : n ≤ 255) : keys (comparisonEntries (n + 1)) =
    ((pyRange 1 (n + 1)).flatMap fun v => (pyRange 0 v).map (Prod.mk v)) ++
      (pyRange 0 256).map (Prod.mk 255) := by
  have hbelow : ∀ v ∈ pyRange 1 (n + 1), (pyRange 0 seedRangeMax).filter (· < v) = pyRange 0 v := by
    intro v hv
    obtain ⟨hone, hlt⟩ := mem_pyRange.mp hv
    refine filter_pyRange (by omega) ?_
    show v ≤ 256
    omega
  rw [comparisonEntries, keys_append, keys, keys, List.map_flatMap, List.map_map]
  refine congrArg₂ _ (List.flatMap_congr fun v hv => ?_) rfl
  rw [hbelow v hv, List.map_map]
  rfl

/-- The entries for fewer than 255 steps are all different, and the comparison table has room for
them. -/
structure Fits (size n : ℕ) : Prop where
  few : n < 255
  room : (comparisonEntries (n + 1)).length ≤ size

lemma nodup_comparisonEntries (hn : n < 255) : (keys (comparisonEntries (n + 1))).Nodup := by
  rw [keys_comparisonEntries n hn.le]
  refine List.nodup_append.mpr ⟨List.nodup_flatMap.mpr ⟨fun v _ => ?_, ?_⟩, ?_, ?_⟩
  · exact (nodup_pyRange 0 v).map fun r r' h => (Prod.mk.inj h).2
  · refine (nodup_pyRange 1 (n + 1)).imp fun {v v'} hne => ?_
    show List.Disjoint _ _
    intro k hk hk'
    obtain ⟨r, -, rfl⟩ := List.mem_map.mp hk
    obtain ⟨r', -, heq⟩ := List.mem_map.mp hk'
    exact hne (Prod.mk.inj heq).1.symm
  · exact (nodup_pyRange 0 256).map fun r r' h => (Prod.mk.inj h).2
  · -- the values of the steps stay below 255
    rintro k hk k' hk' rfl
    obtain ⟨v, hv, hk⟩ := List.mem_flatMap.mp hk
    obtain ⟨r, -, rfl⟩ := List.mem_map.mp hk
    obtain ⟨r', -, heq⟩ := List.mem_map.mp hk'
    have hlt := (mem_pyRange.mp hv).2
    have hvalue := (Prod.mk.inj heq).1
    omega

lemma Fits.compareProbability {size : ℕ} (hfit : Fits size n) (kMin s : ℤ) :
    (tables size kMin s n).compareProbability = comparisonEntries (n + 1) := by
  have hall : addAll size [] (comparisonEntries (n + 1)) =
      ([] ++ comparisonEntries (n + 1), true) :=
    addAll_eq_append (nodup_comparisonEntries hfit.few) hfit.room
  rw [tables, hall, List.nil_append]

/-- With 255 steps, value 255 gets its entries twice: the second one for random number 0 ends the
call before there is one for 255. -/
lemma last_not_mem (size : ℕ) (kMin s : ℤ) :
    (255, 255) ∉ keys (tables size kMin s 255).compareProbability := by
  have hsplit : pyRange 0 seedRangeMax = pyRange 0 1 ++ pyRange 1 256 :=
    pyRange_append (by decide) (by decide)
  set before := (pyRange 1 ((255 : ℕ) + 1)).flatMap fun probOutput =>
    ((pyRange 0 seedRangeMax).filter (· < probOutput)).map fun randomNumber =>
      ((probOutput, randomNumber), ()) with hbefore
  have hentries : comparisonEntries ((255 : ℕ) + 1) = before ++ ((255, 0), ()) ::
      (pyRange 1 256).map fun randomNumber => ((255, randomNumber), ()) := by
    rw [comparisonEntries, ← hbefore, hsplit]
    rfl
  have hmem : ∀ v r, (v, r) ∈ keys before ↔
      v ∈ pyRange 1 ((255 : ℕ) + 1) ∧ r ∈ pyRange 0 seedRangeMax ∧ r < v := by
    intro v r
    simp [hbefore, keys]
  have hold : ((255 : ℤ), (0 : ℤ)) ∈ keys ([] ++ before) :=
    (hmem 255 0).mpr ⟨mem_pyRange.mpr (by decide), mem_pyRange.mpr (by decide), by decide⟩
  intro hlast
  have hkept : (addAll size [] (comparisonEntries ((255 : ℕ) + 1))).1 <+: [] ++ before := by
    rw [hentries]
    exact addAll_prefix_of_mem hold
  exact absurd ((hmem 255 255).mp ((hkept.map Prod.fst).subset hlast)).2.2 (lt_irrefl 255)

lemma Steps.getProbability_eq (h : Steps kMin kMax s n) (size : ℕ) (depth : BitVec 19) :
    (tables size kMin s n).getProbability depth =
      BitVec.ofInt 8 (valueAt kMin s n depth.toNat) := by
  have hlt : (depth.toNat : ℤ) < 2 ^ 19 := by exact_mod_cast depth.isLt
  have hlookup := h.lookupRange_eq (Int.natCast_nonneg depth.toNat) hlt
  rw [DcqcnTables.getProbability, show (tables size kMin s n).getEcnProbability =
    allRanges kMin s n from rfl, hlookup, Option.getD_some]

lemma Steps.valueAt_cases (h : Steps kMin kMax s n) (x : ℤ) :
    0 ≤ valueAt kMin s n x ∧ valueAt kMin s n x ≤ n ∨ valueAt kMin s n x = 255 := by
  have hs : 0 < s := h.step_pos
  unfold valueAt
  split_ifs with hlow hmid
  · exact .inl ⟨le_rfl, Int.natCast_nonneg n⟩
  · have hdiv : (x - kMin) / s < n := Int.ediv_lt_of_lt_mul hs (by linarith)
    have hnonneg : 0 ≤ (x - kMin) / s := Int.ediv_nonneg (by omega) hs.le
    exact .inl ⟨by omega, by omega⟩
  · exact .inr rfl

/-- **The probability at each depth**, when all entries have been taken. -/
theorem markingProbability_eq (h : Steps kMin kMax s n) {size : ℕ} (hfit : Fits size n)
    (depth : BitVec 19) : (tables size kMin s n).markingProbability depth =
      weight (valueAt kMin s n depth.toNat) / 256 := by
  have hfew := h.few
  have hcases := h.valueAt_cases depth.toNat
  rw [DcqcnTables.markingProbability, h.getProbability_eq]
  generalize valueAt kMin s n depth.toNat = v at hcases ⊢
  have hv : ((BitVec.ofInt 8 v).toNat : ℤ) = v := by
    rw [BitVec.toNat_ofInt]
    omega
  have hmarks : ∀ r ∈ List.range 256, (tables size kMin s n).marks (BitVec.ofInt 8 v)
      (BitVec.ofNat 8 r) = decide ((r : ℤ) < weight v) := by
    intro r hr
    have hr' : ((BitVec.ofNat 8 r).toNat : ℤ) = r := by
      rw [BitVec.toNat_ofNat, Nat.mod_eq_of_lt (List.mem_range.mp hr)]
    have hlt : (r : ℤ) < 256 := by exact_mod_cast List.mem_range.mp hr
    have hseed : (n + 1 : ℤ) ≤ seedRangeMax := by
      show (n + 1 : ℤ) ≤ 256
      omega
    rw [DcqcnTables.marks, hv, hr', decide_eq_decide, hfit.compareProbability]
    refine (mem_comparisonEntries hseed).trans ?_
    unfold weight
    split_ifs <;> omega
  have hweight : 0 ≤ weight v ∧ weight v ≤ 256 := by
    unfold weight
    split_ifs <;> omega
  rw [List.countP_congr fun r hr => by rw [hmarks r hr]]
  have hcount : (((List.range 256).countP fun r : ℕ => (r : ℤ) < weight v : ℕ) : ℚ) = weight v := by
    exact_mod_cast countP_range_lt hweight.1 hweight.2
  rw [hcount]

/-! ## The profile of the installed tables -/

lemma Steps.nonempty (h : Steps kMin kMax s n) :
    ∀ entry ∈ allRanges kMin s n, entry.1.1 ≤ entry.1.2 := fun _ hentry =>
  Int.lt_add_one_iff.mp (h.tiling.nonempty _ (List.mem_map_of_mem hentry))

lemma Steps.disjoint (h : Steps kMin kMax s n) :
    (allRanges kMin s n).Pairwise fun entry entry' =>
      ∀ x, entry.1.1 ≤ x ∧ x ≤ entry.1.2 → ¬ (entry'.1.1 ≤ x ∧ x ≤ entry'.1.2) := by
  refine (List.pairwise_map.mp h.tiling.pairwise).imp fun {entry entry'} hle x hx hx' => ?_
  have hlt : entry.1.2 < entry'.1.1 := hle
  exact absurd (hx'.1.trans hx.2) (not_le.mpr hlt)

lemma Steps.cover (h : Steps kMin kMax s n) (depth : BitVec 19) :
    ∃ entry ∈ allRanges kMin s n, entry.1.1 ≤ depth.toNat ∧ (depth.toNat : ℤ) ≤ entry.1.2 := by
  have hlt : (depth.toNat : ℤ) < 2 ^ 19 := by exact_mod_cast depth.isLt
  obtain ⟨entry, hentry, hin, -⟩ := h.exists_mem (Int.natCast_nonneg depth.toNat) hlt
  exact ⟨entry, hentry, hin⟩

/-- **The ranges** of the queue depth are as asked for: none is empty, no two have a depth in
common, and every depth is in one. -/
theorem Steps.ranges_partition (h : Steps kMin kMax s n) :
    (∀ entry ∈ allRanges kMin s n, entry.1.1 ≤ entry.1.2) ∧
    ((allRanges kMin s n).Pairwise fun entry entry' =>
      ∀ x, entry.1.1 ≤ x ∧ x ≤ entry.1.2 → ¬ (entry'.1.1 ≤ x ∧ x ≤ entry'.1.2)) ∧
    ∀ depth : BitVec 19, ∃ entry ∈ allRanges kMin s n,
      entry.1.1 ≤ depth.toNat ∧ (depth.toNat : ℤ) ≤ entry.1.2 :=
  ⟨h.nonempty, h.disjoint, h.cover⟩

lemma valueAt_mono (h : Steps kMin kMax s n) {x y : ℤ} (hxy : x ≤ y) :
    valueAt kMin s n x ≤ valueAt kMin s n y := by
  have hs : 0 < s := h.step_pos
  have hfew := h.few
  have hdiv : (x - kMin) / s ≤ (y - kMin) / s := Int.ediv_le_ediv hs (by omega)
  have hx := h.valueAt_cases x
  have hy := h.valueAt_cases y
  unfold valueAt at hx hy ⊢
  split_ifs at hx hy ⊢ <;> omega

lemma weight_mono {v w : ℤ} (hvw : v ≤ w) (hw : w ≤ 255) : weight v ≤ weight w := by
  unfold weight
  split_ifs <;> omega

/-- From the last range on, a packet gets value 255. -/
lemma valueAt_of_le {x : ℤ} (h₀ : kMin ≤ x) (h₁ : kMin + n * s ≤ x) :
    valueAt kMin s n x = 255 := by
  rw [valueAt, if_neg (not_lt.mpr h₀), if_neg (not_lt.mpr h₁)]

lemma Steps.valueAt_le_of_lt (h : Steps kMin kMax s n) {x : ℤ} (hx : x < kMin + n * s) :
    valueAt kMin s n x ≤ n := by
  have hs : 0 < s := h.step_pos
  unfold valueAt
  split_ifs with hlow
  · exact Int.natCast_nonneg n
  · exact Int.add_one_le_of_lt (Int.ediv_lt_of_lt_mul hs (by linarith))

lemma Steps.valueAt_le (h : Steps kMin kMax s n) (x : ℤ) : valueAt kMin s n x ≤ 255 := by
  have hfew := h.few
  have hcases := h.valueAt_cases x
  omega

/-- **What the tables implement**, when all entries fit: the marking probability grows with the
depth, from 0 below `kMin` over at most `n / 256` before the last range to 1 from there on. -/
theorem marking_of_fits {size : ℕ} (h : Steps kMin kMax s n) (hfit : Fits size n) :
    (∀ depth depth' : BitVec 19, depth ≤ depth' →
      (tables size kMin s n).markingProbability depth ≤
        (tables size kMin s n).markingProbability depth') ∧
    ∀ depth : BitVec 19,
      ((depth.toNat : ℤ) < kMin → (tables size kMin s n).markingProbability depth = 0) ∧
      ((depth.toNat : ℤ) < kMin + n * s →
        (tables size kMin s n).markingProbability depth ≤ n / 256) ∧
      (kMin + n * s ≤ depth.toNat → (tables size kMin s n).markingProbability depth = 1) := by
  have hsteps : 0 ≤ n * s := mul_nonneg (Int.natCast_nonneg n) (by linarith [h.step_pos])
  refine ⟨fun depth depth' hdepth => ?_, fun depth => ⟨fun hlow => ?_, fun hmid => ?_,
    fun hhigh => ?_⟩⟩
  · have hnat : (depth.toNat : ℤ) ≤ depth'.toNat := by exact_mod_cast hdepth
    have hweight := weight_mono (valueAt_mono h hnat) (h.valueAt_le _)
    rw [markingProbability_eq h hfit, markingProbability_eq h hfit,
      div_le_div_iff_of_pos_right (by norm_num)]
    exact_mod_cast hweight
  · rw [markingProbability_eq h hfit, valueAt, if_pos hlow]
    norm_num [weight]
  · have hfew := hfit.few
    have hvalue : weight (valueAt kMin s n depth.toNat) ≤ n := by
      have hlt : valueAt kMin s n depth.toNat ≤ n := h.valueAt_le_of_lt hmid
      rw [weight, if_neg (by omega)]
      exact hlt
    rw [markingProbability_eq h hfit, div_le_div_iff_of_pos_right (by norm_num)]
    exact_mod_cast hvalue
  · rw [markingProbability_eq h hfit, valueAt_of_le (by linarith) hhigh]
    norm_num [weight]

lemma toNat_ofNat_depth {x : ℤ} (h₀ : 0 ≤ x) (h₁ : x < 2 ^ 19) :
    ((BitVec.ofNat 19 x.toNat).toNat : ℤ) = x := by
  rw [BitVec.toNat_ofNat, Nat.mod_eq_of_lt (by omega), Int.toNat_of_nonneg h₀]

/-- A depth that is always marked needs the entry for value 255 and random number 255. -/
lemma mem_of_markingProbability_eq_one {d : DcqcnTables} {depth : BitVec 19}
    (hvalue : d.getProbability depth = 255) (hone : d.markingProbability depth = 1) :
    (255, 255) ∈ keys d.compareProbability := by
  rw [DcqcnTables.markingProbability, hvalue, div_eq_iff (by norm_num), one_mul] at hone
  have hlength : (List.range 256).length = 256 := List.length_range
  have hcount : (List.range 256).countP (fun r => d.marks 255 (BitVec.ofNat 8 r)) =
      (List.range 256).length := by
    rw [hlength]
    exact_mod_cast hone
  rw [List.countP_eq_length] at hcount
  have hmarks := hcount 255 (List.mem_range.mpr (by norm_num))
  simpa [DcqcnTables.marks] using hmarks

/-- The last range begins below `kMax`, so the depth before `kMax` is marked like `kMax`.  Only
with 255 steps would its bound allow that, and then no depth is always marked. -/
lemma Steps.not_redProfile {pMax : ℚ} {size : ℕ} (h : Steps kMin kMax s n)
    (hseed : ⌈256 * pMax⌉ = (n : ℤ) + 1) :
    ¬ RedProfile (tables size kMin s n) kMin kMax pMax := by
  intro hred
  have hlast := h.lastRange_lt
  have hfew := h.few
  have hkMin := h.one_le
  have hsteps : 0 ≤ n * s := mul_nonneg (Int.natCast_nonneg n) (by linarith [h.step_pos])
  have hdepth : ((BitVec.ofNat 19 kMax.toNat).toNat : ℤ) = kMax :=
    toNat_ofNat_depth (by omega) h.kMax_lt
  have hdepth' : ((BitVec.ofNat 19 (kMax - 1).toNat).toNat : ℤ) = kMax - 1 :=
    toNat_ofNat_depth (by omega) (by linarith [h.kMax_lt])
  have hvalue : (tables size kMin s n).getProbability (BitVec.ofNat 19 kMax.toNat) = 255 := by
    rw [h.getProbability_eq, hdepth, valueAt_of_le (by omega) (by omega)]
    rfl
  have hvalue' :
      (tables size kMin s n).getProbability (BitVec.ofNat 19 (kMax - 1).toNat) = 255 := by
    rw [h.getProbability_eq, hdepth', valueAt_of_le (by omega) (by omega)]
    rfl
  have hone := hred.one _ hdepth.ge
  have hsame :
      (tables size kMin s n).markingProbability (BitVec.ofNat 19 (kMax - 1).toNat) = 1 := by
    rw [DcqcnTables.markingProbability, hvalue', ← hvalue]
    exact hone
  have hn : n = 255 := by
    have hle := hred.bounded _ (show _ < kMax by rw [hdepth']; omega)
    rw [hsame, hseed, le_div_iff₀ (by norm_num)] at hle
    have hge : (256 : ℤ) ≤ n + 1 := by exact_mod_cast hle
    omega
  subst hn
  exact last_not_mem size kMin s (mem_of_markingProbability_eq_one hvalue hone)

/-- **The installed tables never implement the RED profile**, whatever the thresholds and however
many entries the comparison table takes: the last range begins one step before `kMax`, so that
packets below `kMax` are always marked, too. -/
theorem red_profile_never {pMax : ℚ} (h : Thresholds kMin kMax pMax) (size : ℕ) :
    ¬ ∃ d, reconfigDcqcnEcnThreshold size kMin kMax pMax = some d ∧
      RedProfile d kMin kMax pMax := by
  obtain ⟨s, n, heq, hseed, hsteps⟩ := reconfig_eq size h
  rintro ⟨d, hd, hred⟩
  rw [heq, Option.some_inj] at hd
  exact hsteps.not_redProfile hseed (hd ▸ hred)

/-- The thresholds of the deployment. -/
lemma thresholds_deployed : Thresholds 1250 3000 (1 / 5) where
  one_le := by norm_num
  lt := by norm_num
  kMax_lt := by norm_num
  pMax_pos := by norm_num
  pMax_lt := by norm_num
  room := Int.ceil_le.mpr (by norm_num)

theorem red_profile_never_deployed :
    ¬ ∃ d, reconfigDcqcnEcnThreshold dcqcnCompareProbabilitySize 1250 3000 (1 / 5) = some d ∧
      RedProfile d 1250 3000 (1 / 5) :=
  red_profile_never thresholds_deployed dcqcnCompareProbabilitySize

/-- The last range begins at depth 2933, where a packet is marked as from depth 3000 on. -/
theorem always_marked_below_kMax : ∃ d,
    reconfigDcqcnEcnThreshold dcqcnCompareProbabilitySize 1250 3000 (1 / 5) = some d ∧
      d.markingProbability 2933 = 1 ∧ ⌈256 * (1 / 5 : ℚ)⌉ = 52 ∧
      ¬ RedProfile d 1250 3000 (1 / 5) := by
  have hceil : ⌈256 * (1 / 5 : ℚ)⌉ = 52 := by
    rw [Int.ceil_eq_iff]
    norm_num
  obtain ⟨s, n, heq, hseed, hsteps⟩ := reconfig_eq dcqcnCompareProbabilitySize thresholds_deployed
  have hn : n = 51 := by omega
  have hfit : Fits dcqcnCompareProbabilitySize n := by
    subst hn
    have hlength : (comparisonEntries ((51 : ℕ) + 1)).length = 1582 := by decide +kernel
    exact ⟨by decide, hlength.trans_le (by decide)⟩
  have hlast : 1250 + n * s ≤ 2933 := by
    have hroom := hsteps.room
    rw [hn] at hroom ⊢
    push_cast at hroom ⊢
    omega
  have hdepth : ((2933 : BitVec 19).toNat : ℤ) = 2933 := rfl
  have hone : (tables dcqcnCompareProbabilitySize 1250 s n).markingProbability 2933 = 1 :=
    ((marking_of_fits hsteps hfit).2 2933).2.2 (hlast.trans hdepth.ge)
  refine ⟨_, heq, hone, hceil, fun hred => ?_⟩
  have hle := hred.bounded 2933 (by rw [hdepth]; norm_num)
  rw [hone, hceil] at hle
  norm_num at hle

end LinkGuardian.Sender
