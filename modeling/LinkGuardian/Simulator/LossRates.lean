import LinkGuardian.Library.Tiling
import Mathlib.Data.List.Induction
import Mathlib.Data.Rat.Floor
import Mathlib.Tactic.FieldSimp
import Mathlib.Tactic.Linarith
import Mathlib.Tactic.NormNum

/-!
# The loss rate generator

`LossRateGenerator` of the trace generator: the loss rate buckets of a distribution get value
ranges that are closed at both ends, one hundredth apart, and `generate` looks for the range of a
rounded draw.  Percentages are exact.
-/

namespace LinkGuardian.Simulator

/-! ## Rounding -/

/-- `round(x)`, ties to even -/
def roundHalfEven (x : ℚ) : ℤ :=
  if x - ⌊x⌋ < 1 / 2 then ⌊x⌋
  else if 1 / 2 < x - ⌊x⌋ then ⌊x⌋ + 1
  else if ⌊x⌋ % 2 = 0 then ⌊x⌋ else ⌊x⌋ + 1

/-- `round(x, places)` -/
def roundTo (x : ℚ) (places : ℕ) : ℚ := roundHalfEven (x * 10 ^ places) / 10 ^ places

lemma roundHalfEven_intCast (n : ℤ) : roundHalfEven n = n := by simp [roundHalfEven]

lemma floor_le_roundHalfEven (x : ℚ) : ⌊x⌋ ≤ roundHalfEven x := by
  unfold roundHalfEven
  split_ifs <;> omega

lemma roundHalfEven_le_ceil (x : ℚ) : roundHalfEven x ≤ ⌈x⌉ := by
  have hup : 1 / 2 ≤ x - ⌊x⌋ → ⌊x⌋ + 1 ≤ ⌈x⌉ := by
    intro h
    rw [Int.add_one_le_iff, Int.lt_ceil]
    linarith
  unfold roundHalfEven
  split_ifs with hdown hmore
  · exact Int.floor_le_ceil x
  · exact hup hmore.le
  · exact Int.floor_le_ceil x
  · exact hup (not_lt.mp hdown)

lemma roundTo_hundredths (n : ℤ) : roundTo (n / 100) 2 = n / 100 := by
  have hscaled : (n / 100 : ℚ) * 10 ^ 2 = n := by norm_num
  rw [roundTo, hscaled, roundHalfEven_intCast]
  norm_num

/-- A rounded number between 0 and 100 is one of `0.00`, `0.01`, ..., `100.00`. -/
lemma exists_roundTo {x : ℚ} (h₀ : 0 ≤ x) (h₁ : x ≤ 100) :
    ∃ k : ℕ, k ≤ 10000 ∧ roundTo x 2 = k / 100 := by
  have hlow : 0 ≤ roundHalfEven (x * 10 ^ 2) :=
    (Int.floor_nonneg.mpr (by linarith)).trans (floor_le_roundHalfEven _)
  have hhigh : roundHalfEven (x * 10 ^ 2) ≤ 10000 :=
    (roundHalfEven_le_ceil _).trans (Int.ceil_le.mpr (by push_cast; linarith))
  obtain ⟨k, hk⟩ := Int.eq_ofNat_of_zero_le hlow
  refine ⟨k, by omega, ?_⟩
  rw [roundTo, hk]
  norm_num

/-! ## The generator -/

def fractionDecimalPlaces : ℕ := 2

def percentFractionGranularity : ℚ :=
  roundTo (1 / 10 ^ fractionDecimalPlaces) fractionDecimalPlaces

/-- An entry of the distribution. -/
structure Bucket where
  lossRateStart : ℚ
  lossRateEnd : ℚ
  percentFraction : ℚ

/-- Write a key of a dictionary, which lists its keys as they came. -/
def setItem {κ β : Type} [DecidableEq κ] (dict : List (κ × β)) (key : κ) (value : β) :
    List (κ × β) :=
  if key ∈ dict.map Prod.fst then dict.map fun item => if item.1 = key then (key, value) else item
  else dict ++ [(key, value)]

/-- A new key goes to the end. -/
lemma setItem_of_notMem {κ β : Type} [DecidableEq κ] {dict : List (κ × β)} {key : κ} {value : β}
    (h : key ∉ dict.map Prod.fst) : setItem dict key value = dict ++ [(key, value)] := if_neg h

structure LossRateGenerator where
  /-- the loss rates for each range of values -/
  distDict : List ((ℚ × ℚ) × (ℚ × ℚ)) := []
  distPdf : List ((ℚ × ℚ) × ℚ) := []

namespace LossRateGenerator

/-- One bucket more, when the ranges reach up to `currVal`. -/
def addBucket (state : ℚ × LossRateGenerator) (bucket : Bucket) : ℚ × LossRateGenerator :=
  let (currVal, gen) := state
  let newVal := bucket.percentFraction
  let valRangeStart :=
    -- the first range starts at 0, any other one a hundredth above the end of the one before
    if currVal = 0 then currVal
    else roundTo (currVal + percentFractionGranularity) fractionDecimalPlaces
  let valRangeEnd := roundTo (currVal + newVal) fractionDecimalPlaces
  let lossRateBucket := (bucket.lossRateStart, bucket.lossRateEnd)
  (valRangeEnd,
    { distDict := setItem gen.distDict (valRangeStart, valRangeEnd) lossRateBucket
      distPdf := setItem gen.distPdf lossRateBucket newVal })

/-- `__init__`, on the distribution of the file -/
def new (distribution : List Bucket) : LossRateGenerator := (distribution.foldl addBucket (0, {})).2

/-- The value ranges, in the order of the lookup. -/
def valRanges (gen : LossRateGenerator) : List (ℚ × ℚ) := gen.distDict.map Prod.fst

/-- `random.uniform(a, b)`, when the random number between 0 and 1 is `u` -/
def uniform (a b u : ℚ) : ℚ := a + (b - a) * u

/-- A loss rate; `none` is the failed assertion. -/
def generate (gen : LossRateGenerator) (u v : ℚ) : Option ℚ := do
  let randNumber := roundTo (uniform 0 100 u) 2
  let randNumValRange ← gen.valRanges.find? fun valRange =>
    valRange.1 ≤ randNumber ∧ randNumber ≤ valRange.2
  let item ← gen.distDict.find? fun item => item.1 = randNumValRange
  return uniform item.2.1 item.2.2 v

/-- What a distribution promises.  Hundredths are exact decimals, which a rounded draw can be
compared with. -/
structure IsDistribution (distribution : List Bucket) : Prop where
  positive : ∀ bucket ∈ distribution, 0 < bucket.percentFraction
  hundredths : ∀ bucket ∈ distribution, ∃ n : ℤ, bucket.percentFraction = n / 100
  total : (distribution.map Bucket.percentFraction).sum = 100

/-! ## The ranges in hundredths -/

/-- Where the next range starts when the ranges reach up to `n` hundredths. -/
def nextStart (n : ℤ) : ℤ := if n = 0 then 0 else n + 1

/-- The ranges of the buckets that have been added, in hundredths; they reach up to `n`. -/
structure Ranges (state : ℚ × LossRateGenerator) (n : ℤ) (ranges : List (ℤ × ℤ)) : Prop where
  currVal : state.1 = n / 100
  keys : state.2.valRanges = ranges.map fun r => ((r.1 / 100 : ℚ), (r.2 / 100 : ℚ))
  tiling : Tiling 0 (ranges.map fun r => (r.1, r.2 + 1)) (nextStart n)

lemma granularity_eq : percentFractionGranularity = 1 / 100 := by
  have h := roundTo_hundredths 1
  rw [Int.cast_one] at h
  rw [percentFractionGranularity, fractionDecimalPlaces,
    show (1 : ℚ) / 10 ^ 2 = 1 / 100 by norm_num]
  exact h

/-- **Step lemma**: the new range starts where the ranges so far end. -/
lemma Ranges.addBucket {state : ℚ × LossRateGenerator} {n m : ℤ} {ranges : List (ℤ × ℤ)}
    {bucket : Bucket} (h : Ranges state n ranges) (hn : 0 ≤ n) (hm : 0 < m)
    (hbucket : bucket.percentFraction = m / 100) :
    Ranges (addBucket state bucket) (n + m) (ranges ++ [(nextStart n, n + m)]) := by
  have hstart : (if state.1 = 0 then state.1
      else roundTo (state.1 + percentFractionGranularity) fractionDecimalPlaces) =
        (nextStart n / 100 : ℚ) := by
    rw [h.currVal, nextStart, granularity_eq]
    by_cases h0 : n = 0
    · simp [h0]
    · have hne : (n / 100 : ℚ) ≠ 0 := by simp [h0]
      have hsum : (n / 100 + 1 / 100 : ℚ) = ((n + 1 : ℤ) : ℚ) / 100 := by push_cast; ring
      rw [if_neg hne, if_neg h0, hsum]
      exact roundTo_hundredths (n + 1)
  have hend : roundTo (state.1 + bucket.percentFraction) fractionDecimalPlaces =
      ((n + m : ℤ) : ℚ) / 100 := by
    have hsum : (n / 100 + m / 100 : ℚ) = ((n + m : ℤ) : ℚ) / 100 := by push_cast; ring
    rw [h.currVal, hbucket, hsum]
    exact roundTo_hundredths (n + m)
  have hlt : nextStart n < n + m + 1 := by
    unfold nextStart
    split_ifs <;> omega
  have hnew : ((nextStart n / 100 : ℚ), (((n + m : ℤ) : ℚ) / 100)) ∉ state.2.valRanges := by
    rw [h.keys]
    intro hmem
    obtain ⟨r, hr, heq⟩ := List.mem_map.mp hmem
    have hsame : r.1 = nextStart n := by
      have hdiv := (Prod.mk.injEq _ _ _ _ ▸ heq).1
      exact_mod_cast (div_left_inj' (by norm_num : (100 : ℚ) ≠ 0)).mp hdiv
    have hlt := h.tiling.nonempty _ (List.mem_map_of_mem hr)
    have hle := (h.tiling.within _ (List.mem_map_of_mem hr)).2
    omega
  refine ⟨hend, ?_, ?_⟩
  · show (setItem _ _ _).map Prod.fst = _
    rw [hstart, hend, setItem_of_notMem hnew, List.map_append, List.map_append]
    exact congrArg (· ++ _) h.keys
  · have hreach : nextStart (n + m) = n + m + 1 := if_neg (by omega)
    rw [List.map_append, hreach]
    exact h.tiling.concat hlt

/-- The ranges of all buckets together. -/
lemma exists_ranges {distribution : List Bucket}
    (hpos : ∀ bucket ∈ distribution, 0 < bucket.percentFraction)
    (hhundredths : ∀ bucket ∈ distribution, ∃ n : ℤ, bucket.percentFraction = n / 100) :
    ∃ (n : ℤ) (ranges : List (ℤ × ℤ)), 0 ≤ n ∧
      (n / 100 : ℚ) = (distribution.map Bucket.percentFraction).sum ∧
      Ranges (distribution.foldl LossRateGenerator.addBucket (0, {})) n ranges := by
  induction distribution using List.reverseRecOn with
  | nil => exact ⟨0, [], le_rfl, by simp, ⟨by simp, rfl, .nil 0⟩⟩
  | append_singleton distribution bucket ih =>
    have hlast : bucket ∈ distribution ++ [bucket] :=
      List.mem_append_right _ (List.mem_singleton_self bucket)
    obtain ⟨n, ranges, hn, hsum, hranges⟩ := ih
      (fun b hb => hpos b (List.mem_append_left _ hb))
      fun b hb => hhundredths b (List.mem_append_left _ hb)
    obtain ⟨m, hm⟩ := hhundredths bucket hlast
    have hmpos : 0 < m := by
      have h := hpos bucket hlast
      rw [hm] at h
      exact_mod_cast (div_pos_iff_of_pos_right (by norm_num : (0 : ℚ) < 100)).mp h
    refine ⟨n + m, ranges ++ [(nextStart n, n + m)], by omega, ?_, ?_⟩
    · rw [List.map_append, List.sum_append, ← hsum, List.map_singleton, List.sum_singleton, hm]
      push_cast
      ring
    · rw [List.foldl_append]
      exact hranges.addBucket hn hmpos hm

/-- Hundredths are in a range exactly when their number is. -/
lemma in_range_iff (r : ℤ × ℤ) (k : ℕ) :
    ((r.1 / 100 : ℚ) ≤ k / 100 ∧ (k / 100 : ℚ) ≤ r.2 / 100) ↔ r.1 ≤ k ∧ (k : ℤ) < r.2 + 1 := by
  rw [div_le_div_iff_of_pos_right (by norm_num), div_le_div_iff_of_pos_right (by norm_num),
    Int.lt_add_one_iff]
  norm_cast

lemma Ranges.disjoint {state : ℚ × LossRateGenerator} {n : ℤ} {ranges : List (ℤ × ℤ)}
    (h : Ranges state n ranges) : state.2.valRanges.Pairwise fun r r' =>
      ∀ x, r.1 ≤ x ∧ x ≤ r.2 → ¬ (r'.1 ≤ x ∧ x ≤ r'.2) := by
  rw [h.keys, List.pairwise_map]
  refine (List.pairwise_map.mp h.tiling.pairwise).imp fun {r r'} hle x hx hx' => ?_
  have hlt : (r.2 / 100 : ℚ) < r'.1 / 100 := by
    rw [div_lt_div_iff_of_pos_right (by norm_num)]
    exact_mod_cast hle
  exact absurd (hx'.1.trans hx.2) (not_le.mpr hlt)

lemma Ranges.existsUnique {state : ℚ × LossRateGenerator} {n : ℤ} {ranges : List (ℤ × ℤ)}
    (h : Ranges state n ranges) {k : ℕ} (hk : (k : ℤ) < nextStart n) :
    ∃! r, r ∈ state.2.valRanges ∧ r.1 ≤ (k / 100 : ℚ) ∧ (k / 100 : ℚ) ≤ r.2 := by
  obtain ⟨_, htile, hin⟩ := h.tiling.exists_mem (Int.natCast_nonneg k) hk
  obtain ⟨r, hr, rfl⟩ := List.mem_map.mp htile
  rw [h.keys]
  refine ⟨_, ⟨List.mem_map_of_mem hr, (in_range_iff r k).mpr hin⟩, ?_⟩
  rintro _ ⟨hkey, hin'⟩
  obtain ⟨r', hr', rfl⟩ := List.mem_map.mp hkey
  rw [h.tiling.unique hr' hr ((in_range_iff r' k).mp hin') hin]

/-- The lookup finds a range when there is one. -/
lemma isSome_generate {gen : LossRateGenerator} {u v : ℚ}
    (h : ∃ r ∈ gen.valRanges, r.1 ≤ roundTo (uniform 0 100 u) 2 ∧
      roundTo (uniform 0 100 u) 2 ≤ r.2) : (gen.generate u v).isSome := by
  obtain ⟨r, hr, hin⟩ := h
  have hsome : (gen.valRanges.find? fun valRange => valRange.1 ≤ roundTo (uniform 0 100 u) 2 ∧
      roundTo (uniform 0 100 u) 2 ≤ valRange.2).isSome :=
    List.find?_isSome.mpr ⟨r, hr, decide_eq_true hin⟩
  obtain ⟨valRange, hfind⟩ := Option.isSome_iff_exists.mp hsome
  obtain ⟨item, hitem, hkey⟩ := List.mem_map.mp (List.mem_of_find?_eq_some hfind)
  have hsome' : (gen.distDict.find? fun item => item.1 = valRange).isSome :=
    List.find?_isSome.mpr ⟨item, hitem, decide_eq_true hkey⟩
  obtain ⟨item', hfind'⟩ := Option.isSome_iff_exists.mp hsome'
  refine Option.isSome_iff_exists.mpr ⟨uniform item'.2.1 item'.2.2 v, ?_⟩
  exact Option.bind_eq_some_iff.mpr
    ⟨valRange, hfind, Option.bind_eq_some_iff.mpr ⟨item', hfind', rfl⟩⟩

/-- **The ranges partition the draws**: they are disjoint, each rounded draw is in exactly one of
them, and the lookup does not fail. -/
theorem ranges_partition_draws {distribution : List Bucket} (h : IsDistribution distribution) :
    ((new distribution).valRanges.Pairwise fun r r' =>
      ∀ x, r.1 ≤ x ∧ x ≤ r.2 → ¬ (r'.1 ≤ x ∧ x ≤ r'.2)) ∧
    (∀ k : ℕ, k ≤ 10000 → ∃! r, r ∈ (new distribution).valRanges ∧
      r.1 ≤ (k / 100 : ℚ) ∧ (k / 100 : ℚ) ≤ r.2) ∧
    ∀ u v : ℚ, 0 ≤ u → u ≤ 1 → ((new distribution).generate u v).isSome := by
  obtain ⟨n, ranges, -, hsum, hranges⟩ := exists_ranges h.positive h.hundredths
  have hn : n = 10000 := by
    rw [h.total, div_eq_iff (by norm_num)] at hsum
    exact_mod_cast hsum
  have hunique : ∀ k : ℕ, k ≤ 10000 → ∃! r, r ∈ (new distribution).valRanges ∧
      r.1 ≤ (k / 100 : ℚ) ∧ (k / 100 : ℚ) ≤ r.2 := fun k hk =>
    hranges.existsUnique (by rw [hn, nextStart, if_neg (by decide)]; omega)
  refine ⟨hranges.disjoint, hunique, fun u v h₀ h₁ => ?_⟩
  have hdraw : uniform 0 100 u = 100 * u := by rw [uniform]; ring
  obtain ⟨k, hk, hround⟩ := exists_roundTo (x := uniform 0 100 u) (by linarith) (by linarith)
  obtain ⟨r, ⟨hr, hin⟩, -⟩ := hunique k hk
  exact isSome_generate ⟨r, hr, hround ▸ hin⟩

/-- The distribution that the trace generator comes with. -/
def lossRatesDistCorropt : List Bucket :=
  [⟨1 / 10 ^ 8, 9 / 10 ^ 6, 47.23⟩, ⟨1 / 10 ^ 5, 99 / 10 ^ 6, 18.43⟩,
    ⟨1 / 10 ^ 4, 999 / 10 ^ 6, 21.67⟩, ⟨1 / 10 ^ 3, 1 / 10 ^ 2, 12.67⟩]

lemma isDistribution_corropt : IsDistribution lossRatesDistCorropt where
  positive := by
    simp only [lossRatesDistCorropt, List.forall_mem_cons]
    norm_num
  hundredths := by
    simp only [lossRatesDistCorropt, List.forall_mem_cons]
    refine ⟨⟨4723, ?_⟩, ⟨1843, ?_⟩, ⟨2167, ?_⟩, ⟨1267, ?_⟩, fun b hb => absurd hb List.not_mem_nil⟩
    all_goals norm_num
  total := by norm_num [lossRatesDistCorropt]

theorem ranges_partition_draws_corropt :
    (∃! r, r ∈ (new lossRatesDistCorropt).valRanges ∧
      r.1 ≤ ((4723 : ℕ) / 100 : ℚ) ∧ ((4723 : ℕ) / 100 : ℚ) ≤ r.2) ∧
    ((new lossRatesDistCorropt).generate (1 / 2) (1 / 4)).isSome := by
  obtain ⟨-, hunique, hfound⟩ := ranges_partition_draws isDistribution_corropt
  exact ⟨hunique 4723 (by decide), hfound (1 / 2) (1 / 4) (by norm_num) (by norm_num)⟩

end LossRateGenerator

end LinkGuardian.Simulator
