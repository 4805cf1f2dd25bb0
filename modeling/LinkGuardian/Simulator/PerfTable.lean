import LinkGuardian.Library.Closest
import LinkGuardian.Simulator.Solutions
import Mathlib.Tactic.NormNum.OfScientific

/-!
# The performance table

`lg_100g_perf.json` gives a range of loss rates for each of its measurements, and the range's ends
leave no doubt which measurement a loss rate has. The lookup does not read them: it takes the
measurement whose tested loss rate is linearly the closest. The tested loss rates lie near the
upper ends of their ranges, so the lower part of a range is closer to the measurement before it.
-/

namespace LinkGuardian.Simulator

open Closest

/-- An entry of `perf_data`. -/
structure PerfEntry where
  lossRateStart : ℚ
  lossRateEnd : ℚ
  mappedLossRate : ℚ
  effectiveLossRate : ℚ
  effectiveCapacity : ℚ

namespace PerfEntry

/-- What the lookup returns for this entry. -/
def perf (entry : PerfEntry) : ℚ × ℚ := (entry.effectiveLossRate, entry.effectiveCapacity)

/-- The loss rates that the file assigns to this entry. -/
def InRange (entry : PerfEntry) (lossRate : ℚ) : Prop :=
  entry.lossRateStart ≤ lossRate ∧ lossRate ≤ entry.lossRateEnd

end PerfEntry

namespace LinkGuardianSolution

/-- Write a key of `loss_rate_to_perf`; one that is there already keeps its place. -/
def setPerf (lossRate : ℚ) (perf : ℚ × ℚ) : List (ℚ × ℚ × ℚ) → List (ℚ × ℚ × ℚ)
  | [] => [(lossRate, perf)]
  | entry :: table =>
    if entry.1 = lossRate then (lossRate, perf) :: table
    else entry :: setPerf lossRate perf table

/-- `__init__`, on the entries of the file -/
def new (perfData : List PerfEntry) : LinkGuardianSolution where
  lossRateToPerf := perfData.foldl (fun table entry =>
    setPerf entry.mappedLossRate (entry.effectiveLossRate, entry.effectiveCapacity) table) []

/-- A new key goes to the end. -/
lemma setPerf_of_notMem {lossRate : ℚ} {perf : ℚ × ℚ} {table : List (ℚ × ℚ × ℚ)}
    (h : lossRate ∉ table.map (·.1)) :
    setPerf lossRate perf table = table ++ [(lossRate, perf)] := by
  induction table with
  | nil => simp [setPerf]
  | cons entry table ih =>
    simp only [List.map_cons, List.mem_cons, not_or] at h
    rw [setPerf, if_neg (Ne.symm h.1), ih h.2, List.cons_append]

/-- With distinct tested loss rates the table is the file's, entry by entry. -/
lemma lossRateToPerf_new {perfData : List PerfEntry}
    (h : (perfData.map (·.mappedLossRate)).Nodup) :
    (new perfData).lossRateToPerf =
      perfData.map fun entry => (entry.mappedLossRate, entry.perf) := by
  induction perfData using List.reverseRecOn with
  | nil => simp [new]
  | append_singleton perfData entry ih =>
    rw [List.map_append, List.nodup_append] at h
    have hrest := ih h.1
    have hnew : entry.mappedLossRate ∉ (new perfData).lossRateToPerf.map (·.1) := by
      rw [hrest, List.map_map]
      exact fun hmem => h.2.2 _ hmem _ (by simp) rfl
    calc (new (perfData ++ [entry])).lossRateToPerf
        = setPerf entry.mappedLossRate entry.perf (new perfData).lossRateToPerf := by
          simp [new, PerfEntry.perf]
      _ = (new perfData).lossRateToPerf ++ [(entry.mappedLossRate, entry.perf)] :=
          setPerf_of_notMem hnew
      _ = _ := by simp [hrest]

/-! ## The lookup is a scan for the closest key -/

variable {sol : LinkGuardianSolution} {x : ℚ} {a b : ℚ × ℚ × ℚ} {table : List (ℚ × ℚ × ℚ)}

lemma foldl_eq_closest (x : ℚ) (best : ℚ × ℚ × ℚ) (table : List (ℚ × ℚ × ℚ)) :
    table.foldl (fun (minDistance, closest) entry =>
      if |x - entry.1| < minDistance then (|x - entry.1|, some entry.2)
      else (minDistance, closest)) (|x - best.1|, some best.2) =
    (|x - (closest x best table).1|, some (closest x best table).2) := by
  induction table generalizing best with
  | nil => simp
  | cons entry table ih =>
    simp only [List.foldl_cons, closest_cons, closer]
    split
    · exact ih entry
    · exact ih best

/-- Any tested loss rate replaces the initial distance. -/
lemma getEffectiveLossRateCapacity_eq (htable : sol.lossRateToPerf = a :: table)
    (hx : |x - a.1| < maxsize) :
    sol.getEffectiveLossRateCapacity x = some (closest x a table).2 := by
  rw [getEffectiveLossRateCapacity, htable, List.foldl_cons]
  simp only [if_pos hx]
  rw [foldl_eq_closest]

end LinkGuardianSolution

/-! ## The shipped table -/

/-- `lg_100g_perf.json` -/
def lg100gPerf : List PerfEntry := [
  { lossRateStart := 1e-8, lossRateEnd := 4.99e-5, mappedLossRate := 1.43e-5
    effectiveLossRate := 5.97e-10, effectiveCapacity := 98.76 },
  { lossRateStart := 5e-5, lossRateEnd := 9.99e-5, mappedLossRate := 9.16e-5
    effectiveLossRate := 7.56e-9, effectiveCapacity := 98.74 },
  { lossRateStart := 1e-4, lossRateEnd := 1.20e-3, mappedLossRate := 1.16e-3
    effectiveLossRate := 1.29e-9, effectiveCapacity := 90.88 },
  { lossRateStart := 1.21e-3, lossRateEnd := 1e-2, mappedLossRate := 1e-2
    effectiveLossRate := 1e-8, effectiveCapacity := 60 }]

namespace LinkGuardianSolution

lemma new_lg100gPerf : (new lg100gPerf).lossRateToPerf =
    [(1.43e-5, 5.97e-10, 98.76), (9.16e-5, 7.56e-9, 98.74), (1.16e-3, 1.29e-9, 90.88),
      (1e-2, 1e-8, 60)] := by
  have hdistinct : (lg100gPerf.map (·.mappedLossRate)).Nodup := by
    simp only [lg100gPerf, List.map_cons, List.map_nil]
    norm_num
  rw [lossRateToPerf_new hdistinct]
  simp [lg100gPerf, PerfEntry.perf]

/-- The lookup in the shipped table: the middles between tested loss rates decide. -/
lemma getEffectiveLossRateCapacity_lg100gPerf (h₀ : 0 ≤ x) (h₁ : x ≤ 1) :
    (new lg100gPerf).getEffectiveLossRateCapacity x = some (
      if x ≤ 5.295e-5 then (5.97e-10, 98.76)
      else if x ≤ 6.258e-4 then (7.56e-9, 98.74)
      else if x ≤ 5.58e-3 then (1.29e-9, 90.88)
      else (1e-8, 60)) := by
  have hfirst : |x - 1.43e-5| < maxsize := by
    rw [maxsize, abs_sub_lt_iff]
    constructor <;> norm_num <;> linarith
  rw [getEffectiveLossRateCapacity_eq new_lg100gPerf hfirst, closest_of_increasing (by norm_num),
    closest_of_increasing (by norm_num), closest_of_increasing (by norm_num), closest_nil]
  have hmiddle₁ : x + x ≤ 1.43e-5 + 9.16e-5 ↔ x ≤ 5.295e-5 := by
    constructor <;> intro h <;> norm_num at h ⊢ <;> linarith
  have hmiddle₂ : x + x ≤ 9.16e-5 + 1.16e-3 ↔ x ≤ 6.258e-4 := by
    constructor <;> intro h <;> norm_num at h ⊢ <;> linarith
  have hmiddle₃ : x + x ≤ 1.16e-3 + 1e-2 ↔ x ≤ 5.58e-3 := by
    constructor <;> intro h <;> norm_num at h ⊢ <;> linarith
  simp only [hmiddle₁, hmiddle₂, hmiddle₃]
  split_ifs <;> simp

end LinkGuardianSolution

/-! ## Ranges and lookup -/

/-- The lower parts of the ranges after the first, up to the middle between the tested loss rates
of the range and of the range before. -/
def misreadRates : List (ℚ × ℚ) := [(5e-5, 5.295e-5), (1e-4, 6.258e-4), (1.21e-3, 5.58e-3)]

def Misread (lossRate : ℚ) : Prop :=
  ∃ part ∈ misreadRates, part.1 ≤ lossRate ∧ lossRate ≤ part.2

lemma misread_iff {x : ℚ} : Misread x ↔
    (5e-5 ≤ x ∧ x ≤ 5.295e-5) ∨ (1e-4 ≤ x ∧ x ≤ 6.258e-4) ∨ (1.21e-3 ≤ x ∧ x ≤ 5.58e-3) := by
  simp [Misread, misreadRates]

/-- **Ranges and lookup agree except on the misread rates**, for every entry of the shipped table
and every loss rate in its range.  The middles between two tested loss rates, where `Misread` begins
and ends, are ties of exact decimals; of the three the code, which subtracts floats, decides the one
at 6.258e-4 for the right entry. -/
theorem lookup_respects_range_iff {entry : PerfEntry} {x : ℚ} (hentry : entry ∈ lg100gPerf)
    (hx : entry.InRange x) :
    (LinkGuardianSolution.new lg100gPerf).getEffectiveLossRateCapacity x = some entry.perf ↔
      ¬ Misread x := by
  have hbounds : 0 ≤ x ∧ x ≤ 1 := by
    obtain ⟨hstart, hend⟩ := hx
    simp only [lg100gPerf, List.mem_cons, List.not_mem_nil, or_false] at hentry
    rcases hentry with rfl | rfl | rfl | rfl <;> norm_num at hstart hend <;>
      constructor <;> linarith
  rw [LinkGuardianSolution.getEffectiveLossRateCapacity_lg100gPerf hbounds.1 hbounds.2,
    Option.some_inj, misread_iff]
  obtain ⟨hstart, hend⟩ := hx
  simp only [lg100gPerf, List.mem_cons, List.not_mem_nil, or_false] at hentry
  -- one of the middles cuts each range but the first, and only the part below it is misread
  rcases hentry with rfl | rfl | rfl | rfl <;>
    norm_num [PerfEntry.perf] at hstart hend ⊢ <;> grind

theorem lookup_respects_range_at :
    (LinkGuardianSolution.new lg100gPerf).getEffectiveLossRateCapacity 1e-3 =
      some (1.29e-9, 90.88) := by
  have hentry : lg100gPerf[2] ∈ lg100gPerf := by simp [lg100gPerf]
  refine (lookup_respects_range_iff hentry ?_).mpr ?_
  · norm_num [lg100gPerf, PerfEntry.InRange]
  · norm_num [misread_iff]

/-- At twice its start the third range gets the measurement of the second. -/
theorem lookup_misreads : ∃ entry ∈ lg100gPerf, entry.InRange 2e-4 ∧
    entry.perf = (1.29e-9, 90.88) ∧
    (LinkGuardianSolution.new lg100gPerf).getEffectiveLossRateCapacity 2e-4 =
      some (7.56e-9, 98.74) ∧
    (LinkGuardianSolution.new lg100gPerf).getEffectiveLossRateCapacity 2e-4 ≠ some entry.perf := by
  have hlookup := LinkGuardianSolution.getEffectiveLossRateCapacity_lg100gPerf
    (x := 2e-4) (by norm_num) (by norm_num)
  refine ⟨lg100gPerf[2], by simp [lg100gPerf], ?_, by simp [lg100gPerf, PerfEntry.perf], ?_, ?_⟩
  · norm_num [lg100gPerf, PerfEntry.InRange]
  · rw [hlookup]
    norm_num
  · rw [hlookup]
    norm_num [lg100gPerf, PerfEntry.perf]

end LinkGuardian.Simulator
