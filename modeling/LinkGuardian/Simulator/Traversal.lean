import LinkGuardian.Simulator.Builders
import LinkGuardian.Simulator.Wiring

/-!
# Traversing the graph

The traversal of a wired fabric from a ToR finds each path of the two-tier network once: a link
up to an agg and a link on to a core switch.
-/

namespace LinkGuardian.Simulator

open Removal

namespace Fabric

variable {f : Fabric}

/-- The switch at the other end of a link. -/
def opposite (f : Fabric) (sw l : ℕ) : ℕ := if f.outer l = sw then f.agg l else f.outer l

lemma edgeOf_eq_opposite {l sw : ℕ} (h : f.Ends l sw) :
    f.edgeOf l = s(sw, f.opposite sw l) := by
  show s(f.outer l, f.agg l) = _
  unfold opposite
  split
  · next ho => rw [ho]
  · next ho => rw [h.resolve_left ho, Sym2.eq_swap]

/-- The graph and the lists of switches agree with the links.  The wiring is what the tables of the
fabric say; this is that `networkx` says the same. -/
structure Charted (f : Fabric) : Prop where
  id : ∀ l ∈ f.links, (f.edges (f.edgeOf l)).id = l
  neighbors : ∀ sw, f.neighbors sw = (f.linksAt sw).map (f.opposite sw)
  nodup : ∀ type, (f.switchTypewiseList type).Nodup
  mem_switchTypewiseList : ∀ type sw,
    sw ∈ f.switchTypewiseList type ↔ sw < f.globalSwitchId ∧ f.getSwitchType sw = type

/-- The neighbours with a property that only one switch has. -/
lemma flatMap_filter_map {α : Type} {xs : List ℕ} {g : ℕ → ℕ} {p : ℕ → Bool} {c : ℕ} {w : α}
    (hp : p c = true) : ((xs.map g).filter p).flatMap (fun y => if y = c then [w] else []) =
      (xs.filter (g · = c)).map fun _ => w := by
  induction xs with
  | nil => rfl
  | cons x xs ih =>
    rw [List.map_cons, List.filter_cons, List.filter_cons]
    by_cases hx : g x = c
    · rw [hx, hp, if_pos rfl, List.flatMap_cons, if_pos rfl, ih, if_pos (decide_eq_true rfl)]
      rfl
    · rw [if_neg (show ¬ decide (g x = c) = true by simpa using hx), ← ih]
      split
      · rw [List.flatMap_cons, if_neg hx, List.nil_append]
      · rfl

section Traversal

variable (hw : f.Wired) (hc : f.Charted)
include hw

/-- The links of a ToR all lead up to aggs. -/
lemma torAgg_of_mem_linksAt {t l : ℕ} (ht : f.getSwitchType t = .TOR) (hl : l ∈ f.linksAt t) :
    l ∈ f.tiers.low t := by
  obtain ⟨hl, hends⟩ := mem_linksAt.mp hl
  rcases hends with ho | ha
  · refine mem_low.mpr ⟨⟨hl, ?_⟩, ho⟩
    have htype := hw.outer_type l hl
    rw [ho, ht] at htype
    cases hlt : f.getLinkType l with
    | TOR_AGG => rfl
    | AGG_CORE => rw [hlt] at htype; cases htype
  · have htype := hw.agg_type l hl
    rw [ha, ht] at htype
    cases htype

lemma aggCore_of_mem_linksAt {a c l : ℕ} (hcore : f.getSwitchType c = .CORE)
    (hl : l ∈ f.linksAt a) (heq : f.opposite a l = c) :
    l ∈ f.tiers.up a ∧ f.outer l = c := by
  obtain ⟨hl, hends⟩ := mem_linksAt.mp hl
  have hagg : f.agg l = a := by
    rcases hends with ho | hagg
    · rw [opposite, if_pos ho] at heq
      have htype := hw.agg_type l hl
      rw [heq, hcore] at htype
      cases htype
    · exact hagg
  have houter : f.outer l = c := by
    rw [opposite, if_neg (hagg ▸ hw.outer_ne_agg hl hl)] at heq
    exact heq
  refine ⟨mem_up.mpr ⟨⟨hl, ?_⟩, hagg⟩, houter⟩
  have htype := hw.outer_type l hl
  rw [houter, hcore] at htype
  cases hlt : f.getLinkType l with
  | TOR_AGG => rw [hlt] at htype; cases htype
  | AGG_CORE => rfl

include hc in
/-- Two hops lead from a ToR over an agg to a core switch. -/
lemma allSimplePaths_eq {t c : ℕ} (ht : f.getSwitchType t = .TOR)
    (hcore : f.getSwitchType c = .CORE) : allSimplePaths f.neighbors c 2 [] t =
      (f.linksAt t).flatMap fun l =>
        ((f.linksAt (f.agg l)).filter (f.opposite (f.agg l) · = c)).map fun _ =>
          [t, f.agg l, c] := by
  have hlow : ∀ l ∈ f.linksAt t, l ∈ f.tiers.low t := fun l hl =>
    torAgg_of_mem_linksAt hw ht hl
  have hagg : ∀ l ∈ f.linksAt t, f.getSwitchType (f.agg l) = .AGG := fun l hl =>
    hw.agg_type l (mem_low.mp (hlow l hl)).1.1
  have hopp : ∀ l ∈ f.linksAt t, f.opposite t l = f.agg l := fun l hl =>
    if_pos (mem_low.mp (hlow l hl)).2
  have hct : c ≠ t := fun h => by rw [h, ht] at hcore; cases hcore
  have hcagg : ∀ l ∈ f.linksAt t, f.agg l ≠ c := fun l hl h => by
    have := hagg l hl
    rw [h, hcore] at this
    cases this
  -- no agg is its own ToR, so the visited switches exclude nothing here
  have hneighbors : (f.neighbors t).filter (· ∉ [t]) = (f.linksAt t).map f.agg := by
    rw [hc.neighbors t, List.map_congr_left hopp, List.filter_eq_self]
    intro a ha
    obtain ⟨l, hl, rfl⟩ := List.mem_map.mp ha
    have hne : f.agg l ≠ t := fun h => by
      have := hagg l hl
      rw [h, ht] at this
      cases this
    simpa using hne
  show ((f.neighbors t).filter (· ∉ [t])).flatMap _ = _
  rw [hneighbors, List.flatMap_map]
  refine List.flatMap_congr fun l hl => ?_
  rw [if_neg (hcagg l hl)]
  show (((f.neighbors (f.agg l)).filter (· ∉ [f.agg l, t])).flatMap fun next =>
    if next = c then [[f.agg l, c]] else []).map (t :: ·) = _
  rw [hc.neighbors, flatMap_filter_map (by simpa using ⟨Ne.symm (hcagg l hl), hct⟩), List.map_map]
  rfl

omit hw in
include hc in
/-- The link IDs along the two hops are those of the links that were taken, as the graph finds a
link by its switches. -/
lemma linkPath_eq {t c l m : ℕ} (hl : l ∈ f.tiers.low t) (hm : m ∈ f.tiers.up (f.agg l))
    (houter : f.outer m = c) : f.linkPath [t, f.agg l, c] = [l, m] := by
  obtain ⟨⟨hl, -⟩, ht⟩ := mem_low.mp hl
  obtain ⟨⟨hm, -⟩, ha⟩ := mem_up.mp hm
  have hlow : s(t, f.agg l) = f.edgeOf l := by
    rw [← ht]
    rfl
  have hup : s(f.agg l, c) = f.edgeOf m := by
    rw [Sym2.eq_swap, ← houter, ← ha]
    rfl
  show [(f.edges s(t, f.agg l)).id, (f.edges s(f.agg l, c)).id] = _
  rw [hlow, hup, hc.id l hl, hc.id m hm]

include hc in
/-- The paths from a ToR to a core switch, as the links up to an agg and on to the switch. -/
lemma getPathsToCoreSwitch_eq {disabled : ℕ → Bool} {t c : ℕ} (htiers : f.type.tiers = 3)
    (ht : f.getSwitchType t = .TOR) (hcore : f.getSwitchType c = .CORE) :
    f.getPathsToCoreSwitch disabled t c =
      ((f.linksAt t).flatMap fun l =>
        ((f.linksAt (f.agg l)).filter (f.opposite (f.agg l) · = c)).map fun m => [l, m]).filter
          fun path => path.all fun l => !disabled l := by
  unfold getPathsToCoreSwitch
  rw [htiers, allSimplePaths_eq hw hc ht hcore, List.map_flatMap]
  congr 1
  refine List.flatMap_congr fun l hl => ?_
  rw [List.map_map]
  refine List.map_congr_left fun m hm => ?_
  obtain ⟨hm, heq⟩ := List.mem_filter.mp hm
  obtain ⟨hup, houter⟩ := aggCore_of_mem_linksAt hw hcore hm (of_decide_eq_true heq)
  exact linkPath_eq hc (torAgg_of_mem_linksAt hw ht hl) hup houter

/-- The enabled links from an agg to a core switch, in the graph and in the network. -/
lemma toFinset_filter_linksAt {disabled : ℕ → Bool} {D : Finset ℕ} {a c : ℕ}
    (hD : ∀ l ∈ f.links, disabled l = true ↔ l ∈ D) (hcore : f.getSwitchType c = .CORE) :
    ((f.linksAt a).filter fun m => decide (f.opposite a m = c) && !disabled m).toFinset =
      (f.tiers.up a \ D).filter fun m => f.outer m = c := by
  ext m
  rw [List.mem_toFinset, List.mem_filter, Finset.mem_filter, Finset.mem_sdiff, Bool.and_eq_true,
    decide_eq_true_iff, Bool.not_eq_true']
  constructor
  · rintro ⟨hm, heq, hdis⟩
    obtain ⟨hup, houter⟩ := aggCore_of_mem_linksAt hw hcore hm heq
    refine ⟨⟨hup, fun hmD => ?_⟩, houter⟩
    rw [(hD m (mem_linksAt.mp hm).1).mpr hmD] at hdis
    cases hdis
  · rintro ⟨⟨hup, hmD⟩, houter⟩
    obtain ⟨⟨hm, -⟩, hagg⟩ := mem_up.mp hup
    refine ⟨mem_linksAt.mpr ⟨hm, .inr hagg⟩, ?_, ?_⟩
    · rw [opposite, if_neg (hagg ▸ hw.outer_ne_agg hm hm)]
      exact houter
    · rw [Bool.eq_false_iff]
      exact fun h => hmD ((hD m hm).mp h)

include hc in
lemma length_getPathsToCoreSwitch {disabled : ℕ → Bool} {D : Finset ℕ} {t c : ℕ}
    (htiers : f.type.tiers = 3) (hD : ∀ l ∈ f.links, disabled l = true ↔ l ∈ D)
    (ht : f.getSwitchType t = .TOR) (hcore : f.getSwitchType c = .CORE) :
    (f.getPathsToCoreSwitch disabled t c).length = ∑ l ∈ f.tiers.low t \ D,
      ((f.tiers.up (f.agg l) \ D).filter fun m => f.outer m = c).card := by
  have hlow : ∀ l ∈ f.linksAt t, l ∈ f.tiers.low t := fun l hl => torAgg_of_mem_linksAt hw ht hl
  have hset : (f.linksAt t).toFinset = f.tiers.low t := by
    ext l
    rw [List.mem_toFinset]
    refine ⟨hlow l, fun hl => mem_linksAt.mpr ?_⟩
    exact ⟨(mem_low.mp hl).1.1, .inl (mem_low.mp hl).2⟩
  rw [getPathsToCoreSwitch_eq hw hc htiers ht hcore, List.filter_flatMap, List.length_flatMap,
    ← List.sum_toFinset _ (nodup_linksAt t), hset, Finset.sdiff_eq_filter, Finset.sum_filter]
  refine Finset.sum_congr rfl fun l hl => ?_
  have hlinks := (mem_low.mp hl).1.1
  -- a path is left out when its first link is disabled, or else its second
  by_cases hlD : l ∈ D
  · rw [if_neg (not_not.mpr hlD), List.length_eq_zero_iff, List.filter_eq_nil_iff]
    intro path hpath
    obtain ⟨m, -, rfl⟩ := List.mem_map.mp hpath
    simp [(hD l hlinks).mpr hlD]
  · have hdis : disabled l = false := by
      rw [Bool.eq_false_iff]
      exact fun h => hlD ((hD l hlinks).mp h)
    rw [if_pos hlD, ← toFinset_filter_linksAt hw hD hcore,
      List.toFinset_card_of_nodup ((nodup_linksAt _).filter _), List.filter_map,
      List.length_map, List.filter_filter]
    congr 2
    funext m
    simp [hdis, Bool.and_comm]

include hc in
/-- **The traversal finds each path once**: as many as the network has.  This is the specification
that the counts without a traversal are compared with. -/
theorem length_getPathsToCore {disabled : ℕ → Bool} {D : Finset ℕ} {t : ℕ}
    (htiers : f.type.tiers = 3) (hD : ∀ l ∈ f.links, disabled l = true ↔ l ∈ D)
    (ht : f.getSwitchType t = .TOR) :
    (f.getPathsToCore disabled t).length = f.tiers.paths t D := by
  have hcore : ∀ c ∈ (f.switchTypewiseList .CORE).toFinset, f.getSwitchType c = .CORE :=
    fun c h => ((hc.mem_switchTypewiseList .CORE c).mp (List.mem_toFinset.mp h)).2
  rw [getPathsToCore, List.length_flatMap, ← List.sum_toFinset _ (hc.nodup .CORE),
    Finset.sum_congr rfl fun c h =>
      length_getPathsToCoreSwitch hw hc htiers hD ht (hcore c h), Finset.sum_comm]
  refine Finset.sum_congr rfl fun l _ => (Finset.card_eq_sum_card_fiberwise ?_).symm
  intro m hm
  obtain ⟨⟨hm, htype⟩, -⟩ := mem_up.mp (Finset.mem_sdiff.mp hm).1
  refine List.mem_toFinset.mpr ((hc.mem_switchTypewiseList .CORE _).mpr ?_)
  exact ⟨hw.lt_globalSwitchId m hm _ (.inl rfl), hw.outer_core hm htype⟩

end Traversal

end Fabric

end LinkGuardian.Simulator
