import LinkGuardian.Library.Loops
import LinkGuardian.Library.Removal
import LinkGuardian.Simulator.Topology
import Mathlib.Algebra.BigOperators.Ring.Finset

/-!
# The wiring of a fabric

A `Wired` fabric is a folded Clos network: every link goes up from a ToR to an agg, or from an
agg to a core switch, no two links join the same switches, and the tables of the fabric agree
with the links.  Its links are a two-tier network, and the paths of a ToR to the core are those
of the network: `getNumPathsToCore` counts them from the lists of aggs and the numbers of
uplinks alone.

The proofs about paths are those of `Library.Removal` on this network.  The fabric only has to
supply its links and where they lead.
-/

namespace LinkGuardian.Simulator

open Removal

/-! ## Links of a fabric -/

namespace Fabric

variable (f : Fabric)

/-- The ToR of a ToR-Agg link, the core switch of an Agg-Core link. -/
def outer (linkId : ℕ) : ℕ := (f.linkidToSwitchpairMapping linkId).1

/-- The agg of a link. -/
def agg (linkId : ℕ) : ℕ := (f.linkidToSwitchpairMapping linkId).2

def links : Finset ℕ := Finset.range f.globalLinkId

def linksOf (type : LinkType) : Finset ℕ := f.links.filter fun l => f.getLinkType l = type

/-- The links up from a ToR, the aggs that they lead to, and the links up from an agg. -/
def tiers : TwoTier ℕ ℕ ℕ where
  low t := (f.linksOf .TOR_AGG).filter fun l => f.outer l = t
  via := f.agg
  up a := (f.linksOf .AGG_CORE).filter fun l => f.agg l = a

variable {f}

lemma mem_links {l : ℕ} : l ∈ f.links ↔ l < f.globalLinkId := Finset.mem_range

lemma mem_linksOf {l : ℕ} {type : LinkType} :
    l ∈ f.linksOf type ↔ l ∈ f.links ∧ f.getLinkType l = type := Finset.mem_filter

lemma mem_low {l t : ℕ} :
    l ∈ f.tiers.low t ↔ (l ∈ f.links ∧ f.getLinkType l = .TOR_AGG) ∧ f.outer l = t := by
  rw [← mem_linksOf]
  exact Finset.mem_filter

lemma mem_up {l a : ℕ} :
    l ∈ f.tiers.up a ↔ (l ∈ f.links ∧ f.getLinkType l = .AGG_CORE) ∧ f.agg l = a := by
  rw [← mem_linksOf]
  exact Finset.mem_filter

lemma onPath_torAgg {l t : ℕ} (hl : l ∈ f.links) (htype : f.getLinkType l = .TOR_AGG) :
    f.tiers.OnPath l t ↔ f.outer l = t := by
  constructor
  · rintro (hlow | ⟨m, -, hup⟩)
    · exact (mem_low.mp hlow).2
    · rw [(mem_up.mp hup).1.2] at htype
      cases htype
  · exact fun h => .inl (mem_low.mpr ⟨⟨hl, htype⟩, h⟩)

lemma onPath_aggCore {l t : ℕ} (hl : l ∈ f.links) (htype : f.getLinkType l = .AGG_CORE) :
    f.tiers.OnPath l t ↔ ∃ m ∈ f.tiers.low t, f.agg m = f.agg l := by
  constructor
  · rintro (hlow | ⟨m, hm, hup⟩)
    · rw [(mem_low.mp hlow).1.2] at htype
      cases htype
    · exact ⟨m, hm, (mem_up.mp hup).2.symm⟩
  · rintro ⟨m, hm, hagg⟩
    exact .inr ⟨m, hm, mem_up.mpr ⟨⟨hl, htype⟩, hagg.symm⟩⟩

lemma connectedSwitch_outer {l : ℕ} {type : SwitchType}
    (htype : f.getSwitchType (f.outer l) = type) :
    f.connectedSwitch l type = some (f.outer l) := if_pos htype

/-- The two switches of a link. -/
def Ends (f : Fabric) (l sw : ℕ) : Prop := f.outer l = sw ∨ f.agg l = sw

instance (l sw : ℕ) : Decidable (f.Ends l sw) := instDecidableOr

/-- The links of a switch, in the order in which they were added. -/
def linksAt (f : Fabric) (sw : ℕ) : List ℕ := (List.range f.globalLinkId).filter (f.Ends · sw)

lemma mem_linksAt {l sw : ℕ} : l ∈ f.linksAt sw ↔ l ∈ f.links ∧ f.Ends l sw := by
  rw [linksAt, List.mem_filter, List.mem_range, decide_eq_true_iff, mem_links]

lemma nodup_linksAt (sw : ℕ) : (f.linksAt sw).Nodup := List.nodup_range.filter _

structure Wired (f : Fabric) : Prop where
  outer_type : ∀ l ∈ f.links, f.getSwitchType (f.outer l) =
    match f.getLinkType l with
    | .TOR_AGG => .TOR
    | .AGG_CORE => .CORE
  agg_type : ∀ l ∈ f.links, f.getSwitchType (f.agg l) = .AGG
  lt_globalSwitchId : ∀ l ∈ f.links, ∀ sw, f.Ends l sw → sw < f.globalSwitchId
  edgeOf_inj : ∀ l ∈ f.links, ∀ l' ∈ f.links, f.edgeOf l = f.edgeOf l' → l = l'
  affectedTors : ∀ l ∈ f.links, ∀ t, t ∈ f.linkIdToAffectedTors l ↔ f.tiers.OnPath l t
  linkIdList : ∀ sw < f.globalSwitchId, (f.nodes sw).linkIdList = f.linksAt sw
  numPipes : ∀ sw < f.globalSwitchId, (f.nodes sw).numPipes ≠ 0

namespace Wired

variable (h : f.Wired) {l l' : ℕ}
include h

lemma outer_tor (hl : l ∈ f.links) (htype : f.getLinkType l = .TOR_AGG) :
    f.getSwitchType (f.outer l) = .TOR := by
  have := h.outer_type l hl
  rwa [htype] at this

lemma outer_core (hl : l ∈ f.links) (htype : f.getLinkType l = .AGG_CORE) :
    f.getSwitchType (f.outer l) = .CORE := by
  have := h.outer_type l hl
  rwa [htype] at this

lemma outer_ne_agg (hl : l ∈ f.links) (hl' : l' ∈ f.links) : f.outer l ≠ f.agg l' := by
  intro heq
  have ho := h.outer_type l hl
  rw [heq, h.agg_type l' hl'] at ho
  split at ho <;> cases ho

/-- A link is given by its switches. -/
lemma eq_of_ends (hl : l ∈ f.links) (hl' : l' ∈ f.links) (ho : f.outer l = f.outer l')
    (ha : f.agg l = f.agg l') : l = l' := by
  refine h.edgeOf_inj l hl l' hl' ?_
  show s(f.outer l, f.agg l) = s(f.outer l', f.agg l')
  rw [ho, ha]

lemma via_injOn (t : ℕ) : Set.InjOn f.tiers.via (f.tiers.low t) := by
  intro l hl l' hl' heq
  have hl := mem_low.mp hl
  have hl' := mem_low.mp hl'
  exact h.eq_of_ends hl.1.1 hl'.1.1 (hl.2.trans hl'.2.symm) heq

/-- Each link is below the ToRs that it affects. -/
lemma tor_of_onPath {t : ℕ} (ht : f.tiers.OnPath l t) : f.getSwitchType t = .TOR := by
  have hlow : ∀ m ∈ f.tiers.low t, f.getSwitchType t = .TOR := by
    intro m hm
    have hm := mem_low.mp hm
    rw [← hm.2]
    exact h.outer_tor hm.1.1 hm.1.2
  rcases ht with hl | ⟨m, hm, -⟩
  · exact hlow l hl
  · exact hlow m hm

lemma connectedSwitch_agg (hl : l ∈ f.links) : f.connectedSwitch l .AGG = some (f.agg l) := by
  have ho : f.getSwitchType (f.outer l) ≠ .AGG := by
    rw [h.outer_type l hl]
    split <;> simp
  exact (if_neg ho).trans (if_pos (h.agg_type l hl))

end Wired

end Fabric

/-! ## Counting the paths -/

/-- The lists of aggs and the numbers of uplinks of the switches when a set of links is
disabled. -/
structure Attached (f : Fabric) (aggSwitches : ℕ → List ℕ) (numActiveUplinks : ℕ → ℤ)
    (disabled : Finset ℕ) : Prop where
  aggSwitches : ∀ t, f.getSwitchType t = .TOR →
    (aggSwitches t : Multiset ℕ) = (f.tiers.low t \ disabled).val.map f.agg
  numActiveUplinks : ∀ a, f.getSwitchType a = .AGG →
    numActiveUplinks a = (f.tiers.up a \ disabled).card

lemma foldlM_listRemove {excl xs : List ℕ} {rest : Multiset ℕ}
    (h : (xs : Multiset ℕ) = (excl : Multiset ℕ) + rest) :
    ∃ ys, excl.foldlM Topology.listRemove xs = some ys ∧ (ys : Multiset ℕ) = rest := by
  induction excl generalizing xs with
  | nil =>
    refine ⟨xs, rfl, ?_⟩
    rw [h]
    exact Multiset.zero_add rest
  | cons x excl ih =>
    have hcons : (xs : Multiset ℕ) = x ::ₘ ((excl : Multiset ℕ) + rest) := by
      rw [h, ← Multiset.cons_coe, Multiset.cons_add]
    have hx : x ∈ xs := by
      rw [← Multiset.mem_coe, hcons]
      exact Multiset.mem_cons_self _ _
    have herase : ((xs.erase x : List ℕ) : Multiset ℕ) = (excl : Multiset ℕ) + rest := by
      rw [← Multiset.coe_erase, hcons, Multiset.erase_cons_head]
    obtain ⟨ys, hys, hrest⟩ := ih herase
    refine ⟨ys, ?_, hrest⟩
    rw [List.foldlM_cons, Topology.listRemove, if_pos hx]
    exact hys

namespace Topology

open Fabric

variable {topo : Topology} {D S : Finset ℕ} {t : ℕ}

/-- The aggs of a ToR that are left when the links of a set are excluded. -/
lemma foldlM_exclude (hat : Attached topo.fabric topo.aggSwitches topo.numActiveUplinks D)
    (ht : topo.fabric.getSwitchType t = .TOR) (hS : Disjoint S D) {excl : List ℕ}
    (hexcl : (excl : Multiset ℕ) = (topo.fabric.tiers.low t ∩ S).val.map topo.fabric.agg) :
    ∃ ys, excl.foldlM listRemove (topo.aggSwitches t) = some ys ∧
      (ys : Multiset ℕ) = (topo.fabric.tiers.low t \ (D ∪ S)).val.map topo.fabric.agg := by
  refine foldlM_listRemove ?_
  rw [hat.aggSwitches t ht, hexcl, ← Multiset.map_add]
  congr 1
  have hdisj : Disjoint (topo.fabric.tiers.low t ∩ S) (topo.fabric.tiers.low t \ (D ∪ S)) := by
    rw [Finset.disjoint_left]
    intro l hl hl'
    exact (Finset.mem_sdiff.mp hl').2 (Finset.mem_union_right _ (Finset.mem_inter.mp hl).2)
  rw [← Finset.disjUnion_val _ _ hdisj]
  congr 1
  ext l
  rw [Finset.mem_disjUnion]
  simp only [Finset.mem_sdiff, Finset.mem_inter, Finset.mem_union]
  constructor
  · rintro ⟨hl, hD⟩
    by_cases hlS : l ∈ S
    · exact .inl ⟨hl, hlS⟩
    · exact .inr ⟨hl, not_or.mpr ⟨hD, hlS⟩⟩
  · rintro (⟨hl, hlS⟩ | ⟨hl, hno⟩)
    · exact ⟨hl, fun hD => Finset.disjoint_left.mp hS hlS hD⟩
    · exact ⟨hl, fun hD => hno (.inl hD)⟩

/-- **The count is the number of paths** that are left without a further set of links, when the
arguments of the call say what the set takes away. -/
theorem getNumPathsToCore_eq (hw : topo.fabric.Wired)
    (hat : Attached topo.fabric topo.aggSwitches topo.numActiveUplinks D)
    (ht : topo.fabric.getSwitchType t = .TOR) (hS : Disjoint S D) {excl : List ℕ}
    {upd : ℕ → Option ℤ}
    (hexcl : (excl : Multiset ℕ) = (topo.fabric.tiers.low t ∩ S).val.map topo.fabric.agg)
    (hupd : ∀ a, topo.fabric.getSwitchType a = .AGG →
      (upd a).getD (topo.numActiveUplinks a) = (topo.fabric.tiers.up a \ (D ∪ S)).card) :
    topo.getNumPathsToCore t excl upd = some (topo.fabric.tiers.paths t (D ∪ S) : ℤ) := by
  obtain ⟨ys, hys, hleft⟩ := foldlM_exclude hat ht hS hexcl
  have hlow : ∀ l ∈ topo.fabric.tiers.low t \ (D ∪ S), l ∈ topo.fabric.links := fun l hl =>
    (mem_low.mp (Finset.mem_sdiff.mp hl).1).1.1
  -- different links lead to different aggs, so no agg is twice in the list
  have hnodup : ys.Nodup := by
    rw [← Multiset.coe_nodup, hleft]
    refine Multiset.Nodup.map_on ?_ (Finset.nodup _)
    intro l hl l' hl' heq
    exact hw.via_injOn t (Finset.mem_sdiff.mp hl).1 (Finset.mem_sdiff.mp hl').1 heq
  have hagg : ∀ a ∈ ys, topo.fabric.getSwitchType a = .AGG := by
    intro a ha
    rw [← Multiset.mem_coe, hleft] at ha
    obtain ⟨l, hl, rfl⟩ := Multiset.mem_map.mp ha
    exact hw.agg_type l (hlow l hl)
  have hmap : ys.mapM (fun agg => do
      let uplinks ← topo.getNumActiveUplinks agg
      return (upd agg).getD uplinks) =
        some (ys.map fun a => ((topo.fabric.tiers.up a \ (D ∪ S)).card : ℤ)) := by
    refine Loop.mapM_eq_some fun a ha => ?_
    rw [getNumActiveUplinks, ← hupd a (hagg a ha)]
    simp [guard, hagg a ha]
  have hsum : (ys.map fun a => ((topo.fabric.tiers.up a \ (D ∪ S)).card : ℤ)).sum =
      topo.fabric.tiers.paths t (D ∪ S) := by
    rw [← Multiset.sum_coe, ← Multiset.map_coe, hleft, Multiset.map_map, TwoTier.paths,
      Nat.cast_sum]
    rfl
  unfold getNumPathsToCore getConnectedAggSwitches
  simp only [guard, ht, if_true, hys, Option.bind_eq_bind, Option.bind_some, pure,
    hnodup.dedup]
  exact (congrArg (Option.bind · fun uplinks => some uplinks.sum) hmap).trans
    (congrArg some hsum)

lemma getCurrNumPathsToCore_eq (hw : topo.fabric.Wired)
    (hat : Attached topo.fabric topo.aggSwitches topo.numActiveUplinks D)
    (ht : topo.fabric.getSwitchType t = .TOR) :
    topo.getCurrNumPathsToCore t = some (topo.fabric.tiers.paths t D : ℤ) := by
  have hexcl : (([] : List ℕ) : Multiset ℕ) =
      (topo.fabric.tiers.low t ∩ ∅).val.map topo.fabric.agg := by
    rw [Finset.inter_empty]
    rfl
  have hupd : ∀ a, topo.fabric.getSwitchType a = .AGG →
      (none : Option ℤ).getD (topo.numActiveUplinks a) =
        (topo.fabric.tiers.up a \ (D ∪ ∅)).card := fun a ha => by
    rw [Finset.union_empty]
    exact hat.numActiveUplinks a ha
  have heq := getNumPathsToCore_eq hw hat ht (Finset.disjoint_empty_left D) hexcl hupd
  rwa [Finset.union_empty] at heq

end Topology

end LinkGuardian.Simulator
