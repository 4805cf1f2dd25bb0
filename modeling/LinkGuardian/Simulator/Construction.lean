import LinkGuardian.Simulator.Traversal

/-!
# Adding a link

A fabric that is wired and charted stays so when it gets a link between two switches that no
link joins yet, provided that the ToRs recorded for the link are those below it.
-/

namespace LinkGuardian.Simulator

open Removal

/-! ## One link more -/

structure NewLink where
  outer : ℕ
  agg : ℕ
  type : LinkType
  capacity : ℚ
  lgCapable : Bool
  affectedTors : Finset ℕ
  pod : ℕ

/-- The attributes of a switch but for its links. -/
def SwitchAttributes.withoutLinks (s : SwitchAttributes) : SwitchAttributes :=
  { s with linkIdList := [] }

lemma withoutLinks_addLinkToSwitch (nodes : ℕ → SwitchAttributes) (a l sw : ℕ) :
    (Topology.addLinkToSwitch nodes a l sw).withoutLinks = (nodes sw).withoutLinks := by
  unfold Topology.addLinkToSwitch
  by_cases h : sw = a
  · rw [h, Function.update_self]
    rfl
  · rw [Function.update_of_ne h]

lemma linkIdList_addLinkToSwitch (nodes : ℕ → SwitchAttributes) (a l sw : ℕ) :
    (Topology.addLinkToSwitch nodes a l sw).linkIdList =
      (nodes sw).linkIdList ++ if sw = a then [l] else [] := by
  unfold Topology.addLinkToSwitch
  by_cases h : sw = a
  · rw [h, Function.update_self, if_pos rfl]
  · rw [Function.update_of_ne h, if_neg h, List.append_nil]

lemma addNeighbor_apply {neighbors : ℕ → List ℕ} {a b : ℕ} (h : b ∉ neighbors a) (sw : ℕ) :
    Topology.addNeighbor neighbors a b sw = neighbors sw ++ if sw = a then [b] else [] := by
  unfold Topology.addNeighbor
  rw [if_neg h]
  by_cases hsw : sw = a
  · rw [hsw, Function.update_self, if_pos rfl]
  · rw [Function.update_of_ne hsw, if_neg hsw, List.append_nil]

lemma mem_addNeighbor {neighbors : ℕ → List ℕ} {a b sw y : ℕ} :
    y ∈ Topology.addNeighbor neighbors a b sw ↔ y ∈ neighbors sw ∨ sw = a ∧ y = b := by
  by_cases h : b ∈ neighbors a
  · rw [Topology.addNeighbor, if_pos h, or_iff_left_of_imp]
    rintro ⟨rfl, rfl⟩
    exact h
  · rw [addNeighbor_apply h, List.mem_append]
    split
    · next hsw => simp [hsw]
    · next hsw => simp [hsw]

namespace Fabric

/-- The fabric with one link more. -/
def add (f : Fabric) (x : NewLink) : Fabric :=
  { f with
    globalLinkId := f.globalLinkId + 1
    numLgEnabledLinks := f.numLgEnabledLinks + if x.lgCapable then 1 else 0
    linkidToSwitchpairMapping :=
      Function.update f.linkidToSwitchpairMapping f.globalLinkId (x.outer, x.agg)
    neighbors := Topology.addNeighbor (Topology.addNeighbor f.neighbors x.outer x.agg) x.agg x.outer
    edges := setEdge f.edges s(x.outer, x.agg)
      { id := f.globalLinkId
        linkType := x.type
        capacity := x.capacity
        lgCapable := x.lgCapable }
    nodes := Topology.addLinkToSwitch (Topology.addLinkToSwitch f.nodes x.outer f.globalLinkId)
      x.agg f.globalLinkId
    linkIdToAffectedTors :=
      Function.update f.linkIdToAffectedTors f.globalLinkId x.affectedTors
    linkIdToPodId := Function.update f.linkIdToPodId f.globalLinkId x.pod }

/-- The link joins two switches of the fabric that no link joins yet.  The graph keeps one link for
a pair of switches, and a second one would take the place of the first. -/
structure Fits (f : Fabric) (x : NewLink) : Prop where
  outer_lt : x.outer < f.globalSwitchId
  agg_lt : x.agg < f.globalSwitchId
  outer_type : f.getSwitchType x.outer =
    match x.type with
    | .TOR_AGG => .TOR
    | .AGG_CORE => .CORE
  agg_type : f.getSwitchType x.agg = .AGG
  new : ∀ l ∈ f.links, f.outer l = x.outer → f.agg l ≠ x.agg

variable {f : Fabric} {x : NewLink} {l sw t a : ℕ}

lemma Fits.outer_ne_agg (hx : f.Fits x) : x.outer ≠ x.agg := by
  intro heq
  have ho := hx.outer_type
  rw [heq, hx.agg_type] at ho
  split at ho <;> cases ho

lemma Fits.edgeOf_ne (hx : f.Fits x) (hw : f.Wired) (hl : l ∈ f.links) :
    f.edgeOf l ≠ s(x.outer, x.agg) := by
  intro heq
  rcases Sym2.eq_iff.mp heq with ⟨ho, ha⟩ | ⟨ho, -⟩
  · exact hx.new l hl ho ha
  · have htype := hw.outer_type l hl
    rw [show f.outer l = x.agg from ho, hx.agg_type] at htype
    split at htype <;> cases htype

section Add

variable (f x)

lemma links_add : (f.add x).links = insert f.globalLinkId f.links := by
  ext l
  rw [Finset.mem_insert, mem_links, mem_links]
  show l < f.globalLinkId + 1 ↔ _
  omega

lemma mapping_add_new :
    (f.add x).linkidToSwitchpairMapping f.globalLinkId = (x.outer, x.agg) :=
  Function.update_self _ _ _

lemma outer_add_new : (f.add x).outer f.globalLinkId = x.outer :=
  congrArg Prod.fst (mapping_add_new f x)

lemma agg_add_new : (f.add x).agg f.globalLinkId = x.agg :=
  congrArg Prod.snd (mapping_add_new f x)

lemma edgeOf_add_new : (f.add x).edgeOf f.globalLinkId = s(x.outer, x.agg) := by
  show s((f.add x).outer f.globalLinkId, (f.add x).agg f.globalLinkId) = _
  rw [outer_add_new, agg_add_new]

lemma edge_add_new : (f.add x).edges ((f.add x).edgeOf f.globalLinkId) =
    { id := f.globalLinkId
      linkType := x.type
      capacity := x.capacity
      lgCapable := x.lgCapable } := by
  rw [edgeOf_add_new]
  exact if_pos rfl

lemma getLinkType_add_new : (f.add x).getLinkType f.globalLinkId = x.type := by
  rw [getLinkType, edge_add_new]

lemma withoutLinks_add (sw : ℕ) :
    ((f.add x).nodes sw).withoutLinks = (f.nodes sw).withoutLinks :=
  (withoutLinks_addLinkToSwitch _ _ _ _).trans (withoutLinks_addLinkToSwitch _ _ _ _)

lemma getSwitchType_add (sw : ℕ) : (f.add x).getSwitchType sw = f.getSwitchType sw := by
  show ((f.add x).nodes sw).withoutLinks.type = (f.nodes sw).withoutLinks.type
  rw [withoutLinks_add]

variable {f x}

lemma ne_of_mem_links (hl : l ∈ f.links) : l ≠ f.globalLinkId := (mem_links.mp hl).ne

lemma mapping_add_old (hl : l ∈ f.links) :
    (f.add x).linkidToSwitchpairMapping l = f.linkidToSwitchpairMapping l :=
  Function.update_of_ne (ne_of_mem_links hl) _ _

lemma outer_add_old (hl : l ∈ f.links) : (f.add x).outer l = f.outer l :=
  congrArg Prod.fst (mapping_add_old hl)

lemma agg_add_old (hl : l ∈ f.links) : (f.add x).agg l = f.agg l :=
  congrArg Prod.snd (mapping_add_old hl)

lemma edgeOf_add_old (hl : l ∈ f.links) : (f.add x).edgeOf l = f.edgeOf l := by
  unfold edgeOf
  rw [mapping_add_old hl]

lemma ends_add_old (hl : l ∈ f.links) : (f.add x).Ends l sw ↔ f.Ends l sw := by
  unfold Ends
  rw [outer_add_old hl, agg_add_old hl]

variable (hw : f.Wired) (hx : f.Fits x)
include hw hx

lemma edge_add_old (hl : l ∈ f.links) :
    (f.add x).edges ((f.add x).edgeOf l) = f.edges (f.edgeOf l) := by
  rw [edgeOf_add_old hl]
  exact if_neg (hx.edgeOf_ne hw hl)

lemma getLinkType_add_old (hl : l ∈ f.links) : (f.add x).getLinkType l = f.getLinkType l :=
  congrArg LinkAttributes.linkType (edge_add_old hw hx hl)

lemma linksOf_add (type : LinkType) : (f.add x).linksOf type =
    if x.type = type then insert f.globalLinkId (f.linksOf type) else f.linksOf type := by
  rw [linksOf, links_add, Finset.filter_insert, getLinkType_add_new,
    Finset.filter_congr fun l hl => by rw [getLinkType_add_old hw hx hl]]
  rfl

lemma low_add (t : ℕ) : (f.add x).tiers.low t =
    if x.type = .TOR_AGG ∧ x.outer = t then insert f.globalLinkId (f.tiers.low t)
    else f.tiers.low t := by
  have hold : (f.linksOf .TOR_AGG).filter (fun l => (f.add x).outer l = t) = f.tiers.low t :=
    Finset.filter_congr fun l hl => by rw [outer_add_old (mem_linksOf.mp hl).1]
  show ((f.add x).linksOf .TOR_AGG).filter (fun l => (f.add x).outer l = t) = _
  rw [linksOf_add hw hx]
  by_cases htype : x.type = .TOR_AGG
  · rw [if_pos htype, Finset.filter_insert, outer_add_new, hold]
    simp only [htype, true_and]
  · rw [if_neg htype, hold, if_neg fun h => htype h.1]

lemma up_add (a : ℕ) : (f.add x).tiers.up a =
    if x.type = .AGG_CORE ∧ x.agg = a then insert f.globalLinkId (f.tiers.up a)
    else f.tiers.up a := by
  have hold : (f.linksOf .AGG_CORE).filter (fun l => (f.add x).agg l = a) = f.tiers.up a :=
    Finset.filter_congr fun l hl => by rw [agg_add_old (mem_linksOf.mp hl).1]
  show ((f.add x).linksOf .AGG_CORE).filter (fun l => (f.add x).agg l = a) = _
  rw [linksOf_add hw hx]
  by_cases htype : x.type = .AGG_CORE
  · rw [if_pos htype, Finset.filter_insert, agg_add_new, hold]
    simp only [htype, true_and]
  · rw [if_neg htype, hold, if_neg fun h => htype h.1]

omit hw in
lemma linksAt_add (sw : ℕ) : (f.add x).linksAt sw =
    f.linksAt sw ++ ((if sw = x.outer then [f.globalLinkId] else []) ++
      if sw = x.agg then [f.globalLinkId] else []) := by
  have hold : (List.range f.globalLinkId).filter ((f.add x).Ends · sw) = f.linksAt sw := by
    refine List.filter_congr fun l hl => ?_
    rw [decide_eq_decide]
    exact ends_add_old (mem_links.mpr (List.mem_range.mp hl))
  have hends : (f.add x).Ends f.globalLinkId sw ↔ x.outer = sw ∨ x.agg = sw := by
    unfold Ends
    rw [outer_add_new, agg_add_new]
  show (List.range (f.globalLinkId + 1)).filter _ = _
  rw [List.range_succ, List.filter_append, hold, List.filter_cons, List.filter_nil]
  congr 1
  have hne := hx.outer_ne_agg
  by_cases ho : sw = x.outer
  · rw [if_pos ho, if_neg fun ha => hne (ho.symm.trans ha),
      if_pos (decide_eq_true (hends.mpr (.inl ho.symm))), List.append_nil]
  · by_cases ha : sw = x.agg
    · rw [if_neg ho, if_pos ha, if_pos (decide_eq_true (hends.mpr (.inr ha.symm))),
        List.nil_append]
    · rw [if_neg ho, if_neg ha, if_neg, List.append_nil]
      rw [decide_eq_true_iff, hends]
      exact fun h => h.elim (fun h => ho h.symm) fun h => ha h.symm

lemma linkIdList_add (hsw : sw < f.globalSwitchId) :
    ((f.add x).nodes sw).linkIdList = (f.add x).linksAt sw := by
  show (Topology.addLinkToSwitch _ x.agg f.globalLinkId sw).linkIdList = _
  rw [linkIdList_addLinkToSwitch, linkIdList_addLinkToSwitch, hw.linkIdList sw hsw,
    linksAt_add hx, List.append_assoc]

/-- A new link keeps the fabric wired when it records the ToRs below it, and no other link gets
ToRs below it. -/
theorem Wired.add
    (htors : ∀ t, t ∈ x.affectedTors ↔ (f.add x).tiers.OnPath f.globalLinkId t)
    (hold : ∀ l ∈ f.links, ∀ t, (f.add x).tiers.OnPath l t ↔ f.tiers.OnPath l t) :
    (f.add x).Wired where
  outer_type l hl := by
    rw [getSwitchType_add]
    rcases Finset.mem_insert.mp (links_add f x ▸ hl) with rfl | hl
    · rw [outer_add_new, getLinkType_add_new]
      exact hx.outer_type
    · rw [outer_add_old hl, getLinkType_add_old hw hx hl]
      exact hw.outer_type l hl
  agg_type l hl := by
    rw [getSwitchType_add]
    rcases Finset.mem_insert.mp (links_add f x ▸ hl) with rfl | hl
    · rw [agg_add_new]
      exact hx.agg_type
    · rw [agg_add_old hl]
      exact hw.agg_type l hl
  lt_globalSwitchId l hl sw hends := by
    rcases Finset.mem_insert.mp (links_add f x ▸ hl) with rfl | hl
    · rcases hends with ho | ha
      · rw [← ho, outer_add_new]
        exact hx.outer_lt
      · rw [← ha, agg_add_new]
        exact hx.agg_lt
    · exact hw.lt_globalSwitchId l hl sw ((ends_add_old hl).mp hends)
  edgeOf_inj l hl l' hl' heq := by
    rcases Finset.mem_insert.mp (links_add f x ▸ hl) with rfl | hl <;>
      rcases Finset.mem_insert.mp (links_add f x ▸ hl') with rfl | hl'
    · rfl
    · rw [edgeOf_add_new, edgeOf_add_old hl'] at heq
      exact absurd heq.symm (hx.edgeOf_ne hw hl')
    · rw [edgeOf_add_new, edgeOf_add_old hl] at heq
      exact absurd heq (hx.edgeOf_ne hw hl)
    · rw [edgeOf_add_old hl, edgeOf_add_old hl'] at heq
      exact hw.edgeOf_inj l hl l' hl' heq
  affectedTors l hl t := by
    show t ∈ Function.update f.linkIdToAffectedTors f.globalLinkId x.affectedTors l ↔ _
    rcases Finset.mem_insert.mp (links_add f x ▸ hl) with rfl | hl
    · rw [Function.update_self]
      exact htors t
    · rw [Function.update_of_ne (ne_of_mem_links hl), hw.affectedTors l hl t]
      exact (hold l hl t).symm
  linkIdList sw hsw := linkIdList_add hw hx hsw
  numPipes sw hsw := by
    show ((f.add x).nodes sw).withoutLinks.numPipes ≠ 0
    rw [withoutLinks_add]
    exact hw.numPipes sw hsw

omit hw hx in
lemma opposite_add_old (hl : l ∈ f.links) (sw : ℕ) :
    (f.add x).opposite sw l = f.opposite sw l := by
  unfold opposite
  rw [outer_add_old hl, agg_add_old hl]

lemma neighbors_add (hc : f.Charted) (sw : ℕ) :
    (f.add x).neighbors sw = ((f.add x).linksAt sw).map ((f.add x).opposite sw) := by
  have hne := hx.outer_ne_agg
  -- the two switches were not neighbours
  have hnew : ∀ sw sw', s(sw, sw') = s(x.outer, x.agg) → sw' ∉ f.neighbors sw := by
    intro sw sw' hedge hmem
    rw [hc.neighbors] at hmem
    obtain ⟨l, hl, rfl⟩ := List.mem_map.mp hmem
    obtain ⟨hl, hends⟩ := mem_linksAt.mp hl
    exact hx.edgeOf_ne hw hl ((edgeOf_eq_opposite hends).trans hedge)
  have hagg : x.agg ∉ f.neighbors x.outer := hnew _ _ rfl
  have houter : x.outer ∉ Topology.addNeighbor f.neighbors x.outer x.agg x.agg := by
    rw [addNeighbor_apply hagg, if_neg hne.symm, List.append_nil]
    exact hnew _ _ Sym2.eq_swap
  have hold : (f.linksAt sw).map ((f.add x).opposite sw) = f.neighbors sw := by
    rw [hc.neighbors]
    exact List.map_congr_left fun l hl => opposite_add_old (mem_linksAt.mp hl).1 sw
  show Topology.addNeighbor (Topology.addNeighbor f.neighbors x.outer x.agg) x.agg x.outer sw = _
  rw [addNeighbor_apply houter, addNeighbor_apply hagg, linksAt_add hx, List.map_append, hold,
    List.append_assoc]
  congr 1
  by_cases ho : sw = x.outer
  · subst ho
    rw [if_pos rfl, if_neg hne, if_pos rfl, if_neg hne]
    show [x.agg] = [if (f.add x).outer f.globalLinkId = x.outer then _ else _]
    rw [outer_add_new, if_pos rfl, agg_add_new]
  · by_cases ha : sw = x.agg
    · subst ha
      rw [if_neg hne.symm, if_pos rfl, if_neg hne.symm, if_pos rfl]
      show [x.outer] = [if (f.add x).outer f.globalLinkId = x.agg then _ else _]
      rw [outer_add_new, if_neg hne]
    · rw [if_neg ho, if_neg ha, if_neg ho, if_neg ha]
      rfl

/-- A new link keeps the fabric charted. -/
theorem Charted.add (hc : f.Charted) : (f.add x).Charted where
  id l hl := by
    rcases Finset.mem_insert.mp (links_add f x ▸ hl) with rfl | hl
    · rw [edge_add_new]
    · rw [edge_add_old hw hx hl]
      exact hc.id l hl
  neighbors sw := neighbors_add hw hx hc sw
  nodup := hc.nodup
  mem_switchTypewiseList type sw := by
    rw [getSwitchType_add]
    exact hc.mem_switchTypewiseList type sw

/-! ## The two kinds of links -/

omit hw hx in
lemma mem_getAdjacentSwitchIds_tor :
    t ∈ f.getAdjacentSwitchIds a .TOR ↔ t ∈ f.neighbors a ∧ f.getSwitchType t = .TOR := by
  rw [getAdjacentSwitchIds, if_neg (by decide), List.mem_toFinset, List.mem_filter,
    decide_eq_true_iff]

omit hx in
/-- The neighbours of an agg that are ToRs. -/
lemma mem_adjacent_tors (hc : f.Charted) {a t : ℕ} (ha : f.getSwitchType a = .AGG) :
    t ∈ f.getAdjacentSwitchIds a .TOR ↔ ∃ m ∈ f.tiers.low t, f.agg m = a := by
  rw [mem_getAdjacentSwitchIds_tor]
  have hopp : ∀ l ∈ f.links, f.agg l = a → f.opposite a l = f.outer l := by
    rintro l hl rfl
    exact if_neg (hw.outer_ne_agg hl hl)
  constructor
  · rintro ⟨hmem, ht⟩
    rw [hc.neighbors] at hmem
    obtain ⟨l, hl, rfl⟩ := List.mem_map.mp hmem
    obtain ⟨hl, ho | hagg⟩ := mem_linksAt.mp hl
    · have htype := hw.outer_type l hl
      rw [ho, ha] at htype
      split at htype <;> cases htype
    · rw [hopp l hl hagg] at ht ⊢
      exact ⟨l, torAgg_of_mem_linksAt hw ht (mem_linksAt.mpr ⟨hl, .inl rfl⟩), hagg⟩
  · rintro ⟨l, hl, hagg⟩
    obtain ⟨⟨hl, htype⟩, ht⟩ := mem_low.mp hl
    refine ⟨?_, ht ▸ hw.outer_tor hl htype⟩
    rw [hc.neighbors]
    exact List.mem_map.mpr ⟨l, mem_linksAt.mpr ⟨hl, .inr hagg⟩, (hopp l hl hagg).trans ht⟩

omit hw in
/-- The core switch is a neighbour of the agg now, but no ToR. -/
lemma getAdjacentSwitchIds_add_aggCore (htype : x.type = .AGG_CORE) :
    (f.add x).getAdjacentSwitchIds x.agg .TOR = f.getAdjacentSwitchIds x.agg .TOR := by
  ext t
  rw [mem_getAdjacentSwitchIds_tor, mem_getAdjacentSwitchIds_tor, getSwitchType_add]
  refine and_congr_left fun ht => ?_
  show t ∈ Topology.addNeighbor (Topology.addNeighbor _ _ _) x.agg x.outer x.agg ↔ _
  rw [mem_addNeighbor, mem_addNeighbor, or_assoc]
  refine or_iff_left ?_
  rintro (⟨heq, -⟩ | ⟨-, rfl⟩)
  · exact hx.outer_ne_agg heq.symm
  · have ho := hx.outer_type
    rw [ht, htype] at ho
    cases ho

/-- A ToR-Agg link affects its ToR alone; no link to the core is there yet. -/
lemma Wired.add_torAgg (htype : x.type = .TOR_AGG) (htors : x.affectedTors = {x.outer})
    (hlow : ∀ l ∈ f.links, f.getLinkType l = .TOR_AGG) : (f.add x).Wired := by
  have hlinks := links_add f x
  refine hw.add hx (fun t => ?_) fun l hl t => ?_
  · rw [htors, Finset.mem_singleton, onPath_torAgg (hlinks ▸ Finset.mem_insert_self _ _)
      ((getLinkType_add_new f x).trans htype), outer_add_new, eq_comm]
  · have hl' : l ∈ (f.add x).links := hlinks ▸ Finset.mem_insert_of_mem hl
    rw [onPath_torAgg hl' ((getLinkType_add_old hw hx hl).trans (hlow l hl)),
      onPath_torAgg hl (hlow l hl), outer_add_old hl]

/-- An Agg-Core link affects the ToRs next to its agg. -/
lemma Wired.add_aggCore (htype : x.type = .AGG_CORE)
    (htors : ∀ t, t ∈ x.affectedTors ↔ ∃ m ∈ f.tiers.low t, f.agg m = x.agg) :
    (f.add x).Wired := by
  have hlinks := links_add f x
  have hlow : ∀ t, (f.add x).tiers.low t = f.tiers.low t := fun t => by
    rw [low_add hw hx, if_neg]
    rw [htype]
    exact fun h => by cases h.1
  have hagg : ∀ t, ∀ m ∈ f.tiers.low t, (f.add x).agg m = f.agg m := fun t m hm =>
    agg_add_old (mem_low.mp hm).1.1
  refine hw.add hx (fun t => ?_) fun l hl t => ?_
  · rw [htors, onPath_aggCore (hlinks ▸ Finset.mem_insert_self _ _)
      ((getLinkType_add_new f x).trans htype), agg_add_new, hlow]
    exact exists_congr fun m => and_congr_right fun hm => by rw [hagg t m hm]
  · have hl' : l ∈ (f.add x).links := hlinks ▸ Finset.mem_insert_of_mem hl
    have htype' := getLinkType_add_old hw hx hl
    cases hlt : f.getLinkType l with
    | TOR_AGG =>
      rw [onPath_torAgg hl' (htype'.trans hlt), onPath_torAgg hl hlt, outer_add_old hl]
    | AGG_CORE =>
      rw [onPath_aggCore hl' (htype'.trans hlt), onPath_aggCore hl hlt, hlow, agg_add_old hl]
      exact exists_congr fun m => and_congr_right fun hm => by rw [hagg t m hm]

end Add

end Fabric

end LinkGuardian.Simulator
