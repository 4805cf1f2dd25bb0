import LinkGuardian.Simulator.Toggle

/-!
# What CorrOpt computes before it disables links

Before it disables links, CorrOpt computes how many paths the ToRs below would keep.  On a
coherent topology neither check raises, and both compare the number of paths without the links
with the constraint.
-/

namespace LinkGuardian.Simulator

open Removal Fabric

/-! ## What a set of links would take away -/

/-- What is recorded about a set of links: the aggs that each ToR would lose, the uplinks that
each agg would keep, and the ToRs below. -/
structure WhatIf.Agrees (topo : Topology) (S : Finset ℕ) (w : WhatIf) : Prop where
  exclude : ∀ t, (w.perTorAggSwitchesToExclude t : Multiset ℕ) =
    (topo.fabric.tiers.low t ∩ S).val.map topo.fabric.agg
  update : ∀ a, topo.fabric.getSwitchType a = .AGG →
    (w.aggSwitchesToUpdate a).getD (topo.numActiveUplinks a) =
      (topo.fabric.tiers.up a \ (topo.disabledLinks ∪ S)).card
  affected : w.allAffectedTors = S.biUnion topo.fabric.linkIdToAffectedTors

namespace WhatIf

variable {topo : Topology} {S : Finset ℕ} {w : WhatIf} {l : ℕ}

lemma agrees_empty (h : Coherent topo) : Agrees topo ∅ {} where
  exclude t := by
    rw [Finset.inter_empty]
    rfl
  update a ha := by
    rw [Finset.union_empty]
    exact h.attached.numActiveUplinks a ha
  affected := Finset.biUnion_empty.symm

/-- One ToR-Agg link more: its ToR loses an agg, and is the only one affected. -/
lemma addLink_torAgg (hw : topo.fabric.Wired) (hl : l ∈ topo.fabric.links)
    (htype : topo.fabric.getLinkType l = .TOR_AGG) : w.addLink topo l = some { w with
      perTorAggSwitchesToExclude := Function.update w.perTorAggSwitchesToExclude
        (topo.fabric.outer l)
        (w.perTorAggSwitchesToExclude (topo.fabric.outer l) ++ [topo.fabric.agg l])
      allAffectedTors := w.allAffectedTors ∪ topo.fabric.linkIdToAffectedTors l } := by
  rw [addLink, detach, htype]
  show Option.bind (Option.bind (Option.bind (topo.fabric.connectedSwitch l .TOR) _) _) _ = _
  rw [connectedSwitch_outer (hw.outer_tor hl htype), Option.bind_some]
  show Option.bind (Option.bind (Option.bind (topo.fabric.connectedSwitch l .AGG) _) _) _ = _
  rw [hw.connectedSwitch_agg hl]
  rfl

/-- One Agg-Core link more: its agg loses an uplink, which all ToRs that reach the agg will miss. -/
lemma addLink_aggCore (hw : topo.fabric.Wired) (hl : l ∈ topo.fabric.links)
    (htype : topo.fabric.getLinkType l = .AGG_CORE) : w.addLink topo l = some { w with
      aggSwitchesToUpdate := Function.update w.aggSwitchesToUpdate (topo.fabric.agg l)
        (some ((w.aggSwitchesToUpdate (topo.fabric.agg l)).getD
          (topo.numActiveUplinks (topo.fabric.agg l)) - 1))
      allAffectedTors := w.allAffectedTors ∪ topo.fabric.linkIdToAffectedTors l } := by
  have huplinks : (w.aggSwitchesToUpdate (topo.fabric.agg l)).elim
      (topo.getNumActiveUplinks (topo.fabric.agg l)) some =
        some ((w.aggSwitchesToUpdate (topo.fabric.agg l)).getD
          (topo.numActiveUplinks (topo.fabric.agg l))) := by
    cases w.aggSwitchesToUpdate (topo.fabric.agg l) with
    | none => simp [Topology.getNumActiveUplinks, guard, hw.agg_type l hl]
    | some uplinks => rfl
  rw [addLink, detach, htype]
  show Option.bind (Option.bind (Option.bind (topo.fabric.connectedSwitch l .AGG) _) _) _ = _
  rw [hw.connectedSwitch_agg hl, Option.bind_some]
  show Option.bind (Option.bind (Option.bind (topo.fabric.connectedSwitch l .CORE) _) _) _ = _
  rw [connectedSwitch_outer (hw.outer_core hl htype)]
  show Option.bind (Option.bind (Option.elim _ _ _) _) _ = _
  rw [huplinks]
  rfl

/-- **One link more is recorded.** -/
lemma Agrees.addLink (hw : topo.fabric.Wired) (h : Agrees topo S w) (hl : l ∈ topo.enabledLinks)
    (hS : l ∉ S) : ∃ w', w.addLink topo l = some w' ∧ Agrees topo (insert l S) w' := by
  obtain ⟨hlinks, hD⟩ := Coherent.mem_enabledLinks.mp hl
  have haffected : w.allAffectedTors ∪ topo.fabric.linkIdToAffectedTors l =
      (insert l S).biUnion topo.fabric.linkIdToAffectedTors := by
    rw [h.affected, Finset.biUnion_insert, Finset.union_comm]
  cases htype : topo.fabric.getLinkType l with
  | TOR_AGG =>
    refine ⟨_, addLink_torAgg hw hlinks htype, fun t => ?_, fun a ha => ?_, haffected⟩
    · dsimp only
      by_cases hto : t = topo.fabric.outer l
      · have hlow : l ∈ topo.fabric.tiers.low t := mem_low.mpr ⟨⟨hlinks, htype⟩, hto.symm⟩
        subst hto
        rw [Function.update_self, Finset.inter_insert_of_mem hlow,
          Finset.insert_val_of_notMem fun hmem => hS (Finset.mem_inter.mp hmem).2,
          Multiset.map_cons, ← h.exclude, ← Multiset.coe_add, add_comm]
        rfl
      · rw [Function.update_of_ne hto, h.exclude t,
          Finset.inter_insert_of_notMem fun hlow => hto (mem_low.mp hlow).2.symm]
    · rw [h.update a ha, Finset.union_insert,
        TwoTier.sdiff_insert_of_notMem (Topology.notMem_up_of_torAgg htype a)]
  | AGG_CORE =>
    refine ⟨_, addLink_aggCore hw hlinks htype, fun t => ?_, fun a ha => ?_, haffected⟩
    · rw [h.exclude t, Finset.inter_insert_of_notMem (Topology.notMem_low_of_aggCore htype t)]
    · dsimp only
      by_cases hto : a = topo.fabric.agg l
      · have hup : l ∈ topo.fabric.tiers.up a := mem_up.mpr ⟨⟨hlinks, htype⟩, hto.symm⟩
        have hmem : l ∈ topo.fabric.tiers.up a \ (topo.disabledLinks ∪ S) :=
          Finset.mem_sdiff.mpr ⟨hup, fun hmem => (Finset.mem_union.mp hmem).elim hD hS⟩
        subst hto
        rw [Function.update_self, Option.getD_some, h.update _ ha, Finset.union_insert,
          Finset.sdiff_insert, Finset.card_erase_of_mem hmem,
          Nat.cast_pred (Finset.card_pos.mpr ⟨l, hmem⟩)]
      · rw [Function.update_of_ne hto, h.update a ha, Finset.union_insert,
          TwoTier.sdiff_insert_of_notMem fun hup => hto (mem_up.mp hup).2.symm]

/-- **The paths of a ToR without the set** are those that are computed from the record. -/
lemma Agrees.getNumPathsToCore (hco : Coherent topo) (h : Agrees topo S w)
    (hS : S ⊆ topo.enabledLinks) {t : ℕ} (ht : topo.fabric.getSwitchType t = .TOR) :
    topo.getNumPathsToCore t (w.perTorAggSwitchesToExclude t) w.aggSwitchesToUpdate =
      some (topo.fabric.tiers.paths t (topo.disabledLinks ∪ S) : ℤ) := by
  have hdisj : Disjoint S topo.disabledLinks := Finset.disjoint_left.mpr fun l hl =>
    (Coherent.mem_enabledLinks.mp (hS hl)).2
  exact Topology.getNumPathsToCore_eq hco.wired hco.attached ht hdisj (h.exclude t) h.update

/-- All links of a set are recorded, in any order. -/
lemma agrees_foldlM (hco : Coherent topo) (order : SetOrder) (hS : S ⊆ topo.enabledLinks) :
    ∃ w, (order.toList S).foldlM (WhatIf.addLink topo) {} = some w ∧ Agrees topo S w := by
  have hset : (order.toList S).toFinset = S := by
    ext l
    rw [List.mem_toFinset, order.mem_toList]
  suffices hloop : ∃ w, (order.toList S).foldlM (WhatIf.addLink topo) {} = some w ∧
      Agrees topo (order.toList S).toFinset w by
    rwa [hset] at hloop
  refine Loop.total (P := fun done w => Agrees topo done.toFinset w) (agrees_empty hco)
    fun pre l post w hxs h => ?_
  have hl : l ∈ S := by
    rw [← order.mem_toList, hxs]
    exact List.mem_append_right _ List.mem_cons_self
  have hnot : l ∉ pre.toFinset := fun hmem =>
    Loop.notMem_of_nodup (order.nodup S) hxs (List.mem_toFinset.mp hmem)
  obtain ⟨w', hw', h'⟩ := h.addLink hco.wired (hS hl) hnot
  refine ⟨w', hw', ?_⟩
  have hinsert : (pre ++ [l]).toFinset = insert l pre.toFinset := by
    rw [List.toFinset_append, Finset.union_comm]
    rfl
  rwa [hinsert]

end WhatIf

/-! ## The fast checker -/

namespace CorrOptSolution

variable {topo : Topology} {l t : ℕ} (sol : CorrOptSolution)

/-- A ToR would keep too few paths if the set were disabled as well. -/
def Short (topo : Topology) (S : Finset ℕ) (t : ℕ) : Prop :=
  (topo.fabric.tiers.paths t (topo.disabledLinks ∪ S) : ℤ) < sol.minActivePathsConstraint

instance (topo : Topology) (S : Finset ℕ) (t : ℕ) : Decidable (sol.Short topo S t) :=
  inferInstanceAs (Decidable (_ < _))

lemma tor_of_affected (h : Coherent topo) (hl : l ∈ topo.fabric.links)
    (ht : t ∈ topo.fabric.linkIdToAffectedTors l) : topo.fabric.getSwitchType t = .TOR :=
  h.wired.tor_of_onPath ((h.wired.affectedTors l hl t).mp ht)

section Direction

variable (hw : topo.fabric.Wired) (hl : l ∈ topo.fabric.links)
include hw hl

lemma getDownstream_torAgg (htype : topo.fabric.getLinkType l = .TOR_AGG) :
    topo.fabric.getDownstreamSwitchIdAndType l = (topo.fabric.outer l, .TOR) := by
  show (if (topo.fabric.getSwitchType (topo.fabric.outer l)).value <
      (topo.fabric.getSwitchType (topo.fabric.agg l)).value then
    (topo.fabric.outer l, topo.fabric.getSwitchType (topo.fabric.outer l))
    else (topo.fabric.agg l, topo.fabric.getSwitchType (topo.fabric.agg l))) = _
  rw [hw.outer_tor hl htype, hw.agg_type l hl]
  rfl

lemma getUpstream_torAgg (htype : topo.fabric.getLinkType l = .TOR_AGG) :
    topo.fabric.getUpstreamSwitchIdAndType l = (topo.fabric.agg l, .AGG) := by
  show (if (topo.fabric.getSwitchType (topo.fabric.outer l)).value >
      (topo.fabric.getSwitchType (topo.fabric.agg l)).value then
    (topo.fabric.outer l, topo.fabric.getSwitchType (topo.fabric.outer l))
    else (topo.fabric.agg l, topo.fabric.getSwitchType (topo.fabric.agg l))) = _
  rw [hw.outer_tor hl htype, hw.agg_type l hl]
  rfl

lemma getDownstream_aggCore (htype : topo.fabric.getLinkType l = .AGG_CORE) :
    topo.fabric.getDownstreamSwitchIdAndType l = (topo.fabric.agg l, .AGG) := by
  show (if (topo.fabric.getSwitchType (topo.fabric.outer l)).value <
      (topo.fabric.getSwitchType (topo.fabric.agg l)).value then
    (topo.fabric.outer l, topo.fabric.getSwitchType (topo.fabric.outer l))
    else (topo.fabric.agg l, topo.fabric.getSwitchType (topo.fabric.agg l))) = _
  rw [hw.outer_core hl htype, hw.agg_type l hl]
  rfl

end Direction

/-- **The fast checker looks for an affected ToR that would keep too few paths.**  It asks for the
number of paths without the link, by the argument that excludes an agg or the one that lowers its
uplinks. -/
theorem fastCheckViolation_eq (h : Coherent topo) (hl : l ∈ topo.enabledLinks) :
    sol.fastCheckViolation topo l =
      some ((setToList (topo.fabric.linkIdToAffectedTors l)).find? fun t =>
        decide (sol.Short topo {l} t)) := by
  obtain ⟨hlinks, -⟩ := Coherent.mem_enabledLinks.mp hl
  obtain ⟨w, hw, hagrees⟩ := (WhatIf.agrees_empty h).addLink h.wired hl (Finset.notMem_empty l)
  have hcount : ∀ t ∈ setToList (topo.fabric.linkIdToAffectedTors l),
      topo.getNumPathsToCore t (w.perTorAggSwitchesToExclude t) w.aggSwitchesToUpdate =
        some (topo.fabric.tiers.paths t (topo.disabledLinks ∪ {l}) : ℤ) := fun t ht =>
    hagrees.getNumPathsToCore h (Finset.singleton_subset_iff.mpr hl)
      (tor_of_affected h hlinks (mem_setToList.mp ht))
  -- the checker asks for what is recorded about the link alone
  cases htype : topo.fabric.getLinkType l with
  | TOR_AGG =>
    have hrecord := WhatIf.addLink_torAgg (w := {}) h.wired hlinks htype
    rw [hw, Option.some_inj] at hrecord
    unfold fastCheckViolation
    rw [getDownstream_torAgg h.wired hlinks htype]
    show sol.violatingTor topo l [(topo.fabric.getUpstreamSwitchIdAndType l).1] _ = _
    rw [getUpstream_torAgg h.wired hlinks htype]
    refine Loop.findM?_eq_some fun t ht => ?_
    have hto : topo.fabric.outer l = t := (onPath_torAgg hlinks htype).mp
      ((h.wired.affectedTors l hlinks t).mp (mem_setToList.mp ht))
    have hexclude : w.perTorAggSwitchesToExclude t = [topo.fabric.agg l] := by
      rw [hrecord, ← hto]
      exact Function.update_self _ _ _
    have hupdate : w.aggSwitchesToUpdate = fun _ => none := by rw [hrecord]
    have hcount := hcount t ht
    rw [hexclude, hupdate] at hcount
    show Option.bind (topo.getNumPathsToCore t [topo.fabric.agg l] fun _ => none) _ = _
    rw [hcount]
    rfl
  | AGG_CORE =>
    have hrecord := WhatIf.addLink_aggCore (w := {}) h.wired hlinks htype
    rw [hw, Option.some_inj] at hrecord
    unfold fastCheckViolation
    rw [getDownstream_aggCore h.wired hlinks htype]
    have huplinks : topo.getNumActiveUplinks (topo.fabric.agg l) =
        some (topo.numActiveUplinks (topo.fabric.agg l)) := by
      simp [Topology.getNumActiveUplinks, guard, h.wired.agg_type l hlinks]
    show Option.bind (topo.getNumActiveUplinks (topo.fabric.agg l)) _ = _
    rw [huplinks]
    refine Loop.findM?_eq_some fun t ht => ?_
    have hcount := hcount t ht
    rw [hrecord] at hcount
    show Option.bind (topo.getNumPathsToCore t [] _) _ = _
    exact (congrArg (Option.bind · _) hcount).trans rfl

/-- **The check of a set finds the affected ToRs that would keep too few paths.** -/
theorem getTorsWithCapacityConstraintViolation_eq (h : Coherent topo) (order : SetOrder)
    {S : Finset ℕ} (hS : S ⊆ topo.enabledLinks) :
    sol.getTorsWithCapacityConstraintViolation order topo S =
      some ((S.biUnion topo.fabric.linkIdToAffectedTors).filter (sol.Short topo S)) := by
  obtain ⟨w, hw, hagrees⟩ := WhatIf.agrees_foldlM h order hS
  have htor : ∀ t ∈ setToList w.allAffectedTors, topo.fabric.getSwitchType t = .TOR := by
    intro t ht
    rw [mem_setToList, hagrees.affected, Finset.mem_biUnion] at ht
    obtain ⟨l, hl, ht⟩ := ht
    exact tor_of_affected h (Coherent.mem_enabledLinks.mp (hS hl)).1 ht
  have hset : (setToList w.allAffectedTors).toFinset =
      S.biUnion topo.fabric.linkIdToAffectedTors := by
    ext t
    rw [List.mem_toFinset, mem_setToList, hagrees.affected]
  rw [← hset]
  refine Option.bind_eq_some_iff.mpr ⟨w, hw, ?_⟩
  suffices hloop : ∃ violation, (setToList w.allAffectedTors).foldlM
      (fun violation affectedTor => do
        let numPathsToCore ← topo.getNumPathsToCore affectedTor
          (w.perTorAggSwitchesToExclude affectedTor) w.aggSwitchesToUpdate
        return if numPathsToCore < sol.minActivePathsConstraint then insert affectedTor violation
          else violation) ∅ = some violation ∧
      violation = (setToList w.allAffectedTors).toFinset.filter (sol.Short topo S) by
    obtain ⟨violation, hloop, rfl⟩ := hloop
    exact hloop
  refine Loop.total (P := fun done violation => violation = done.toFinset.filter (sol.Short topo S))
    rfl fun pre t post violation hxs hP => ?_
  have ht : t ∈ setToList w.allAffectedTors := by
    rw [hxs]
    exact List.mem_append_right _ List.mem_cons_self
  refine ⟨_, Option.bind_eq_some_iff.mpr
    ⟨_, hagrees.getNumPathsToCore h hS (htor t ht), rfl⟩, ?_⟩
  have hone : [t].toFinset.filter (sol.Short topo S) =
      if sol.Short topo S t then {t} else ∅ := Finset.filter_singleton _ _
  rw [hP, List.toFinset_append, Finset.filter_union, hone]
  by_cases hshort : sol.Short topo S t
  · rw [if_pos hshort, Finset.union_comm _ {t}, ← Finset.insert_eq]
    exact if_pos hshort
  · rw [if_neg hshort, Finset.union_empty]
    exact if_neg hshort

end CorrOptSolution

/-! ## The constraint -/

/-- Every ToR keeps enough paths when a set of links is disabled. -/
def Fabric.Kept (f : Fabric) (m : ℤ) (D : Finset ℕ) : Prop :=
  f.tiers.network.Feasible {t | t ∈ f.switchTypewiseList .TOR} m D

lemma Fabric.Kept.anti {f : Fabric} {m : ℤ} {D D' : Finset ℕ} (h : f.Kept m D) (hsub : D' ⊆ D) :
    f.Kept m D' :=
  Network.Feasible.anti h hsub

namespace CorrOptSolution

variable {topo : Topology} {l t : ℕ} {S : Finset ℕ} {sol : CorrOptSolution}

lemma mem_tors_of_affected (h : Coherent topo) (hc : topo.fabric.Charted)
    (hl : l ∈ topo.fabric.links) (ht : t ∈ topo.fabric.linkIdToAffectedTors l) :
    t ∈ topo.fabric.switchTypewiseList .TOR := by
  have hpath := (h.wired.affectedTors l hl t).mp ht
  have hlt : ∀ m ∈ topo.fabric.tiers.low t, t < topo.fabric.globalSwitchId := fun m hm =>
    h.wired.lt_globalSwitchId m (mem_low.mp hm).1.1 t (.inl (mem_low.mp hm).2)
  refine (hc.mem_switchTypewiseList _ _).mpr ⟨?_, tor_of_affected h hl ht⟩
  rcases hpath with hlow | ⟨m, hm, -⟩
  · exact hlt l hlow
  · exact hlt m hm

/-- **The constraint is kept by a set when no affected ToR is short of paths.**  Other ToRs keep all
the paths they have, so the check of the affected ones is enough. -/
theorem kept_union_iff (h : Coherent topo) (hc : topo.fabric.Charted)
    (hS : S ⊆ topo.enabledLinks)
    (hkept : topo.fabric.Kept sol.minActivePathsConstraint topo.disabledLinks) :
    topo.fabric.Kept sol.minActivePathsConstraint (topo.disabledLinks ∪ S) ↔
      ∀ t ∈ S.biUnion topo.fabric.linkIdToAffectedTors, ¬ sol.Short topo S t := by
  have hlinks : ∀ l ∈ S, l ∈ topo.fabric.links := fun l hl =>
    (Coherent.mem_enabledLinks.mp (hS hl)).1
  constructor
  · intro hunion t ht hshort
    obtain ⟨l, hl, ht⟩ := Finset.mem_biUnion.mp ht
    exact absurd hshort (not_lt.mpr (hunion t (mem_tors_of_affected h hc (hlinks l hl) ht)))
  · intro hnone
    refine Network.Feasible.union_of_affected hkept fun t _ ⟨l, hl, haffects⟩ => ?_
    have ht := (h.wired.affectedTors l (hlinks l hl) t).mpr haffects
    exact not_lt.mp (hnone t (Finset.mem_biUnion.mpr ⟨l, hl, ht⟩))

end CorrOptSolution

end LinkGuardian.Simulator
