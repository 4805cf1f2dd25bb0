import LinkGuardian.Simulator.Actions
import LinkGuardian.Simulator.Failure

/-!
# Disabling several links

Corrupting links can be disabled one after the other, in any order.  What comes out is what the
set of the links makes of the topology, and one recovery is requested for each link.
-/

namespace LinkGuardian.Simulator

open LinkGuardian.Simulator.Topology

/-- The effect of disabling the links of a list in turn.  The loss rates stay, so that what the set
saves can be computed before or after. -/
structure DisabledAll (a : Acting) (links : List ℕ) (a' : Acting) : Prop where
  coherent : Coherent a'.topo
  fabric : a'.topo.fabric = a.topo.fabric
  disabledLinks : a'.topo.disabledLinks = a.topo.disabledLinks ∪ links.toFinset
  corruptingLinks : a'.topo.corruptingLinks = a.topo.corruptingLinks \ links.toFinset
  lossRate : ∀ m ∈ a.topo.fabric.links, a'.topo.getLinkLossRate m = a.topo.getLinkLossRate m
  totalLossRate :
    a'.topo.totalLossRate = a.topo.totalLossRate - (links.map a.topo.getLinkLossRate).sum
  events : ∃ recoveries, a'.events = a.events ++ recoveries ∧
    recoveries.map LinkEvent.linkId = links.map Nat.cast ∧
      ∀ e ∈ recoveries, e.type = .RecoveryEvent

lemma disabledAll_nil {a : Acting} (h : Coherent a.topo) : DisabledAll a [] a where
  coherent := h
  fabric := rfl
  disabledLinks := (Finset.union_empty _).symm
  corruptingLinks := Finset.sdiff_empty.symm
  lossRate _ _ := rfl
  totalLossRate := (sub_zero _).symm
  events := ⟨[], (List.append_nil _).symm, rfl, nofun⟩

/-- One link more.  The links so far are not corrupting any more, so it has to be another one. -/
lemma DisabledAll.disable {a b : Acting} {links : List ℕ} {l : ℕ} (h : DisabledAll a links b)
    (hc : Coherent a.topo) (hl : l ∈ a.topo.corruptingLinks) (hnot : l ∉ links) (time : ℤ) :
    ∃ b', b.disable time l = some b' ∧ DisabledAll a (links ++ [l]) b' := by
  have hcorr : l ∈ b.topo.corruptingLinks := by
    rw [h.corruptingLinks]
    exact Finset.mem_sdiff.mpr ⟨hl, fun hmem => hnot (List.mem_toFinset.mp hmem)⟩
  obtain ⟨topo, hs, hd⟩ := h.coherent.disableLink hcorr
  have hset : (links ++ [l]).toFinset = insert l links.toFinset := by
    rw [List.toFinset_append, Finset.union_comm]
    rfl
  -- disabling keeps the loss rate of the link, which the sum over the list needs
  have hrate : ∀ m ∈ a.topo.fabric.links, topo.getLinkLossRate m = a.topo.getLinkLossRate m := by
    intro m hm
    rw [← h.lossRate m hm]
    rw [← h.fabric] at hm
    by_cases hml : m = l
    · subst hml
      show (topo.link m).lossRate = _
      rw [hd.set.link_self]
      rfl
    · exact congrArg LinkState.lossRate (hd.set.link_of_ne h.coherent.wired
        (h.coherent.corrupting_subset hcorr) hm hml)
  obtain ⟨recoveries, hevents, hids, htypes⟩ := h.events
  refine ⟨_, Acting.disable_eq_some.mpr ⟨topo, hs, rfl⟩, ?_⟩
  constructor
  case coherent => exact hd.coherent h.coherent hcorr
  case fabric => exact hd.set.fabric.trans h.fabric
  case disabledLinks => rw [hd.disabledLinks, h.disabledLinks, hset, Finset.union_insert]
  case corruptingLinks =>
    rw [hd.corruptingLinks, h.corruptingLinks, hset, Finset.sdiff_insert]
  case lossRate => exact hrate
  case totalLossRate =>
    rw [hd.totalLossRate, h.totalLossRate, h.lossRate l (hc.corrupting_subset hl), List.map_append,
      List.sum_append, List.map_singleton, List.sum_singleton, sub_add_eq_sub_sub]
  case events =>
    obtain ⟨delay, -, heq⟩ := getCorroptRecoveryEvent_eq b.gen l time
    refine ⟨recoveries ++ [(getCorroptRecoveryEvent b.gen l time).1], ?_, ?_, fun e he => ?_⟩
    · show b.events ++ _ = _
      rw [hevents, List.append_assoc]
    · rw [List.map_append, List.map_append, hids, heq]
      rfl
    · rcases List.mem_append.mp he with he | he
      · exact htypes e he
      · rw [List.mem_singleton.mp he, heq]

/-- **Links that meet a condition can be disabled in a loop over corrupting links.** -/
theorem disableIf_total {a : Acting} (hc : Coherent a.topo) {links : List ℕ}
    (hnodup : links.Nodup) (hsub : ∀ l ∈ links, l ∈ a.topo.corruptingLinks)
    (p : Fabric → ℕ → Prop) [∀ f l, Decidable (p f l)] (time : ℤ) :
    ∃ a', links.foldlM (fun a l => if p a.topo.fabric l then a.disable time l else some a) a =
      some a' ∧ DisabledAll a (links.filter fun l => p a.topo.fabric l) a' := by
  refine Loop.total (P := fun done b =>
    DisabledAll a (done.filter fun l => p a.topo.fabric l) b) (disabledAll_nil hc)
    fun pre l post b hxs h => ?_
  have hl : l ∈ a.topo.corruptingLinks := hsub l (by
    rw [hxs]
    exact List.mem_append_right _ List.mem_cons_self)
  have hnot := Loop.notMem_of_nodup hnodup hxs
  rw [h.fabric, List.filter_append, List.filter_singleton]
  by_cases hp : p a.topo.fabric l
  · rw [if_pos hp, decide_eq_true hp]
    exact h.disable hc hl (fun hmem => hnot (List.mem_filter.mp hmem).1) time
  · rw [if_neg hp, decide_eq_false hp]
    exact ⟨b, rfl, by rwa [cond_false, List.append_nil]⟩

/-- **Corrupting links can be disabled in turn.** -/
theorem disableAll_total {a : Acting} (hc : Coherent a.topo) {links : List ℕ}
    (hnodup : links.Nodup) (hsub : ∀ l ∈ links, l ∈ a.topo.corruptingLinks) (time : ℤ) :
    ∃ a', a.disableAll time links = some a' ∧ DisabledAll a links a' := by
  refine Loop.total (P := fun done b => DisabledAll a done b) (disabledAll_nil hc)
    fun pre l post b hxs h => ?_
  have hl : l ∈ a.topo.corruptingLinks := hsub l (by
    rw [hxs]
    exact List.mem_append_right _ List.mem_cons_self)
  exact h.disable hc hl (Loop.notMem_of_nodup hnodup hxs) time

/-- One list after the other: step 2 and step 3 of the optimizer together disable the links of
both. -/
lemma DisabledAll.trans {a b c : Acting} {links links' : List ℕ} (hc : Coherent a.topo)
    (h : DisabledAll a links b) (h' : DisabledAll b links' c)
    (hsub : ∀ l ∈ links', l ∈ a.topo.corruptingLinks) : DisabledAll a (links ++ links') c where
  coherent := h'.coherent
  fabric := h'.fabric.trans h.fabric
  disabledLinks := by
    rw [h'.disabledLinks, h.disabledLinks, List.toFinset_append, Finset.union_assoc]
  corruptingLinks := by
    rw [h'.corruptingLinks, h.corruptingLinks, List.toFinset_append, sdiff_sdiff_left]
    rfl
  lossRate m hm := by rw [h'.lossRate m (h.fabric ▸ hm), h.lossRate m hm]
  totalLossRate := by
    have hmap : links'.map b.topo.getLinkLossRate = links'.map a.topo.getLinkLossRate :=
      List.map_congr_left fun l hl => h.lossRate l (hc.corrupting_subset (hsub l hl))
    rw [h'.totalLossRate, h.totalLossRate, hmap, List.map_append, List.sum_append,
      sub_add_eq_sub_sub]
  events := by
    obtain ⟨recoveries, hevents, hids, htypes⟩ := h.events
    obtain ⟨recoveries', hevents', hids', htypes'⟩ := h'.events
    refine ⟨recoveries ++ recoveries', ?_, ?_, fun e he => ?_⟩
    · rw [hevents', hevents, List.append_assoc]
    · rw [List.map_append, List.map_append, hids, hids']
    · exact (List.mem_append.mp he).elim (htypes e) (htypes' e)

end LinkGuardian.Simulator
