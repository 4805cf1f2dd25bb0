import LinkGuardian.Simulator.Built
import LinkGuardian.Simulator.LgPorts
import LinkGuardian.Simulator.Simulation

/-!
# Coherent topologies

A topology is `Coherent` when everything that it keeps incrementally agrees with the links: the
sets with the attributes, the lists and counters with the paths, the sums, the heaps and the
counts of LinkGuardian ports with the values that they sum up.  A built topology is coherent.

The simulator never computes these values again; it adds and takes away what a step changes.
`Coherent` is what makes this right, and every operation of the simulation is proved to keep it, so
the properties of all runs rest on it.
-/

namespace LinkGuardian.Simulator

open Removal Fabric

namespace Topology

variable (topo : Topology)

def enabledLinks : Finset ℕ := topo.fabric.links \ topo.disabledLinks

end Topology

/-- What the initial total loss rates count over the links of the fabric: nothing, unless the
number of links that a builder computes is wrong. -/
def Fabric.excess (f : Fabric) : ℚ := (f.numLinks - f.globalLinkId) * initialLinkLossRate

structure Coherent (topo : Topology) : Prop where
  wired : topo.fabric.Wired
  disabled_subset : topo.disabledLinks ⊆ topo.fabric.links
  corrupting_subset : topo.corruptingLinks ⊆ topo.fabric.links
  disjoint : Disjoint topo.disabledLinks topo.corruptingLinks
  disabled : ∀ l ∈ topo.fabric.links, topo.isLinkDisabled l = true ↔ l ∈ topo.disabledLinks
  attached : Attached topo.fabric topo.aggSwitches topo.numActiveUplinks topo.disabledLinks
  numPathsToCore : ∀ t ∈ topo.fabric.switchTypewiseList .TOR,
    topo.numPathsToCore t = topo.fabric.tiers.paths t topo.disabledLinks
  totalLossRate : topo.totalLossRate =
    topo.fabric.excess + ∑ l ∈ topo.enabledLinks, topo.getLinkLossRate l
  totalEffectiveLossRate : topo.totalEffectiveLossRate =
    topo.fabric.excess + ∑ l ∈ topo.enabledLinks, topo.getLinkEffectiveLossRate l
  perPodCapacity : ∀ pod type, topo.perPodCapacity pod type =
    ∑ l ∈ topo.fabric.linksOfPod pod type \ topo.disabledLinks, topo.getEffectiveLinkCapacity l
  plain : ∀ l ∈ topo.enabledLinks, topo.getLinkguardianEnabled l = false →
    topo.getLinkEffectiveLossRate l = topo.getLinkLossRate l ∧
      topo.getEffectiveLinkCapacity l = topo.fabric.getLinkCapacity l
  lgEnabled : ∀ l ∈ topo.fabric.links, topo.getLinkguardianEnabled l = true →
    l ∈ topo.corruptingLinks
  topLossRates : Heapq.items topo.topLossRatesHeap =
    initialLinkLossRate ::ₘ topo.corruptingLinks.val.map topo.getLinkLossRate
  lgPorts : PortsExact topo.fabric topo.getLinkguardianEnabled topo.lgPortsPerPipe
  lgPortsHeap : PortsHeap topo.fabric topo.lgPortsPerPipe topo.topLgPortsPerPipeHeap

namespace Coherent

variable {topo : Topology} {l : ℕ}

lemma mem_enabledLinks : l ∈ topo.enabledLinks ↔ l ∈ topo.fabric.links ∧ l ∉ topo.disabledLinks :=
  Finset.mem_sdiff

lemma enabled_of_corrupting (h : Coherent topo) (hl : l ∈ topo.corruptingLinks) :
    l ∈ topo.enabledLinks :=
  mem_enabledLinks.mpr ⟨h.corrupting_subset hl, Finset.disjoint_right.mp h.disjoint hl⟩

lemma isLinkDisabled_eq_false (h : Coherent topo) (hl : l ∈ topo.enabledLinks) :
    topo.isLinkDisabled l = false := by
  obtain ⟨hlinks, hD⟩ := mem_enabledLinks.mp hl
  rw [Bool.eq_false_iff]
  exact fun hd => hD ((h.disabled l hlinks).mp hd)

lemma lgEnabled_eq_false (h : Coherent topo) (hl : l ∈ topo.fabric.links)
    (hc : l ∉ topo.corruptingLinks) : topo.getLinkguardianEnabled l = false := by
  rw [Bool.eq_false_iff]
  exact fun hon => hc (h.lgEnabled l hl hon)

end Coherent

/-! ## Built topologies -/

lemma total_of_links (f : Fabric) : f.numLinks * initialLinkLossRate =
    f.excess + ∑ _l ∈ f.links, initialLinkLossRate := by
  rw [Finset.sum_const, nsmul_eq_mul, Fabric.links, Finset.card_range, Fabric.excess, ← add_mul,
    sub_add_cancel]

theorem Built.coherent {topo : Topology} (h : Built topo) : Coherent topo where
  wired := h.fresh.wired
  disabled_subset := by
    rw [h.fresh.disabledLinks]
    exact Finset.empty_subset _
  corrupting_subset := by
    rw [h.fresh.corruptingLinks]
    exact Finset.empty_subset _
  disjoint := by
    rw [h.fresh.disabledLinks]
    exact Finset.disjoint_empty_left _
  disabled l hl := by
    rw [Topology.isLinkDisabled, h.fresh.link l hl, h.fresh.disabledLinks]
    simp [initialLink]
  attached := h.fresh.disabledLinks ▸ h.fresh.attached
  numPathsToCore := h.fresh.disabledLinks ▸ h.numPathsToCore
  totalLossRate := by
    have hsum : ∑ l ∈ topo.fabric.links, topo.getLinkLossRate l =
        ∑ _l ∈ topo.fabric.links, initialLinkLossRate :=
      Finset.sum_congr rfl fun l hl => by rw [Topology.getLinkLossRate, h.fresh.link l hl]; rfl
    rw [h.totalLossRate, Topology.enabledLinks, h.fresh.disabledLinks, Finset.sdiff_empty, hsum]
    exact total_of_links _
  totalEffectiveLossRate := by
    have hsum : ∑ l ∈ topo.fabric.links, topo.getLinkEffectiveLossRate l =
        ∑ _l ∈ topo.fabric.links, initialLinkLossRate :=
      Finset.sum_congr rfl fun l hl => by
        rw [Topology.getLinkEffectiveLossRate, h.fresh.link l hl]
        rfl
    rw [h.totalEffectiveLossRate, Topology.enabledLinks, h.fresh.disabledLinks,
      Finset.sdiff_empty, hsum]
    exact total_of_links _
  perPodCapacity pod type := by
    rw [h.fresh.perPodCapacity, h.fresh.disabledLinks, Finset.sdiff_empty]
    refine Finset.sum_congr rfl fun l hl => ?_
    rw [Topology.getEffectiveLinkCapacity, h.fresh.link l (Finset.mem_filter.mp hl).1]
    rfl
  plain l hl _ := by
    have hlink := h.fresh.link l (Coherent.mem_enabledLinks.mp hl).1
    rw [Topology.getLinkEffectiveLossRate, Topology.getLinkLossRate,
      Topology.getEffectiveLinkCapacity, hlink]
    exact ⟨rfl, rfl⟩
  lgEnabled l hl hon := by
    rw [Topology.getLinkguardianEnabled, h.fresh.link l hl] at hon
    cases hon
  topLossRates := by
    rw [h.fresh.topLossRatesHeap, h.fresh.corruptingLinks]
    rfl
  lgPorts sw pipe := by
    rw [h.fresh.lgPortsPerPipe, lgLinks, Finset.filter_false_of_mem, Finset.card_empty]
    · rfl
    · intro l hl hon
      have hon := hon.1
      rw [Topology.getLinkguardianEnabled, h.fresh.link l hl] at hon
      cases hon
  lgPortsHeap := by
    rw [PortsHeap, h.fresh.topLgPortsPerPipeHeap, nonzeroPorts, Multiset.filter_eq_nil.mpr]
    · rfl
    · intro v hv hne
      obtain ⟨x, -, rfl⟩ := Multiset.mem_map.mp hv
      exact hne (h.fresh.lgPortsPerPipe _ _)

theorem Config.built {config : Config} (htype : config.topoType ≠ .LeafSpine)
    {shuffle : List ℕ → List ℕ} {topo : Topology} (hs : config.buildTopo shuffle = some topo) :
    Built topo := by
  unfold Config.buildTopo at hs
  cases htopo : config.topoType with
  | FatTree =>
    rw [htopo] at hs
    exact (built_fattree hs).1
  | LeafSpine => exact absurd htopo htype
  | FbFabric =>
    rw [htopo] at hs
    exact (built_fbfabric hs).1

/-- A FatTree of even `k`, or an FbFabric. -/
def Config.Standard (config : Config) : Prop :=
  (config.topoType = .FatTree ∧ ∀ k, config.topoParams.k = some k → Even k) ∨
    config.topoType = .FbFabric

namespace Config.Standard

variable {config : Config} (h : config.Standard) {shuffle : List ℕ → List ℕ} {topo : Topology}
include h

lemma ne_leafSpine : config.topoType ≠ .LeafSpine := by
  rcases h with ⟨htype, -⟩ | htype
  · rw [htype]
    exact TopoType.noConfusion
  · rw [htype]
    exact TopoType.noConfusion

lemma excess (hs : config.buildTopo shuffle = some topo) : topo.fabric.excess = 0 := by
  have hcount : topo.fabric.numLinks = topo.fabric.globalLinkId := by
    unfold Config.buildTopo at hs
    rcases h with ⟨htype, heven⟩ | htype
    · rw [htype] at hs
      exact (built_fattree hs).2 heven
    · rw [htype] at hs
      exact (built_fbfabric hs).2
  rw [Fabric.excess, hcount, sub_self, zero_mul]

end Config.Standard

/-! ## Changing one link -/

lemma setEdge_setEdge {α : Type} (m : Sym2 ℕ → α) (e : Sym2 ℕ) (v w : α) :
    setEdge (setEdge m e v) e w = setEdge m e w := by
  funext e'
  unfold setEdge
  split
  · rfl
  · rfl

lemma Topology.setLink_setLink (topo : Topology) (l : ℕ) (g g' : LinkState → LinkState) :
    (topo.setLink l g).setLink l g' = topo.setLink l fun a => g' (g a) := by
  have hlink : (topo.setLink l g).link l = g (topo.link l) := if_pos rfl
  have hstates : setEdge (setEdge topo.linkStates (topo.fabric.edgeOf l) (g (topo.link l)))
      (topo.fabric.edgeOf l) (g' ((topo.setLink l g).link l)) =
        setEdge topo.linkStates (topo.fabric.edgeOf l) (g' (g (topo.link l))) := by
    rw [hlink, setEdge_setEdge]
  exact congrArg (fun states => { topo with linkStates := states }) hstates

/-- The attributes of one link are changed.  The graph keeps attributes by pairs of switches, so
that the other links keep theirs needs the wiring. -/
structure LinkSet (topo : Topology) (l : ℕ) (v : LinkState) (topo' : Topology) : Prop where
  fabric : topo'.fabric = topo.fabric
  linkStates : topo'.linkStates = setEdge topo.linkStates (topo.fabric.edgeOf l) v

namespace LinkSet

variable {topo topo' : Topology} {l m : ℕ} {v : LinkState} (h : LinkSet topo l v topo')
include h

lemma link_self : topo'.link l = v := by
  rw [Topology.link, h.fabric, h.linkStates]
  exact if_pos rfl

lemma link_of_ne (hw : topo.fabric.Wired) (hl : l ∈ topo.fabric.links)
    (hm : m ∈ topo.fabric.links) (hne : m ≠ l) : topo'.link m = topo.link m := by
  rw [Topology.link, h.fabric, h.linkStates]
  exact if_neg fun heq => hne (hw.edgeOf_inj m hm l hl heq)

lemma getLinkguardianEnabled (hw : topo.fabric.Wired) (hl : l ∈ topo.fabric.links)
    (hm : m ∈ topo.fabric.links) : topo'.getLinkguardianEnabled m =
      if m = l then v.lgEnabled else topo.getLinkguardianEnabled m := by
  rw [Topology.getLinkguardianEnabled, Topology.getLinkguardianEnabled]
  by_cases hml : m = l
  · rw [if_pos hml, hml, h.link_self]
  · rw [if_neg hml, h.link_of_ne hw hl hm hml]

lemma getLinkLossRate (hw : topo.fabric.Wired) (hl : l ∈ topo.fabric.links) :
    ∀ m ∈ topo.fabric.links, m ≠ l → topo'.getLinkLossRate m = topo.getLinkLossRate m :=
  fun _ hm hne => congrArg LinkState.lossRate (h.link_of_ne hw hl hm hne)

lemma getLinkEffectiveLossRate (hw : topo.fabric.Wired) (hl : l ∈ topo.fabric.links) :
    ∀ m ∈ topo.fabric.links, m ≠ l →
      topo'.getLinkEffectiveLossRate m = topo.getLinkEffectiveLossRate m :=
  fun _ hm hne => congrArg LinkState.effectiveLossRate (h.link_of_ne hw hl hm hne)

lemma getEffectiveLinkCapacity (hw : topo.fabric.Wired) (hl : l ∈ topo.fabric.links)
    (pod : ℕ) (type : PodCapacityType) : ∀ m ∈ topo.fabric.linksOfPod pod type, m ≠ l →
      topo'.getEffectiveLinkCapacity m = topo.getEffectiveLinkCapacity m :=
  fun _ hm hne =>
    congrArg LinkState.effectiveCapacity (h.link_of_ne hw hl (Finset.mem_filter.mp hm).1 hne)

/-- The loss rates of the other links stay in the heap. -/
lemma map_getLinkLossRate (hw : topo.fabric.Wired) (hl : l ∈ topo.fabric.links) {s : Finset ℕ}
    (hs : s ⊆ topo.fabric.links) (hls : l ∉ s) :
    s.val.map topo'.getLinkLossRate = s.val.map topo.getLinkLossRate :=
  Multiset.map_congr rfl fun m hm =>
    h.getLinkLossRate hw hl m (hs hm) fun heq => hls (heq ▸ hm)

/-! The obligations of `Coherent` about single links.  The link itself answers for its new
attributes, and all others keep theirs. -/

section Obligations

variable (hc : Coherent topo) (hl : l ∈ topo.fabric.links)
include hc hl

lemma isLinkDisabled_iff (hself : v.disabled = true ↔ l ∈ topo'.disabledLinks)
    (hD : ∀ m, m ≠ l → (m ∈ topo'.disabledLinks ↔ m ∈ topo.disabledLinks)) :
    ∀ m ∈ topo'.fabric.links, topo'.isLinkDisabled m = true ↔ m ∈ topo'.disabledLinks := by
  intro m hm
  rw [h.fabric] at hm
  rw [Topology.isLinkDisabled]
  by_cases hml : m = l
  · rw [hml, h.link_self]
    exact hself
  · rw [h.link_of_ne hc.wired hl hm hml, hD m hml]
    exact hc.disabled m hm

lemma plain (hself : l ∈ topo'.enabledLinks → v.lgEnabled = false →
      v.effectiveLossRate = v.lossRate ∧ v.effectiveCapacity = topo.fabric.getLinkCapacity l)
    (hD : ∀ m, m ≠ l → (m ∈ topo'.disabledLinks ↔ m ∈ topo.disabledLinks)) :
    ∀ m ∈ topo'.enabledLinks, topo'.getLinkguardianEnabled m = false →
      topo'.getLinkEffectiveLossRate m = topo'.getLinkLossRate m ∧
        topo'.getEffectiveLinkCapacity m = topo'.fabric.getLinkCapacity m := by
  intro m hm hoff
  rw [Topology.getLinkguardianEnabled] at hoff
  rw [Topology.getLinkEffectiveLossRate, Topology.getLinkLossRate,
    Topology.getEffectiveLinkCapacity, h.fabric]
  by_cases hml : m = l
  · rw [hml] at hm hoff ⊢
    rw [h.link_self] at hoff ⊢
    exact hself hm hoff
  · rw [Coherent.mem_enabledLinks, h.fabric, hD m hml] at hm
    rw [h.link_of_ne hc.wired hl hm.1 hml] at hoff ⊢
    exact hc.plain m (Coherent.mem_enabledLinks.mpr hm) hoff

lemma lgEnabled (hself : v.lgEnabled = true → l ∈ topo'.corruptingLinks)
    (hC : ∀ m, m ≠ l → m ∈ topo.corruptingLinks → m ∈ topo'.corruptingLinks) :
    ∀ m ∈ topo'.fabric.links, topo'.getLinkguardianEnabled m = true →
      m ∈ topo'.corruptingLinks := by
  intro m hm hon
  rw [h.fabric] at hm
  rw [h.getLinkguardianEnabled hc.wired hl hm] at hon
  split at hon
  · next hml => exact hml ▸ hself hon
  · next hml => exact hC m hml (hc.lgEnabled m hm hon)

end Obligations

end LinkSet

section Sums

variable {s D : Finset ℕ} {l : ℕ} {g g' : ℕ → ℚ}

lemma sum_sdiff_insert (hl : l ∈ s) (hD : l ∉ D) (hg : ∀ m ∈ s, m ≠ l → g' m = g m) :
    ∑ m ∈ s \ insert l D, g' m = ∑ m ∈ s \ D, g m - g l := by
  rw [Finset.sdiff_insert, ← Finset.sum_erase_eq_sub (Finset.mem_sdiff.mpr ⟨hl, hD⟩)]
  refine Finset.sum_congr rfl fun m hm => ?_
  obtain ⟨hne, hm⟩ := Finset.mem_erase.mp hm
  exact hg m (Finset.mem_sdiff.mp hm).1 hne

lemma sum_sdiff_erase (hl : l ∈ s) (hD : l ∈ D) (hg : ∀ m ∈ s, m ≠ l → g' m = g m) :
    ∑ m ∈ s \ D.erase l, g' m = ∑ m ∈ s \ D, g m + g' l := by
  rw [Finset.sdiff_erase hl, Finset.sum_insert fun h => (Finset.mem_sdiff.mp h).2 hD, add_comm]
  congr 1
  refine Finset.sum_congr rfl fun m hm => ?_
  obtain ⟨hm, hmD⟩ := Finset.mem_sdiff.mp hm
  exact hg m hm fun h => hmD (h ▸ hD)

lemma sum_sdiff_set (hl : l ∈ s) (hD : l ∉ D) (hg : ∀ m ∈ s, m ≠ l → g' m = g m) :
    ∑ m ∈ s \ D, g' m = ∑ m ∈ s \ D, g m - g l + g' l := by
  rw [← sum_sdiff_insert hl hD hg, Finset.sdiff_insert,
    Finset.sum_erase_eq_sub (Finset.mem_sdiff.mpr ⟨hl, hD⟩), sub_add_cancel]

lemma sum_sdiff_same {D' : Finset ℕ} (hl : l ∉ s) (hD : ∀ m, m ≠ l → (m ∈ D' ↔ m ∈ D))
    (hg : ∀ m ∈ s, m ≠ l → g' m = g m) : ∑ m ∈ s \ D', g' m = ∑ m ∈ s \ D, g m := by
  have hne : ∀ m ∈ s, m ≠ l := fun m hm h => hl (h ▸ hm)
  have hset : s \ D' = s \ D := by
    ext m
    rw [Finset.mem_sdiff, Finset.mem_sdiff]
    exact and_congr_right fun hm => not_congr (hD m (hne m hm))
  rw [hset]
  refine Finset.sum_congr rfl fun m hm => ?_
  have hm := (Finset.mem_sdiff.mp hm).1
  exact hg m hm (hne m hm)

/-- The sum of a pod changes only with the links of the pod. -/
lemma sum_linksOfPod {f : Fabric} {pod : ℕ} {type : PodCapacityType} {D' : Finset ℕ} {δ : ℚ}
    (hl : l ∈ f.links) (hD : ∀ m, m ≠ l → (m ∈ D' ↔ m ∈ D))
    (hg : ∀ m ∈ f.linksOfPod pod type, m ≠ l → g' m = g m)
    (hδ : l ∈ f.linksOfPod pod type → ∑ m ∈ f.linksOfPod pod type \ D', g' m =
      ∑ m ∈ f.linksOfPod pod type \ D, g m + δ) :
    (∑ m ∈ f.linksOfPod pod type \ D, g m +
      if f.linkIdToPodId l = pod ∧ (f.getLinkType l).podCapacityType = type then δ else 0) =
      ∑ m ∈ f.linksOfPod pod type \ D', g' m := by
  split
  · next hpod => exact (hδ (Finset.mem_filter.mpr ⟨hl, hpod⟩)).symm
  · next hpod =>
    rw [add_zero]
    exact (sum_sdiff_same (fun hm => hpod (Finset.mem_filter.mp hm).2) hD hg).symm

end Sums

end LinkGuardian.Simulator
