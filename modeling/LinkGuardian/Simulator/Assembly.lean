import LinkGuardian.Simulator.Clos
import LinkGuardian.Simulator.Fresh

/-!
# Assembling a folded Clos network

Both builders go through the same stages: the pods one after the other, the core switches, and
the links to them.  A `Stage` says how many switches of the network are there, and which links.
-/

namespace LinkGuardian.Simulator

/-- The pairs of switches that the links join, in the order of the link IDs. -/
def Fabric.pairs (f : Fabric) : List (ℕ × ℕ) :=
  (List.range f.globalLinkId).map f.linkidToSwitchpairMapping

/-- What a builder fixes before it adds the first switch. -/
def Fabric.kind (f : Fabric) : TopoType × TopoParams × ℚ := (f.type, f.topoParams, f.numLinks)

/-- The first `n` switches of the network and the links between these pairs are there.  A builder
goes from stage to stage, and the proof never has to look at a topology between two of them. -/
structure Stage (C : Clos) (kind : TopoType × TopoParams × ℚ) (n : ℕ) (pairs : List (ℕ × ℕ))
    (topo : Topology) : Prop where
  fresh : Fresh topo
  kind : topo.fabric.kind = kind
  globalSwitchId : topo.fabric.globalSwitchId = n
  types : ∀ sw < n, topo.fabric.getSwitchType sw = C.typeOf sw
  pairs : topo.fabric.pairs = pairs

lemma Fabric.mem_pairs {f : Fabric} {x : ℕ × ℕ} :
    x ∈ f.pairs ↔ ∃ l ∈ f.links, (f.outer l, f.agg l) = x := by
  simp only [pairs, List.mem_map, List.mem_range, mem_links]
  rfl

namespace Stage

variable {C : Clos} {kind : TopoType × TopoParams × ℚ} {n : ℕ} {P : List (ℕ × ℕ)}
  {topo topo' : Topology}

lemma globalLinkId (h : Stage C kind n P topo) : topo.fabric.globalLinkId = P.length := by
  simpa [Fabric.pairs] using congrArg List.length h.pairs

/-! ## Switches -/

lemma addSwitch {type : SwitchType} {pod id : ℕ} (h : Stage C kind n P topo)
    (htype : C.typeOf n = type) (hs : topo.addSwitch type pod = some (topo', id)) :
    Stage C kind (n + 1) P topo' ∧ id = n ∧ topo'.perPodCapacity = topo.perPodCapacity := by
  obtain ⟨ha, hid⟩ := switchAdded hs
  refine ⟨⟨ha.fresh h.fresh, ?_, ?_, fun sw hsw => ?_, ?_⟩, hid.trans h.globalSwitchId,
    ha.perPodCapacity⟩
  · obtain ⟨nodes, hf⟩ := ha.fabric
    rw [← h.kind, hf]
    rfl
  · rw [ha.globalSwitchId, h.globalSwitchId]
  · by_cases hnew : sw = topo.fabric.globalSwitchId
    · rw [hnew, ha.new_type, h.globalSwitchId, htype]
    · rw [ha.old_type hnew]
      rw [h.globalSwitchId] at hnew
      exact h.types sw (by omega)
  · obtain ⟨nodes, hf⟩ := ha.fabric
    rw [← h.pairs, hf]
    rfl

lemma addSwitches {type : SwitchType} {pod count : ℕ} {ids : List ℕ} (h : Stage C kind n P topo)
    (htype : ∀ i < count, C.typeOf (n + i) = type)
    (hs : topo.addSwitches type pod count = some (topo', ids)) :
    Stage C kind (n + count) P topo' ∧ ids = (List.range count).map (n + ·) ∧
      topo'.perPodCapacity = topo.perPodCapacity := by
  refine Loop.range_invariant (P := fun i (s : Topology × List ℕ) =>
    Stage C kind (n + i) P s.1 ∧ s.2 = (List.range i).map (n + ·) ∧
      s.1.perPodCapacity = topo.perPodCapacity) ⟨h, rfl, rfl⟩ (fun i hi s s' hP hstep => ?_) hs
  obtain ⟨⟨topo₁, id⟩, hadd, hstep⟩ := Option.bind_eq_some_iff.mp hstep
  obtain ⟨hstage, hid, hcap⟩ := hP.1.addSwitch (htype i hi) hadd
  cases hstep
  refine ⟨hstage, ?_, hcap.trans hP.2.2⟩
  rw [List.range_succ, List.map_append, hP.2.1, hid]
  rfl

/-! ## Links -/

/-- A pair of the network that is next fits. -/
lemma fits {x : NewLink} (h : Stage C kind n P topo) (ho : x.outer < n) (ha : x.agg < n)
    (hpre : P ++ [(x.outer, x.agg)] <+: C.pairs) (hagg : C.typeOf x.agg = .AGG)
    (houter : C.typeOf x.outer = match x.type with
      | .TOR_AGG => .TOR
      | .AGG_CORE => .CORE) : topo.fabric.Fits x where
  outer_lt := h.globalSwitchId ▸ ho
  agg_lt := h.globalSwitchId ▸ ha
  outer_type := (h.types _ ho).trans houter
  agg_type := (h.types _ ha).trans hagg
  new l hl hlo hla := by
    have hmem : (x.outer, x.agg) ∈ P := by
      rw [← h.pairs, Fabric.mem_pairs]
      exact ⟨l, hl, by rw [hlo, hla]⟩
    have hnodup : (P ++ [(x.outer, x.agg)]).Nodup := C.nodup_pairs.sublist hpre.sublist
    exact (List.nodup_append.mp hnodup).2.2 _ hmem _ (List.mem_singleton_self _) rfl

lemma of_linkAdded {x : NewLink} (h : Stage C kind n P topo) (hfresh : Fresh topo')
    (hadd : LinkAdded topo x topo') : Stage C kind n (P ++ [(x.outer, x.agg)]) topo' where
  fresh := hfresh
  kind := by
    rw [← h.kind, hadd.fabric]
    rfl
  globalSwitchId := by
    rw [← h.globalSwitchId, hadd.fabric]
    rfl
  types sw hsw := by
    rw [hadd.fabric, Fabric.getSwitchType_add]
    exact h.types sw hsw
  pairs := by
    rw [← h.pairs, hadd.fabric]
    show (List.range (topo.fabric.globalLinkId + 1)).map _ = _
    rw [List.range_succ, List.map_append, List.map_singleton, Fabric.mapping_add_new]
    congr 1
    exact List.map_congr_left fun l hl =>
      Fabric.mapping_add_old (Fabric.mem_links.mpr (List.mem_range.mp hl))

lemma mem_of_append_singleton {x : ℕ × ℕ} {L : List (ℕ × ℕ)} (h : P ++ [x] <+: L) : x ∈ L :=
  h.subset (List.mem_append_right _ (List.mem_singleton_self _))

/-- The links so far of a pod that is being built all lead up from ToRs. -/
lemma torAgg_of_lowPairs (h : Stage C kind n P topo) (hpre : P <+: C.lowPairs) :
    ∀ l ∈ topo.fabric.links, topo.fabric.getLinkType l = .TOR_AGG := by
  intro l hl
  have hmem : (topo.fabric.outer l, topo.fabric.agg l) ∈ P := by
    rw [← h.pairs, Fabric.mem_pairs]
    exact ⟨l, hl, rfl⟩
  have htype := h.fresh.wired.outer_type l hl
  have hlt := h.fresh.wired.lt_globalSwitchId l hl _ (.inl rfl)
  rw [h.types _ (h.globalSwitchId ▸ hlt),
    (Clos.typeOf_of_mem_lowPairs (hpre.subset hmem)).1] at htype
  cases hlink : topo.fabric.getLinkType l with
  | TOR_AGG => rfl
  | AGG_CORE => rw [hlink] at htype; cases htype

lemma connectTorAgg {pod t a : ℕ} {capacity : ℚ} {isLgLink : Bool} (h : Stage C kind n P topo)
    (ht : t < n) (ha : a < n) (hpre : P ++ [(t, a)] <+: C.lowPairs)
    (hs : topo.connectTorAgg pod capacity isLgLink t a = some topo') :
    Stage C kind n (P ++ [(t, a)]) topo' ∧
      (∀ q ≠ pod, topo'.perPodCapacity q = topo.perPodCapacity q) ∧
        ∃ x, LinkAdded topo x topo' := by
  have htypes := Clos.typeOf_of_mem_lowPairs (mem_of_append_singleton hpre)
  have hfits := h.fits (x := ⟨t, a, .TOR_AGG, capacity, isLgLink, {t}, pod⟩) ht ha
    (hpre.trans (List.prefix_append _ _)) htypes.2 htypes.1
  have hlow := h.torAgg_of_lowPairs ((List.prefix_append _ _).trans hpre)
  obtain ⟨hfresh, hadd⟩ := h.fresh.connectTorAgg hlow hfits hs
  refine ⟨h.of_linkAdded hfresh hadd, fun q hq => funext fun type => ?_, _, hadd⟩
  rw [hadd.perPodCapacity, if_neg fun hc => hq hc.1.symm, add_zero]

lemma connectCoreAgg {pod c a : ℕ} {capacity : ℚ} {isLgLink : Bool} (h : Stage C kind n P topo)
    (hc : c < n) (ha : a < n) (hpre : P ++ [(c, a)] <+: C.pairs) (hup : (c, a) ∈ C.upPairs)
    (hs : topo.connectCoreAgg pod capacity isLgLink c a = some topo') :
    Stage C kind n (P ++ [(c, a)]) topo' ∧ ∃ x, LinkAdded topo x topo' := by
  have htypes := Clos.typeOf_of_mem_upPairs hup
  have hfits := h.fits (x := ⟨c, a, .AGG_CORE, capacity, isLgLink,
    topo.fabric.getAdjacentSwitchIds a .TOR, pod⟩) hc ha hpre htypes.2 htypes.1
  obtain ⟨hfresh, hadd⟩ := h.fresh.connectCoreAgg rfl hfits hs
  exact ⟨h.of_linkAdded hfresh hadd, _, hadd⟩

/-- A loop over the next pairs. -/
lemma connectAll {G : ℕ × ℕ → Prop} {R : Topology → Prop}
    {f : Topology → ℕ × ℕ → Option Topology} {L all : List (ℕ × ℕ)} (h : Stage C kind n P topo)
    (hR : R topo) (hpre : P ++ L <+: all) (hG : ∀ x ∈ L, G x)
    (hf : ∀ P x topo topo', Stage C kind n P topo → R topo → P ++ [x] <+: all → G x →
      f topo x = some topo' → Stage C kind n (P ++ [x]) topo' ∧ R topo')
    (hs : L.foldlM f topo = some topo') : Stage C kind n (P ++ L) topo' ∧ R topo' := by
  refine Loop.invariant (P := fun done s => Stage C kind n (P ++ done) s ∧ R s)
    ⟨by rwa [List.append_nil], hR⟩ (fun pre x post s s' hL hP hstep => ?_) hs
  rw [← List.append_assoc]
  refine hf _ x s s' hP.1 hP.2 ?_ (hG x (hL ▸ List.mem_append_right _ List.mem_cons_self)) hstep
  refine List.IsPrefix.trans ?_ hpre
  rw [hL, List.append_assoc, List.append_cons pre x post]
  exact (List.prefix_append_right_inj P).mpr (List.prefix_append _ _)

/-! ## Pods -/

variable {capacity : ℚ}

/-- The links of the first pods. -/
def podLinks (C : Clos) (p : ℕ) : List (ℕ × ℕ) := (List.range p).flatMap C.podPairs

lemma podLinks_succ (p : ℕ) : podLinks C (p + 1) = podLinks C p ++ C.podPairs p := by
  rw [podLinks, List.range_succ, List.flatMap_append, List.flatMap_singleton]
  rfl

lemma podLinks_prefix {p : ℕ} (hp : p ≤ C.pods) : podLinks C p <+: C.lowPairs := by
  obtain ⟨d, hd⟩ := Nat.exists_eq_add_of_le hp
  rw [podLinks, Clos.lowPairs, hd, List.range_add, List.flatMap_append]
  exact List.prefix_append _ _

/-- The pods from `p` on have no capacity yet. -/
def NoCapacityFrom (p : ℕ) (topo : Topology) : Prop :=
  ∀ q, p ≤ q → topo.perPodCapacity q = fun _ => 0

/-- The loop over the ToRs and the aggs of a pod is one over the pairs of its links. -/
lemma foldlM_podPairs {p : ℕ} {isLgLink : Bool} {s : Topology} :
    ((List.range C.tors).map (C.torId p)).foldlM (fun s torId =>
      ((List.range C.aggs).map (C.aggId p)).foldlM (fun s aggId =>
        s.connectTorAgg p capacity isLgLink torId aggId) s) s =
      (C.podPairs p).foldlM (fun s x => s.connectTorAgg p capacity isLgLink x.1 x.2) s := by
  rw [Clos.podPairs, Loop.flatMap]
  simp only [List.foldlM_map]

/-- Resetting the capacity of a pod that has none. -/
lemma update_perPodCapacity {p : ℕ} (hcap : topo.perPodCapacity p = fun _ => 0) :
    { topo with perPodCapacity := Function.update topo.perPodCapacity p fun _ => 0 } = topo := by
  rw [← hcap, Function.update_eq_self]

lemma buildPod {p : ℕ} {isLgLink : Bool} {aggIds : List ℕ} (hp : p < C.pods)
    (h : Stage C kind (p * C.podSize) (podLinks C p) topo) (hcap : NoCapacityFrom p topo)
    (hs : topo.buildPod p C.tors C.aggs capacity isLgLink = some (topo', aggIds)) :
    Stage C kind ((p + 1) * C.podSize) (podLinks C (p + 1)) topo' ∧ NoCapacityFrom (p + 1) topo' ∧
      aggIds = (List.range C.aggs).map (C.aggId p) := by
  obtain ⟨⟨topo₁, torIds⟩, hadd₁, hs⟩ := Option.bind_eq_some_iff.mp hs
  obtain ⟨⟨topo₂, aggIds'⟩, hadd₂, hs⟩ := Option.bind_eq_some_iff.mp hs
  obtain ⟨topo₃, hconnect, hs⟩ := Option.bind_eq_some_iff.mp hs
  cases hs
  rw [update_perPodCapacity (hcap p le_rfl)] at hadd₁
  obtain ⟨hstage₁, htors, hcap₁⟩ := h.addSwitches (fun i hi => Clos.typeOf_torId hp hi) hadd₁
  obtain ⟨hstage₂, haggs, hcap₂⟩ := hstage₁.addSwitches
    (fun j hj => by rw [Nat.add_assoc]; exact Clos.typeOf_aggId hp hj) hadd₂
  have htors : torIds = (List.range C.tors).map (C.torId p) := htors
  have haggs : aggIds = (List.range C.aggs).map (C.aggId p) := by
    rw [haggs]
    exact List.map_congr_left fun j _ => Nat.add_assoc _ _ _
  have hsize : p * C.podSize + C.tors + C.aggs = (p + 1) * C.podSize := by
    rw [Nat.add_assoc, Nat.succ_mul]
    rfl
  rw [hsize] at hstage₂
  have hlinks : (C.podPairs p).foldlM (fun s x => s.connectTorAgg p capacity isLgLink x.1 x.2)
      topo₂ = some topo' := by
    rw [← foldlM_podPairs, ← htors, ← haggs]
    exact hconnect
  have hpre := podLinks_prefix (C := C) hp
  rw [podLinks_succ] at hpre
  have hcap' : NoCapacityFrom (p + 1) topo₂ := by
    intro q hq
    rw [hcap₂, hcap₁]
    exact hcap q (Nat.le_of_succ_le hq)
  suffices hconn : Stage C kind ((p + 1) * C.podSize) (podLinks C p ++ C.podPairs p) topo' ∧
      NoCapacityFrom (p + 1) topo' by
    rw [podLinks_succ]
    exact ⟨hconn.1, hconn.2, haggs⟩
  -- each pair joins a ToR and an agg of this pod, so the switches are there
  refine hstage₂.connectAll (G := fun x => x ∈ C.podPairs p) hcap' hpre (fun x hx => hx)
    (fun P x s s' hs hc hpre hx hstep => ?_) hlinks
  obtain ⟨i, hi, j, hj, rfl⟩ := Clos.mem_podPairs.mp hx
  have hlt : ∀ y < C.podSize, p * C.podSize + y < (p + 1) * C.podSize := fun y hy =>
    Clos.block_lt (Nat.lt_succ_self p) hy
  obtain ⟨hs', hcap, -⟩ := hs.connectTorAgg (hlt _ (Clos.tor_lt_podSize hi))
    (hlt _ (Clos.agg_lt_podSize hj)) hpre hstep
  refine ⟨hs', fun q hq => ?_⟩
  rw [hcap q (by omega)]
  exact hc q hq

lemma buildPods {isLgPod : ℕ → Bool} {podAggs : ℕ → List ℕ} (h : Stage C kind 0 [] topo)
    (hcap : NoCapacityFrom 0 topo)
    (hs : topo.buildPods C.pods C.tors C.aggs capacity isLgPod = some (topo', podAggs)) :
    Stage C kind (C.pods * C.podSize) C.lowPairs topo' ∧
      ∀ p < C.pods, podAggs p = (List.range C.aggs).map (C.aggId p) := by
  have hloop := Loop.range_invariant (P := fun p (s : Topology × (ℕ → List ℕ)) =>
    Stage C kind (p * C.podSize) (podLinks C p) s.1 ∧ NoCapacityFrom p s.1 ∧
      ∀ q < p, s.2 q = (List.range C.aggs).map (C.aggId q))
    (by rw [Nat.zero_mul]; exact ⟨h, hcap, fun q hq => absurd hq (Nat.not_lt_zero q)⟩)
    (fun p hp s s' hP hstep => ?_) hs
  · exact ⟨hloop.1, hloop.2.2⟩
  · obtain ⟨⟨topo₁, aggIds⟩, hpod, hstep⟩ := Option.bind_eq_some_iff.mp hstep
    obtain ⟨hstage, hcap, haggs⟩ := hP.1.buildPod hp hP.2.1 hpod
    cases hstep
    refine ⟨hstage, hcap, fun q hq => ?_⟩
    show Function.update s.2 p aggIds q = _
    rcases Nat.lt_succ_iff_lt_or_eq.mp hq with hq | rfl
    · rw [Function.update_of_ne hq.ne, hP.2.2 q hq]
    · rw [Function.update_self, haggs]

/-! ## Planes -/

/-- A loop over the links to the core. -/
lemma connectPlanes {pod : Topology → ℕ × ℕ → ℕ} {isLgLink : Bool}
    (h : Stage C kind C.numSwitches C.lowPairs topo)
    (hs : C.upPairs.foldlM (fun s x => s.connectCoreAgg (pod s x) capacity isLgLink x.1 x.2) topo =
      some topo') : Stage C kind C.numSwitches C.pairs topo' := by
  refine (h.connectAll (G := fun x => x ∈ C.upPairs) (R := fun _ => True) trivial
    (List.prefix_rfl : C.lowPairs ++ C.upPairs <+: C.pairs) (fun x hx => hx)
    (fun P x s s' hs _ hpre hx hstep => ⟨?_, trivial⟩) hs).1
  obtain ⟨j, hj, i, hi, p, hp, rfl⟩ := Clos.mem_upPairs.mp hx
  refine (hs.connectCoreAgg ?_ ?_ hpre hx hstep).1
  · exact Clos.coreId_lt hj hi
  · exact Clos.aggId_lt hp hj

/-- A link that was added has got one of the link IDs. -/
lemma globalLinkId_le_of_connectCoreAgg {pod c a : ℕ} {isLgLink : Bool}
    (hs : topo.connectCoreAgg pod capacity isLgLink c a = some topo') :
    topo'.fabric.globalLinkId ≤ maxNumberOfLinks := by
  obtain ⟨⟨topo₁, l⟩, hadd, hs⟩ := Option.bind_eq_some_iff.mp hs
  obtain ⟨_, hguard, hadd⟩ := Option.bind_eq_some_iff.mp hadd
  obtain ⟨topo₂, hincr, hs⟩ := Option.bind_eq_some_iff.mp hs
  obtain ⟨-, -, hincr⟩ := Option.bind_eq_some_iff.mp hincr
  have hlt : topo.fabric.globalLinkId < maxNumberOfLinks := by
    by_contra hge
    simp [guard, hge] at hguard
  cases hadd
  cases hincr
  cases hs
  exact hlt

lemma globalLinkId_le_of_connectPlanes {pod : Topology → ℕ × ℕ → ℕ} {isLgLink : Bool}
    (hne : C.upPairs ≠ [])
    (hs : C.upPairs.foldlM (fun s x => s.connectCoreAgg (pod s x) capacity isLgLink x.1 x.2) topo =
      some topo') : topo'.fabric.globalLinkId ≤ maxNumberOfLinks := by
  refine Loop.invariant (P := fun done (s : Topology) =>
    done ≠ [] → s.fabric.globalLinkId ≤ maxNumberOfLinks) (fun h0 => absurd rfl h0)
    (fun _ x _ s s' _ _ hstep _ => globalLinkId_le_of_connectCoreAgg hstep) hs hne

end Stage

end LinkGuardian.Simulator
