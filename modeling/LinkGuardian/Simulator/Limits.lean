import LinkGuardian.Simulator.Built

/-!
# Within the limits of the IDs

The generators of switch and link IDs end at a limit, where a builder raises.  Below it nothing
else goes wrong: each step of a builder returns, and a switch keeps the number of the pod that it
was added to.

The theorems of the other modules start from a topology that was built.  Here is what makes a
builder return one, so that none of them is about nothing.
-/

namespace LinkGuardian.Simulator

/-- There are enough IDs for the network, and its switches have pipes.  A switch without pipes would
make the division for its ports per pipe raise. -/
structure Room (C : Clos) (kind : TopoType × TopoParams × ℚ) : Prop where
  switches : C.numSwitches ≤ maxNumberOfSwitches
  links : C.pairs.length ≤ maxNumberOfLinks
  pipes : ∀ sw < C.numSwitches, ∃ numPipes numLinks, numPipes ≠ 0 ∧
    Topology.numPipesAndLinks kind.1 kind.2.1 (C.typeOf sw) = some (numPipes, numLinks)

/-- The switches of a pod know its number. -/
def PodsRecorded (C : Clos) (topo : Topology) : Prop :=
  ∀ sw < topo.fabric.globalSwitchId, sw < C.pods * C.podSize →
    (topo.fabric.nodes sw).pod = sw / C.podSize

section Pods

variable {C : Clos} {topo topo' : Topology} {type : SwitchType} {pod id : ℕ}

lemma PodsRecorded.addSwitch (h : PodsRecorded C topo)
    (hpod : topo.fabric.globalSwitchId < C.pods * C.podSize →
      pod = topo.fabric.globalSwitchId / C.podSize)
    (hs : topo.addSwitch type pod = some (topo', id)) : PodsRecorded C topo' := by
  obtain ⟨hadded, -⟩ := switchAdded hs
  have hnew : (topo'.fabric.nodes topo.fabric.globalSwitchId).pod = pod := by
    obtain ⟨-, -, hs⟩ := Option.bind_eq_some_iff.mp hs
    obtain ⟨⟨numPipes, numLinks⟩, -, hs⟩ := Option.bind_eq_some_iff.mp hs
    obtain ⟨-, -, hs⟩ := Option.bind_eq_some_iff.mp hs
    cases hs
    simp
  intro sw hsw hlt
  rw [hadded.globalSwitchId] at hsw
  by_cases heq : sw = topo.fabric.globalSwitchId
  · subst heq
    rw [hnew, hpod hlt]
  · rw [hadded.old_node sw heq]
    exact h sw (by omega) hlt

/-- A link changes nothing about its switches but their lists of links. -/
lemma PodsRecorded.linkAdded {x : NewLink} (h : PodsRecorded C topo)
    (hadd : LinkAdded topo x topo') : PodsRecorded C topo' := by
  intro sw hsw hlt
  rw [hadd.fabric] at hsw ⊢
  have hsame := congrArg SwitchAttributes.pod (Fabric.withoutLinks_add topo.fabric x sw)
  exact hsame.trans (h sw hsw hlt)

end Pods

namespace Stage

variable {C : Clos} {kind : TopoType × TopoParams × ℚ} {n : ℕ} {P : List (ℕ × ℕ)}
  {topo topo' : Topology} {capacity : ℚ}

/-! ## Switches -/

lemma exists_addSwitch (h : Stage C kind n P topo) (hroom : Room C kind) (hn : n < C.numSwitches)
    (pod : ℕ) : ∃ topo' id, topo.addSwitch (C.typeOf n) pod = some (topo', id) := by
  obtain ⟨numPipes, numLinks, hne, hpipes⟩ := hroom.pipes n hn
  have hlt : topo.fabric.globalSwitchId < maxNumberOfSwitches := by
    rw [h.globalSwitchId]
    exact hn.trans_le hroom.switches
  have htype : topo.fabric.type = kind.1 := congrArg Prod.fst h.kind
  have hparams : topo.fabric.topoParams = kind.2.1 := congrArg (fun k => k.2.1) h.kind
  simp [Topology.addSwitch, guard, hlt, htype, hparams, hpipes, hne]

/-- A loop that adds switches of one type to a pod. -/
lemma exists_addSwitches {type : SwitchType} {count : ℕ} (h : Stage C kind n P topo) (pod : ℕ)
    (hroom : Room C kind) (hrec : PodsRecorded C topo) (hcount : n + count ≤ C.numSwitches)
    (htype : ∀ i < count, C.typeOf (n + i) = type)
    (hpod : ∀ i < count, n + i < C.pods * C.podSize → pod = (n + i) / C.podSize) :
    ∃ topo' ids, topo.addSwitches type pod count = some (topo', ids) ∧ PodsRecorded C topo' := by
  have hloop : ∃ s, topo.addSwitches type pod count = some s ∧
      Stage C kind (n + count) P s.1 ∧ PodsRecorded C s.1 := by
    refine Loop.range_total (P := fun i (s : Topology × List ℕ) =>
      Stage C kind (n + i) P s.1 ∧ PodsRecorded C s.1) ⟨h, hrec⟩ fun i hi s hP => ?_
    obtain ⟨topo', id, hs⟩ := hP.1.exists_addSwitch hroom (by omega) pod
    rw [htype i hi] at hs
    refine ⟨(topo', s.2 ++ [id]), by simp [hs], (hP.1.addSwitch (htype i hi) hs).1, ?_⟩
    refine hP.2.addSwitch (fun hlt => ?_) hs
    rw [hP.1.globalSwitchId] at hlt ⊢
    exact hpod i hi hlt
  obtain ⟨⟨topo', ids⟩, hs, -, hrec'⟩ := hloop
  exact ⟨topo', ids, hs, hrec'⟩

/-! ## Links -/

lemma type_addLinkToSwitch (nodes : ℕ → SwitchAttributes) (a l sw : ℕ) :
    (Topology.addLinkToSwitch nodes a l sw).type = (nodes sw).type := by
  have hsame := congrArg SwitchAttributes.type (withoutLinks_addLinkToSwitch nodes a l sw)
  exact hsame

/-- While a link is missing there is an ID for it. -/
lemma globalLinkId_lt {x : ℕ × ℕ} (h : Stage C kind n P topo) (hroom : Room C kind)
    (hpre : P ++ [x] <+: C.pairs) : topo.fabric.globalLinkId < maxNumberOfLinks := by
  have hlen := hpre.length_le
  rw [List.length_append, List.length_singleton] at hlen
  rw [h.globalLinkId]
  exact lt_of_lt_of_le (by omega) hroom.links

lemma exists_connectTorAgg {t a : ℕ} (h : Stage C kind n P topo) (hroom : Room C kind)
    (ht : t < n) (ha : a < n) (hpre : P ++ [(t, a)] <+: C.lowPairs) (pod : ℕ) (isLgLink : Bool) :
    ∃ topo', topo.connectTorAgg pod capacity isLgLink t a = some topo' := by
  have hlt := h.globalLinkId_lt hroom (hpre.trans (List.prefix_append _ _))
  have htypes := Clos.typeOf_of_mem_lowPairs (mem_of_append_singleton hpre)
  have htor : (topo.fabric.nodes t).type = .TOR := (h.types t ht).trans htypes.1
  have hagg : (topo.fabric.nodes a).type = .AGG := (h.types a ha).trans htypes.2
  simp [Topology.connectTorAgg, Topology.addLink, Topology.addAggSwitchToTor,
    Topology.setAffectedTors, Fabric.getSwitchType, type_addLinkToSwitch, guard, hlt, htor, hagg]

lemma exists_connectCoreAgg {c a : ℕ} (h : Stage C kind n P topo) (hroom : Room C kind)
    (ha : a < n) (hpre : P ++ [(c, a)] <+: C.pairs) (hup : (c, a) ∈ C.upPairs) (pod : ℕ)
    (isLgLink : Bool) : ∃ topo', topo.connectCoreAgg pod capacity isLgLink c a = some topo' := by
  have hlt := h.globalLinkId_lt hroom hpre
  have hagg : (topo.fabric.nodes a).type = .AGG :=
    (h.types a ha).trans (Clos.typeOf_of_mem_upPairs hup).2
  simp [Topology.connectCoreAgg, Topology.addLink, Topology.incrementNumActiveUplinks,
    Fabric.getSwitchType, type_addLinkToSwitch, guard, hlt, hagg]

/-- A loop over the next pairs returns when the body does. -/
lemma exists_connectAll {G : ℕ × ℕ → Prop} {f : Topology → ℕ × ℕ → Option Topology}
    {L all : List (ℕ × ℕ)} (h : Stage C kind n P topo) (hrec : PodsRecorded C topo)
    (hpre : P ++ L <+: all) (hG : ∀ x ∈ L, G x)
    (hf : ∀ P x topo, Stage C kind n P topo → P ++ [x] <+: all → G x →
      ∃ topo', f topo x = some topo' ∧ Stage C kind n (P ++ [x]) topo' ∧
        ∃ y, LinkAdded topo y topo') :
    ∃ topo', L.foldlM f topo = some topo' ∧ PodsRecorded C topo' := by
  have hloop : ∃ topo', L.foldlM f topo = some topo' ∧
      (Stage C kind n (P ++ L) topo' ∧ PodsRecorded C topo') := by
    refine Loop.total (P := fun done s => Stage C kind n (P ++ done) s ∧ PodsRecorded C s)
      ⟨by rwa [List.append_nil], hrec⟩ fun pre x post s hL hP => ?_
    have hnext : P ++ pre ++ [x] <+: all := by
      refine List.IsPrefix.trans ?_ hpre
      rw [hL, List.append_assoc, List.append_cons pre x post]
      exact (List.prefix_append_right_inj P).mpr (List.prefix_append _ _)
    obtain ⟨s', hs, hstage, y, hadd⟩ := hf _ x s hP.1 hnext
      (hG x (hL ▸ List.mem_append_right _ List.mem_cons_self))
    exact ⟨s', hs, by rwa [← List.append_assoc], hP.2.linkAdded hadd⟩
  obtain ⟨topo', hs, -, hrec'⟩ := hloop
  exact ⟨topo', hs, hrec'⟩

/-! ## Pods -/

lemma exists_buildPod {p : ℕ} (capacity : ℚ) (isLgLink : Bool) (hp : p < C.pods)
    (hroom : Room C kind)
    (h : Stage C kind (p * C.podSize) (podLinks C p) topo) (hcap : NoCapacityFrom p topo)
    (hrec : PodsRecorded C topo) : ∃ topo' aggIds,
      topo.buildPod p C.tors C.aggs capacity isLgLink = some (topo', aggIds) ∧
        PodsRecorded C topo' := by
  have hsize : p * C.podSize + C.tors + C.aggs = (p + 1) * C.podSize := by
    rw [Nat.add_assoc, Nat.succ_mul]
    rfl
  have hle : (p + 1) * C.podSize ≤ C.numSwitches :=
    (Nat.mul_le_mul_right _ hp).trans (Nat.le_add_right _ _)
  have hpod : ∀ i < C.podSize, p = (p * C.podSize + i) / C.podSize := fun i hi =>
    (Clos.block_div hi).symm
  have hagg : ∀ j < C.aggs, C.typeOf (p * C.podSize + C.tors + j) = .AGG := fun j hj => by
    rw [Nat.add_assoc]
    exact Clos.typeOf_aggId hp hj
  obtain ⟨topo₁, torIds, hadd₁, hrec₁⟩ := h.exists_addSwitches p hroom hrec
    (by omega) (fun i hi => Clos.typeOf_torId hp hi)
    fun i hi _ => hpod i (Clos.tor_lt_podSize hi)
  obtain ⟨h₁, htors, -⟩ := h.addSwitches (fun i hi => Clos.typeOf_torId hp hi) hadd₁
  obtain ⟨topo₂, aggIds, hadd₂, hrec₂⟩ := h₁.exists_addSwitches p hroom hrec₁ (by omega) hagg
    fun j hj _ => by
      rw [Nat.add_assoc]
      exact hpod _ (Clos.agg_lt_podSize hj)
  obtain ⟨h₂, haggs, -⟩ := h₁.addSwitches hagg hadd₂
  have haggs : aggIds = (List.range C.aggs).map (C.aggId p) := by
    rw [haggs]
    exact List.map_congr_left fun j _ => Nat.add_assoc _ _ _
  rw [hsize] at h₂
  have hpre := podLinks_prefix (C := C) hp
  rw [podLinks_succ] at hpre
  obtain ⟨topo₃, hconnect, hrec₃⟩ := h₂.exists_connectAll (G := (· ∈ C.podPairs p)) hrec₂ hpre
    (fun x hx => hx)
    (f := fun s x => s.connectTorAgg p capacity isLgLink x.1 x.2) fun P x s hs hpre hx => by
      obtain ⟨i, hi, j, hj, rfl⟩ := Clos.mem_podPairs.mp hx
      have ht := Clos.block_lt (Nat.lt_succ_self p) (Clos.tor_lt_podSize hi)
      have ha := Clos.block_lt (Nat.lt_succ_self p) (Clos.agg_lt_podSize hj)
      obtain ⟨s', hs'⟩ := hs.exists_connectTorAgg hroom ht ha hpre p isLgLink
      obtain ⟨hstage, -, hadd⟩ := hs.connectTorAgg ht ha hpre hs'
      exact ⟨s', hs', hstage, hadd⟩
  have hloop : torIds.foldlM (fun s torId => aggIds.foldlM (fun s aggId =>
      s.connectTorAgg p capacity isLgLink torId aggId) s) topo₂ = some topo₃ := by
    rw [htors, haggs]
    exact foldlM_podPairs.trans hconnect
  refine ⟨topo₃, aggIds, ?_, hrec₃⟩
  simp only [Topology.buildPod, update_perPodCapacity (hcap p le_rfl), hadd₁, hadd₂,
    Option.bind_eq_bind, Option.bind_some, hloop]
  rfl

lemma exists_buildPods (h : Stage C kind 0 [] topo) (hroom : Room C kind)
    (hcap : NoCapacityFrom 0 topo) (capacity : ℚ) (isLgPod : ℕ → Bool) : ∃ topo' podAggs,
      topo.buildPods C.pods C.tors C.aggs capacity isLgPod = some (topo', podAggs) ∧
        PodsRecorded C topo' := by
  have hloop : ∃ s, topo.buildPods C.pods C.tors C.aggs capacity isLgPod = some s ∧
      Stage C kind (C.pods * C.podSize) (podLinks C C.pods) s.1 ∧ NoCapacityFrom C.pods s.1 ∧
        PodsRecorded C s.1 := by
    refine Loop.range_total (P := fun p (s : Topology × (ℕ → List ℕ)) =>
      Stage C kind (p * C.podSize) (podLinks C p) s.1 ∧ NoCapacityFrom p s.1 ∧
        PodsRecorded C s.1) ?_ fun p hp s hP => ?_
    · refine ⟨by rwa [Nat.zero_mul], hcap, fun sw hsw => ?_⟩
      rw [h.globalSwitchId] at hsw
      exact absurd hsw (Nat.not_lt_zero sw)
    · obtain ⟨topo', aggIds, hs, hrec⟩ := exists_buildPod capacity (isLgPod p) hp hroom hP.1
        hP.2.1 hP.2.2
      obtain ⟨hstage, hcap, -⟩ := hP.1.buildPod hp hP.2.1 hs
      refine ⟨(topo', Function.update s.2 p aggIds), ?_, hstage, hcap, hrec⟩
      obtain ⟨topo₁, podAggs⟩ := s
      simp only at hs ⊢
      rw [hs]
      rfl
  obtain ⟨s, hs, -, -, hrec⟩ := hloop
  exact ⟨s.1, s.2, hs, hrec⟩

/-! ## Planes -/

lemma exists_addPlanes (h : Stage C kind (C.pods * C.podSize) P topo) (hroom : Room C kind)
    (hrec : PodsRecorded C topo) : ∃ topo' planes,
      (List.range C.aggs).foldlM (fun (s : Topology × List (List ℕ)) _ => do
        let (topo, coreSwIds) ← s.1.addSwitches .CORE 0 C.cores
        return (topo, s.2 ++ [coreSwIds])) (topo, []) = some (topo', planes) ∧
      PodsRecorded C topo' := by
  have hloop := Loop.range_total (n := C.aggs) (s := (topo, []))
    (f := fun (s : Topology × List (List ℕ)) _ => do
      let (topo, coreSwIds) ← s.1.addSwitches .CORE 0 C.cores
      return (topo, s.2 ++ [coreSwIds]))
    (P := fun j s => Stage C kind (C.pods * C.podSize + j * C.cores) P s.1 ∧
      PodsRecorded C s.1)
    ⟨by rwa [Nat.zero_mul], hrec⟩ fun j hj s hP => ?_
  · obtain ⟨⟨topo', planes⟩, hs, -, hrec'⟩ := hloop
    exact ⟨topo', planes, hs, hrec'⟩
  · have hcore : ∀ i < C.cores, C.typeOf (C.pods * C.podSize + j * C.cores + i) = .CORE :=
      fun i _ => by
        rw [Nat.add_assoc]
        exact Clos.typeOf_coreId
    have hle : (j + 1) * C.cores ≤ C.aggs * C.cores := Nat.mul_le_mul_right _ hj
    rw [Nat.succ_mul] at hle
    have hroom' : C.pods * C.podSize + j * C.cores + C.cores ≤ C.numSwitches := by
      unfold Clos.numSwitches
      omega
    obtain ⟨topo', ids, hs, hrec'⟩ := hP.1.exists_addSwitches 0 hroom hP.2 hroom' hcore
      fun i _ hlt => by omega
    obtain ⟨hstage, -, -⟩ := hP.1.addSwitches hcore hs
    refine ⟨(topo', s.2 ++ [ids]), by simp [hs], ?_, hrec'⟩
    rwa [Nat.succ_mul, ← Nat.add_assoc]

lemma exists_connectPlanes (h : Stage C kind C.numSwitches C.lowPairs topo) (hroom : Room C kind)
    (hrec : PodsRecorded C topo) (pod : Topology → ℕ × ℕ → ℕ) (capacity : ℚ) (isLgLink : Bool) :
    ∃ topo',
      C.upPairs.foldlM (fun s x => s.connectCoreAgg (pod s x) capacity isLgLink x.1 x.2) topo =
        some topo' ∧ PodsRecorded C topo' := by
  refine h.exists_connectAll (G := (· ∈ C.upPairs)) hrec
    (List.prefix_rfl : C.lowPairs ++ C.upPairs <+: C.pairs) (fun x hx => hx)
    fun P x s hs hpre hx => ?_
  obtain ⟨j, hj, i, hi, p, hp, rfl⟩ := Clos.mem_upPairs.mp hx
  obtain ⟨s', hs'⟩ := hs.exists_connectCoreAgg hroom (Clos.aggId_lt hp hj) hpre hx (pod s _)
    isLgLink
  obtain ⟨hstage, hadd⟩ := hs.connectCoreAgg (Clos.coreId_lt hj hi) (Clos.aggId_lt hp hj) hpre hx
    hs'
  exact ⟨s', hs', hstage, hadd⟩

/-- A network with ToRs and core switches gets its metrics. -/
lemma exists_initMetrics (h : Stage C kind C.numSwitches C.pairs topo)
    (hpos : 0 < C.pods ∧ 0 < C.tors ∧ 0 < C.aggs ∧ 0 < C.cores) :
    ∃ topo', topo.initMetrics C.pods = some topo' := by
  have htors : topo.fabric.switchTypewiseList .TOR ≠ [] :=
    List.ne_nil_of_mem (h.mem_tors.mpr ⟨0, hpos.1, 0, hpos.2.1, rfl⟩)
  have hcores : topo.fabric.switchTypewiseList .CORE ≠ [] :=
    List.ne_nil_of_mem (h.mem_cores.mpr ⟨0, hpos.2.2.1, 0, hpos.2.2.2, rfl⟩)
  simp [Topology.initMetrics, Topology.populateAllPathsToCore, guard, htors, hcores]

lemma podsRecorded_initMetrics {numPods : ℕ} (hs : topo.initMetrics numPods = some topo')
    (hrec : PodsRecorded C topo) : PodsRecorded C topo' := by
  have hf := fabric_initMetrics hs
  intro sw hsw hlt
  rw [hf] at hsw ⊢
  exact hrec sw hsw hlt

end Stage

/-! ## The builders -/

lemma pipesFor_ne_zero {numLinks : ℕ} (h : 0 < numLinks) : Topology.pipesFor numLinks ≠ 0 := by
  unfold Topology.pipesFor maxPortsPerPipe
  split <;> omega

/-- **A FatTree within the limits is built.**  Together with `built_fattree` the builder is totally
correct. -/
theorem exists_buildTopoFattree {topoParams : TopoParams} {k : ℕ} {capacity : ℚ}
    (hk : topoParams.k = some k) (hcap : topoParams.linkCapacity = some capacity) (htwo : 2 ≤ k)
    (hswitches : (fattreeClos k).numSwitches ≤ maxNumberOfSwitches)
    (hlinks : (fattreeClos k).pairs.length ≤ maxNumberOfLinks) : ∃ topo,
      (Topology.new .FatTree).buildTopoFattree topoParams = some topo ∧
        PodsRecorded (fattreeClos k) topo := by
  have hroom : Room (fattreeClos k) (.FatTree, topoParams, Binary64.round ((k : ℚ) ^ 3 / 2)) := by
    have hpos : 0 < k := by omega
    refine ⟨hswitches, hlinks, fun sw _ => ⟨Topology.pipesFor k, k, pipesFor_ne_zero hpos, ?_⟩⟩
    simp [Topology.numPipesAndLinks, hk]
  have h₀ := stage_new (fattreeClos k) .FatTree topoParams (Binary64.round ((k : ℚ) ^ 3 / 2))
  obtain ⟨topo₁, podAggs, hpods, hrec₁⟩ := h₀.exists_buildPods hroom (fun _ _ => rfl) capacity
    fun _ => true
  obtain ⟨h₁, haggs⟩ := h₀.buildPods (fun _ _ => rfl) hpods
  have hcore : ∀ i < (k / 2) ^ 2, (fattreeClos k).typeOf
      ((fattreeClos k).pods * (fattreeClos k).podSize + i) = .CORE :=
    fun i _ => if_neg (Nat.not_lt.mpr (Nat.le_add_right _ i))
  have hsq : (k / 2) ^ 2 = k / 2 * (k / 2) := sq _
  obtain ⟨topo₂, coreIds, hcores, hrec₂⟩ := h₁.exists_addSwitches 0 hroom hrec₁
    (by rw [hsq]; exact le_rfl) hcore
    fun i _ hlt => absurd hlt (Nat.not_lt.mpr (Nat.le_add_right _ i))
  obtain ⟨h₂, hids, -⟩ := h₁.addSwitches hcore hcores
  rw [hsq] at h₂ hids
  obtain ⟨topo₃, hloop, hrec₃⟩ := h₂.exists_connectPlanes hroom hrec₂
    (fun _ x => x.2 / (fattreeClos k).podSize) capacity true
  obtain ⟨topo₄, hinit⟩ := (h₂.connectPlanes hloop).exists_initMetrics
    (by simp only [fattreeClos]; omega)
  refine ⟨topo₄, ?_, Stage.podsRecorded_initMetrics hinit hrec₃⟩
  refine Option.bind_eq_some_iff.mpr ⟨(), ?_, ?_⟩
  · simp [guard, Topology.checkTopoParams, hk, hcap]
  refine Option.bind_eq_some_iff.mpr ⟨k, hk, ?_⟩
  refine Option.bind_eq_some_iff.mpr ⟨capacity, hcap, ?_⟩
  refine Option.bind_eq_some_iff.mpr ⟨(topo₁, podAggs), hpods, ?_⟩
  refine Option.bind_eq_some_iff.mpr ⟨(topo₂, coreIds), hcores, ?_⟩
  refine Option.bind_eq_some_iff.mpr ⟨topo₃, ?_, hinit⟩
  rw [hsq]
  exact (foldlM_fattree hids haggs topo₂).trans hloop

/-- **An FbFabric within the limits is built**, whatever part of it runs LinkGuardian. -/
theorem exists_buildTopoFbfabric {topoParams : TopoParams} {numPods torsPerPod : ℕ}
    {oversubscription capacity deploymentPercent : ℚ} (shuffle : List ℕ → List ℕ)
    (hpods : topoParams.numPods = some numPods) (htors : topoParams.torsPerPod = some torsPerPod)
    (hover : topoParams.oversubscription = some oversubscription)
    (hcap : topoParams.linkCapacity = some capacity)
    (hpercent : topoParams.deploymentPercent = some deploymentPercent)
    (hpos : 0 < numPods ∧ 0 < torsPerPod)
    (hcores : 0 < Topology.coreSwitchesPerSpinePlane torsPerPod oversubscription)
    (hswitches : (fbfabricClos numPods torsPerPod oversubscription).numSwitches ≤
      maxNumberOfSwitches)
    (hlinks : (fbfabricClos numPods torsPerPod oversubscription).pairs.length ≤
      maxNumberOfLinks) : ∃ topo,
      (Topology.new .FbFabric).buildTopoFbfabric topoParams shuffle = some topo ∧
        PodsRecorded (fbfabricClos numPods torsPerPod oversubscription) topo := by
  have hne : oversubscription ≠ 0 := by
    rintro rfl
    simp [Topology.coreSwitchesPerSpinePlane_zero_right] at hcores
  have hroom : Room (fbfabricClos numPods torsPerPod oversubscription) (.FbFabric, topoParams,
      (numPods * (torsPerPod * 4 + 4 *
        Topology.coreSwitchesPerSpinePlane torsPerPod oversubscription : ℕ) : ℚ)) := by
    refine ⟨hswitches, hlinks, fun sw hsw => ?_⟩
    have hpipes := pipesFor_ne_zero hpos.1
    rcases Clos.switch_cases hsw with ⟨p, hp, i, hi, rfl⟩ | ⟨p, hp, j, hj, rfl⟩ |
      ⟨j, hj, i, hi, rfl⟩
    · simp [Topology.numPipesAndLinks, Clos.typeOf_torId hp hi, hpods, htors, hover, guard, hne]
    · simp [Topology.numPipesAndLinks, Clos.typeOf_aggId hp hj, hpods, htors, hover, guard, hne]
    · simp [Topology.numPipesAndLinks, Clos.typeOf_coreId, hpods, htors, hover, guard, hne, hpipes]
  have h₀ := stage_new (fbfabricClos numPods torsPerPod oversubscription) .FbFabric topoParams
    (numPods * (torsPerPod * 4 + 4 *
      Topology.coreSwitchesPerSpinePlane torsPerPod oversubscription : ℕ))
  -- the stages of the builder: that one returns is proved beside what it returns
  obtain ⟨topo₁, podAggs, hbuild, hrec₁⟩ := h₀.exists_buildPods hroom (fun _ _ => rfl) capacity
    fun pod => !decide (deploymentPercent ≠ 100) ||
      decide (pod ∈ Topology.lgEnabledPods numPods deploymentPercent shuffle)
  obtain ⟨h₁, haggs⟩ := h₀.buildPods (fun _ _ => rfl) hbuild
  obtain ⟨topo₂, planes, hadd, hrec₂⟩ := h₁.exists_addPlanes hroom hrec₁
  obtain ⟨h₂, hplanes⟩ := h₁.addPlanes hadd
  obtain ⟨topo₃, hloop, hrec₃⟩ := h₂.exists_connectPlanes hroom hrec₂
    (fun s x => (s.fabric.nodes x.2).pod) capacity (!decide (deploymentPercent ≠ 100))
  obtain ⟨topo₄, hinit⟩ := (h₂.connectPlanes hloop).exists_initMetrics
    ⟨hpos.1, hpos.2, Nat.succ_pos 3, hcores⟩
  refine ⟨topo₄, ?_, Stage.podsRecorded_initMetrics hinit hrec₃⟩
  refine Option.bind_eq_some_iff.mpr ⟨(), ?_, ?_⟩
  · simp [guard, Topology.checkTopoParams, hpods, htors, hover, hcap]
  refine Option.bind_eq_some_iff.mpr ⟨capacity, hcap, ?_⟩
  refine Option.bind_eq_some_iff.mpr ⟨oversubscription, hover, ?_⟩
  refine Option.bind_eq_some_iff.mpr ⟨numPods, hpods, ?_⟩
  refine Option.bind_eq_some_iff.mpr ⟨torsPerPod, htors, ?_⟩
  refine Option.bind_eq_some_iff.mpr ⟨deploymentPercent, hpercent, ?_⟩
  refine Option.bind_eq_some_iff.mpr ⟨(), by simp [guard, hne], ?_⟩
  refine Option.bind_eq_some_iff.mpr ⟨(topo₁, podAggs), hbuild, ?_⟩
  refine Option.bind_eq_some_iff.mpr ⟨(topo₂, planes), hadd, ?_⟩
  refine Option.bind_eq_some_iff.mpr ⟨topo₃, ?_, hinit⟩
  exact (foldlM_fbfabric hplanes haggs topo₂).trans hloop

end LinkGuardian.Simulator
