import LinkGuardian.Simulator.View

/-!
# Deployments

However LinkGuardian is deployed in an FbFabric, CorrOpt sees the same topology: the builder
raises for one deployment when it raises for another, and only the links that can run LinkGuardian
differ.
-/

namespace LinkGuardian.Simulator

open Lockstep

/-- CorrOpt sees the same topology, and the other results are equal. -/
def AlikeWith {α : Type} (x y : Topology × α) : Prop := Alike x.1 y.1 ∧ x.2 = y.2

namespace Alike

variable {topo topo' : Topology} (h : Alike topo topo')
include h

/-! ## Switches -/

omit h in
lemma numPipesAndLinks_view (topo : Topology) (type : SwitchType) :
    Topology.numPipesAndLinks topo.fabric.type topo.fabric.topoParams type =
      Topology.numPipesAndLinks topo.view.fabric.type topo.view.fabric.topoParams type := by
  show Topology.numPipesAndLinks topo.fabric.type topo.fabric.topoParams type =
    Topology.numPipesAndLinks topo.fabric.type _ type
  cases topo.fabric.type with
  | FatTree => rfl
  | LeafSpine => rfl
  | FbFabric => rfl

lemma addSwitch (type : SwitchType) (pod : ℕ) :
    Option.Rel AlikeWith (topo.addSwitch type pod) (topo'.addSwitch type pod) := by
  have hid : topo.fabric.globalSwitchId = topo'.fabric.globalSwitchId :=
    h.reads (g := fun t => t.fabric.globalSwitchId) fun _ => rfl
  have hnum := h.reads (g := fun t =>
    Topology.numPipesAndLinks t.fabric.type t.fabric.topoParams type)
    fun t => numPipesAndLinks_view t type
  unfold Topology.addSwitch
  dsimp only
  rw [hid, hnum]
  refine rel_bind_same fun _ => rel_bind_same fun ⟨numPipes, numLinks⟩ => ?_
  refine rel_bind_same fun _ => .some ⟨?_, rfl⟩
  exact h.map (g := fun t => { t with
    fabric := { t.fabric with
      globalSwitchId := topo'.fabric.globalSwitchId + 1
      switchTypewiseList := Function.update t.fabric.switchTypewiseList type
        (t.fabric.switchTypewiseList type ++ [topo'.fabric.globalSwitchId])
      nodes := Function.update t.fabric.nodes topo'.fabric.globalSwitchId
        { type := type
          pod := pod
          linkIdList := []
          numPipes := numPipes
          numLinks := numLinks
          portsPerPipe := numLinks / numPipes + if numLinks % numPipes ≠ 0 then 1 else 0 } }
    aggSwitches := Function.update t.aggSwitches topo'.fabric.globalSwitchId []
    numActiveUplinks := Function.update t.numActiveUplinks topo'.fabric.globalSwitchId 0
    lgPortsPerPipe := Function.update t.lgPortsPerPipe topo'.fabric.globalSwitchId fun _ => 0 })
    fun _ => rfl

lemma addSwitches (type : SwitchType) (pod count : ℕ) :
    Option.Rel AlikeWith (topo.addSwitches type pod count)
      (topo'.addSwitches type pod count) := by
  refine rel_foldlM (fun i _ s s' hs => ?_) ⟨h, rfl⟩
  refine rel_bind (hs.1.addSwitch type pod) fun x y hxy => .some ⟨hxy.1, ?_⟩
  rw [hs.2, hxy.2]

/-! ## Links -/

omit h in
lemma addLink_view (topo : Topology) (sw1 sw2 : ℕ) (capacity : ℚ) (type : LinkType)
    (isLgLink : Bool) :
    (topo.addLink sw1 sw2 capacity type isLgLink).map (fun x => (x.1.view, x.2)) =
      (topo.view.addLink sw1 sw2 capacity type false).map fun x => (x.1.view, x.2) := by
  let id := topo.fabric.globalLinkId
  have hedges (a : LinkAttributes) : (fun e => (setEdge topo.fabric.edges s(sw1, sw2) a e).view) =
      fun e => (setEdge topo.view.fabric.edges s(sw1, sw2) a.view e).view := by
    rw [map_setEdge LinkAttributes.view, map_setEdge LinkAttributes.view]
    rfl
  have hstates (a : LinkState) : (fun e => (setEdge topo.linkStates s(sw1, sw2) a e).view) =
      fun e => (setEdge topo.view.linkStates s(sw1, sw2) a e).view := by
    rw [map_setEdge LinkState.view, map_setEdge LinkState.view]
    rfl
  show Option.map _ (Option.bind (guard (id < maxNumberOfLinks)) _) =
    Option.map _ (Option.bind (guard (id < maxNumberOfLinks)) _)
  by_cases hid : id < maxNumberOfLinks
  · rw [show (guard (id < maxNumberOfLinks) : Option Unit) = some () from if_pos hid]
    exact congrArg₂ (fun edges states => some ({ topo.view with
      fabric := { topo.view.fabric with
        globalLinkId := id + 1
        linkidToSwitchpairMapping :=
          Function.update topo.fabric.linkidToSwitchpairMapping id (sw1, sw2)
        neighbors := Topology.addNeighbor
          (Topology.addNeighbor topo.fabric.neighbors sw1 sw2) sw2 sw1
        edges := edges
        nodes := Topology.addLinkToSwitch
          (Topology.addLinkToSwitch topo.fabric.nodes sw1 id) sw2 id }
      linkStates := states }, id)) (hedges _) (hstates _)
  · rw [show (guard (id < maxNumberOfLinks) : Option Unit) = none from if_neg hid]
    rfl

lemma addLink (sw1 sw2 : ℕ) (capacity : ℚ) (type : LinkType) (isLgLink isLgLink' : Bool) :
    Option.Rel AlikeWith (topo.addLink sw1 sw2 capacity type isLgLink)
      (topo'.addLink sw1 sw2 capacity type isLgLink') := by
  have heq : (topo.addLink sw1 sw2 capacity type isLgLink).map (fun x => (x.1.view, x.2)) =
      (topo'.addLink sw1 sw2 capacity type isLgLink').map fun x => (x.1.view, x.2) := by
    rw [addLink_view, addLink_view topo', show topo.view = topo'.view from h]
  refine rel_mono (rel_of_map_eq heq) fun x y hxy => ⟨?_, ?_⟩
  · exact congrArg Prod.fst hxy
  · exact congrArg (fun z => z.2) hxy

lemma connectTorAgg (pod : ℕ) (capacity : ℚ) (isLgLink isLgLink' : Bool) (tor agg : ℕ) :
    Option.Rel Alike (topo.connectTorAgg pod capacity isLgLink tor agg)
      (topo'.connectTorAgg pod capacity isLgLink' tor agg) := by
  refine rel_bind (h.addLink tor agg capacity .TOR_AGG isLgLink isLgLink') ?_
  rintro ⟨t, l⟩ ⟨t', l'⟩ ⟨ht, hl⟩
  dsimp only at ht hl ⊢
  subst hl
  have hset := ht.map (g := fun s => s.setAffectedTors l {tor}) fun _ => rfl
  refine rel_bind (hset.addAggSwitchToTor tor agg) fun t t' ht => .some ?_
  show Topology.view _ = Topology.view _
  rw [view_updatePodCapacity, view_updatePodCapacity]
  exact ht.map (g := fun s => s.setPodId l pod) fun _ => rfl

lemma connectCoreAgg (pod : ℕ) (capacity : ℚ) (isLgLink isLgLink' : Bool) (core agg : ℕ) :
    Option.Rel Alike (topo.connectCoreAgg pod capacity isLgLink core agg)
      (topo'.connectCoreAgg pod capacity isLgLink' core agg) := by
  refine rel_bind (h.addLink core agg capacity .AGG_CORE isLgLink isLgLink') ?_
  rintro ⟨t, l⟩ ⟨t', l'⟩ ⟨ht, hl⟩
  dsimp only at ht hl ⊢
  subst hl
  refine rel_bind (ht.incrementNumActiveUplinks agg) fun t t' ht => .some ?_
  show Topology.view _ = Topology.view _
  rw [view_updatePodCapacity, view_updatePodCapacity]
  exact ht.map (g := fun s => (s.setAffectedTors l
    (s.fabric.getAdjacentSwitchIds agg .TOR)).setPodId l pod) fun _ => rfl

/-! ## Pods -/

lemma buildPod (pod numTors numAggs : ℕ) (capacity : ℚ) (isLgLink isLgLink' : Bool) :
    Option.Rel AlikeWith (topo.buildPod pod numTors numAggs capacity isLgLink)
      (topo'.buildPod pod numTors numAggs capacity isLgLink') := by
  have hreset : Alike
      { topo with perPodCapacity := Function.update topo.perPodCapacity pod fun _ => 0 }
      { topo' with perPodCapacity := Function.update topo'.perPodCapacity pod fun _ => 0 } := h
  refine rel_bind (hreset.addSwitches .TOR pod numTors) ?_
  rintro ⟨t, tors⟩ ⟨t', tors'⟩ ⟨ht, htors⟩
  dsimp only at ht htors ⊢
  subst htors
  refine rel_bind (ht.addSwitches .AGG pod numAggs) ?_
  rintro ⟨t, aggs⟩ ⟨t', aggs'⟩ ⟨ht, haggs⟩
  dsimp only at ht haggs ⊢
  subst haggs
  refine rel_bind (rel_foldlM (fun tor _ s s' hs => ?_) ht) fun t t' ht => .some ⟨ht, rfl⟩
  exact rel_foldlM (fun agg _ s s' hs =>
    hs.connectTorAgg pod capacity isLgLink isLgLink' tor agg) hs

lemma buildPods (numPods numTors numAggs : ℕ) (capacity : ℚ) (isLgPod isLgPod' : ℕ → Bool) :
    Option.Rel AlikeWith (topo.buildPods numPods numTors numAggs capacity isLgPod)
      (topo'.buildPods numPods numTors numAggs capacity isLgPod') := by
  refine rel_foldlM (fun pod _ s s' hs => ?_) ⟨h, rfl⟩
  refine rel_bind (hs.1.buildPod pod numTors numAggs capacity (isLgPod pod) (isLgPod' pod))
    fun x y hxy => .some ⟨hxy.1, ?_⟩
  rw [hs.2, hxy.2]

lemma initMetrics (numPods : ℕ) :
    Option.Rel Alike (topo.initMetrics numPods) (topo'.initMetrics numPods) := by
  have htors : topo.fabric.switchTypewiseList = topo'.fabric.switchTypewiseList :=
    h.reads (g := fun t => t.fabric.switchTypewiseList) fun _ => rfl
  have hpaths : topo.getPathsToCore = topo'.getPathsToCore :=
    h.reads (g := Topology.getPathsToCore) fun _ => rfl
  unfold Topology.initMetrics Topology.populateAllPathsToCore
  rw [htors, hpaths]
  refine rel_bind (R := Alike) (rel_bind_same fun _ => rel_bind_same fun _ => .some ?_)
    fun t t' ht => .some ?_
  · exact h.map (g := fun t => { t with fabric := { t.fabric with
      pathsToCore := (topo'.fabric.switchTypewiseList .TOR).foldl
        (fun paths tor => Function.update paths tor (topo'.getPathsToCore tor))
        t.fabric.pathsToCore } }) fun _ => rfl
  · exact ht.map (g := fun t => { t with
      fabric := { t.fabric with
        numTors := (t.fabric.switchTypewiseList .TOR).length
        numPods := numPods }
      totalLossRate := t.fabric.numLinks * initialLinkLossRate
      totalEffectiveLossRate := t.fabric.numLinks * initialLinkLossRate
      numPathsToCore := (t.fabric.switchTypewiseList .TOR).foldl
        (fun num tor => Function.update num tor ((t.fabric.pathsToCore tor).length : ℤ))
        t.numPathsToCore }) fun _ => rfl

end Alike

/-! ## The builder -/

/-- **CorrOpt sees the same FbFabric, however LinkGuardian is deployed.**  So results about CorrOpt
need not mention the deployment. -/
theorem alike_buildTopoFbfabric (topoParams : TopoParams) (percent percent' : ℚ)
    (shuffle shuffle' : List ℕ → List ℕ) :
    Option.Rel Alike
      ((Topology.new .FbFabric).buildTopoFbfabric
        { topoParams with deploymentPercent := some percent } shuffle)
      ((Topology.new .FbFabric).buildTopoFbfabric
        { topoParams with deploymentPercent := some percent' } shuffle') := by
  unfold Topology.buildTopoFbfabric
  dsimp only
  refine rel_bind_same fun _ => rel_bind_same fun capacity => rel_bind_same fun oversub => ?_
  refine rel_bind_same fun numPods => rel_bind_same fun torsPerPod => ?_
  show Option.Rel Alike (Option.bind (guard (oversub ≠ 0)) _) (Option.bind (guard (oversub ≠ 0)) _)
  refine rel_bind_same fun _ => ?_
  have hstart : Alike
      { Topology.new .FbFabric with fabric := { Fabric.empty .FbFabric with
          topoParams := { topoParams with deploymentPercent := some percent }
          numLinks := numPods * (torsPerPod * 4 +
            4 * Topology.coreSwitchesPerSpinePlane torsPerPod oversub : ℕ) } }
      { Topology.new .FbFabric with fabric := { Fabric.empty .FbFabric with
          topoParams := { topoParams with deploymentPercent := some percent' }
          numLinks := numPods * (torsPerPod * 4 +
            4 * Topology.coreSwitchesPerSpinePlane torsPerPod oversub : ℕ) } } := rfl
  -- which links can run LinkGuardian is an argument of these steps, and no step reads it
  refine rel_bind (hstart.buildPods numPods torsPerPod 4 capacity _ _) ?_
  rintro ⟨t, podAggs⟩ ⟨t', podAggs'⟩ ⟨ht, haggs⟩
  dsimp only at ht haggs ⊢
  subst haggs
  refine rel_bind (R := AlikeWith) (rel_foldlM (fun _ _ s s' hs => ?_) ⟨ht, rfl⟩) ?_
  · refine rel_bind (hs.1.addSwitches .CORE 0 _) fun x y hxy => .some ⟨hxy.1, ?_⟩
    rw [hs.2, hxy.2]
  rintro ⟨t, planes⟩ ⟨t', planes'⟩ ⟨ht, hplanes⟩
  dsimp only at ht hplanes ⊢
  subst hplanes
  refine rel_bind (R := Alike) (rel_foldlM (fun plane _ s s' hs => ?_) ht) fun t t' ht =>
    ht.initMetrics numPods
  refine rel_bind_same fun coreSwitches => rel_bind_same fun aggs => ?_
  refine rel_foldlM (fun core _ s s' hs => rel_foldlM (fun agg _ s s' hs => ?_) hs) hs
  have hpod : (s.fabric.nodes agg).pod = (s'.fabric.nodes agg).pod :=
    hs.reads (g := fun t => (t.fabric.nodes agg).pod) fun _ => rfl
  rw [hpod]
  exact hs.connectCoreAgg _ capacity _ _ core agg

end LinkGuardian.Simulator
