import LinkGuardian.Library.Lockstep
import LinkGuardian.Simulator.LgPorts
import LinkGuardian.Simulator.Simulation

/-!
# What CorrOpt sees

The view of a topology leaves out all that LinkGuardian changes and all that depends on its
deployment.  What CorrOpt decides is a function of the view, and what happens to the view when a
link fails, is disabled or enabled depends on the view alone.
-/

namespace LinkGuardian.Simulator

open Lockstep

/-! ## The view -/

/-- The attributes of a link without whether it can run LinkGuardian. -/
def LinkAttributes.view (a : LinkAttributes) : LinkAttributes := { a with lgCapable := false }

/-- A fabric without its deployment of LinkGuardian. -/
def Fabric.view (f : Fabric) : Fabric :=
  { f with
    topoParams := { f.topoParams with deploymentPercent := none }
    edges := fun e => (f.edges e).view
    numLgEnabledLinks := 0 }

/-- The attributes of a link without those that LinkGuardian sets. -/
def LinkState.view (a : LinkState) : LinkState :=
  { a with effectiveCapacity := 0, effectiveLossRate := 0, lgEnabled := false }

/-- A topology without what LinkGuardian changes or what depends on it. -/
def Topology.view (topo : Topology) : Topology :=
  { topo with
    fabric := topo.fabric.view
    lgPortsPerPipe := fun _ _ => 0
    linkStates := fun e => (topo.linkStates e).view
    perPodCapacity := fun _ _ => 0
    totalEffectiveLossRate := 0
    topLgPortsPerPipeHeap := #[] }

/-- CorrOpt sees the same.  As an equation between views it can be rewritten with, and is symmetric
and transitive for nothing. -/
def Alike (topo topo' : Topology) : Prop := topo.view = topo'.view

namespace Alike

variable {topo topo' topo'' : Topology}

lemma refl (topo : Topology) : Alike topo topo := rfl

lemma symm (h : Alike topo topo') : Alike topo' topo := Eq.symm h

lemma trans (h : Alike topo topo') (h' : Alike topo' topo'') : Alike topo topo'' := Eq.trans h h'

/-- A function that reads no more than the view. -/
lemma reads {α : Type*} {g : Topology → α} (h : Alike topo topo') (hg : ∀ t, g t = g t.view) :
    g topo = g topo' := by
  rw [hg topo, hg topo']
  exact congrArg g h

section Fields

variable (h : Alike topo topo')
include h

lemma lookupLink (linkId : ℤ) : topo.fabric.lookupLink linkId = topo'.fabric.lookupLink linkId :=
  h.reads (g := fun t => t.fabric.lookupLink linkId) fun _ => rfl

lemma links : topo.fabric.links = topo'.fabric.links :=
  h.reads (g := fun t => t.fabric.links) fun _ => rfl

lemma edgeOf (l : ℕ) : topo.fabric.edgeOf l = topo'.fabric.edgeOf l :=
  h.reads (g := fun t => t.fabric.edgeOf l) fun _ => rfl

lemma link (l : ℕ) : (topo.link l).view = (topo'.link l).view :=
  h.reads (g := fun t => (t.link l).view) fun _ => rfl

lemma isLinkDisabled (l : ℕ) : topo.isLinkDisabled l = topo'.isLinkDisabled l :=
  h.reads (g := fun t => t.isLinkDisabled l) fun _ => rfl

lemma lossRate (l : ℕ) : topo.getLinkLossRate l = topo'.getLinkLossRate l :=
  h.reads (g := fun t => t.getLinkLossRate l) fun _ => rfl

lemma disabledLinks : topo.disabledLinks = topo'.disabledLinks :=
  h.reads (g := Topology.disabledLinks) fun _ => rfl

lemma corruptingLinks : topo.corruptingLinks = topo'.corruptingLinks :=
  h.reads (g := Topology.corruptingLinks) fun _ => rfl

lemma numPathsToCore : topo.numPathsToCore = topo'.numPathsToCore :=
  h.reads (g := Topology.numPathsToCore) fun _ => rfl

lemma totalLossRate : topo.totalLossRate = topo'.totalLossRate :=
  h.reads (g := Topology.totalLossRate) fun _ => rfl

lemma maxLinkLossRate : topo.getMaxLinkLossRate = topo'.getMaxLinkLossRate :=
  h.reads (g := Topology.getMaxLinkLossRate) fun _ => rfl

end Fields

/-! ## What CorrOpt reads -/

section Reads

variable (h : Alike topo topo')
include h

lemma getSwitchType (sw : ℕ) : topo.fabric.getSwitchType sw = topo'.fabric.getSwitchType sw :=
  h.reads (g := fun t => t.fabric.getSwitchType sw) fun _ => rfl

lemma getSwitchPairTypes (l : ℕ) :
    topo.fabric.getSwitchPairTypes l = topo'.fabric.getSwitchPairTypes l :=
  h.reads (g := fun t => t.fabric.getSwitchPairTypes l) fun _ => rfl

lemma connectedSwitch (l : ℕ) (type : SwitchType) :
    topo.fabric.connectedSwitch l type = topo'.fabric.connectedSwitch l type :=
  h.reads (g := fun t => t.fabric.connectedSwitch l type) fun _ => rfl

lemma aggSwitches : topo.aggSwitches = topo'.aggSwitches :=
  h.reads (g := Topology.aggSwitches) fun _ => rfl

lemma numActiveUplinks : topo.numActiveUplinks = topo'.numActiveUplinks :=
  h.reads (g := Topology.numActiveUplinks) fun _ => rfl

lemma getCurrNumPathsToCore (t : ℕ) :
    topo.getCurrNumPathsToCore t = topo'.getCurrNumPathsToCore t :=
  h.reads (g := (Topology.getCurrNumPathsToCore · t)) fun _ => rfl

lemma fastCheckViolation (sol : CorrOptSolution) (l : ℕ) :
    sol.fastCheckViolation topo l = sol.fastCheckViolation topo' l :=
  h.reads (g := (sol.fastCheckViolation · l)) fun _ => rfl

lemma logTorCapacityConstraintsSummary (t : ℕ) :
    CorrOptSolution.logTorCapacityConstraintsSummary topo t =
      CorrOptSolution.logTorCapacityConstraintsSummary topo' t :=
  h.reads (g := (CorrOptSolution.logTorCapacityConstraintsSummary · t)) fun _ => rfl

lemma getTorsWithCapacityConstraintViolation (sol : CorrOptSolution) (order : SetOrder)
    (S : Finset ℕ) : sol.getTorsWithCapacityConstraintViolation order topo S =
      sol.getTorsWithCapacityConstraintViolation order topo' S :=
  h.reads (g := (sol.getTorsWithCapacityConstraintViolation order · S)) fun _ => rfl

lemma searchSubsets (sol : CorrOptSolution) (orders : SetOrders) :
    sol.searchSubsets orders topo = sol.searchSubsets orders topo' :=
  h.reads (g := sol.searchSubsets orders) fun _ => rfl

lemma affectedTors (l : ℕ) :
    topo.fabric.linkIdToAffectedTors l = topo'.fabric.linkIdToAffectedTors l :=
  h.reads (g := fun t => t.fabric.linkIdToAffectedTors l) fun _ => rfl

lemma corroptNew (percent : ℚ) :
    CorrOptSolution.new topo percent = CorrOptSolution.new topo' percent :=
  h.reads (g := (CorrOptSolution.new · percent)) fun _ => rfl

end Reads

/-! ## What happens to the view -/

section Writes

lemma map {g : Topology → Topology} (h : Alike topo topo')
    (hg : ∀ t, (g t).view = (g t.view).view) : Alike (g topo) (g topo') := by
  show (g topo).view = (g topo').view
  rw [hg topo, hg topo']
  exact congrArg (fun t => (g t).view) h

/-- Where an operation acts on the view as it acts on the topology. -/
lemma rel {g : Topology → Option Topology} (h : Alike topo topo')
    (hg : ∀ t, (g t).map Topology.view = (g t.view).map Topology.view) :
    Option.Rel Alike (g topo) (g topo') := by
  refine rel_of_map_eq (v := Topology.view) (w := Topology.view) ?_
  rw [hg topo, hg topo']
  exact congrArg (fun t => (g t).map Topology.view) h

end Writes

end Alike

lemma map_setEdge {α β : Type} (k : α → β) (m : Sym2 ℕ → α) (e : Sym2 ℕ) (v : α) :
    (fun e' => k (setEdge m e v e')) = setEdge (fun e' => k (m e')) e (k v) := by
  funext e'
  show k (if e' = e then v else m e') = if e' = e then k v else k (m e')
  exact apply_ite k _ _ _

lemma Topology.view_setLink (topo : Topology) (l : ℕ) (g : LinkState → LinkState) :
    (topo.setLink l g).view = { topo.view with
      linkStates := setEdge topo.view.linkStates (topo.fabric.edgeOf l)
        (g (topo.link l)).view } := by
  exact congrArg (fun states => { topo.view with linkStates := states })
    (map_setEdge LinkState.view topo.linkStates (topo.fabric.edgeOf l) (g (topo.link l)))

namespace Alike

variable {topo topo' : Topology} (h : Alike topo topo') (l : ℕ)
include h

lemma setLink {g g' : LinkState → LinkState}
    (hg : (g (topo.link l)).view = (g' (topo'.link l)).view) :
    Alike (topo.setLink l g) (topo'.setLink l g') := by
  show (topo.setLink l g).view = (topo'.setLink l g').view
  rw [Topology.view_setLink, Topology.view_setLink, hg, h.edgeOf,
    show topo.view = topo'.view from h]

lemma removeFromTopLossRates (lossRate : ℚ) :
    Option.Rel Alike (topo.removeFromTopLossRates lossRate)
      (topo'.removeFromTopLossRates lossRate) := by
  refine h.rel (g := fun t => t.removeFromTopLossRates lossRate) fun t => ?_
  show Option.map _ (Option.bind (Heapq.remove t.topLossRatesHeap lossRate) _) =
    Option.map _ (Option.bind (Heapq.remove t.topLossRatesHeap lossRate) _)
  cases Heapq.remove t.topLossRatesHeap lossRate with
  | none => rfl
  | some heap => rfl

lemma removeAggSwitchFromTor (torId aggId : ℕ) :
    Option.Rel Alike (topo.removeAggSwitchFromTor torId aggId)
      (topo'.removeAggSwitchFromTor torId aggId) := by
  unfold Topology.removeAggSwitchFromTor
  rw [h.getSwitchType, h.getSwitchType, h.aggSwitches]
  refine rel_bind_same fun _ => rel_bind_same fun _ => rel_bind_same fun aggs => .some ?_
  exact h.map (g := fun t => { t with
    aggSwitches := Function.update topo'.aggSwitches torId aggs }) fun _ => rfl

lemma addAggSwitchToTor (torId aggId : ℕ) :
    Option.Rel Alike (topo.addAggSwitchToTor torId aggId)
      (topo'.addAggSwitchToTor torId aggId) := by
  unfold Topology.addAggSwitchToTor
  rw [h.getSwitchType, h.getSwitchType, h.aggSwitches]
  refine rel_bind_same fun _ => rel_bind_same fun _ => .some ?_
  exact h.map (g := fun t => { t with
    aggSwitches := Function.update topo'.aggSwitches torId (topo'.aggSwitches torId ++ [aggId]) })
    fun _ => rfl

lemma decrementNumActiveUplinks (aggId : ℕ) :
    Option.Rel Alike (topo.decrementNumActiveUplinks aggId)
      (topo'.decrementNumActiveUplinks aggId) := by
  unfold Topology.decrementNumActiveUplinks
  rw [h.getSwitchType, h.numActiveUplinks]
  refine rel_bind_same fun _ => .some ?_
  exact h.map (g := fun t => { t with
    numActiveUplinks :=
      Function.update topo'.numActiveUplinks aggId (topo'.numActiveUplinks aggId - 1) })
    fun _ => rfl

lemma incrementNumActiveUplinks (aggId : ℕ) :
    Option.Rel Alike (topo.incrementNumActiveUplinks aggId)
      (topo'.incrementNumActiveUplinks aggId) := by
  unfold Topology.incrementNumActiveUplinks
  rw [h.getSwitchType, h.numActiveUplinks]
  refine rel_bind_same fun _ => .some ?_
  exact h.map (g := fun t => { t with
    numActiveUplinks :=
      Function.update topo'.numActiveUplinks aggId (topo'.numActiveUplinks aggId + 1) })
    fun _ => rfl

lemma detachSwitches : Option.Rel Alike (topo.detachSwitches l) (topo'.detachSwitches l) := by
  unfold Topology.detachSwitches
  rw [h.getSwitchPairTypes, h.connectedSwitch, h.connectedSwitch]
  split
  · exact rel_bind_same fun tor => rel_bind_same fun agg => h.removeAggSwitchFromTor tor agg
  · split
    · exact rel_bind_same fun agg => h.decrementNumActiveUplinks agg
    · exact .some h

lemma attachSwitches : Option.Rel Alike (topo.attachSwitches l) (topo'.attachSwitches l) := by
  unfold Topology.attachSwitches
  rw [h.getSwitchPairTypes, h.connectedSwitch, h.connectedSwitch]
  split
  · exact rel_bind_same fun tor => rel_bind_same fun agg => h.addAggSwitchToTor tor agg
  · split
    · exact rel_bind_same fun agg => h.incrementNumActiveUplinks agg
    · exact .some h

lemma updateNumPathsToCore :
    Option.Rel Alike (topo.updateNumPathsToCore l) (topo'.updateNumPathsToCore l) := by
  unfold Topology.updateNumPathsToCore
  rw [h.affectedTors]
  refine rel_foldlM (fun tor _ t t' ht => ?_) h
  rw [ht.getCurrNumPathsToCore, ht.numPathsToCore]
  refine rel_bind_same fun paths => .some ?_
  exact ht.map (g := fun s => { s with
    numPathsToCore := Function.update t'.numPathsToCore tor paths }) fun _ => rfl

end Alike

/-! ## LinkGuardian is not seen -/

section Unseen

variable {topo topo' : Topology} {l : ℕ}

lemma view_updatePodCapacity (topo : Topology) (l : ℕ) (linkEnabled : Bool) :
    (topo.updatePodCapacityOnLinkStatusChange l linkEnabled).view = topo.view := by
  cases linkEnabled with
  | true => rfl
  | false => rfl

/-- Attributes that CorrOpt does not see may change. -/
lemma view_setLink_of_view (topo : Topology) (l : ℕ) {g : LinkState → LinkState}
    (hg : (g (topo.link l)).view = (topo.link l).view) : (topo.setLink l g).view = topo.view := by
  rw [Topology.view_setLink, hg]
  refine congrArg (fun states => { topo.view with linkStates := states }) (funext fun e => ?_)
  show (if e = topo.fabric.edgeOf l then (topo.link l).view else topo.view.linkStates e) = _
  split
  · next he => rw [he]; rfl
  · rfl

lemma view_incrLgPortsPerPipe {sw : ℕ} (hs : topo.incrLgPortsPerPipe sw l = some topo') :
    topo'.view = topo.view := by
  obtain ⟨pipe, -, hs⟩ := Option.bind_eq_some_iff.mp hs
  obtain ⟨topo₁, hremove, hs⟩ := Option.bind_eq_some_iff.mp hs
  cases hs
  unfold Topology.removeNonzeroLgPortsPerPipe at hremove
  split at hremove
  · obtain ⟨heap, -, hremove⟩ := Option.bind_eq_some_iff.mp hremove
    cases hremove
    rfl
  · cases hremove
    rfl

lemma view_decrLgPortsPerPipe {sw : ℕ} (hs : topo.decrLgPortsPerPipe sw l = some topo') :
    topo'.view = topo.view := by
  obtain ⟨pipe, -, hs⟩ := Option.bind_eq_some_iff.mp hs
  obtain ⟨_, -, hs⟩ := Option.bind_eq_some_iff.mp hs
  obtain ⟨topo₁, hremove, hs⟩ := Option.bind_eq_some_iff.mp hs
  obtain ⟨heap, -, hremove⟩ := Option.bind_eq_some_iff.mp hremove
  cases hremove
  cases hs
  split
  · rfl
  · rfl

lemma view_setLinkguardianEnabled (hs : topo.setLinkguardianEnabled l = some topo') :
    topo'.view = topo.view := by
  have hset : (topo.setLink l fun a => { a with lgEnabled := true }).view = topo.view :=
    view_setLink_of_view topo l rfl
  unfold Topology.setLinkguardianEnabled at hs
  dsimp only at hs
  split at hs
  · cases hs
    exact hset
  · obtain ⟨topo₁, h₁, hs⟩ := Option.bind_eq_some_iff.mp hs
    rw [view_incrLgPortsPerPipe hs, view_incrLgPortsPerPipe h₁, hset]

lemma view_disableLinkguardian (hs : topo.disableLinkguardian l = some topo') :
    topo'.view = topo.view := by
  unfold Topology.disableLinkguardian at hs
  split at hs
  · obtain ⟨topo₁, h₁, hs⟩ := Option.bind_eq_some_iff.mp hs
    obtain ⟨topo₂, h₂, hs⟩ := Option.bind_eq_some_iff.mp hs
    cases hs
    rw [view_setLink_of_view _ _ rfl, view_decrLgPortsPerPipe h₂, view_decrLgPortsPerPipe h₁]
  · cases hs
    rfl

lemma view_setLinkEffectiveLossRate {lossRate : ℚ}
    (hs : topo.setLinkEffectiveLossRate l lossRate = some topo') : topo'.view = topo.view := by
  obtain ⟨_, -, hs⟩ := Option.bind_eq_some_iff.mp hs
  cases hs
  exact congrArg (fun t => { t with totalEffectiveLossRate := 0 })
    (view_setLink_of_view topo l
      (g := fun a => { a with effectiveLossRate := lossRate }) rfl)

/-- **Activating LinkGuardian on a link is not seen by CorrOpt.**  It is the frame that the
comparison of the two simulations rests on. -/
theorem view_linkguardian {sol : LinkGuardianSolution} {lossRate : ℚ}
    (hs : sol.processFailureEvent topo l lossRate = some topo') : topo'.view = topo.view := by
  unfold LinkGuardianSolution.processFailureEvent at hs
  split at hs
  · obtain ⟨perf, -, hs⟩ := Option.bind_eq_some_iff.mp hs
    obtain ⟨topo₁, h₁, hs⟩ := Option.bind_eq_some_iff.mp hs
    have hcapacity : (topo₁.updateEffectiveLinkCapacity l perf.2).view = topo₁.view :=
      view_setLink_of_view topo₁ l
        (g := fun a => { a with effectiveCapacity := perf.2 }) rfl
    rw [view_setLinkEffectiveLossRate hs, hcapacity, view_setLinkguardianEnabled h₁]
  · cases hs
    rfl

end Unseen

/-! ## Links that fail, are disabled and enabled -/

namespace Alike

variable {topo topo' : Topology} (h : Alike topo topo') (l : ℕ)
include h

theorem both_disableLink : Both Alike (topo.disableLink l) (topo'.disableLink l) := by
  have hmarked : Alike
      { topo.setLink l fun a => { a with disabled := true } with
        disabledLinks := insert l topo.disabledLinks
        corruptingLinks := topo.corruptingLinks.erase l }
      { topo'.setLink l fun a => { a with disabled := true } with
        disabledLinks := insert l topo'.disabledLinks
        corruptingLinks := topo'.corruptingLinks.erase l } := by
    rw [← h.disabledLinks, ← h.corruptingLinks]
    refine map (g := fun t => { t with
      disabledLinks := insert l topo.disabledLinks
      corruptingLinks := topo.corruptingLinks.erase l }) (h.setLink l ?_) fun _ => rfl
    exact congrArg (fun a : LinkState => { a with disabled := true }) (h.link l)
  refine both_bind_any fun _ _ => ?_
  dsimp only
  rw [h.lossRate]
  refine (both_of_rel (hmarked.removeFromTopLossRates _)).bind fun t t' ht => ?_
  have hreduced : Alike
      { t with
        totalLossRate := t.totalLossRate - topo'.getLinkLossRate l
        totalEffectiveLossRate := t.totalEffectiveLossRate - t.getLinkEffectiveLossRate l }
      { t' with
        totalLossRate := t'.totalLossRate - topo'.getLinkLossRate l
        totalEffectiveLossRate := t'.totalEffectiveLossRate - t'.getLinkEffectiveLossRate l } :=
    ht.map (g := fun t => { t with
      totalLossRate := t.totalLossRate - topo'.getLinkLossRate l
      totalEffectiveLossRate := t.totalEffectiveLossRate - t.getLinkEffectiveLossRate l })
      fun _ => rfl
  refine (both_of_rel (hreduced.detachSwitches l)).bind fun t t' ht => ?_
  refine (both_of_rel (ht.updateNumPathsToCore l)).bind fun t t' ht u u' hu hu' => ?_
  show u.view = u'.view
  rw [view_disableLinkguardian hu, view_disableLinkguardian hu', view_updatePodCapacity,
    view_updatePodCapacity]
  exact ht

theorem both_enableLink : Both Alike (topo.enableLink l) (topo'.enableLink l) := by
  have hreset : Alike ((topo.resetLossRate l).resetEffectiveLinkCapacity l)
      ((topo'.resetLossRate l).resetEffectiveLinkCapacity l) := by
    have hrate : Alike (topo.resetLossRate l) (topo'.resetLossRate l) := h.setLink l
      (congrArg (fun a : LinkState => { a with lossRate := initialLinkLossRate }) (h.link l))
    exact hrate.setLink l (hrate.link l)
  have hmarked : Alike
      (((topo.resetLossRate l).resetEffectiveLinkCapacity l).setLink l fun a =>
        { a with disabled := false })
      (((topo'.resetLossRate l).resetEffectiveLinkCapacity l).setLink l fun a =>
        { a with disabled := false }) :=
    hreset.setLink l (congrArg (fun a : LinkState => { a with disabled := false }) (hreset.link l))
  refine both_bind_any fun _ _ => ?_
  have hincreased := hmarked.map (g := fun t => { t with
    disabledLinks := t.disabledLinks.erase l
    totalLossRate := t.totalLossRate + initialLinkLossRate
    totalEffectiveLossRate := t.totalEffectiveLossRate + initialLinkLossRate }) fun _ => rfl
  refine (both_of_rel (hincreased.attachSwitches l)).bind fun t t' ht => ?_
  refine (both_of_rel (ht.updateNumPathsToCore l)).bind fun t t' ht => both_some ?_
  show (t.updatePodCapacityOnLinkStatusChange l true).view = _
  rw [view_updatePodCapacity, view_updatePodCapacity]
  exact ht

theorem both_recordFailure (lossRate : ℚ) :
    Both Alike (Simulation.recordFailure topo l lossRate)
      (Simulation.recordFailure topo' l lossRate) := by
  have hheap : topo.heapWithoutOldLossRate l = topo'.heapWithoutOldLossRate l :=
    h.reads (g := fun t => t.heapWithoutOldLossRate l) fun _ => rfl
  have hrecord : Option.Rel Alike (topo.recordLinkTopLossRates l lossRate)
      (topo'.recordLinkTopLossRates l lossRate) := by
    unfold Topology.recordLinkTopLossRates
    rw [hheap]
    exact rel_bind_same fun heap => .some (h.map (g := fun t => { t with
      topLossRatesHeap := Heapq.heappush (· < ·) heap lossRate }) fun _ => rfl)
  refine (both_of_rel hrecord).bind fun t t' ht => ?_
  have hrate : Both Alike (t.setLinkLossRate l lossRate) (t'.setLinkLossRate l lossRate) := by
    refine both_bind_any fun _ _ => both_some ?_
    rw [ht.lossRate]
    refine map (g := fun s => { s with
      totalLossRate := s.totalLossRate - t'.getLinkLossRate l + lossRate }) (ht.setLink l ?_)
      fun _ => rfl
    exact congrArg (fun a : LinkState => { a with lossRate := lossRate }) (ht.link l)
  refine hrate.bind fun t t' ht u u' hu hu' => ?_
  have hlast : ∀ {s v : Topology}, (if s.getLinkguardianEnabled l then some s
      else s.setLinkEffectiveLossRate l lossRate) = some v → v.view = s.view := by
    intro s v hv
    split at hv
    · cases hv
      rfl
    · exact view_setLinkEffectiveLossRate hv
  show u.view = u'.view
  rw [hlast hu, hlast hu']
  exact ht.map (g := fun s => { s with corruptingLinks := insert l s.corruptingLinks }) fun _ => rfl

end Alike

/-! ## What CorrOpt does -/

/-- As far as CorrOpt sees, the same was done.  The generator is part of it: the recovery delays of
the two simulations are the same draws. -/
structure Acting.Alike (a a' : Acting) : Prop where
  topo : Simulator.Alike a.topo a'.topo
  gen : a.gen = a'.gen
  events : a.events = a'.events

namespace Acting.Alike

variable {a a' : Acting} (h : Acting.Alike a a') (time : ℤ)
include h

lemma both_disable (l : ℕ) : Both Acting.Alike (a.disable time l) (a'.disable time l) := by
  refine (h.topo.both_disableLink l).bind fun t t' ht => both_some ?_
  rw [h.gen, h.events]
  exact ⟨ht, rfl, rfl⟩

lemma both_disableNotUpstream (order : SetOrder) (violation : Finset ℕ) :
    Both Acting.Alike (CorrOptSolution.disableNotUpstream order violation time a)
      (CorrOptSolution.disableNotUpstream order violation time a') := by
  unfold CorrOptSolution.disableNotUpstream
  rw [h.topo.corruptingLinks]
  refine both_foldlM (fun l _ b b' hb => ?_) h
  rw [hb.topo.affectedTors]
  split
  · exact hb.both_disable time l
  · exact both_some hb

lemma both_disableBestSubset (sol : CorrOptSolution) (orders : SetOrders) :
    Both Acting.Alike (sol.disableBestSubset orders time a)
      (sol.disableBestSubset orders time a') := by
  unfold CorrOptSolution.disableBestSubset
  rw [h.topo.searchSubsets]
  refine both_bind_same fun search => ?_
  split
  · refine both_bind_same fun least => ?_
    exact both_foldlM (fun l _ b b' hb => hb.both_disable time l) h
  · exact both_some h

end Acting.Alike

namespace CorrOptSolution

variable {topo topo' : Topology} (sol : CorrOptSolution) (h : Alike topo topo') (gen : RandGen)
  (time : ℤ)
include h

/-- **The fast checker does the same** where it sees the same. -/
theorem both_corroptFastChecker (l : ℕ) :
    Both Acting.Alike (sol.corroptFastChecker topo gen time l)
      (sol.corroptFastChecker topo' gen time l) := by
  have hstart : Acting.Alike { topo := topo, gen := gen } { topo := topo', gen := gen } :=
    ⟨h, rfl, rfl⟩
  unfold corroptFastChecker
  rw [h.fastCheckViolation]
  refine both_bind_same fun violating => ?_
  cases violating with
  | none => exact hstart.both_disable time l
  | some affectedTor =>
    exact both_bind_any fun _ _ => both_some ⟨h, rfl, rfl⟩

/-- **The optimizer does the same** where it sees the same. -/
theorem both_corroptOptimizer (orders : SetOrders) :
    Both Acting.Alike (sol.corroptOptimizer orders topo gen time)
      (sol.corroptOptimizer orders topo' gen time) := by
  have hstart : Acting.Alike { topo := topo, gen := gen } { topo := topo', gen := gen } :=
    ⟨h, rfl, rfl⟩
  unfold corroptOptimizer
  rw [h.corruptingLinks, h.getTorsWithCapacityConstraintViolation]
  split
  · exact both_some hstart
  · refine both_bind_same fun violation => ?_
    refine (hstart.both_disableNotUpstream time orders.copy violation).bind fun b b' hb => ?_
    rw [hb.topo.corruptingLinks]
    split
    · exact both_some hb
    · exact hb.both_disableBestSubset time sol orders

end CorrOptSolution

end LinkGuardian.Simulator
