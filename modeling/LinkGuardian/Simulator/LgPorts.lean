import LinkGuardian.Simulator.Wiring
import Mathlib.Data.Finset.Sigma

/-!
# Ports that run LinkGuardian

Each pipe of a switch counts its ports that run LinkGuardian, and a heap keeps a zero and all
the counts that are not zero.  Counting one port more or less at one pipe keeps the heap exact.
-/

namespace LinkGuardian.Simulator

open Fabric

namespace Fabric

variable {f : Fabric} {l sw pipe : ℕ}

/-- All pipes of all switches. -/
def pipes (f : Fabric) : Finset (Σ _ : ℕ, ℕ) :=
  (Finset.range f.globalSwitchId).sigma fun sw => Finset.range (f.nodes sw).numPipes

/-- The pipe that serves a link of the switch. -/
def pipeOf (f : Fabric) (sw l : ℕ) : ℕ :=
  (f.nodes sw).linkIdList.idxOf l % (f.nodes sw).numPipes

/-- The links of a pipe with LinkGuardian. -/
def lgLinks (f : Fabric) (enabled : ℕ → Bool) (sw pipe : ℕ) : Finset ℕ :=
  f.links.filter fun l => enabled l = true ∧ f.Ends l sw ∧ f.pipeOf sw l = pipe

section Wired

variable (hw : f.Wired) (hl : l ∈ f.links) (hends : f.Ends l sw)
include hw hl hends

lemma mem_linkIdList : l ∈ (f.nodes sw).linkIdList := by
  rw [hw.linkIdList sw (hw.lt_globalSwitchId l hl sw hends)]
  exact mem_linksAt.mpr ⟨hl, hends⟩

lemma getPipeId_eq : f.getPipeId sw l = some (f.pipeOf sw l) :=
  if_pos ⟨mem_linkIdList hw hl hends, hw.numPipes sw (hw.lt_globalSwitchId l hl sw hends)⟩

lemma pipeOf_mem_pipes : ⟨sw, f.pipeOf sw l⟩ ∈ f.pipes := by
  have hlt := hw.lt_globalSwitchId l hl sw hends
  refine Finset.mem_sigma.mpr ⟨Finset.mem_range.mpr hlt, Finset.mem_range.mpr ?_⟩
  exact Nat.mod_lt _ (Nat.pos_of_ne_zero (hw.numPipes sw hlt))

end Wired

/-- **A pipe has a port for each of its links with LinkGuardian.**  The ports of a switch go round
its pipes, and a builder gives each pipe as many as that takes. -/
theorem card_lgLinks_le (hw : f.Wired) (hports : (f.nodes sw).linkIdList.length ≤
      (f.nodes sw).numPipes * (f.nodes sw).portsPerPipe) (enabled : ℕ → Bool) :
    (f.lgLinks enabled sw pipe).card ≤ (f.nodes sw).portsPerPipe := by
  rw [← Finset.card_range (f.nodes sw).portsPerPipe]
  refine Finset.card_le_card_of_injOn
    (fun l => (f.nodes sw).linkIdList.idxOf l / (f.nodes sw).numPipes) ?_ ?_
  · intro l hl
    obtain ⟨hl, -, hends, -⟩ := Finset.mem_filter.mp hl
    have hidx := List.idxOf_lt_length_of_mem (mem_linkIdList hw hl hends)
    exact Finset.mem_coe.mpr
      (Finset.mem_range.mpr (Nat.div_lt_of_lt_mul (hidx.trans_le hports)))
  · intro l hl l' hl' hdiv
    obtain ⟨hl, -, hends, hpipe⟩ := Finset.mem_filter.mp hl
    obtain ⟨hl', -, hends', hpipe'⟩ := Finset.mem_filter.mp hl'
    -- equal remainders and equal quotients
    have hidx : (f.nodes sw).linkIdList.idxOf l = (f.nodes sw).linkIdList.idxOf l' := by
      have hmod := hpipe.trans hpipe'.symm
      rw [← Nat.div_add_mod ((f.nodes sw).linkIdList.idxOf l) (f.nodes sw).numPipes,
        ← Nat.div_add_mod ((f.nodes sw).linkIdList.idxOf l') (f.nodes sw).numPipes]
      exact congrArg₂ (fun q r => (f.nodes sw).numPipes * q + r) hdiv hmod
    exact (List.idxOf_inj (mem_linkIdList hw hl hends)).mp hidx

/-- One link more with LinkGuardian. -/
lemma card_lgLinks_insert {enabled enabled' : ℕ → Bool} (hl : l ∈ f.links)
    (hoff : enabled l = false) (hon : enabled' l = true)
    (hother : ∀ m ∈ f.links, m ≠ l → enabled' m = enabled m) (sw pipe : ℕ) :
    (f.lgLinks enabled' sw pipe).card = (f.lgLinks enabled sw pipe).card +
      if f.Ends l sw ∧ f.pipeOf sw l = pipe then 1 else 0 := by
  have hnot : l ∉ f.lgLinks enabled sw pipe := fun h => by
    rw [(Finset.mem_filter.mp h).2.1] at hoff
    cases hoff
  split
  · next hc =>
    rw [← Finset.card_insert_of_notMem hnot]
    congr 1
    ext m
    rw [Finset.mem_insert, lgLinks, lgLinks, Finset.mem_filter, Finset.mem_filter]
    by_cases hm : m = l
    · subst hm
      simp only [hl, hon, hc, and_self, true_or]
    · simp only [hm, false_or]
      exact and_congr_right fun hmem => by rw [hother m hmem hm]
  · next hc =>
    rw [Nat.add_zero]
    congr 1
    ext m
    rw [lgLinks, lgLinks, Finset.mem_filter, Finset.mem_filter]
    by_cases hm : m = l
    · subst hm
      simp only [hc, and_false]
    · exact and_congr_right fun hmem => by rw [hother m hmem hm]

end Fabric

/-! ## The heap of the counts -/

/-- The counts that are not zero. -/
def nonzeroPorts (f : Fabric) (ports : ℕ → ℕ → ℤ) : Multiset ℤ :=
  (f.pipes.val.map fun x => ports x.1 x.2).filter (· ≠ 0)

/-- The heap keeps a zero and the counts that are not zero. -/
def PortsHeap (f : Fabric) (ports : ℕ → ℕ → ℤ) (heap : Array ℤ) : Prop :=
  Heapq.items heap = 0 ::ₘ nonzeroPorts f ports

/-- The counts with another one at one pipe. -/
def setPort (ports : ℕ → ℕ → ℤ) (sw pipe : ℕ) (value : ℤ) : ℕ → ℕ → ℤ :=
  Function.update ports sw (Function.update (ports sw) pipe value)

lemma setPort_self (ports : ℕ → ℕ → ℤ) (sw pipe : ℕ) (value : ℤ) :
    setPort ports sw pipe value sw pipe = value := by
  rw [setPort, Function.update_self, Function.update_self]

lemma setPort_of_ne {ports : ℕ → ℕ → ℤ} {sw pipe sw' pipe' : ℕ} {value : ℤ}
    (h : ¬(sw' = sw ∧ pipe' = pipe)) : setPort ports sw pipe value sw' pipe' = ports sw' pipe' := by
  unfold setPort
  by_cases hsw : sw' = sw
  · subst hsw
    rw [Function.update_self, Function.update_of_ne fun hp => h ⟨rfl, hp⟩]
  · rw [Function.update_of_ne hsw]

section Heap

variable {f : Fabric} {ports : ℕ → ℕ → ℤ} {sw pipe : ℕ}

/-- The counts of the other pipes. -/
def otherPorts (f : Fabric) (ports : ℕ → ℕ → ℤ) (sw pipe : ℕ) : Multiset ℤ :=
  ((f.pipes.erase ⟨sw, pipe⟩).val.map fun x => ports x.1 x.2).filter (· ≠ 0)

lemma nonzeroPorts_eq (hx : ⟨sw, pipe⟩ ∈ f.pipes) : nonzeroPorts f ports =
    (if ports sw pipe ≠ 0 then {ports sw pipe} else 0) + otherPorts f ports sw pipe := by
  have hval : f.pipes.val = ⟨sw, pipe⟩ ::ₘ (f.pipes.erase ⟨sw, pipe⟩).val := by
    rw [Finset.erase_val]
    exact (Multiset.cons_erase hx).symm
  rw [nonzeroPorts, hval, Multiset.map_cons, Multiset.filter_cons]
  rfl

lemma otherPorts_setPort (value : ℤ) :
    otherPorts f (setPort ports sw pipe value) sw pipe = otherPorts f ports sw pipe := by
  refine congrArg (Multiset.filter (· ≠ 0)) (Multiset.map_congr rfl fun x hx => ?_)
  refine setPort_of_ne fun hc => ?_
  have hne := (Finset.mem_erase.mp hx).1
  exact hne (by rw [← hc.1, ← hc.2])

lemma nonzeroPorts_setPort (hx : ⟨sw, pipe⟩ ∈ f.pipes) {value : ℤ} :
    nonzeroPorts f (setPort ports sw pipe value) =
      (if value ≠ 0 then {value} else 0) + otherPorts f ports sw pipe := by
  rw [nonzeroPorts_eq hx, setPort_self, otherPorts_setPort]

end Heap

/-- The counts of the pipes agree with the links that run LinkGuardian. -/
def PortsExact (f : Fabric) (enabled : ℕ → Bool) (ports : ℕ → ℕ → ℤ) : Prop :=
  ∀ sw pipe, ports sw pipe = (f.lgLinks enabled sw pipe).card

lemma PortsExact.congr {f : Fabric} {enabled enabled' : ℕ → Bool} {ports : ℕ → ℕ → ℤ}
    (h : PortsExact f enabled ports) (heq : ∀ m ∈ f.links, enabled' m = enabled m) :
    PortsExact f enabled' ports := by
  intro sw pipe
  rw [h sw pipe, Nat.cast_inj]
  refine congrArg Finset.card (Finset.filter_congr fun m hm => ?_)
  rw [heq m hm]

/-- A link among the LinkGuardian links of its pipe. -/
lemma PortsExact.pos {f : Fabric} {l sw : ℕ} {enabled : ℕ → Bool} {ports : ℕ → ℕ → ℤ}
    (h : PortsExact f enabled ports) (hl : l ∈ f.links) (hends : f.Ends l sw)
    (hon : enabled l = true) : 0 < ports sw (f.pipeOf sw l) := by
  rw [h]
  exact Int.natCast_pos.mpr
    (Finset.card_pos.mpr ⟨l, Finset.mem_filter.mpr ⟨hl, hon, hends, rfl⟩⟩)

namespace Topology

variable (topo : Topology) {sw l pipe : ℕ}

/-- Removing a count that is there. -/
lemma removeTopLgPortsPerPipe_eq {value : ℤ} {rest : Multiset ℤ}
    (h : Heapq.items topo.topLgPortsPerPipeHeap = value ::ₘ rest) :
    ∃ heap, topo.removeTopLgPortsPerPipe value = some { topo with topLgPortsPerPipeHeap := heap } ∧
      Heapq.items heap = rest := by
  obtain ⟨heap, hheap⟩ := Heapq.remove_isSome (a := value)
    (by rw [h]; exact Multiset.mem_cons_self _ _)
  refine ⟨Heapq.heapify (· < ·) heap, ?_, ?_⟩
  · rw [removeTopLgPortsPerPipe, hheap]
    rfl
  · rw [Heapq.items_heapify, (Heapq.items_remove hheap).2, h, Multiset.erase_cons_head]

/-- One port more at a pipe.  Its old count leaves the heap, unless it was zero and had none
there. -/
lemma incrLgPortsPerPipe_eq (hpipe : topo.fabric.getPipeId sw l = some pipe)
    (hx : ⟨sw, pipe⟩ ∈ topo.fabric.pipes) (hnonneg : 0 ≤ topo.lgPortsPerPipe sw pipe)
    (hheap : PortsHeap topo.fabric topo.lgPortsPerPipe topo.topLgPortsPerPipeHeap) :
    ∃ heap, topo.incrLgPortsPerPipe sw l = some { topo with
      lgPortsPerPipe := setPort topo.lgPortsPerPipe sw pipe (topo.lgPortsPerPipe sw pipe + 1)
      topLgPortsPerPipeHeap := heap } ∧
      PortsHeap topo.fabric
        (setPort topo.lgPortsPerPipe sw pipe (topo.lgPortsPerPipe sw pipe + 1)) heap := by
  rw [PortsHeap, nonzeroPorts_eq hx] at hheap
  have hne : topo.lgPortsPerPipe sw pipe + 1 ≠ 0 := by omega
  suffices hremove : ∃ heap, (topo.setLgPorts sw pipe
      (topo.lgPortsPerPipe sw pipe + 1)).removeNonzeroLgPortsPerPipe (topo.lgPortsPerPipe sw pipe) =
        some { topo.setLgPorts sw pipe (topo.lgPortsPerPipe sw pipe + 1) with
          topLgPortsPerPipeHeap := heap } ∧
        Heapq.items heap = 0 ::ₘ otherPorts topo.fabric topo.lgPortsPerPipe sw pipe by
    obtain ⟨heap, hremove, hitems⟩ := hremove
    refine ⟨Heapq.heappush (· < ·) heap (topo.lgPortsPerPipe sw pipe + 1), ?_, ?_⟩
    · rw [incrLgPortsPerPipe, hpipe, Option.bind_eq_bind, Option.bind_some]
      show Option.bind (removeNonzeroLgPortsPerPipe _ _) _ = _
      rw [hremove]
      rfl
    · rw [PortsHeap, Heapq.items_heappush, hitems, nonzeroPorts_setPort hx, if_pos hne,
        Multiset.cons_swap, Multiset.singleton_add]
  unfold removeNonzeroLgPortsPerPipe
  by_cases h0 : topo.lgPortsPerPipe sw pipe = 0
  · rw [if_neg (not_not.mpr h0)]
    rw [if_neg (not_not.mpr h0), Multiset.zero_add] at hheap
    exact ⟨_, rfl, hheap⟩
  · rw [if_pos h0]
    rw [if_pos h0, Multiset.singleton_add, Multiset.cons_swap] at hheap
    exact removeTopLgPortsPerPipe_eq _ hheap

/-- One port less at a pipe that counts one. -/
lemma decrLgPortsPerPipe_eq (hpipe : topo.fabric.getPipeId sw l = some pipe)
    (hx : ⟨sw, pipe⟩ ∈ topo.fabric.pipes) (hpos : 0 < topo.lgPortsPerPipe sw pipe)
    (hheap : PortsHeap topo.fabric topo.lgPortsPerPipe topo.topLgPortsPerPipeHeap) :
    ∃ heap, topo.decrLgPortsPerPipe sw l = some { topo with
      lgPortsPerPipe := setPort topo.lgPortsPerPipe sw pipe (topo.lgPortsPerPipe sw pipe - 1)
      topLgPortsPerPipeHeap := heap } ∧
      PortsHeap topo.fabric
        (setPort topo.lgPortsPerPipe sw pipe (topo.lgPortsPerPipe sw pipe - 1)) heap := by
  rw [PortsHeap, nonzeroPorts_eq hx, if_pos hpos.ne', Multiset.singleton_add,
    Multiset.cons_swap] at hheap
  have hguard : 0 ≤ topo.lgPortsPerPipe sw pipe - 1 := by omega
  obtain ⟨heap, hremove, hitems⟩ := removeTopLgPortsPerPipe_eq
    (topo.setLgPorts sw pipe (topo.lgPortsPerPipe sw pipe - 1)) hheap
  have hdecr : topo.decrLgPortsPerPipe sw l =
      some (if topo.lgPortsPerPipe sw pipe - 1 ≠ 0 then
        recordTopLgPortsPerPipe
          { topo.setLgPorts sw pipe (topo.lgPortsPerPipe sw pipe - 1) with
            topLgPortsPerPipeHeap := heap } (topo.lgPortsPerPipe sw pipe - 1)
        else { topo.setLgPorts sw pipe (topo.lgPortsPerPipe sw pipe - 1) with
          topLgPortsPerPipeHeap := heap }) := by
    rw [decrLgPortsPerPipe, hpipe, Option.bind_eq_bind, Option.bind_some]
    simp only [guard, hguard, if_true]
    show Option.bind (removeTopLgPortsPerPipe _ _) _ = _
    rw [hremove]
    rfl
  -- the last port of a pipe leaves no count behind
  by_cases h0 : topo.lgPortsPerPipe sw pipe - 1 = 0
  · rw [if_neg (not_not.mpr h0)] at hdecr
    refine ⟨heap, hdecr, ?_⟩
    rw [PortsHeap, hitems, nonzeroPorts_setPort hx, if_neg (not_not.mpr h0), Multiset.zero_add]
  · rw [if_pos h0] at hdecr
    refine ⟨_, hdecr, ?_⟩
    rw [PortsHeap, Heapq.items_heappush, hitems, nonzeroPorts_setPort hx, if_pos h0,
      Multiset.cons_swap, Multiset.singleton_add]

/-! ## Both switches of a link -/

/-- The counts after a change at the pipes that serve a link. -/
lemma setPort_both {f : Fabric} {ports : ℕ → ℕ → ℤ} (d : ℤ) (sw pipe : ℕ) :
    setPort (setPort ports (f.outer l) (f.pipeOf (f.outer l) l)
        (ports (f.outer l) (f.pipeOf (f.outer l) l) + d))
      (f.agg l) (f.pipeOf (f.agg l) l) (ports (f.agg l) (f.pipeOf (f.agg l) l) + d) sw pipe =
      ports sw pipe + if f.Ends l sw ∧ f.pipeOf sw l = pipe then d else 0 := by
  by_cases ha : sw = f.agg l ∧ pipe = f.pipeOf (f.agg l) l
  · obtain ⟨rfl, rfl⟩ := ha
    rw [setPort_self, if_pos ⟨.inr rfl, rfl⟩]
  · rw [setPort_of_ne ha]
    by_cases ho : sw = f.outer l ∧ pipe = f.pipeOf (f.outer l) l
    · obtain ⟨rfl, rfl⟩ := ho
      rw [setPort_self, if_pos ⟨.inl rfl, rfl⟩]
    · rw [setPort_of_ne ho, if_neg, add_zero]
      rintro ⟨rfl | rfl, rfl⟩
      · exact ho ⟨rfl, rfl⟩
      · exact ha ⟨rfl, rfl⟩

section Link

variable (hw : topo.fabric.Wired) (hl : l ∈ topo.fabric.links)
  (hheap : PortsHeap topo.fabric topo.lgPortsPerPipe topo.topLgPortsPerPipeHeap)
include hw hl hheap

/-- LinkGuardian starts on both ports of a link. -/
lemma incrBoth_eq {enabled enabled' : ℕ → Bool}
    (hports : PortsExact topo.fabric enabled topo.lgPortsPerPipe) (hoff : enabled l = false)
    (hon : enabled' l = true)
    (hother : ∀ m ∈ topo.fabric.links, m ≠ l → enabled' m = enabled m) : ∃ ports heap,
    ((topo.incrLgPortsPerPipe (topo.fabric.outer l) l).bind fun topo =>
      topo.incrLgPortsPerPipe (topo.fabric.agg l) l) = some { topo with
        lgPortsPerPipe := ports
        topLgPortsPerPipeHeap := heap } ∧
      PortsExact topo.fabric enabled' ports ∧ PortsHeap topo.fabric ports heap := by
  have hne := hw.outer_ne_agg hl hl
  have hnonneg : ∀ sw pipe, 0 ≤ topo.lgPortsPerPipe sw pipe := fun sw pipe => by
    rw [hports]
    exact Int.natCast_nonneg _
  have hagg : setPort topo.lgPortsPerPipe (topo.fabric.outer l)
      (topo.fabric.pipeOf (topo.fabric.outer l) l) (topo.lgPortsPerPipe (topo.fabric.outer l)
        (topo.fabric.pipeOf (topo.fabric.outer l) l) + 1) (topo.fabric.agg l)
          (topo.fabric.pipeOf (topo.fabric.agg l) l) =
      topo.lgPortsPerPipe (topo.fabric.agg l) (topo.fabric.pipeOf (topo.fabric.agg l) l) :=
    setPort_of_ne fun hc => hne hc.1.symm
  obtain ⟨heap₁, h₁, hheap₁⟩ := incrLgPortsPerPipe_eq topo (getPipeId_eq hw hl (.inl rfl))
    (pipeOf_mem_pipes hw hl (.inl rfl)) (hnonneg _ _) hheap
  obtain ⟨heap₂, h₂, hheap₂⟩ := incrLgPortsPerPipe_eq { topo with
      lgPortsPerPipe := setPort topo.lgPortsPerPipe (topo.fabric.outer l)
        (topo.fabric.pipeOf (topo.fabric.outer l) l) (topo.lgPortsPerPipe (topo.fabric.outer l)
          (topo.fabric.pipeOf (topo.fabric.outer l) l) + 1)
      topLgPortsPerPipeHeap := heap₁ }
    (getPipeId_eq hw hl (.inr rfl)) (pipeOf_mem_pipes hw hl (.inr rfl))
    ((hnonneg _ _).trans_eq hagg.symm) hheap₁
  refine ⟨_, heap₂, ?_, fun sw pipe => ?_, hheap₂⟩
  · rw [h₁, Option.bind_some]
    exact h₂
  · show setPort (setPort topo.lgPortsPerPipe _ _ _) _ _ (setPort topo.lgPortsPerPipe _ _ _ _ _ + 1)
      sw pipe = _
    rw [hagg, setPort_both, hports, card_lgLinks_insert hl hoff hon hother]
    push_cast
    rfl

/-- LinkGuardian stops on both ports of a link. -/
lemma decrBoth_eq {enabled enabled' : ℕ → Bool}
    (hports : PortsExact topo.fabric enabled topo.lgPortsPerPipe) (hon : enabled l = true)
    (hoff : enabled' l = false)
    (hother : ∀ m ∈ topo.fabric.links, m ≠ l → enabled' m = enabled m) : ∃ ports heap,
    ((topo.decrLgPortsPerPipe (topo.fabric.outer l) l).bind fun topo =>
      topo.decrLgPortsPerPipe (topo.fabric.agg l) l) = some { topo with
        lgPortsPerPipe := ports
        topLgPortsPerPipeHeap := heap } ∧
      PortsExact topo.fabric enabled' ports ∧ PortsHeap topo.fabric ports heap := by
  have hne := hw.outer_ne_agg hl hl
  have hagg : setPort topo.lgPortsPerPipe (topo.fabric.outer l)
      (topo.fabric.pipeOf (topo.fabric.outer l) l) (topo.lgPortsPerPipe (topo.fabric.outer l)
        (topo.fabric.pipeOf (topo.fabric.outer l) l) - 1) (topo.fabric.agg l)
          (topo.fabric.pipeOf (topo.fabric.agg l) l) =
      topo.lgPortsPerPipe (topo.fabric.agg l) (topo.fabric.pipeOf (topo.fabric.agg l) l) :=
    setPort_of_ne fun hc => hne hc.1.symm
  obtain ⟨heap₁, h₁, hheap₁⟩ := decrLgPortsPerPipe_eq topo (getPipeId_eq hw hl (.inl rfl))
    (pipeOf_mem_pipes hw hl (.inl rfl)) (hports.pos hl (.inl rfl) hon) hheap
  obtain ⟨heap₂, h₂, hheap₂⟩ := decrLgPortsPerPipe_eq { topo with
      lgPortsPerPipe := setPort topo.lgPortsPerPipe (topo.fabric.outer l)
        (topo.fabric.pipeOf (topo.fabric.outer l) l) (topo.lgPortsPerPipe (topo.fabric.outer l)
          (topo.fabric.pipeOf (topo.fabric.outer l) l) - 1)
      topLgPortsPerPipeHeap := heap₁ }
    (getPipeId_eq hw hl (.inr rfl)) (pipeOf_mem_pipes hw hl (.inr rfl))
    ((hports.pos hl (.inr rfl) hon).trans_eq hagg.symm) hheap₁
  refine ⟨_, heap₂, ?_, fun sw pipe => ?_, hheap₂⟩
  · rw [h₁, Option.bind_some]
    exact h₂
  · show setPort (setPort topo.lgPortsPerPipe _ _ _) _ _ (setPort topo.lgPortsPerPipe _ _ _ _ _ - 1)
      sw pipe = _
    rw [hagg, sub_eq_add_neg, sub_eq_add_neg, setPort_both, hports,
      card_lgLinks_insert hl hoff hon fun m hm hne => (hother m hm hne).symm]
    push_cast
    split <;> omega

end Link

end Topology

end LinkGuardian.Simulator
