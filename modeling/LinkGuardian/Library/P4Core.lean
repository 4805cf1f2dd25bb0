import LinkGuardian.Library.WireFormat
import Mathlib.Logic.Function.Basic

/-!
# P4 headers, registers and parser steps

The runtime objects that a P4 pipeline moves around: header instances with a validity bit,
register arrays indexed by a bit vector, and the `extract` / `lookahead` / `emit` operations
on a packet seen as a bit string.
-/

namespace P4

/-! ## Header instances -/

/-- A header instance: a validity bit and the field values.  As in hardware containers, the
fields of an invalid header keep what was last written to them. -/
structure Header (α : Type) where
  valid : Bool
  fields : α
deriving DecidableEq, Repr

namespace Header

variable {α : Type}

/-- The header before the parser has run. -/
def absent [Inhabited α] : Header α := ⟨false, default⟩

instance [Inhabited α] : Inhabited (Header α) := ⟨absent⟩

/-- A header as the parser leaves it after an extraction. -/
def of (a : α) : Header α := ⟨true, a⟩

def setValid (h : Header α) : Header α := { h with valid := true }

def setInvalid (h : Header α) : Header α := { h with valid := false }

/-- Overwrite fields without touching validity. -/
def modify (h : Header α) (f : α → α) : Header α := { h with fields := f h.fields }

@[simp] lemma absent_valid [Inhabited α] : (absent : Header α).valid = false := rfl
@[simp] lemma absent_fields [Inhabited α] : (absent : Header α).fields = default := rfl
@[simp] lemma of_valid (a : α) : (of a).valid = true := rfl
@[simp] lemma of_fields (a : α) : (of a).fields = a := rfl
@[simp] lemma setValid_valid (h : Header α) : h.setValid.valid = true := rfl
@[simp] lemma setValid_fields (h : Header α) : h.setValid.fields = h.fields := rfl
@[simp] lemma setInvalid_valid (h : Header α) : h.setInvalid.valid = false := rfl
@[simp] lemma setInvalid_fields (h : Header α) : h.setInvalid.fields = h.fields := rfl
@[simp] lemma modify_valid (h : Header α) (f : α → α) : (h.modify f).valid = h.valid := rfl
@[simp] lemma modify_fields (h : Header α) (f : α → α) :
    (h.modify f).fields = f h.fields := rfl

lemma eq_of_of_valid {h : Header α} (hv : h.valid = true) : h = of h.fields := by
  cases h; simp_all [of]

/-- `packet_out.emit`: the bits of a valid header, nothing for an invalid one. -/
def emit (F : WireFormat α) (h : Header α) : List Bool :=
  if h.valid then F.emit h.fields else []

@[simp] lemma emit_of (F : WireFormat α) (a : α) : (of a).emit F = F.emit a := rfl
@[simp] lemma emit_absent [Inhabited α] (F : WireFormat α) : (absent : Header α).emit F = [] :=
  rfl
@[simp] lemma emit_setInvalid (F : WireFormat α) (h : Header α) : h.setInvalid.emit F = [] := rfl

lemma emit_of_not_valid (F : WireFormat α) {h : Header α} (hv : h.valid = false) :
    h.emit F = [] := by simp [emit, hv]

end Header

/-! ## Register arrays -/

/-- `Register<T, I>`: one cell for every index. -/
abbrev Register (ι α : Type) := ι → α

/-- `reg.write(index, value)`. -/
def Register.write {ι α : Type} [DecidableEq ι] (r : Register ι α) (i : ι) (v : α) :
    Register ι α := Function.update r i v

@[simp] lemma Register.write_same {ι α : Type} [DecidableEq ι] (r : Register ι α) (i : ι)
    (v : α) : r.write i v i = v := by
  simp [write]

lemma Register.write_of_ne {ι α : Type} [DecidableEq ι] (r : Register ι α) {i j : ι} (v : α)
    (h : j ≠ i) : r.write i v j = r j := by
  simp [write, Function.update_of_ne h]

@[simp] lemma Register.write_self {ι α : Type} [DecidableEq ι] (r : Register ι α) (i : ι) :
    r.write i (r i) = r := Function.update_eq_self i r

/-- The unsigned `min` of the target. -/
def min {n : ℕ} (a b : BitVec n) : BitVec n := if a ≤ b then a else b

lemma min_eq_left_iff {n : ℕ} (a b : BitVec n) : P4.min a b = a ↔ a ≤ b := by
  unfold P4.min
  split
  · simp [*]
  · rename_i h
    exact ⟨fun hb => absurd (hb ▸ BitVec.le_refl a) h, fun hb => absurd hb h⟩

/-- Match-action tables with exact keys: the entry for a key, if one is installed. -/
abbrev Table (κ α : Type) := κ → Option α

end P4
