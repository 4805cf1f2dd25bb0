import Mathlib.Data.BitVec
import Mathlib.Logic.Equiv.Defs
import Mathlib.Tactic.Common

/-!
# Bit-level header formats

A `Format α` writes values of `α` to a bit string, most significant bit first, and reads them
back from the front of one.  The two laws travel with it as fields: what was written is read
back with the same rest, and a string that was read is the written form of what was read.

`bits n` is the fixed-width field; `pair` concatenates and `iso` renames, so that the format of
a header is its field list and needs no proof of its own.
-/

/-- A self-delimiting binary format, with its round-trip laws.  By the
second law, the string that a value was read from is the one that writing it gives. -/
structure WireFormat (α : Type) where
  emit : α → List Bool
  extract : List Bool → Option (α × List Bool)
  extract_emit : ∀ a rest, extract (emit a ++ rest) = some (a, rest)
  emit_of_extract : ∀ bs a rest, extract bs = some (a, rest) → emit a ++ rest = bs

namespace WireFormat

variable {α β : Type}

/-! ## Fixed-width fields -/

/-- The bits of a vector, most significant first. -/
def emitBits : (n : ℕ) → BitVec n → List Bool
  | 0, _ => []
  | n + 1, v => v.msb :: emitBits n (v.setWidth n)

/-- Take a vector of `n` bits off the front of a bit string. -/
def extractBits : (n : ℕ) → List Bool → Option (BitVec n × List Bool)
  | 0, bs => some (0#0, bs)
  | _ + 1, [] => none
  | n + 1, b :: bs => (extractBits n bs).map fun p => (BitVec.cons b p.1, p.2)

lemma extractBits_emitBits (n : ℕ) (v : BitVec n) (rest : List Bool) :
    extractBits n (emitBits n v ++ rest) = some (v, rest) := by
  induction n with
  | zero => simp [extractBits, emitBits, BitVec.eq_nil v]
  | succ n ih =>
    simp only [emitBits, List.cons_append, extractBits, ih, Option.map_some,
      BitVec.cons_msb_setWidth]

lemma emitBits_of_extractBits (n : ℕ) (bs : List Bool) (v : BitVec n) (rest : List Bool)
    (h : extractBits n bs = some (v, rest)) : emitBits n v ++ rest = bs := by
  induction n generalizing bs with
  | zero =>
    simp only [extractBits, Option.some.injEq, Prod.mk.injEq] at h
    simp [emitBits, h.2]
  | succ n ih =>
    cases bs with
    | nil => simp [extractBits] at h
    | cons b bs =>
      simp only [extractBits, Option.map_eq_some_iff] at h
      obtain ⟨⟨u, r⟩, hu, hv⟩ := h
      obtain ⟨rfl, rfl⟩ := Prod.mk.inj hv
      simp [emitBits, ih bs u hu]

lemma length_emitBits (n : ℕ) (v : BitVec n) : (emitBits n v).length = n := by
  induction n with
  | zero => rfl
  | succ n ih => simp [emitBits, ih]

/-- A string of at least `n` bits starts with an `n`-bit field. -/
lemma exists_extractBits {n : ℕ} {bs : List Bool} (h : n ≤ bs.length) :
    ∃ v rest, extractBits n bs = some (v, rest) := by
  induction n generalizing bs with
  | zero => exact ⟨0#0, bs, rfl⟩
  | succ n ih =>
    cases bs with
    | nil => simp at h
    | cons b bs =>
      obtain ⟨v, rest, hv⟩ := ih (by simpa using h)
      exact ⟨BitVec.cons b v, rest, by simp [extractBits, hv]⟩

/-- The `n`-bit unsigned field. -/
def bits (n : ℕ) : WireFormat (BitVec n) where
  emit := emitBits n
  extract := extractBits n
  extract_emit := extractBits_emitBits n
  emit_of_extract := emitBits_of_extractBits n

/-! ## Concatenation and renaming -/

/-- First one format, then another. -/
def pair (F : WireFormat α) (G : WireFormat β) : WireFormat (α × β) where
  emit p := F.emit p.1 ++ G.emit p.2
  extract bs := (F.extract bs).bind fun p =>
    (G.extract p.2).map fun q => ((p.1, q.1), q.2)
  extract_emit := by
    rintro ⟨a, b⟩ rest
    simp only [List.append_assoc, F.extract_emit, G.extract_emit, Option.bind_some,
      Option.map_some]
  emit_of_extract := by
    rintro bs ⟨a, b⟩ rest h
    simp only [Option.bind_eq_some_iff, Option.map_eq_some_iff] at h
    obtain ⟨⟨a', r⟩, hF, ⟨b', r'⟩, hG, hq⟩ := h
    simp only [Prod.mk.injEq] at hq
    obtain ⟨⟨rfl, rfl⟩, rfl⟩ := hq
    rw [List.append_assoc, G.emit_of_extract _ _ _ hG, F.emit_of_extract _ _ _ hF]

/-- The same bits under another type. -/
def iso (F : WireFormat α) (e : α ≃ β) : WireFormat β where
  emit b := F.emit (e.symm b)
  extract bs := (F.extract bs).map fun p => (e p.1, p.2)
  extract_emit b rest := by simp [F.extract_emit]
  emit_of_extract := by
    intro bs b rest h
    simp only [Option.map_eq_some_iff] at h
    obtain ⟨⟨a, r⟩, hF, hp⟩ := h
    obtain ⟨rfl, rfl⟩ := Prod.mk.inj hp
    rw [e.symm_apply_apply, F.emit_of_extract _ _ _ hF]

/-! ## Fixed lengths -/

/-- Every value takes `n` bits, and `n` bits always hold a value. -/
structure HasWidth (F : WireFormat α) (n : ℕ) : Prop where
  length_emit : ∀ a, (F.emit a).length = n
  exists_extract : ∀ bs : List Bool, n ≤ bs.length → ∃ a rest, F.extract bs = some (a, rest)

lemma hasWidth_bits (n : ℕ) : (bits n).HasWidth n where
  length_emit := length_emitBits n
  exists_extract _ h := exists_extractBits h

lemma HasWidth.pair {F : WireFormat α} {G : WireFormat β} {m n : ℕ} (hF : F.HasWidth m)
    (hG : G.HasWidth n) : (F.pair G).HasWidth (m + n) where
  length_emit p := by simp [WireFormat.pair, hF.length_emit, hG.length_emit]
  exists_extract bs h := by
    obtain ⟨a, r, ha⟩ := hF.exists_extract bs (by omega)
    have hlen := congrArg List.length (F.emit_of_extract _ _ _ ha)
    rw [List.length_append, hF.length_emit] at hlen
    obtain ⟨b, r', hb⟩ := hG.exists_extract r (by omega)
    exact ⟨(a, b), r', by simp [WireFormat.pair, ha, hb]⟩

lemma HasWidth.iso {F : WireFormat α} {n : ℕ} (hF : F.HasWidth n) (e : α ≃ β) :
    (F.iso e).HasWidth n where
  length_emit b := hF.length_emit _
  exists_extract bs h := by
    obtain ⟨a, r, ha⟩ := hF.exists_extract bs h
    exact ⟨e a, r, by simp [WireFormat.iso, ha]⟩

/-- Long enough strings split into a header and the rest. -/
lemma HasWidth.exists_eq_append {F : WireFormat α} {n : ℕ} (hF : F.HasWidth n) {bs : List Bool}
    (h : n ≤ bs.length) : ∃ a rest, bs = F.emit a ++ rest := by
  obtain ⟨a, rest, ha⟩ := hF.exists_extract bs h
  exact ⟨a, rest, (F.emit_of_extract _ _ _ ha).symm⟩

/-- Written values are distinct prefixes: equal strings have equal heads and equal rests. -/
lemma emit_append_inj (F : WireFormat α) {a b : α} {r s : List Bool}
    (h : F.emit a ++ r = F.emit b ++ s) : a = b ∧ r = s := by
  have h' := congrArg F.extract h
  rw [F.extract_emit, F.extract_emit] at h'
  simpa using h'

/-! ## Dispatch on tags -/

/-- A parser recovers what was written for a value that bears its tag, with the payload behind
it, and no two such values are written alike. -/
structure Recovers {σ ρ : Type} (Tagged : σ → Prop) (emit : σ → List Bool → List Bool)
    (parse : List Bool → Option ρ) (parsed : σ → List Bool → ρ) : Prop where
  parse_emit : ∀ s, Tagged s → ∀ payload, parse (emit s payload) = some (parsed s payload)
  unconfused : ∀ s s', Tagged s → Tagged s' → ∀ payload payload',
    emit s payload = emit s' payload' → s = s' ∧ payload = payload'

/-- Values that look different once parsed were written differently. -/
lemma Recovers.of_injective {σ ρ : Type} {Tagged : σ → Prop} {emit : σ → List Bool → List Bool}
    {parse : List Bool → Option ρ} {parsed : σ → List Bool → ρ}
    (hparse : ∀ s, Tagged s → ∀ payload, parse (emit s payload) = some (parsed s payload))
    (hinj : ∀ s s' payload payload', parsed s payload = parsed s' payload' →
      s = s' ∧ payload = payload') : Recovers Tagged emit parse parsed where
  parse_emit := hparse
  unconfused := by
    intro s s' hs hs' payload payload' h
    have heq := hparse s hs payload
    rw [h, hparse s' hs' payload', Option.some_inj] at heq
    exact hinj s s' payload payload' heq.symm

end WireFormat
