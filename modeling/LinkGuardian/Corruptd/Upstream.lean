import Mathlib.Data.Int.Notation
import Mathlib.Data.List.DropRight
import Mathlib.Data.Nat.Notation

/-!
# corruptd: the topology dictionary

`setup.py` stores the topology as a dictionary of strings, `"switch-port"` to
`"switch-port-group"`, and `get_upstream` of `corruptd.py` looks a port up in it.  `int` is
Python's conversion of a string, which takes the decimal digits of every script (those of Unicode
14, as Python 3.11 knows them).  JSON text is identified with the dictionary that it denotes.
-/

namespace LinkGuardian.Corruptd

/-- The topology, as `json_to_dict` returns it. -/
abbrev Dict := List (String × String)

/-- The zeros of all scripts; the nine other digits of a script come right after its zero. -/
def decimalZeros : List ℕ :=
  [0x30, 0x660, 0x6f0, 0x7c0, 0x966, 0x9e6, 0xa66, 0xae6, 0xb66, 0xbe6, 0xc66, 0xce6, 0xd66, 0xde6,
    0xe50, 0xed0, 0xf20, 0x1040, 0x1090, 0x17e0, 0x1810, 0x1946, 0x19d0, 0x1a80, 0x1a90, 0x1b50,
    0x1bb0, 0x1c40, 0x1c50, 0xa620, 0xa8d0, 0xa900, 0xa9d0, 0xa9f0, 0xaa50, 0xabf0, 0xff10, 0x104a0,
    0x10d30, 0x11066, 0x110f0, 0x11136, 0x111d0, 0x112f0, 0x11450, 0x114d0, 0x11650, 0x116c0,
    0x11730, 0x118e0, 0x11950, 0x11c50, 0x11d50, 0x11da0, 0x16a60, 0x16ac0, 0x16b50, 0x1d7ce,
    0x1d7d8, 0x1d7e2, 0x1d7ec, 0x1d7f6, 0x1e140, 0x1e2f0, 0x1e950, 0x1fbf0]

/-- The value of a decimal digit. -/
def decimal (c : Char) : Option ℕ :=
  (decimalZeros.find? fun z => z ≤ c.toNat ∧ c.toNat < z + 10).map (c.toNat - ·)

/-- The digits of a number, of which `seen` says whether the last character was one; single
underscores may separate them. -/
def digits (acc : ℕ) (seen : Bool) : List Char → Option ℕ
  | [] => if seen then some acc else none
  | c :: cs =>
    match decimal c with
    | some d => digits (10 * acc + d) true cs
    | none => if c = '_' ∧ seen then digits acc false cs else none

/-- The white space that may stand around a number.  The separators 0x1c to 0x1f are none here, for
all that `str.isspace` says of them. -/
def isspace (c : Char) : Bool :=
  c.toNat ∈ [0x20, 0x85, 0xa0, 0x1680, 0x2028, 0x2029, 0x202f, 0x205f, 0x3000] ∨
    (9 ≤ c.toNat ∧ c.toNat ≤ 13) ∨ (0x2000 ≤ c.toNat ∧ c.toNat ≤ 0x200a)

/-- `int(s)` -/
def int (s : List Char) : Option ℤ :=
  match (s.dropWhile isspace).rdropWhile isspace with
  | '-' :: cs => (digits 0 false cs).map fun n => -(n : ℤ)
  | '+' :: cs => (digits 0 false cs).map (↑)
  | cs => (digits 0 false cs).map (↑)

lemma toNat_of_isDigit {c : Char} (h : c.isDigit) : 48 ≤ c.toNat ∧ c.toNat ≤ 57 := by
  rw [Char.isDigit, Bool.and_eq_true, decide_eq_true_eq, decide_eq_true_eq] at h
  exact ⟨UInt32.le_iff_toNat_le.mp h.1, UInt32.le_iff_toNat_le.mp h.2⟩

lemma decimal_of_isDigit {c : Char} (h : c.isDigit) : decimal c = some (c.toNat - '0'.toNat) := by
  obtain ⟨hlow, hhigh⟩ := toNat_of_isDigit h
  have hzero : decimalZeros.find? (fun z => z ≤ c.toNat ∧ c.toNat < z + 10) = some 0x30 :=
    List.find?_cons_of_pos (decide_eq_true ⟨hlow, Nat.lt_succ_of_le hhigh⟩)
  rw [decimal, hzero]
  rfl

lemma digits_of_isDigit {cs : List Char} (h : ∀ c ∈ cs, c.isDigit) {acc : ℕ} {seen : Bool}
    (hseen : cs = [] → seen = true) : digits acc seen cs = some (Nat.ofDigitChars 10 cs acc) := by
  induction cs generalizing acc seen with
  | nil => rw [digits, if_pos (hseen rfl), Nat.ofDigitChars_nil]
  | cons c cs ih =>
    rw [digits, decimal_of_isDigit (h c List.mem_cons_self)]
    dsimp only
    rw [ih (fun c' hc' => h c' (List.mem_cons_of_mem c hc')) fun _ => rfl, Nat.ofDigitChars_cons]

lemma digits_toDigits (n : ℕ) : digits 0 false (Nat.toDigits 10 n) = some n := by
  rw [digits_of_isDigit (fun c hc => Nat.isDigit_of_mem_toDigits (by decide) (by decide) hc)
    fun h => absurd h Nat.toDigits_ne_nil, Nat.ofDigitChars_ten_toDigits]

lemma isspace_of_isDigit {c : Char} (h : c.isDigit) : isspace c = false := by
  have hrange := toNat_of_isDigit h
  simp only [isspace, List.mem_cons, List.not_mem_nil, or_false, decide_eq_false_iff_not]
  omega

/-- Text without white space is converted as it is. -/
lemma strip_eq {s : List Char} (h : ∀ c ∈ s, isspace c = false) :
    (s.dropWhile isspace).rdropWhile isspace = s := by
  have hleft : s.dropWhile isspace = s := by
    cases s with
    | nil => rfl
    | cons c cs => rw [List.dropWhile_cons, if_neg (by simp [h c List.mem_cons_self])]
  rw [hleft, List.rdropWhile_eq_self_iff]
  intro hne
  simp [h _ (List.getLast_mem hne)]

lemma isDigit_of_mem_repr {m : ℕ} : ∀ c ∈ m.repr.toList, c.isDigit := fun _ hc =>
  Nat.isDigit_of_mem_toDigits (by decide) (by decide) (Nat.toList_repr ▸ hc)

/-- The characters of a printed number. -/
lemma mem_repr {n : ℤ} {c : Char} (h : c ∈ n.repr.toList) : c = '-' ∨ c.isDigit := by
  rw [Int.repr_eq_if] at h
  split at h
  · exact .inr (isDigit_of_mem_repr c h)
  · rw [String.toList_append] at h
    rcases List.mem_append.mp h with hminus | h
    · exact .inl (by simpa using hminus)
    · exact .inr (isDigit_of_mem_repr c h)

lemma int_of_isDigit {s : List Char} (h : ∀ c ∈ s, c.isDigit) :
    int s = (digits 0 false s).map (↑) := by
  rw [int, strip_eq fun c hc => isspace_of_isDigit (h c hc)]
  split
  · exact absurd (h '-' List.mem_cons_self) (by decide)
  · exact absurd (h '+' List.mem_cons_self) (by decide)
  · rfl

/-- **A printed number is read back.**  This is what makes a topology that `setup.py` has stored
readable. -/
theorem int_repr (n : ℤ) : int n.repr.toList = some n := by
  rw [Int.repr_eq_if]
  split
  · next hnonneg =>
    rw [int_of_isDigit isDigit_of_mem_repr, Nat.toList_repr, digits_toDigits, Option.map_some,
      Int.toNat_of_nonneg hnonneg]
  · next hneg =>
    have hspace : ∀ c ∈ '-' :: (-n).toNat.repr.toList, isspace c = false := by
      intro c hc
      rcases List.mem_cons.mp hc with rfl | hc
      · decide
      · exact isspace_of_isDigit (isDigit_of_mem_repr c hc)
    rw [String.toList_append, show "-".toList = ['-'] by rfl, List.singleton_append, int,
      strip_eq hspace]
    simp only [Nat.toList_repr, digits_toDigits]
    show some (-((-n).toNat : ℤ)) = some n
    congr 1
    omega

/-- What a call of `get_upstream` comes to.  A port that is unknown and an entry that cannot be
parsed are different things: the second one raises. -/
inductive Answer
  /-- `-1, -1, -1` -/
  | unknown
  | upstream (sw dp mcast : ℤ)
  | raised
deriving DecidableEq, Repr

def lookupKey (sw dp : ℤ) : String := toString sw ++ "-" ++ toString dp

/-- The three numbers of an entry; further parts are ignored. -/
def parseUpstream (entry : String) : Option (ℤ × ℤ × ℤ) :=
  match entry.toList.splitOn '-' with
  | sw :: dp :: mcast :: _ =>
    (int sw).bind fun sw => (int dp).bind fun dp => (int mcast).map fun mcast => (sw, dp, mcast)
  | _ => none

/-- The end of `get_upstream`, which reads the cached topology. -/
def answerFrom (topo : Option Dict) (sw dp : ℤ) : Answer :=
  match topo with
  | none => .raised
  | some topo =>
    match topo.lookup (lookupKey sw dp) with
    | none => .unknown
    | some entry =>
      match parseUpstream entry with
      | none => .raised
      | some (upSw, upDp, upMcast) => .upstream upSw upDp upMcast

/-- Every entry has the documented form. -/
def WellFormed (topo : Dict) : Prop := ∀ e ∈ topo, (parseUpstream e.2).isSome

instance (topo : Dict) : Decidable (WellFormed topo) :=
  inferInstanceAs (Decidable (∀ e ∈ topo, (parseUpstream e.2).isSome))

lemma mem_of_lookup {topo : Dict} {key entry : String} (h : topo.lookup key = some entry) :
    (key, entry) ∈ topo := by
  induction topo with
  | nil => cases h
  | cons e topo ih =>
    rw [List.lookup_cons] at h
    split at h
    · next heq =>
      rw [beq_iff_eq] at heq
      rw [Option.some_inj] at h
      exact List.mem_cons.mpr (.inl (Prod.ext heq h.symm))
    · exact List.mem_cons_of_mem _ (ih h)

/-- A lookup in a topology of the documented form does not raise. -/
lemma answerFrom_ne_raised {topo : Dict} (h : WellFormed topo) (sw dp : ℤ) :
    answerFrom (some topo) sw dp ≠ .raised := by
  rw [answerFrom]
  split
  · exact Answer.noConfusion
  · next entry hlookup =>
    have hentry := h _ (mem_of_lookup hlookup)
    split
    · next hparse => rw [hparse] at hentry; exact absurd hentry (by decide)
    · exact Answer.noConfusion

-- Python takes the digits of any script, but no separator control before them
example : int "-\u0663\u0664\u00a0".toList = some (-34) ∧ int "1_0".toList = some 10 ∧
    int "\x1c5".toList = none := by decide +kernel

/-- The documented form has an entry for port 64 of switch 1. -/
example : answerFrom (some [("1-64", "2-65-3")]) 1 64 = .upstream 2 65 3 := by decide +kernel

end LinkGuardian.Corruptd
