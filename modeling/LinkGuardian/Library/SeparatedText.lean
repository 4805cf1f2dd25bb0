import Mathlib.Data.List.Basic

/-!
# Text of separated fields

A file of lines that end with `term`, each of fields with `sep` between them.  Reading what was
written gives the fields back when no field contains one of the two.
-/

namespace SeparatedText

variable {α : Type*} [DecidableEq α] {sep term : α}

/-- A line of fields, with its end. -/
def line (sep term : α) (fields : List (List α)) : List α := [sep].intercalate fields ++ [term]

/-- The lines of a text; the last one need not be ended. -/
def lines (term : α) (text : List α) : List (List α) :=
  let pieces := text.splitOn term
  if pieces.getLast? = some [] then pieces.dropLast else pieces

def records (sep term : α) (text : List α) : List (List (List α)) :=
  (lines term text).map (List.splitOn sep)

/-- The fields of a line that can be told apart. -/
structure Plain (sep term : α) (fields : List (List α)) : Prop where
  nonempty : fields ≠ []
  sep : ∀ field ∈ fields, sep ∉ field
  term : ∀ field ∈ fields, term ∉ field

omit [DecidableEq α] in
/-- The characters of a line without its end. -/
lemma eq_or_mem_of_mem_intercalate {fields : List (List α)} {c : α}
    (h : c ∈ [sep].intercalate fields) : c = sep ∨ ∃ field ∈ fields, c ∈ field := by
  induction fields with
  | nil => simp at h
  | cons field rest ih =>
    cases rest with
    | nil => exact .inr ⟨field, List.mem_cons_self, by simpa using h⟩
    | cons next rest =>
      rw [List.intercalate_cons_cons] at h
      simp only [List.mem_append, List.mem_singleton, or_assoc] at h
      rcases h with h | rfl | h
      · exact .inr ⟨field, List.mem_cons_self, h⟩
      · exact .inl rfl
      · obtain rfl | ⟨f, hf, hc⟩ := ih h
        · exact .inl rfl
        · exact .inr ⟨f, List.mem_cons_of_mem field hf, hc⟩

omit [DecidableEq α] in
lemma Plain.term_notMem {fields : List (List α)} (h : Plain sep term fields) (hne : sep ≠ term) :
    term ∉ [sep].intercalate fields := by
  obtain ⟨-, -, h⟩ := h
  induction fields with
  | nil => simp
  | cons field rest ih =>
    have hrest := ih fun f hf => h f (List.mem_cons_of_mem field hf)
    cases rest with
    | nil => simpa using h field List.mem_cons_self
    | cons next rest =>
      rw [List.intercalate_cons_cons]
      simp only [List.mem_append, List.mem_singleton, not_or]
      exact ⟨⟨h field List.mem_cons_self, hne.symm⟩, hrest⟩

omit [DecidableEq α] in
/-- The lines of a text, with an empty one after the last. -/
lemma flatMap_line (rows : List (List (List α))) : rows.flatMap (line sep term) =
    [term].intercalate (rows.map [sep].intercalate ++ [[]]) := by
  induction rows with
  | nil => simp
  | cons row rows ih =>
    rw [List.flatMap_cons, ih, line]
    cases rows with
    | nil => simp
    | cons next rows => simp [List.intercalate_cons_cons]

/-- **Reading gives back what was written.**  The separators need no quoting then, which is all that
the two file formats here rely on. -/
theorem records_flatMap_line {rows : List (List (List α))} (hne : sep ≠ term)
    (h : ∀ fields ∈ rows, Plain sep term fields) :
    records sep term (rows.flatMap (line sep term)) = rows := by
  have hpieces : (rows.flatMap (line sep term)).splitOn term =
      rows.map [sep].intercalate ++ [[]] := by
    rw [flatMap_line, List.splitOn_intercalate]
    · intro piece hpiece
      rcases List.mem_append.mp hpiece with hpiece | hpiece
      · obtain ⟨fields, hfields, rfl⟩ := List.mem_map.mp hpiece
        exact (h fields hfields).term_notMem hne
      · rw [List.mem_singleton.mp hpiece]
        exact List.not_mem_nil
    · simp
  have hlines : lines term (rows.flatMap (line sep term)) = rows.map [sep].intercalate := by
    rw [lines, hpieces, if_pos (by simp), List.dropLast_concat]
  have hsplit : ∀ fields ∈ rows, ([sep].intercalate fields).splitOn sep = fields :=
    fun fields hfields =>
      List.splitOn_intercalate sep (h fields hfields).sep (h fields hfields).nonempty
  rw [records, hlines, List.map_map]
  exact (List.map_congr_left hsplit).trans (List.map_id _)

end SeparatedText
