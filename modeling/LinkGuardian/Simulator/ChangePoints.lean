import LinkGuardian.Corruptd.Upstream
import LinkGuardian.Library.SeparatedText
import LinkGuardian.Simulator.DataFiles

/-!
# The text of a data file

The `DataDumper` prints a row as a line of eleven columns with tabs between them, and the data
analysis splits the lines, compares the printed columns after the time with those of the line
before, and converts the columns of the lines that it keeps.  What floats print as is a parameter;
of it only `float("{}".format(x)) == x` is used.
-/

namespace LinkGuardian.Simulator

open SeparatedText

/-- Python's floats, as they are printed and read. -/
class PyFloat (F : Type) where
  format : F → List Char
  float : List Char → Option F
  float_format : ∀ x, float (format x) = some x
  plain : ∀ x, ∀ c ∈ format x, c ∉ ['\t', '\n', '\r', '"']

/-- The columns of a row after its time. -/
structure Columns (F : Type) where
  totalPenalty : F
  totalEffectivePenalty : F
  avgPerTorPaths : F
  minPerTorPaths : ℤ
  avgPerPodCapacity : F
  minPerPodCapacity : F
  maxLinkLossRate : F
  currDisabledLinks : ℤ
  currCorruptingLinks : ℤ
  maxLgPortsPerPipe : ℤ
deriving DecidableEq

variable {F : Type} [PyFloat F]

/-! ## Writing -/

def Columns.format (m : Columns F) : List (List Char) :=
  [PyFloat.format m.totalPenalty, PyFloat.format m.totalEffectivePenalty,
    PyFloat.format m.avgPerTorPaths, m.minPerTorPaths.repr.toList,
    PyFloat.format m.avgPerPodCapacity, PyFloat.format m.minPerPodCapacity,
    PyFloat.format m.maxLinkLossRate, m.currDisabledLinks.repr.toList,
    m.currCorruptingLinks.repr.toList, m.maxLgPortsPerPipe.repr.toList]

/-- The columns of a line. -/
def formatRow (row : ℤ × Columns F) : List (List Char) := row.1.repr.toList :: row.2.format

def DataDumper.header : List (List Char) :=
  ["time", "total_penalty", "total_effective_penalty", "avg_per_tor_paths", "min_per_tor_paths",
    "avg_per_pod_capacity", "min_per_pod_capacity", "max_link_loss_rate", "curr_disabled_links",
    "curr_corrupting_links", "max_lg_ports_per_pipe"].map String.toList

/-- The file: the line that `init` writes, and one for each `dump_row`. -/
def DataDumper.text (d : DataDumper (Columns F)) : List Char :=
  (header :: d.rows.map formatRow).flatMap (line '\t' '\n')

/-- The calls of `dump` in order, and `dump_last_row`. -/
def DataDumper.dumpAll {M : Type} (rows : List (ℤ × M)) : Option (DataDumper M) := do
  let d ← rows.foldlM (fun (d : DataDumper M) row => d.dump row.1 row.2) {}
  d.dumpLastRow

/-! ## Reading -/

namespace DataFile

/-- `csv.reader` with tabs as delimiters, on text without quotes -/
def csvReader (text : List Char) : List (List (List Char)) := records '\t' '\n' text

def getTypedRow (row : List (List Char)) : Option (ℤ × Columns F) :=
  match row with
  | time :: totalPenalty :: totalEffectivePenalty :: avgPerTorPaths :: minPerTorPaths ::
      avgPerPodCapacity :: minPerPodCapacity :: maxLinkLossRate :: currDisabledLinks ::
      currCorruptingLinks :: maxLgPortsPerPipe :: _ => do
    let time ← Corruptd.int time
    let totalPenalty ← PyFloat.float totalPenalty
    let totalEffectivePenalty ← PyFloat.float totalEffectivePenalty
    let avgPerTorPaths ← PyFloat.float avgPerTorPaths
    let minPerTorPaths ← Corruptd.int minPerTorPaths
    let avgPerPodCapacity ← PyFloat.float avgPerPodCapacity
    let minPerPodCapacity ← PyFloat.float minPerPodCapacity
    let maxLinkLossRate ← PyFloat.float maxLinkLossRate
    let currDisabledLinks ← Corruptd.int currDisabledLinks
    let currCorruptingLinks ← Corruptd.int currCorruptingLinks
    let maxLgPortsPerPipe ← Corruptd.int maxLgPortsPerPipe
    return (time, ⟨totalPenalty, totalEffectivePenalty, avgPerTorPaths, minPerTorPaths,
      avgPerPodCapacity, minPerPodCapacity, maxLinkLossRate, currDisabledLinks,
      currCorruptingLinks, maxLgPortsPerPipe⟩)
  | _ => none

/-- One line more: the rows that are kept, and the line that was read last. -/
def readLine (rowsAndPrev : List (ℤ × Columns F) × List (List Char)) (curr : List (List Char)) :
    Option (List (ℤ × Columns F) × List (List Char)) := do
  let (rows, prev) := rowsAndPrev
  if curr.tail = prev.tail then return (rows, curr)
  else
    let row ← getTypedRow curr
    return (rows ++ [row], curr)

/-- `get_df_from_sim_datafile`; the data frame wants a name for each of the eleven columns. -/
def getDfFromSimDatafile (dataFile : List Char) : Option (List (ℤ × Columns F)) :=
  match csvReader dataFile with
  | header :: prev :: rest => do
    let first ← getTypedRow prev
    let (rows, _) ← rest.foldlM readLine ([first], prev)
    guard (header.length = 11)
    return rows
  | _ => none

/-! ## What is printed is read -/

lemma getTypedRow_formatRow (row : ℤ × Columns F) : getTypedRow (formatRow row) = some row := by
  simp [getTypedRow, formatRow, Columns.format, Corruptd.int_repr, PyFloat.float_format]

lemma format_inj {m m' : Columns F} : m.format = m'.format ↔ m = m' := by
  refine ⟨fun h => ?_, congrArg _⟩
  have hrow : formatRow (0, m) = formatRow (0, m') := congrArg (List.cons _) h
  have htyped := getTypedRow_formatRow (0, m)
  rw [hrow, getTypedRow_formatRow] at htyped
  exact (congrArg Prod.snd (Option.some_inj.mp htyped)).symm

/-- No column contains a tab or the end of a line. -/
lemma plain_formatRow (row : ℤ × Columns F) : Plain '\t' '\n' (formatRow row) := by
  have hint : ∀ n : ℤ, ∀ c ∈ n.repr.toList, c ≠ '\t' ∧ c ≠ '\n' := by
    intro n c hc
    rcases Corruptd.mem_repr hc with rfl | h
    · decide
    · refine ⟨?_, ?_⟩ <;> rintro rfl <;> exact absurd h (by decide)
  have hfloat : ∀ x : F, ∀ c ∈ PyFloat.format x, c ≠ '\t' ∧ c ≠ '\n' := by
    intro x c hc
    have hplain := PyFloat.plain x c hc
    simp only [List.mem_cons, not_or] at hplain
    exact ⟨hplain.1, hplain.2.1⟩
  have hboth : ∀ field ∈ formatRow row, ∀ c ∈ field, c ≠ '\t' ∧ c ≠ '\n' := by
    intro field hfield
    simp only [formatRow, Columns.format, List.mem_cons, List.not_mem_nil, or_false] at hfield
    rcases hfield with rfl | rfl | rfl | rfl | rfl | rfl | rfl | rfl | rfl | rfl | rfl
    all_goals first
      | exact hint _
      | exact hfloat _
  exact ⟨List.cons_ne_nil _ _, fun field hfield hc => (hboth field hfield _ hc).1 rfl,
    fun field hfield hc => (hboth field hfield _ hc).2 rfl⟩

lemma csvReader_text (d : DataDumper (Columns F)) :
    csvReader d.text = DataDumper.header :: d.rows.map formatRow := by
  refine records_flatMap_line (by decide) fun fields hfields => ?_
  rcases List.mem_cons.mp hfields with rfl | hfields
  · exact ⟨by decide, by decide, by decide⟩
  · obtain ⟨row, -, rfl⟩ := List.mem_map.mp hfields
    exact plain_formatRow row

/-- A line is kept exactly when its row is, and as that row. -/
lemma readLine_formatRow [DecidableEq (Columns F)] (rows : List (ℤ × Columns F))
    (prev curr : ℤ × Columns F) : readLine (rows, formatRow prev) (formatRow curr) =
      some ((readRow (rows, prev) curr).1, formatRow (readRow (rows, prev) curr).2) := by
  have htail : (formatRow curr).tail = (formatRow prev).tail ↔ curr.2 = prev.2 := format_inj
  by_cases h : curr.2 = prev.2
  · rw [readLine, readRow]
    simp [h, htail]
  · rw [readLine, readRow]
    simp [h, htail, getTypedRow_formatRow]

/-- **The rows are read as if the file held them.** -/
theorem getDfFromSimDatafile_text [DecidableEq (Columns F)] (d : DataDumper (Columns F)) :
    getDfFromSimDatafile d.text = Simulator.getDfFromSimDatafile d.rows := by
  have hloop : ∀ (rest rows : List (ℤ × Columns F)) (prev : ℤ × Columns F),
      (rest.map formatRow).foldlM readLine (rows, formatRow prev) = some
        ((rest.foldl readRow (rows, prev)).1, formatRow (rest.foldl readRow (rows, prev)).2) := by
    intro rest
    induction rest with
    | nil => exact fun rows prev => rfl
    | cons curr rest ih =>
      intro rows prev
      rw [List.map_cons, List.foldlM_cons, readLine_formatRow]
      exact ih _ _
  rw [getDfFromSimDatafile, csvReader_text]
  cases hrows : d.rows with
  | nil => rfl
  | cons first rest =>
    simp only [List.map_cons, getTypedRow_formatRow, hloop]
    rfl

end DataFile

/-! ## Change points -/

/-- The rows whose columns are not those of the row before them. -/
def changesAfter (prev : ℤ × Columns F) (rest : List (ℤ × Columns F)) : List (ℤ × Columns F) :=
  (((prev :: rest).zip rest).filter fun (prev, curr) => curr.2.format ≠ prev.2.format).map Prod.snd

lemma changesAfter_cons [DecidableEq (Columns F)] (prev curr : ℤ × Columns F)
    (rest : List (ℤ × Columns F)) : changesAfter prev (curr :: rest) =
      (if curr.2 = prev.2 then [] else [curr]) ++ changesAfter curr rest := by
  have hformat : curr.2.format ≠ prev.2.format ↔ curr.2 ≠ prev.2 := DataFile.format_inj.not
  by_cases h : curr.2 = prev.2
  · simp [changesAfter, h]
  · simp [changesAfter, h, hformat]

/-- Dumping rows at increasing times adds those that bring a change to what is read. -/
lemma DataDumper.Gives.dumpRows [DecidableEq (Columns F)] {d : DataDumper (Columns F)}
    {df rest : List (ℤ × Columns F)} {prev : ℤ × Columns F} (h : d.Gives df prev)
    (htimes : ((prev :: rest).map Prod.fst).Pairwise (· < ·)) : ∃ d' last,
      rest.foldlM (fun (d : DataDumper (Columns F)) row => d.dump row.1 row.2) d = some d' ∧
        d'.Gives (df ++ changesAfter prev rest) last := by
  induction rest generalizing d df prev with
  | nil => exact ⟨d, prev, rfl, by simpa [changesAfter] using h⟩
  | cons curr rest ih =>
    rw [List.map_cons, List.map_cons, List.pairwise_cons] at htimes
    have hne : prev.1 ≠ curr.1 := (htimes.1 _ List.mem_cons_self).ne
    have hdump : d.dump curr.1 curr.2 = some
        { prevRow := some curr, rows := d.rows ++ [(curr.1, prev.2), curr] } := by
      rw [DataDumper.dump, h.prevRow]
      exact Option.bind_eq_some_iff.mpr ⟨(), if_pos hne, rfl⟩
    obtain ⟨d', last, hrun, hgives⟩ := ih (h.dump hdump) htimes.2
    refine ⟨d', last, ?_, ?_⟩
    · rw [List.foldlM_cons, hdump]
      exact hrun
    · rw [changesAfter_cons, ← List.append_assoc]
      split at hgives
      · next heq => rwa [if_pos heq, List.append_nil]
      · next hne => rwa [if_neg hne]

/-- **Dumping and de-duplicating recovers the change points**: of rows dumped at increasing times
the reader keeps the first, and each that is printed with other columns than the row before. -/
theorem change_points_recovered {first : ℤ × Columns F} {rest : List (ℤ × Columns F)}
    (h : ((first :: rest).map Prod.fst).Pairwise (· < ·)) :
    ∃ d, DataDumper.dumpAll (first :: rest) = some d ∧
      DataFile.getDfFromSimDatafile d.text = some (first :: changesAfter first rest) := by
  classical
  have hfirst : ({} : DataDumper (Columns F)).dump first.1 first.2 =
      some { prevRow := some first, rows := [first] } := rfl
  obtain ⟨d, last, hrun, hgives⟩ := (DataDumper.gives_dump hfirst).dumpRows h
  have hlast : d.dumpLastRow = some
      { d with rows := d.rows ++ [(last.1 + dataDumperStartEndOffset, last.2)] } := by
    rw [DataDumper.dumpLastRow, hgives.prevRow]
    rfl
  refine ⟨_, Option.bind_eq_some_iff.mpr ⟨d, ?_, hlast⟩, ?_⟩
  · rw [List.foldlM_cons, hfirst]
    exact hrun
  · rw [DataFile.getDfFromSimDatafile_text, hgives.dumpLastRow hlast]
    rfl

/-! ## A file with a repeated row -/

/-- The floats that are printed as whole numbers. -/
abbrev WholeFloat := {n : ℤ // |n| < 10 ^ 16}

namespace WholeFloat

def format (x : WholeFloat) : List Char := ['.'].intercalate [x.1.repr.toList, ['0']]

def float (s : List Char) : Option WholeFloat :=
  match s.splitOn '.' with
  | [n, ['0']] => (Corruptd.int n).bind fun n => if h : |n| < 10 ^ 16 then some ⟨n, h⟩ else none
  | _ => none

lemma float_format (x : WholeFloat) : float x.format = some x := by
  have hsplit : x.format.splitOn '.' = [x.1.repr.toList, ['0']] := by
    refine List.splitOn_intercalate '.' (fun piece hpiece => ?_) (List.cons_ne_nil _ _)
    rcases List.mem_pair.mp hpiece with rfl | rfl
    · intro hc
      rcases Corruptd.mem_repr hc with h | h <;> exact absurd h (by decide)
    · decide
  simp only [float, hsplit, Corruptd.int_repr, Option.bind_some]
  exact dif_pos x.2

lemma plain (x : WholeFloat) : ∀ c ∈ x.format, c ∉ ['\t', '\n', '\r', '"'] := by
  intro c hc
  simp only [format, List.intercalate_cons_cons, List.intercalate_singleton, List.mem_append,
    List.mem_singleton] at hc
  rcases hc with (hc | rfl) | rfl
  · rcases Corruptd.mem_repr hc with rfl | hdigit
    · decide
    · simp only [List.mem_cons, List.not_mem_nil, or_false, not_or]
      refine ⟨?_, ?_, ?_, ?_⟩ <;> rintro rfl <;> exact absurd hdigit (by decide)
  · decide
  · decide

instance : PyFloat WholeFloat where
  format := format
  float := float
  float_format := float_format
  plain := plain

end WholeFloat

/-- Columns of a network with a number of disabled links. -/
def columnsOf (disabledLinks : ℤ) : Columns WholeFloat :=
  ⟨⟨0, by decide⟩, ⟨0, by decide⟩, ⟨16, by decide⟩, 16, ⟨4, by decide⟩, ⟨4, by decide⟩,
    ⟨0, by decide⟩, disabledLinks, 0, 0⟩

theorem change_points_of_one_change : ∃ d,
    DataDumper.dumpAll [(0, columnsOf 0), (3600, columnsOf 0), (7200, columnsOf 1)] = some d ∧
      DataFile.getDfFromSimDatafile d.text = some [(0, columnsOf 0), (7200, columnsOf 1)] := by
  have hchanges : changesAfter (0, columnsOf 0) [(3600, columnsOf 0), (7200, columnsOf 1)] =
      [(7200, columnsOf 1)] := by decide +kernel
  obtain ⟨d, hdump, hread⟩ := @change_points_recovered WholeFloat _ (0, columnsOf 0)
    [(3600, columnsOf 0), (7200, columnsOf 1)] (by decide)
  exact ⟨d, hdump, hchanges ▸ hread⟩

end LinkGuardian.Simulator
