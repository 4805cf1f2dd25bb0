import LinkGuardian.Simulator.Metrics
import Mathlib.Tactic.Common

/-!
# Comparing two data files

The data analysis reads the data files of two simulations, drops the rows that repeat the metrics
of the row before, and compares what is left: the numbers of rows must be equal, and so must the
times.
-/

namespace LinkGuardian.Simulator

variable {M : Type} [DecidableEq M]

/-! ## Reading a data file -/

/-- One row more: the rows that are kept, and the row that was read last. -/
def readRow (rowsAndPrev : List (ℤ × M) × (ℤ × M)) (curr : ℤ × M) : List (ℤ × M) × (ℤ × M) :=
  let (rows, prev) := rowsAndPrev
  if curr.2 = prev.2 then (rows, curr) else (rows ++ [curr], curr)

/-- `get_df_from_sim_datafile`; a file without rows raises. -/
def getDfFromSimDatafile : List (ℤ × M) → Option (List (ℤ × M))
  | [] => none
  | prev :: rest => some (rest.foldl readRow ([prev], prev)).1

/-- The correctness checks; the script exits when one fails. -/
def dataCorrectnessChecks (corroptDataFile lgCorroptDataFile : List (ℤ × M)) : Option Unit := do
  let dfCorropt ← getDfFromSimDatafile corroptDataFile
  let dfLgCorropt ← getDfFromSimDatafile lgCorroptDataFile
  guard (dfCorropt.length = dfLgCorropt.length)
  let diffTimeDf := (dfCorropt.zip dfLgCorropt).filter fun row => row.1.1 ≠ row.2.1
  guard (diffTimeDf = [])

omit [DecidableEq M] in
/-- Rows at equal times. -/
lemma diffTime_eq_nil {df df' : List (ℤ × M)} (htimes : df.map Prod.fst = df'.map Prod.fst) :
    (df.zip df').filter (fun row => row.1.1 ≠ row.2.1) = [] := by
  induction df generalizing df' with
  | nil => rfl
  | cons row df ih =>
    cases df' with
    | nil => cases htimes
    | cons row' df' =>
      obtain ⟨htime, htimes⟩ := List.cons.inj htimes
      rw [List.zip_cons_cons, List.filter_cons_of_neg]
      · exact ih htimes
      · rw [decide_eq_true_iff, not_not]
        exact htime

lemma dataCorrectnessChecks_eq_some {file file' df df' : List (ℤ × M)}
    (hdf : getDfFromSimDatafile file = some df) (hdf' : getDfFromSimDatafile file' = some df')
    (htimes : df.map Prod.fst = df'.map Prod.fst) : dataCorrectnessChecks file file' = some () := by
  have hlength : df.length = df'.length := by
    rw [← List.length_map Prod.fst, htimes, List.length_map]
  refine Option.bind_eq_some_iff.mpr ⟨df, hdf, Option.bind_eq_some_iff.mpr ⟨df', hdf', ?_⟩⟩
  exact Option.bind_eq_some_iff.mpr ⟨(), if_pos hlength, if_pos (diffTime_eq_nil htimes)⟩

/-! ## What is read of what was dumped -/

/-- Reading the file gives these rows, and the dumper will repeat this row.  It is stated for the
file so far, so that a run can be followed while its file is written. -/
structure DataDumper.Gives (d : DataDumper M) (df : List (ℤ × M)) (prev : ℤ × M) : Prop where
  prevRow : d.prevRow = some prev
  rows : ∃ first rest last, d.rows = first :: rest ∧
    rest.foldl readRow ([first], first) = (df, last) ∧ last.2 = prev.2

namespace DataDumper

variable {d d' : DataDumper M} {df : List (ℤ × M)} {prev : ℤ × M} {time : ℤ} {row : M}

/-- The first row is kept. -/
lemma gives_dump (h : ({} : DataDumper M).dump time row = some d) :
    d.Gives [(time, row)] (time, row) := by
  cases h
  exact ⟨rfl, (time, row), [], (time, row), rfl, rfl, rfl⟩

/-- **A row is kept exactly when its metrics are new.** -/
lemma Gives.dump (h : d.Gives df prev) (hdump : d.dump time row = some d') :
    d'.Gives (if row = prev.2 then df else df ++ [(time, row)]) (time, row) := by
  obtain ⟨hprev, first, rest, last, hrows, hread, hlast⟩ := h
  rw [DataDumper.dump, hprev] at hdump
  obtain ⟨_, -, hdump⟩ := Option.bind_eq_some_iff.mp hdump
  cases hdump
  refine ⟨rfl, first, rest ++ [(time, prev.2), (time, row)], (time, row), ?_, ?_, rfl⟩
  · rw [hrows]
    rfl
  · have hrepeated : readRow (df, last) (time, prev.2) = (df, (time, prev.2)) := if_pos hlast.symm
    rw [List.foldl_append, hread]
    show readRow (readRow (df, last) (time, prev.2)) (time, row) = _
    rw [hrepeated]
    show (if row = prev.2 then _ else _) = _
    split
    · rfl
    · rfl

/-- The last row is not kept: it repeats the metrics of the row before it at a later time. -/
lemma Gives.dumpLastRow (h : d.Gives df prev) (hdump : d.dumpLastRow = some d') :
    getDfFromSimDatafile d'.rows = some df := by
  obtain ⟨hprev, first, rest, last, hrows, hread, hlast⟩ := h
  rw [DataDumper.dumpLastRow, hprev] at hdump
  cases hdump
  show getDfFromSimDatafile (d.rows ++ [(prev.1 + dataDumperStartEndOffset, prev.2)]) = some df
  rw [hrows]
  show some (List.foldl readRow ([first], first) (rest ++ _)).1 = some df
  rw [List.foldl_append, hread, Option.some_inj]
  exact congrArg Prod.fst (if_pos hlast.symm)

end DataDumper

end LinkGuardian.Simulator
