import TunerControl.Event.Column
import TunerControl.Proofs.Event.Payloads

/-! The rows of decoded tables: as many as are counted, each with what the columns have in it. -/

namespace TunerControl.Event

/-- A count stands for itself, or for none if it is negative. -/
theorem countOf_eq_max (n : Int32) : (countOf n : Int) = max n.toInt 0 := by
  -- The integer of a count is cut off below at zero.
  unfold countOf
  omega

namespace Column

variable {α : Type}

/-- A column that was left out has as little in it as one without values. -/
theorem cell_eq_getD (column : Column α) (default : α) (row : Nat) :
    column.cell default row = column.given.getD row default := by
  -- A missing column has the default in every row, and so has the empty list.
  cases column with
  | none => rfl
  | some values => rfl

/-- More in a column makes no difference in the rows that are counted. -/
theorem Completes.sameCells {column other : Column α} {default : α} {rows : Nat}
    (more : column.Completes default rows other) : column.SameCells other default rows := by
  -- A value behind the counted rows is in none of them, and a zero is what was missing.
  intro row counted
  rw [cell_eq_getD, cell_eq_getD]
  cases more with
  | same => rfl
  | appended more full =>
    -- The row has its value in front of whatever was appended.
    have within : row < column.given.length := by omega
    simp only [given, Option.getD_some, List.getD_eq_getElem?_getD] at within ⊢
    rw [List.getElem?_append_left within]
  | padded missing within =>
    simp only [given, Option.getD_some, List.getD_eq_getElem?_getD, List.getElem?_append,
      List.getElem?_replicate]
    -- What is missing from a row has the default, and so has what was padded.
    split
    · rfl
    · rename_i beyond
      rw [List.getElem?_eq_none (by omega)]
      split <;> rfl

end Column

/-- The rows of a table come one by one from their numbers. -/
theorem getElem?_rows {α : Type} {rows row : Nat} (read : Nat → α) (counted : row < rows) :
    ((List.range rows).map read)[row]? = some (read row) := by
  -- The number of a row is below the count.
  rw [List.getElem?_map, List.getElem?_range counted]
  rfl

namespace Raw

/-- More in the columns of a table makes no difference to the record of its event. -/
theorem Completes.decode_eq {e f : Raw} (more : Completes e f) : f.decode = e.decode := by
  -- One case for each kind of table: all columns have the same cells in the rows counted.
  cases more with
  | network moreFreqs moreSeen =>
    simp only [decode]
    rw [Column.cells_inj.mpr moreFreqs.sameCells, Column.cells_inj.mpr moreSeen.sameCells]
  | groupAttachment moreRids moreTgs moreSeen =>
    simp only [decode]
    refine congrArg (fun rows => Record.groupAttachment ⟨_, rows⟩) (rows_inj.mpr ?_)
    intro row counted
    rw [moreRids.sameCells row counted, moreTgs.sameCells row counted,
      moreSeen.sameCells row counted]
  | affiliation moreRids moreSeen =>
    simp only [decode]
    refine congrArg (fun rows => Record.affiliation ⟨_, rows⟩) (rows_inj.mpr ?_)
    intro row counted
    rw [moreRids.sameCells row counted, moreSeen.sameCells row counted]

/-- A table of neighbours, of attachments or of affiliations has as many rows as the engine counted,
and none for a negative count. Each row has in it what the columns have at its place, or zero where a
column has nothing or was left out; so the columns stay side by side, however long each of them is.
Hence it makes no difference if values are appended behind the counted rows, or zeros where values are
missing. -/
theorem decode_rows (count : Int32) (freqs rids lastSeen : Column Int64) (tgs : Column Int32) :
    (∃ t : Network, (network count freqs lastSeen).decode = .network t ∧
      (t.neighborCount : Int) = max count.toInt 0 ∧
      t.neighborFreqs.length = t.neighborCount ∧ t.neighborLastSeen.length = t.neighborCount ∧
      t.neighbors.length = t.neighborCount ∧
      ∀ row < t.neighborCount,
        t.neighborFreqs[row]? = some (freqs.given.getD row 0) ∧
        t.neighborLastSeen[row]? = some (lastSeen.given.getD row 0) ∧
        t.neighbors[row]? = some (freqs.given.getD row 0, lastSeen.given.getD row 0)) ∧
    (∃ t : GroupAttachment, (groupAttachment count rids tgs lastSeen).decode = .groupAttachment t ∧
      (t.gaCount : Int) = max count.toInt 0 ∧ t.attachments.length = t.gaCount ∧
      ∀ row < t.gaCount, t.attachments[row]? =
        some ⟨rids.given.getD row 0, tgs.given.getD row 0, lastSeen.given.getD row 0⟩) ∧
    (∃ t : Affiliation, (affiliation count rids lastSeen).decode = .affiliation t ∧
      (t.affCount : Int) = max count.toInt 0 ∧ t.affiliations.length = t.affCount ∧
      ∀ row < t.affCount, t.affiliations[row]? =
        some ⟨rids.given.getD row 0, lastSeen.given.getD row 0⟩) ∧
    ∀ e f : Raw, Completes e f → f.decode = e.decode := by
  -- The three tables are decoded alike, row by row.
  have counted := countOf_eq_max count
  refine ⟨⟨_, rfl, counted, ?_, ?_, ?_, ?_⟩, ⟨_, rfl, counted, ?_, ?_⟩, ⟨_, rfl, counted, ?_, ?_⟩,
    fun e f more => more.decode_eq⟩
  · simp [Column.cells]
  · simp [Column.cells]
  · simp [Network.neighbors, Column.cells]
  · -- Each list has in a row what the column has there.
    intro row inside
    have freq := getElem?_rows (freqs.cell 0) inside
    have seen := getElem?_rows (lastSeen.cell 0) inside
    rw [Column.cell_eq_getD] at freq seen
    refine ⟨freq, seen, ?_⟩
    -- Both columns have the row, so that neither ends the pairs before it.
    exact List.getElem?_zip_eq_some.mpr ⟨freq, seen⟩
  · simp
  · intro row inside
    rw [← Column.cell_eq_getD, ← Column.cell_eq_getD, ← Column.cell_eq_getD]
    exact getElem?_rows _ inside
  · simp
  · intro row inside
    rw [← Column.cell_eq_getD, ← Column.cell_eq_getD]
    exact getElem?_rows _ inside

/-- Of two neighbours, the second has a time without a frequency, which may as well be given as zero. A
third time is not counted, and neither would be a fourth. -/
theorem neighbors_decode :
    let e := network 2 (some [851012500]) (some [5, 6, 7])
    let f := network 2 (some [851012500, 0]) (some [5, 6, 7, 8])
    (∃ t : Network, e.decode = .network t ∧ t.neighbors.length = 2 ∧
      t.neighbors[1]? = some (0, 6)) ∧ Completes e f ∧ f.decode = e.decode := by
  -- A zero is padded in the one column, and a time appended to the other.
  intro e f
  have more : Completes e f :=
    .network (.padded (some [851012500]) 1 (by decide)) (.appended (some [5, 6, 7]) [8] (by decide))
  obtain ⟨⟨t, decoded, counted, -, -, paired, each⟩, -, -, same⟩ :=
    decode_rows 2 (some [851012500]) none (some [5, 6, 7]) none
  have two : t.neighborCount = 2 := by
    have clamped : max (2 : Int32).toInt 0 = 2 := by decide
    omega
  exact ⟨⟨t, decoded, paired.trans two, (each 1 (by omega)).2.2⟩, more, same e f more⟩

end Raw

end TunerControl.Event
