import TunerControl.Proofs.Event.Rows

/-! The members that the entries of a table of patches list: each entry has those of its own window of the
flat array, in order. -/

namespace TunerControl.Event

namespace Column

variable {α : Type}

/-- Looking up one place after the other reads a list on from there, as far as it goes. -/
theorem filterMap_range_getElem? (values : List α) (start count : Nat) :
    (List.range count).filterMap (fun place => values[start + place]?) =
      (values.drop start).take count := by
  -- By induction on how many places are looked at.
  induction count with
  | zero => rfl
  | succ count ih =>
    -- The last place adds its value, or nothing once the list has ended.
    rw [List.range_succ, List.filterMap_append, ih, List.take_add_one, List.getElem?_drop]
    cases last : values[start + count]? <;> simp [last]

/-- The members of a row are the first values of its window, none of them skipped. -/
theorem members_eq_take (column : Column α) (count row : Nat) :
    column.members count row =
      (column.given.drop (memberStride * row)).take (min count memberStride) := by
  -- The places of a row begin at a multiple of the width of a window.
  cases column with
  | none => simp [members, given]
  | some flat => exact filterMap_range_getElem? flat (memberStride * row) (min count memberStride)

/-- A member of a row is the value at one of the places of the row's window. -/
theorem getElem?_of_mem_members {column : Column α} {count row : Nat} {x : α}
    (member : x ∈ column.members count row) :
    ∃ place < memberStride, column.given[memberStride * row + place]? = some x := by
  -- What is in the first values of a list has a place among them, within the window.
  rw [members_eq_take] at member
  obtain ⟨place, found⟩ := List.mem_iff_getElem?.mp member
  rw [List.getElem?_take] at found
  split at found
  · rename_i within
    rw [List.getElem?_drop] at found
    exact ⟨place, by omega, found⟩
  · cases found

/-- A row that is counted by 32 bits has its places within 64 bits. -/
theorem place_lt {rows : Int32} {row place : Nat} (counted : row < countOf rows)
    (within : place < memberStride) : memberStride * row + place < UInt64.size := by
  -- A count is at most what 31 bits hold, and a window is eight places wide.
  have most := rows.toInt_lt
  have clamped := countOf_eq_max rows
  simp only [memberStride, UInt64.size] at within ⊢
  omega

/-- What is read for the members of a counted row lists them, however wide the values are made. -/
theorem members_listed {β : Type} (counts flat : Column Int32) {rows : Int32} {row : Nat}
    (counted : row < countOf rows) (widen : Int32 → β) {value : β → Int}
    (same : ∀ x, value (widen x) = x.toInt) :
    ListsMembers counts flat row value (countOf (counts.cell 0 row))
      ((flat.members (countOf (counts.cell 0 row)) row).map widen) := by
  refine ⟨?_, ?_, ?_, ?_, ?_⟩
  · -- The count is clamped at zero.
    rw [← cell_eq_getD]
    exact countOf_eq_max _
  · -- The values are those of the window, in order.
    rw [List.map_map, ← members_eq_take]
    exact List.map_congr_left fun x _ => same x
  · -- As many as were counted, as far as window and array go.
    rw [List.length_map, members_eq_take, List.length_take]
    omega
  · -- Every member comes from a place of the window.
    intro x member
    obtain ⟨y, listed, rfl⟩ := List.mem_map.mp member
    obtain ⟨place, within, found⟩ := getElem?_of_mem_members listed
    exact ⟨place, within, y, found, same y⟩
  · intro place within
    exact place_lt counted within

end Column

namespace RawPatch

/-- The entry in a counted row says what the row has in it. -/
theorem entry_isEntry (t : RawPatch) {row : Nat} (counted : row < countOf t.patchCount) :
    t.IsEntry row (t.entry row) where
  sgid := t.sgids.cell_eq_getD 0 row
  isPatch := t.isPatch.cell_eq_getD false row
  active := t.active.cell_eq_getD false row
  lastUpdate := t.lastUpdate.cell_eq_getD 0 row
  -- Group members are kept in their own width, units are widened.
  wgids := by
    have listed : Column.ListsMembers t.wgidCounts t.wgids row Int32.toInt _ _ :=
      Column.members_listed t.wgidCounts t.wgids counted id fun x => rfl
    rwa [List.map_id] at listed
  wuids := Column.members_listed t.wuidCounts t.wuids counted Int32.toInt64 Int32.toInt_toInt64
  key := t.keys.cell_eq_getD 0 row
  alg := t.algs.cell_eq_getD 0 row
  keyValid := t.keyValid.cell_eq_getD false row

/-- A table of patches has as many entries as the engine counted, and none for a negative count. Each
entry says how many members the engine counted for it, and lists the first values of its own window of
the flat array: as many as were counted, at most eight, as far as the array goes and in its order, each
with its value. No place that is looked at is beyond 64 bits, and whatever else an entry says is what its
row has in it, or the default. -/
theorem decode_entries (t : RawPatch) :
    ∃ p : Patch, (Raw.patch t).decode = .patch p ∧ (p.patchCount : Int) = max t.patchCount.toInt 0 ∧
      p.patches.length = p.patchCount ∧
      ∀ row < p.patchCount, ∃ e, p.patches[row]? = some e ∧ t.IsEntry row e := by
  -- The rows are numbered up to the count, and each has its entry.
  refine ⟨_, rfl, countOf_eq_max t.patchCount, by simp, ?_⟩
  intro row counted
  exact ⟨t.entry row, getElem?_rows t.entry counted, t.entry_isEntry counted⟩

/-- Two patches, of which the second one counts more members than there is room for. The flat array goes
on behind the windows of both. -/
def crowdedPatches : RawPatch where
  patchCount := 2
  sgids := some [10, 20]
  isPatch := some [true]
  active := none
  lastUpdate := some [1700000000, 0]
  wgidCounts := some [2, 12]
  wgids := some ([0, 1, 2, 3, 4, 5, 6, 7] ++ [1000, 1001, 1002, 1003, 1004, 1005, 1006, 1007, 1008, 1009])
  wuidCounts := some [3, -1]
  wuids := some [-5]
  keys := none
  algs := some [132, 170]
  keyValid := none

/-- The second patch lists the eight members that its window has room for, and still says that it has
twelve; the first one lists the one unit that the array has. -/
theorem crowdedPatches_entries :
    ∃ e f : PatchEntry, (Raw.patch crowdedPatches).decode = .patch ⟨2, [e, f]⟩ ∧
      crowdedPatches.IsEntry 0 e ∧ crowdedPatches.IsEntry 1 f ∧
      e.wuidCount = 3 ∧ e.wuids = [-5] ∧ f.wgidCount = 12 ∧
      f.wgids = [1000, 1001, 1002, 1003, 1004, 1005, 1006, 1007] := by
  -- The table is decoded to its two entries, and what these list is computed.
  obtain ⟨p, decoded, counted, -, each⟩ := crowdedPatches.decode_entries
  obtain rfl : p = ⟨2, [crowdedPatches.entry 0, crowdedPatches.entry 1]⟩ :=
    Record.patch.inj (decoded.symm.trans rfl)
  obtain ⟨e, first, isFirst⟩ := each 0 (by decide)
  obtain ⟨f, second, isSecond⟩ := each 1 (by decide)
  obtain rfl := Option.some.inj first
  obtain rfl := Option.some.inj second
  exact ⟨_, _, decoded, isFirst, isSecond, by decide, by decide, by decide, by decide⟩

end RawPatch

end TunerControl.Event
