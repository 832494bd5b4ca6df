import TunerControl.Event.Raw

/-! What the engine gave in the columns of a table, what a row of the table is to say for it, and when
more of it makes no difference. -/

namespace TunerControl.Event

namespace Column

variable {α : Type}

/-- The values that the engine gave in a column: none if it left the column out. -/
def given (column : Column α) : List α :=
  column.getD []

/-- A column has more in it than another one, but not in the first rows: values behind those rows, or
defaults where values were missing in them. -/
inductive Completes (default : α) (rows : Nat) : Column α → Column α → Prop where
  | same (column : Column α) : Completes default rows column column
  | appended (column : Column α) (more : List α) (full : rows ≤ column.given.length) :
      Completes default rows column (some (column.given ++ more))
  | padded (column : Column α) (missing : Nat) (within : column.given.length + missing ≤ rows) :
      Completes default rows column (some (column.given ++ List.replicate missing default))

/-- What a row says of its members: how many the engine counted, and those of them that it gave. They
are the first values of the row's own window of the flat array, as many as were counted, fit in and are
there. -/
structure ListsMembers {β : Type} (counts flat : Column Int32) (row : Nat) (value : β → Int)
    (count : Nat) (members : List β) : Prop where
  counted : (count : Int) = max (counts.given.getD row 0).toInt 0
  listed : members.map value =
    ((flat.given.drop (memberStride * row)).take (min count memberStride)).map Int32.toInt
  room : members.length ≤ memberStride
  own : ∀ x ∈ members, ∃ place < memberStride, ∃ y,
    flat.given[memberStride * row + place]? = some y ∧ value x = y.toInt
  addressed : ∀ place < memberStride, memberStride * row + place < UInt64.size

end Column

/-- What an entry says is what the columns of its table have in its row, or the default where they have
nothing. -/
structure RawPatch.IsEntry (t : RawPatch) (row : Nat) (e : PatchEntry) : Prop where
  sgid : e.sgid = t.sgids.given.getD row 0
  isPatch : e.isPatch = t.isPatch.given.getD row false
  active : e.active = t.active.given.getD row false
  lastUpdate : e.lastUpdate = t.lastUpdate.given.getD row 0
  wgids : Column.ListsMembers t.wgidCounts t.wgids row Int32.toInt e.wgidCount e.wgids
  wuids : Column.ListsMembers t.wuidCounts t.wuids row Int64.toInt e.wuidCount e.wuids
  key : e.key = t.keys.given.getD row 0
  alg : e.alg = t.algs.given.getD row 0
  keyValid : e.keyValid = t.keyValid.given.getD row false

namespace Raw

/-- A table of an event has more in its columns than that of another one, but not in the rows that are
counted. -/
inductive Completes : Raw → Raw → Prop where
  | network {count : Int32} {freqs freqs' lastSeen lastSeen' : Column Int64}
      (moreFreqs : freqs.Completes 0 (countOf count) freqs')
      (moreSeen : lastSeen.Completes 0 (countOf count) lastSeen') :
      Completes (.network count freqs lastSeen) (.network count freqs' lastSeen')
  | groupAttachment {count : Int32} {rids rids' lastSeen lastSeen' : Column Int64}
      {tgs tgs' : Column Int32} (moreRids : rids.Completes 0 (countOf count) rids')
      (moreTgs : tgs.Completes 0 (countOf count) tgs')
      (moreSeen : lastSeen.Completes 0 (countOf count) lastSeen') :
      Completes (.groupAttachment count rids tgs lastSeen) (.groupAttachment count rids' tgs' lastSeen')
  | affiliation {count : Int32} {rids rids' lastSeen lastSeen' : Column Int64}
      (moreRids : rids.Completes 0 (countOf count) rids')
      (moreSeen : lastSeen.Completes 0 (countOf count) lastSeen') :
      Completes (.affiliation count rids lastSeen) (.affiliation count rids' lastSeen')

end Raw

end TunerControl.Event
