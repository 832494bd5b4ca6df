import TunerControl.Event.Raw

/-! When two events tell the same. What exceeds a count, or the room for the members of a patch, tells
nothing, and a missing cell tells as much as one with the default. -/

namespace TunerControl.Event

namespace Column

variable {α : Type}

/-- Two columns have the same cells in the first rows. -/
def SameCells (column other : Column α) (default : α) (rows : Nat) : Prop :=
  ∀ row < rows, column.cell default row = other.cell default row

/-- The values of a flat array at the places of the members of a row, as far as it has them. -/
def placed (column : Column α) (count row : Nat) : List α :=
  (List.range (min count memberStride)).filterMap fun j => column.bind (·[memberStride * row + j]?)

/-- Two columns of counts agree in the first rows, and so do the flat arrays of what they count. -/
structure SameMembers (counts counts' : Column Int32) (column other : Column α) (rows : Nat) :
    Prop where
  each : ∀ row < rows, countOf (counts.cell 0 row) = countOf (counts'.cell 0 row)
  members : ∀ row < rows, column.placed (countOf (counts.cell 0 row)) row =
    other.placed (countOf (counts'.cell 0 row)) row

end Column

/-- Two tables of patches tell the same. -/
structure RawPatch.Agrees (t u : RawPatch) : Prop where
  patchCount : countOf t.patchCount = countOf u.patchCount
  sgids : t.sgids.SameCells u.sgids 0 (countOf t.patchCount)
  isPatch : t.isPatch.SameCells u.isPatch false (countOf t.patchCount)
  active : t.active.SameCells u.active false (countOf t.patchCount)
  lastUpdate : t.lastUpdate.SameCells u.lastUpdate 0 (countOf t.patchCount)
  wgids : t.wgidCounts.SameMembers u.wgidCounts t.wgids u.wgids (countOf t.patchCount)
  wuids : t.wuidCounts.SameMembers u.wuidCounts t.wuids u.wuids (countOf t.patchCount)
  keys : t.keys.SameCells u.keys 0 (countOf t.patchCount)
  algs : t.algs.SameCells u.algs 0 (countOf t.patchCount)
  keyValid : t.keyValid.SameCells u.keyValid false (countOf t.patchCount)

namespace Raw

/-- Two events tell the same. -/
inductive Agrees : Raw → Raw → Prop where
  | output (line : String) : Agrees (.output line) (.output line)
  | call (phase : Int32) (details : CallDetails) : Agrees (.call phase details) (.call phase details)
  | site (site : Site) : Agrees (.site site) (.site site)
  | signal (signal : Signal) : Agrees (.signal signal) (.signal signal)
  | network {count count' : Int32} {freqs freqs' lastSeen lastSeen' : Column Int64}
      (counts : countOf count = countOf count') (eachFreq : freqs.SameCells freqs' 0 (countOf count))
      (eachSeen : lastSeen.SameCells lastSeen' 0 (countOf count)) :
      Agrees (.network count freqs lastSeen) (.network count' freqs' lastSeen')
  | patch {table table' : RawPatch} (tables : table.Agrees table') :
      Agrees (.patch table) (.patch table')
  | groupAttachment {count count' : Int32} {rids rids' lastSeen lastSeen' : Column Int64}
      {tgs tgs' : Column Int32} (counts : countOf count = countOf count')
      (eachRid : rids.SameCells rids' 0 (countOf count))
      (eachTg : tgs.SameCells tgs' 0 (countOf count))
      (eachSeen : lastSeen.SameCells lastSeen' 0 (countOf count)) :
      Agrees (.groupAttachment count rids tgs lastSeen) (.groupAttachment count' rids' tgs' lastSeen')
  | affiliation {count count' : Int32} {rids rids' lastSeen lastSeen' : Column Int64}
      (counts : countOf count = countOf count') (eachRid : rids.SameCells rids' 0 (countOf count))
      (eachSeen : lastSeen.SameCells lastSeen' 0 (countOf count)) :
      Agrees (.affiliation count rids lastSeen) (.affiliation count' rids' lastSeen')

/-- The frequency of a call. -/
def frequency? : Raw → Option Binary.Binary64
  | call _ details => some details.frequency
  | _ => none

end Raw

end TunerControl.Event
