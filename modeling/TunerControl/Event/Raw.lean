import TunerControl.Event.Record

/-! Events as the decoder engine emits them, and the records they are decoded to. Counts are
authoritative: parallel arrays are read up to the count, and what is missing has its default. -/

namespace TunerControl.Event

/-- A parallel array. The engine may leave it out. -/
abbrev Column (α : Type) := Option (List α)

/-- The cell of a column in a row. -/
def Column.cell {α : Type} (column : Column α) (default : α) (row : Nat) : α :=
  (column.bind (·[row]?)).getD default

/-- The first cells of a column. -/
def Column.cells {α : Type} (column : Column α) (default : α) (rows : Nat) : List α :=
  (List.range rows).map (column.cell default)

/-- How many members of a patch fit into one row of a flat array. -/
def memberStride : Nat := 8

/-- The members of a row of a flat array. What exceeds the stride or the array is lost. -/
def Column.members {α : Type} (column : Column α) (count row : Nat) : List α :=
  match column with
  | none => []
  | some flat => (List.range (min count memberStride)).filterMap fun j => flat[memberStride * row + j]?

/-- The table of patches as parallel arrays. -/
structure RawPatch where
  patchCount : Int32
  sgids : Column Int32
  isPatch : Column Bool
  active : Column Bool
  lastUpdate : Column Int64
  wgidCounts : Column Int32
  wgids : Column Int32
  wuidCounts : Column Int32
  wuids : Column Int32
  keys : Column Int32
  algs : Column Int32
  keyValid : Column Bool
  deriving DecidableEq, Repr

/-- An event as the engine emits it. -/
inductive Raw where
  | output (line : String)
  | call (phase : Int32) (details : CallDetails)
  | site (site : Site)
  | signal (signal : Signal)
  | network (count : Int32) (freqs lastSeen : Column Int64)
  | patch (table : RawPatch)
  | groupAttachment (count : Int32) (rids : Column Int64) (tgs : Column Int32)
    (lastSeen : Column Int64)
  | affiliation (count : Int32) (rids lastSeen : Column Int64)
  deriving DecidableEq, Repr

/-- The kind of an event. -/
def Raw.kind : Raw → Kind
  | output _ => .output
  | call _ _ => .call
  | site _ => .site
  | signal _ => .signal
  | network _ _ _ => .network
  | patch _ => .patch
  | groupAttachment _ _ _ _ => .groupAttachment
  | affiliation _ _ _ => .affiliation

/-- The entry in a row of a table of patches. -/
def RawPatch.entry (t : RawPatch) (row : Nat) : PatchEntry :=
  let wgidCount := countOf (t.wgidCounts.cell 0 row)
  let wuidCount := countOf (t.wuidCounts.cell 0 row)
  { sgid := t.sgids.cell 0 row
    isPatch := t.isPatch.cell false row
    active := t.active.cell false row
    lastUpdate := t.lastUpdate.cell 0 row
    wgidCount
    wgids := t.wgids.members wgidCount row
    wuidCount
    wuids := (t.wuids.members wuidCount row).map Int32.toInt64
    key := t.keys.cell 0 row
    alg := t.algs.cell 0 row
    keyValid := t.keyValid.cell false row }

/-- The record of an event. -/
def Raw.decode : Raw → Record
  | output line => .output line
  | call phase details => .call ⟨.ofCode phase, details⟩
  | site s => .site s
  | signal s => .signal s
  | network count freqs lastSeen =>
    let n := countOf count
    .network ⟨n, freqs.cells 0 n, lastSeen.cells 0 n⟩
  | patch t =>
    let n := countOf t.patchCount
    .patch ⟨n, (List.range n).map t.entry⟩
  | groupAttachment count rids tgs lastSeen =>
    let n := countOf count
    .groupAttachment ⟨n, (List.range n).map fun i => ⟨rids.cell 0 i, tgs.cell 0 i, lastSeen.cell 0 i⟩⟩
  | affiliation count rids lastSeen =>
    let n := countOf count
    .affiliation ⟨n, (List.range n).map fun i => ⟨rids.cell 0 i, lastSeen.cell 0 i⟩⟩

/-- Decoding keeps the kind of an event. -/
theorem Raw.kind_decode (e : Raw) : e.decode.kind = e.kind := by
  cases e <;> rfl

end TunerControl.Event
