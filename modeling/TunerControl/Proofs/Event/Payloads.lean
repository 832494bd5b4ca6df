import Mathlib.Algebra.Ring.Int.Defs
import TunerControl.Event.Agreement
import TunerControl.Event.Json
import TunerControl.Proofs.Json.Fields
import TunerControl.Proofs.Json.RoundTrip

/-! The payloads of events: two are the same text exactly if the events tell the same. -/

namespace TunerControl

namespace Json.Value

/-- Numbers are the same exactly if the integers are. -/
@[simp]
theorem int_inj {n m : Int} : Value.int n = Value.int m ↔ n = m :=
  -- `Value.int` is injective, and every function keeps equality.
  ⟨int_injective, congrArg Value.int⟩

/-- Strings are the same exactly if the texts are. -/
@[simp]
theorem text_inj {s t : String} : Value.text s = Value.text t ↔ s = t := by
  -- A string holds the characters of its text, and they make up the text again.
  simp [text]

/-- Lists are written alike only if they are the same, if their members are. -/
theorem list_inj {α : Type} {f : α → Value} (each : ∀ x y, f x = f y → x = y) {xs ys : List α} :
    Value.list f xs = Value.list f ys ↔ xs = ys := by
  -- Arrays are the same if their elements are, and the elements differ where the members do.
  simp only [list, array.injEq]
  exact List.map_inj_right each

end Json.Value

namespace Event

open Json (Value render_injective)

/-- A code is the code of the phase that it stands for. -/
theorem Phase.code_ofCode (code : Int32) : (ofCode code).code = code := by
  -- One case for each phase with a code of its own. Every other code is kept as it is.
  unfold ofCode
  split
  · rename_i start
    exact start.symm
  · split
    · rename_i update
      exact update.symm
    · split
      · rename_i stop
        exact stop.symm
      · rfl

section Records

/-- Integers are written alike only if they are the same. -/
theorem int32_inj (x y : Int32) (same : Value.int x.toInt = Value.int y.toInt) : x = y :=
  Int32.toInt_inj.mp (Value.int_inj.mp same)

/-- Long integers are written alike only if they are the same. -/
theorem int64_inj (x y : Int64) (same : Value.int x.toInt = Value.int y.toInt) : x = y :=
  Int64.toInt_inj.mp (Value.int_inj.mp same)

/-- Sites are written alike only if they are the same. -/
theorem Site.toJson_inj {s t : Site} : s.toJson = t.toJson ↔ s = t := by
  -- The members of the object are compared one by one. Each holds one field, as a number.
  cases s
  cases t
  simp [toJson, Value.record, Int64.toInt_inj, Int32.toInt_inj]

/-- Signals are written alike only if they are the same. -/
theorem Signal.toJson_inj {s t : Signal} : s.toJson = t.toJson ↔ s = t := by
  -- As for a site: one member for each field.
  cases s
  cases t
  simp [toJson, Value.record, Int32.toInt_inj]

/-- Networks are written alike only if they are the same. -/
theorem Network.toJson_inj {n m : Network} : n.toJson = m.toJson ↔ n = m := by
  -- Both lists are arrays of numbers, so that they are compared by `list_inj`.
  cases n
  cases m
  simp [toJson, Value.record, Value.list_inj int64_inj]

/-- The entries of patches are written alike only if they are the same. -/
theorem PatchEntry.toJson_inj {e f : PatchEntry} : e.toJson = f.toJson ↔ e = f := by
  -- The members of a patch are in two arrays, one of short and one of long numbers.
  cases e
  cases f
  simp [toJson, Value.record, Int32.toInt_inj, Int64.toInt_inj,
    Value.list_inj int32_inj, Value.list_inj int64_inj]

/-- Patches are written alike only if they are the same. -/
theorem Patch.toJson_inj {p q : Patch} : p.toJson = q.toJson ↔ p = q := by
  -- One array, of entries that are written alike only if they are the same.
  cases p
  cases q
  simp [toJson, Value.record, Value.list_inj fun _ _ => PatchEntry.toJson_inj.mp]

/-- Attachments are written alike only if they are the same. -/
theorem Attachment.toJson_inj {a b : Attachment} : a.toJson = b.toJson ↔ a = b := by
  cases a
  cases b
  simp [toJson, Value.record, Int32.toInt_inj, Int64.toInt_inj]

/-- Group attachments are written alike only if they are the same. -/
theorem GroupAttachment.toJson_inj {t u : GroupAttachment} : t.toJson = u.toJson ↔ t = u := by
  cases t
  cases u
  simp [toJson, Value.record, Value.list_inj fun _ _ => Attachment.toJson_inj.mp]

/-- Radios are written alike only if they are the same. -/
theorem Radio.toJson_inj {r s : Radio} : r.toJson = s.toJson ↔ r = s := by
  cases r
  cases s
  simp [toJson, Value.record, Int64.toInt_inj]

/-- Affiliations are written alike only if they are the same. -/
theorem Affiliation.toJson_inj {t u : Affiliation} : t.toJson = u.toJson ↔ t = u := by
  cases t
  cases u
  simp [toJson, Value.record, Value.list_inj fun _ _ => Radio.toJson_inj.mp]

/-- Calls with the same frequency are written alike only if they tell the same. A phase is written
as its code. -/
theorem Call.toJson_inj {c d : Call} (frequency : c.details.frequency = d.details.frequency) :
    c.toJson = d.toJson ↔ c.phase.code = d.phase.code ∧ c.details = d.details := by
  -- The frequency is a float, whose text need not tell it apart from others, so that its member is
  -- the same on both sides by assumption. The other members are numbers, flags and texts.
  obtain ⟨phase, details⟩ := c
  obtain ⟨phase', details'⟩ := d
  cases details
  cases details'
  obtain rfl := frequency
  simp [toJson, Value.record, Int32.toInt_inj]

end Records

section Decoding

variable {α : Type} {rows : Nat}

/-- Rows are the same lists if they are the same one by one. -/
theorem rows_inj {f g : Nat → α} :
    (List.range rows).map f = (List.range rows).map g ↔ ∀ row < rows, f row = g row := by
  -- The rows range over the numbers below the count.
  simp only [List.map_inj_left, List.mem_range]

/-- The cells of a column in all rows are the same exactly if the columns agree on them. -/
theorem Column.cells_inj {column other : Column α} {default : α} :
    column.cells default rows = other.cells default rows ↔ column.SameCells other default rows :=
  rows_inj

/-- The members of a row are the values at their places. -/
theorem Column.members_eq_placed (column : Column α) (count row : Nat) :
    column.members count row = column.placed count row := by
  -- A missing column has no members. A flat one is cut at the places of the row in both
  -- definitions.
  cases column with
  | none => simp [members, placed]
  | some flat => rfl

/-- Widening an integer loses nothing. -/
theorem toInt64_inj (x y : Int32) (same : x.toInt64 = y.toInt64) : x = y := by
  -- The integer that it stands for is kept.
  have ints := congrArg Int64.toInt same
  rwa [Int32.toInt_toInt64, Int32.toInt_toInt64, Int32.toInt_inj] at ints

/-- The entries of tables that agree on how many there are are the same exactly if the tables tell the
same. -/
theorem RawPatch.entries_inj {t u : RawPatch} (count : countOf t.patchCount = countOf u.patchCount) :
    (∀ row < countOf t.patchCount, t.entry row = u.entry row) ↔ t.Agrees u := by
  -- An entry is compared field by field, for all rows at once, so that each field gives the
  -- agreement of one column. The two directions only put the parts in the order of `Agrees`.
  simp only [entry, PatchEntry.mk.injEq, Column.members_eq_placed, List.map_inj_right toInt64_inj,
    imp_and, forall_and]
  constructor
  · rintro ⟨sgids, isPatch, active, lastUpdate, wgidCounts, wgids, wuidCounts, wuids, keys, algs,
      keyValid⟩
    exact ⟨count, sgids, isPatch, active, lastUpdate, ⟨wgidCounts, wgids⟩, ⟨wuidCounts, wuids⟩,
      keys, algs, keyValid⟩
  · rintro ⟨-, sgids, isPatch, active, lastUpdate, ⟨wgidCounts, wgids⟩, ⟨wuidCounts, wuids⟩, keys,
      algs, keyValid⟩
    exact ⟨sgids, isPatch, active, lastUpdate, wgidCounts, wgids, wuidCounts, wuids, keys, algs,
      keyValid⟩

end Decoding

/-- Records of different kinds are written differently. -/
theorem Record.kind_eq_of_toJson {r s : Record} (same : r.toJson = s.toJson) : r.kind = s.kind := by
  -- An object is told by its member `type`, and the text of an output is no object.
  cases r <;> cases s <;>
    first
    | rfl
    | simp [toJson, Call.toJson, Site.toJson, Signal.toJson, Network.toJson, Patch.toJson,
        GroupAttachment.toJson, Affiliation.toJson, Value.record, Value.text] at same

namespace Raw

section Kinds

variable {count count' : Int32} {freqs freqs' rids rids' lastSeen lastSeen' : Column Int64}
  {tgs tgs' : Column Int32}

/-- Calls with the same frequency are written alike exactly if they have the same code and details.
-/
theorem call_toJson_inj {phase phase' : Int32} {details details' : CallDetails}
    (frequency : details.frequency = details'.frequency) :
    (call phase details).decode.toJson = (call phase' details').decode.toJson ↔
      phase = phase' ∧ details = details' := by
  -- The phase is written as the code that it was read from.
  have calls := Call.toJson_inj (c := ⟨.ofCode phase, details⟩) (d := ⟨.ofCode phase', details'⟩)
    frequency
  rwa [Phase.code_ofCode, Phase.code_ofCode] at calls

/-- Networks are written alike exactly if they count alike and have the same cells in the rows
counted. -/
theorem network_toJson_inj :
    (network count freqs lastSeen).decode.toJson = (network count' freqs' lastSeen').decode.toJson ↔
      countOf count = countOf count' ∧ freqs.SameCells freqs' 0 (countOf count) ∧
        lastSeen.SameCells lastSeen' 0 (countOf count) := by
  simp only [decode, Record.toJson, Network.toJson_inj, Network.mk.injEq]
  -- The counts agree first, so that both ranges of rows are the same.
  refine and_congr_right fun counts => ?_
  rw [← counts, Column.cells_inj, Column.cells_inj]

/-- Patches are written alike exactly if their tables agree. -/
theorem patch_toJson_inj {table table' : RawPatch} :
    (patch table).decode.toJson = (patch table').decode.toJson ↔ table.Agrees table' := by
  simp only [decode, Record.toJson, Patch.toJson_inj, Patch.mk.injEq]
  -- In both directions the counts come first: they say which rows are compared.
  constructor
  · rintro ⟨counts, entries⟩
    rw [← counts, rows_inj] at entries
    exact (RawPatch.entries_inj counts).mp entries
  · intro agrees
    rw [← agrees.patchCount, rows_inj]
    exact ⟨rfl, (RawPatch.entries_inj agrees.patchCount).mpr agrees⟩

/-- Group attachments are written alike exactly if they count alike and have the same cells in the
rows counted. -/
theorem groupAttachment_toJson_inj :
    (groupAttachment count rids tgs lastSeen).decode.toJson =
        (groupAttachment count' rids' tgs' lastSeen').decode.toJson ↔
      countOf count = countOf count' ∧ rids.SameCells rids' 0 (countOf count) ∧
        tgs.SameCells tgs' 0 (countOf count) ∧ lastSeen.SameCells lastSeen' 0 (countOf count) := by
  simp only [decode, Record.toJson, GroupAttachment.toJson_inj, GroupAttachment.mk.injEq]
  -- As for networks, with a third column.
  refine and_congr_right fun counts => ?_
  simp only [← counts, rows_inj, Attachment.mk.injEq, imp_and, forall_and, Column.SameCells]

/-- Affiliations are written alike exactly if they count alike and have the same cells in the rows
counted. -/
theorem affiliation_toJson_inj :
    (affiliation count rids lastSeen).decode.toJson =
        (affiliation count' rids' lastSeen').decode.toJson ↔
      countOf count = countOf count' ∧ rids.SameCells rids' 0 (countOf count) ∧
        lastSeen.SameCells lastSeen' 0 (countOf count) := by
  simp only [decode, Record.toJson, Affiliation.toJson_inj, Affiliation.mk.injEq]
  -- As for networks.
  refine and_congr_right fun counts => ?_
  simp only [← counts, rows_inj, Radio.mk.injEq, imp_and, forall_and, Column.SameCells]

end Kinds

variable {e f : Raw}

/-- Events that tell the same are written alike. -/
theorem Agrees.toJson_eq (agrees : e.Agrees f) : e.decode.toJson = f.decode.toJson := by
  -- One case for each kind. The kinds without columns agree only if they are the same.
  cases agrees with
  | output line => rfl
  | call phase details => rfl
  | site site => rfl
  | signal signal => rfl
  | network counts eachFreq eachSeen => exact network_toJson_inj.mpr ⟨counts, eachFreq, eachSeen⟩
  | patch tables => exact patch_toJson_inj.mpr tables
  | groupAttachment counts eachRid eachTg eachSeen =>
    exact groupAttachment_toJson_inj.mpr ⟨counts, eachRid, eachTg, eachSeen⟩
  | affiliation counts eachRid eachSeen =>
    exact affiliation_toJson_inj.mpr ⟨counts, eachRid, eachSeen⟩

/-- Events that are written alike tell the same, if they have the same frequency. -/
theorem agrees_of_toJson (frequency : e.frequency? = f.frequency?)
    (same : e.decode.toJson = f.decode.toJson) : e.Agrees f := by
  -- The texts tell the kinds apart, so that only events of one kind are left to compare.
  have kind := Record.kind_eq_of_toJson same
  rw [kind_decode, kind_decode] at kind
  cases e with
  | output line =>
    cases f with
    | output line' =>
      obtain rfl := Value.text_inj.mp same
      exact .output line
    | _ => cases kind
  | call phase details =>
    cases f with
    | call phase' details' =>
      obtain ⟨rfl, rfl⟩ := (call_toJson_inj (Option.some.inj frequency)).mp same
      exact .call phase details
    | _ => cases kind
  | site site =>
    cases f with
    | site site' =>
      obtain rfl := Site.toJson_inj.mp same
      exact .site site
    | _ => cases kind
  | signal signal =>
    cases f with
    | signal signal' =>
      obtain rfl := Signal.toJson_inj.mp same
      exact .signal signal
    | _ => cases kind
  | network count freqs lastSeen =>
    cases f with
    | network count' freqs' lastSeen' =>
      obtain ⟨counts, eachFreq, eachSeen⟩ := network_toJson_inj.mp same
      exact .network counts eachFreq eachSeen
    | _ => cases kind
  | patch table =>
    cases f with
    | patch table' => exact .patch (patch_toJson_inj.mp same)
    | _ => cases kind
  | groupAttachment count rids tgs lastSeen =>
    cases f with
    | groupAttachment count' rids' tgs' lastSeen' =>
      obtain ⟨counts, eachRid, eachTg, eachSeen⟩ := groupAttachment_toJson_inj.mp same
      exact .groupAttachment counts eachRid eachTg eachSeen
    | _ => cases kind
  | affiliation count rids lastSeen =>
    cases f with
    | affiliation count' rids' lastSeen' =>
      obtain ⟨counts, eachRid, eachSeen⟩ := affiliation_toJson_inj.mp same
      exact .affiliation counts eachRid eachSeen
    | _ => cases kind

/-- The payloads of two events, with the same frequency if they are calls, are the same text exactly
if the events tell the same. So a payload loses what exceeds a count or the room for members, and
whether a cell is missing or has the default, and nothing else. -/
theorem payload_eq_iff (e f : Raw) (frequency : e.frequency? = f.frequency?) :
    e.decode.payload = f.decode.payload ↔ e.Agrees f := by
  -- A payload is the text of the value, and rendering is injective.
  constructor
  · exact fun same => agrees_of_toJson frequency (render_injective same)
  · exact fun agrees => congrArg Value.render agrees.toJson_eq

/-- A second frequency is lost beyond a count of one, and so is whether the time is missing or zero, but
the first frequency is not. -/
theorem networks_payload_eq :
    (network 1 (some [851012500, 7]) none).decode.payload =
        (network 1 (some [851012500]) (some [0])).decode.payload ∧
      (network 1 (some [851012500]) none).decode.payload ≠ (network 1 none none).decode.payload := by
  constructor
  · -- One row is counted, and both columns have the same cell in it.
    have freqs : Column.SameCells (some [851012500, 7]) (some [851012500]) (0 : Int64) 1 := by
      unfold Column.SameCells
      decide
    have lastSeen : Column.SameCells none (some [0]) (0 : Int64) 1 := by
      unfold Column.SameCells
      decide
    exact (payload_eq_iff _ _ (by rfl)).mpr (.network rfl freqs lastSeen)
  · -- A missing column has the default, zero, in the one row.
    intro same
    cases (payload_eq_iff _ _ (by rfl)).mp same with
    | network counts eachFreq eachSeen => exact absurd (eachFreq 0 (by decide)) (by decide)

end Raw

end Event

end TunerControl
