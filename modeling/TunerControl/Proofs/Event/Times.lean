import TunerControl.Event.Record
import TunerControl.Proofs.Calendar.Moments

/-! The times in records: when an entry was last updated, and when a radio was last seen. -/

namespace TunerControl.Event

open Calendar (Denotes KeepsTime Moment Tells clock? clock?_keepsTime momentBy? momentOfEpoch?
  momentOfEpoch?_tells)

/-- Seconds of any size are told for what they are, and so are the times in records: nothing is told of
those up to the start of 1970 and of those after year 262142, and of any others a moment whose text is
of a date of the calendar and a time of the day, so many seconds after the start of 1970. Different
seconds have different texts. Whatever else converts the seconds after the start of 1970 tells the same,
as long as it keeps to the calendar. -/
theorem times_told :
    (∀ seconds : Int64, Tells seconds.toInt (momentOfEpoch? seconds.toInt)) ∧
      (∀ e : PatchEntry, Tells e.lastUpdate.toInt e.lastUpdateAt) ∧
      (∀ a : Attachment, Tells a.lastSeen.toInt a.lastSeenAt) ∧
      (∀ r : Radio, Tells r.lastSeen.toInt r.lastSeenAt) ∧
      (∀ (seconds others : Int64) (m n : Moment), momentOfEpoch? seconds.toInt = some m →
        momentOfEpoch? others.toInt = some n → m.text = n.text → seconds = others) ∧
      ∀ convert, KeepsTime convert → ∀ seconds : Int64,
        momentBy? convert seconds.toInt = momentOfEpoch? seconds.toInt := by
  -- All three fields are told by the same function of the seconds.
  refine ⟨fun seconds => momentOfEpoch?_tells _, fun e => momentOfEpoch?_tells _,
    fun a => momentOfEpoch?_tells _, fun r => momentOfEpoch?_tells _, ?_, ?_⟩
  · -- One text cannot denote both.
    intro seconds others m n told too same
    have denoted := (momentOfEpoch?_tells seconds.toInt).denotes m told
    have again := (momentOfEpoch?_tells others.toInt).denotes n too
    rw [← same] at again
    exact Int64.toInt_inj.mp (denoted.unique again)
  · -- There is only one way to keep to the calendar.
    intro convert keeps seconds
    rw [keeps.eq_ofTimestamp?]
    rfl

/-- The last second of the last year with four digits and the first one of the next year are told, the
one without a sign and the other with it. A clock that goes on second by second comes to the same. -/
theorem turn_of_fifth_digit_told :
    let last : Moment := ⟨⟨9999, 12, 31⟩, 23, 59, 59⟩
    let first : Moment := ⟨⟨10000, 1, 1⟩, 0, 0, 0⟩
    momentOfEpoch? (253402300799 : Int64).toInt = some last ∧
      momentOfEpoch? (253402300800 : Int64).toInt = some first ∧
      Denotes last.text 253402300799 ∧ Denotes first.text 253402300800 ∧ last.text ≠ first.text ∧
      momentBy? clock? (253402300800 : Int64).toInt = some first := by
  -- The two moments are computed, and all else about them is known from the theorem.
  intro last first
  have ended : momentOfEpoch? (253402300799 : Int64).toInt = some last := by decide +kernel
  have begun : momentOfEpoch? (253402300800 : Int64).toInt = some first := by decide +kernel
  obtain ⟨told, -, -, -, apart, unique⟩ := times_told
  refine ⟨ended, begun, (told 253402300799).denotes last ended,
    (told 253402300800).denotes first begun, ?_, ?_⟩
  · intro same
    exact absurd (apart _ _ _ _ ended begun same) (by decide)
  · rw [unique clock? clock?_keepsTime]
    exact begun

end TunerControl.Event
