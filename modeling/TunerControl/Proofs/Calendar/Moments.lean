import TunerControl.Proofs.Calendar.Texts

/-! Moments from seconds: what is calculated at once is what the clock comes to second by second, and its
text denotes those seconds and no others. -/

namespace TunerControl.Calendar

/-- The moment some seconds after the start of 1970, as it is calculated. -/
def momentAfter (seconds : Nat) : Moment :=
  { date := dateOfDay (epochDay + seconds / 86400)
    hour := seconds / 3600 % 24
    minute := seconds / 60 % 60
    second := seconds % 60 }

/-- One more second takes the clock one second further. -/
theorem momentAfter_succ (seconds : Nat) : momentAfter (seconds + 1) = (momentAfter seconds).next := by
  have second : (momentAfter seconds).second = seconds % 60 := rfl
  have minute : (momentAfter seconds).minute = seconds / 60 % 60 := rfl
  have hour : (momentAfter seconds).hour = seconds / 3600 % 24 := rfl
  have date : (momentAfter seconds).date = dateOfDay (epochDay + seconds / 86400) := rfl
  -- The day is over only when hour, minute and second are, and otherwise goes on.
  have day : seconds % 60 < 59 ∨ seconds / 60 % 60 < 59 ∨ seconds / 3600 % 24 < 23 →
      (seconds + 1) / 86400 = seconds / 86400 := by omega
  rw [Moment.next, second, minute, hour, date]
  split_ifs with within turn late
  · -- The minute goes on.
    rw [momentAfter, day (.inl within), Moment.mk.injEq]
    refine ⟨rfl, ?_, ?_, ?_⟩ <;> omega
  · -- The minute is full, and the hour goes on.
    rw [momentAfter, day (.inr (.inl turn)), Moment.mk.injEq]
    refine ⟨rfl, ?_, ?_, ?_⟩ <;> omega
  · -- The hour is full, and the day goes on.
    rw [momentAfter, day (.inr (.inr late)), Moment.mk.injEq]
    refine ⟨rfl, ?_, ?_, ?_⟩ <;> omega
  · -- The next day begins, on the next date.
    have midnight : epochDay + (seconds + 1) / 86400 = epochDay + seconds / 86400 + 1 := by omega
    rw [momentAfter, midnight, dateOfDay_succ, Moment.mk.injEq]
    refine ⟨rfl, ?_, ?_, ?_⟩ <;> omega

/-- The clock comes to the moment that is calculated. -/
theorem later_epoch (seconds : Nat) : epoch.later seconds = momentAfter seconds := by
  -- Both start at the epoch, and both go on second by second.
  induction seconds with
  | zero => decide
  | succ seconds ih => rw [momentAfter_succ, ← ih, Moment.later]

/-- What is calculated is on a date of the calendar, at a time of the day. -/
theorem isValid_momentAfter (seconds : Nat) : (momentAfter seconds).isValid = true := by
  -- Hour, minute and second are remainders.
  rw [Moment.isValid_iff]
  exact ⟨isValid_dateOfDay _, Nat.mod_lt _ (by decide), Nat.mod_lt _ (by decide),
    Nat.mod_lt _ (by decide)⟩

/-- The seconds are counted back from what is calculated. -/
theorem toEpoch_momentAfter (seconds : Nat) : (momentAfter seconds).toEpoch = seconds := by
  -- The day is counted back from the date, and the remainders make up the rest of it.
  simp only [Moment.toEpoch, momentAfter, toDay_dateOfDay]
  omega

/-- The text of what is calculated denotes the seconds. -/
theorem denotes_momentAfter {seconds : Int} (nonneg : 0 ≤ seconds) :
    Denotes (momentAfter seconds.toNat).text seconds := by
  -- The text is read as the moment, which the clock comes to and which is counted back.
  have valid := isValid_momentAfter seconds.toNat
  refine ⟨_, Moment.ofText?_text valid, valid, later_epoch _, ?_⟩
  rw [toEpoch_momentAfter]
  exact Int.toNat_of_nonneg nonneg

/-- A text denotes no more than one number of seconds. -/
theorem Denotes.unique {text : String} {seconds others : Int} (denotes : Denotes text seconds)
    (too : Denotes text others) : seconds = others := by
  -- It is of one moment, from which both are counted.
  obtain ⟨m, read, -, -, rfl⟩ := denotes
  obtain ⟨n, again, -, -, rfl⟩ := too
  rw [read] at again
  rw [Option.some.inj again]

/-- What keeps to the calendar comes to the moment that the clock comes to. -/
theorem KeepsTime.eq_later {convert : Nat → Option Moment} (keeps : KeepsTime convert) {seconds : Nat}
    (within : seconds ≤ lastSecond) : convert seconds = some (epoch.later seconds) := by
  -- Both begin with the epoch, and both go on second by second.
  induction seconds with
  | zero => exact keeps.start
  | succ seconds ih =>
    push_cast at within
    exact keeps.goesOn seconds _ (by omega) (ih (by omega))

/-- What is calculated keeps to the calendar. -/
theorem ofTimestamp?_keepsTime : KeepsTime ofTimestamp? where
  start := by decide
  goesOn seconds m within converted := by
    -- Neither second is out of the range, and the clock goes from the one to the other.
    rw [ofTimestamp?, if_neg (by omega)] at converted ⊢
    obtain rfl : momentAfter seconds = m := Option.some.inj converted
    exact congrArg some (momentAfter_succ seconds)
  ends _ beyond := if_pos beyond

/-- The clock itself, asked for the moment some seconds after the start of 1970. -/
def clock? (seconds : Nat) : Option Moment :=
  if lastSecond < seconds then none else some (epoch.later seconds)

/-- The clock keeps to the calendar. -/
theorem clock?_keepsTime : KeepsTime clock? where
  start := rfl
  goesOn seconds m within converted := by
    -- The clock goes on by its own definition.
    rw [clock?, if_neg (by omega)] at converted ⊢
    obtain rfl : epoch.later seconds = m := Option.some.inj converted
    rfl
  ends _ beyond := if_pos beyond

/-- There is only one way to keep to the calendar. -/
theorem KeepsTime.eq_ofTimestamp? {convert : Nat → Option Moment} (keeps : KeepsTime convert) :
    convert = ofTimestamp? := by
  -- In the range both come to what the clock comes to, and beyond it neither comes to anything.
  funext seconds
  by_cases beyond : lastSecond < seconds
  · rw [keeps.ends seconds beyond, ofTimestamp?_keepsTime.ends seconds beyond]
  · have within := Int.not_lt.mp beyond
    rw [keeps.eq_later within, ofTimestamp?_keepsTime.eq_later within]

/-- Some seconds are told by the moment that they are calculated to, in the range of the calendar. -/
theorem momentOfEpoch?_tells (seconds : Int) : Tells seconds (momentOfEpoch? seconds) := by
  rw [momentOfEpoch?, momentBy?]
  -- Out of the range nothing is told, and nothing is to be denoted.
  split_ifs with early
  · exact ⟨by simp [early], by simp⟩
  · have whole : (seconds.toNat : Int) = seconds := Int.toNat_of_nonneg (by omega)
    rw [ofTimestamp?, whole, lastSecond]
    split_ifs with late
    · exact ⟨by simp [late], by simp⟩
    · refine ⟨by simp [early, late], ?_⟩
      rintro m ⟨⟩
      exact denotes_momentAfter (by omega)

example : (momentOfEpoch? lastSecond).map Moment.text = some "+262142-12-31T23:59:59+00:00" := by
  decide +kernel

end TunerControl.Calendar
