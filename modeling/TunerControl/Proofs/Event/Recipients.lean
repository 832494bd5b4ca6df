import TunerControl.Proofs.Event.Recording

/-! An event goes to whoever was installed last on its own kind when its delivery begins. -/

namespace TunerControl.Event

namespace Journal

section Installed

variable {kind : Kind} {tag : String}

/-- Whoever is installed at the end of a journal was installed in its rest, or by its first note. -/
theorem isInstalled_cons {first : Note} {rest : List Note} :
    IsInstalled (first :: rest) kind tag ↔ IsInstalled rest kind tag ∨
      first = .subscribed kind tag ∧ ∀ note ∈ rest, note.changes kind = false := by
  constructor
  · rintro ⟨before, after, split, unchanged⟩
    cases before with
    | nil =>
      -- The first note is the one that installs.
      obtain ⟨rfl, rfl⟩ := List.cons.inj split
      exact Or.inr ⟨rfl, unchanged⟩
    | cons _ before => exact Or.inl ⟨before, after, (List.cons.inj split).2, unchanged⟩
  · rintro (⟨before, after, rfl, unchanged⟩ | ⟨rfl, unchanged⟩)
    · -- A first note more does not come after what installs.
      exact ⟨first :: before, after, rfl, unchanged⟩
    · exact ⟨[], rest, rfl, unchanged⟩

/-- Only a change to the slot of a kind changes who is subscribed to it. -/
theorem holder_of_unchanged {note : Note} (unchanged : note.changes kind = false)
    (before : Option String) : note.holder kind before = before := by
  -- Of the notes about slots, only those of the kind itself say anything about it.
  cases note <;> simp_all [Note.changes, Note.holder]

/-- A change to the slot of a kind forgets who was subscribed to it before. -/
theorem holder_eq_some_iff_of_changed {note : Note} (changed : note.changes kind = true)
    (before : Option String) : note.holder kind before = some tag ↔ note = .subscribed kind tag := by
  -- The slot is either set, to somebody in particular, or cleared.
  cases note <;> simp_all [Note.changes, Note.holder, eq_comm]

/-- Whoever is subscribed in the end was installed on the way, or was subscribed from the start. -/
theorem foldl_holder_eq_some_iff (journal : List Note) (before : Option String) :
    journal.foldl (Note.holder kind) before = some tag ↔ IsInstalled journal kind tag ∨
      before = some tag ∧ ∀ note ∈ journal, note.changes kind = false := by
  -- Each note either leaves who was subscribed, or decides anew whatever was before.
  induction journal generalizing before with
  | nil => simp [IsInstalled]
  | cons first rest ih =>
    rw [List.foldl_cons, ih, isInstalled_cons]
    cases change : first.changes kind with
    | false =>
      -- A note that leaves the slot installs nobody on it.
      have other : first ≠ .subscribed kind tag := by
        rintro rfl
        simp [Note.changes] at change
      simp [holder_of_unchanged change, change, other]
    | true => simp [holder_eq_some_iff_of_changed change, change]

/-- Who is subscribed to a kind was installed on it, and neither replaced nor cleared since. -/
theorem holder?_eq_some_iff (journal : List Note) :
    holder? journal kind = some tag ↔ IsInstalled journal kind tag :=
  -- At the start nobody is subscribed.
  (foldl_holder_eq_some_iff journal none).trans (by simp)

end Installed

/-- An event is handed to whoever is installed on its own kind. -/
theorem fate_eq_called_iff (journal : List Note) (event : Raw) (tag : String) (record : Record) :
    fate journal event = .called tag record ↔
      IsInstalled journal event.kind tag ∧ event.decode = record := by
  -- The fate is read off who is subscribed to the kind of the event.
  rw [← holder?_eq_some_iff, fate]
  cases holder? journal event.kind <;> simp [Handling.fate]

/-- Changes to the slots of other kinds make no difference to who is subscribed to a kind. -/
theorem holder?_filter (journal : List Note) (kind : Kind) :
    holder? (journal.filter (Note.changes kind)) kind = holder? journal kind := by
  -- Both sides are folds, and a note that is filtered out leaves who was subscribed.
  rw [holder?, List.foldl_filter]
  refine congrArg (fun f => journal.foldl f none) (funext fun before => funext fun note => ?_)
  cases change : note.changes kind with
  | false => exact (holder_of_unchanged change before).symm
  | true => rfl

/-- Nor do they make a difference to what becomes of an event of that kind. -/
theorem fate_filter (journal : List Note) (event : Raw) :
    fate (journal.filter (Note.changes event.kind)) event = fate journal event := by
  rw [fate, holder?_filter, fate]

end Journal

namespace Dispatcher

open Journal

/-- What is written stays. -/
theorem Course.journal_grows {d after : Dispatcher} (course : Course d after) :
    d.journal <+: after.journal := by
  -- A delivery writes its arrival and its fate before its callback writes anything.
  have arrived : ∀ {d start : Dispatcher} {event : Raw} (note : Note), Arrives d event start →
      d.journal <+: start.journal ++ [note] := by
    intro d start event note arrives
    obtain ⟨arrival, -, written, -⟩ := arrives.spec
    rw [written, List.append_assoc]
    exact List.prefix_append ..
  induction course with
  | stay d => exact List.prefix_rfl
  | trans first second before later => exact before.trans later
  | discarded arrives empty => exact arrived _ arrives
  | called arrives installed during ih => exact (arrived _ arrives).trans ih
  | _ => exact List.prefix_append ..

/-- No action takes back what was written. -/
theorem journal_act_grows (d : Dispatcher) (a : Action) : d.journal <+: (d.act a).2.journal :=
  (d.act_course a).journal_grows

/-- No delivery takes back what was written. -/
theorem journal_deliver_grows (d : Dispatcher) (record : Record) :
    d.journal <+: (d.deliver record).2.journal := by
  -- The fate is written first, and then the callback goes its course.
  cases installed : d.slots record.kind with
  | none =>
    rw [deliver_of_none installed]
    exact List.prefix_append ..
  | some s =>
    rw [deliver_of_some installed]
    have entered : d.journal <+: (d.enter s record).journal := List.prefix_append ..
    exact entered.trans (perform_course _ s.tag s.reaction).journal_grows

/-- An event that is dispatched is delivered there and then. -/
theorem dispatch_delivers (d : Dispatcher) (event : Raw) :
    d.journal ++ [.dispatched event] <+: (d.act (.dispatch event)).2.journal := by
  -- The note of the dispatch comes first, and the delivery after it.
  rw [act_dispatch]
  exact journal_deliver_grows (d.note (.dispatched event)) event.decode

/-- A pump delivers the front of the inbox first, whichever way it is called. -/
theorem pump_delivers {d : Dispatcher} {event : Raw} {rest : List Raw}
    (front : d.inbox = event :: rest) (milliseconds : Nat) :
    ∀ action ∈ [Action.pump, .pumpTimeout milliseconds],
      d.journal ++ [.taken event] <+: (d.act action).2.journal := by
  have delivered := journal_deliver_grows (d.takeOut event rest) event.decode
  have drained := (drain_course ((d.takeOut event rest).deliver event.decode).2).journal_grows
  intro action pumps
  simp only [List.mem_cons, List.not_mem_nil, or_false] at pumps
  rcases pumps with rfl | rfl
  · -- A pump delivers the front, then drains, then notes the number.
    rw [act_pump, pump_eq, drain_of_cons front]
    exact (delivered.trans drained).trans (List.prefix_append ..)
  · rw [act_pumpTimeout, pumpTimeout_of_cons front]
    exact (delivered.trans drained).trans (List.prefix_append ..)

/-- A slot is set exactly while a subscriber is installed. -/
theorem Recorded.isSubscribed_iff {d : Dispatcher} (recorded : Recorded d) (kind : Kind) :
    d.isSubscribed kind = true ↔ ∃ tag, IsInstalled d.journal kind tag := by
  -- The journal tells who is in each slot.
  have agree := recorded.slots kind
  rw [isSubscribed, ← Option.isSome_map (f := Subscriber.tag), agree, Option.isSome_iff_exists]
  exact exists_congr fun tag => holder?_eq_some_iff _

/-- A change to the slot of a kind makes no difference to another kind. -/
theorem change_elsewhere (d : Dispatcher) {kind other : Kind} (different : other ≠ kind)
    (s : Subscriber) : ∀ after ∈ [d.subscribe kind s, d.unsubscribe kind],
      after.slots other = d.slots other ∧ after.isSubscribed other = d.isSubscribed other ∧
      ∀ event, event.kind = other → fate after.journal event = fate d.journal event := by
  -- Both are a change to the one slot and a note of it.
  have change : ∀ (subscriber : Option Subscriber) (note : Note), note.changes other = false →
      let after := (d.setSlot kind subscriber).note note
      after.slots other = d.slots other ∧ after.isSubscribed other = d.isSubscribed other ∧
      ∀ event, event.kind = other → fate after.journal event = fate d.journal event := by
    intro subscriber note unchanged after
    have same : after.slots other = d.slots other := if_neg different
    refine ⟨same, congrArg Option.isSome same, ?_⟩
    rintro event rfl
    have written : after.journal = d.journal ++ [note] := rfl
    rw [written, fate, holder?_concat, holder_of_unchanged unchanged, fate]
  have elsewhere : decide (kind = other) = false := decide_eq_false different.symm
  intro after changed
  simp only [List.mem_cons, List.not_mem_nil, or_false] at changed
  rcases changed with rfl | rfl
  · exact change (some s) _ elsewhere
  · exact change none _ elsewhere

/-- After every run, whatever its callbacks did: right after the delivery of an event begins, it is
handed to one subscriber or discarded, and nothing is handed out or discarded otherwise. It is handed to
whoever was installed on its own kind by then, and neither replaced nor cleared since. What is written
stays, so that later changes come too late for it, and changes to the slots of other kinds make no
difference to it. A slot is set exactly while a subscriber is installed on its kind, and a change to it
is none to the slots of other kinds. Dispatching an event and pumping begin a delivery at once. -/
theorem afterRun_recipients (actions : List Action) : (afterRun actions).DeliversToHolder := by
  -- What was written agrees with what was done, which settles all that the journal can say.
  have recorded := afterRun_recorded actions
  exact {
    decided := fun before note after event split arrives => by
      obtain ⟨rest, same⟩ := (split ▸ recorded.passage).after_arrival arrives
      exact ⟨rest, same⟩
    caused := fun before note after split settles => by
      obtain ⟨earlier, arrival, event, found⟩ := (split ▸ recorded.passage).before_fate settles
      exact ⟨earlier, arrival, event, found⟩
    recipient := fate_eq_called_iff
    separate := fate_filter
    subscribed := recorded.isSubscribed_iff
    grows := fun e action => ⟨e.journal_act_grows action, fun notes => e.journal_act⟩
    dispatched := dispatch_delivers
    pumped := fun e event rest milliseconds front => pump_delivers front milliseconds
    elsewhere := fun e kind other s different => e.change_elsewhere different s }

end Dispatcher

end TunerControl.Event
