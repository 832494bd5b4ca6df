import TunerControl.Proofs.Event.Recording

/-! Every event that is posted is handled once, in order, by a pump. -/

namespace TunerControl.Event

namespace Journal

/-- What is handled is what is taken out of the inbox. -/
theorem handlingsFrom_event (past notes : List Note) :
    (handlingsFrom past notes).map Handling.event = taken notes := by
  -- The induction is on how the handlings are read off, with one for each event that is taken out.
  fun_induction handlingsFrom past notes with
  | case1 => rfl
  | case2 past event rest ih => exact congrArg (event :: ·) ih
  | case3 past note rest other ih =>
    cases note <;> first | exact ih | exact (other _ rfl).elim

section Untaken

variable {note : Note}

/-- Only what is taken out of the inbox is handled. -/
theorem handlingsFrom_of_untaken (untaken : note.taken? = none) (past rest : List Note) :
    handlingsFrom past (note :: rest) = handlingsFrom (past ++ [note]) rest := by
  -- By definition, for every kind of note but one.
  cases note <;> first | rfl | cases untaken

/-- A note that takes nothing out has no sequel. -/
theorem sequels_of_untaken (untaken : note.taken? = none) (rest : List Note) :
    sequels (note :: rest) = sequels rest := by
  -- By definition, for every kind of note but one.
  cases note <;> first | rfl | cases untaken

end Untaken

/-- A fate takes nothing out. -/
theorem taken?_fate (journal : List Note) (event : Raw) : (fate journal event).taken? = none :=
  -- A fate begins no delivery.
  taken?_of_quiet (arrival?_of_isFate (isFate_fate journal event))

/-- What is noted right after each event that is taken out is its fate. -/
theorem Passage.sequels_eq {past notes : List Note} (passage : Passage past notes) :
    sequels notes = (handlingsFrom past notes).map Handling.fate := by
  -- The induction is on the passage, whose arrivals come together with their fates.
  induction passage with
  | stop past => rfl
  | @remark past note rest quiet plain further ih =>
    have untaken := taken?_of_quiet quiet
    rw [sequels_of_untaken untaken, handlingsFrom_of_untaken untaken, ih]
  | @arrival past note event rest arrives further ih =>
    have later : sequels (fate past event :: rest) =
        (handlingsFrom (past ++ [note]) (fate past event :: rest)).map Handling.fate := by
      have untaken := taken?_fate past event
      rw [sequels_of_untaken untaken, handlingsFrom_of_untaken untaken, ih, ← List.append_cons]
    -- What arrives past the inbox has no part in this.
    cases note with
    | taken same =>
      obtain rfl : same = event := Option.some.inj arrives
      exact congrArg (fate past same :: ·) later
    | dispatched same => exact later
    | _ => cases arrives

/-- When everything goes through the inbox, no fates are noted but those. -/
theorem Passage.filter_isFate {past notes : List Note} (passage : Passage past notes)
    (pumped : ∀ event, .dispatched event ∉ notes) : notes.filter Note.isFate = sequels notes := by
  -- The induction is on the passage. An arrival past the inbox is excluded.
  induction passage with
  | stop past => rfl
  | @remark past note rest quiet plain further ih =>
    have later := ih fun event there => pumped event (.tail _ there)
    rw [sequels_of_untaken (taken?_of_quiet quiet), List.filter_cons_of_neg (by simp [plain]), later]
  | @arrival past note event rest arrives further ih =>
    have later := ih fun event there => pumped event (.tail _ (.tail _ there))
    cases note with
    | taken same =>
      -- What is taken out has its fate as its sequel.
      show (fate past event :: rest).filter Note.isFate =
        fate past event :: sequels (fate past event :: rest)
      rw [sequels_of_untaken (taken?_fate past event),
        List.filter_cons_of_pos (isFate_fate past event), later]
    | dispatched same => exact (pumped same (.head _)).elim
    | _ => cases arrives

/-- The records of a kind that were handed out are those of the events of the kind that somebody was
subscribed to. -/
theorem handed_fates (handlings : List Handling) (kind : Kind) :
    (handlings.map Handling.fate).filterMap (Note.handed? kind) =
      (handlings.filter fun h => h.event.kind = kind && h.holder.isSome).map (·.event.decode) := by
  rw [← List.filterMap_eq_filter, List.map_filterMap, List.filterMap_map]
  -- Both sides go through the handlings one by one, and decoding keeps the kind of an event.
  refine congrArg (fun f => handlings.filterMap f) (funext fun handling => ?_)
  obtain ⟨event, holder⟩ := handling
  cases holder with
  | none => simp [Handling.fate, Note.handed?, Option.guard]
  | some tag =>
    by_cases own : event.kind = kind <;>
      simp [Handling.fate, Note.handed?, event.kind_decode, own, Option.guard]

end Journal

namespace Dispatcher

open Journal

/-- A drain leaves nothing in the inbox. -/
theorem inbox_drain (d : Dispatcher) : d.drain.2.inbox = [] := by
  cases front : d.inbox with
  | nil => rw [drain_of_nil front, front]
  | cons event rest =>
    -- The drain goes on with less work, even where a callback posted events or drained the inbox.
    have less := weight_takeOut front
    have spent := weight_deliver_le (d.takeOut event rest) event.decode
    rw [drain_of_cons front]
    exact inbox_drain _
termination_by d.weight
decreasing_by omega

/-- A pump leaves nothing in the inbox. -/
theorem inbox_pump (d : Dispatcher) : d.pump.2.inbox = [] := by
  -- It is a drain and a note.
  rw [pump_eq]
  exact d.inbox_drain

/-- A pump that waits leaves nothing in the inbox. -/
theorem inbox_pumpTimeout (d : Dispatcher) (milliseconds : Nat) :
    (d.pumpTimeout milliseconds).2.inbox = [] := by
  -- It drains what is left after the delivery of the front.
  cases front : d.inbox with
  | nil =>
    rw [pumpTimeout_of_nil front]
    exact front
  | cons event rest =>
    rw [pumpTimeout_of_cons front]
    exact inbox_drain _

/-- After every run, whatever its callbacks did: each event that was posted was taken out of the inbox
once, in order, or is still there, and a pump leaves none there. Right after an event was taken out, it
was handed to who was subscribed to its kind just then, or discarded if nobody was; nothing is handed
out or discarded otherwise, but what was dispatched past the inbox. So the records of a kind that were
handed out are those of its events that had a subscriber, in order. Other actions deliver nothing. -/
theorem afterRun_handlings (actions : List Action) : (afterRun actions).HandlesOnce := by
  -- What was written agrees with what was done, and the rest is read off the journal.
  have recorded := afterRun_recorded actions
  have sequel := recorded.passage.sequels_eq
  exact {
    once := by
      rw [handlingsFrom_event]
      exact recorded.inbox
    sequel
    caused := fun before note after split settles => by
      obtain ⟨earlier, arrival, event, same⟩ := (split ▸ recorded.passage).before_fate settles
      exact ⟨earlier, arrival, event, same⟩
    pumped := recorded.passage.filter_isFate
    handed := fun kind => by
      rw [sequel]
      exact handed_fates _ kind
    emptied := ⟨inbox_pump _, inbox_pumpTimeout _⟩
    quiet := fun e _ _ => e.journal_act }

end Dispatcher

end TunerControl.Event
