import TunerControl.Proofs.Event.Course

/-! The journal tells what becomes of each event right after its delivery begins, and it agrees with
the slots and the inbox at every point. -/

namespace TunerControl.Event

namespace Journal

/-- The holder of a slot is updated by each note. -/
theorem holder?_concat (journal : List Note) (note : Note) (kind : Kind) :
    holder? (journal ++ [note]) kind = note.holder kind (holder? journal kind) := by
  -- The holder is folded over the journal, and the note comes last.
  rw [holder?, List.foldl_append]
  rfl

/-- A note adds the event that it posts, if it posts one. -/
theorem posted_concat (journal : List Note) (note : Note) :
    posted (journal ++ [note]) = posted journal ++ note.posted?.toList := by
  -- Only one kind of note posts an event.
  rw [posted, List.filterMap_append]
  cases note <;> rfl

/-- A note adds the event that it takes out, if it takes one out. -/
theorem taken_concat (journal : List Note) (note : Note) :
    taken (journal ++ [note]) = taken journal ++ note.taken?.toList := by
  -- Only one kind of note takes an event out.
  rw [taken, List.filterMap_append]
  cases note <;> rfl

/-- A note that no delivery begins with takes nothing out of the inbox. -/
theorem taken?_of_quiet {note : Note} (quiet : note.arrival? = none) : note.taken? = none := by
  -- A note that takes an event out begins a delivery.
  cases note <;> first | rfl | cases quiet

section Arrivals

variable {note : Note} {event : Raw}

/-- The beginning of a delivery is no change to a slot. -/
theorem holder_of_arrival (arrives : note.arrival? = some event) (kind : Kind)
    (before : Option String) : note.holder kind before = before := by
  -- Two kinds of notes begin a delivery, and neither is about a slot.
  cases note <;> first | rfl | cases arrives

/-- The beginning of a delivery posts nothing. -/
theorem posted?_of_arrival (arrives : note.arrival? = some event) : note.posted? = none := by
  cases note <;> first | rfl | cases arrives

/-- The beginning of a delivery does not say what becomes of the event. -/
theorem isFate_of_arrival (arrives : note.arrival? = some event) : note.isFate = false := by
  cases note <;> first | rfl | cases arrives

end Arrivals

section Fates

variable {note : Note}

/-- What becomes of an event is a fate. -/
theorem isFate_fate (journal : List Note) (event : Raw) : (fate journal event).isFate = true := by
  -- It is either handed to the holder of the slot or discarded.
  unfold fate Handling.fate
  split <;> rfl

/-- What becomes of an event is no change to a slot. -/
theorem holder_of_isFate (settles : note.isFate = true) (kind : Kind) (before : Option String) :
    note.holder kind before = before := by
  -- Two kinds of notes tell of a fate, and neither is about a slot.
  cases note <;> first | rfl | cases settles

/-- A fate posts nothing. -/
theorem posted?_of_isFate (settles : note.isFate = true) : note.posted? = none := by
  cases note <;> first | rfl | cases settles

/-- A fate begins no delivery. -/
theorem arrival?_of_isFate (settles : note.isFate = true) : note.arrival? = none := by
  cases note <;> first | rfl | cases settles

end Fates

/-- What is written from a point on: the fate of each event is noted right after its delivery begins,
and no fate is noted elsewhere. -/
inductive Passage : (past notes : List Note) → Prop where
  | stop (past : List Note) : Passage past []
  | remark {past : List Note} {note : Note} {rest : List Note} (quiet : note.arrival? = none)
      (plain : note.isFate = false) (further : Passage (past ++ [note]) rest) :
      Passage past (note :: rest)
  | arrival {past : List Note} {note : Note} {event : Raw} {rest : List Note}
      (arrives : note.arrival? = some event)
      (further : Passage (past ++ [note, fate past event]) rest) :
      Passage past (note :: fate past event :: rest)

/-- A passage that goes on where another one stops makes a longer one with it. -/
theorem Passage.append {past notes more : List Note} (first : Passage past notes)
    (second : Passage (past ++ notes) more) : Passage past (notes ++ more) := by
  -- The past of the second one grows by each note that the first one is taken apart by.
  induction first with
  | stop past => simpa using second
  | remark quiet plain _ ih => exact .remark quiet plain (ih (by simpa using second))
  | arrival arrives _ ih => exact .arrival arrives (ih (by simpa using second))

namespace Passage

variable {past notes before after : List Note}

/-- A passage is cut between a delivery's beginning and its fate, or the rest is a passage again. -/
theorem cut (passage : Passage past notes) (split : notes = before ++ after) :
    Passage (past ++ before) after ∨ ∃ earlier arrival event rest, before = earlier ++ [arrival] ∧
      arrival.arrival? = some event ∧ after = fate (past ++ earlier) event :: rest := by
  -- The cut comes before the next note, between an arrival and its fate, or later.
  induction passage generalizing before with
  | stop past =>
    obtain ⟨rfl, rfl⟩ := List.append_eq_nil_iff.mp split.symm
    exact Or.inl (.stop _)
  | @remark past first rest quiet plain further ih =>
    match before with
    | [] =>
      obtain rfl : first :: rest = after := split
      exact Or.inl ((List.append_nil past).symm ▸ .remark quiet plain further)
    | _ :: before =>
      obtain ⟨rfl, tail⟩ := List.cons.inj split
      rcases ih tail with later | ⟨earlier, arrival, event, rest, rfl, arrives, same⟩
      · exact Or.inl (by simpa using later)
      · exact Or.inr ⟨first :: earlier, arrival, event, rest, rfl, arrives, by simpa using same⟩
  | @arrival past first event rest arrives further ih =>
    match before with
    | [] =>
      -- The cut is before the arrival, so that the whole passage is the rest.
      obtain rfl : first :: fate past event :: rest = after := split
      exact Or.inl ((List.append_nil past).symm ▸ .arrival arrives further)
    | [_] =>
      -- The cut is between the arrival and its fate.
      obtain ⟨rfl, tail⟩ := List.cons.inj split
      exact Or.inr ⟨[], first, event, rest, rfl, arrives, (List.append_nil past).symm ▸ tail.symm⟩
    | _ :: second :: before =>
      -- The cut is behind the fate, in the passage that goes on there.
      obtain ⟨rfl, tail⟩ := List.cons.inj split
      obtain ⟨same, tail⟩ := List.cons.inj tail
      rcases ih tail with later | ⟨earlier, arrival, event, rest, rfl, arrives, same⟩
      · exact Or.inl (by simpa [same] using later)
      · exact Or.inr ⟨first :: second :: earlier, arrival, event, rest, rfl, arrives,
          by simp_all⟩

variable {note : Note}

/-- Right after the beginning of a delivery, the fate of the event is noted. -/
theorem after_arrival (passage : Passage past (before ++ note :: after)) {event : Raw}
    (arrives : note.arrival? = some event) :
    ∃ rest, after = fate (past ++ before) event :: rest := by
  -- The passage is cut before the note, and what goes on there begins with an arrival.
  rcases passage.cut rfl with later | ⟨earlier, arrival, other, rest, -, -, same⟩
  · cases later with
    | remark quiet plain further => cases quiet.symm.trans arrives
    | @arrival _ _ other rest begins further =>
      obtain rfl : other = event := Option.some.inj (begins.symm.trans arrives)
      exact ⟨rest, rfl⟩
  · -- A fate is no beginning of a delivery.
    obtain ⟨rfl, -⟩ := List.cons.inj same
    cases (arrival?_of_isFate (isFate_fate _ other)).symm.trans arrives

/-- A fate is noted right after the beginning of the delivery. -/
theorem before_fate (passage : Passage past (before ++ note :: after))
    (settles : note.isFate = true) : ∃ earlier arrival event, before = earlier ++ [arrival] ∧
      arrival.arrival? = some event ∧ note = fate (past ++ earlier) event := by
  -- The passage is cut before the fate, which can only be behind an arrival.
  rcases passage.cut rfl with later | ⟨earlier, arrival, event, rest, split, arrives, same⟩
  · -- No passage begins with a fate.
    cases later with
    | remark quiet plain further => cases plain.symm.trans settles
    | arrival begins further => cases (isFate_of_arrival begins).symm.trans settles
  · exact ⟨earlier, arrival, event, split, arrives, (List.cons.inj same).1⟩

end Passage

end Journal

namespace Dispatcher

open Journal

/-- What an arrival changes: the front of the inbox may be gone. -/
theorem Arrives.spec {d start : Dispatcher} {event : Raw} (arrives : Arrives d event start) :
    ∃ note, note.arrival? = some event ∧ start.journal = d.journal ++ [note] ∧
      start.slots = d.slots ∧ d.inbox = note.taken?.toList ++ start.inbox := by
  -- Out of the inbox, its front is gone. Past it, the inbox stays as it is.
  cases arrives with
  | taken front => exact ⟨.taken event, rfl, rfl, rfl, front⟩
  | dispatched => exact ⟨.dispatched event, rfl, rfl, rfl, rfl⟩

/-- The journal of a dispatcher is well formed, tells who is in the slots, and accounts for the
inbox. -/
structure Recorded (d : Dispatcher) : Prop where
  passage : Passage [] d.journal
  slots : ∀ kind, (d.slots kind).map Subscriber.tag = holder? d.journal kind
  inbox : taken d.journal ++ d.inbox = posted d.journal

namespace Recorded

variable {d start after : Dispatcher}

/-- The journal of a new dispatcher is empty, as are its slots and its inbox. -/
theorem initial : Recorded { } :=
  ⟨.stop [], fun _ => rfl, rfl⟩

/-- A note that is not about a delivery is accounted for if the slots and the inbox follow it. -/
theorem remark (recorded : Recorded d) {note : Note} (quiet : note.arrival? = none)
    (plain : note.isFate = false) (journal : after.journal = d.journal ++ [note])
    (slots : ∀ kind, (after.slots kind).map Subscriber.tag =
      note.holder kind ((d.slots kind).map Subscriber.tag))
    (inbox : after.inbox = d.inbox ++ note.posted?.toList) : Recorded after where
  -- The passage goes on by one remark, and the slots and the inbox by what it tells of them.
  passage := by
    rw [journal]
    exact recorded.passage.append (.remark quiet plain (.stop _))
  slots kind := by rw [slots, recorded.slots, journal, holder?_concat]
  inbox := by
    rw [journal, inbox, posted_concat, taken_concat, taken?_of_quiet quiet, Option.toList_none,
      List.append_nil, ← List.append_assoc, recorded.inbox]

/-- What becomes of an event that arrives is for the subscriber in its slot. -/
theorem fate_eq (recorded : Recorded d) {event : Raw} (arrives : Arrives d event start) :
    fate d.journal event =
      Handling.fate ⟨event, (start.slots event.decode.kind).map Subscriber.tag⟩ := by
  -- The journal tells who is in the slot, and the arrival does not change that.
  obtain ⟨note, -, -, same, -⟩ := arrives.spec
  rw [same, recorded.slots, event.kind_decode, fate]

/-- An arrival is accounted for once its fate is written. -/
theorem arrival (recorded : Recorded d) {event : Raw} (arrives : Arrives d event start)
    (journal : after.journal = start.journal ++ [fate d.journal event])
    (slots : ∀ kind, (after.slots kind).map Subscriber.tag =
      (start.slots kind).map Subscriber.tag)
    (inbox : after.inbox = start.inbox) : Recorded after := by
  obtain ⟨note, begins, written, same, front⟩ := arrives.spec
  have settles := isFate_fate d.journal event
  rw [written] at journal
  refine ⟨?_, fun kind => ?_, ?_⟩
  · -- The arrival and the fate come together.
    rw [journal, List.append_assoc]
    exact recorded.passage.append (.arrival begins (.stop _))
  · -- Neither the arrival nor the fate is about a slot.
    rw [slots, same, journal, holder?_concat, holder_of_isFate settles, holder?_concat,
      holder_of_arrival begins, recorded.slots]
  · -- At most the front of the inbox is gone.
    have accounted := recorded.inbox
    rw [front] at accounted
    rw [journal, inbox, posted_concat, taken_concat, posted?_of_isFate settles,
      taken?_of_quiet (arrival?_of_isFate settles), posted_concat, taken_concat,
      posted?_of_arrival begins, ← accounted]
    simp

end Recorded

/-- Events that are posted are noted one by one. -/
theorem journal_postAll (d : Dispatcher) (events : List Raw) :
    (d.postAll events).journal = d.journal ++ events.map .posted := by
  -- By induction on the events: the first one is noted in front of the others.
  induction events generalizing d with
  | nil => exact (List.append_nil _).symm
  | cons event rest ih =>
    have later := ih (d.post event)
    rw [post, note, List.append_assoc] at later
    exact later

/-- An action that delivers nothing is only noted. -/
theorem journal_act (d : Dispatcher) {a : Action} {notes : List Note} (aside : a.notes? = some notes) :
    (d.act a).2.journal = d.journal ++ notes := by
  -- The actions that are noted and no more. A delivery is none of them.
  cases a with
  | post events =>
    obtain rfl : events.map .posted = notes := by simpa [Action.notes?] using aside
    rw [act_post]
    exact d.journal_postAll events
  | subscribe kind tag reactions =>
    obtain rfl : [.subscribed kind tag] = notes := by simpa [Action.notes?] using aside
    rw [act_subscribe]
    rfl
  | unsubscribe kind =>
    obtain rfl : [.unsubscribed kind] = notes := by simpa [Action.notes?] using aside
    rw [act_unsubscribe]
    rfl
  | isSubscribed kind =>
    obtain rfl : [] = notes := by simpa [Action.notes?] using aside
    rw [act_isSubscribed, List.append_nil]
  | dispatch event => simp [Action.notes?] at aside
  | pump => simp [Action.notes?] at aside
  | pumpTimeout milliseconds => simp [Action.notes?] at aside

/-- The tag in a slot after a change to one. -/
theorem tag_setSlot (d : Dispatcher) (kind : Kind) (subscriber : Option Subscriber) (k : Kind) :
    ((d.setSlot kind subscriber).slots k).map Subscriber.tag =
      if k = kind then subscriber.map Subscriber.tag else (d.slots k).map Subscriber.tag := by
  -- The slot that is changed is told apart from the others by its kind.
  simp only [setSlot]
  split <;> rfl

/-- Whatever happens at a dispatcher is written into its journal. -/
theorem Course.recorded {d after : Dispatcher} (course : Course d after) (recorded : Recorded d) :
    Recorded after := by
  -- The induction is on the course, which goes into the callbacks.
  induction course with
  | stay d => exact recorded
  | trans first second before later => exact later (before recorded)
  | post d event => exact recorded.remark rfl rfl rfl (fun _ => rfl) rfl
  | subscribe d kind s =>
    refine recorded.remark rfl rfl rfl (fun k => (d.tag_setSlot kind (some s) k).trans ?_)
      (List.append_nil _).symm
    simp only [eq_comm]
    rfl
  | unsubscribe d kind =>
    refine recorded.remark rfl rfl rfl (fun k => (d.tag_setSlot kind none k).trans ?_)
      (List.append_nil _).symm
    simp only [eq_comm]
    rfl
  | did d tag reply => exact recorded.remark rfl rfl rfl (fun _ => rfl) (List.append_nil _).symm
  | pumped d handled => exact recorded.remark rfl rfl rfl (fun _ => rfl) (List.append_nil _).symm
  | @discarded d start event arrives empty =>
    refine recorded.arrival arrives ?_ (fun _ => rfl) rfl
    rw [recorded.fate_eq arrives, empty]
    rfl
  | @called d start after event s arrives installed during ih =>
    have entered : Recorded (start.enter s event.decode) := by
      refine recorded.arrival arrives ?_ (fun k => ?_) rfl
      · rw [recorded.fate_eq arrives, installed]
        rfl
      · -- The subscriber stays, with its next reactions.
        refine (start.tag_setSlot _ _ k).trans ?_
        split
        · rename_i own
          rw [own, installed]
          rfl
        · rfl
    obtain ⟨passage, slots, inbox⟩ := ih entered
    exact ⟨passage, slots, inbox⟩

/-- The journal of a dispatcher is right after every run. -/
theorem afterRun_recorded (actions : List Action) : Recorded (afterRun actions) :=
  -- A new dispatcher is recorded, and the run goes a course from there.
  (afterAll_course _ actions).recorded .initial

end Dispatcher

end TunerControl.Event
