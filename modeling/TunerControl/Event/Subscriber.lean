import TunerControl.Event.Raw

/-! Subscribers and what their callbacks do. A callback may change the subscriptions, post events
and deliver events itself, so its reactions are actions on the dispatcher that called it. -/

namespace TunerControl.Event

/-- What a callback may do. -/
inductive Action where
  /-- Posts events to the inbox. -/
  | post (events : List Raw)
  /-- Delivers one event past the inbox. -/
  | dispatch (event : Raw)
  /-- Installs a subscriber with its reactions. -/
  | subscribe (kind : Kind) (tag : String) (reactions : List (Nat × List Action))
  /-- Clears a slot. -/
  | unsubscribe (kind : Kind)
  /-- Asks whether a slot is set. -/
  | isSubscribed (kind : Kind)
  /-- Delivers what is in the inbox. -/
  | pump
  /-- Delivers what is in the inbox, waiting for a first event. -/
  | pumpTimeout (milliseconds : Nat)

/-- What an action answers. -/
inductive Reply where
  | done
  | flag (value : Bool)
  | count (value : Nat)
  deriving DecidableEq, Repr

/-- A subscriber with a tag. Its reactions are what it does at its next deliveries: lists of
actions, each with the number of deliveries in a row that it is for. -/
structure Subscriber where
  tag : String
  reactions : List (Nat × List Action) := []

mutual

/-- The work that an action can bring about: one for itself, and one for each event it adds and
each action it installs. -/
def Action.weight : Action → Nat
  | .post events => 1 + events.length
  | .subscribe _ _ reactions => 1 + weightOfReactions reactions
  | .dispatch _ | .unsubscribe _ | .isSubscribed _ | .pump | .pumpTimeout _ => 1

/-- The work that a list of actions can bring about. -/
def weightOfActions : List Action → Nat
  | [] => 0
  | a :: rest => a.weight + weightOfActions rest

/-- The work that a list of reactions can bring about. -/
def weightOfReactions : List (Nat × List Action) → Nat
  | [] => 0
  | (times, actions) :: rest => times * weightOfActions actions + weightOfReactions rest

end

/-- The work that a subscriber can bring about. -/
def Subscriber.weight (s : Subscriber) : Nat :=
  weightOfReactions s.reactions

/-- Takes off the actions for the next delivery. What is for no delivery is passed over. -/
def nextReaction : List (Nat × List Action) → List Action × List (Nat × List Action)
  | [] => ([], [])
  | (0, _) :: rest => nextReaction rest
  | (times + 1, actions) :: rest => (actions, (times, actions) :: rest)

/-- The work of reactions is that of the next one and of what is left. -/
theorem weight_nextReaction (reactions : List (Nat × List Action)) :
    weightOfActions (nextReaction reactions).1 + weightOfReactions (nextReaction reactions).2
      = weightOfReactions reactions := by
  -- Only the front matters: it is passed over, or counted down.
  fun_induction nextReaction reactions with
  | case1 => rfl
  | case2 _ _ ih =>
    simp only [weightOfReactions, Nat.zero_mul, Nat.zero_add]
    exact ih
  | case3 times actions rest =>
    simp only [weightOfReactions, Nat.succ_mul]
    omega

/-- The actions of a subscriber at its next delivery. -/
def Subscriber.reaction (s : Subscriber) : List Action :=
  (nextReaction s.reactions).1

/-- The subscriber after its next delivery has begun. -/
def Subscriber.next (s : Subscriber) : Subscriber :=
  { s with reactions := (nextReaction s.reactions).2 }

/-- The work of a subscriber is that of its next delivery and of what is left. -/
theorem Subscriber.weight_next (s : Subscriber) :
    weightOfActions s.reaction + s.next.weight = s.weight :=
  weight_nextReaction s.reactions

/-- Every action is some work. -/
theorem Action.weight_pos (a : Action) : 0 < a.weight := by
  -- Each kind of action counts one for itself.
  cases a <;> simp only [Action.weight] <;> omega

/-- An action that adds no work is still at the cost of its own. -/
theorem Action.lt_weight_add (a : Action) {after before : Nat} (bound : after ≤ before) :
    after < a.weight + before := by
  -- The action itself is at least one.
  have positive := a.weight_pos
  omega

end TunerControl.Event
