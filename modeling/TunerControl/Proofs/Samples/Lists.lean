import TunerControl.Samples.Plant

/-! Lists in which one entry is changed. -/

namespace TunerControl.Samples

variable {α β : Type}

/-- An entry of a list with one entry changed comes from the entry at its place. -/
theorem exists_of_getElem?_modify {l : List α} {n i : Nat} {f : α → α} {changed : α}
    (found : (l.modify n f)[i]? = some changed) :
    ∃ a, l[i]? = some a ∧ changed = if n = i then f a else a := by
  -- The changed entry is the old one at its place, changed or not.
  rw [List.getElem?_modify] at found
  obtain ⟨a, present, same⟩ := Option.map_eq_some_iff.mp found
  exact ⟨a, present, same.symm⟩

/-- A change of one entry that leaves alone what is looked at leaves it alone in the whole list. -/
theorem map_modify_of_same (look : α → β) {change : α → α} (same : ∀ a, look (change a) = look a)
    (l : List α) (n : Nat) : (l.modify n change).map look = l.map look := by
  -- Entry by entry: the changed one looks as before, and the others are the same.
  apply List.ext_getElem?
  intro i
  rw [List.getElem?_map, List.getElem?_map, List.getElem?_modify]
  cases l[i]? with
  | none => rfl
  | some a =>
    show some (look (if n = i then change a else a)) = some (look a)
    split
    · rw [same a]
    · rfl

/-- An entry that is looked at alike takes the place of another unnoticed. -/
theorem map_set_of_same (look : α → β) {l : List α} {n : Nat} {a b : α} (found : l[n]? = some a)
    (same : look b = look a) : (l.set n b).map look = l.map look := by
  -- Setting what is looked at to itself changes nothing.
  obtain ⟨inside, rfl⟩ := List.getElem?_eq_some_iff.mp found
  rw [List.map_set, same, ← List.map_set, List.set_getElem_self]

/-- What the entries of a list hold is what one of them holds and what the others hold, whatever
that one is changed to. -/
theorem flatMap_modify_perm (g : α → List β) {l : List α} {n : Nat} {a : α}
    (found : l[n]? = some a) :
    ∃ others, (l.flatMap g).Perm (g a ++ others) ∧
      ∀ f : α → α, ((l.modify n f).flatMap g).Perm (g (f a) ++ others) := by
  -- The entries before the changed one are passed over one by one.
  induction l generalizing n with
  | nil => simp at found
  | cons head tail ih =>
    cases n with
    | zero =>
      -- The changed entry is the first, and the others are the rest.
      have same : head = a := by simpa using found
      subst same
      exact ⟨tail.flatMap g, by simp, by simp⟩
    | succ n =>
      obtain ⟨others, before, after⟩ := ih (by simpa using found)
      -- What the first entry holds belongs to the others, and stays in front of them.
      have swap : ∀ front : List β,
          (g head ++ (front ++ others)).Perm (front ++ (g head ++ others)) := by
        intro front
        exact List.perm_append_comm_assoc (g head) front others
      refine ⟨g head ++ others, ?_, ?_⟩
      · simpa using (before.append_left (g head)).trans (swap (g a))
      · intro f
        simpa using ((after f).append_left (g head)).trans (swap (g (f a)))

/-- Changing an entry that is there puts the changed one in its place. -/
theorem modify_of_getElem? {l : List α} {n : Nat} {a : α} (found : l[n]? = some a) (change : α → α) :
    l.modify n change = l.set n (change a) := by
  -- Entry by entry: at the place itself, and elsewhere.
  apply List.ext_getElem?
  intro i
  rw [List.getElem?_modify, List.getElem?_set]
  split
  · rename_i here
    subst here
    rw [found, if_pos (List.getElem?_eq_some_iff.mp found).1]
    rfl
  · exact Option.map_id_apply

end TunerControl.Samples
