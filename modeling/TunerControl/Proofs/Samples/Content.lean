import TunerControl.Proofs.Samples.Change
import TunerControl.Samples.Edit

/-! What edits make of the content of a buffer. Valid bytes depend on what was written since the buffer
was lent, and not on what was in its block before. -/

namespace TunerControl.Samples

/-- Nothing is marked as valid where nothing is done. -/
theorem covered_nil (capacity : Nat) : Covered capacity [] := by
  -- Nothing is in an empty list.
  intro before length after split
  simp at split

/-- The last edit is covered if it marks only what the others have written. -/
theorem covered_concat {capacity : Nat} {edits : List Edit} {e : Edit} :
    Covered capacity (edits ++ [e]) ↔ Covered capacity edits ∧
      ∀ length, e = .setLength length → ∀ i < min length capacity, Written capacity edits i := by
  constructor
  · -- A part of the edits comes before the same edits as it does among all.
    intro covered
    refine ⟨?_, ?_⟩
    · intro before length after split
      exact covered before length (after ++ [e]) (by rw [split, List.append_assoc]; rfl)
    · rintro length rfl
      exact covered edits length [] rfl
  · rintro ⟨covered, last⟩ before length after split
    -- What marks bytes is the last edit, or one of the others.
    rcases List.eq_nil_or_concat after with rfl | ⟨others, d, rfl⟩
    · obtain ⟨same, marks⟩ := List.append_inj' split rfl
      rw [← same]
      exact last length (List.singleton_inj.mp marks)
    · rw [List.concat_eq_append, ← List.cons_append, ← List.append_assoc] at split
      exact covered before length others (List.append_inj' split rfl).1

namespace Buffer

variable {a b : Buffer}

/-- An edit leaves the size of the storage alone. -/
theorem apply_sameLoan (b : Buffer) (e : Edit) : SameLoan (b.apply e) b := by
  -- An edit changes what is in the block and how much of it is valid, and nothing else.
  cases e with
  | fill source => exact b.fill_sameLoan source
  | write start source => exact b.write_sameLoan start source
  | setLength length => exact b.setLength_sameLoan length

/-- The last edit comes after all the others. -/
theorem applyAll_concat (b : Buffer) (edits : List Edit) (e : Edit) :
    b.applyAll (edits ++ [e]) = (b.applyAll edits).apply e := by
  rw [applyAll, List.foldl_append]
  rfl

/-- Edits leave the size of the storage alone. -/
theorem capacity_applyAll (b : Buffer) (edits : List Edit) :
    (b.applyAll edits).capacity = b.capacity := by
  -- The last edit finds a buffer that agrees with all edits before it.
  induction edits using List.reverseRecOn with
  | nil => rfl
  | append_singleton edits e ih =>
    rw [applyAll_concat]
    exact ((b.applyAll edits).apply_sameLoan e).capacity.trans ih

/-- No edit marks more bytes as valid than there are. -/
theorem length_apply_le (within : b.length ≤ b.capacity) (e : Edit) :
    (b.apply e).length ≤ (b.apply e).capacity := by
  -- Filling copies no more than fits, and marking is cut off at the end.
  rw [(b.apply_sameLoan e).capacity]
  cases e with
  | fill source =>
    simp only [apply, fill, List.length_take]
    omega
  | write start source => exact within
  | setLength length => exact Nat.min_le_right _ _

/-- Valid bytes are as many as are marked. -/
theorem length_bytes (within : b.length ≤ b.capacity) : b.bytes.length = b.length := by
  -- The storage has at least as many.
  rw [bytes, List.length_take]
  exact Nat.min_eq_left within

/-- A buffer that is filled shows what it was filled from, as far as that fits. -/
theorem bytes_fill (b : Buffer) (source : Bytes) :
    (b.fill source).bytes = source.take b.capacity := by
  -- As many bytes are marked as were copied.
  simp only [bytes, fill]
  exact List.take_left' rfl

/-- Filling writes from the start on, as far as the source and the storage go. -/
theorem block_fill (b : Buffer) (source : Bytes) (i : Nat) :
    (b.fill source).block[i]? =
      if i < min source.length b.capacity then source[i]? else b.block[i]? := by
  -- Behind the copied bytes, the block is as it was.
  simp only [fill, List.getElem?_append, List.length_take, capacity, List.getElem?_take,
    List.getElem?_drop]
  grind

/-- Writing puts the source at its place, as far as the storage goes. -/
theorem block_write (b : Buffer) (start : Nat) (source : Bytes) (i : Nat) :
    (b.write start source).block[i]? =
      if start ≤ i ∧ i < min (start + source.length) b.capacity then source[i - start]?
      else b.block[i]? := by
  -- The new block has what was in front, the copied bytes, and what was behind them.
  simp only [write, List.getElem?_append, List.length_append, List.length_take, capacity,
    List.getElem?_take, List.getElem?_drop]
  grind

/-- An edit leaves every position alone that it does not write to. -/
theorem block_apply_of_unwritten (b : Buffer) {e : Edit} {i : Nat}
    (unwritten : ¬ e.Writes b.capacity i) : (b.apply e).block[i]? = b.block[i]? := by
  -- Filling and writing have their places, and marking writes nothing.
  cases e with
  | fill source => exact (b.block_fill source i).trans (if_neg unwritten)
  | write start source => exact (b.block_write start source i).trans (if_neg unwritten)
  | setLength length => rfl

/-- What an edit writes does not depend on the buffer. -/
theorem block_apply_of_written (size : a.capacity = b.capacity) {e : Edit} {i : Nat}
    (written : e.Writes a.capacity i) : (a.apply e).block[i]? = (b.apply e).block[i]? := by
  -- The source alone decides what is written.
  have other : e.Writes b.capacity i := size ▸ written
  cases e with
  | fill source =>
    calc (a.fill source).block[i]?
      _ = source[i]? := (a.block_fill source i).trans (if_pos written)
      _ = (b.fill source).block[i]? := ((b.block_fill source i).trans (if_pos other)).symm
  | write start source =>
    calc (a.write start source).block[i]?
      _ = source[i - start]? := (a.block_write start source i).trans (if_pos written)
      _ = (b.write start source).block[i]? :=
        ((b.block_write start source i).trans (if_pos other)).symm
  | setLength length => exact written.elim

/-- Two buffers of one size show the same, and hold the same wherever it was written since they were
lent. All that they show was written since. -/
structure Agrees (edits : List Edit) (a b : Buffer) : Prop where
  capacity : a.capacity = b.capacity
  length : a.length = b.length
  block : ∀ i, Written a.capacity edits i → a.block[i]? = b.block[i]?
  covered : ∀ i < a.length, Written a.capacity edits i

/-- Two buffers that were just lent agree, whatever is in their blocks. -/
theorem Agrees.lent (size : a.capacity = b.capacity) (empty : a.length = 0)
    (bare : b.length = 0) : Agrees [] a b := by
  -- Nothing is shown and nothing was written.
  refine ⟨size, empty.trans bare.symm, ?_, ?_⟩
  · rintro i ⟨e, there, -⟩
    simp at there
  · intro i within
    omega

/-- Buffers that agree show the same bytes. -/
theorem Agrees.bytes_eq {edits : List Edit} (agrees : Agrees edits a b) : a.bytes = b.bytes := by
  refine List.ext_getElem? fun i => ?_
  -- Every position that is shown was written since.
  rw [bytes, bytes, List.getElem?_take, List.getElem?_take, ← agrees.length]
  split
  · rename_i within
    exact agrees.block i (agrees.covered i within)
  · rfl

/-- An edit that marks no other bytes than written ones keeps two buffers in agreement. -/
theorem Agrees.apply {edits : List Edit} (agrees : Agrees edits a b) (e : Edit)
    (covers : ∀ length, e = .setLength length →
      ∀ i < min length a.capacity, Written a.capacity edits i) :
    Agrees (edits ++ [e]) (a.apply e) (b.apply e) := by
  have size := (a.apply_sameLoan e).capacity
  have other := (b.apply_sameLoan e).capacity
  -- What was written before stays written, and the edit adds what it writes itself.
  have earlier : ∀ {i}, Written a.capacity edits i → Written a.capacity (edits ++ [e]) i := by
    rintro i ⟨d, there, writes⟩
    exact ⟨d, List.mem_append_left _ there, writes⟩
  have own : ∀ {i}, e.Writes a.capacity i → Written a.capacity (edits ++ [e]) i :=
    fun writes => ⟨e, List.mem_append_right _ (List.mem_singleton_self e), writes⟩
  refine ⟨by rw [size, other, agrees.capacity], ?_, ?_, ?_⟩
  · cases e with
    | fill source =>
      simp only [Buffer.apply, fill, List.length_take, agrees.capacity]
    | write start source => exact agrees.length
    | setLength length => simp only [Buffer.apply, setLength, agrees.capacity]
  · intro i written
    rw [size] at written
    by_cases writes : e.Writes a.capacity i
    · exact block_apply_of_written agrees.capacity writes
    · -- A position that this edit does not write to is one that an earlier edit wrote to.
      obtain ⟨d, there, before⟩ := written
      have passed : d ∈ edits := by
        rcases List.mem_append.mp there with there | there
        · exact there
        · exact absurd (List.mem_singleton.mp there ▸ before) writes
      rw [block_apply_of_unwritten a writes,
        block_apply_of_unwritten b (agrees.capacity ▸ writes)]
      exact agrees.block i ⟨d, passed, before⟩
  · -- What is shown now was filled in just now, was shown before, or is marked and covered.
    intro i within
    rw [size]
    cases e with
    | fill source =>
      refine own ?_
      simp only [Buffer.apply, fill, List.length_take] at within
      show i < min source.length a.capacity
      omega
    | write start source => exact earlier (agrees.covered i within)
    | setLength length => exact earlier (covers length rfl i within)

/-- Edits that cover what they mark as valid make two buffers that were just lent show the same. -/
theorem applyAll_agrees (size : a.capacity = b.capacity) (empty : a.length = 0)
    (bare : b.length = 0) {edits : List Edit} (covered : Covered a.capacity edits) :
    Agrees edits (a.applyAll edits) (b.applyAll edits) := by
  -- The induction is from the last edit, before which the others cover what they mark.
  induction edits using List.reverseRecOn with
  | nil => exact .lent size empty bare
  | append_singleton edits e ih =>
    obtain ⟨before, last⟩ := covered_concat.mp covered
    rw [applyAll_concat, applyAll_concat]
    refine (ih before).apply e ?_
    rw [capacity_applyAll]
    exact last

end Buffer

end TunerControl.Samples
