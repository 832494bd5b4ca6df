import TunerControl.Proofs.Samples.Change
import TunerControl.Proofs.Samples.Lists

/-! The account of each pool agrees with the buffers on loan, through every change of a plant. -/

namespace TunerControl.Samples

namespace Pool

/-- The account of a pool adds up with a number of loans out, its blocks fit its capacity, and they
have its size. -/
structure Balanced (q : Pool) (out : Nat) : Prop where
  outstanding : q.outstanding = out
  account : q.loaned = q.returned + q.writtenOff + out
  room : q.idle.length + out ≤ q.capacity
  blocks : ∀ block ∈ q.idle, block.length = q.blockSize

/-- A pool begins with all its blocks idle and nothing in its account. -/
theorem new_balanced (capacity blockSize : Nat) : (new capacity blockSize).Balanced 0 := by
  -- Each idle block is a fresh one, of the size that the pool is made with.
  refine ⟨rfl, rfl, by simp [new], ?_⟩
  intro block member
  simp only [new, freshBlock, List.mem_replicate] at member
  rw [member.2, List.length_replicate]
  rfl

/-- A pool's blocks are never empty. -/
theorem new_blockSize_pos (capacity blockSize : Nat) : 0 < (new capacity blockSize).blockSize := by
  -- A size of zero is taken for one.
  simp only [new]
  omega

/-- A loan leaves the size of the blocks alone, and only a pool that is there lends. -/
theorem lend_frame {q lender : Pool} {block : Bytes} (lends : q.lend = some (block, lender)) :
    lender.blockSize = q.blockSize ∧ q.alive = true := by
  -- A loan is made only where one is free, of a pool that is alive.
  unfold lend at lends
  split at lends
  · rename_i free
    simp only [Option.some.injEq, Prod.mk.injEq] at lends
    rw [← lends.2]
    exact ⟨rfl, free.1⟩
  · simp at lends

/-- A loan takes a block of the pool's size, idle or fresh, and is entered into the account. -/
theorem lend_balanced {q lender : Pool} {block : Bytes} {out : Nat} (balanced : q.Balanced out)
    (lends : q.lend = some (block, lender)) :
    lender.Balanced (out + 1) ∧ block.length = q.blockSize := by
  obtain ⟨outstanding, account, room, blocks⟩ := balanced
  unfold lend at lends
  split at lends
  · rename_i free
    -- Only an empty list of idle blocks has a fresh one made.
    cases idle : q.idle with
    | nil =>
      simp only [idle, Option.some.injEq, Prod.mk.injEq] at lends
      obtain ⟨rfl, rfl⟩ := lends
      refine ⟨⟨?_, ?_, ?_, by simp⟩, by simp [freshBlock]⟩
      · dsimp only
        omega
      · dsimp only
        omega
      · simp only [List.length_nil]
        omega
    | cons first rest =>
      simp only [idle, Option.some.injEq, Prod.mk.injEq] at lends
      obtain ⟨rfl, rfl⟩ := lends
      rw [idle, List.length_cons] at room
      rw [idle] at blocks
      refine ⟨⟨?_, ?_, ?_, ?_⟩, blocks first (by simp)⟩
      · dsimp only
        omega
      · dsimp only
        omega
      · dsimp only
        omega
      · intro block member
        exact blocks block (by simp [member])
  · simp at lends

/-- A block that comes back is idle again, and its loan is entered as returned. -/
theorem reclaim_balanced {q : Pool} {block : Bytes} {out : Nat} (balanced : q.Balanced (out + 1))
    (size : block.length = q.blockSize) : (q.reclaim block).Balanced out := by
  obtain ⟨outstanding, account, room, blocks⟩ := balanced
  -- There is a loan out, so taking one off is exact.
  refine ⟨?_, ?_, ?_, ?_⟩
  · simp only [reclaim]
    omega
  · simp only [reclaim]
    omega
  · simp only [reclaim, List.length_cons]
    omega
  · intro other member
    rcases List.mem_cons.mp member with same | member
    · rw [same]
      exact size
    · exact blocks other member

/-- A block that is given up only ends its loan. -/
theorem writeOff_balanced {q : Pool} {out : Nat} (balanced : q.Balanced (out + 1))
    (alive : q.alive = true) : q.writeOff.Balanced out := by
  obtain ⟨outstanding, account, room, blocks⟩ := balanced
  simp only [writeOff, alive, if_true]
  -- The idle blocks stay, and the one that is gone leaves room for another.
  refine ⟨?_, ?_, ?_, blocks⟩
  · dsimp only
    omega
  · dsimp only
    omega
  · dsimp only
    omega

/-- Giving up a block leaves the size of the blocks and the life of the pool alone. -/
theorem writeOff_frame (q : Pool) :
    q.writeOff.blockSize = q.blockSize ∧ q.writeOff.alive = q.alive := by
  -- A pool that is gone changes nothing, and any other only its account.
  unfold writeOff
  split <;> exact ⟨rfl, rfl⟩

end Pool

/-- How many of some buffers a pool lent. -/
def lentBy (pool : Nat) (buffers : List Buffer) : Nat :=
  buffers.countP (·.pool = pool)

/-- The accounts of the pools agree with the buffers on loan. A pool that is gone has no account,
but its buffers still have storage of its size. -/
structure Ledger (pools : Pools) (loans : Nat) (buffers : List Buffer) : Prop where
  distinct : (buffers.map Buffer.serial).Nodup
  numbered : ∀ b ∈ buffers, b.serial < loans
  sized : ∀ b ∈ buffers, ∃ q, pools[b.pool]? = some q ∧ b.block.length = q.blockSize
  positive : ∀ (i : Nat) (q : Pool), pools[i]? = some q → 0 < q.blockSize
  balanced : ∀ (i : Nat) (q : Pool), pools[i]? = some q → q.alive = true →
    q.Balanced (lentBy i buffers)

namespace Ledger

variable {pools : Pools} {loans : Nat} {buffers rest : List Buffer} {b : Buffer}

/-- Where the buffers are does not matter to the account. -/
theorem perm (ledger : Ledger pools loans buffers) {others : List Buffer}
    (moved : buffers.Perm others) : Ledger pools loans others where
  -- All five facts are about which buffers there are, and none about their order.
  distinct := (moved.map Buffer.serial).nodup_iff.mp ledger.distinct
  numbered b member := ledger.numbered b (moved.mem_iff.mpr member)
  sized b member := ledger.sized b (moved.mem_iff.mpr member)
  positive := ledger.positive
  balanced i q found alive := by
    have same : lentBy i buffers = lentBy i others := moved.countP_eq _
    exact same ▸ ledger.balanced i q found alive

/-- The content of the buffers does not matter to the account. -/
theorem edit (ledger : Ledger pools loans (buffers ++ rest)) {change : Buffer → Buffer}
    (same : ∀ b, SameLoan (change b) b) : Ledger pools loans (buffers.map change ++ rest) := by
  -- Every buffer afterwards is the same loan as one before.
  have origin : ∀ b ∈ buffers.map change ++ rest, ∃ a ∈ buffers ++ rest, SameLoan b a := by
    intro b member
    rcases List.mem_append.mp member with member | member
    · obtain ⟨a, present, rfl⟩ := List.mem_map.mp member
      exact ⟨a, List.mem_append.mpr (Or.inl present), same a⟩
    · exact ⟨b, List.mem_append.mpr (Or.inr member), rfl, rfl, rfl⟩
  refine ⟨?_, ?_, ?_, ledger.positive, ?_⟩
  · -- The numbers are the same.
    -- The numbers are the same, in the same order.
    have serials : (buffers.map change).map Buffer.serial = buffers.map Buffer.serial := by
      simp [Function.comp_def, fun b => (same b).serial]
    rw [List.map_append, serials, ← List.map_append]
    exact ledger.distinct
  · intro b member
    obtain ⟨a, present, loan⟩ := origin b member
    rw [loan.serial]
    exact ledger.numbered a present
  · intro b member
    obtain ⟨a, present, loan⟩ := origin b member
    obtain ⟨q, found, size⟩ := ledger.sized a present
    rw [loan.pool]
    exact ⟨q, found, loan.capacity.trans size⟩
  · -- Each buffer counts for the pool that it counted for before.
    intro i q found alive
    have count : lentBy i (buffers.map change ++ rest) = lentBy i (buffers ++ rest) := by
      simp [lentBy, List.countP_map, Function.comp_def, fun b => (same b).pool]
    rw [count]
    exact ledger.balanced i q found alive

/-- A new pool has nothing on loan. -/
theorem addPool (ledger : Ledger pools loans buffers) (capacity blockSize : Nat) :
    Ledger (pools ++ [.new capacity blockSize]) loans buffers := by
  -- No buffer names the new pool, since all of them name earlier ones.
  have earlier : ∀ b ∈ buffers, b.pool < pools.length := by
    intro b member
    obtain ⟨q, found, -⟩ := ledger.sized b member
    exact (List.getElem?_eq_some_iff.mp found).1
  have split : ∀ (i : Nat) (q : Pool), (pools ++ [.new capacity blockSize])[i]? = some q →
      pools[i]? = some q ∨ i = pools.length ∧ q = .new capacity blockSize := by
    intro i q found
    rw [List.getElem?_append] at found
    split at found
    · exact Or.inl found
    · rename_i beyond
      obtain ⟨inside, same⟩ := List.getElem?_eq_some_iff.mp found
      simp only [List.length_cons, List.length_nil] at inside
      exact Or.inr ⟨by omega, by simpa using same.symm⟩
  refine ⟨ledger.distinct, ledger.numbered, ?_, ?_, ?_⟩
  · intro b member
    obtain ⟨q, found, size⟩ := ledger.sized b member
    refine ⟨q, ?_, size⟩
    rw [List.getElem?_append_left (earlier b member)]
    exact found
  · intro i q found
    rcases split i q found with found | ⟨-, rfl⟩
    · exact ledger.positive i q found
    · exact Pool.new_blockSize_pos capacity blockSize
  · intro i q found alive
    rcases split i q found with found | ⟨rfl, rfl⟩
    · exact ledger.balanced i q found alive
    · -- The new pool has lent nothing.
      have none : lentBy pools.length buffers = 0 := by
        refine List.countP_eq_zero.mpr fun b member => ?_
        have := earlier b member
        simp only [decide_eq_true_eq]
        omega
      rw [none]
      exact Pool.new_balanced capacity blockSize

/-- A change to one pool that keeps its size leaves the storage of all buffers fitting. -/
theorem sized_modify (ledger : Ledger pools loans buffers) (pool : Nat) {change : Pool → Pool}
    (size : ∀ q, (change q).blockSize = q.blockSize) :
    (∀ b ∈ buffers, ∃ q, (pools.modify pool change)[b.pool]? = some q ∧
      b.block.length = q.blockSize) ∧
    ∀ (i : Nat) (q : Pool), (pools.modify pool change)[i]? = some q → 0 < q.blockSize := by
  -- A pool that is changed has the size that it had, and so fits the same blocks.
  constructor
  · intro b member
    obtain ⟨q, found, fits⟩ := ledger.sized b member
    refine ⟨_, by rw [List.getElem?_modify, found]; rfl, ?_⟩
    rw [fits]
    split
    · exact (size q).symm
    · rfl
  · intro i changed found
    obtain ⟨q, present, rfl⟩ := exists_of_getElem?_modify found
    have positive := ledger.positive i q present
    split
    · rwa [size q]
    · exact positive

/-- A pool that goes has no account any more. -/
theorem dropPool (ledger : Ledger pools loans buffers) (pool : Nat) :
    Ledger (pools.modify pool fun q => { q with alive := false }) loans buffers := by
  have size : ∀ q : Pool, ({ q with alive := false } : Pool).blockSize = q.blockSize := fun q => rfl
  obtain ⟨sized, positive⟩ := ledger.sized_modify pool size
  -- The pools that are left are as they were.
  refine ⟨ledger.distinct, ledger.numbered, sized, positive, ?_⟩
  intro i gone found alive
  obtain ⟨q, present, rfl⟩ := exists_of_getElem?_modify found
  by_cases same : pool = i
  · simp [same] at alive
  · rw [if_neg same] at alive ⊢
    exact ledger.balanced i q present alive

/-- A loan is counted by the pool that lends. -/
theorem lend (ledger : Ledger pools loans buffers) {pool : Nat} {q lender : Pool} {block : Bytes}
    (found : pools[pool]? = some q) (lends : q.lend = some (block, lender)) :
    Ledger (pools.set pool lender) (loans + 1) (⟨loans, pool, block, 0⟩ :: buffers) := by
  obtain ⟨size, alive⟩ := Pool.lend_frame lends
  obtain ⟨balanced, fits⟩ := Pool.lend_balanced (ledger.balanced pool q found alive) lends
  have inside : pool < pools.length := (List.getElem?_eq_some_iff.mp found).1
  have after : (pools.set pool lender)[pool]? = some lender := List.getElem?_set_self inside
  refine ⟨?_, ?_, ?_, ?_, ?_⟩
  · -- The number of the loan was not given before.
    rw [List.map_cons, List.nodup_cons]
    refine ⟨?_, ledger.distinct⟩
    intro again
    obtain ⟨b, member, same⟩ := List.mem_map.mp again
    have := ledger.numbered b member
    simp only at same
    omega
  · intro b member
    rcases List.mem_cons.mp member with rfl | member
    · exact Nat.lt_succ_self loans
    · exact Nat.lt_succ_of_lt (ledger.numbered b member)
  · -- The new buffer has a block of its pool, and the others keep theirs.
    intro b member
    rcases List.mem_cons.mp member with rfl | member
    · exact ⟨lender, after, fits.trans size.symm⟩
    · obtain ⟨other, present, fit⟩ := ledger.sized b member
      by_cases same : pool = b.pool
      · have : other = q := Option.some.inj (present.symm.trans (same ▸ found))
        exact ⟨lender, same ▸ after, by rw [fit, this, size]⟩
      · exact ⟨other, by rw [List.getElem?_set_ne same]; exact present, fit⟩
  · intro i other present
    by_cases same : pool = i
    · subst same
      have : other = lender := Option.some.inj (present.symm.trans after)
      rw [this, size]
      exact ledger.positive pool q found
    · rw [List.getElem?_set_ne same] at present
      exact ledger.positive i other present
  · -- Only the lender counts the new buffer.
    intro i other present living
    by_cases same : pool = i
    · subst same
      have : other = lender := Option.some.inj (present.symm.trans after)
      rw [this, lentBy, List.countP_cons_of_pos (by simp)]
      exact balanced
    · rw [List.getElem?_set_ne same] at present
      rw [lentBy, List.countP_cons_of_neg (by simpa using same)]
      exact ledger.balanced i other present living

/-- A loan that ends in the account of its pool leaves the other buffers accounted for. -/
theorem endLoan (ledger : Ledger pools loans (b :: rest)) {change : Pool → Pool}
    (frame : ∀ q, (change q).blockSize = q.blockSize ∧ (change q).alive = q.alive)
    (ends : ∀ q out, pools[b.pool]? = some q → q.alive = true → q.Balanced (out + 1) →
      (change q).Balanced out) :
    Ledger (pools.modify b.pool change) loans rest := by
  obtain ⟨sized, positive⟩ := ledger.sized_modify b.pool fun q => (frame q).1
  refine ⟨?_, ?_, ?_, positive, ?_⟩
  · -- The others were different from each other already.
    have distinct := ledger.distinct
    rw [List.map_cons, List.nodup_cons] at distinct
    exact distinct.2
  · exact fun c member => ledger.numbered c (List.mem_cons_of_mem b member)
  · exact fun c member => sized c (List.mem_cons_of_mem b member)
  · intro i changed found alive
    obtain ⟨q, present, rfl⟩ := exists_of_getElem?_modify found
    by_cases same : b.pool = i
    · rw [if_pos same] at alive ⊢
      rw [(frame q).2] at alive
      -- The buffer was among those that the pool has out.
      have balanced := ledger.balanced i q present alive
      rw [lentBy, List.countP_cons_of_pos (by simpa using same)] at balanced
      exact ends q _ (same ▸ present) alive balanced
    · rw [if_neg same] at alive ⊢
      have balanced := ledger.balanced i q present alive
      rwa [lentBy, List.countP_cons_of_neg (by simpa using same)] at balanced

/-- A buffer on loan has storage, so it is never taken for one that was returned. -/
theorem block_ne_nil (ledger : Ledger pools loans (b :: rest)) : b.block ≠ [] := by
  -- Its storage has the size of its pool's blocks, which have at least one byte.
  obtain ⟨q, found, size⟩ := ledger.sized b (by simp)
  have positive := ledger.positive b.pool q found
  intro empty
  rw [empty, List.length_nil] at size
  omega

/-- Giving up a buffer ends its loan. -/
theorem writeOff (ledger : Ledger pools loans (b :: rest)) :
    Ledger (pools.writeOff b) loans rest := by
  -- The buffer has storage, so that its pool takes note of it.
  simp only [Pools.writeOff, List.isEmpty_iff, ledger.block_ne_nil, if_false]
  exact ledger.endLoan Pool.writeOff_frame
    fun q out _ alive balanced => Pool.writeOff_balanced balanced alive

/-- Giving a buffer back ends its loan, whichever pool it is given to. -/
theorem giveBack (ledger : Ledger pools loans (b :: rest)) (pool : Nat) :
    Ledger (pools.giveBack pool b) loans rest := by
  unfold Pools.giveBack
  split
  · rename_i own
    subst own
    -- What is left of the buffer has no storage, so it is not written off as well.
    simp only [Pools.writeOff, List.isEmpty_nil, if_true]
    refine ledger.endLoan (fun q => ⟨rfl, rfl⟩) fun q out found _ balanced => ?_
    -- What comes back is a block of the pool's size, so it may be idle again.
    obtain ⟨owner, present, size⟩ := ledger.sized b (by simp)
    have same : owner = q := Option.some.inj (present.symm.trans found)
    exact Pool.reclaim_balanced balanced (by rw [size, same])
  · -- A pool that did not lend it leaves it to its own to write it off.
    exact ledger.writeOff

/-- Giving up buffers one after another ends their loans. -/
theorem writeOffAll (ledger : Ledger pools loans (buffers ++ rest)) :
    Ledger (buffers.foldl Pools.writeOff pools) loans rest := by
  -- Each buffer is written off by its own pool, and the others are left to the rest.
  induction buffers generalizing pools with
  | nil => exact ledger
  | cons b others ih => exact ih ledger.writeOff

end Ledger

end TunerControl.Samples
