import TunerControl.Samples.Buffer

/-! Pools of storage blocks of one size, with an account of the loans. -/

namespace TunerControl.Samples

/-- The idle blocks, the last returned one first, and the account of the loans. A pool is alive as
long as someone has a handle to it. The counters are natural numbers, which never wrap around; counters
of 64 bits agree with them up to the first 2^64 loans. -/
structure Pool where
  capacity : Nat
  blockSize : Nat
  idle : List Bytes
  alive : Bool := true
  outstanding : Nat := 0
  loaned : Nat := 0
  returned : Nat := 0
  writtenOff : Nat := 0
  deriving DecidableEq, Repr

namespace Pool

/-- A block that nothing was written to. -/
def freshBlock (size : Nat) : Bytes :=
  List.replicate size 0

/-- A pool with all its blocks idle. It has at least one block of at least one byte. -/
def new (capacity blockSize : Nat) : Pool :=
  let capacity := max capacity 1
  let blockSize := max blockSize 1
  { capacity, blockSize, idle := List.replicate capacity (freshBlock blockSize) }

/-- Takes a block out on loan, unless as many as the capacity are out. Blocks that were written
off are replaced when the idle ones run out. -/
def lend (p : Pool) : Option (Bytes × Pool) :=
  if p.alive ∧ p.outstanding < p.capacity then
    let (block, idle) := match p.idle with
      | block :: rest => (block, rest)
      | [] => (freshBlock p.blockSize, [])
    some (block, { p with idle, outstanding := p.outstanding + 1, loaned := p.loaned + 1 })
  else none

/-- Takes a block back from a loan. -/
def reclaim (p : Pool) (block : Bytes) : Pool :=
  { p with
    idle := block :: p.idle
    outstanding := p.outstanding - 1
    returned := p.returned + 1 }

/-- Gives up the block of a loan that will not come back. A pool that is gone keeps no account. -/
def writeOff (p : Pool) : Pool :=
  if p.alive then { p with outstanding := p.outstanding - 1, writtenOff := p.writtenOff + 1 }
  else p

end Pool

/-- Pools by number. -/
abbrev Pools := List Pool

namespace Pools

/-- The pools after a buffer was given up: its own pool writes it off. A buffer without storage has
been returned already. -/
def writeOff (pools : Pools) (b : Buffer) : Pools :=
  if b.block.isEmpty then pools else pools.modify b.pool Pool.writeOff

/-- The pools after a buffer was given back to one of them, which takes only its own. -/
def giveBack (pools : Pools) (pool : Nat) (b : Buffer) : Pools :=
  if b.pool = pool then
    -- The storage is moved out, and what is left of the buffer is given up.
    writeOff (pools.modify pool (·.reclaim b.block)) { b with block := [] }
  else pools.writeOff b

end Pools

end TunerControl.Samples
