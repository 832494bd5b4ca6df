/-! Sample buffers: a block of storage on loan from a pool, of which a front part is valid. -/

namespace TunerControl.Samples

/-- Bytes of samples. -/
abbrev Bytes := List UInt8

/-- A loan, numbered in the order of lending. -/
structure Buffer where
  serial : Nat
  pool : Nat
  block : Bytes
  length : Nat
  deriving DecidableEq, Repr

namespace Buffer

/-- The bytes that fit. -/
def capacity (b : Buffer) : Nat :=
  b.block.length

/-- The valid bytes. -/
def bytes (b : Buffer) : Bytes :=
  b.block.take b.length

/-- The buffer with new valid bytes, cut to its capacity. What lies behind them stays. -/
def fill (b : Buffer) (source : Bytes) : Buffer :=
  let copied := source.take b.capacity
  { b with block := copied ++ b.block.drop copied.length, length := copied.length }

/-- The buffer with bytes written over its storage, as far as they fit. Its length stays. -/
def write (b : Buffer) (start : Nat) (source : Bytes) : Buffer :=
  let copied := source.take (b.capacity - start)
  { b with block := b.block.take start ++ copied ++ b.block.drop (start + copied.length) }

/-- The buffer with another number of valid bytes, at most its capacity. -/
def setLength (b : Buffer) (length : Nat) : Buffer :=
  { b with length := min length b.capacity }

end Buffer

end TunerControl.Samples
