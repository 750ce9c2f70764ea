import Mathlib.Data.List.Basic

/-!
# The streaming vocabulary

Block cursors, the batch cursors a cursor producer emits, the ingestion and
reconfiguration vocabularies, and the storage interface the starknet cursor
producer reads, with the allocator it asks for the vector of a finalized batch. Block
numbers are `u64` in the source; they are natural numbers here, and the two places where
the producer does `u64` arithmetic go through `u64Add` and `u64Sub`, which wrap as a release
build does.
-/
namespace ApibaraDna

/-- `GlobalBlockId`: a block's number and hash. The 32-byte hash is kept as the
number its bytes spell, so `hash().is_zero()` is `hash = 0`. -/
structure GlobalBlockId where
  number : Nat
  hash : Nat
  deriving DecidableEq, Repr

/-- `u64` addition of a release build: wraps at `2 ^ 64` (`UInt64.size`). -/
def u64Add (a b : Nat) : Nat := (a + b) % UInt64.size

/-- `u64` subtraction of a release build, for operands below `2 ^ 64`: wraps below zero. -/
def u64Sub (a b : Nat) : Nat := (a + UInt64.size - b) % UInt64.size

theorem u64Add_of_lt {a b : Nat} (h : a + b < UInt64.size) : u64Add a b = a + b :=
  Nat.mod_eq_of_lt h

section Except

variable {ε α β : Type}

@[simp] theorem except_pure (a : α) : (pure a : Except ε α) = .ok a := rfl

@[simp] theorem except_ok_bind (a : α) (f : α → Except ε β) : (Except.ok a >>= f) = f a := rfl

@[simp] theorem except_error_bind (e : ε) (f : α → Except ε β) :
    (Except.error e >>= f) = .error e := rfl

theorem except_bind_eq_ok {x : Except ε α} {f : α → Except ε β} {b : β} :
    x >>= f = .ok b ↔ ∃ a, x = .ok a ∧ f a = .ok b := by
  cases x <;> simp

end Except

/-- `DataFinality`: the finality of the data a client asks for. -/
inductive DataFinality
  | dataStatusUnknown
  | dataStatusPending
  | dataStatusAccepted
  | dataStatusFinalized
  deriving DecidableEq, Repr

/-- `BatchCursor`: what the producer asks the driver to build next, with the cursor
the client last advanced to. Modelled from the spec: the type is declared outside
`src/`, and `end_cursor()` returns the last cursor of the payload. -/
inductive BatchCursor
  | finalized (start : Option GlobalBlockId) (cursors : List GlobalBlockId)
  | accepted (start : Option GlobalBlockId) (cursor : GlobalBlockId)
  | pending (start : Option GlobalBlockId) (cursor : GlobalBlockId)
  deriving DecidableEq, Repr

namespace BatchCursor

/-- The cursor the client last advanced to. -/
def startCursor : BatchCursor → Option GlobalBlockId
  | finalized start _ | accepted start _ | pending start _ => start

/-- The cursors of the payload, in order. -/
def cursors : BatchCursor → List GlobalBlockId
  | finalized _ cursors => cursors
  | accepted _ cursor | pending _ cursor => [cursor]

/-- `end_cursor()`: the last cursor of the payload. -/
def endCursor (batch : BatchCursor) : Option GlobalBlockId := batch.cursors.getLast?

/-- Whether the batch is a `Pending` one, which does not advance the client. -/
def isPending : BatchCursor → Bool
  | pending _ _ => true
  | _ => false

@[simp] theorem startCursor_finalized (s : Option GlobalBlockId) (cs : List GlobalBlockId) :
    (finalized s cs).startCursor = s := rfl
@[simp] theorem startCursor_accepted (s : Option GlobalBlockId) (c : GlobalBlockId) :
    (accepted s c).startCursor = s := rfl
@[simp] theorem startCursor_pending (s : Option GlobalBlockId) (c : GlobalBlockId) :
    (pending s c).startCursor = s := rfl
@[simp] theorem cursors_finalized (s : Option GlobalBlockId) (cs : List GlobalBlockId) :
    (finalized s cs).cursors = cs := rfl
@[simp] theorem cursors_accepted (s : Option GlobalBlockId) (c : GlobalBlockId) :
    (accepted s c).cursors = [c] := rfl
@[simp] theorem cursors_pending (s : Option GlobalBlockId) (c : GlobalBlockId) :
    (pending s c).cursors = [c] := rfl
@[simp] theorem endCursor_accepted (s : Option GlobalBlockId) (c : GlobalBlockId) :
    (accepted s c).endCursor = some c := rfl

end BatchCursor

/-- `IngestionMessage`: a chain event pushed by the node. -/
inductive IngestionMessage
  | pending (cursor : GlobalBlockId)
  | accepted (cursor : GlobalBlockId)
  | finalized (cursor : GlobalBlockId)
  | invalidate (cursor : GlobalBlockId)
  deriving DecidableEq, Repr

/-- `IngestionResponse`: whether the client must drop data. -/
inductive IngestionResponse
  | ok
  | invalidate (cursor : GlobalBlockId)
  deriving DecidableEq, Repr

/-- `ReconfigureResponse`. -/
inductive ReconfigureResponse
  | ok
  | missingStartingCursor
  | invalidate (cursor : GlobalBlockId)
  deriving DecidableEq, Repr

/-- `StreamConfiguration`, without the filter, which only the batch producer reads. -/
structure StreamConfiguration where
  streamId : Nat
  startingCursor : Option GlobalBlockId
  finality : DataFinality
  batchSize : Nat
  deriving DecidableEq, Repr

/-- `StreamError`: an internal error keeps its source. -/
inductive StreamError (ε : Type)
  | internal (source : ε)
  | invalidRequest (message : String)
  deriving DecidableEq, Repr

/-- `task::Poll`. -/
inductive Poll (α : Type)
  | ready (value : α)
  | pending
  deriving DecidableEq, Repr

/-- Modelled from the spec: the starknet `BlockStatus` is declared outside `src/`.
The spec names `Rejected`, `AcceptedOnL2` and `AcceptedOnL1`; its glossary calls a
block accepted on L1 finalized. -/
inductive BlockStatus
  | rejected
  | acceptedOnL2
  | acceptedOnL1
  deriving DecidableEq, Repr

/-- Modelled from the spec: `is_accepted()`. -/
def BlockStatus.isAccepted : BlockStatus → Bool
  | acceptedOnL2 => true
  | _ => false

/-- Modelled from the spec: `is_finalized()`. -/
def BlockStatus.isFinalized : BlockStatus → Bool
  | acceptedOnL1 => true
  | _ => false

/-- A block header, as the tests build it; the parent it names is read by
`GlobalBlockId::from_block_header_parent`, a parameter of the model. -/
structure BlockHeader where
  blockNumber : Nat
  blockHash : Option Nat
  parentBlockHash : Option Nat
  deriving DecidableEq, Repr

/-- What a call on the cursor producer sees: the `StorageReader` calls it makes, each of
which may fail with `ε`, and the global allocator that its vector of cursors asks. -/
structure StorageReader (ε : Type) where
  canonicalBlockId : Nat → Except ε (Option GlobalBlockId)
  readStatus : GlobalBlockId → Except ε (Option BlockStatus)
  readHeader : GlobalBlockId → Except ε (Option BlockHeader)
  highestAcceptedBlock : Except ε (Option GlobalBlockId)
  highestFinalizedBlock : Except ε (Option GlobalBlockId)
  /-- Whether the allocator grants a request of that many bytes. -/
  allocates : Nat → Bool

/-- The contract of `canonical_block_id(number)`: a cursor it returns is numbered `number`. -/
def StorageReader.Numbered {ε : Type} (storage : StorageReader ε) : Prop :=
  ∀ k c, storage.canonicalBlockId k = .ok (some c) → c.number = k

end ApibaraDna
