import ApibaraDna.Stream.Types

/-!
# The sequential cursor producer

`SequentialCursorProducer` of the starknet node, as explicit state passing. Each
`&mut self` method returns the producer it leaves behind beside its result, so
that what a method mutates before a `?` returns is visible: the ingestion view
read by a poll stays cached even when the poll then fails.

The storage is an argument of every call rather than a field, so that a run may
see a different storage at each step. A call that does not return is `none`: the
walk back of `reconfigure` follows parent links for as long as the storage provides
them and is run with `fuel`, so `none` there means that the loop has not returned
within `fuel` iterations; in `next_cursor_finalized`, `Vec::with_capacity(batch_size)` and
a push that grows the vector panic on a request past `isize::MAX` bytes and abort when the
allocator refuses one.
-/
namespace ApibaraDna

/-- `BatchConfiguration`: where the client is and what it asked for. -/
structure BatchConfiguration where
  current : Option GlobalBlockId
  pendingSent : Bool
  dataFinality : DataFinality
  batchSize : Nat
  deriving DecidableEq, Repr

/-- `IngestionState`: the producer's view of the chain tips. -/
structure IngestionState where
  finalized : Option GlobalBlockId
  accepted : Option GlobalBlockId
  pending : Option GlobalBlockId
  deriving DecidableEq, Repr

/-- A task's wake handle, named by the task it wakes. -/
structure Waker where
  task : Nat
  deriving DecidableEq, Repr

/-- `SequentialCursorProducer`, without its storage handle. -/
structure SequentialCursorProducer where
  configuration : Option BatchConfiguration
  ingestionState : Option IngestionState
  waker : Option Waker
  deriving DecidableEq, Repr

namespace SequentialCursorProducer

/-- `SequentialCursorProducer::new`. -/
def new : SequentialCursorProducer := ⟨none, none, none⟩

/-- The cursor the client last advanced to, when configured. -/
def current (producer : SequentialCursorProducer) : Option GlobalBlockId :=
  producer.configuration.bind (·.current)

/-- `wake`: the stored handle is taken, and the task it names woken. -/
def wake (producer : SequentialCursorProducer) : SequentialCursorProducer :=
  { producer with waker := none }

@[simp] theorem configuration_wake (p : SequentialCursorProducer) :
    p.wake.configuration = p.configuration := rfl
@[simp] theorem ingestionState_wake (p : SequentialCursorProducer) :
    p.wake.ingestionState = p.ingestionState := rfl
@[simp] theorem current_wake (p : SequentialCursorProducer) : p.wake.current = p.current := rfl

end SequentialCursorProducer

/-- The number after `current`, or `0` without one:
`current.map(|c| c.number() + 1).unwrap_or(0)`. -/
def nextBlockNumber (current : Option GlobalBlockId) : Nat :=
  (current.map fun c => u64Add c.number 1).getD 0

@[simp] theorem nextBlockNumber_none : nextBlockNumber none = 0 := rfl

/-- `lowest_cursor`: the lower of two cursors by number, the second on a tie. -/
def lowestCursor (a b : GlobalBlockId) : GlobalBlockId :=
  if a.number < b.number then a else b

/-- `final_block_number` of `next_cursor_finalized`:
`min(finalized, next_block_number + batch_size - 1)` in `u64`. -/
def finalBlockNumber (finalized nextBlockNumber batchSize : Nat) : Nat :=
  min finalized (u64Sub (u64Add nextBlockNumber batchSize) 1)

section Producer

variable {ε : Type} (storage : StorageReader ε)

/-- `get_ingestion_state_mut`: the cached view, or on first use the tips read from
storage, accepted first. -/
def getIngestionState : Option IngestionState → Except ε IngestionState
  | some state => .ok state
  | none => do
    let accepted ← storage.highestAcceptedBlock
    let finalized ← storage.highestFinalizedBlock
    pure { accepted, finalized, pending := none }

/-- `isize::MAX` on a 64-bit target. -/
def isizeMax : Nat := UInt64.size / 2 - 1

/-- `size_of::<GlobalBlockId>()`: a `u64` number and a 32-byte hash. -/
def globalBlockIdSize : Nat := 40

/-- Whether a vector of `GlobalBlockId` gets room for `capacity` of them, as
`Vec::with_capacity` and a growing `Vec::push` ask: past `isize::MAX` bytes the request
panics, and a non-empty one the allocator refuses aborts the process. -/
def withCapacity (capacity : Nat) : Bool :=
  decide (capacity * globalBlockIdSize ≤ isizeMax) &&
    (capacity == 0 || storage.allocates (capacity * globalBlockIdSize))

/-- The capacity left by `Vec::push` on `length` cursors with room for `capacity`: a full
vector grows to `max(2 * capacity, length + 1, 4)`, and `none` when that does not return. -/
def pushCapacity (length capacity : Nat) : Option Nat :=
  if length < capacity then some capacity
  else
    let grown := max (max (2 * capacity) (length + 1)) 4
    if withCapacity storage grown then some grown else none

/-- The loop of `next_cursor_finalized` over the block numbers of its range, pushing onto
`length` cursors with room for `capacity`: the canonical id of each in turn, up to the
first that storage does not have; `none` when a push does not return. -/
def collectCanonical (length capacity : Nat) :
    List Nat → Option (Except ε (List GlobalBlockId))
  | [] => some (.ok [])
  | blockNumber :: rest =>
    match storage.canonicalBlockId blockNumber with
    | .error e => some (.error e)
    | .ok none => some (.ok [])
    | .ok (some cursor) =>
      match pushCapacity storage length capacity with
      | none => none
      | some capacity =>
        (collectCanonical (length + 1) capacity rest).map (Except.map (cursor :: ·))

/-- `next_cursor_finalized`: the batch and the configuration it leaves; `none` when
`Vec::with_capacity(batch_size)`, before storage is read, or a push does not return. -/
def nextCursorFinalized (configuration : BatchConfiguration)
    (startingCursor : Option GlobalBlockId) (nextBlockNumber : Nat) (finalized : GlobalBlockId) :
    Option (Except ε (Option (BatchCursor × BatchConfiguration))) :=
  if withCapacity storage configuration.batchSize then
    let finalBlockNumber :=
      finalBlockNumber finalized.number nextBlockNumber configuration.batchSize
    (collectCanonical storage 0 configuration.batchSize
        (List.range' nextBlockNumber (finalBlockNumber + 1 - nextBlockNumber))).map fun result => do
      let cursors ← result
      if cursors.isEmpty then return none
      let batchCursor := BatchCursor.finalized startingCursor cursors
      return some (batchCursor, { configuration with current := batchCursor.endCursor })
  else none

/-- `next_cursor_accepted`. -/
def nextCursorAccepted (configuration : BatchConfiguration)
    (startingCursor : Option GlobalBlockId) (nextBlockNumber : Nat) :
    Except ε (Option (BatchCursor × BatchConfiguration)) :=
  if configuration.dataFinality = .dataStatusFinalized ∨
      configuration.dataFinality = .dataStatusUnknown then
    .ok none
  else do
    match ← storage.canonicalBlockId nextBlockNumber with
    | some cursor =>
      let batchCursor := BatchCursor.accepted startingCursor cursor
      return some (batchCursor, { configuration with current := batchCursor.endCursor })
    | none => return none

/-- `next_cursor_pending`: a pending batch marks the pending tip as sent and
leaves `current` where it is. -/
def nextCursorPending (configuration : BatchConfiguration)
    (startingCursor : Option GlobalBlockId) (nextBlockNumber : Nat) :
    Except ε (Option (BatchCursor × BatchConfiguration)) :=
  if configuration.dataFinality ≠ .dataStatusPending ∨ configuration.pendingSent then
    .ok none
  else do
    match ← storage.canonicalBlockId nextBlockNumber with
    | some cursor =>
      return some (.pending startingCursor cursor, { configuration with pendingSent := true })
    | none => return none

/-- `next_cursor_with_configuration`, once the view is read: the finalized path if
the finalized tip reaches the next block, else the accepted path, else the pending one. -/
def nextCursorWithConfiguration (state : IngestionState) (configuration : BatchConfiguration) :
    Option (Except ε (Option (BatchCursor × BatchConfiguration))) :=
  let startingCursor := configuration.current
  let n := nextBlockNumber configuration.current
  match state.finalized.filter (n ≤ ·.number), state.accepted.filter (n ≤ ·.number),
      state.pending.filter (n ≤ ·.number) with
  | some finalized, _, _ => nextCursorFinalized storage configuration startingCursor n finalized
  | none, some _, _ => some (nextCursorAccepted storage configuration startingCursor n)
  | none, none, some _ => some (nextCursorPending storage configuration startingCursor n)
  | none, none, none => some (.ok none)

/-- `next_cursor`: nothing before the first configuration; the view read on the
way is kept whatever the result, the configuration changes only with a batch. -/
def nextCursor (producer : SequentialCursorProducer) :
    Option (SequentialCursorProducer × Except ε (Option BatchCursor)) :=
  match producer.configuration with
  | none => some (producer, .ok none)
  | some configuration =>
    match getIngestionState storage producer.ingestionState with
    | .error e => some (producer, .error e)
    | .ok state =>
      let producer := { producer with ingestionState := some state }
      match nextCursorWithConfiguration storage state configuration with
      | none => none
      | some (.error e) => some (producer, .error e)
      | some (.ok none) => some (producer, .ok none)
      | some (.ok (some (batchCursor, configuration))) =>
        some ({ producer with configuration := some configuration }, .ok (some batchCursor))

/-- `poll_next`: with no batch ready the task's handle is stored and the poll is pending. -/
def pollNext (waker : Waker) (producer : SequentialCursorProducer) :
    Option (SequentialCursorProducer × Poll (Option (Except (StreamError ε) BatchCursor))) :=
  match nextCursor storage producer with
  | none => none
  | some (producer, .error err) => some (producer, .ready (some (.error (.internal err))))
  | some (producer, .ok none) => some ({ producer with waker := some waker }, .pending)
  | some (producer, .ok (some batchCursor)) => some (producer, .ready (some (.ok batchCursor)))

/-- `handle_ingestion_message`: update the view, and on `Invalidate` clamp the
client's cursor, answering `Invalidate` only if it was past the new head. -/
def handleIngestionMessage (message : IngestionMessage) (producer : SequentialCursorProducer) :
    SequentialCursorProducer × Except (StreamError ε) IngestionResponse :=
  match getIngestionState storage producer.ingestionState with
  | .error e => (producer, .error (.internal e))
  | .ok state =>
    match message with
    | .pending cursor =>
      ({ producer with
          ingestionState := some { state with pending := some cursor },
          configuration :=
            producer.configuration.map fun (c : BatchConfiguration) =>
              { c with pendingSent := false } }.wake,
        .ok .ok)
    | .accepted cursor =>
      ({ producer with
          ingestionState := some { state with finalized := none, accepted := some cursor } }.wake,
        .ok .ok)
    | .finalized cursor =>
      ({ producer with ingestionState := some { state with finalized := some cursor } }.wake,
        .ok .ok)
    | .invalidate cursor =>
      let state : IngestionState :=
        { pending := none
          accepted := state.accepted.map (lowestCursor · cursor)
          finalized := state.finalized.map (lowestCursor · cursor) }
      match producer.configuration with
      | some configuration =>
        let isInvalidated :=
          (configuration.current.map fun c => decide (c.number > cursor.number)).getD false
        ({ producer with
            ingestionState := some state
            configuration :=
              some { configuration with
                current := configuration.current.map (lowestCursor · cursor) } }.wake,
          .ok (if isInvalidated then .invalidate cursor else .ok))
      | none => ({ producer with ingestionState := some state }.wake, .ok .ok)

variable (fromBlockHeaderParent : BlockHeader → Except ε GlobalBlockId)

/-- One pass through the `loop` of `reconfigure` at `new_root`: `.inl` leaves it (`some` root
on `break`, `none` on `return Ok(MissingStartingCursor)`, or an error), `.inr` goes round
again from the parent the header names. -/
def walkBackBody (newRoot : GlobalBlockId) : Except ε (Option GlobalBlockId) ⊕ GlobalBlockId :=
  match storage.readStatus newRoot with
  | .error e => .inl (.error e)
  | .ok none => .inl (.ok none)
  | .ok (some status) =>
    if status.isAccepted || status.isFinalized then .inl (.ok (some newRoot))
    else
      match storage.readHeader newRoot with
      | .error e => .inl (.error e)
      | .ok none => .inl (.ok none)
      | .ok (some header) =>
        match fromBlockHeaderParent header with
        | .error e => .inl (.error e)
        | .ok parent => .inr parent

/-- The `loop` of `reconfigure` from `new_root`, run for at most `fuel` passes; `none`
when the loop has not left within them. -/
def walkBack : Nat → GlobalBlockId → Option (Except ε (Option GlobalBlockId))
  | 0, _ => none
  | fuel + 1, newRoot =>
    match walkBackBody storage fromBlockHeaderParent newRoot with
    | .inl result => some result
    | .inr parent => walkBack fuel parent

/-- A starting cursor with a zero hash names a block number: look up its canonical id. -/
def resolveStartingCursor (startingCursor : GlobalBlockId) : Except ε (Option GlobalBlockId) :=
  if startingCursor.hash = 0 then storage.canonicalBlockId startingCursor.number
  else .ok (some startingCursor)

/-- The `match configuration.starting_cursor` of `reconfigure`: the new `current` and
the response; inside the `Except`, `none` is the early `return Ok(MissingStartingCursor)`. -/
def startingCursorOutcome (fuel : Nat) :
    Option GlobalBlockId → Option (Except ε (Option (Option GlobalBlockId × ReconfigureResponse)))
  | none => some (.ok (some (none, .ok)))
  | some startingCursor =>
    match resolveStartingCursor storage startingCursor with
    | .error e => some (.error e)
    | .ok none => some (.ok none)
    | .ok (some startingCursor) =>
      match storage.readStatus startingCursor with
      | .error e => some (.error e)
      | .ok none => some (.ok none)
      | .ok (some status) =>
        if status.isAccepted || status.isFinalized then some (.ok (some (some startingCursor, .ok)))
        else
          match walkBack storage fromBlockHeaderParent fuel startingCursor with
          | none => none
          | some (.error e) => some (.error e)
          | some (.ok none) => some (.ok none)
          | some (.ok (some newRoot)) => some (.ok (some (some newRoot, .invalidate newRoot)))

/-- `reconfigure`: an error or a missing starting cursor returns before anything is
changed; otherwise the configuration is replaced and the task woken. -/
def reconfigure (fuel : Nat) (configuration : StreamConfiguration)
    (producer : SequentialCursorProducer) :
    Option (SequentialCursorProducer × Except (StreamError ε) ReconfigureResponse) :=
  match startingCursorOutcome storage fromBlockHeaderParent fuel configuration.startingCursor with
  | none => none
  | some (.error e) => some (producer, .error (.internal e))
  | some (.ok none) => some (producer, .ok .missingStartingCursor)
  | some (.ok (some (current, response))) =>
    some ({ producer with
        configuration := some
          { dataFinality := configuration.finality
            pendingSent := false
            current
            batchSize := configuration.batchSize } }.wake,
      .ok response)

end Producer

end ApibaraDna
