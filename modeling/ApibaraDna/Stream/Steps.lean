import ApibaraDna.Stream.CursorProducer

/-!
# What one call on the producer can do

One lemma per method of the producer, saying everything the call can do, so that
the invariants of later modules are short case analyses and never unfold the
source again: `Emits` collects the three ways a poll emits a batch, and
`handleIngestionMessage_eq` splits the ingestion handler into its effect on the
view, on the configuration and on the response.

The calls are then made into steps of a state machine (`step`), and `run` feeds a
list of steps to it. `run_invariant` is the one induction over runs: an invariant
of the producer and of a ghost value updated from what each step observed.
-/
namespace ApibaraDna

section Steps

variable {ε : Type} (storage : StorageReader ε)

/-! ## Polling -/

section Paths

variable {configuration configuration' : BatchConfiguration} {start : Option GlobalBlockId}
  {n : Nat} {batch : BatchCursor}

theorem nextCursorFinalized_eq_some {finalized : GlobalBlockId} :
    nextCursorFinalized storage configuration start n finalized =
        some (.ok (some (batch, configuration'))) ↔
      withCapacity storage configuration.batchSize = true ∧
      ∃ cursors, collectCanonical storage 0 configuration.batchSize (List.range' n
          (finalBlockNumber finalized.number n configuration.batchSize + 1 - n)) =
            some (.ok cursors) ∧
        cursors ≠ [] ∧ batch = .finalized start cursors ∧
        configuration' = { configuration with current := cursors.getLast? } := by
  unfold nextCursorFinalized
  split
  · simp only [Option.map_eq_some', true_and, *]
    constructor
    · rintro ⟨result, hr, h⟩
      obtain ⟨cursors, rfl, h⟩ := except_bind_eq_ok.1 h
      by_cases hc : cursors = [] <;>
        simp_all [BatchCursor.endCursor, @eq_comm _ batch, @eq_comm _ configuration']
    · rintro ⟨cursors, hr, hne, rfl, rfl⟩
      exact ⟨_, hr, by simp [hne, BatchCursor.endCursor]⟩
  · simp_all

theorem nextCursorAccepted_eq_some :
    nextCursorAccepted storage configuration start n = .ok (some (batch, configuration')) ↔
      (configuration.dataFinality = .dataStatusAccepted ∨
        configuration.dataFinality = .dataStatusPending) ∧
      ∃ cursor, storage.canonicalBlockId n = .ok (some cursor) ∧
        batch = .accepted start cursor ∧
        configuration' = { configuration with current := some cursor } := by
  have : (configuration.dataFinality = .dataStatusAccepted ∨
      configuration.dataFinality = .dataStatusPending) ↔
      ¬(configuration.dataFinality = .dataStatusFinalized ∨
        configuration.dataFinality = .dataStatusUnknown) := by
    cases configuration.dataFinality <;> simp
  rw [this, nextCursorAccepted]
  split
  · simp_all
  · cases hc : storage.canonicalBlockId n with
    | error e => simp_all
    | ok c? => cases c? <;> simp_all [@eq_comm _ batch, @eq_comm _ configuration']

theorem nextCursorPending_eq_some :
    nextCursorPending storage configuration start n = .ok (some (batch, configuration')) ↔
      configuration.dataFinality = .dataStatusPending ∧ configuration.pendingSent = false ∧
      ∃ cursor, storage.canonicalBlockId n = .ok (some cursor) ∧
        batch = .pending start cursor ∧
        configuration' = { configuration with pendingSent := true } := by
  rw [nextCursorPending]
  split
  · rename_i h
    constructor
    · rintro ⟨⟩
    · rintro ⟨hp, hs, -⟩
      simp [hp, hs] at h
  · cases hc : storage.canonicalBlockId n with
    | error e => simp_all
    | ok c? => cases c? <;> simp_all [@eq_comm _ batch, @eq_comm _ configuration']

end Paths

/-- The three ways a poll emits `batch` from `state` and leaves `configuration'`,
one per path of `next_cursor_with_configuration`, with everything the path read. -/
inductive Emits (state : IngestionState) (configuration : BatchConfiguration) :
    BatchCursor → BatchConfiguration → Prop
  | finalized {finalized : GlobalBlockId} {cursors : List GlobalBlockId} :
      state.finalized = some finalized →
      nextBlockNumber configuration.current ≤ finalized.number →
      withCapacity storage configuration.batchSize = true →
      collectCanonical storage 0 configuration.batchSize
        (List.range' (nextBlockNumber configuration.current)
          (finalBlockNumber finalized.number (nextBlockNumber configuration.current)
            configuration.batchSize + 1 - nextBlockNumber configuration.current)) =
        some (.ok cursors) →
      cursors ≠ [] →
      Emits state configuration (.finalized configuration.current cursors)
        { configuration with current := cursors.getLast? }
  | accepted {accepted cursor : GlobalBlockId} :
      (∀ f ∈ state.finalized, f.number < nextBlockNumber configuration.current) →
      state.accepted = some accepted →
      nextBlockNumber configuration.current ≤ accepted.number →
      configuration.dataFinality = .dataStatusAccepted ∨
        configuration.dataFinality = .dataStatusPending →
      storage.canonicalBlockId (nextBlockNumber configuration.current) = .ok (some cursor) →
      Emits state configuration (.accepted configuration.current cursor)
        { configuration with current := some cursor }
  | pending {pending cursor : GlobalBlockId} :
      (∀ f ∈ state.finalized, f.number < nextBlockNumber configuration.current) →
      (∀ a ∈ state.accepted, a.number < nextBlockNumber configuration.current) →
      state.pending = some pending →
      nextBlockNumber configuration.current ≤ pending.number →
      configuration.dataFinality = .dataStatusPending →
      configuration.pendingSent = false →
      storage.canonicalBlockId (nextBlockNumber configuration.current) = .ok (some cursor) →
      Emits state configuration (.pending configuration.current cursor)
        { configuration with pendingSent := true }

private theorem below_of_filter_eq_none {o : Option GlobalBlockId} {n : Nat}
    (h : o.filter (fun t => decide (n ≤ t.number)) = none) : ∀ t ∈ o, t.number < n := by
  rintro t rfl
  simpa [Option.filter_some] using h

private theorem reaches_of_filter_eq_some {o : Option GlobalBlockId} {n : Nat} {t : GlobalBlockId}
    (h : o.filter (fun t => decide (n ≤ t.number)) = some t) : o = some t ∧ n ≤ t.number := by
  simpa using h

theorem emits_of_nextCursorWithConfiguration {state : IngestionState}
    {configuration configuration' : BatchConfiguration} {batch : BatchCursor}
    (h : nextCursorWithConfiguration storage state configuration =
      some (.ok (some (batch, configuration')))) :
    Emits storage state configuration batch configuration' := by
  simp only [nextCursorWithConfiguration] at h
  split at h
  next _ _ _ _ hf =>
    obtain ⟨hf, hn⟩ := reaches_of_filter_eq_some hf
    obtain ⟨halloc, cursors, hc, hne, rfl, rfl⟩ := (nextCursorFinalized_eq_some storage).1 h
    exact .finalized hf hn halloc hc hne
  next _ _ _ _ hf ha =>
    obtain ⟨ha, hn⟩ := reaches_of_filter_eq_some ha
    obtain ⟨hd, cursor, hc, rfl, rfl⟩ := (nextCursorAccepted_eq_some storage).1 (Option.some.inj h)
    exact .accepted (below_of_filter_eq_none hf) ha hn hd hc
  next _ _ _ _ hf ha hp =>
    obtain ⟨hp, hn⟩ := reaches_of_filter_eq_some hp
    obtain ⟨hd, hs, cursor, hc, rfl, rfl⟩ :=
      (nextCursorPending_eq_some storage).1 (Option.some.inj h)
    exact .pending (below_of_filter_eq_none hf) (below_of_filter_eq_none ha) hp hn hd hs hc
  next => cases h

variable {producer producer' : SequentialCursorProducer}

/-- The view a poll that returns leaves: loaded on first use once configured, else as
it was. -/
theorem nextCursor_ingestionState {result : Except ε (Option BatchCursor)}
    (h : nextCursor storage producer = some (producer', result)) :
    producer'.ingestionState =
      match producer.configuration, getIngestionState storage producer.ingestionState with
      | some _, .ok state => some state
      | _, _ => producer.ingestionState := by
  unfold nextCursor at h
  split at h
  · cases h; simp [*]
  · split at h
    · cases h; simp_all
    · split at h <;> cases h <;> simp_all

/-- A poll that emits nothing leaves the configuration alone. -/
theorem nextCursor_configuration {result : Except ε (Option BatchCursor)}
    (h : nextCursor storage producer = some (producer', result))
    (hr : ∀ batch, result ≠ .ok (some batch)) :
    producer'.configuration = producer.configuration := by
  unfold nextCursor at h
  split at h
  · cases h; rfl
  · split at h
    · cases h; rfl
    · split at h <;> cases h
      · rfl
      · rfl
      · exact absurd rfl (hr _)

/-- A poll that emits `batch` took one of the paths of `Emits`. -/
theorem nextCursor_emits {batch : BatchCursor}
    (h : nextCursor storage producer = some (producer', .ok (some batch))) :
    ∃ configuration state configuration', producer.configuration = some configuration ∧
      getIngestionState storage producer.ingestionState = .ok state ∧
      Emits storage state configuration batch configuration' ∧
      producer' = { producer with
        ingestionState := some state, configuration := some configuration' } := by
  unfold nextCursor at h
  split at h
  · cases h
  · split at h
    · cases h
    · split at h <;> cases h
      exact ⟨_, _, _, ‹_›, ‹_›, emits_of_nextCursorWithConfiguration storage ‹_›, rfl⟩

variable {waker : Waker} {poll : Poll (Option (Except (StreamError ε) BatchCursor))}

/-- A poll that returns ran a `next_cursor` that returned, and keeps its view. -/
theorem pollNext_ingestionState (h : pollNext storage waker producer = some (producer', poll)) :
    producer'.ingestionState =
      match producer.configuration, getIngestionState storage producer.ingestionState with
      | some _, .ok state => some state
      | _, _ => producer.ingestionState := by
  unfold pollNext at h
  split at h
  · cases h
  all_goals
    cases h
    exact (nextCursor_ingestionState storage ‹nextCursor storage producer = _› :)

/-- A poll that emits nothing leaves the configuration alone. -/
theorem pollNext_configuration (h : pollNext storage waker producer = some (producer', poll))
    (hpoll : ∀ batch, poll ≠ .ready (some (.ok batch))) :
    producer'.configuration = producer.configuration := by
  unfold pollNext at h
  split at h
  · cases h
  next hq =>
    cases h
    exact (nextCursor_configuration storage hq (by simp) :)
  next hq =>
    cases h
    exact (nextCursor_configuration storage hq (by simp) :)
  · cases h
    exact absurd rfl (hpoll _)

/-- A poll that emits `batch` took one of the paths of `Emits`, and left the task's
handle where it was. -/
theorem pollNext_emits {batch : BatchCursor}
    (h : pollNext storage waker producer = some (producer', .ready (some (.ok batch)))) :
    ∃ configuration state configuration', producer.configuration = some configuration ∧
      getIngestionState storage producer.ingestionState = .ok state ∧
      Emits storage state configuration batch configuration' ∧
      producer' = { producer with
        ingestionState := some state, configuration := some configuration' } := by
  unfold pollNext at h
  split at h <;> cases h
  exact nextCursor_emits storage ‹_›

/-! ## Ingestion messages -/

/-- The view after `handle_ingestion_message` absorbs `message`. -/
def IngestionState.absorb : IngestionMessage → IngestionState → IngestionState
  | .pending cursor, state => { state with pending := some cursor }
  | .accepted cursor, state => { state with finalized := none, accepted := some cursor }
  | .finalized cursor, state => { state with finalized := some cursor }
  | .invalidate cursor, state =>
    { pending := none
      accepted := state.accepted.map (lowestCursor · cursor)
      finalized := state.finalized.map (lowestCursor · cursor) }

/-- The configuration after `handle_ingestion_message` absorbs `message`. -/
def BatchConfiguration.absorb (configuration : BatchConfiguration) :
    IngestionMessage → BatchConfiguration
  | .pending _ => { configuration with pendingSent := false }
  | .invalidate cursor =>
    { configuration with current := configuration.current.map (lowestCursor · cursor) }
  | _ => configuration

/-- The answer to `message` for a client at `current`: `Invalidate` only for data it has. -/
def ingestionResponse : IngestionMessage → Option GlobalBlockId → IngestionResponse
  | .invalidate cursor, some current =>
    if current.number > cursor.number then .invalidate cursor else .ok
  | _, _ => .ok

/-- `handle_ingestion_message` is its three effects: on the view, on the configuration
and on the response; a view that cannot be read changes nothing. -/
theorem handleIngestionMessage_eq (message : IngestionMessage)
    (producer : SequentialCursorProducer) :
    handleIngestionMessage storage message producer =
      match getIngestionState storage producer.ingestionState with
      | .error e => (producer, .error (.internal e))
      | .ok state =>
        ({ producer with
            ingestionState := some (state.absorb message)
            configuration :=
              producer.configuration.map fun (c : BatchConfiguration) => c.absorb message }.wake,
          .ok (ingestionResponse message producer.current)) := by
  unfold handleIngestionMessage
  cases getIngestionState storage producer.ingestionState with
  | error e => rfl
  | ok state =>
    cases message with
    | invalidate cursor =>
      cases hc : producer.configuration with
      | none =>
        simp [hc, IngestionState.absorb, ingestionResponse, SequentialCursorProducer.current]
      | some configuration =>
        cases hcur : configuration.current <;>
          simp [hc, hcur, IngestionState.absorb, BatchConfiguration.absorb, ingestionResponse,
            SequentialCursorProducer.current]
    | _ => simp [IngestionState.absorb, BatchConfiguration.absorb, ingestionResponse]

/-- A message absorbed without error is answered for the client's `current` before it. -/
theorem handleIngestionMessage_response {message : IngestionMessage}
    {producer producer' : SequentialCursorProducer} {response : IngestionResponse}
    (h : handleIngestionMessage storage message producer = (producer', .ok response)) :
    response = ingestionResponse message producer.current := by
  rw [handleIngestionMessage_eq] at h
  split at h
  · cases (Prod.mk.inj h).2
  · exact (Except.ok.inj (Prod.mk.inj h).2).symm

/-! ## Reconfiguration -/

variable (fromBlockHeaderParent : BlockHeader → Except ε GlobalBlockId)

/-- The starting cursor as `reconfigure` resolves it: a zero hash is replaced by the
canonical id at its number. -/
def resolvedStartingCursor (startingCursor : Option GlobalBlockId) : Option GlobalBlockId :=
  startingCursor.bind fun s =>
    match resolveStartingCursor storage s with
    | .ok c => c
    | .error _ => none

/-- A completed starting-cursor match answers `Ok` at the resolved cursor, or
`Invalidate(a)` at `a`. -/
theorem startingCursorOutcome_eq_some {fuel : Nat} {start current : Option GlobalBlockId}
    {response : ReconfigureResponse}
    (h : startingCursorOutcome storage fromBlockHeaderParent fuel start =
      some (.ok (some (current, response)))) :
    (response = .ok ∧ current = resolvedStartingCursor storage start) ∨
      ∃ a, response = .invalidate a ∧ current = some a := by
  unfold startingCursorOutcome at h
  split at h
  · obtain ⟨rfl, rfl⟩ : none = current ∧ ReconfigureResponse.ok = response := by simpa using h
    exact .inl ⟨rfl, rfl⟩
  next _ s =>
    split at h
    · cases h
    · cases h
    next _ s' hs =>
      split at h
      · cases h
      · cases h
      · split at h
        · obtain ⟨rfl, rfl⟩ : some s' = current ∧ ReconfigureResponse.ok = response := by
            simpa using h
          exact .inl ⟨rfl, by simp [resolvedStartingCursor, hs]⟩
        · split at h
          · cases h
          · cases h
          · cases h
          next _ a _ =>
            obtain ⟨rfl, rfl⟩ : some a = current ∧ ReconfigureResponse.invalidate a = response := by
              simpa using h
            exact .inr ⟨a, rfl, rfl⟩

/-- `reconfigure` either changes nothing and answers `MissingStartingCursor` or an
error, or installs a fresh configuration at the cursor its starting-cursor match found. -/
theorem reconfigure_eq_some {fuel : Nat} {configuration : StreamConfiguration}
    {producer producer' : SequentialCursorProducer}
    {result : Except (StreamError ε) ReconfigureResponse}
    (h : reconfigure storage fromBlockHeaderParent fuel configuration producer =
      some (producer', result)) :
    (producer' = producer ∧
        (result = .ok .missingStartingCursor ∨ ∃ e, result = .error (.internal e))) ∨
      ∃ current response,
        startingCursorOutcome storage fromBlockHeaderParent fuel configuration.startingCursor =
          some (.ok (some (current, response))) ∧ result = .ok response ∧
        producer' = { producer with
          configuration := some
            { dataFinality := configuration.finality
              pendingSent := false
              current
              batchSize := configuration.batchSize } }.wake := by
  unfold reconfigure at h
  split at h
  · cases h
  · obtain ⟨rfl, rfl⟩ := Prod.mk.inj (Option.some.inj h)
    exact .inl ⟨rfl, .inr ⟨_, rfl⟩⟩
  · obtain ⟨rfl, rfl⟩ := Prod.mk.inj (Option.some.inj h)
    exact .inl ⟨rfl, .inl rfl⟩
  next _ current response hc =>
    obtain ⟨rfl, rfl⟩ := Prod.mk.inj (Option.some.inj h)
    exact .inr ⟨current, response, hc, rfl, rfl⟩

end Steps

/-! ## Runs -/

/-- A call a subscription makes on its producer. -/
inductive Action
  | reconfigure (configuration : StreamConfiguration)
  | handleIngestionMessage (message : IngestionMessage)
  | pollNext (waker : Waker)
  deriving DecidableEq, Repr

/-- What the call returns. -/
inductive Reply (ε : Type)
  | reconfigure (result : Except (StreamError ε) ReconfigureResponse)
  | handleIngestionMessage (result : Except (StreamError ε) IngestionResponse)
  | pollNext (result : Poll (Option (Except (StreamError ε) BatchCursor)))

/-- What one step saw and returned. -/
structure Observation (ε : Type) where
  storage : StorageReader ε
  action : Action
  reply : Reply ε

section Run

variable {ε : Type} (fromBlockHeaderParent : BlockHeader → Except ε GlobalBlockId) (fuel : Nat)

/-- One call on the producer, against the storage it sees at that moment; `none` for a
call that does not return: a reconfigure whose walk back has not returned within `fuel`
iterations, or a poll whose vector of cursors cannot be allocated or grown. -/
def step (storage : StorageReader ε) (producer : SequentialCursorProducer) :
    Action → Option (SequentialCursorProducer × Reply ε)
  | .reconfigure configuration =>
    (reconfigure storage fromBlockHeaderParent fuel configuration producer).map
      fun r => (r.1, .reconfigure r.2)
  | .handleIngestionMessage message =>
    let r := handleIngestionMessage storage message producer
    some (r.1, .handleIngestionMessage r.2)
  | .pollNext waker =>
    (pollNext storage waker producer).map fun r => (r.1, .pollNext r.2)

/-- Feed `steps` to the producer in order: the producer at the end, and what each step
that ran observed. A call that does not return ends the run. -/
def run : SequentialCursorProducer → List (StorageReader ε × Action) →
    SequentialCursorProducer × List (Observation ε)
  | producer, [] => (producer, [])
  | producer, (storage, action) :: steps =>
    match step fromBlockHeaderParent fuel storage producer action with
    | none => (producer, [])
    | some (producer', reply) =>
      let r := run producer' steps
      (r.1, ⟨storage, action, reply⟩ :: r.2)

/-- **Run induction.** An invariant of the producer and of a ghost value, updated by
`observe` from what each step saw, that every step of `steps` keeps, holds at the end. -/
theorem run_invariant {σ : Type} (I : SequentialCursorProducer → σ → Prop)
    (observe : σ → Observation ε → σ) {steps : List (StorageReader ε × Action)}
    (hstep : ∀ x ∈ steps, ∀ producer g producer' reply, I producer g →
      step fromBlockHeaderParent fuel x.1 producer x.2 = some (producer', reply) →
      I producer' (observe g ⟨x.1, x.2, reply⟩))
    {producer : SequentialCursorProducer} {g : σ} (h : I producer g) :
    I (run fromBlockHeaderParent fuel producer steps).1
      ((run fromBlockHeaderParent fuel producer steps).2.foldl observe g) := by
  induction steps generalizing producer g with
  | nil => exact h
  | cons x steps ih =>
    obtain ⟨storage, action⟩ := x
    simp only [run]
    split
    · exact h
    · exact ih (fun y hy => hstep y (.tail _ hy))
        (hstep _ (.head _) _ _ _ _ h ‹_›)

/-- Run induction for an invariant of the producer alone. -/
theorem run_preserves (I : SequentialCursorProducer → Prop)
    {steps : List (StorageReader ε × Action)}
    (hstep : ∀ x ∈ steps, ∀ producer producer' reply, I producer →
      step fromBlockHeaderParent fuel x.1 producer x.2 = some (producer', reply) → I producer')
    {producer : SequentialCursorProducer} (h : I producer) :
    I (run fromBlockHeaderParent fuel producer steps).1 :=
  @run_invariant ε fromBlockHeaderParent fuel Unit (fun p _ => I p) (fun _ _ => ()) steps
    (fun x hx p _ p' reply => hstep x hx p p' reply) producer () h

/-- **A cached view only changes by absorbing a message.** Once the view is read, a
reconfigure or a poll leaves it, and an ingestion message absorbs itself into it. -/
theorem ingestionState_step {storage : StorageReader ε}
    {producer producer' : SequentialCursorProducer} {action : Action} {reply : Reply ε}
    {state : IngestionState}
    (hstate : producer.ingestionState = some state)
    (h : step fromBlockHeaderParent fuel storage producer action = some (producer', reply)) :
    producer'.ingestionState = some state ∨
      ∃ message, action = .handleIngestionMessage message ∧
        producer'.ingestionState = some (state.absorb message) := by
  cases action with
  | reconfigure configuration =>
    obtain ⟨⟨p, r⟩, hr, he⟩ := Option.map_eq_some'.1 h
    cases he
    rcases reconfigure_eq_some storage fromBlockHeaderParent hr with ⟨rfl, -⟩ | ⟨_, _, _, _, rfl⟩
    · exact .inl hstate
    · exact .inl hstate
  | handleIngestionMessage message =>
    cases h
    rw [handleIngestionMessage_eq, hstate]
    exact .inr ⟨message, rfl, rfl⟩
  | pollNext waker =>
    obtain ⟨⟨p, poll⟩, hp, he⟩ := Option.map_eq_some'.1 h
    cases he
    left
    rw [pollNext_ingestionState storage hp, hstate]
    split <;> simp_all [getIngestionState]

end Run

end ApibaraDna
