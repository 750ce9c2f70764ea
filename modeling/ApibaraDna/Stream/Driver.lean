import ApibaraDna.Stream.Checkpoint
import ApibaraDna.Stream.Finality

/-!
# The stream driver

`new_data_stream` of the node: one loop over a biased `select!` of the configuration
stream, the ingestion stream and the cursor producer, in that order. Each iteration
handles one item and yields at most one response; an error is yielded and ends the
loop, and `Fails` lists the iterations that yield one (`stream_ends_at_first_error`).

An iteration is given what the two input streams have ready when it runs (`Ready`)
and the storage the cursor producer sees. The batch producer is external: a state
with a `reconfigure` and a `next_batch` that may fail. The request meter and the
protobuf encoding are left out; blocks stay values of a type `β`.

What the client reads from the responses places it at a block
(`visibleCheckpoint`): its starting cursor, the cursor of an `Invalidate`, the end
cursor of a `Finalized` or `Accepted` `Data`. Every `Data` message starts there and
ends past it (`data_follows_visible_checkpoint`).
-/
namespace ApibaraDna

/-- `Data`: the cursor the batch starts from, its end cursor, its finality and its
blocks. -/
structure Data (β : Type) where
  cursor : Option GlobalBlockId
  endCursor : Option GlobalBlockId
  finality : DataFinality
  data : List β

/-- `stream_data_response::Message`. -/
inductive ResponseMessage (β : Type)
  | data (data : Data β)
  | invalidate (cursor : Option GlobalBlockId)

/-- `StreamDataResponse`; the driver always sends one with a message. -/
structure StreamDataResponse (β : Type) where
  streamId : Nat
  message : ResponseMessage β

/-- The `BatchProducer` the driver is given, with its state `σ`: it absorbs each
configuration, and `next_batch` turns cursors into blocks. -/
structure BatchProducer (ε σ β : Type) where
  reconfigure : σ → StreamConfiguration → Except (StreamError ε) σ
  nextBatch : σ → List GlobalBlockId → Except (StreamError ε) (σ × List β)

namespace DataStream

/-- The state of the loop: the two producers and the `stream_id` it stamps. -/
structure Driver (σ : Type) where
  cursorProducer : SequentialCursorProducer
  batchProducer : σ
  streamId : Nat

/-- What the `select!` of one iteration finds ready on the two input streams, and the
waker of the task that polls the cursor producer. -/
structure Ready (ε : Type) where
  configuration : Option (Except (StreamError ε) StreamConfiguration)
  ingestion : Option (Except (StreamError ε) IngestionMessage)
  waker : Waker

/-- What one iteration yields: nothing, a response, or an error, after which the loop
breaks. -/
inductive Outcome (ε β : Type)
  | quiet
  | yield (response : StreamDataResponse β)
  | fail (error : StreamError ε)

section Loop

variable {ε σ β : Type} (batchProducer : BatchProducer ε σ β)
  (fromBlockHeaderParent : BlockHeader → Except ε GlobalBlockId) (fuel : Nat)

/-- `handle_configuration_message`: the cursor producer is reconfigured, then the batch
producer; `none` for a walk back that has not returned. -/
def handleConfigurationMessage (storage : StorageReader ε)
    (cursorProducer : SequentialCursorProducer) (batchState : σ)
    (message : Except (StreamError ε) StreamConfiguration) :
    Option (SequentialCursorProducer × σ × Except (StreamError ε) (Nat × ReconfigureResponse)) :=
  match message with
  | .error err => some (cursorProducer, batchState, .error err)
  | .ok configuration =>
    (reconfigure storage fromBlockHeaderParent fuel configuration cursorProducer).map
      fun (cursorProducer, result) =>
        match result with
        | .error err => (cursorProducer, batchState, .error err)
        | .ok response =>
          match batchProducer.reconfigure batchState configuration with
          | .error err => (cursorProducer, batchState, .error err)
          | .ok batchState => (cursorProducer, batchState, .ok (configuration.streamId, response))

/-- `handle_ingestion_message` of the driver. -/
def handleIngestionMessage (storage : StorageReader ε) (cursorProducer : SequentialCursorProducer)
    (message : Except (StreamError ε) IngestionMessage) :
    SequentialCursorProducer × Except (StreamError ε) IngestionResponse :=
  match message with
  | .error err => (cursorProducer, .error err)
  | .ok message => ApibaraDna.handleIngestionMessage storage message cursorProducer

/-- `handle_batch_cursor`: the batch's start, cursors, end and finality, with the blocks
that `next_batch` builds from its cursors. -/
def handleBatchCursor (batchState : σ) (batchCursor : Except (StreamError ε) BatchCursor) :
    σ × Except (StreamError ε) (Data β) :=
  match batchCursor with
  | .error err => (batchState, .error err)
  | .ok batchCursor =>
    let (startCursor, cursors, endCursor, finality) :
        Option GlobalBlockId × List GlobalBlockId × Option GlobalBlockId × DataFinality :=
      match batchCursor with
      | .finalized startCursor cursors =>
        (startCursor, cursors, cursors.getLast?, .dataStatusFinalized)
      | .accepted startCursor cursor => (startCursor, [cursor], some cursor, .dataStatusAccepted)
      | .pending startCursor cursor => (startCursor, [cursor], some cursor, .dataStatusPending)
    match batchProducer.nextBatch batchState cursors with
    | .error err => (batchState, .error err)
    | .ok (batchState, batch) =>
      (batchState, .ok { cursor := startCursor, endCursor, finality, data := batch })

/-- One iteration of the loop of `new_data_stream`: the biased `select!` takes a configuration
first, then an ingestion message, and polls the cursor producer only when neither is ready;
a pending poll yields nothing, and one that does not return ends the iteration. -/
def step (storage : StorageReader ε) (driver : Driver σ) (ready : Ready ε) :
    Option (Driver σ × Outcome ε β) :=
  match ready.configuration, ready.ingestion with
  | some message, _ =>
    (handleConfigurationMessage batchProducer fromBlockHeaderParent fuel storage
        driver.cursorProducer driver.batchProducer message).map
      fun (cursorProducer, batchState, result) =>
        match result with
        | .error err => ({ driver with cursorProducer, batchProducer := batchState }, .fail err)
        | .ok (streamId, response) =>
          let driver : Driver σ := ⟨cursorProducer, batchState, streamId⟩
          match response with
          | .ok => (driver, .quiet)
          | .missingStartingCursor =>
            (driver, .fail (.invalidRequest "the specified starting cursor doesn\x27t exist"))
          | .invalidate cursor => (driver, .yield ⟨streamId, .invalidate (some cursor)⟩)
  | none, some message =>
    let (cursorProducer, result) := handleIngestionMessage storage driver.cursorProducer message
    let driver := { driver with cursorProducer }
    match result with
    | .ok (.invalidate cursor) => some (driver, .yield ⟨driver.streamId, .invalidate (some cursor)⟩)
    | .ok .ok => some (driver, .quiet)
    | .error err => some (driver, .fail err)
  | none, none =>
    match pollNext storage ready.waker driver.cursorProducer with
    | none => none
    | some (cursorProducer, poll) =>
      match poll with
      | .pending | .ready none => some ({ driver with cursorProducer }, .quiet)
      | .ready (some batchCursor) =>
        let (batchState, result) :=
          handleBatchCursor batchProducer driver.batchProducer batchCursor
        let driver := { driver with cursorProducer, batchProducer := batchState }
        match result with
        | .ok data => some (driver, .yield ⟨driver.streamId, .data data⟩)
        | .error err => some (driver, .fail err)

/-- The loop over the iterations `inputs`, each with the storage it sees: the driver at
the end, and what each iteration found ready and yielded. An error ends the loop, as
does an iteration that does not return. -/
def run (driver : Driver σ) :
    List (StorageReader ε × Ready ε) → Driver σ × List (Ready ε × Outcome ε β)
  | [] => (driver, [])
  | (storage, ready) :: inputs =>
    match step batchProducer fromBlockHeaderParent fuel storage driver ready with
    | none => (driver, [])
    | some (driver', .fail err) => (driver', [(ready, .fail err)])
    | some (driver', outcome) =>
      let r := run driver' inputs
      (r.1, (ready, outcome) :: r.2)

/-- Where the responses place the client, after what an iteration found ready and
yielded: at the starting cursor of a configuration answered `Ok`, at the cursor of an
`Invalidate`, at the end cursor of a `Finalized` or `Accepted` `Data`. -/
def visibleCheckpoint (checkpoint : Option GlobalBlockId) :
    Ready ε × Outcome ε β → Option GlobalBlockId
  | (ready, .quiet) =>
    match ready.configuration with
    | some (.ok configuration) => configuration.startingCursor
    | _ => checkpoint
  | (_, .yield ⟨_, .invalidate cursor⟩) => cursor
  | (_, .yield ⟨_, .data data⟩) =>
    if data.finality = .dataStatusPending then checkpoint else data.endCursor
  | (_, .fail _) => checkpoint

/-- The configuration an iteration applied: one it took from the configuration stream
without failing. -/
def appliedConfiguration : Ready ε × Outcome ε β → Option StreamConfiguration
  | (_, .fail _) => none
  | (ready, _) =>
    match ready.configuration with
    | some (.ok configuration) => some configuration
    | _ => none

/-- The configuration applied last, after one more iteration. -/
def latestConfiguration (latest : Option StreamConfiguration) (y : Ready ε × Outcome ε β) :
    Option StreamConfiguration :=
  (appliedConfiguration y).or latest

/-! ## What an iteration does -/

variable {batchProducer fromBlockHeaderParent fuel} {storage : StorageReader ε}
  {driver driver' : Driver σ} {ready : Ready ε} {outcome : Outcome ε β}

/-- A `Data` message starts and ends where its batch does, with the batch's finality. -/
theorem handleBatchCursor_eq_ok {batchState batchState' : σ} {batch : BatchCursor}
    {data : Data β}
    (h : handleBatchCursor batchProducer batchState (.ok batch) = (batchState', .ok data)) :
    data.cursor = batch.startCursor ∧ data.endCursor = batch.endCursor ∧
      data.finality = batch.dataFinality := by
  unfold handleBatchCursor at h
  cases batch <;>
  · simp only at h
    split at h
    · cases h
    · obtain ⟨-, h⟩ := Prod.mk.inj h
      cases h
      exact ⟨rfl, rfl, rfl⟩

/-- A configuration message is answered with an error, or it reconfigured the cursor
producer with an answer, and the batch producer, and is answered with the configuration's
`stream_id`. -/
theorem handleConfigurationMessage_eq_some
    {cursorProducer cursorProducer' : SequentialCursorProducer} {batchState batchState' : σ}
    {message : Except (StreamError ε) StreamConfiguration}
    {result : Except (StreamError ε) (Nat × ReconfigureResponse)}
    (h : handleConfigurationMessage batchProducer fromBlockHeaderParent fuel storage
      cursorProducer batchState message = some (cursorProducer', batchState', result)) :
    (∃ err, result = .error err) ∨
      ∃ configuration response, message = .ok configuration ∧
        reconfigure storage fromBlockHeaderParent fuel configuration cursorProducer =
          some (cursorProducer', .ok response) ∧
        result = .ok (configuration.streamId, response) := by
  rcases message with err | configuration
  · simp only [handleConfigurationMessage, Option.some.injEq, Prod.mk.injEq] at h
    exact .inl ⟨err, h.2.2.symm⟩
  simp only [handleConfigurationMessage] at h
  rcases hr : reconfigure storage fromBlockHeaderParent fuel configuration cursorProducer with
    _ | ⟨p, err | response⟩ <;>
    simp only [hr, Option.map_none', Option.map_some', Option.some.injEq, reduceCtorEq] at h
  · exact .inl ⟨err, (Prod.mk.inj (Prod.mk.inj h).2).2.symm⟩
  rcases hb : batchProducer.reconfigure batchState configuration with err | b <;>
    simp only [hb, Prod.mk.injEq] at h
  · exact .inl ⟨err, h.2.2.symm⟩
  obtain ⟨rfl, rfl, rfl⟩ := h
  exact .inr ⟨configuration, response, rfl, hr, rfl⟩

/-- **One iteration.** It fails; or it takes a configuration or, with none ready, an ingestion
message, and yields nothing or an `Invalidate`; or, with neither ready, it polls and yields
nothing or a `Data` message made from the batch the poll returned. -/
theorem step_eq_some
    (h : step batchProducer fromBlockHeaderParent fuel storage driver ready =
      some (driver', outcome)) :
    (∃ err, outcome = .fail err) ∨
    (∃ configuration response, ready.configuration = some (.ok configuration) ∧
      reconfigure storage fromBlockHeaderParent fuel configuration driver.cursorProducer =
        some (driver'.cursorProducer, .ok response) ∧ driver'.streamId = configuration.streamId ∧
      (response = .ok ∧ outcome = .quiet ∨
        ∃ a, response = .invalidate a ∧
          outcome = .yield ⟨configuration.streamId, .invalidate (some a)⟩)) ∨
    (∃ message response, ready.configuration = none ∧ ready.ingestion = some (.ok message) ∧
      ApibaraDna.handleIngestionMessage storage message driver.cursorProducer =
        (driver'.cursorProducer, .ok response) ∧ driver'.streamId = driver.streamId ∧
      (response = .ok ∧ outcome = .quiet ∨
        ∃ c, response = .invalidate c ∧ outcome = .yield ⟨driver.streamId, .invalidate (some c)⟩)) ∨
    (ready.configuration = none ∧ ready.ingestion = none ∧ ∃ poll,
      pollNext storage ready.waker driver.cursorProducer = some (driver'.cursorProducer, poll) ∧
      driver'.streamId = driver.streamId ∧
      ((poll = .pending ∨ poll = .ready none) ∧ outcome = .quiet ∨
        ∃ batch data, poll = .ready (some (.ok batch)) ∧
          outcome = .yield ⟨driver.streamId, .data data⟩ ∧ data.cursor = batch.startCursor ∧
          data.endCursor = batch.endCursor ∧ data.finality = batch.dataFinality)) := by
  unfold step at h
  split at h
  next _ _ message hc =>
    rcases hm : handleConfigurationMessage batchProducer fromBlockHeaderParent fuel storage
        driver.cursorProducer driver.batchProducer message with _ | ⟨p, b, result⟩ <;>
      simp only [hm, Option.map_none', Option.map_some', Option.some.injEq, reduceCtorEq] at h
    rcases handleConfigurationMessage_eq_some hm with ⟨err, rfl⟩ |
      ⟨configuration, response, rfl, hr, rfl⟩
    · exact .inl ⟨err, (Prod.mk.inj h).2.symm⟩
    cases response with
    | ok =>
      obtain ⟨rfl, rfl⟩ := Prod.mk.inj h
      exact .inr (.inl ⟨configuration, .ok, hc, hr, rfl, .inl ⟨rfl, rfl⟩⟩)
    | missingStartingCursor => exact .inl ⟨_, (Prod.mk.inj h).2.symm⟩
    | invalidate a =>
      obtain ⟨rfl, rfl⟩ := Prod.mk.inj h
      exact .inr (.inl ⟨configuration, _, hc, hr, rfl, .inr ⟨a, rfl, rfl⟩⟩)
  next _ _ message hc hi =>
    rcases message with err | message
    · simp only [handleIngestionMessage, Option.some.injEq] at h
      exact .inl ⟨err, (Prod.mk.inj h).2.symm⟩
    simp only [handleIngestionMessage] at h
    generalize hm :
      ApibaraDna.handleIngestionMessage storage message driver.cursorProducer = pr at h
    obtain ⟨p, r⟩ := pr
    simp only at h
    rcases r with err | (_ | c)
    · exact .inl ⟨err, (Prod.mk.inj (Option.some.inj h)).2.symm⟩
    all_goals
      obtain ⟨rfl, rfl⟩ := Prod.mk.inj (Option.some.inj h)
      refine .inr (.inr (.inl ⟨message, _, hc, hi, hm, rfl, ?_⟩))
    · exact .inl ⟨rfl, rfl⟩
    · exact .inr ⟨c, rfl, rfl⟩
  next _ _ hc hi =>
    generalize pollNext storage ready.waker driver.cursorProducer = pr at h
    rcases pr with _ | ⟨p, poll⟩
    · cases h
    simp only at h
    rcases poll with (_ | batchCursor) | _
    · obtain ⟨rfl, rfl⟩ := Prod.mk.inj (Option.some.inj h)
      exact .inr (.inr (.inr ⟨hc, hi, _, rfl, rfl, .inl ⟨.inr rfl, rfl⟩⟩))
    · rcases hb : handleBatchCursor batchProducer driver.batchProducer batchCursor with
        ⟨batchState, err | data⟩ <;> simp only [hb] at h
      · exact .inl ⟨err, (Prod.mk.inj (Option.some.inj h)).2.symm⟩
      · obtain ⟨rfl, rfl⟩ := Prod.mk.inj (Option.some.inj h)
        rcases batchCursor with err | batch
        · simp [handleBatchCursor] at hb
        exact .inr (.inr (.inr ⟨hc, hi, _, rfl, rfl,
          .inr ⟨batch, data, rfl, rfl, handleBatchCursor_eq_ok hb⟩⟩))
    · obtain ⟨rfl, rfl⟩ := Prod.mk.inj (Option.some.inj h)
      exact .inr (.inr (.inr ⟨hc, hi, _, rfl, rfl, .inl ⟨.inl rfl, rfl⟩⟩))

/-! ## The client's place -/

theorem resolveStartingCursor_number (hnum : storage.Numbered) {s s' : GlobalBlockId}
    (h : resolveStartingCursor storage s = .ok (some s')) : s'.number = s.number := by
  unfold resolveStartingCursor at h
  split at h
  · exact hnum _ _ h
  · cases h
    rfl

/-- A reconfigure answered `Ok` puts `current` at the number of the starting cursor
asked for. -/
theorem current_number_of_reconfigure_ok (hnum : storage.Numbered)
    {configuration : StreamConfiguration} {producer producer' : SequentialCursorProducer}
    (h : reconfigure storage fromBlockHeaderParent fuel configuration producer =
      some (producer', .ok .ok)) :
    producer'.current.map (·.number) = configuration.startingCursor.map (·.number) := by
  rcases reconfigure_eq_some storage fromBlockHeaderParent h with
    ⟨-, h | ⟨e, h⟩⟩ | ⟨current, response, ho, hr, rfl⟩
  · cases h
  · cases h
  cases hr
  simp only [SequentialCursorProducer.current_wake, SequentialCursorProducer.current,
    Option.some_bind]
  rcases hs : configuration.startingCursor with _ | s <;> rw [hs] at ho
  · simp only [startingCursorOutcome, Option.some.injEq, Except.ok.injEq, Prod.mk.injEq] at ho
    obtain ⟨rfl, -⟩ := ho
    rfl
  rcases hres : resolveStartingCursor storage s with e | _ | s'
  · simp [startingCursorOutcome, hres] at ho
  · simp [startingCursorOutcome, hres] at ho
  rcases startingCursorOutcome_eq_some storage fromBlockHeaderParent ho with ⟨-, rfl⟩ | ⟨a, ha, -⟩
  · simp [resolvedStartingCursor, hres, resolveStartingCursor_number hnum hres]
  · cases ha

variable {checkpoint : Option GlobalBlockId}

/-- An iteration that does not fail moves `current` to the block number where its
response places the client. -/
theorem step_visible (hnum : storage.Numbered)
    (hI : driver.cursorProducer.current.map (·.number) = checkpoint.map (·.number))
    (h : step batchProducer fromBlockHeaderParent fuel storage driver ready =
      some (driver', outcome))
    (hfail : ∀ err, outcome ≠ .fail err) :
    driver'.cursorProducer.current.map (·.number) =
      (visibleCheckpoint checkpoint (ready, outcome)).map (·.number) := by
  rcases step_eq_some h with ⟨err, rfl⟩ |
      ⟨configuration, response, hc, hr, -, ⟨rfl, rfl⟩ | ⟨a, rfl, rfl⟩⟩ |
      ⟨message, response, hc, hi, hm, -, ⟨rfl, rfl⟩ | ⟨c, rfl, rfl⟩⟩ |
      ⟨hc, hi, poll, hp, -, ⟨hpoll, rfl⟩ | ⟨batch, data, rfl, rfl, -, hend, hfinality⟩⟩
  · exact absurd rfl (hfail err)
  · simp only [visibleCheckpoint, hc]
    exact current_number_of_reconfigure_ok hnum hr
  · rw [current_reconfigure storage fromBlockHeaderParent hr]
    rfl
  · rw [current_handleIngestionMessage storage hm, trackedCheckpoint_number hI]
    simp [visibleCheckpoint, hc, clientCheckpoint]
  · rw [current_handleIngestionMessage storage hm]
    cases message <;> rfl
  · rw [current_pollNext storage hp, trackedCheckpoint_number hI]
    rcases hpoll with rfl | rfl <;> simp [visibleCheckpoint, hc, clientCheckpoint]
  · rw [current_pollNext storage hp, trackedCheckpoint_number hI]
    cases batch <;> simp_all [visibleCheckpoint, clientCheckpoint, BatchCursor.endCursor,
      BatchCursor.dataFinality]

/-- A `Data` message is yielded only when neither input stream has an item ready; it
starts at the client's place and ends past it. -/
theorem step_data (hnum : storage.Numbered)
    (hI : driver.cursorProducer.current.map (·.number) = checkpoint.map (·.number))
    (hbound : ∀ c ∈ checkpoint, c.number < UInt64.size - 1) {streamId : Nat} {data : Data β}
    (h : step batchProducer fromBlockHeaderParent fuel storage driver ready =
      some (driver', .yield ⟨streamId, .data data⟩)) :
    ready.configuration = none ∧ ready.ingestion = none ∧
    data.cursor.map (·.number) = checkpoint.map (·.number) ∧
    ∀ e ∈ data.endCursor, (checkpoint.map (·.number + 1)).getD 0 ≤ e.number := by
  rcases step_eq_some h with ⟨_, ⟨⟩⟩ | ⟨_, _, _, _, _, ⟨-, ⟨⟩⟩ | ⟨_, -, ⟨⟩⟩⟩ |
      ⟨_, _, _, _, _, _, ⟨-, ⟨⟩⟩ | ⟨_, -, ⟨⟩⟩⟩ |
      ⟨hc, hi, _, hpoll, -, ⟨-, ⟨⟩⟩ | ⟨batch, data', rfl, he, hcursor, hend, -⟩⟩
  cases he
  obtain ⟨configuration, _, _, hconf, -, hemits, -⟩ := pollNext_emits storage hpoll
  have hcurrent : driver.cursorProducer.current = configuration.current := by
    simp [SequentialCursorProducer.current, hconf]
  have hnext := nextBlockNumber_eq (hcurrent ▸ hI) hbound
  refine ⟨hc, hi, by rw [hcursor, hemits.startCursor, ← hcurrent, hI], fun e he => ?_⟩
  rw [hend, BatchCursor.endCursor] at he
  have hmem : e.number ∈ batch.cursors.map (·.number) :=
    List.mem_map_of_mem _ (List.mem_of_mem_getLast? he)
  rw [hemits.numbers hnum, List.mem_range'_1, hnext] at hmem
  exact hmem.1

/-- **Run induction.** A property `P` of each iteration, against a ghost value folded by
`observe` over the iterations before it, holds along a run when every iteration has it from
an invariant `I` of the driver and the ghost, and keeps `I` unless it fails. -/
theorem run_trace {τ : Type} (I : Driver σ → τ → Prop)
    (observe : τ → Ready ε × Outcome ε β → τ) (P : τ → Ready ε × Outcome ε β → Prop)
    {inputs : List (StorageReader ε × Ready ε)}
    (hstep : ∀ x ∈ inputs, ∀ driver g driver' outcome, I driver g →
      step batchProducer fromBlockHeaderParent fuel x.1 driver x.2 = some (driver', outcome) →
      P g (x.2, outcome) ∧
        ((∀ err, outcome ≠ .fail err) → I driver' (observe g (x.2, outcome))))
    {driver : Driver σ} {g : τ} (h : I driver g) {pre post : List (Ready ε × Outcome ε β)}
    {y : Ready ε × Outcome ε β}
    (htrace : (run batchProducer fromBlockHeaderParent fuel driver inputs).2 = pre ++ y :: post) :
    P (pre.foldl observe g) y := by
  induction inputs generalizing driver g pre with
  | nil => simp [run] at htrace
  | cons x inputs ih =>
    simp only [run] at htrace
    split at htrace
    · simp at htrace
    next driver' err hstep' =>
      rcases pre with _ | ⟨_, pre⟩ <;> simp only [List.nil_append, List.cons_append,
        List.cons.injEq, List.nil_eq_append_iff, reduceCtorEq, and_false, false_and] at htrace
      obtain ⟨rfl, -⟩ := htrace
      exact (hstep x (.head _) _ _ _ _ h hstep').1
    next driver' outcome hfail hstep' =>
      rcases pre with _ | ⟨y', pre⟩ <;> simp only [List.nil_append, List.cons_append,
        List.cons.injEq] at htrace
      · obtain ⟨rfl, -⟩ := htrace
        exact (hstep x (.head _) _ _ _ _ h hstep').1
      · obtain ⟨rfl, htrace⟩ := htrace
        exact ih (fun z hz => hstep z (.tail _ hz))
          ((hstep x (.head _) _ _ _ _ h hstep').2 hfail) htrace

/-- **The client's place.** Along every run of a fresh driver over numbered storage, a `Data`
message is yielded with no input item ready, starts at the block number where the earlier
responses place the client, and ends past it. -/
theorem data_follows_visible_checkpoint (batchState : σ)
    (inputs : List (StorageReader ε × Ready ε)) (hnum : ∀ x ∈ inputs, x.1.Numbered)
    (pre post : List (Ready ε × Outcome ε β)) (ready : Ready ε) (streamId : Nat) (data : Data β)
    (h : (run batchProducer fromBlockHeaderParent fuel ⟨.new, batchState, 0⟩ inputs).2 =
      pre ++ (ready, .yield ⟨streamId, .data data⟩) :: post)
    (hbound : ∀ c ∈ pre.foldl visibleCheckpoint none, c.number < UInt64.size - 1) :
    ready.configuration = none ∧ ready.ingestion = none ∧
    data.cursor.map (·.number) = (pre.foldl visibleCheckpoint none).map (·.number) ∧
    ∀ e ∈ data.endCursor,
      ((pre.foldl visibleCheckpoint none).map (·.number + 1)).getD 0 ≤ e.number :=
  run_trace (fun driver checkpoint =>
      driver.cursorProducer.current.map (·.number) = checkpoint.map (·.number))
    visibleCheckpoint
    (fun checkpoint ⟨ready, outcome⟩ => ∀ streamId (data : Data β),
      outcome = .yield ⟨streamId, .data data⟩ → (∀ c ∈ checkpoint, c.number < UInt64.size - 1) →
      ready.configuration = none ∧ ready.ingestion = none ∧
      data.cursor.map (·.number) = checkpoint.map (·.number) ∧
      ∀ e ∈ data.endCursor, (checkpoint.map (·.number + 1)).getD 0 ≤ e.number)
    (fun x hx _ _ _ _ hI hstep =>
      ⟨fun _ _ he hbound => step_data (hnum x hx) hI hbound (he ▸ hstep),
        step_visible (hnum x hx) hI hstep⟩)
    rfl h _ _ rfl hbound

/-- An `Invalidate(c)` taken from the ingestion stream is passed on exactly when the
client's place is past block `c`. -/
theorem step_ingestion_invalidate
    (hI : driver.cursorProducer.current.map (·.number) = checkpoint.map (·.number))
    {c : GlobalBlockId} (hc : ready.configuration = none)
    (hi : ready.ingestion = some (.ok (.invalidate c)))
    (h : step batchProducer fromBlockHeaderParent fuel storage driver ready =
      some (driver', outcome)) :
    (∃ err, outcome = .fail err) ∨
      (outcome = .quiet ∧ ∀ v ∈ checkpoint, v.number ≤ c.number) ∨
      ((∃ streamId, outcome = .yield ⟨streamId, .invalidate (some c)⟩) ∧
        ∃ v ∈ checkpoint, c.number < v.number) := by
  rcases step_eq_some h with hfail | ⟨_, _, hc', -⟩ | ⟨message, response, -, hi', hm, -, hout⟩ |
      ⟨-, hi', -⟩
  · exact .inl hfail
  · cases hc.symm.trans hc'
  · cases hi.symm.trans hi'
    have hr := handleIngestionMessage_response storage hm
    cases hcur : driver.cursorProducer.current <;> cases checkpoint <;>
      simp only [hcur, Option.map_none', Option.map_some', Option.some.injEq, reduceCtorEq] at hI
    · rw [hcur] at hr
      rcases hout with ⟨-, rfl⟩ | ⟨_, rfl, -⟩
      · exact .inr (.inl ⟨rfl, by simp⟩)
      · cases hr
    next x v =>
      rw [hcur] at hr
      by_cases hlt : c.number < x.number
      · rcases hout with ⟨rfl, -⟩ | ⟨_, rfl, rfl⟩
        · simp [ingestionResponse, hlt] at hr
        · simp only [ingestionResponse, gt_iff_lt, hlt, if_true,
            IngestionResponse.invalidate.injEq] at hr
          subst hr
          exact .inr (.inr ⟨⟨_, rfl⟩, v, rfl, hI ▸ hlt⟩)
      · rcases hout with ⟨-, rfl⟩ | ⟨_, rfl, -⟩
        · exact .inr (.inl ⟨rfl, fun w hw => by cases hw; omega⟩)
        · simp [ingestionResponse, hlt] at hr
  · cases hi.symm.trans hi'

/-- **Invalidations reach the client.** Along every run of a fresh driver over numbered
storage, an ingestion `Invalidate(c)` is passed on exactly when the earlier responses placed
the client past block `c`; otherwise the iteration yields nothing, or fails. -/
theorem ingestion_invalidate_reaches_client (batchState : σ)
    (inputs : List (StorageReader ε × Ready ε)) (hnum : ∀ x ∈ inputs, x.1.Numbered)
    (pre post : List (Ready ε × Outcome ε β)) (ready : Ready ε) (outcome : Outcome ε β)
    (c : GlobalBlockId)
    (h : (run batchProducer fromBlockHeaderParent fuel ⟨.new, batchState, 0⟩ inputs).2 =
      pre ++ (ready, outcome) :: post)
    (hc : ready.configuration = none) (hi : ready.ingestion = some (.ok (.invalidate c))) :
    (∃ err, outcome = .fail err) ∨
      (outcome = .quiet ∧ ∀ v ∈ pre.foldl visibleCheckpoint none, v.number ≤ c.number) ∨
      ((∃ streamId, outcome = .yield ⟨streamId, .invalidate (some c)⟩) ∧
        ∃ v ∈ pre.foldl visibleCheckpoint none, c.number < v.number) :=
  run_trace (fun driver checkpoint =>
      driver.cursorProducer.current.map (·.number) = checkpoint.map (·.number))
    visibleCheckpoint
    (fun checkpoint ⟨ready, outcome⟩ => ∀ c : GlobalBlockId, ready.configuration = none →
      ready.ingestion = some (.ok (.invalidate c)) →
      (∃ err, outcome = .fail err) ∨
        (outcome = .quiet ∧ ∀ v ∈ checkpoint, v.number ≤ c.number) ∨
        ((∃ streamId, outcome = .yield ⟨streamId, .invalidate (some c)⟩) ∧
          ∃ v ∈ checkpoint, c.number < v.number))
    (fun x hx _ _ _ _ hI hstep =>
      ⟨fun _ hc hi => step_ingestion_invalidate hI hc hi hstep, step_visible (hnum x hx) hI hstep⟩)
    rfl h c hc hi

/-! ## The latest configuration -/

theorem dataFinality_reconfigure {configuration : StreamConfiguration}
    {producer producer' : SequentialCursorProducer} {response : ReconfigureResponse}
    (h : reconfigure storage fromBlockHeaderParent fuel configuration producer =
      some (producer', .ok response))
    (hresponse : response ≠ .missingStartingCursor) :
    producer'.configuration.map (·.dataFinality) = some configuration.finality := by
  rcases reconfigure_eq_some storage fromBlockHeaderParent h with
    ⟨-, h | ⟨e, h⟩⟩ | ⟨_, _, -, -, rfl⟩
  · cases h
    exact absurd rfl hresponse
  · cases h
  · rfl

/-- An iteration stamps what it yields with the `stream_id` of the configuration applied
last, and yields accepted or pending data only as that configuration asked. -/
theorem step_latest {latest : Option StreamConfiguration}
    (hI : driver.streamId = (latest.map (·.streamId)).getD 0 ∧
      driver.cursorProducer.configuration.map (·.dataFinality) = latest.map (·.finality))
    (h : step batchProducer fromBlockHeaderParent fuel storage driver ready =
      some (driver', outcome)) :
    ((∀ response, outcome = .yield response →
        response.streamId =
          ((latestConfiguration latest (ready, outcome)).map (·.streamId)).getD 0) ∧
      ∀ streamId (data : Data β), outcome = .yield ⟨streamId, .data data⟩ →
        (data.finality = .dataStatusAccepted →
          latest.map (·.finality) = some .dataStatusAccepted ∨
            latest.map (·.finality) = some .dataStatusPending) ∧
        (data.finality = .dataStatusPending → latest.map (·.finality) = some .dataStatusPending)) ∧
    ((∀ err, outcome ≠ .fail err) →
      driver'.streamId = ((latestConfiguration latest (ready, outcome)).map (·.streamId)).getD 0 ∧
      driver'.cursorProducer.configuration.map (·.dataFinality) =
        (latestConfiguration latest (ready, outcome)).map (·.finality)) := by
  obtain ⟨hid, hfin⟩ := hI
  rcases step_eq_some h with ⟨err, rfl⟩ |
      ⟨configuration, response, hc, hr, hs, ⟨rfl, rfl⟩ | ⟨a, rfl, rfl⟩⟩ |
      ⟨message, response, hc, hi, hm, hs, ⟨rfl, rfl⟩ | ⟨c, rfl, rfl⟩⟩ |
      ⟨hc, hi, poll, hp, hs, ⟨hpoll, rfl⟩ | ⟨batch, data, rfl, rfl, -, -, hfinality⟩⟩
  · simp
  all_goals
    simp only [latestConfiguration, appliedConfiguration, hc, Option.or_some, Option.none_or]
  · exact ⟨by simp, fun _ => ⟨hs, dataFinality_reconfigure hr (by simp)⟩⟩
  · exact ⟨by simp [hs], fun _ => ⟨hs, dataFinality_reconfigure hr (by simp)⟩⟩
  · exact ⟨by simp, fun _ => ⟨hs.trans hid, (dataFinality_handleIngestionMessage hm).trans hfin⟩⟩
  · exact ⟨by simp [hid],
      fun _ => ⟨hs.trans hid, (dataFinality_handleIngestionMessage hm).trans hfin⟩⟩
  · exact ⟨by simp, fun _ => ⟨hs.trans hid, by rw [dataFinality_pollNext hp, hfin]⟩⟩
  · refine ⟨⟨by simp [hid], ?_⟩, fun _ => ⟨hs.trans hid, by rw [dataFinality_pollNext hp, hfin]⟩⟩
    rintro _ _ ⟨⟩
    obtain ⟨configuration, _, _, hconf, -, he, -⟩ := pollNext_emits storage hp
    rw [hconf, Option.map_some'] at hfin
    rw [← hfin, hfinality]
    simpa using he.allowed

/-- **The latest configuration governs.** Along every run of a fresh driver, each response is
stamped with the `stream_id` of the configuration applied last, and carries accepted or
pending data only if that configuration asked for it. -/
theorem responses_follow_latest_configuration (batchState : σ)
    (inputs : List (StorageReader ε × Ready ε)) (pre post : List (Ready ε × Outcome ε β))
    (ready : Ready ε) (outcome : Outcome ε β)
    (h : (run batchProducer fromBlockHeaderParent fuel ⟨.new, batchState, 0⟩ inputs).2 =
      pre ++ (ready, outcome) :: post) :
    (∀ response, outcome = .yield response →
      response.streamId =
        ((latestConfiguration (pre.foldl latestConfiguration none) (ready, outcome)).map
          (·.streamId)).getD 0) ∧
    ∀ streamId (data : Data β), outcome = .yield ⟨streamId, .data data⟩ →
      (data.finality = .dataStatusAccepted →
        (pre.foldl latestConfiguration none).map (·.finality) = some .dataStatusAccepted ∨
          (pre.foldl latestConfiguration none).map (·.finality) = some .dataStatusPending) ∧
      (data.finality = .dataStatusPending →
        (pre.foldl latestConfiguration none).map (·.finality) = some .dataStatusPending) :=
  run_trace (fun driver latest => driver.streamId = (latest.map (·.streamId)).getD 0 ∧
      driver.cursorProducer.configuration.map (·.dataFinality) = latest.map (·.finality))
    latestConfiguration
    (fun latest ⟨ready, outcome⟩ =>
      (∀ response, outcome = .yield response →
        response.streamId =
          ((latestConfiguration latest (ready, outcome)).map (·.streamId)).getD 0) ∧
      ∀ streamId (data : Data β), outcome = .yield ⟨streamId, .data data⟩ →
        (data.finality = .dataStatusAccepted →
          latest.map (·.finality) = some .dataStatusAccepted ∨
            latest.map (·.finality) = some .dataStatusPending) ∧
        (data.finality = .dataStatusPending → latest.map (·.finality) = some .dataStatusPending))
    (fun _ _ _ _ _ _ hI hstep => step_latest hI hstep) ⟨rfl, rfl⟩ h

end Loop

/-- A batch producer whose blocks are the block numbers of their cursors. -/
def numberBlocks : BatchProducer Unit Unit Nat where
  reconfigure _ _ := .ok ()
  nextBatch _ cursors := .ok ((), cursors.map (·.number))

/-- Stream `7`, finalized data in batches of three from the start. -/
def firstBatchConfiguration : StreamConfiguration := ⟨7, none, .dataStatusFinalized, 3⟩

/-- An iteration with nothing ready on the input streams. -/
def idle : Ready Unit := ⟨none, none, ⟨0⟩⟩

/-- The configuration, then one poll, over a storage holding every block with hash `1`
up to the finalized tip `10`. -/
def firstBatchInputs : List (StorageReader Unit × Ready Unit) :=
  [(sampleStorage, ⟨some (.ok firstBatchConfiguration), none, ⟨0⟩⟩), (sampleStorage, idle)]

/-- The configuration answered `Ok`, yielding nothing. -/
def firstBatchPrefix : List (Ready Unit × Outcome Unit Nat) :=
  [(⟨some (.ok firstBatchConfiguration), none, ⟨0⟩⟩, .quiet)]

/-- The first `Data` message: blocks `0` to `2`. -/
def firstBatchData : Data Nat := ⟨none, some ⟨2, 1⟩, .dataStatusFinalized, [0, 1, 2]⟩

theorem firstBatch_run :
    (run numberBlocks (fun _ => .error ()) 1 ⟨.new, (), 0⟩ firstBatchInputs).2 =
      firstBatchPrefix ++ (idle, .yield ⟨7, .data firstBatchData⟩) :: [] := rfl

/-- The first `Data` message of that stream starts at the beginning and ends at block `2`. -/
theorem first_batch_follows_visible_checkpoint :
    (∀ x ∈ firstBatchInputs, x.1.Numbered) ∧
    (∀ c ∈ firstBatchPrefix.foldl visibleCheckpoint none, c.number < UInt64.size - 1) ∧
    idle.configuration = none ∧ idle.ingestion = none ∧
    firstBatchData.cursor.map (·.number) =
      (firstBatchPrefix.foldl visibleCheckpoint none).map (·.number) ∧
    ∀ e ∈ firstBatchData.endCursor,
      ((firstBatchPrefix.foldl visibleCheckpoint none).map (·.number + 1)).getD 0 ≤ e.number := by
  have hnum : ∀ x ∈ firstBatchInputs, x.1.Numbered := by
    simp only [firstBatchInputs, List.mem_cons, List.mem_singleton, List.not_mem_nil, or_false]
    rintro x (rfl | rfl) <;> exact sampleStorage_numbered
  have hbound : ∀ c ∈ firstBatchPrefix.foldl visibleCheckpoint none,
      c.number < UInt64.size - 1 := by
    simp [firstBatchPrefix, visibleCheckpoint, firstBatchConfiguration]
  exact ⟨hnum, hbound,
    data_follows_visible_checkpoint () _ hnum _ _ _ _ _ firstBatch_run hbound⟩

/-- The first `Data` message of that stream is stamped `7`, as its configuration. -/
theorem first_batch_follows_latest_configuration :
    (run numberBlocks (fun _ => .error ()) 1 ⟨.new, (), 0⟩ firstBatchInputs).2 =
      firstBatchPrefix ++ (idle, .yield ⟨7, .data firstBatchData⟩) :: [] ∧
    7 = ((latestConfiguration (firstBatchPrefix.foldl latestConfiguration none)
      (idle, .yield ⟨7, .data firstBatchData⟩)).map (·.streamId)).getD 0 :=
  ⟨firstBatch_run, (responses_follow_latest_configuration () _ _ _ _ _ firstBatch_run).1 _ rfl⟩

/-- An ingestion `Invalidate` of block `1`, under another hash. -/
def invalidateOne : Ready Unit := ⟨none, some (.ok (.invalidate ⟨1, 5⟩)), ⟨0⟩⟩

theorem invalidateOne_run :
    (run numberBlocks (fun _ => .error ()) 1 ⟨.new, (), 0⟩
        (firstBatchInputs ++ [(sampleStorage, invalidateOne)])).2 =
      (firstBatchPrefix ++ [(idle, .yield ⟨7, .data firstBatchData⟩)]) ++
        (invalidateOne, .yield ⟨7, .invalidate (some ⟨1, 5⟩)⟩) :: [] := rfl

/-- After the first batch, the invalidation of block `1` is passed on: the client had
been placed past it. -/
theorem invalidate_after_first_batch_reaches_client :
    (∀ x ∈ firstBatchInputs ++ [(sampleStorage, invalidateOne)], x.1.Numbered) ∧
    ∃ v ∈ (firstBatchPrefix ++
      [((idle, .yield ⟨7, .data firstBatchData⟩) : Ready Unit × Outcome Unit Nat)]).foldl
        visibleCheckpoint none, 1 < v.number := by
  have hnum : ∀ x ∈ firstBatchInputs ++ [(sampleStorage, invalidateOne)], x.1.Numbered := by
    simp only [firstBatchInputs, List.cons_append, List.nil_append, List.mem_cons,
      List.mem_singleton, List.not_mem_nil, or_false]
    rintro x (rfl | rfl | rfl) <;> exact sampleStorage_numbered
  refine ⟨hnum, ?_⟩
  rcases ingestion_invalidate_reaches_client () _ hnum _ _ _ _ _ invalidateOne_run rfl rfl with
    ⟨_, ⟨⟩⟩ | ⟨⟨⟩, -⟩ | ⟨-, h⟩
  exact h

end DataStream

end ApibaraDna
