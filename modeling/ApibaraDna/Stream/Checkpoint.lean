import ApibaraDna.Stream.Batches

/-!
# The client checkpoint

What the client has been told places it at a cursor: the starting cursor of its
last successful configuration, the end of the last `Finalized` or `Accepted` batch,
or the cursor of the last `Invalidate`. `clientCheckpoint` follows that, from the
observed steps alone.

The producer's `current` is a function of the same observations
(`current_step`), except for one silent case: an ingestion `Invalidate(c)` at the
client's own height is answered `Ok`, yet `lowest_cursor` breaks the tie towards
`c`, so `current` takes `c`'s hash. `trackedCheckpoint` adds that case, and
`current` equals it exactly along every run; the client checkpoint agrees with it on
block numbers.
-/
namespace ApibaraDna

section Checkpoint

variable {ε : Type}

/-- The client checkpoint after an observed step: a successful reconfigure moves it to the
resolved starting cursor or to `r` for `Invalidate(r)`, a `Finalized` or `Accepted` batch to
its end cursor, an `Invalidate(c)` answer to an ingestion message to `c`. -/
def clientCheckpoint (checkpoint : Option GlobalBlockId) (o : Observation ε) :
    Option GlobalBlockId :=
  match o.action, o.reply with
  | .reconfigure configuration, .reconfigure (.ok .ok) =>
    resolvedStartingCursor o.storage configuration.startingCursor
  | _, .reconfigure (.ok (.invalidate r)) => some r
  | _, .handleIngestionMessage (.ok (.invalidate c)) => some c
  | _, .pollNext (.ready (some (.ok (.finalized _ cursors)))) => cursors.getLast?
  | _, .pollNext (.ready (some (.ok (.accepted _ cursor)))) => some cursor
  | _, _ => checkpoint

/-- The client checkpoint, also moved to `c` by an `Invalidate(c)` answered `Ok` at
the checkpoint's own block number. -/
def trackedCheckpoint (checkpoint : Option GlobalBlockId) (o : Observation ε) :
    Option GlobalBlockId :=
  match o.action, o.reply with
  | .handleIngestionMessage (.invalidate c), .handleIngestionMessage (.ok .ok) =>
    if checkpoint.map (·.number) = some c.number then some c else checkpoint
  | _, _ => clientCheckpoint checkpoint o

/-- A step either moves the client checkpoint to a place of its own, or leaves it. -/
theorem clientCheckpoint_cases (checkpoint checkpoint' : Option GlobalBlockId)
    (o : Observation ε) :
    (clientCheckpoint checkpoint o = checkpoint ∧ clientCheckpoint checkpoint' o = checkpoint') ∨
      clientCheckpoint checkpoint o = clientCheckpoint checkpoint' o := by
  unfold clientCheckpoint
  split <;> simp

/-- The tracked checkpoint and the client checkpoint stay at the same block number. -/
theorem trackedCheckpoint_number {checkpoint checkpoint' : Option GlobalBlockId}
    (h : checkpoint.map (·.number) = checkpoint'.map (·.number)) (o : Observation ε) :
    (trackedCheckpoint checkpoint o).map (·.number) =
      (clientCheckpoint checkpoint' o).map (·.number) := by
  unfold trackedCheckpoint
  split
  · simp only [clientCheckpoint]
    split <;> simp_all
  · rcases clientCheckpoint_cases checkpoint checkpoint' o with ⟨h₁, h₂⟩ | h'
    · rw [h₁, h₂, h]
    · rw [h']

/-! ## How `current` moves -/

variable (storage : StorageReader ε) (fromBlockHeaderParent : BlockHeader → Except ε GlobalBlockId)

theorem current_reconfigure {fuel : Nat} {configuration : StreamConfiguration}
    {producer producer' : SequentialCursorProducer}
    {result : Except (StreamError ε) ReconfigureResponse}
    (h : reconfigure storage fromBlockHeaderParent fuel configuration producer =
      some (producer', result)) :
    producer'.current = trackedCheckpoint producer.current
      ⟨storage, .reconfigure configuration, .reconfigure result⟩ := by
  rcases reconfigure_eq_some storage fromBlockHeaderParent h with
    ⟨rfl, rfl | ⟨e, rfl⟩⟩ | ⟨current, response, ho, rfl, rfl⟩
  · rfl
  · rfl
  · rcases startingCursorOutcome_eq_some storage fromBlockHeaderParent ho with
      ⟨rfl, rfl⟩ | ⟨a, rfl, rfl⟩ <;> rfl

/-- The cursor after a message: only `Invalidate(c)` moves it, to the lower of it and `c`. -/
theorem current_absorb (producer : SequentialCursorProducer) (message : IngestionMessage) :
    (producer.configuration.map fun c => c.absorb message).bind (·.current) =
      match message with
      | .invalidate c => producer.current.map (lowestCursor · c)
      | _ => producer.current := by
  rcases producer with ⟨_ | configuration, _, _⟩ <;> cases message <;>
    simp [SequentialCursorProducer.current, BatchConfiguration.absorb]

theorem current_handleIngestionMessage {message : IngestionMessage}
    {producer producer' : SequentialCursorProducer}
    {result : Except (StreamError ε) IngestionResponse}
    (h : handleIngestionMessage storage message producer = (producer', result)) :
    producer'.current = trackedCheckpoint producer.current
      ⟨storage, .handleIngestionMessage message, .handleIngestionMessage result⟩ := by
  rw [handleIngestionMessage_eq] at h
  split at h
  · obtain ⟨rfl, rfl⟩ := Prod.mk.inj h
    cases message <;> rfl
  · obtain ⟨rfl, rfl⟩ := Prod.mk.inj h
    simp only [SequentialCursorProducer.current_wake]
    rw [SequentialCursorProducer.current, current_absorb]
    cases message with
    | invalidate c =>
      cases hx : producer.current with
      | none => simp [trackedCheckpoint, clientCheckpoint, ingestionResponse]
      | some x =>
        simp only [Option.map_some', trackedCheckpoint, ingestionResponse, lowestCursor]
        rcases lt_trichotomy x.number c.number with hlt | heq | hgt
        · simp [hlt, Nat.ne_of_lt hlt, Nat.not_lt_of_gt hlt]
        · simp [heq]
        · simp [hgt, Nat.not_lt_of_gt hgt, clientCheckpoint]
    | _ => rfl

theorem current_pollNext {waker : Waker} {producer producer' : SequentialCursorProducer}
    {poll : Poll (Option (Except (StreamError ε) BatchCursor))}
    (h : pollNext storage waker producer = some (producer', poll)) :
    producer'.current = trackedCheckpoint producer.current
      ⟨storage, .pollNext waker, .pollNext poll⟩ := by
  by_cases hb : ∃ batch, poll = .ready (some (.ok batch))
  · obtain ⟨batch, rfl⟩ := hb
    obtain ⟨configuration, state, configuration', hc, -, he, rfl⟩ := pollNext_emits storage h
    have hcur : producer.current = configuration.current := by
      simp [SequentialCursorProducer.current, hc]
    rw [hcur]
    cases he <;> rfl
  · push_neg at hb
    rw [SequentialCursorProducer.current, pollNext_configuration storage h hb,
      ← SequentialCursorProducer.current]
    rcases poll with (_ | e | b) | _
    · rfl
    · rfl
    · exact absurd rfl (hb b)
    · rfl

/-- **What a step does to `current`.** The cursor the producer keeps after a step is
the tracked checkpoint of what the step observed. -/
theorem current_step {fuel : Nat} {storage : StorageReader ε} {action : Action}
    {producer producer' : SequentialCursorProducer} {reply : Reply ε}
    (h : step fromBlockHeaderParent fuel storage producer action = some (producer', reply)) :
    producer'.current = trackedCheckpoint producer.current ⟨storage, action, reply⟩ := by
  cases action with
  | reconfigure configuration =>
    obtain ⟨⟨p, r⟩, hr, he⟩ := Option.map_eq_some'.1 h
    cases he
    exact current_reconfigure storage fromBlockHeaderParent hr
  | handleIngestionMessage message =>
    cases h
    exact current_handleIngestionMessage storage rfl
  | pollNext waker =>
    obtain ⟨⟨p, poll⟩, hp, he⟩ := Option.map_eq_some'.1 h
    cases he
    exact current_pollNext storage hp

/-- Below `u64::MAX`, the next block is one past the checkpoint's. -/
theorem nextBlockNumber_eq {current checkpoint : Option GlobalBlockId}
    (h : current.map (·.number) = checkpoint.map (·.number))
    (hbound : ∀ c ∈ checkpoint, c.number < UInt64.size - 1) :
    nextBlockNumber current = (checkpoint.map (·.number + 1)).getD 0 := by
  cases current <;> cases checkpoint <;> simp_all only [nextBlockNumber, Option.map_some',
    Option.map_none', Option.getD_some, Option.getD_none, Option.some.injEq, reduceCtorEq,
    Option.mem_def, forall_eq']
  exact u64Add_of_lt (by omega)

/-- **The client's cursor.** Along every run from a fresh producer, `current` sits at
the block number of the client checkpoint, and every batch a poll then emits is
numbered block after block from the one after the checkpoint. -/
theorem current_number_eq_clientCheckpoint (fuel : Nat) (steps : List (StorageReader ε × Action)) :
    let r := run fromBlockHeaderParent fuel .new steps
    let checkpoint := r.2.foldl clientCheckpoint none
    r.1.current.map (·.number) = checkpoint.map (·.number) ∧
      ∀ (storage : StorageReader ε) waker producer' batch, storage.Numbered →
        (∀ c ∈ checkpoint, c.number < UInt64.size - 1) →
        pollNext storage waker r.1 = some (producer', .ready (some (.ok batch))) →
        batch.cursors ≠ [] ∧
          batch.cursors.map (·.number) =
            List.range' ((checkpoint.map (·.number + 1)).getD 0) batch.cursors.length := by
  intro r checkpoint
  have hinv : r.1.current.map (·.number) = checkpoint.map (·.number) :=
    run_invariant fromBlockHeaderParent fuel
      (fun p g => p.current.map (·.number) = g.map (·.number)) clientCheckpoint
      (fun _ _ _ _ _ _ hg hs => by
        beta_reduce at hg ⊢
        rw [current_step fromBlockHeaderParent hs]
        exact trackedCheckpoint_number hg _) rfl
  refine ⟨hinv, fun storage waker _ batch hnum hbound hb => ?_⟩
  obtain ⟨configuration, _, _, hc, _, he, _⟩ := pollNext_emits storage hb
  have hcur : r.1.current = configuration.current := by
    simp [SequentialCursorProducer.current, hc]
  rw [← nextBlockNumber_eq (hcur ▸ hinv) hbound]
  exact ⟨he.cursors_ne_nil, he.numbers hnum⟩

/-- **Every batch starts where the producer says the client is**: at `current`, which is
the tracked checkpoint along every run; an ingestion `Invalidate(c)` answered `Ok` moves
`current` to `c` only at `c`'s own block number. -/
theorem batch_start_eq_trackedCheckpoint (fuel : Nat) (steps : List (StorageReader ε × Action)) :
    let r := run fromBlockHeaderParent fuel .new steps
    (r.1.current = r.2.foldl trackedCheckpoint none ∧
      ∀ (storage : StorageReader ε) waker producer' batch,
        pollNext storage waker r.1 = some (producer', .ready (some (.ok batch))) →
        batch.startCursor = r.2.foldl trackedCheckpoint none) ∧
    ∀ (storage : StorageReader ε) message (producer producer' : SequentialCursorProducer)
      response, handleIngestionMessage storage message producer = (producer', .ok response) →
      (response = .ok → producer'.current = producer.current ∨
        ∃ c, message = .invalidate c ∧ producer.current.map (·.number) = some c.number ∧
          producer'.current = some c) ∧
      ∀ c, response = .invalidate c → producer'.current = some c := by
  intro r
  have hinv : r.1.current = r.2.foldl trackedCheckpoint none :=
    run_invariant fromBlockHeaderParent fuel (fun p g => p.current = g) trackedCheckpoint
      (fun _ _ _ _ _ _ hg hs => hg ▸ current_step fromBlockHeaderParent hs) rfl
  refine ⟨⟨hinv, fun storage waker _ batch hb => ?_⟩, ?_⟩
  · obtain ⟨configuration, _, _, hc, _, he, _⟩ := pollNext_emits storage hb
    rw [← hinv, he.startCursor]
    simp [SequentialCursorProducer.current, hc]
  · intro storage message producer producer' response h
    have hcur := current_handleIngestionMessage storage h
    refine ⟨fun hok => ?_, fun c hc => ?_⟩
    · subst hok
      cases message with
      | invalidate c =>
        simp only [trackedCheckpoint] at hcur
        split at hcur
        · exact .inr ⟨c, rfl, ‹_›, hcur⟩
        · exact .inl hcur
      | _ => exact .inl hcur
    · subst hc
      cases message <;> exact hcur

end Checkpoint

/-- The configuration of `finalizedClient`, over the sample storage. -/
def finalizedFromStart : List (StorageReader Unit × Action) :=
  [(sampleStorage, .reconfigure ⟨0, none, .dataStatusFinalized, 3⟩)]

/-- After that configuration the client checkpoint is the start, and the first poll emits
blocks `0` to `2`, numbered from block `0`. -/
theorem first_batch_numbered_from_checkpoint :
    sampleStorage.Numbered ∧
    (∀ c ∈ (run (fun _ => .error ()) 1 .new finalizedFromStart).2.foldl clientCheckpoint none,
      c.number < UInt64.size - 1) ∧
    pollNext sampleStorage ⟨0⟩ (run (fun _ => .error ()) 1 .new finalizedFromStart).1 =
      some (firstPolledClient, .ready (some (.ok firstFinalizedBatch))) ∧
    firstFinalizedBatch.cursors ≠ [] ∧
    firstFinalizedBatch.cursors.map (·.number) =
      List.range' ((((run (fun _ => .error ()) 1 .new finalizedFromStart).2.foldl
        clientCheckpoint none).map (·.number + 1)).getD 0) firstFinalizedBatch.cursors.length :=
  have hbound : ∀ c ∈ (run (fun _ => .error ()) 1 .new finalizedFromStart).2.foldl
      clientCheckpoint none, c.number < UInt64.size - 1 := by rintro c ⟨⟩
  ⟨sampleStorage_numbered, hbound, pollNext_finalizedClient,
    (current_number_eq_clientCheckpoint (fun _ => .error ()) 1 finalizedFromStart).2 sampleStorage
      ⟨0⟩ _ _ sampleStorage_numbered hbound pollNext_finalizedClient⟩

/-- A client at block `10` (hash `1`) hears `Invalidate` at block `10` with hash `2`,
answered `Ok`, then a finalized tip at `20`: the next batch starts at hash `2`,
where the client was never told to be. -/
theorem silent_invalidate_moves_batch_start :
    let r := run (fun _ => .error ()) 1 .new
      [(sampleStorage, .reconfigure ⟨0, some ⟨10, 1⟩, .dataStatusFinalized, 3⟩),
        (sampleStorage, .handleIngestionMessage (.invalidate ⟨10, 2⟩)),
        (sampleStorage, .handleIngestionMessage (.finalized ⟨20, 1⟩))]
    r.2.map (·.reply) = [.reconfigure (.ok .ok), .handleIngestionMessage (.ok .ok),
        .handleIngestionMessage (.ok .ok)] ∧
      r.2.foldl clientCheckpoint none = some ⟨10, 1⟩ ∧
      (pollNext sampleStorage ⟨0⟩ r.1).map (·.2) =
        some (.ready (some (.ok (.finalized (some ⟨10, 2⟩) [⟨11, 1⟩, ⟨12, 1⟩, ⟨13, 1⟩])))) :=
  ⟨rfl, rfl, rfl⟩

end ApibaraDna
