import ApibaraDna.Stream.Batches

/-!
# The finality filter

A poll serves finalized data up to the finalized tip, accepted data up to the
accepted tip only to a client that asked for accepted or pending data, and one
pending block only to a client that asked for pending data. `WithinTips` states
this against the view and the configuration the poll read.

After an ingestion `Invalidate(c)` the view holds no tip above `c` and no pending
block, and only an `Accepted`, `Finalized` or `Pending` message can raise one again
(`TipsAtMost`), so until then nothing above `c` is served.
-/
namespace ApibaraDna

/-- What a batch may hold, given the view and the configuration its poll read. -/
def WithinTips (state : IngestionState) (configuration : BatchConfiguration) :
    BatchCursor → Prop
  | .finalized _ cursors => ∃ finalized, state.finalized = some finalized ∧
      ∀ c ∈ cursors, nextBlockNumber configuration.current ≤ c.number ∧
        c.number ≤ finalized.number
  | .accepted _ _ =>
    (configuration.dataFinality = .dataStatusAccepted ∨
      configuration.dataFinality = .dataStatusPending) ∧
    (∀ f ∈ state.finalized, f.number < nextBlockNumber configuration.current) ∧
    ∃ accepted, state.accepted = some accepted ∧
      nextBlockNumber configuration.current ≤ accepted.number
  | .pending _ _ =>
    configuration.dataFinality = .dataStatusPending ∧ configuration.pendingSent = false ∧
    (∀ f ∈ state.finalized, f.number < nextBlockNumber configuration.current) ∧
    (∀ a ∈ state.accepted, a.number < nextBlockNumber configuration.current) ∧
    ∃ pending, state.pending = some pending ∧
      nextBlockNumber configuration.current ≤ pending.number

/-- Every tip of the view is at most block `n`, and no pending block is known. -/
def TipsAtMost (n : Nat) (state : IngestionState) : Prop :=
  (∀ f ∈ state.finalized, f.number ≤ n) ∧ (∀ a ∈ state.accepted, a.number ≤ n) ∧
    state.pending = none

/-- The ingestion messages that set a tip. -/
def Action.raisesTip : Action → Bool
  | .handleIngestionMessage (.pending _) | .handleIngestionMessage (.accepted _)
  | .handleIngestionMessage (.finalized _) => true
  | _ => false

theorem lowestCursor_number_le_left (a b : GlobalBlockId) :
    (lowestCursor a b).number ≤ a.number := by
  unfold lowestCursor; split <;> omega

theorem lowestCursor_number_le_right (a b : GlobalBlockId) :
    (lowestCursor a b).number ≤ b.number := by
  unfold lowestCursor; split <;> omega

/-- An `Invalidate(c)` brings every tip to `c` or below and drops the pending block. -/
theorem tipsAtMost_absorb_invalidate (c : GlobalBlockId) (state : IngestionState) :
    TipsAtMost c.number (state.absorb (.invalidate c)) := by
  refine ⟨?_, ?_, rfl⟩ <;>
    simp [IngestionState.absorb, lowestCursor_number_le_right]

/-- A later `Invalidate` only lowers the tips. -/
theorem TipsAtMost.absorb_invalidate {n : Nat} {state : IngestionState}
    (h : TipsAtMost n state) (c : GlobalBlockId) : TipsAtMost n (state.absorb (.invalidate c)) := by
  obtain ⟨hf, ha, -⟩ := h
  refine ⟨?_, ?_, rfl⟩ <;> simp only [IngestionState.absorb, Option.mem_def, Option.map_eq_some',
    forall_exists_index, and_imp]
  · rintro _ f hf' rfl
    exact (lowestCursor_number_le_left f c).trans (hf f hf')
  · rintro _ a ha' rfl
    exact (lowestCursor_number_le_left a c).trans (ha a ha')

/-- A poll's batch lies within the tips of the view it read. -/
theorem withinTips_of_emits {ε : Type} {storage : StorageReader ε} {state : IngestionState}
    {configuration configuration' : BatchConfiguration} {batch : BatchCursor}
    (hnum : storage.Numbered) (h : Emits storage state configuration batch configuration') :
    WithinTips state configuration batch := by
  have hle := fun start cursors (h' : Emits storage state configuration
    (.finalized start cursors) configuration') => h'.finalized_le hnum
  cases h with
  | finalized => exact hle _ _ (.finalized ‹_› ‹_› ‹_› ‹_› ‹_›)
  | accepted hf ha hn hd => exact ⟨hd, hf, _, ha, hn⟩
  | pending hf ha hp hn hd hs => exact ⟨hd, hs, hf, ha, _, hp, hn⟩

section Finality

variable {ε : Type} (fromBlockHeaderParent : BlockHeader → Except ε GlobalBlockId)

/-- **The finality filter.** A poll's batch lies within the tips of the view and the finality
of the configuration it read; after an ingestion `Invalidate(c)`, until a message sets a
tip, nothing above block `c` is emitted. -/
theorem poll_within_tips :
    (∀ (storage : StorageReader ε) waker (producer producer' : SequentialCursorProducer) batch,
      storage.Numbered →
      pollNext storage waker producer = some (producer', .ready (some (.ok batch))) →
      ∃ configuration state, producer.configuration = some configuration ∧
        producer'.ingestionState = some state ∧
        WithinTips state configuration batch ∧
        (configuration.dataFinality = .dataStatusFinalized ∨
            configuration.dataFinality = .dataStatusUnknown →
          ∃ cursors, batch = .finalized configuration.current cursors)) ∧
    ∀ fuel (storage : StorageReader ε) c (producer producer₁ : SequentialCursorProducer)
      response steps,
      handleIngestionMessage storage (.invalidate c) producer = (producer₁, .ok response) →
      (∀ x ∈ steps, x.2.raisesTip = false) →
      ∀ (storage' : StorageReader ε) waker producer' batch, storage'.Numbered →
        pollNext storage' waker (run fromBlockHeaderParent fuel producer₁ steps).1 =
          some (producer', .ready (some (.ok batch))) →
        ∀ b ∈ batch.cursors, b.number ≤ c.number := by
  refine ⟨fun storage waker producer _ batch hnum hb => ?_, ?_⟩
  · obtain ⟨configuration, state, configuration', hc, _, he, rfl⟩ := pollNext_emits storage hb
    refine ⟨configuration, state, hc, rfl, withinTips_of_emits hnum he, fun hd => ?_⟩
    cases he with
    | finalized => exact ⟨_, rfl⟩
    | accepted _ _ _ hd' => rcases hd with h | h <;> rcases hd' with h' | h' <;> simp_all
    | pending _ _ _ _ hd' => rcases hd with h | h <;> simp_all
  · intro fuel storage c producer producer₁ response steps hinvalidate hsteps storage' waker _ batch
      hnum hb b hbmem
    rw [handleIngestionMessage_eq] at hinvalidate
    split at hinvalidate
    · cases (Prod.mk.inj hinvalidate).2
    obtain ⟨hp₁, -⟩ := Prod.mk.inj hinvalidate
    obtain ⟨state, hstate, hf, ha, hp⟩ : ∃ state,
        (run fromBlockHeaderParent fuel producer₁ steps).1.ingestionState = some state ∧
          TipsAtMost c.number state :=
      run_preserves fromBlockHeaderParent fuel
        (fun p => ∃ state, p.ingestionState = some state ∧ TipsAtMost c.number state)
        (fun x hx p p' reply ⟨state, hstate, htips⟩ hs => by
          rcases ingestionState_step fromBlockHeaderParent fuel hstate hs with h | ⟨m, hm, h⟩
          · exact ⟨state, h, htips⟩
          · refine ⟨_, h, ?_⟩
            have := hsteps x hx
            rw [hm] at this
            cases m <;> simp_all [Action.raisesTip, TipsAtMost.absorb_invalidate])
        ⟨_, by rw [← hp₁]; rfl, tipsAtMost_absorb_invalidate c _⟩
    obtain ⟨configuration, state', configuration', hc, hs, he, -⟩ := pollNext_emits storage' hb
    rw [hstate] at hs
    cases hs
    cases he with
    | finalized hF =>
      obtain ⟨finalized, hF', hle⟩ := withinTips_of_emits hnum (.finalized hF ‹_› ‹_› ‹_› ‹_›)
      exact (hle b hbmem).2.trans (hf finalized hF')
    | accepted _ hA hn _ hcanonical =>
      rw [BatchCursor.cursors_accepted, List.mem_singleton] at hbmem
      subst hbmem
      rw [hnum _ _ hcanonical]
      exact hn.trans (ha _ hA)
    | pending _ _ hP => simp_all

end Finality

/-- `firstPolledClient` after an ingestion `Invalidate` at block `5`: still at block `2`,
with both tips lowered to the new head. -/
def invalidatedAtFive : SequentialCursorProducer :=
  ⟨some ⟨some ⟨2, 1⟩, false, .dataStatusFinalized, 3⟩, some ⟨some ⟨5, 2⟩, some ⟨5, 2⟩, none⟩, none⟩

/-- The first poll of a client of finalized data serves finalized data within the tips it
read; after an `Invalidate` at block `5`, the next poll serves blocks `3` to `5`. -/
theorem polls_within_tips_around_invalidate :
    sampleStorage.Numbered ∧
    pollNext sampleStorage ⟨0⟩ finalizedClient =
      some (firstPolledClient, .ready (some (.ok firstFinalizedBatch))) ∧
    (∃ configuration state, finalizedClient.configuration = some configuration ∧
      firstPolledClient.ingestionState = some state ∧
      WithinTips state configuration firstFinalizedBatch ∧
      (configuration.dataFinality = .dataStatusFinalized ∨
          configuration.dataFinality = .dataStatusUnknown →
        ∃ cursors, firstFinalizedBatch = .finalized configuration.current cursors)) ∧
    handleIngestionMessage sampleStorage (.invalidate ⟨5, 2⟩) firstPolledClient =
      (invalidatedAtFive, .ok .ok) ∧
    (∀ x ∈ ([] : List (StorageReader Unit × Action)), x.2.raisesTip = false) ∧
    pollNext sampleStorage ⟨0⟩ (run (fun _ => .error ()) 0 invalidatedAtFive []).1 =
      some (⟨some ⟨some ⟨5, 1⟩, false, .dataStatusFinalized, 3⟩,
          some ⟨some ⟨5, 2⟩, some ⟨5, 2⟩, none⟩, none⟩,
        .ready (some (.ok (.finalized (some ⟨2, 1⟩) [⟨3, 1⟩, ⟨4, 1⟩, ⟨5, 1⟩])))) ∧
    ∀ b ∈ (BatchCursor.finalized (some ⟨2, 1⟩) [⟨3, 1⟩, ⟨4, 1⟩, ⟨5, 1⟩]).cursors,
      b.number ≤ (⟨5, 2⟩ : GlobalBlockId).number :=
  have hinvalidate : handleIngestionMessage sampleStorage (.invalidate ⟨5, 2⟩) firstPolledClient =
      (invalidatedAtFive, .ok .ok) := rfl
  have hpoll : pollNext sampleStorage ⟨0⟩ (run (fun _ => .error ()) 0 invalidatedAtFive []).1 =
      some (⟨some ⟨some ⟨5, 1⟩, false, .dataStatusFinalized, 3⟩,
          some ⟨some ⟨5, 2⟩, some ⟨5, 2⟩, none⟩, none⟩,
        .ready (some (.ok (.finalized (some ⟨2, 1⟩) [⟨3, 1⟩, ⟨4, 1⟩, ⟨5, 1⟩])))) := rfl
  ⟨sampleStorage_numbered, pollNext_finalizedClient,
    (poll_within_tips (fun _ => .error ())).1 _ _ _ _ _ sampleStorage_numbered
      pollNext_finalizedClient,
    hinvalidate, nofun,
    hpoll, (poll_within_tips (fun _ => .error ())).2 0 _ _ _ _ _ [] hinvalidate nofun _ _ _ _
      sampleStorage_numbered hpoll⟩

/-! ## The finality a producer serves -/

/-- The finality of a batch, which `handle_batch_cursor` sends with it. -/
def BatchCursor.dataFinality : BatchCursor → DataFinality
  | .finalized _ _ => .dataStatusFinalized
  | .accepted _ _ => .dataStatusAccepted
  | .pending _ _ => .dataStatusPending

section Served

variable {ε : Type} {storage : StorageReader ε}

/-- Only a reconfigure changes the finality the cursor producer serves. -/
theorem Emits.dataFinality {state : IngestionState}
    {configuration configuration' : BatchConfiguration} {batch : BatchCursor}
    (h : Emits storage state configuration batch configuration') :
    configuration'.dataFinality = configuration.dataFinality := by
  cases h <;> rfl

/-- A poll emits accepted data only to a client asking for accepted or pending data, and
pending data only to one asking for pending data. -/
theorem Emits.allowed {state : IngestionState} {configuration configuration' : BatchConfiguration}
    {batch : BatchCursor} (h : Emits storage state configuration batch configuration') :
    (batch.dataFinality = .dataStatusAccepted →
      configuration.dataFinality = .dataStatusAccepted ∨
        configuration.dataFinality = .dataStatusPending) ∧
    (batch.dataFinality = .dataStatusPending →
      configuration.dataFinality = .dataStatusPending) := by
  cases h <;> simp_all [BatchCursor.dataFinality]

theorem dataFinality_pollNext {waker : Waker} {producer producer' : SequentialCursorProducer}
    {poll : Poll (Option (Except (StreamError ε) BatchCursor))}
    (h : pollNext storage waker producer = some (producer', poll)) :
    producer'.configuration.map (·.dataFinality) = producer.configuration.map (·.dataFinality) := by
  by_cases hb : ∃ batch, poll = .ready (some (.ok batch))
  · obtain ⟨batch, rfl⟩ := hb
    obtain ⟨_, _, _, hc, -, he, rfl⟩ := pollNext_emits storage h
    simp [hc, he.dataFinality]
  · push_neg at hb
    rw [pollNext_configuration storage h hb]

theorem dataFinality_handleIngestionMessage {message : IngestionMessage}
    {producer producer' : SequentialCursorProducer}
    {result : Except (StreamError ε) IngestionResponse}
    (h : handleIngestionMessage storage message producer = (producer', result)) :
    producer'.configuration.map (·.dataFinality) = producer.configuration.map (·.dataFinality) := by
  rw [handleIngestionMessage_eq] at h
  split at h <;> obtain ⟨rfl, -⟩ := Prod.mk.inj h
  · rfl
  · cases message <;> simp [Option.map_map, Function.comp_def, BatchConfiguration.absorb]

end Served

end ApibaraDna
