import ApibaraDna.Stream.Responses
import ApibaraDna.Stream.Finality
import ApibaraDna.Stream.Wakeup

/-!
# Silence after a reorganisation

When the ingestion stream reports that the chain was reorganised below the client's place,
`handle_ingestion_message` lowers the client's `current` to the new head `c`, lowers every
tip of the view to `c` or below, forgets the pending block, and the driver sends
`Invalidate(c)`. From then on the next block is above every tip, so `next_cursor` finds
nothing: the stream sends no `Data` until the ingestion stream announces a tip or the client
sends a configuration. The head must be below `u64::MAX`, where `c.number() + 1` wraps to
block `0`.
-/

namespace ApibaraDna

/-- The producer after a reorganisation: configured at a cursor below `u64::MAX`, with a view
whose tips are at or below it and no pending block. -/
def Silent (producer : SequentialCursorProducer) : Prop :=
  ∃ configuration current state, producer.configuration = some configuration ∧
    configuration.current = some current ∧ current.number < UInt64.size - 1 ∧
    producer.ingestionState = some state ∧ TipsAtMost current.number state

section Silent

variable {ε : Type} {storage : StorageReader ε} {producer producer' : SequentialCursorProducer}

private theorem filter_eq_none_of_below {o : Option GlobalBlockId} {n : Nat}
    (h : ∀ t ∈ o, t.number < n) : o.filter (fun t => decide (n ≤ t.number)) = none := by
  cases o with
  | none => rfl
  | some t => simpa [Option.filter_some] using h t rfl

/-- With every tip below the next block, `next_cursor_with_configuration` finds nothing. -/
theorem nextCursorWithConfiguration_below_tips {state : IngestionState}
    {configuration : BatchConfiguration}
    (hf : ∀ f ∈ state.finalized, f.number < nextBlockNumber configuration.current)
    (ha : ∀ a ∈ state.accepted, a.number < nextBlockNumber configuration.current)
    (hp : state.pending = none) :
    nextCursorWithConfiguration storage state configuration = some (.ok none) := by
  simp only [nextCursorWithConfiguration, filter_eq_none_of_below hf, filter_eq_none_of_below ha,
    hp, Option.filter_none]

/-- A silent producer finds nothing: a poll returns, is pending and keeps it silent. -/
theorem Silent.pollNext (hs : Silent producer) (waker : Waker) :
    ∃ producer', pollNext storage waker producer = some (producer', .pending) ∧
      Silent producer' := by
  obtain ⟨configuration, current, state, hc, hcur, hbound, hstate, hf, ha, hp⟩ := hs
  have hnext : nextBlockNumber configuration.current = current.number + 1 := by
    simp [nextBlockNumber, hcur, u64Add,
      Nat.mod_eq_of_lt (show current.number + 1 < UInt64.size by omega)]
  have hn : nextCursor storage producer =
      some ({ producer with ingestionState := some state }, .ok none) := by
    rw [nextCursor, hc]
    simp only [hstate, getIngestionState]
    rw [nextCursorWithConfiguration_below_tips
      (by rw [hnext]; exact fun f h => Nat.lt_succ_of_le (hf f h))
      (by rw [hnext]; exact fun a h => Nat.lt_succ_of_le (ha a h)) hp]
  exact ⟨_, (pollNext_of_ok_none waker hn).1, configuration, current, state, hc, hcur, hbound, rfl,
    hf, ha, hp⟩

/-- A silent producer stays silent through an `Invalidate`: `current` and every tip can only
go down. -/
theorem Silent.handleIngestionMessage_invalidate (hs : Silent producer) {c : GlobalBlockId}
    {result : Except (StreamError ε) IngestionResponse}
    (h : handleIngestionMessage storage (.invalidate c) producer = (producer', result)) :
    Silent producer' := by
  obtain ⟨configuration, current, state, hc, hcur, hbound, hstate, htips⟩ := hs
  rw [handleIngestionMessage_eq, hstate] at h
  obtain ⟨rfl, -⟩ := Prod.mk.inj h
  refine ⟨configuration.absorb (.invalidate c), lowestCursor current c,
    state.absorb (.invalidate c), by simp [hc], by simp [BatchConfiguration.absorb, hcur],
    (lowestCursor_number_le_left current c).trans_lt hbound, rfl, ?_⟩
  by_cases hlt : current.number < c.number
  · simpa [lowestCursor, hlt] using htips.absorb_invalidate c
  · simpa [lowestCursor, hlt] using tipsAtMost_absorb_invalidate c state

/-- The answer to a message is `Invalidate(c)` exactly for an `Invalidate(c)` below the
client's place. -/
theorem ingestionResponse_eq_invalidate {message : IngestionMessage}
    {current : Option GlobalBlockId} {c : GlobalBlockId} :
    ingestionResponse message current = .invalidate c ↔
      message = .invalidate c ∧ ∃ x ∈ current, c.number < x.number := by
  cases message with
  | invalidate c' =>
    cases current with
    | none => simp [ingestionResponse]
    | some x =>
      simp only [ingestionResponse, IngestionMessage.invalidate.injEq, Option.mem_def,
        Option.some.injEq, exists_eq_left']
      split
      next hlt =>
        simp only [IngestionResponse.invalidate.injEq]
        exact ⟨fun h => ⟨h, h ▸ hlt⟩, fun h => h.1⟩
      next hle =>
        simp only [reduceCtorEq, false_iff, not_and]
        rintro rfl
        exact hle
  | _ => simp [ingestionResponse]

/-- A message answered `Invalidate(c)` leaves the producer silent at `c`. -/
theorem silent_of_invalidate {message : IngestionMessage} {c : GlobalBlockId}
    (hc : c.number < UInt64.size - 1)
    (h : handleIngestionMessage storage message producer = (producer', .ok (.invalidate c))) :
    Silent producer' := by
  obtain ⟨rfl, current, hcur, hlt⟩ :=
    ingestionResponse_eq_invalidate.1 (handleIngestionMessage_response storage h).symm
  obtain ⟨configuration, hc', hcur'⟩ := Option.bind_eq_some.1 hcur
  rw [handleIngestionMessage_eq] at h
  split at h
  · cases (Prod.mk.inj h).2
  next state _ =>
    obtain ⟨rfl, -⟩ := Prod.mk.inj h
    refine ⟨configuration.absorb (.invalidate c), c, state.absorb (.invalidate c), by simp [hc'],
      ?_, hc, rfl, tipsAtMost_absorb_invalidate c state⟩
    simp [BatchConfiguration.absorb, hcur', lowestCursor, Nat.not_lt.2 hlt.le]

end Silent

namespace DataStream

/-- Whether an iteration takes an item after which data may flow again after a
reorganisation: a configuration, or, with none ready, an ingestion message that sets a tip. -/
def Ready.raisesTip {ε : Type} (ready : Ready ε) : Bool :=
  match ready.configuration, ready.ingestion with
  | some _, _ => true
  | none, some (.ok message) => (Action.handleIngestionMessage message).raisesTip
  | _, _ => false

section Stream

variable {ε σ β : Type} {batchProducer : BatchProducer ε σ β}
  {fromBlockHeaderParent : BlockHeader → Except ε GlobalBlockId} {fuel : Nat}
  {storage : StorageReader ε} {driver driver' : Driver σ} {ready : Ready ε}
  {outcome : Outcome ε β}

/-- **Step lemma.** With the producer silent, an iteration that raises no tip sends no `Data`,
and, unless it fails, leaves the producer silent. -/
theorem step_silent (hs : Silent driver.cursorProducer) (hr : ready.raisesTip = false)
    (h : step batchProducer fromBlockHeaderParent fuel storage driver ready =
      some (driver', outcome)) :
    (∀ streamId (data : Data β), outcome ≠ .yield ⟨streamId, .data data⟩) ∧
      ((∀ err, outcome ≠ .fail err) → Silent driver'.cursorProducer) := by
  rcases step_eq_some h with ⟨err, rfl⟩ | ⟨_, _, hc, -⟩ |
      ⟨message, response, hc, hi, hm, -, hout⟩ | ⟨hc, hi, poll, hp, -, hout⟩
  · exact ⟨by simp, fun hf => absurd rfl (hf err)⟩
  · simp [Ready.raisesTip, hc] at hr
  · -- an ingestion message that sets no tip is an `Invalidate`
    obtain ⟨c, rfl⟩ : ∃ c, message = .invalidate c := by
      cases message <;> simp_all [Ready.raisesTip, Action.raisesTip]
    refine ⟨?_, fun _ => hs.handleIngestionMessage_invalidate hm⟩
    rcases hout with ⟨-, rfl⟩ | ⟨_, -, rfl⟩ <;> simp
  · -- a poll is pending
    obtain ⟨p, hpending, hsilent⟩ : ∃ p, pollNext storage ready.waker driver.cursorProducer =
        some (p, .pending) ∧ Silent p := hs.pollNext ready.waker
    obtain ⟨rfl, rfl⟩ := Prod.mk.inj (Option.some.inj (hp.symm.trans hpending))
    refine ⟨?_, fun _ => hsilent⟩
    rcases hout with ⟨-, rfl⟩ | ⟨_, _, hpoll, -⟩
    · simp
    · cases hpoll

/-- An iteration that passes an ingestion `Invalidate(c)` on to the client leaves the producer
silent at `c`. -/
theorem step_invalidate_silent {streamId : Nat} {c : GlobalBlockId}
    (hready : ready.configuration = none) (hc : c.number < UInt64.size - 1)
    (h : step batchProducer fromBlockHeaderParent fuel storage driver ready =
      some (driver', .yield ⟨streamId, .invalidate (some c)⟩)) :
    Silent driver'.cursorProducer := by
  rcases step_eq_some h with ⟨err, herr⟩ | ⟨_, _, hc', -⟩ |
      ⟨message, response, -, -, hm, -, hout⟩ | ⟨-, -, _, -, -, hout⟩
  · cases herr
  · cases hready.symm.trans hc'
  · rcases hout with ⟨-, hquiet⟩ | ⟨c', rfl, hy⟩
    · cases hquiet
    · obtain ⟨-, rfl⟩ : streamId = driver.streamId ∧ c = c' := by simpa using hy
      exact silent_of_invalidate hc hm
  · rcases hout with ⟨-, hy⟩ | ⟨_, _, -, hy, -⟩ <;> cases hy

/-- The trace of a run, from one of its iterations on: what it found ready and yielded was
one step of the driver, and after it the run goes on from the driver it left, unless it
failed. -/
theorem run_eq_cons {inputs : List (StorageReader ε × Ready ε)} {y : Ready ε × Outcome ε β}
    {rest : List (Ready ε × Outcome ε β)}
    (h : (run batchProducer fromBlockHeaderParent fuel driver inputs).2 = y :: rest) :
    ∃ storage inputs' driver', inputs = (storage, y.1) :: inputs' ∧
      step batchProducer fromBlockHeaderParent fuel storage driver y.1 = some (driver', y.2) ∧
      ((∃ err, y.2 = .fail err) ∧ rest = [] ∨
        (∀ err, y.2 ≠ .fail err) ∧
          (run batchProducer fromBlockHeaderParent fuel driver' inputs').2 = rest) := by
  match inputs, h with
  | (storage, ready) :: inputs', h =>
    simp only [run] at h
    split at h
    · cases h
    next driver' err hstep =>
      obtain ⟨rfl, rfl⟩ := List.cons.inj h
      exact ⟨storage, inputs', driver', rfl, hstep, .inl ⟨⟨err, rfl⟩, rfl⟩⟩
    next driver' outcome hfail hstep =>
      obtain ⟨rfl, rfl⟩ := List.cons.inj h
      exact ⟨storage, inputs', driver', rfl, hstep, .inr ⟨hfail, rfl⟩⟩

theorem run_eq_append_cons {inputs : List (StorageReader ε × Ready ε)} {y : Ready ε × Outcome ε β}
    {pre rest : List (Ready ε × Outcome ε β)}
    (h : (run batchProducer fromBlockHeaderParent fuel driver inputs).2 = pre ++ y :: rest) :
    ∃ d storage inputs' d',
      step batchProducer fromBlockHeaderParent fuel storage d y.1 = some (d', y.2) ∧
      ((∃ err, y.2 = .fail err) ∧ rest = [] ∨
        (∀ err, y.2 ≠ .fail err) ∧
          (run batchProducer fromBlockHeaderParent fuel d' inputs').2 = rest) := by
  induction pre generalizing driver inputs with
  | nil =>
    obtain ⟨storage, inputs', d', -, hstep, hrest⟩ := run_eq_cons h
    exact ⟨driver, storage, inputs', d', hstep, hrest⟩
  | cons x pre ih =>
    obtain ⟨_, _, _, -, -, ⟨-, hnil⟩ | ⟨-, hrun⟩⟩ := run_eq_cons h
    · simp at hnil
    · exact ih hrun

/-- **Run lemma.** From a silent producer, iterations that raise no tip send no `Data`. -/
theorem run_silent_quiet (hs : Silent driver.cursorProducer)
    {inputs : List (StorageReader ε × Ready ε)}
    {mid post : List (Ready ε × Outcome ε β)}
    (h : (run batchProducer fromBlockHeaderParent fuel driver inputs).2 = mid ++ post)
    (hmid : ∀ z ∈ mid, z.1.raisesTip = false) :
    ∀ z ∈ mid, ∀ streamId (data : Data β), z.2 ≠ .yield ⟨streamId, .data data⟩ := by
  induction mid generalizing driver inputs with
  | nil => simp
  | cons z mid ih =>
    obtain ⟨_, _, driver', -, hstep, hrest⟩ := run_eq_cons h
    obtain ⟨hquiet, hsilent⟩ := step_silent hs (hmid z (.head _)) hstep
    intro z' hz'
    rcases List.mem_cons.1 hz' with rfl | hz'
    · exact hquiet
    rcases hrest with ⟨-, hnil⟩ | ⟨hfail, hrun⟩
    · rw [(List.append_eq_nil.1 hnil).1] at hz'
      cases hz'
    · exact ih (hsilent hfail) hrun (fun y hy => hmid y (.tail _ hy)) z' hz'

/-- **Silence after a reorganisation.** Along every run of the driver, once an ingestion
`Invalidate(c)` below `u64::MAX` has reached the client, no `Data` message is sent until a
configuration or an ingestion message that sets a tip. -/
theorem no_data_after_reorg_until_new_tip (driver : Driver σ)
    (inputs : List (StorageReader ε × Ready ε)) (pre mid post : List (Ready ε × Outcome ε β))
    (ready : Ready ε) (streamId : Nat) (c : GlobalBlockId)
    (h : (run batchProducer fromBlockHeaderParent fuel driver inputs).2 =
      pre ++ (ready, .yield ⟨streamId, .invalidate (some c)⟩) :: mid ++ post)
    (hready : ready.configuration = none) (hc : c.number < UInt64.size - 1)
    (hmid : ∀ z ∈ mid, z.1.raisesTip = false) :
    ∀ z ∈ mid, ∀ streamId' (data : Data β), z.2 ≠ .yield ⟨streamId', .data data⟩ := by
  rw [List.append_assoc, List.cons_append] at h
  obtain ⟨_, _, _, d', hstep, ⟨⟨err, herr⟩, -⟩ | ⟨-, hrun⟩⟩ := run_eq_append_cons h
  · cases herr
  · exact run_silent_quiet (step_invalidate_silent hready hc hstep) hrun hmid

end Stream

/-- The inputs of the first batch, the invalidation of block `1`, and two polls. -/
def reorgInputs : List (StorageReader Unit × Ready Unit) :=
  firstBatchInputs ++ [(sampleStorage, invalidateOne), (sampleStorage, idle), (sampleStorage, idle)]

theorem reorg_run :
    (run numberBlocks (fun _ => .error ()) 1 ⟨.new, (), 0⟩ reorgInputs).2 =
      (firstBatchPrefix ++ [(idle, .yield ⟨7, .data firstBatchData⟩)]) ++
        (invalidateOne, .yield ⟨7, .invalidate (some ⟨1, 5⟩)⟩) ::
          [(idle, .quiet), (idle, .quiet)] ++
        [] := rfl

/-- After block `1` is invalidated under the first batch, polls find nothing: every tip is
at block `1` and the client is there. -/
theorem polls_quiet_after_invalidate :
    invalidateOne.configuration = none ∧ (⟨1, 5⟩ : GlobalBlockId).number < UInt64.size - 1 ∧
      ∀ z ∈ [((idle, .quiet) : Ready Unit × Outcome Unit Nat), (idle, .quiet)],
        ∀ streamId (data : Data Nat), z.2 ≠ .yield ⟨streamId, .data data⟩ :=
  ⟨rfl, by decide, no_data_after_reorg_until_new_tip _ _ _ _ _ _ _ _ reorg_run rfl (by decide)
    (by decide)⟩

end DataStream

end ApibaraDna
