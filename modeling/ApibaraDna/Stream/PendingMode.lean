import ApibaraDna.Stream.Batches

/-!
# Pending mode against accepted mode

A client that asks for pending data sees the stream a client asking for accepted
data sees, with at most one pending block slipped in where the accepted stream has
nothing to send. Two producers, configured alike but for the finality, are related by
`Lockstep`: the same view, and configurations that differ only in the finality and in
`pending_sent`, which only the pending path reads. Every call keeps them in lockstep,
and their answers agree (`ReplyAgrees`).

A pending batch marks the pending tip as sent, and only a `Pending` ingestion message
or a reconfigure clears the mark, so between two of those at most one pending batch
is returned, whatever the finality.
-/
namespace ApibaraDna

/-- An Accepted-mode configuration and a Pending-mode one at the same place. -/
structure Paired (accepted pending : BatchConfiguration) : Prop where
  current : accepted.current = pending.current
  batchSize : accepted.batchSize = pending.batchSize
  acceptedMode : accepted.dataFinality = .dataStatusAccepted
  pendingMode : pending.dataFinality = .dataStatusPending

/-- An Accepted-mode producer and a Pending-mode one in lockstep. -/
structure Lockstep (accepted pending : SequentialCursorProducer) : Prop where
  ingestionState : accepted.ingestionState = pending.ingestionState
  configuration : Option.Rel Paired accepted.configuration pending.configuration

/-- The same call, with a reconfigure asking for `finality`. -/
def Action.withFinality (finality : DataFinality) : Action → Action
  | .reconfigure configuration => .reconfigure { configuration with finality }
  | action => action

/-- The calls after which a pending batch may be sent again. -/
def Action.resetsPending : Action → Bool
  | .reconfigure _ | .handleIngestionMessage (.pending _) => true
  | _ => false

/-- A poll that returned a pending batch. -/
def Reply.isPendingBatch {ε : Type} : Reply ε → Bool
  | .pollNext (.ready (some (.ok batch))) => batch.isPending
  | _ => false

/-- The pending tip has been sent since it was last cleared. -/
def PendingSent (producer : SequentialCursorProducer) : Prop :=
  ∃ configuration, producer.configuration = some configuration ∧ configuration.pendingSent = true

section Agreement

variable {ε : Type} (storage : StorageReader ε)

/-- What the two modes' `next_cursor_with_configuration` return side by side: the same,
with the configurations still paired; or nothing in Accepted mode where the pending
path of Pending mode fails, or finds the block after `current` and marks it sent. -/
inductive BatchAgrees (accepted pending : BatchConfiguration) :
    Except ε (Option (BatchCursor × BatchConfiguration)) →
      Except ε (Option (BatchCursor × BatchConfiguration)) → Prop
  | error (e : ε) : BatchAgrees accepted pending (.error e) (.error e)
  | none : BatchAgrees accepted pending (.ok none) (.ok none)
  | batch {batch : BatchCursor} {accepted' pending' : BatchConfiguration} :
      Paired accepted' pending' →
      BatchAgrees accepted pending (.ok (some (batch, accepted'))) (.ok (some (batch, pending')))
  | pendingError (e : ε) : BatchAgrees accepted pending (.ok none) (.error e)
  | pendingBatch {cursor : GlobalBlockId} :
      pending.pendingSent = false →
      storage.canonicalBlockId (nextBlockNumber pending.current) = .ok (some cursor) →
      BatchAgrees accepted pending (.ok none)
        (.ok (some (.pending pending.current cursor, { pending with pendingSent := true })))

/-- What the two modes answer to one call: the same; or, to a poll that Accepted mode
leaves pending, an error from the extra lookup of Pending mode or the pending batch
from `current` with the canonical block after it, `current` left where it was. -/
def ReplyAgrees (before after : SequentialCursorProducer) (accepted pending : Reply ε) : Prop :=
  accepted = pending ∨
    accepted = .pollNext .pending ∧ after.current = before.current ∧
      ((∃ e, pending = .pollNext (.ready (some (.error e)))) ∨
        ∃ cursor, pending = .pollNext (.ready (some (.ok (.pending before.current cursor)))) ∧
          storage.canonicalBlockId (nextBlockNumber before.current) = .ok (some cursor) ∧
          (storage.Numbered → cursor.number = nextBlockNumber before.current))

variable {storage} {accepted pending : BatchConfiguration}

theorem Paired.absorb (h : Paired accepted pending) (message : IngestionMessage) :
    Paired (accepted.absorb message) (pending.absorb message) := by
  cases message <;>
    exact ⟨by simp [BatchConfiguration.absorb, h.current], h.batchSize, h.acceptedMode,
      h.pendingMode⟩

theorem Paired.withCurrent (h : Paired accepted pending) (current : Option GlobalBlockId) :
    Paired { accepted with current } { pending with current } :=
  ⟨rfl, h.batchSize, h.acceptedMode, h.pendingMode⟩

theorem Lockstep.current {producerA producerP : SequentialCursorProducer}
    (h : Lockstep producerA producerP) : producerA.current = producerP.current := by
  obtain ⟨configurationA, _, _⟩ := producerA
  obtain ⟨configurationP, _, _⟩ := producerP
  cases h.configuration with
  | none => rfl
  | some hc => exact congrArg id hc.current

/-! ## The three paths of a poll -/

/-- Both modes allocate and grow the vector of a finalized batch or neither does, the batch
sizes being the same. -/
theorem batchAgrees_nextCursorFinalized (h : Paired accepted pending)
    (startingCursor : Option GlobalBlockId) (n : Nat) (finalized : GlobalBlockId) :
    Option.Rel (BatchAgrees storage accepted pending)
      (nextCursorFinalized storage accepted startingCursor n finalized)
      (nextCursorFinalized storage pending startingCursor n finalized) := by
  unfold nextCursorFinalized
  rw [show withCapacity storage accepted.batchSize = withCapacity storage pending.batchSize by
      rw [h.batchSize],
    show finalBlockNumber finalized.number n accepted.batchSize =
      finalBlockNumber finalized.number n pending.batchSize by rw [h.batchSize],
    show collectCanonical storage 0 accepted.batchSize =
      collectCanonical storage 0 pending.batchSize by rw [h.batchSize]]
  by_cases hc : withCapacity storage pending.batchSize = true
  · simp only [hc, ↓reduceIte]
    rcases collectCanonical storage 0 pending.batchSize
        (List.range' n (finalBlockNumber finalized.number n pending.batchSize + 1 - n)) with
      _ | _ | cursors
    · exact .none
    · exact .some (.error _)
    · by_cases he : cursors = []
      · simpa [he] using .some .none
      · simpa [he] using .some (.batch (h.withCurrent _))
  · simp only [hc, ↓reduceIte, Bool.false_eq_true]
    exact .none

theorem batchAgrees_nextCursorAccepted (h : Paired accepted pending)
    (startingCursor : Option GlobalBlockId) (n : Nat) :
    BatchAgrees storage accepted pending (nextCursorAccepted storage accepted startingCursor n)
      (nextCursorAccepted storage pending startingCursor n) := by
  unfold nextCursorAccepted
  rw [if_neg (by simp [h.acceptedMode]), if_neg (by simp [h.pendingMode])]
  cases storage.canonicalBlockId n with
  | error e => exact .error e
  | ok cursor =>
    cases cursor with
    | none => exact .none
    | some cursor => exact .batch (h.withCurrent _)

/-- Accepted mode skips the pending path; Pending mode looks the block up. -/
theorem batchAgrees_nextCursorPending (h : Paired accepted pending) :
    BatchAgrees storage accepted pending
      (nextCursorPending storage accepted pending.current (nextBlockNumber pending.current))
      (nextCursorPending storage pending pending.current (nextBlockNumber pending.current)) := by
  unfold nextCursorPending
  rw [if_pos (.inl (by simp [h.acceptedMode]))]
  cases hs : pending.pendingSent
  · rw [if_neg (by simp [h.pendingMode])]
    cases hc : storage.canonicalBlockId (nextBlockNumber pending.current) with
    | error e => exact .pendingError e
    | ok cursor =>
      cases cursor with
      | none => exact .none
      | some cursor => exact .pendingBatch hs hc
  · rw [if_pos (.inr rfl)]
    exact .none

theorem batchAgrees_nextCursorWithConfiguration (h : Paired accepted pending)
    (state : IngestionState) :
    Option.Rel (BatchAgrees storage accepted pending)
      (nextCursorWithConfiguration storage state accepted)
      (nextCursorWithConfiguration storage state pending) := by
  simp only [nextCursorWithConfiguration, h.current]
  split
  · exact batchAgrees_nextCursorFinalized h _ _ _
  · exact .some (batchAgrees_nextCursorAccepted h _ _)
  · exact .some (batchAgrees_nextCursorPending h)
  · exact .some .none

/-! ## One call on both producers -/

variable (storage) {producerA producerP : SequentialCursorProducer}

/-- Both polls return or neither does, and they keep the producers in lockstep with
agreeing answers. -/
theorem pollNext_lockstep (h : Lockstep producerA producerP) (waker : Waker) :
    Option.Rel (fun a p => Lockstep a.1 p.1 ∧
        ReplyAgrees storage producerP p.1 (.pollNext a.2) (.pollNext p.2))
      (pollNext storage waker producerA) (pollNext storage waker producerP) := by
  obtain ⟨configurationA, state, _⟩ := producerA
  obtain ⟨configurationP, _, _⟩ := producerP
  obtain ⟨hstate, hc⟩ := h
  subst hstate
  cases hc with
  | none => exact .some ⟨⟨rfl, .none⟩, .inl rfl⟩
  | @some accepted pending hc =>
    simp only [pollNext, nextCursor]
    cases getIngestionState storage state with
    | error e => exact .some ⟨⟨rfl, .some hc⟩, .inl rfl⟩
    | ok state =>
      simp only
      have hagree : Option.Rel (BatchAgrees storage accepted pending) _ _ :=
        batchAgrees_nextCursorWithConfiguration hc state
      generalize nextCursorWithConfiguration storage state accepted = a at hagree ⊢
      generalize nextCursorWithConfiguration storage state pending = p at hagree ⊢
      rcases hagree with ⟨_ | _ | hpaired | _ | ⟨_, hlookup⟩⟩ | _
      · exact .some ⟨⟨rfl, .some hc⟩, .inl rfl⟩
      · exact .some ⟨⟨rfl, .some hc⟩, .inl rfl⟩
      · exact .some ⟨⟨rfl, .some hpaired⟩, .inl rfl⟩
      · exact .some ⟨⟨rfl, .some hc⟩, .inr ⟨rfl, rfl, .inl ⟨_, rfl⟩⟩⟩
      · exact .some ⟨⟨rfl, .some ⟨hc.current, hc.batchSize, hc.acceptedMode, hc.pendingMode⟩⟩,
          .inr ⟨rfl, rfl, .inr ⟨_, rfl, hlookup, fun hn => hn _ _ hlookup⟩⟩⟩
      · exact .none

theorem handleIngestionMessage_lockstep (h : Lockstep producerA producerP)
    (message : IngestionMessage) :
    Lockstep (handleIngestionMessage storage message producerA).1
      (handleIngestionMessage storage message producerP).1 ∧
    (handleIngestionMessage storage message producerA).2 =
      (handleIngestionMessage storage message producerP).2 := by
  rw [handleIngestionMessage_eq, handleIngestionMessage_eq, h.ingestionState, h.current]
  cases getIngestionState storage producerP.ingestionState with
  | error e => exact ⟨h, rfl⟩
  | ok state =>
    refine ⟨⟨rfl, ?_⟩, rfl⟩
    obtain ⟨configurationA, _, _⟩ := producerA
    obtain ⟨configurationP, _, _⟩ := producerP
    cases h.configuration with
    | none => exact .none
    | some hc => exact .some (hc.absorb message)

end Agreement

section Calls

variable {ε : Type} (fromBlockHeaderParent : BlockHeader → Except ε GlobalBlockId) (fuel : Nat)
  {producerA producerP : SequentialCursorProducer}

/-- The starting-cursor match does not read the finality, so both reconfigures end
alike, and a successful pair installs paired configurations. -/
theorem reconfigure_lockstep (h : Lockstep producerA producerP) (storage : StorageReader ε)
    (configuration : StreamConfiguration) :
    Option.Rel (fun a p => Lockstep a.1 p.1 ∧ a.2 = p.2)
      (reconfigure storage fromBlockHeaderParent fuel
        { configuration with finality := .dataStatusAccepted } producerA)
      (reconfigure storage fromBlockHeaderParent fuel
        { configuration with finality := .dataStatusPending } producerP) := by
  unfold reconfigure
  cases startingCursorOutcome storage fromBlockHeaderParent fuel configuration.startingCursor with
  | none => exact .none
  | some outcome =>
    rcases outcome with e | _ | ⟨current, response⟩
    · exact .some ⟨h, rfl⟩
    · exact .some ⟨h, rfl⟩
    · exact .some ⟨⟨h.ingestionState, .some ⟨rfl, rfl, rfl, rfl⟩⟩, rfl⟩

/-- **One call.** Both producers return from a call or neither does (a reconfigure out of
fuel, or a poll whose batch vector cannot be allocated or grown), and they stay in lockstep
with agreeing answers. -/
theorem step_lockstep (h : Lockstep producerA producerP) (storage : StorageReader ε)
    (action : Action) :
    Option.Rel (fun a p => Lockstep a.1 p.1 ∧ ReplyAgrees storage producerP p.1 a.2 p.2)
      (step fromBlockHeaderParent fuel storage producerA (action.withFinality .dataStatusAccepted))
      (step fromBlockHeaderParent fuel storage producerP
        (action.withFinality .dataStatusPending)) := by
  cases action with
  | reconfigure configuration =>
    simp only [Action.withFinality, step]
    match reconfigure storage fromBlockHeaderParent fuel _ producerA,
      reconfigure storage fromBlockHeaderParent fuel _ producerP,
      reconfigure_lockstep fromBlockHeaderParent fuel h storage configuration with
    | _, _, .none => exact .none
    | _, _, .some ⟨hl, hr⟩ => exact .some ⟨hl, .inl (congrArg Reply.reconfigure hr)⟩
  | handleIngestionMessage message =>
    obtain ⟨hl, hr⟩ := handleIngestionMessage_lockstep storage h message
    exact .some ⟨hl, .inl (congrArg Reply.handleIngestionMessage hr)⟩
  | pollNext waker =>
    simp only [Action.withFinality, step]
    match pollNext storage waker producerA, pollNext storage waker producerP,
      pollNext_lockstep storage h waker with
    | _, _, .none => exact .none
    | _, _, .some ⟨hl, hr⟩ => exact .some ⟨hl, hr⟩

/-- **Runs.** Producers in lockstep stay in lockstep over a run, the Accepted-mode one
reconfigured for accepted data and the Pending-mode one for pending data. -/
theorem run_lockstep (h : Lockstep producerA producerP) (steps : List (StorageReader ε × Action)) :
    Lockstep
      (run fromBlockHeaderParent fuel producerA
        (steps.map (Prod.map id (Action.withFinality .dataStatusAccepted)))).1
      (run fromBlockHeaderParent fuel producerP
        (steps.map (Prod.map id (Action.withFinality .dataStatusPending)))).1 := by
  induction steps generalizing producerA producerP with
  | nil => exact h
  | cons x steps ih =>
    simp only [List.map_cons, Prod.map_fst, Prod.map_snd, id, run]
    match step fromBlockHeaderParent fuel x.1 producerA _,
      step fromBlockHeaderParent fuel x.1 producerP _,
      step_lockstep fromBlockHeaderParent fuel h x.1 x.2 with
    | _, _, .none => exact h
    | _, _, .some ⟨hl, _⟩ => exact ih hl

/-! ## At most one pending batch -/

variable {storage : StorageReader ε} {producer producer' : SequentialCursorProducer}

/-- Only the pending path sets `pending_sent`, and it needs it clear. -/
theorem Emits.pendingSent {state : IngestionState}
    {configuration configuration' : BatchConfiguration} {batch : BatchCursor}
    (h : Emits storage state configuration batch configuration') :
    configuration'.pendingSent = (configuration.pendingSent || batch.isPending) ∧
      (batch.isPending = true → configuration.pendingSent = false) := by
  cases h <;> simp_all [BatchCursor.isPending]

/-- A poll keeps the mark, and sets it exactly when it returns a pending batch, which
it does only with the mark clear. -/
theorem pollNext_pendingSent {waker : Waker}
    {poll : Poll (Option (Except (StreamError ε) BatchCursor))}
    (h : pollNext storage waker producer = some (producer', poll)) :
    (PendingSent producer ∨ (Reply.pollNext poll).isPendingBatch → PendingSent producer') ∧
    (PendingSent producer → (Reply.pollNext poll).isPendingBatch = false) := by
  by_cases hb : ∃ batch, poll = .ready (some (.ok batch))
  · obtain ⟨batch, rfl⟩ := hb
    obtain ⟨configuration, _, configuration', hc, -, he, rfl⟩ := pollNext_emits storage h
    obtain ⟨hsent, hpending⟩ := he.pendingSent
    simp only [PendingSent, Reply.isPendingBatch, hc, Option.some.injEq, exists_eq_left',
      hsent, Bool.or_eq_true]
    constructor
    · rintro (h | h) <;> simp [h]
    · intro h
      cases hbp : batch.isPending <;> simp_all
  · push_neg at hb
    have hr : (Reply.pollNext poll : Reply ε).isPendingBatch = false := by
      unfold Reply.isPendingBatch
      split <;> simp_all
    simp only [PendingSent, pollNext_configuration storage h hb, hr, or_false, Bool.false_eq_true]
    exact ⟨id, fun _ => trivial⟩

/-- A call that does not clear the mark keeps it; one that returns a pending batch sets it;
one made with the mark set returns no pending batch. -/
theorem step_pendingSent {action : Action} {reply : Reply ε} (hx : action.resetsPending = false)
    (h : step fromBlockHeaderParent fuel storage producer action = some (producer', reply)) :
    (PendingSent producer ∨ reply.isPendingBatch → PendingSent producer') ∧
      (PendingSent producer → reply.isPendingBatch = false) := by
  cases action with
  | reconfigure => simp [Action.resetsPending] at hx
  | handleIngestionMessage message =>
    simp only [step, Option.some.injEq, Prod.mk.injEq] at h
    obtain ⟨rfl, rfl⟩ := h
    refine ⟨fun hs => ?_, fun _ => rfl⟩
    obtain ⟨configuration, hc, hsent⟩ := hs.resolve_right Bool.false_ne_true
    rw [handleIngestionMessage_eq]
    cases getIngestionState storage producer.ingestionState with
    | error e => exact ⟨configuration, hc, hsent⟩
    | ok state =>
      refine ⟨configuration.absorb message, by simp [hc], ?_⟩
      cases message <;> simp_all [BatchConfiguration.absorb, Action.resetsPending]
  | pollNext waker =>
    obtain ⟨⟨p, poll⟩, hp, he⟩ := Option.map_eq_some'.1 h
    cases he
    exact pollNext_pendingSent hp

theorem run_no_pending_batch_of_pendingSent {steps : List (StorageReader ε × Action)}
    (hx : ∀ x ∈ steps, x.2.resetsPending = false) (hs : PendingSent producer) :
    (run fromBlockHeaderParent fuel producer steps).2.countP (·.reply.isPendingBatch) = 0 := by
  induction steps generalizing producer with
  | nil => rfl
  | cons x steps ih =>
    simp only [run]
    split
    · rfl
    next producer' reply h =>
      obtain ⟨hkeep, hnone⟩ := step_pendingSent fromBlockHeaderParent fuel (hx x (.head _)) h
      rw [List.countP_cons, ih (fun y hy => hx y (.tail _ hy)) (hkeep (.inl hs))]
      simp [hnone hs]

/-- **At most one pending batch.** From any producer, a run with no reconfigure and no
`Pending` ingestion message returns at most one pending batch. -/
theorem run_at_most_one_pending_batch {steps : List (StorageReader ε × Action)}
    (hx : ∀ x ∈ steps, x.2.resetsPending = false) :
    (run fromBlockHeaderParent fuel producer steps).2.countP (·.reply.isPendingBatch) ≤ 1 := by
  induction steps generalizing producer with
  | nil => simp [run]
  | cons x steps ih =>
    simp only [run]
    split
    · simp
    next producer' reply h =>
      have hrest := fun y hy => hx y (.tail _ hy)
      rw [List.countP_cons]
      cases hr : reply.isPendingBatch
      · simpa using ih hrest
      · have hs := (step_pendingSent fromBlockHeaderParent fuel (hx x (.head _)) h).1 (.inr hr)
        simp [run_no_pending_batch_of_pendingSent fromBlockHeaderParent fuel hrest hs]

/-- **Pending mode against accepted mode.** Fresh producers taking the same calls, one for
accepted and one for pending data, keep the same `current` and view and answer alike but
for one pending batch; between resets at most one pending batch is returned. -/
theorem pending_mode_tracks_accepted_mode (steps : List (StorageReader ε × Action)) :
    (let accepted := (run fromBlockHeaderParent fuel .new
        (steps.map (Prod.map id (Action.withFinality .dataStatusAccepted)))).1
      let pending := (run fromBlockHeaderParent fuel .new
        (steps.map (Prod.map id (Action.withFinality .dataStatusPending)))).1
      accepted.current = pending.current ∧ accepted.ingestionState = pending.ingestionState ∧
      ∀ (storage : StorageReader ε) (action : Action),
        Option.Rel (fun a p => a.1.current = p.1.current ∧ ReplyAgrees storage pending p.1 a.2 p.2)
          (step fromBlockHeaderParent fuel storage accepted
            (action.withFinality .dataStatusAccepted))
          (step fromBlockHeaderParent fuel storage pending
            (action.withFinality .dataStatusPending))) ∧
    ∀ (producer : SequentialCursorProducer) (segment : List (StorageReader ε × Action)),
      (∀ x ∈ segment, x.2.resetsPending = false) →
      (run fromBlockHeaderParent fuel producer segment).2.countP (·.reply.isPendingBatch) ≤ 1 := by
  have h := run_lockstep fromBlockHeaderParent fuel (⟨rfl, .none⟩ : Lockstep .new .new) steps
  refine ⟨⟨h.current, h.ingestionState, fun storage action => ?_⟩,
    fun _ _ hx => run_at_most_one_pending_batch fromBlockHeaderParent fuel hx⟩
  match step fromBlockHeaderParent fuel storage _ _, step fromBlockHeaderParent fuel storage _ _,
    step_lockstep fromBlockHeaderParent fuel h storage action with
  | _, _, .none => exact .none
  | _, _, .some ⟨hl, hr⟩ => exact .some ⟨hl.current, hr⟩

end Calls

/-- A client of pending data at block `10`, with the sample tips read and a pending tip at
block `11`. -/
def pendingClient : SequentialCursorProducer :=
  ⟨some ⟨some ⟨10, 1⟩, false, .dataStatusPending, 3⟩,
    some ⟨some ⟨10, 1⟩, some ⟨10, 1⟩, some ⟨11, 1⟩⟩, none⟩

/-- Two polls over the sample storage, with nothing in between. -/
def twoPolls : List (StorageReader Unit × Action) :=
  [(sampleStorage, .pollNext ⟨0⟩), (sampleStorage, .pollNext ⟨0⟩)]

/-- Polled twice, that client returns the pending block once: the bound is reached. -/
theorem two_polls_one_pending_batch :
    (∀ x ∈ twoPolls, x.2.resetsPending = false) ∧
    (run (fun _ => .error ()) 0 pendingClient twoPolls).2.countP (·.reply.isPendingBatch) ≤ 1 ∧
    (run (fun _ => .error ()) 0 pendingClient twoPolls).2.countP (·.reply.isPendingBatch) = 1 :=
  have hx : ∀ x ∈ twoPolls, x.2.resetsPending = false := by
    simp [twoPolls, Action.resetsPending]
  ⟨hx, (pending_mode_tracks_accepted_mode (fun _ => .error ()) 0 []).2 pendingClient twoPolls hx,
    rfl⟩

end ApibaraDna
