import ApibaraDna.Stream.Driver
import ApibaraDna.Stream.PendingMode
import Mathlib.Data.List.Infix

/-!
# What the client receives

Properties of the whole response stream of `new_data_stream`, each between two
responses of one run and over what the loop did in between.

* The blocks of `Data` messages come in order: a message starts where the one before
  it ended, unless a configuration was taken or an `Invalidate` sent in between; only
  the block of a `Pending` message may be sent again, as the next block.
* After an `Invalidate(c)`, until the next configuration or `Invalidate`, every `Data`
  message starts at `c` or above and ends above it.
* Two `Pending` messages are always separated by an iteration that took a
  configuration or an ingestion `Pending` message, the only items that clear the
  producer's `pending_sent`.

The first two need the client's place to stay below the last two `u64` block numbers,
where `current.number + 1` would wrap.
-/
namespace ApibaraDna

namespace DataStream

/-- Whether an iteration takes an item after which a pending block may be sent again:
a configuration, or, with none ready, an ingestion `Pending` message. -/
def Ready.resetsPending {ε : Type} (ready : Ready ε) : Bool :=
  match ready.configuration, ready.ingestion with
  | some _, _ => true
  | none, some (.ok (.pending _)) => true
  | _, _ => false

/-- Whether an iteration yielded a `Data` message with pending data. -/
def Outcome.isPendingData {ε β : Type} : Outcome ε β → Bool
  | .yield ⟨_, .data data⟩ => decide (data.finality = .dataStatusPending)
  | _ => false

/-- The pending mark, after one more iteration: set by pending data, cleared by an
iteration that takes a configuration or an ingestion `Pending` message. -/
def pendingMark {ε β : Type} (sent : Bool) (y : Ready ε × Outcome ε β) : Bool :=
  if y.1.resetsPending then false else if y.2.isPendingData then true else sent

section Stream

variable {ε σ β : Type} {batchProducer : BatchProducer ε σ β}
  {fromBlockHeaderParent : BlockHeader → Except ε GlobalBlockId} {fuel : Nat}
  {storage : StorageReader ε} {driver driver' : Driver σ} {ready : Ready ε}
  {outcome : Outcome ε β} {checkpoint : Option GlobalBlockId}

/-- A `Data` message ends at a block at or past the one after the client's place, and a
pending one at exactly that block. -/
theorem step_data_end (hnum : storage.Numbered)
    (hI : driver.cursorProducer.current.map (·.number) = checkpoint.map (·.number))
    (hbound : ∀ c ∈ checkpoint, c.number < UInt64.size - 1) {streamId : Nat} {data : Data β}
    (h : step batchProducer fromBlockHeaderParent fuel storage driver ready =
      some (driver', .yield ⟨streamId, .data data⟩)) :
    ∃ e ∈ data.endCursor, (checkpoint.map (·.number + 1)).getD 0 ≤ e.number ∧
      (data.finality = .dataStatusPending → e.number = (checkpoint.map (·.number + 1)).getD 0) := by
  rcases step_eq_some h with ⟨_, ⟨⟩⟩ | ⟨_, _, _, _, _, ⟨-, ⟨⟩⟩ | ⟨_, -, ⟨⟩⟩⟩ |
      ⟨_, _, _, _, _, _, ⟨-, ⟨⟩⟩ | ⟨_, -, ⟨⟩⟩⟩ |
      ⟨-, -, _, hpoll, -, ⟨-, ⟨⟩⟩ | ⟨batch, data', rfl, he, -, hend, hfinality⟩⟩
  cases he
  obtain ⟨configuration, _, _, hconf, -, hemits, -⟩ := pollNext_emits storage hpoll
  have hcurrent : driver.cursorProducer.current = configuration.current := by
    simp [SequentialCursorProducer.current, hconf]
  rw [← nextBlockNumber_eq (hcurrent ▸ hI) hbound, hend, hfinality]
  have hnums := hemits.numbers hnum
  have hne := hemits.cursors_ne_nil
  cases batch with
  | finalized start cursors =>
    refine ⟨cursors.getLast hne, List.getLast?_eq_getLast cursors hne, ?_,
      by simp [BatchCursor.dataFinality]⟩
    have hmem : (cursors.getLast hne).number ∈ cursors.map (·.number) :=
      List.mem_map_of_mem _ (List.getLast_mem hne)
    rw [BatchCursor.cursors_finalized] at hnums
    rw [hnums, List.mem_range'_1] at hmem
    exact hmem.1
  | accepted start cursor | pending start cursor =>
    simp only [BatchCursor.cursors_accepted, BatchCursor.cursors_pending, List.map_cons,
      List.map_nil, List.length_singleton, List.range'_one, List.cons.injEq, and_true] at hnums
    exact ⟨cursor, rfl, hnums.ge, fun _ => hnums⟩

/-- An iteration that takes no configuration and sends no `Invalidate` leaves the
client's place where it was or moves it forward, when its `Data`, if any, ends past
that place. -/
theorem visibleCheckpoint_forward {y : Ready ε × Outcome ε β}
    (hc : y.1.configuration = none) (hi : ∀ streamId c, y.2 ≠ .yield ⟨streamId, .invalidate c⟩)
    (hd : ∀ streamId (data : Data β), y.2 = .yield ⟨streamId, .data data⟩ →
      ∃ e ∈ data.endCursor, (checkpoint.map (·.number + 1)).getD 0 ≤ e.number) :
    ∀ v ∈ checkpoint, ∃ w ∈ visibleCheckpoint checkpoint y, v.number ≤ w.number := by
  obtain ⟨ready, outcome⟩ := y
  rintro v rfl
  rcases outcome with _ | ⟨streamId, data | c⟩ | _
  · simp only at hc
    simp [visibleCheckpoint, hc]
  · obtain ⟨e, he, hle⟩ := hd streamId data rfl
    simp only [visibleCheckpoint]
    split
    · exact ⟨v, rfl, le_rfl⟩
    · exact ⟨e, he, by simp only [Option.map_some', Option.getD_some] at hle; omega⟩
  · exact absurd rfl (hi streamId c)
  · exact ⟨v, rfl, le_rfl⟩

/-- **The place moves forward over a segment** with no configuration taken and no
`Invalidate` sent, each `Data` message of it ending past the place it starts from. -/
theorem foldl_visibleCheckpoint_forward {mid : List (Ready ε × Outcome ε β)}
    (hmid : ∀ a y b, mid = a ++ y :: b → y.1.configuration = none ∧
      (∀ streamId c, y.2 ≠ .yield ⟨streamId, .invalidate c⟩) ∧
      ∀ streamId (data : Data β), y.2 = .yield ⟨streamId, .data data⟩ →
        ∃ e ∈ data.endCursor,
          ((a.foldl visibleCheckpoint checkpoint).map (·.number + 1)).getD 0 ≤ e.number) :
    ∀ v ∈ checkpoint, ∃ w ∈ mid.foldl visibleCheckpoint checkpoint, v.number ≤ w.number := by
  induction mid generalizing checkpoint with
  | nil => exact fun v hv => ⟨v, hv, le_rfl⟩
  | cons y mid ih =>
    intro v hv
    obtain ⟨hc, hi, hd⟩ := hmid [] y mid rfl
    obtain ⟨u, hu, hvu⟩ := visibleCheckpoint_forward hc hi hd v hv
    obtain ⟨w, hw, huw⟩ := ih (fun a z b h => hmid (y :: a) z b (by rw [h]; rfl)) u hu
    exact ⟨w, hw, hvu.trans huw⟩

/-- Along a run of a fresh driver over numbered storage, a `Data` message starts at the
client's place and ends at or past the block after it, a pending one at that block. -/
theorem run_data_place {batchState : σ} {inputs : List (StorageReader ε × Ready ε)}
    (hnum : ∀ x ∈ inputs, x.1.Numbered) {pre post : List (Ready ε × Outcome ε β)}
    {streamId : Nat} {data : Data β}
    (h : (run batchProducer fromBlockHeaderParent fuel ⟨.new, batchState, 0⟩ inputs).2 =
      pre ++ (ready, .yield ⟨streamId, .data data⟩) :: post)
    (hbound : ∀ c ∈ pre.foldl visibleCheckpoint none, c.number < UInt64.size - 1) :
    data.cursor.map (·.number) = (pre.foldl visibleCheckpoint none).map (·.number) ∧
    ∃ e ∈ data.endCursor,
      ((pre.foldl visibleCheckpoint none).map (·.number + 1)).getD 0 ≤ e.number ∧
      (data.finality = .dataStatusPending →
        e.number = ((pre.foldl visibleCheckpoint none).map (·.number + 1)).getD 0) :=
  run_trace (fun driver checkpoint =>
      driver.cursorProducer.current.map (·.number) = checkpoint.map (·.number))
    visibleCheckpoint
    (fun checkpoint ⟨_, outcome⟩ => ∀ streamId (data : Data β),
      outcome = .yield ⟨streamId, .data data⟩ → (∀ c ∈ checkpoint, c.number < UInt64.size - 1) →
      data.cursor.map (·.number) = checkpoint.map (·.number) ∧
      ∃ e ∈ data.endCursor, (checkpoint.map (·.number + 1)).getD 0 ≤ e.number ∧
        (data.finality = .dataStatusPending → e.number = (checkpoint.map (·.number + 1)).getD 0))
    (fun x hx _ _ _ _ hI hstep =>
      ⟨fun _ _ he hb => ⟨(step_data (hnum x hx) hI hb (he ▸ hstep)).2.2.1,
        step_data_end (hnum x hx) hI hb (he ▸ hstep)⟩, step_visible (hnum x hx) hI hstep⟩)
    rfl h _ _ rfl hbound

/-- Over a run of a fresh driver, the place moves forward across a segment with no
configuration taken and no `Invalidate` sent, while it stays below the last two `u64`
block numbers. -/
theorem run_segment_forward {batchState : σ} {inputs : List (StorageReader ε × Ready ε)}
    (hnum : ∀ x ∈ inputs, x.1.Numbered) {pre mid post : List (Ready ε × Outcome ε β)}
    (h : (run batchProducer fromBlockHeaderParent fuel ⟨.new, batchState, 0⟩ inputs).2 =
      pre ++ mid ++ post)
    (hmid : ∀ z ∈ mid, z.1.configuration = none ∧
      ∀ streamId c, z.2 ≠ .yield ⟨streamId, .invalidate c⟩)
    (hbound : ∀ p ∈ (pre ++ mid).inits, ∀ c ∈ p.foldl visibleCheckpoint none,
      c.number < UInt64.size - 1) :
    ∀ v ∈ pre.foldl visibleCheckpoint none,
      ∃ w ∈ (pre ++ mid).foldl visibleCheckpoint none, v.number ≤ w.number := by
  rw [List.foldl_append]
  refine foldl_visibleCheckpoint_forward fun a z b hab => ?_
  obtain ⟨hc, hi⟩ := hmid z (by rw [hab]; simp)
  refine ⟨hc, hi, fun streamId data hz => ?_⟩
  obtain ⟨ready, outcome⟩ := z
  subst hz
  have htrace : (run batchProducer fromBlockHeaderParent fuel ⟨.new, batchState, 0⟩ inputs).2 =
      (pre ++ a) ++ (ready, .yield ⟨streamId, .data data⟩) :: (b ++ post) := by
    rw [h, hab]; simp
  have hb := hbound (pre ++ a) (List.mem_inits _ _ |>.2 (by rw [hab]; simp))
  rw [List.foldl_append] at hb
  obtain ⟨-, e, he, hle, -⟩ := run_data_place hnum htrace (by rwa [List.foldl_append])
  rw [List.foldl_append] at hle
  exact ⟨e, he, hle⟩

/-- A cursor at the block number of `some w`: the block after it is `w.number + 1`. -/
private theorem getD_map_succ_of_mem {c g : Option GlobalBlockId} {w : GlobalBlockId}
    (h : c.map (·.number) = g.map (·.number)) (hw : w ∈ g) :
    (c.map (·.number + 1)).getD 0 = w.number + 1 := by
  cases hw
  cases c <;> simp_all

/-- A `Data` message after a segment with no configuration taken and no `Invalidate` sent
starts at or past the place the segment starts from, and ends past its own start. -/
theorem run_data_after_segment {batchState : σ} {inputs : List (StorageReader ε × Ready ε)}
    (hnum : ∀ x ∈ inputs, x.1.Numbered) {pre mid post : List (Ready ε × Outcome ε β)}
    {y : Ready ε × Outcome ε β} {streamId : Nat} {data : Data β}
    (h : (run batchProducer fromBlockHeaderParent fuel ⟨.new, batchState, 0⟩ inputs).2 =
      pre ++ y :: mid ++ (ready, .yield ⟨streamId, .data data⟩) :: post)
    (hmid : ∀ z ∈ mid, z.1.configuration = none ∧
      ∀ streamId c, z.2 ≠ .yield ⟨streamId, .invalidate c⟩)
    (hbound : ∀ p ∈ (pre ++ y :: mid).inits, ∀ c ∈ p.foldl visibleCheckpoint none,
      c.number < UInt64.size - 1) :
    ∀ v ∈ visibleCheckpoint (pre.foldl visibleCheckpoint none) y, ∃ w : Nat, v.number ≤ w ∧
      (data.cursor.map (·.number + 1)).getD 0 = w + 1 ∧ ∀ e ∈ data.endCursor, w < e.number := by
  have hsplit : pre ++ [y] ++ mid = pre ++ y :: mid := by simp
  obtain ⟨hcursor, e, he, hle, -⟩ := run_data_place hnum h
    (hbound _ ((List.mem_inits _ _).2 (List.prefix_refl _)))
  have hforward := run_segment_forward hnum (show _ = pre ++ [y] ++ mid ++ _ by rw [h, hsplit])
    hmid (by rw [hsplit]; exact hbound)
  rw [hsplit, List.foldl_append, List.foldl_cons, List.foldl_nil] at hforward
  intro v hv
  obtain ⟨w, hw, hvw⟩ := hforward v hv
  rw [getD_map_succ_of_mem (Eq.refl _) hw] at hle
  refine ⟨w.number, hvw, getD_map_succ_of_mem hcursor hw, fun e' he' => ?_⟩
  obtain rfl : e' = e := Option.some.inj (he'.symm.trans he)
  omega

/-- **The blocks come in order.** Of two `Data` messages with no configuration or
`Invalidate` between them, the second starts at or past the last block of the first, and
past it unless the first is pending: only a pending block is sent again. -/
theorem data_blocks_in_order (batchState : σ) (inputs : List (StorageReader ε × Ready ε))
    (hnum : ∀ x ∈ inputs, x.1.Numbered) (pre mid post : List (Ready ε × Outcome ε β))
    (ready₁ ready₂ : Ready ε) (streamId₁ streamId₂ : Nat) (data₁ data₂ : Data β)
    (h : (run batchProducer fromBlockHeaderParent fuel ⟨.new, batchState, 0⟩ inputs).2 =
      pre ++ (ready₁, .yield ⟨streamId₁, .data data₁⟩) :: mid ++
        (ready₂, .yield ⟨streamId₂, .data data₂⟩) :: post)
    (hmid : ∀ z ∈ mid, z.1.configuration = none ∧
      ∀ streamId c, z.2 ≠ .yield ⟨streamId, .invalidate c⟩)
    (hbound : ∀ p ∈ (pre ++ (ready₁, .yield ⟨streamId₁, .data data₁⟩) :: mid).inits,
      ∀ c ∈ p.foldl visibleCheckpoint none, c.number < UInt64.size - 1) :
    ∀ e ∈ data₁.endCursor, e.number ≤ (data₂.cursor.map (·.number + 1)).getD 0 ∧
      (data₁.finality ≠ .dataStatusPending →
        e.number < (data₂.cursor.map (·.number + 1)).getD 0) := by
  intro e he
  have hafter := run_data_after_segment hnum h hmid hbound
  by_cases hp : data₁.finality = .dataStatusPending
  · -- a pending message ends at the block after the place, which it leaves where it was
    obtain ⟨-, e₁, he₁, -, hpending⟩ := run_data_place hnum
      (show _ = pre ++ (ready₁, .yield ⟨streamId₁, .data data₁⟩) ::
        (mid ++ (ready₂, .yield ⟨streamId₂, .data data₂⟩) :: post) by rw [h]; simp)
      (hbound pre ((List.mem_inits _ _).2 (List.prefix_append _ _)))
    obtain rfl : e = e₁ := Option.some.inj (he.symm.trans he₁)
    refine ⟨?_, absurd hp⟩
    rw [hpending hp]
    cases hg : pre.foldl visibleCheckpoint none with
    | none => simp
    | some v =>
      obtain ⟨w, hvw, hsucc, -⟩ := hafter v (by simp [visibleCheckpoint, hp, hg])
      rw [hsucc]
      simpa using hvw
  · -- any other moves the place to its end
    obtain ⟨w, hew, hsucc, -⟩ := hafter e (by simp [visibleCheckpoint, hp, he])
    rw [hsucc]
    exact ⟨by omega, fun _ => by omega⟩

/-- **The invalidation contract.** After an `Invalidate(c)`, with no configuration or other
`Invalidate` before it, a `Data` message starts at block `c` or above and ends above it. -/
theorem data_after_invalidate_above (batchState : σ) (inputs : List (StorageReader ε × Ready ε))
    (hnum : ∀ x ∈ inputs, x.1.Numbered) (pre mid post : List (Ready ε × Outcome ε β))
    (ready₀ ready₂ : Ready ε) (streamId₀ streamId₂ : Nat) (c : GlobalBlockId) (data : Data β)
    (h : (run batchProducer fromBlockHeaderParent fuel ⟨.new, batchState, 0⟩ inputs).2 =
      pre ++ (ready₀, .yield ⟨streamId₀, .invalidate (some c)⟩) :: mid ++
        (ready₂, .yield ⟨streamId₂, .data data⟩) :: post)
    (hmid : ∀ z ∈ mid, z.1.configuration = none ∧
      ∀ streamId c, z.2 ≠ .yield ⟨streamId, .invalidate c⟩)
    (hbound : ∀ p ∈ (pre ++ (ready₀, .yield ⟨streamId₀, .invalidate (some c)⟩) :: mid).inits,
      ∀ c ∈ p.foldl visibleCheckpoint none, c.number < UInt64.size - 1) :
    (∃ s ∈ data.cursor, c.number ≤ s.number) ∧ ∀ e ∈ data.endCursor, c.number < e.number := by
  obtain ⟨w, hcw, hsucc, hend⟩ := run_data_after_segment hnum h hmid hbound c rfl
  refine ⟨?_, fun e he => hcw.trans_lt (hend e he)⟩
  cases hs : data.cursor with
  | none => simp [hs] at hsucc
  | some s => exact ⟨s, rfl, by simp [hs] at hsucc; omega⟩

/-! ## Pending data -/

/-- Pending data comes only from a poll, which clears no mark. An iteration that clears
no mark keeps the producer's `pending_sent`, sets it when it sends pending data, and
sends none while it is set. -/
theorem step_pendingMark
    (h : step batchProducer fromBlockHeaderParent fuel storage driver ready =
      some (driver', outcome)) :
    (outcome.isPendingData = true →
      ready.resetsPending = false ∧ PendingSent driver'.cursorProducer) ∧
    (ready.resetsPending = false → PendingSent driver.cursorProducer →
      outcome.isPendingData = false ∧
        ((∀ err, outcome ≠ .fail err) → PendingSent driver'.cursorProducer)) := by
  rcases step_eq_some h with ⟨err, rfl⟩ | ⟨_, _, hc, -, -, ⟨-, rfl⟩ | ⟨_, -, rfl⟩⟩ |
      ⟨message, response, hc, hi, hm, -, hout⟩ | ⟨hc, hi, poll, hp, -, hout⟩
  · exact ⟨nofun, fun _ _ => ⟨rfl, fun hf => absurd rfl (hf err)⟩⟩
  iterate 2
    -- a configuration clears the mark and sends no data
    have hr : ready.resetsPending = true := by simp [Ready.resetsPending, hc]
    exact ⟨nofun, fun hx => absurd hr (by simp [hx])⟩
  · -- an ingestion message other than `Pending` keeps the mark and sends no data
    have hnp : outcome.isPendingData = false := by
      rcases hout with ⟨-, rfl⟩ | ⟨_, -, rfl⟩ <;> rfl
    refine ⟨by simp [hnp], fun hx hs => ⟨hnp, fun _ => ?_⟩⟩
    have hmsg : (Action.handleIngestionMessage message).resetsPending = false := by
      cases message <;> simp_all [Ready.resetsPending, Action.resetsPending]
    exact (ApibaraDna.step_pendingSent fromBlockHeaderParent fuel hmsg
      (show ApibaraDna.step fromBlockHeaderParent fuel storage driver.cursorProducer
          (.handleIngestionMessage message) =
        some (driver'.cursorProducer, .handleIngestionMessage (.ok response)) by
        simp only [ApibaraDna.step, hm])).1 (.inl hs)
  · -- a poll: pending data exactly when the producer returned a pending batch
    have hx : ready.resetsPending = false := by simp [Ready.resetsPending, hc, hi]
    have hs := ApibaraDna.step_pendingSent fromBlockHeaderParent fuel
      (rfl : (Action.pollNext ready.waker).resetsPending = false)
      (show ApibaraDna.step fromBlockHeaderParent fuel storage driver.cursorProducer
          (.pollNext ready.waker) = some (driver'.cursorProducer, .pollNext poll) by
        simp [ApibaraDna.step, hp])
    have hrel : outcome.isPendingData = (Reply.pollNext poll : Reply ε).isPendingBatch := by
      rcases hout with ⟨rfl | rfl, rfl⟩ | ⟨batch, data, rfl, rfl, -, -, hfinality⟩
      iterate 2 rfl
      simp only [Outcome.isPendingData, Reply.isPendingBatch, hfinality]
      cases batch <;> rfl
    rw [hrel]
    exact ⟨fun hd => ⟨hx, hs.1 (.inr hd)⟩, fun _ hsent => ⟨hs.2 hsent, fun _ => hs.1 (.inl hsent)⟩⟩

/-- With no iteration that clears it, a set mark stays set. -/
theorem foldl_pendingMark_true {mid : List (Ready ε × Outcome ε β)}
    (hmid : ∀ z ∈ mid, z.1.resetsPending = false) : mid.foldl pendingMark true = true := by
  induction mid with
  | nil => rfl
  | cons z mid ih =>
    rw [List.foldl_cons, show pendingMark true z = true by
      simp [pendingMark, hmid z (.head _)]]
    exact ih fun y hy => hmid y (.tail _ hy)

/-- **Pending data is not repeated.** Along every run of the driver, from any state,
between two `Data` messages with pending data some iteration took a configuration or an
ingestion `Pending` message. -/
theorem pending_data_separated_by_reset (driver : Driver σ)
    (inputs : List (StorageReader ε × Ready ε)) (pre mid post : List (Ready ε × Outcome ε β))
    (ready₁ ready₂ : Ready ε) (streamId₁ streamId₂ : Nat) (data₁ data₂ : Data β)
    (h : (run batchProducer fromBlockHeaderParent fuel driver inputs).2 =
      pre ++ (ready₁, .yield ⟨streamId₁, .data data₁⟩) :: mid ++
        (ready₂, .yield ⟨streamId₂, .data data₂⟩) :: post)
    (h₁ : data₁.finality = .dataStatusPending) (h₂ : data₂.finality = .dataStatusPending) :
    ∃ z ∈ mid, z.1.resetsPending = true := by
  have htrace {pre' post' : List (Ready ε × Outcome ε β)} {y : Ready ε × Outcome ε β}
      (h' : (run batchProducer fromBlockHeaderParent fuel driver inputs).2 = pre' ++ y :: post') :
      (y.2.isPendingData = true → y.1.resetsPending = false) ∧
        (pre'.foldl pendingMark false = true → y.2.isPendingData = false) :=
    run_trace (fun driver sent => sent = true → PendingSent driver.cursorProducer) pendingMark
      (fun sent y => (y.2.isPendingData = true → y.1.resetsPending = false) ∧
        (sent = true → y.2.isPendingData = false))
      (fun x _ _ sent _ outcome hI hstep => by
        have hmark := step_pendingMark hstep
        refine ⟨⟨fun hd => (hmark.1 hd).1, fun hsent => ?_⟩, fun hfail hsent' => ?_⟩
        · cases hx : x.2.resetsPending
          · exact (hmark.2 hx (hI hsent)).1
          · exact Bool.eq_false_iff.2 fun hd => by simp [(hmark.1 hd).1] at hx
        · simp only [pendingMark] at hsent'
          split at hsent'
          · cases hsent'
          next hx =>
            split at hsent'
            next hd => exact (hmark.1 hd).2
            · exact (hmark.2 (Bool.eq_false_iff.2 hx) (hI hsent')).2 hfail)
      (show false = true → PendingSent driver.cursorProducer from nofun) h'
  have hd₁ : (Outcome.yield ⟨streamId₁, .data data₁⟩ : Outcome ε β).isPendingData = true := by
    simp [Outcome.isPendingData, h₁]
  have hr₁ := (htrace (show _ = pre ++ (ready₁, .yield ⟨streamId₁, .data data₁⟩) ::
    (mid ++ (ready₂, .yield ⟨streamId₂, .data data₂⟩) :: post) by rw [h]; simp)).1 hd₁
  by_contra hno
  have hmid : ∀ z ∈ mid, z.1.resetsPending = false := fun z hz =>
    Bool.eq_false_iff.2 fun hr => hno ⟨z, hz, hr⟩
  have hmark : (pre ++ (ready₁, .yield ⟨streamId₁, .data data₁⟩) :: mid).foldl pendingMark false =
      true := by
    rw [List.foldl_append, List.foldl_cons, show pendingMark _ (ready₁, _) = true by
      simp [pendingMark, hr₁, hd₁]]
    exact foldl_pendingMark_true hmid
  simpa [Outcome.isPendingData, h₂] using (htrace h).2 hmark

end Stream

/-- Inputs that all read the sample storage keep its contract. -/
theorem numbered_of_sampleStorage {inputs : List (StorageReader Unit × Ready Unit)}
    (h : ∀ x ∈ inputs, x.1 = sampleStorage) : ∀ x ∈ inputs, x.1.Numbered :=
  fun x hx => h x hx ▸ sampleStorage_numbered

/-- The second batch of the stream of `firstBatchInputs`: blocks `3` to `5`. -/
def secondBatchData : Data Nat := ⟨some ⟨2, 1⟩, some ⟨5, 1⟩, .dataStatusFinalized, [3, 4, 5]⟩

theorem twoBatches_run :
    (run numberBlocks (fun _ => .error ()) 1 ⟨.new, (), 0⟩
        (firstBatchInputs ++ [(sampleStorage, idle)])).2 =
      firstBatchPrefix ++ (idle, .yield ⟨7, .data firstBatchData⟩) :: [] ++
        (idle, .yield ⟨7, .data secondBatchData⟩) :: [] := rfl

/-- Two batches in a row: the first ends at block `2`, and the second starts after it. -/
theorem second_batch_after_first :
    (∀ x ∈ firstBatchInputs ++ [(sampleStorage, idle)], x.1.Numbered) ∧
    (∀ p ∈ (firstBatchPrefix ++ (idle, .yield ⟨7, .data firstBatchData⟩) ::
        ([] : List (Ready Unit × Outcome Unit Nat))).inits,
      ∀ c ∈ p.foldl visibleCheckpoint none, c.number < UInt64.size - 1) ∧
    ∀ e ∈ firstBatchData.endCursor, e.number ≤ (secondBatchData.cursor.map (·.number + 1)).getD 0 ∧
      (firstBatchData.finality ≠ .dataStatusPending →
        e.number < (secondBatchData.cursor.map (·.number + 1)).getD 0) := by
  have hnum : ∀ x ∈ firstBatchInputs ++ [(sampleStorage, idle)], x.1.Numbered :=
    numbered_of_sampleStorage (by simp [firstBatchInputs])
  have hbound : ∀ p ∈ (firstBatchPrefix ++ (idle, .yield ⟨7, .data firstBatchData⟩) ::
      ([] : List (Ready Unit × Outcome Unit Nat))).inits,
      ∀ c ∈ p.foldl visibleCheckpoint none, c.number < UInt64.size - 1 := by decide
  exact ⟨hnum, hbound,
    data_blocks_in_order () _ hnum _ _ _ _ _ _ _ _ _ twoBatches_run (by simp) hbound⟩

/-- An ingestion `Finalized` message for block `10`. -/
def finalizedTen : Ready Unit := ⟨none, some (.ok (.finalized ⟨10, 1⟩)), ⟨0⟩⟩

/-- The batch after block `1` was invalidated and the finalized tip restored: blocks `2`
to `4`, from block `1` under its new hash. -/
def refilledData : Data Nat := ⟨some ⟨1, 5⟩, some ⟨4, 1⟩, .dataStatusFinalized, [2, 3, 4]⟩

/-- The inputs of the first batch, then the invalidation of block `1`, the finalized tip
back at `10`, and a poll. -/
def refillInputs : List (StorageReader Unit × Ready Unit) :=
  firstBatchInputs ++ [(sampleStorage, invalidateOne), (sampleStorage, finalizedTen),
    (sampleStorage, idle)]

theorem refill_run :
    (run numberBlocks (fun _ => .error ()) 1 ⟨.new, (), 0⟩ refillInputs).2 =
      (firstBatchPrefix ++ [(idle, .yield ⟨7, .data firstBatchData⟩)]) ++
        (invalidateOne, .yield ⟨7, .invalidate (some ⟨1, 5⟩)⟩) :: [(finalizedTen, .quiet)] ++
          (idle, .yield ⟨7, .data refilledData⟩) :: [] := rfl

/-- After the invalidation of block `1`, the next batch starts at block `1` and ends above
it. -/
theorem refill_after_invalidate_above :
    (∀ x ∈ refillInputs, x.1.Numbered) ∧
    (∀ p ∈ ((firstBatchPrefix ++
        [((idle, .yield ⟨7, .data firstBatchData⟩) : Ready Unit × Outcome Unit Nat)]) ++
        ((invalidateOne, .yield ⟨7, .invalidate (some ⟨1, 5⟩)⟩) : Ready Unit × Outcome Unit Nat) ::
          [((finalizedTen, .quiet) : Ready Unit × Outcome Unit Nat)]).inits,
      ∀ c ∈ p.foldl visibleCheckpoint none, c.number < UInt64.size - 1) ∧
    (∃ s ∈ refilledData.cursor, (⟨1, 5⟩ : GlobalBlockId).number ≤ s.number) ∧
    ∀ e ∈ refilledData.endCursor, (⟨1, 5⟩ : GlobalBlockId).number < e.number := by
  have hnum : ∀ x ∈ refillInputs, x.1.Numbered :=
    numbered_of_sampleStorage (by simp [refillInputs, firstBatchInputs])
  have hbound : ∀ p ∈ ((firstBatchPrefix ++
      [((idle, .yield ⟨7, .data firstBatchData⟩) : Ready Unit × Outcome Unit Nat)]) ++
      ((invalidateOne, .yield ⟨7, .invalidate (some ⟨1, 5⟩)⟩) : Ready Unit × Outcome Unit Nat) ::
        [((finalizedTen, .quiet) : Ready Unit × Outcome Unit Nat)]).inits,
      ∀ c ∈ p.foldl visibleCheckpoint none, c.number < UInt64.size - 1 := by decide
  exact ⟨hnum, hbound, data_after_invalidate_above () _ hnum _ _ _ _ _ _ _ _ _ refill_run
    (by simp [finalizedTen]) hbound⟩

/-- Stream `3`, pending data from block `10`, in batches of three. -/
def pendingConfiguration : Ready Unit :=
  ⟨some (.ok ⟨3, some ⟨10, 1⟩, .dataStatusPending, 3⟩), none, ⟨0⟩⟩

/-- An ingestion `Pending` message for block `11` under the hash `hash`. -/
def pendingAt (hash : Nat) : Ready Unit := ⟨none, some (.ok (.pending ⟨11, hash⟩)), ⟨0⟩⟩

/-- The pending batch of block `11`. -/
def pendingData : Data Nat := ⟨some ⟨10, 1⟩, some ⟨11, 1⟩, .dataStatusPending, [11]⟩

theorem pendingTwice_run :
    (run numberBlocks (fun _ => .error ()) 1 ⟨.new, (), 0⟩
        [(sampleStorage, pendingConfiguration), (sampleStorage, pendingAt 1), (sampleStorage, idle),
          (sampleStorage, pendingAt 2), (sampleStorage, idle)]).2 =
      [(pendingConfiguration, .quiet), (pendingAt 1, .quiet)] ++
        (idle, .yield ⟨3, .data pendingData⟩) :: [(pendingAt 2, .quiet)] ++
          (idle, .yield ⟨3, .data pendingData⟩) :: [] := rfl

/-- Block `11` is sent as pending twice, once after each ingestion `Pending` message; the
second message is what cleared the mark. -/
theorem pending_sent_again_after_pending_message :
    pendingData.finality = .dataStatusPending ∧
    ∃ z ∈ [((pendingAt 2, .quiet) : Ready Unit × Outcome Unit Nat)], z.1.resetsPending = true :=
  ⟨rfl, pending_data_separated_by_reset _ _ _ _ _ _ _ _ _ _ _ pendingTwice_run rfl rfl⟩

end DataStream

end ApibaraDna
