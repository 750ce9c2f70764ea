import ApibaraDna.Stream.Steps

/-!
# The walk back of `reconfigure`

A client's starting cursor may have been reorganised away. `reconfigure` then
follows parent links, through stored headers, to the first block whose status is
accepted or finalized, and answers `Invalidate` at that block.

The chain is `ancestor k b`, the `k`-th block up from `b`. `FirstCanonical` and
`MissingOnChain` say, in terms of the chain alone, where the walk should stop;
`walkBack_of_firstCanonical` and `walkBack_of_missingOnChain` show the loop stops
there once its fuel covers the chain, and `walkBack_isSome` that some fuel always
does when parents have smaller block numbers than their children.
-/
namespace ApibaraDna

section Walk

variable {ε : Type} (storage : StorageReader ε)
  (fromBlockHeaderParent : BlockHeader → Except ε GlobalBlockId)

/-- The `k`-th block up the parent chain of `b`, through stored headers: `none` once a
header is missing or unreadable, or names no parent. -/
def ancestor : Nat → GlobalBlockId → Option GlobalBlockId
  | 0, b => some b
  | k + 1, b =>
    match storage.readHeader b with
    | .ok (some header) =>
      match fromBlockHeaderParent header with
      | .ok parent => ancestor k parent
      | .error _ => none
    | _ => none

/-- The status of `b` is present and accepted or finalized. -/
def StatusCanonical (b : GlobalBlockId) : Prop :=
  ∃ status, storage.readStatus b = .ok (some status) ∧ (status.isAccepted || status.isFinalized)

/-- The status of `b` is present, and neither accepted nor finalized. -/
def StatusStale (b : GlobalBlockId) : Prop :=
  ∃ status, storage.readStatus b = .ok (some status) ∧
    (status.isAccepted || status.isFinalized) = false

/-- The first `k` blocks of the chain from `b` are there, each with a stale status. -/
def StaleBefore (b : GlobalBlockId) (k : Nat) : Prop :=
  ∀ j < k, ∃ x, ancestor storage fromBlockHeaderParent j b = some x ∧ StatusStale storage x

/-- `a` is the first block of the chain from `b` whose status is accepted or
finalized, `k` links up. -/
def FirstCanonical (b a : GlobalBlockId) (k : Nat) : Prop :=
  ancestor storage fromBlockHeaderParent k b = some a ∧ StatusCanonical storage a ∧
    StaleBefore storage fromBlockHeaderParent b k

/-- `k` links up the chain from `b`, before any accepted or finalized block, a status
or a header is missing. -/
def MissingOnChain (b : GlobalBlockId) (k : Nat) : Prop :=
  StaleBefore storage fromBlockHeaderParent b k ∧
    ∃ x, ancestor storage fromBlockHeaderParent k b = some x ∧
      (storage.readStatus x = .ok none ∨
        StatusStale storage x ∧ storage.readHeader x = .ok none)

/-- Parents have smaller block numbers than their children. -/
def ParentsDescend : Prop :=
  ∀ b header parent, storage.readHeader b = .ok (some header) →
    fromBlockHeaderParent header = .ok parent → parent.number < b.number

/-- The loop started at `b` leaves on pass `k + 1` with `result`: `k` passes move to a
parent, and the next one leaves. This is the loop without a bound on its passes. -/
def LeavesAt : Nat → GlobalBlockId → Except ε (Option GlobalBlockId) → Prop
  | 0, b, result => walkBackBody storage fromBlockHeaderParent b = .inl result
  | k + 1, b, result => ∃ parent, walkBackBody storage fromBlockHeaderParent b = .inr parent ∧
      LeavesAt k parent result

/-! ## The chain -/

variable {storage fromBlockHeaderParent}

theorem ancestor_succ_of {b parent : GlobalBlockId} {header : BlockHeader}
    (hh : storage.readHeader b = .ok (some header))
    (hp : fromBlockHeaderParent header = .ok parent) (k : Nat) :
    ancestor storage fromBlockHeaderParent (k + 1) b =
      ancestor storage fromBlockHeaderParent k parent := by
  simp [ancestor, hh, hp]

theorem ancestor_succ_eq_some {b a : GlobalBlockId} {k : Nat} :
    ancestor storage fromBlockHeaderParent (k + 1) b = some a ↔
      ∃ header parent, storage.readHeader b = .ok (some header) ∧
        fromBlockHeaderParent header = .ok parent ∧
        ancestor storage fromBlockHeaderParent k parent = some a := by
  constructor
  · simp only [ancestor]
    split
    · split
      · exact fun h => ⟨_, _, ‹_›, ‹_›, h⟩
      · simp
    · simp
  · rintro ⟨header, parent, hh, hp, ha⟩
    rw [ancestor_succ_of hh hp, ha]

/-- One link up: the chain from `b` is stale for `k + 1` blocks when `b` is, and the
chain from its parent is for `k`. -/
theorem staleBefore_succ {b parent : GlobalBlockId} {header : BlockHeader}
    (hh : storage.readHeader b = .ok (some header))
    (hp : fromBlockHeaderParent header = .ok parent) {k : Nat} :
    StaleBefore storage fromBlockHeaderParent b (k + 1) ↔
      StatusStale storage b ∧ StaleBefore storage fromBlockHeaderParent parent k := by
  constructor
  · intro h
    obtain ⟨x, hx, hs⟩ := h 0 (Nat.succ_pos k)
    cases hx
    refine ⟨hs, fun j hj => ?_⟩
    rw [← ancestor_succ_of hh hp]
    exact h (j + 1) (by omega)
  · rintro ⟨hb, h⟩ (_ | j) hj
    · exact ⟨b, rfl, hb⟩
    · rw [ancestor_succ_of hh hp]
      exact h j (by omega)

/-! ## One pass of the loop -/

theorem StatusStale.not_canonical {b : GlobalBlockId} (h : StatusStale storage b) :
    ¬ StatusCanonical storage b := by
  rintro ⟨status, hs, hc⟩
  obtain ⟨status', hs', hc'⟩ := h
  simp only [hs, Except.ok.injEq, Option.some.injEq] at hs'
  simp_all

theorem walkBackBody_eq_inr {b parent : GlobalBlockId} :
    walkBackBody storage fromBlockHeaderParent b = .inr parent ↔
      StatusStale storage b ∧ ∃ header, storage.readHeader b = .ok (some header) ∧
        fromBlockHeaderParent header = .ok parent := by
  unfold walkBackBody StatusStale
  split <;> (try split) <;> (try split) <;> (try split) <;>
    simp_all [-Bool.or_eq_true, -Bool.or_eq_false_iff]

theorem walkBackBody_eq_inl_some {b a : GlobalBlockId} :
    walkBackBody storage fromBlockHeaderParent b = .inl (.ok (some a)) ↔
      a = b ∧ StatusCanonical storage b := by
  unfold walkBackBody StatusCanonical
  split <;> (try split) <;> (try split) <;> (try split) <;>
    simp_all [@eq_comm _ a, -Bool.or_eq_true, -Bool.or_eq_false_iff]

theorem walkBackBody_eq_inl_none {b : GlobalBlockId} :
    walkBackBody storage fromBlockHeaderParent b = .inl (.ok none) ↔
      storage.readStatus b = .ok none ∨
        StatusStale storage b ∧ storage.readHeader b = .ok none := by
  unfold walkBackBody StatusStale
  split <;> (try split) <;> (try split) <;> (try split) <;>
    simp_all [-Bool.or_eq_true, -Bool.or_eq_false_iff]

/-! ## The loop -/

/-- The passes before the last one walk the chain through stale blocks. -/
theorem leavesAt_iff {k : Nat} {b : GlobalBlockId} {result : Except ε (Option GlobalBlockId)} :
    LeavesAt storage fromBlockHeaderParent k b result ↔
      StaleBefore storage fromBlockHeaderParent b k ∧
        ∃ x, ancestor storage fromBlockHeaderParent k b = some x ∧
          walkBackBody storage fromBlockHeaderParent x = .inl result := by
  induction k generalizing b with
  | zero => simp [LeavesAt, StaleBefore, ancestor]
  | succ k ih =>
    simp only [LeavesAt, ih]
    constructor
    · rintro ⟨parent, hb, hs, x, hx, hr⟩
      obtain ⟨hstale, header, hh, hp⟩ := walkBackBody_eq_inr.1 hb
      exact ⟨(staleBefore_succ hh hp).2 ⟨hstale, hs⟩, x, (ancestor_succ_of hh hp k).trans hx, hr⟩
    · rintro ⟨hs, x, hx, hr⟩
      obtain ⟨header, parent, hh, hp, hx⟩ := ancestor_succ_eq_some.1 hx
      obtain ⟨hstale, hs⟩ := (staleBefore_succ hh hp).1 hs
      exact ⟨parent, walkBackBody_eq_inr.2 ⟨hstale, header, hh, hp⟩, hs, x, hx, hr⟩

theorem firstCanonical_iff_leavesAt {b a : GlobalBlockId} {k : Nat} :
    FirstCanonical storage fromBlockHeaderParent b a k ↔
      LeavesAt storage fromBlockHeaderParent k b (.ok (some a)) := by
  simp only [leavesAt_iff, walkBackBody_eq_inl_some, FirstCanonical]
  constructor
  · rintro ⟨ha, hc, hs⟩
    exact ⟨hs, a, ha, rfl, hc⟩
  · rintro ⟨hs, _, ha, rfl, hc⟩
    exact ⟨ha, hc, hs⟩

theorem missingOnChain_iff_leavesAt {b : GlobalBlockId} {k : Nat} :
    MissingOnChain storage fromBlockHeaderParent b k ↔
      LeavesAt storage fromBlockHeaderParent k b (.ok none) := by
  simp only [leavesAt_iff, walkBackBody_eq_inl_none, MissingOnChain]

/-- The loop leaves at one pass only, with one result. -/
theorem LeavesAt.unique {k k' : Nat} {b : GlobalBlockId} {r r' : Except ε (Option GlobalBlockId)}
    (h : LeavesAt storage fromBlockHeaderParent k b r)
    (h' : LeavesAt storage fromBlockHeaderParent k' b r') : k = k' ∧ r = r' := by
  induction k generalizing b k' with
  | zero =>
    have h : walkBackBody storage fromBlockHeaderParent b = .inl r := h
    cases k' with
    | zero =>
      have h' : walkBackBody storage fromBlockHeaderParent b = .inl r' := h'
      rw [h, Sum.inl.injEq] at h'
      exact ⟨rfl, h'⟩
    | succ k' =>
      obtain ⟨_, hp, -⟩ := h'
      rw [h] at hp
      cases hp
  | succ k ih =>
    obtain ⟨parent, hp, h⟩ := h
    cases k' with
    | zero =>
      have h' : walkBackBody storage fromBlockHeaderParent b = .inl r' := h'
      rw [hp] at h'
      cases h'
    | succ k' =>
      obtain ⟨parent', hp', h'⟩ := h'
      rw [hp, Sum.inr.injEq] at hp'
      subst hp'
      obtain ⟨rfl, rfl⟩ := ih h h'
      exact ⟨rfl, rfl⟩

/-- What the bounded loop returns, the unbounded one returns. -/
theorem leavesAt_of_walkBack {fuel : Nat} {b : GlobalBlockId} {r : Except ε (Option GlobalBlockId)}
    (h : walkBack storage fromBlockHeaderParent fuel b = some r) :
    ∃ k < fuel, LeavesAt storage fromBlockHeaderParent k b r := by
  induction fuel generalizing b with
  | zero => cases h
  | succ fuel ih =>
    rcases hb : walkBackBody storage fromBlockHeaderParent b with r' | parent <;>
      simp only [walkBack, hb, Option.some.injEq] at h
    · exact ⟨0, by omega, h ▸ hb⟩
    · obtain ⟨k, hk, hl⟩ := ih h
      exact ⟨k + 1, by omega, parent, hb, hl⟩

/-- **Termination.** When parents have smaller numbers, the loop leaves within
`b.number + 1` passes. -/
theorem walkBack_isSome (hwf : ParentsDescend storage fromBlockHeaderParent) {fuel : Nat}
    {b : GlobalBlockId} (h : b.number < fuel) :
    (walkBack storage fromBlockHeaderParent fuel b).isSome := by
  induction fuel generalizing b with
  | zero => omega
  | succ fuel ih =>
    rcases hb : walkBackBody storage fromBlockHeaderParent b with r | parent <;>
      simp only [walkBack, hb, Option.isSome_some]
    obtain ⟨-, header, hh, hp⟩ := walkBackBody_eq_inr.1 hb
    exact ih (by have := hwf b header parent hh hp; omega)

/-- Where the loop leaves is determined: every other pass and result is ruled out. -/
theorem LeavesAt.iff {k j : Nat} {b : GlobalBlockId} {r r' : Except ε (Option GlobalBlockId)}
    (h : LeavesAt storage fromBlockHeaderParent k b r) :
    LeavesAt storage fromBlockHeaderParent j b r' ↔ j = k ∧ r' = r :=
  ⟨fun h' => by obtain ⟨rfl, rfl⟩ := h'.unique h; exact ⟨rfl, rfl⟩, by rintro ⟨rfl, rfl⟩; exact h⟩

/-! ## `reconfigure` with a starting cursor -/

/-- With the starting cursor resolved to `s'`, the match reads the status of `s'` and
walks from it only when that status is stale. Its outcome is where the loop started at
`s'` leaves: `Ok` when on the first pass, `Invalidate` after. -/
theorem startingCursorOutcome_leavesAt {fuel : Nat} {s s' : GlobalBlockId}
    (hres : resolveStartingCursor storage s = .ok (some s'))
    {o : Except ε (Option (Option GlobalBlockId × ReconfigureResponse))}
    (h : startingCursorOutcome storage fromBlockHeaderParent fuel (some s) = some o) :
    ∃ k r, LeavesAt storage fromBlockHeaderParent k s' r ∧
      o = r.map (Option.map fun a => (some a, if k = 0 then .ok else .invalidate a)) := by
  simp only [startingCursorOutcome, hres] at h
  split at h
  next _ e hs => exact ⟨0, .error e, by simp [LeavesAt, walkBackBody, hs], by cases h; rfl⟩
  next _ hs => exact ⟨0, .ok none, by simp [LeavesAt, walkBackBody, hs], by cases h; rfl⟩
  next _ status hs =>
    split at h
    next hc =>
      exact ⟨0, .ok (some s'), by simp [LeavesAt, walkBackBody, hs, hc], by cases h; rfl⟩
    next hc =>
    have hstale : StatusStale storage s' := ⟨status, hs, by simpa using hc⟩
    split at h
    · cases h
    all_goals
      obtain ⟨k, -, hl⟩ := leavesAt_of_walkBack ‹_›
      refine ⟨k, _, hl, ?_⟩
      cases h
    · rfl
    · rfl
    · have hk : k ≠ 0 := by
        rintro rfl
        exact hstale.not_canonical (walkBackBody_eq_inl_some.1 hl).2
      simp [hk, Except.map]

/-- The match is left unfinished only by a loop that ran out of passes. -/
theorem startingCursorOutcome_eq_none {fuel : Nat} {start : Option GlobalBlockId}
    (h : startingCursorOutcome storage fromBlockHeaderParent fuel start = none) :
    ∃ s s', start = some s ∧ resolveStartingCursor storage s = .ok (some s') ∧
      walkBack storage fromBlockHeaderParent fuel s' = none := by
  unfold startingCursorOutcome at h
  split at h
  · cases h
  split at h <;> try cases h
  split at h <;> try cases h
  split at h
  · cases h
  split at h <;> try cases h
  exact ⟨_, _, rfl, ‹_›, ‹_›⟩

/-- **`reconfigure` with a starting cursor** `s`, resolved by its hash to `s'`: over parents
of smaller numbers it returns, and answers at `s'` or at the first accepted or finalized
block up the chain from it, leaving the producer alone on `MissingStartingCursor` or an error. -/
theorem reconfigure_walks_back (hwf : ParentsDescend storage fromBlockHeaderParent)
    {configuration : StreamConfiguration} {s : GlobalBlockId}
    (hs : configuration.startingCursor = some s) (producer : SequentialCursorProducer) :
    (s.hash = 0 → resolveStartingCursor storage s = storage.canonicalBlockId s.number) ∧
    (s.hash ≠ 0 → resolveStartingCursor storage s = .ok (some s)) ∧
    (∃ bound, ∀ fuel, bound ≤ fuel →
      (reconfigure storage fromBlockHeaderParent fuel configuration producer).isSome) ∧
    ∀ fuel producer' result,
      reconfigure storage fromBlockHeaderParent fuel configuration producer =
        some (producer', result) →
      (resolveStartingCursor storage s = .ok none → result = .ok .missingStartingCursor) ∧
      (∀ s', resolveStartingCursor storage s = .ok (some s') →
        (StatusCanonical storage s' → result = .ok .ok ∧ producer'.current = some s') ∧
        (∀ a, result = .ok (.invalidate a) ↔
          StatusStale storage s' ∧ ∃ k, FirstCanonical storage fromBlockHeaderParent s' a k) ∧
        (∀ a, result = .ok (.invalidate a) → producer'.current = some a) ∧
        (result = .ok .missingStartingCursor ↔
          ∃ k, MissingOnChain storage fromBlockHeaderParent s' k)) ∧
      (result = .ok .missingStartingCursor ∨ (∃ e, result = .error e) → producer' = producer) := by
  refine ⟨fun h => if_pos h, fun h => if_neg h, ?_, fun fuel producer' result h => ?_⟩
  · refine ⟨match resolveStartingCursor storage s with
      | .ok (some s') => s'.number + 1
      | _ => 0, fun fuel hfuel => Option.isSome_iff_ne_none.2 fun hnone => ?_⟩
    unfold reconfigure at hnone
    split at hnone <;> try cases hnone
    obtain ⟨_, s', hs', hres, hw⟩ := startingCursorOutcome_eq_none ‹_›
    rw [hs, Option.some.injEq] at hs'
    subst hs'
    simp only [hres] at hfuel
    exact Option.isSome_iff_ne_none.1 (walkBack_isSome hwf (by omega)) hw
  unfold reconfigure at h
  rw [hs] at h
  rcases hres : resolveStartingCursor storage s with e | _ | s'
  iterate 2
    simp only [startingCursorOutcome, hres, Option.some.injEq, Prod.mk.injEq] at h
    obtain ⟨rfl, rfl⟩ := h
    simp
  rcases ho : startingCursorOutcome storage fromBlockHeaderParent fuel (some s) with _ | o <;>
    rw [ho] at h
  · cases h
  obtain ⟨k, r, hl, rfl⟩ := startingCursorOutcome_leavesAt hres ho
  have hcanonical (hc : StatusCanonical storage s') : 0 = k ∧ .ok (some s') = r :=
    hl.iff.1 (walkBackBody_eq_inl_some.2 ⟨rfl, hc⟩)
  have hfirst (a : GlobalBlockId) :
      (∃ j, FirstCanonical storage fromBlockHeaderParent s' a j) ↔ r = .ok (some a) := by
    simp [firstCanonical_iff_leavesAt, hl.iff, eq_comm]
  have hmissing : (∃ j, MissingOnChain storage fromBlockHeaderParent s' j) ↔ r = .ok none := by
    simp [missingOnChain_iff_leavesAt, hl.iff, eq_comm]
  rcases r with e | _ | a <;>
    simp only [Except.map, Option.map, Option.some.injEq, Prod.mk.injEq] at h <;>
    obtain ⟨rfl, rfl⟩ := h
  iterate 2
    -- a storage error, or a status or header missing, on the way
    refine ⟨by simp, fun s'' hs'' => ?_, fun _ => rfl⟩
    obtain rfl : s' = s'' := by simpa [hres] using hs''
    exact ⟨fun hc => by simpa using (hcanonical hc).2, by simp [hfirst], by simp,
      by simp [hmissing]⟩
  · -- an accepted or finalized block found
    refine ⟨by simp, fun s'' hs'' => ?_, by split <;> simp⟩
    obtain rfl : s' = s'' := by simpa [hres] using hs''
    cases k with
    | zero =>
      obtain ⟨rfl, hc⟩ := walkBackBody_eq_inl_some.1 hl
      exact ⟨fun _ => by simp [SequentialCursorProducer.current],
        fun a' => ⟨by simp, fun ⟨h, _⟩ => absurd hc h.not_canonical⟩, by simp,
        by simp [hmissing]⟩
    | succ k =>
      have hst : StatusStale storage s' := by
        obtain ⟨_, hb, -⟩ := hl
        exact (walkBackBody_eq_inr.1 hb).1
      exact ⟨fun hc => absurd hc hst.not_canonical, fun a' => by simp [hfirst, hst],
        fun a' h => by simp_all [SequentialCursorProducer.current], by simp [hmissing]⟩

end Walk

/-- The chain of the reorganisation test: blocks `7` and `8` rejected, block `6` and
below accepted on L1, and every block above `0` with a header whose parent hash is `1`. -/
def reorgStorage : StorageReader Unit where
  canonicalBlockId k := .ok (some ⟨k, 1⟩)
  readStatus b := .ok (some (if b.number ≤ 6 then .acceptedOnL1 else .rejected))
  readHeader b := .ok (if b.number = 0 then none else some ⟨b.number, some b.hash, some 1⟩)
  highestAcceptedBlock := .ok (some ⟨15, 1⟩)
  highestFinalizedBlock := .ok (some ⟨10, 1⟩)
  allocates _ := true

/-- The parent of a header: the block below it, with the header's parent hash. -/
def reorgParent (header : BlockHeader) : Except Unit GlobalBlockId :=
  match header.parentBlockHash with
  | some hash => .ok ⟨header.blockNumber - 1, hash⟩
  | none => .error ()

/-- A client asking for accepted data from block `8`, on a branch that was reorganised
away. -/
def reorgConfiguration : StreamConfiguration := ⟨0, some ⟨8, 2⟩, .dataStatusAccepted, 3⟩

/-- On the test's chain `reconfigure` terminates, and walks from block `8` back to block
`6`. -/
theorem reorg_reconfigure_invalidates_at_six :
    ParentsDescend reorgStorage reorgParent ∧
    reorgConfiguration.startingCursor = some ⟨8, 2⟩ ∧
    (∃ bound, ∀ fuel, bound ≤ fuel →
      (reconfigure reorgStorage reorgParent fuel reorgConfiguration .new).isSome) ∧
    (reconfigure reorgStorage reorgParent 3 reorgConfiguration .new).map (·.2) =
      some (.ok (.invalidate ⟨6, 1⟩)) := by
  have hwf : ParentsDescend reorgStorage reorgParent := by
    intro b header parent hh hp
    by_cases hb : b.number = 0 <;> simp [reorgStorage, hb] at hh
    subst hh
    simp only [reorgParent, Except.ok.injEq] at hp
    subst hp
    simp only
    omega
  exact ⟨hwf, rfl, (reconfigure_walks_back hwf rfl .new).2.2.1, rfl⟩

end ApibaraDna
