import ApibaraDna.Stream.Driver

/-!
# The stream drives the producer

Each iteration of the loop of `new_data_stream` makes at most one call on the cursor
producer: a configuration goes to `reconfigure`; with none ready, an ingestion message goes
to `handle_ingestion_message`; with neither ready, the producer is polled. An item that is an
error makes no call. The producer inside the driver is therefore, after any run, the
producer after the run of the calls the iterations made. Every fact proved of producer runs
holds of the producer a stream drives.
-/

namespace ApibaraDna

namespace DataStream

/-- The call an iteration makes on the cursor producer, if any. -/
def Ready.call {ε : Type} (ready : Ready ε) : Option Action :=
  match ready.configuration, ready.ingestion with
  | some (.ok configuration), _ => some (.reconfigure configuration)
  | some (.error _), _ => none
  | none, some (.ok message) => some (.handleIngestionMessage message)
  | none, some (.error _) => none
  | none, none => some (.pollNext ready.waker)

/-- The calls that iterations over `inputs` make, each against the storage it saw. -/
def calls {ε : Type} (inputs : List (StorageReader ε × Ready ε)) :
    List (StorageReader ε × Action) :=
  inputs.filterMap fun x => x.2.call.map (x.1, ·)

section Simulation

variable {ε σ β : Type} (batchProducer : BatchProducer ε σ β)
  (fromBlockHeaderParent : BlockHeader → Except ε GlobalBlockId) (fuel : Nat)
  {storage : StorageReader ε} {driver driver' : Driver σ} {ready : Ready ε}
  {outcome : Outcome ε β}

/-- `handle_configuration_message` leaves the cursor producer where its `reconfigure` did. -/
theorem handleConfigurationMessage_map_fst (cursorProducer : SequentialCursorProducer)
    (batchState : σ) (configuration : StreamConfiguration) :
    (handleConfigurationMessage batchProducer fromBlockHeaderParent fuel storage cursorProducer
        batchState (.ok configuration)).map Prod.fst =
      (reconfigure storage fromBlockHeaderParent fuel configuration cursorProducer).map
        Prod.fst := by
  simp only [handleConfigurationMessage, Option.map_map]
  congr 1
  funext x
  simp only [Function.comp_apply]
  split <;> (try split) <;> rfl

/-- **Step simulation.** An iteration that makes no call leaves the producer as it was; one
that makes a call leaves it where the producer's own step on that call does. -/
theorem step_call (h : step batchProducer fromBlockHeaderParent fuel storage driver ready =
      some (driver', outcome)) :
    (ready.call = none → driver'.cursorProducer = driver.cursorProducer) ∧
      ∀ action, ready.call = some action → ∃ reply,
        ApibaraDna.step fromBlockHeaderParent fuel storage driver.cursorProducer action =
          some (driver'.cursorProducer, reply) := by
  unfold step at h
  split at h
  next message hc =>
    cases message with
    | error err =>
      simp only [handleConfigurationMessage, Option.map_some', Option.some.injEq] at h
      obtain ⟨rfl, -⟩ := Prod.mk.inj h
      simp [Ready.call, hc]
    | ok configuration =>
      obtain ⟨⟨p, b, result⟩, hx, hfx⟩ := Option.map_eq_some'.1 h
      have hcp : driver'.cursorProducer = p := by
        revert hfx
        dsimp only
        split <;> (try split) <;> (rintro ⟨⟩; rfl)
      have hfst : (reconfigure storage fromBlockHeaderParent fuel configuration
          driver.cursorProducer).map Prod.fst = some p := by
        rw [← handleConfigurationMessage_map_fst, hx]
        rfl
      obtain ⟨⟨p, result⟩, hr, rfl⟩ := Option.map_eq_some'.1 hfst
      refine ⟨by simp [Ready.call, hc], fun action ha => ?_⟩
      obtain rfl : action = .reconfigure configuration := by simpa [Ready.call, hc] using ha.symm
      exact ⟨.reconfigure result, by simp [ApibaraDna.step, hr, hcp]⟩
  next message hc hi =>
    cases message with
    | error err =>
      simp only [handleIngestionMessage, Option.some.injEq] at h
      obtain ⟨rfl, -⟩ := Prod.mk.inj h
      simp [Ready.call, hc, hi]
    | ok message =>
      have hcp : driver'.cursorProducer =
          (ApibaraDna.handleIngestionMessage storage message driver.cursorProducer).1 := by
        simp only [handleIngestionMessage] at h
        split at h <;> obtain ⟨rfl, -⟩ := Prod.mk.inj (Option.some.inj h) <;> rfl
      refine ⟨by simp [Ready.call, hc, hi], fun action ha => ?_⟩
      obtain rfl : action = .handleIngestionMessage message := by
        simpa [Ready.call, hc, hi] using ha.symm
      exact ⟨.handleIngestionMessage (ApibaraDna.handleIngestionMessage storage message
        driver.cursorProducer).2, by simp [ApibaraDna.step, hcp]⟩
  next hc hi =>
    rcases hp : pollNext storage ready.waker driver.cursorProducer with _ | ⟨p, poll⟩ <;>
      simp only [hp, reduceCtorEq] at h
    have hcp : driver'.cursorProducer = p := by
      rcases poll with (_ | batchCursor) | _
      · obtain ⟨rfl, -⟩ := Prod.mk.inj (Option.some.inj h); rfl
      · rcases hb : handleBatchCursor batchProducer driver.batchProducer batchCursor with
          ⟨batchState, err | data⟩ <;> simp only [hb] at h <;>
          obtain ⟨rfl, -⟩ := Prod.mk.inj (Option.some.inj h) <;> rfl
      · obtain ⟨rfl, -⟩ := Prod.mk.inj (Option.some.inj h); rfl
    refine ⟨by simp [Ready.call, hc, hi], fun action ha => ?_⟩
    obtain rfl : action = .pollNext ready.waker := by simpa [Ready.call, hc, hi] using ha.symm
    exact ⟨.pollNext poll, by simp [ApibaraDna.step, hp, hcp]⟩

/-- **The stream drives the producer.** After any run of the driver, from any state, its
producer is the producer after the run of the calls that the iterations of the run made, and
that run makes every one of them. -/
theorem run_drives_producer (driver : Driver σ) (inputs : List (StorageReader ε × Ready ε)) :
    (ApibaraDna.run fromBlockHeaderParent fuel driver.cursorProducer
        (calls (inputs.take
          (run batchProducer fromBlockHeaderParent fuel driver inputs).2.length))).1 =
      (run batchProducer fromBlockHeaderParent fuel driver inputs).1.cursorProducer ∧
    (ApibaraDna.run fromBlockHeaderParent fuel driver.cursorProducer
        (calls (inputs.take
          (run batchProducer fromBlockHeaderParent fuel driver inputs).2.length))).2.length =
      (calls (inputs.take
        (run batchProducer fromBlockHeaderParent fuel driver inputs).2.length)).length := by
  induction inputs generalizing driver with
  | nil => simp [run, calls, ApibaraDna.run]
  | cons x inputs ih =>
    obtain ⟨storage, ready⟩ := x
    have hcons (rest : List (StorageReader ε × Ready ε)) :
        calls ((storage, ready) :: rest) =
          (ready.call.map (storage, ·)).toList ++ calls rest := by
      cases hc : ready.call <;> simp [calls, List.filterMap_cons, hc]
    simp only [run]
    split
    next hstep =>
      -- the iteration did not return, nor did its call
      simp [calls, ApibaraDna.run]
    next driver' err hstep =>
      -- the iteration failed: its call, if any, is the last
      obtain ⟨hnone, hsome⟩ := step_call batchProducer fromBlockHeaderParent fuel hstep
      simp only [List.length_singleton, List.take_succ_cons, List.take_zero, hcons]
      cases hc : ready.call with
      | none => simp [hnone hc, calls, ApibaraDna.run]
      | some action =>
        obtain ⟨reply, hr⟩ := hsome action hc
        simp [calls, ApibaraDna.run, hr]
    next driver' outcome hfail hstep =>
      obtain ⟨hnone, hsome⟩ := step_call batchProducer fromBlockHeaderParent fuel hstep
      simp only [List.length_cons, List.take_succ_cons, hcons]
      cases hc : ready.call with
      | none => simpa [hnone hc] using ih driver'
      | some action =>
        obtain ⟨reply, hr⟩ := hsome action hc
        simpa [ApibaraDna.run, hr] using ih driver'

end Simulation

end DataStream

end ApibaraDna
