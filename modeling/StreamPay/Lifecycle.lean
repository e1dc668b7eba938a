import StreamPay.Records

/-!
# The life of a stream

A stored record is well formed throughout its life.  A stream that has been
cancelled is never touched again.  A stream that has been completed can still be
cancelled by one of its parties, because `cancel` rejects cancelled streams only;
nothing else touches it.
-/

namespace StreamPay

open Foundation

variable {Address : Type} [DecidableEq Address] {contract : Address}

/--
In every reachable state, a stored stream has a positive total and a proper
window, its withdrawals lie between zero and the total, an active stream still
owes something, and a completed one has been paid in full after its end.
-/
theorem stored_stream_invariant {system : System Address} (reachable : Reachable contract system)
    {id : U64} {stream : Stream Address}
    (stored : system.state.streams.lookup id = some stream) :
    1 ≤ stream.total.val ∧
      (0 ≤ stream.withdrawn.val ∧ stream.withdrawn.val ≤ stream.total.val) ∧
        stream.start.val < stream.end.val ∧
          (stream.status = .active → stream.withdrawn.val < stream.total.val) ∧
            (stream.status = .completed →
              stream.withdrawn.val = stream.total.val ∧
                stream.end.val ≤ system.ledger.timestamp.val) := by
  have wellFormed := reachable.wellFormed stored
  exact ⟨wellFormed.totalPos, ⟨wellFormed.withdrawnNonneg, wellFormed.withdrawnLe⟩,
    wellFormed.window, wellFormed.activeOwes, wellFormed.completedPaid⟩

/-- A party of a completed stream authorizes its cancellation. -/
def cancelsCompleted (transition : Transition (System Address) (Action Address)) : Bool :=
  match transition.label with
  | .invoke invocation =>
      match invocation.call with
      | .cancel id caller =>
          invocation.authorized caller &&
            (transition.source.state.streams.lookup id).any fun stream =>
              decide (stream.status = .completed ∧
                (caller = stream.sender ∨ caller = stream.recipient))
      | _ => false
  | .advance _ | .external _ => false

/--
From the moment at which a stream is no longer active, its record stays the
same, nothing is transferred on its behalf, and no call addressed to it returns.
-/
def TerminalImmutable (contract : Address) (trace : Trace Address) (final : System Address) :
    Prop :=
  ∀ earlier later middle, trace = earlier ++ later → History contract earlier middle →
    Run (Step contract) middle later final →
      ∀ id stream, middle.state.streams.lookup id = some stream → stream.status ≠ .active →
        final.state.streams.lookup id = some stream ∧
          final.state.transfersFor id = middle.state.transfersFor id ∧
            ∀ transition ∈ later, ∀ call, returnedCall? contract transition = some call →
              call.target ≠ some id

section Steps

variable {source target : System Address} {action : Action Address} {id : U64}
  {stream : Stream Address}

/-- Only the cancellation of a completed stream touches a stream that is not active. -/
theorem Step.terminal (step : Step contract source action target)
    (reachable : Reachable contract source)
    (kept : cancelsCompleted ⟨source, action, target⟩ = false)
    (stored : source.state.streams.lookup id = some stream) (terminal : stream.status ≠ .active) :
    target.state.streams.lookup id = some stream ∧
      target.state.transfersFor id = source.state.transfersFor id ∧
        ∀ call, returnedCall? contract ⟨source, action, target⟩ = some call →
          call.target ≠ some id := by
  cases stepEffect_of_step step with
  | advance later laterSequence => exact ⟨stored, rfl, by simp [returnedCall?]⟩
  | external noLoss => exact ⟨stored, rfl, by simp [returnedCall?]⟩
  | failed outcome => exact ⟨stored, rfl, by simp [returnedCall?, outcome]⟩
  | @returned invocation reply after outcome effect =>
      rcases effect.exists_record stored (reachable.lt_counter stored) with
        ⟨changed, changedStored, record⟩
      have elsewhere : invocation.call.target ≠ some id ∧ changed = stream := by
        rcases invocation with ⟨authorized, transferAccepted, call⟩
        cases record with
        | untouched elsewhere => exact ⟨elsewhere, rfl⟩
        | raised checks => exact absurd checks.active terminal
        | prolonged checks => exact absurd checks.active terminal
        | paidOut checks => exact absurd checks.active terminal
        | @closed caller token vested recipientPaid senderRefund checks =>
            have completed : stream.status = .completed := by
              by_contra notCompleted
              exact terminal (status_eq_active_iff.mpr ⟨checks.notCancelled, notCompleted⟩)
            have isAuthorized : authorized caller = true := checks.authorized
            have isParty := checks.isParty
            simp only [cancelsCompleted, stored, isAuthorized, completed, isParty, Option.any_some,
              true_and, decide_true, Bool.and_self, Bool.true_eq_false] at kept
      rcases elsewhere with ⟨elsewhere, rfl⟩
      refine ⟨changedStored, effect.transfersFor_eq elsewhere, ?_⟩
      intro call returned
      rw [returnedCall?_of_outcome outcome, Option.some.injEq] at returned
      rw [← returned]
      exact elsewhere

/-- A party that authorizes the cancellation of a completed stream succeeds. -/
theorem exists_returned_of_cancelsCompleted (reachable : Reachable contract source)
    (cancels : cancelsCompleted ⟨source, action, target⟩ = true) :
    ∃ id caller stream,
      source.state.streams.lookup id = some stream ∧ stream.status = .completed ∧
        returnedCall? contract ⟨source, action, target⟩ = some (.cancel id caller) := by
  cases action with
  | advance ledger => simp [cancelsCompleted] at cancels
  | external balances => simp [cancelsCompleted] at cancels
  | invoke invocation =>
      rcases invocation with ⟨authorized, transferAccepted, call⟩
      cases call with
      | cancel id caller =>
          simp only [cancelsCompleted, Bool.and_eq_true, Option.any_eq_true,
            decide_eq_true_eq] at cancels
          rcases cancels with ⟨isAuthorized, stream, stored, completed, isParty⟩
          refine ⟨id, caller, stream, stored, completed, ?_⟩
          have wellFormed := reachable.wellFormed stored
          rcases wellFormed.completedPaid completed with ⟨paid, ended⟩
          rcases reachable.exists_token stored with ⟨token, tokenSet⟩
          have checks :
              CancelChecks
                (Invocation.env ⟨authorized, transferAccepted, .cancel id caller⟩ contract
                  source.ledger)
                source.state id caller stream stream.total 0 0 token := by
            refine ⟨isAuthorized, stored, isParty, by simp [completed],
              Vesting.vested_of_end_le wellFormed.window ended, ?_, (sub_self _).symm, tokenSet,
              ?_, ?_⟩
            · rw [paid]
              exact (sub_self _).symm
            · intro positive
              exact absurd positive (lt_irrefl _)
            · intro positive
              exact absurd positive (lt_irrefl _)
          exact returnedCall?_of_outcome (Effect.cancel checks).outcome_eq
      | _ => simp [cancelsCompleted] at cancels

end Steps

/-- The record and the transfers of a stream that is not active stay as they are. -/
theorem terminal_run {id : U64} {stream : Stream Address} {middle final : System Address}
    {trace : Trace Address} (reachable : Reachable contract middle)
    (run : Run (Step contract) middle trace final)
    (kept : ∀ transition ∈ trace, cancelsCompleted transition = false)
    (stored : middle.state.streams.lookup id = some stream) (terminal : stream.status ≠ .active) :
    final.state.streams.lookup id = some stream ∧
      final.state.transfersFor id = middle.state.transfersFor id := by
  have still : Reachable contract final ∧ final.state.streams.lookup id = some stream ∧
      final.state.transfersFor id = middle.state.transfersFor id := by
    apply run.invariant_of_forall (fun transition => cancelsCompleted transition = false)
      ⟨reachable, stored, rfl⟩ kept
    rintro source action target ⟨sourceReachable, sourceStored, sourceTransfers⟩ step notCancelled
    rcases step.terminal sourceReachable notCancelled sourceStored terminal with
      ⟨targetStored, targetTransfers, _⟩
    exact ⟨sourceReachable.step step, targetStored, targetTransfers.trans sourceTransfers⟩
  exact still.2

/--
In a run, streams that are no longer active are immutable exactly when no party
of a completed stream authorizes its cancellation.
-/
theorem terminal_immutable_iff {trace : Trace Address} {final : System Address}
    (history : History contract trace final) :
    TerminalImmutable contract trace final ↔
      ∀ transition ∈ trace, cancelsCompleted transition = false := by
  constructor
  · intro immutable transition transitionMem
    by_contra cancels
    rw [Bool.not_eq_false] at cancels
    rcases history.of_mem transitionMem with ⟨earlier, later, traceEq, reaching, step, leaving⟩
    rcases exists_returned_of_cancelsCompleted reaching.reachable cancels with
      ⟨id, caller, stream, stored, completed, returned⟩
    have untouched := immutable earlier (transition :: later) transition.source traceEq reaching
      (.cons step leaving) id stream stored (by simp [completed])
    exact untouched.2.2 transition List.mem_cons_self _ returned rfl
  · intro kept earlier later middle traceEq reaching leaving id stream stored terminal
    subst trace
    rw [List.forall_mem_append] at kept
    rcases terminal_run reaching.reachable leaving kept.2 stored terminal with
      ⟨finalStored, finalTransfers⟩
    refine ⟨finalStored, finalTransfers, ?_⟩
    intro transition transitionMem call returned
    rcases leaving.of_mem transitionMem with ⟨before, after, laterEq, toSource, step, _⟩
    have reachable := (reaching.append toSource).reachable
    have keptBefore (other) (otherMem : other ∈ before) : cancelsCompleted other = false :=
      kept.2 other (laterEq ▸ List.mem_append_left _ otherMem)
    rcases terminal_run reaching.reachable toSource keptBefore stored terminal with
      ⟨sourceStored, _⟩
    exact (step.terminal reachable (kept.2 transition transitionMem) sourceStored
      terminal).2.2 call returned

namespace Sample

/-- A stream that has been withdrawn in full after its end. -/
def completing : List (Action Party) :=
  [callBy .admin (.initializeContract .admin .token),
    callBy .alice (.createStream .alice .bob (units 1000) 0 (time 200)),
    advanceTo (time 200),
    callBy .bob (.withdraw 0 .bob)]

def completedStream : Stream Party where
  sender := .alice
  recipient := .bob
  total := units 1000
  withdrawn := units 1000
  start := time 0
  «end» := time 200
  status := .completed

theorem completedStream_stored :
    (final completing).state.streams.lookup 0 = some completedStream := by
  decide

def cancelFirst : Action Party :=
  callBy .alice (.cancel 0 .alice)

end Sample

/-- The invariant applies to a stream that has been completed. -/
theorem stored_stream_invariant_completing :
    1 ≤ Sample.completedStream.total.val ∧
      (0 ≤ Sample.completedStream.withdrawn.val ∧
        Sample.completedStream.withdrawn.val ≤ Sample.completedStream.total.val) ∧
        Sample.completedStream.start.val < Sample.completedStream.end.val ∧
          (Sample.completedStream.status = .active →
            Sample.completedStream.withdrawn.val < Sample.completedStream.total.val) ∧
            (Sample.completedStream.status = .completed →
              Sample.completedStream.withdrawn.val = Sample.completedStream.total.val ∧
                Sample.completedStream.end.val ≤
                  (Sample.final Sample.completing).ledger.timestamp.val) :=
  stored_stream_invariant (Sample.history (by decide)).reachable
    Sample.completedStream_stored

/-- The theorem applies to a run that completes a stream and then tries to withdraw again. -/
theorem terminal_immutable_completing :
    TerminalImmutable .contract
      (Sample.trace (Sample.completing ++ [Sample.callBy .bob (.withdraw 0 .bob)]))
      (Sample.final (Sample.completing ++ [Sample.callBy .bob (.withdraw 0 .bob)])) :=
  (terminal_immutable_iff (Sample.history (by decide))).mpr (by decide)

/-- Without the condition a completed stream becomes a cancelled one. -/
theorem completed_stream_cancelled :
    ∃ trace final, History Sample.Party.contract trace final ∧
      ¬TerminalImmutable .contract trace final := by
  refine ⟨Sample.trace (Sample.completing ++ [Sample.cancelFirst]),
    Sample.final (Sample.completing ++ [Sample.cancelFirst]), ?_, ?_⟩
  · exact Sample.history (by decide)
  · intro immutable
    have traceEq : Sample.trace (Sample.completing ++ [Sample.cancelFirst]) =
        Sample.trace Sample.completing ++
          [Sample.transition Sample.completing Sample.cancelFirst] := by
      rw [Sample.trace, execute_append]
      rfl
    have leaving : Run (Step .contract) (Sample.final Sample.completing)
        [Sample.transition Sample.completing Sample.cancelFirst]
        (Sample.final (Sample.completing ++ [Sample.cancelFirst])) := by
      rw [Sample.final, Sample.final, List.foldl_append]
      exact .single ⟨trivial, rfl⟩
    have untouched := immutable _ _ _ traceEq (Sample.history (by decide)) leaving 0
      Sample.completedStream Sample.completedStream_stored (by decide)
    have returned : returnedCall? .contract
        (Sample.transition Sample.completing Sample.cancelFirst) = some (.cancel 0 .alice) := rfl
    exact untouched.2.2 _ List.mem_cons_self _ returned rfl

end StreamPay
