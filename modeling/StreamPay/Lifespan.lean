import StreamPay.Cancellation
import StreamPay.Foundation.Accounting

/-!
# What a stream can ever do

This file looks at one stream from its creation on.  Its record says what has been
paid for it: the recipient has received at least the withdrawn figure and never more
than the total, and the sender is refunded exactly once, by the cancellation, what
the figure leaves of the total.

Every call that changes the stream raises a figure that cannot grow for ever: a
top-up the total, an extension the end, a withdrawal what was received, and a
cancellation the status.  So these figures bound how often each of the calls can
return.
-/

namespace StreamPay

open Foundation

variable {Address : Type}

/-- The ways to change an existing stream. -/
inductive StreamOperation where
  | raise
  | prolong
  | pay
  | close
  deriving DecidableEq

/-- The stream that a call would change, and how. -/
def Call.operation? : Call Address → Option (U64 × StreamOperation)
  | .topUp id _ _ => some (id, .raise)
  | .extendStream id _ _ => some (id, .prolong)
  | .withdraw id _ => some (id, .pay)
  | .cancel id _ => some (id, .close)
  | _ => none

theorem Call.target_of_operation? {call : Call Address} {id : U64} {operation : StreamOperation}
    (isOperation : call.operation? = some (id, operation)) : call.target = some id := by
  cases call with
  | topUp | extendStream | withdraw | cancel =>
      cases isOperation
      rfl
  | _ => contradiction

/-- The figure of a stream that an operation raises. -/
def Stream.figure (stream : Stream Address) (received : ℤ) : StreamOperation → ℤ
  | .raise => stream.total.val
  | .prolong => stream.end.val
  | .pay => received
  | .close => if stream.status = .cancelled then 1 else 0

/-- The figure that is stored under an id, or zero. -/
def State.figure (state : State Address) (id : U64) (operation : StreamOperation) : ℤ :=
  (state.streams.lookup id).elim 0 fun stream => stream.figure (state.received id) operation

/-- What was refunded to the sender of a stream. -/
def State.refunded (state : State Address) (id : U64) : ℤ :=
  movedFor (.refund id) state.transfers

/-- The record of a stream agrees with what was paid for it. -/
structure Stream.AccountsFor (stream : Stream Address) (received refunded : ℤ) : Prop where
  withdrawnLe : stream.withdrawn.val ≤ received
  receivedLe : received ≤ stream.total.val
  receivedEq : stream.status ≠ .cancelled → received = stream.withdrawn.val
  refundedEq : refunded =
    if stream.status = .cancelled then stream.total.val - stream.withdrawn.val else 0

variable [DecidableEq Address]

/-- The stream that a transition changes, and how. -/
def operation? (contract : Address)
    (transition : Transition (System Address) (Action Address)) :
    Option (U64 × StreamOperation) :=
  (returnedCall? contract transition).bind Call.operation?

section Call

variable {env : Env Address} {before after : State Address} {call : Call Address}
  {reply : Reply Address} {id : U64} {stream changed : Stream Address}

omit [DecidableEq Address] in
theorem refunded_eq_of_transfersFor {first second : State Address}
    (same : first.transfersFor id = second.transfersFor id) :
    first.refunded id = second.refunded id := by
  have concerns : (Purpose.refund id).stream? = some id := rfl
  rw [State.refunded, State.refunded, movedFor, movedFor, filter_transfersFor concerns first,
    filter_transfersFor concerns second, same]

/-- A cancelled record is left alone. -/
theorem RecordEffect.eq_of_cancelled (record : RecordEffect env before id stream call reply changed)
    (cancelled : stream.status = .cancelled) : changed = stream := by
  cases record with
  | untouched elsewhere => rfl
  | raised checks => exact absurd (checks.active.symm.trans cancelled) (by simp)
  | prolonged checks => exact absurd (checks.active.symm.trans cancelled) (by simp)
  | paidOut checks => exact absurd (checks.active.symm.trans cancelled) (by simp)
  | closed checks => exact absurd cancelled checks.notCancelled

/-- A call pays the recipient by what it raises the withdrawn figure. -/
theorem Effect.received_eq (effect : Effect env before call reply after)
    (record : RecordEffect env before id stream call reply changed) :
    after.received id =
      before.received id + max 0 (changed.withdrawn.val - stream.withdrawn.val) := by
  cases record with
  | untouched elsewhere =>
      rw [sub_self, max_self, add_zero]
      exact received_eq_of_transfersFor (effect.transfersFor_eq elsewhere)
  | raised checks =>
      cases effect
      simp [State.received, Stream.raised]
  | prolonged checks =>
      cases effect
      simp [State.received, Stream.prolonged]
  | paidOut checks =>
      have withdrawnEq := checks.withdrawnEq
      have positive := checks.positive
      cases effect
      simp [State.received, Stream.paidOut]
      omega
  | closed checks =>
      rcases effect.received_of_cancel with ⟨other, found, otherStored, foundEq, receivedEq⟩
      obtain rfl : other = stream := Option.some.inj (otherStored.symm.trans checks.stored)
      obtain rfl := Except.ok.inj (foundEq.symm.trans checks.vestedEq)
      exact receivedEq

/-- A call refunds what a cancellation leaves. -/
theorem Effect.refunded_eq (effect : Effect env before call reply after)
    (record : RecordEffect env before id stream call reply changed)
    (wellFormed : stream.WellFormed env.ledger.timestamp) :
    after.refunded id = before.refunded id +
      if changed.status = .cancelled ∧ stream.status ≠ .cancelled then
        changed.total.val - changed.withdrawn.val
      else
        0 := by
  cases record with
  | untouched elsewhere =>
      rw [if_neg (fun both => both.2 both.1), add_zero]
      exact refunded_eq_of_transfersFor (effect.transfersFor_eq elsewhere)
  | raised checks =>
      cases effect
      simp [State.refunded, movedFor, Stream.raised]
  | prolonged checks =>
      cases effect
      simp [State.refunded, movedFor, Stream.prolonged]
  | @paidOut _ _ _ withdrawn checks =>
      have notCancelled : (stream.paidOut withdrawn).status ≠ .cancelled := by
        rw [Stream.paidOut, checks.active]
        split
        · simp
        · simp
      rw [if_neg (fun both => notCancelled both.1), add_zero]
      cases effect
      simp [State.refunded, movedFor]
  | @closed _ _ vested _ _ checks =>
      rcases effect.exists_cancelled with
        ⟨other, found, recipientPaid, senderRefund, token, otherChecks, cancelled⟩
      obtain rfl : other = stream := Option.some.inj (otherChecks.stored.symm.trans checks.stored)
      obtain rfl : found = vested := Except.ok.inj (otherChecks.vestedEq.symm.trans checks.vestedEq)
      have onSchedule := checks.onSchedule wellFormed
      have scheduledLe : other.scheduled env.ledger.timestamp ≤ other.total.val :=
        wellFormed.scheduled_le
      have senderRefundEq := otherChecks.senderRefundEq
      rw [State.refunded, cancelled.transfers, movedFor_append, movedFor_cancelTransfers.2,
        if_pos ⟨rfl, checks.notCancelled⟩, max_eq_right (by omega), senderRefundEq]
      rfl

section Figures

variable {operation : StreamOperation} {received later : ℤ}

/-- No call lowers a figure. -/
theorem RecordEffect.figure_le (record : RecordEffect env before id stream call reply changed)
    (receivedLe : received ≤ later) :
    stream.figure received operation ≤ changed.figure later operation := by
  cases operation with
  | raise =>
      cases record with
      | raised checks =>
          have newTotalEq := checks.newTotalEq
          have amountPos := checks.amountPos
          show stream.total.val ≤ _
          simp only [Stream.figure, Stream.raised]
          omega
      | _ => exact le_rfl
  | prolong =>
      cases record with
      | prolonged checks => exact checks.later.le
      | _ => exact le_rfl
  | pay => exact receivedLe
  | close =>
      by_cases cancelled : stream.status = .cancelled
      · rw [Stream.figure, Stream.figure, if_pos cancelled,
          if_pos (record.continues.cancelled cancelled)]
      · rw [Stream.figure, if_neg cancelled, Stream.figure]
        split <;> omega

/-- An operation raises its figure. -/
theorem RecordEffect.figure_lt (record : RecordEffect env before id stream call reply changed)
    (receivedEq : later = received + max 0 (changed.withdrawn.val - stream.withdrawn.val))
    (isOperation : call.operation? = some (id, operation)) :
    stream.figure received operation < changed.figure later operation := by
  cases record with
  | untouched elsewhere => exact absurd (Call.target_of_operation? isOperation) elsewhere
  | raised checks =>
      cases isOperation
      have newTotalEq := checks.newTotalEq
      have amountPos := checks.amountPos
      simp only [Stream.figure, Stream.raised]
      omega
  | prolonged checks =>
      cases isOperation
      exact checks.later
  | paidOut checks =>
      cases isOperation
      have withdrawnEq := checks.withdrawnEq
      have positive := checks.positive
      simp only [Stream.figure, Stream.paidOut] at receivedEq ⊢
      omega
  | closed checks =>
      cases isOperation
      simp [Stream.figure, Stream.closed, checks.notCancelled]

end Figures

end Call

variable {contract : Address} {source target start final : System Address}
  {action : Action Address} {trace : Trace Address} {id : U64} {stream changed : Stream Address}

/-- Nothing is refunded for a stream that is not stored. -/
theorem Step.refunded_of_missing (step : Step contract source action target)
    (missing : source.state.streams.lookup id = none) :
    target.state.refunded id = source.state.refunded id := by
  cases stepEffect_of_step step with
  | advance later laterSequence => rfl
  | external noLoss => rfl
  | failed outcome => rfl
  | returned outcome effect =>
      apply refunded_eq_of_transfersFor
      apply effect.transfersFor_eq
      intro addressed
      rcases effect.exists_stored addressed with ⟨stream, stored⟩
      rw [missing] at stored
      contradiction

/-- A record that a call opens accounts for no payment. -/
theorem Step.accountsFor_of_missing (step : Step contract source action target)
    (reachable : Reachable contract source) (nothing : source.state.refunded id = 0)
    (missing : source.state.streams.lookup id = none)
    (stored : target.state.streams.lookup id = some stream) :
    stream.AccountsFor (target.state.received id) (target.state.refunded id) := by
  have active : stream.status = .active := by
    cases stepEffect_of_step step with
    | advance later laterSequence => exact absurd (missing.symm.trans stored) (by simp)
    | external noLoss => exact absurd (missing.symm.trans stored) (by simp)
    | failed outcome => exact absurd (missing.symm.trans stored) (by simp)
    | returned outcome effect => exact effect.opened_active missing stored
  have notCancelled : stream.status ≠ .cancelled := by simp [active]
  have receivedEq := (reachable.step step).received_eq stored notCancelled
  have wellFormed := (reachable.step step).wellFormed stored
  refine ⟨receivedEq.ge, receivedEq ▸ wellFormed.withdrawnLe, fun _ => receivedEq, ?_⟩
  rw [if_neg notCancelled, step.refunded_of_missing missing, nothing]

/-- What accounts for the payments before a call accounts for them afterwards. -/
theorem Step.accountsFor (step : Step contract source action target)
    (reachable : Reachable contract source)
    (stored : source.state.streams.lookup id = some stream)
    (accounts : stream.AccountsFor (source.state.received id) (source.state.refunded id))
    (changedStored : target.state.streams.lookup id = some changed) :
    changed.AccountsFor (target.state.received id) (target.state.refunded id) := by
  have kept (same : target.state.streams.lookup id = some stream) : changed = stream :=
    Option.some.inj (changedStored.symm.trans same)
  cases stepEffect_of_step step with
  | advance later laterSequence => exact kept stored ▸ accounts
  | external noLoss => exact kept stored ▸ accounts
  | failed outcome => exact kept stored ▸ accounts
  | @returned invocation reply after outcome effect =>
      rcases effect.exists_record stored (reachable.lt_counter stored) with
        ⟨found, foundStored, record⟩
      obtain rfl : found = changed := Option.some.inj (foundStored.symm.trans changedStored)
      have received := effect.received_eq record
      have refunded := effect.refunded_eq record (reachable.wellFormed stored)
      by_cases cancelled : stream.status = .cancelled
      · obtain rfl := record.eq_of_cancelled cancelled
        rw [sub_self, max_self, add_zero] at received
        rw [if_neg (fun both => both.2 both.1), add_zero] at refunded
        show found.AccountsFor (after.received id) (after.refunded id)
        rw [received, refunded]
        exact accounts
      · have receivedBefore := accounts.receivedEq cancelled
        have refundedBefore := accounts.refundedEq
        have withdrawnLe := ((reachable.step step).wellFormed changedStored).withdrawnLe
        have totalLe : stream.figure 0 .raise ≤ found.figure 0 .raise := record.figure_le le_rfl
        have receivedLe := accounts.receivedLe
        rw [if_neg cancelled] at refundedBefore
        simp only [Stream.figure] at totalLe
        simp only [ne_eq, cancelled, not_false_eq_true, and_true] at refunded
        refine ⟨?_, ?_, (reachable.step step).received_eq changedStored, ?_⟩
        · show _ ≤ after.received id
          omega
        · show after.received id ≤ _
          omega
        · show after.refunded id = _
          rw [refunded, refundedBefore, zero_add]

theorem Reachable.accounts (reachable : Reachable contract start) (id : U64) :
    (start.state.streams.lookup id = none → start.state.refunded id = 0) ∧
      ∀ stream, start.state.streams.lookup id = some stream →
        stream.AccountsFor (start.state.received id) (start.state.refunded id) := by
  rcases reachable with ⟨trace, history⟩
  induction history using History.induct with
  | nil start uninitialized =>
      refine ⟨fun _ => ?_, ?_⟩
      · rw [State.refunded, uninitialized.transfers]
        rfl
      · intro stream stored
        rw [uninitialized.streams, Finmap.lookup_empty] at stored
        contradiction
  | snoc trace source action target earlier step ih =>
      cases sourceStored : source.state.streams.lookup id with
      | none =>
          have nothing := ih.1 sourceStored
          refine ⟨fun _ => (step.refunded_of_missing sourceStored).trans nothing, ?_⟩
          intro stream stored
          exact step.accountsFor_of_missing earlier.reachable nothing sourceStored stored
      | some older =>
          rcases step.exists_continued earlier.reachable sourceStored with
            ⟨changed, changedStored, _⟩
          constructor
          · intro missing
            rw [changedStored] at missing
            contradiction
          · intro stream stored
            exact step.accountsFor earlier.reachable sourceStored (ih.2 older sourceStored) stored

/--
In every state the record of a stream accounts for everything that was paid for it:
the recipient has received at least the withdrawn figure, exactly this figure unless
the stream is cancelled, and never more than the total; the sender was refunded what
the figure leaves of the total if the stream is cancelled, and nothing otherwise.
Nothing was ever paid for an id that is not stored.
-/
theorem payments_accounted (reachable : Reachable contract final) (id : U64) :
    (final.state.streams.lookup id = none →
        final.state.received id = 0 ∧ final.state.refunded id = 0) ∧
      ∀ stream, final.state.streams.lookup id = some stream →
        stream.AccountsFor (final.state.received id) (final.state.refunded id) := by
  refine ⟨?_, (reachable.accounts id).2⟩
  intro missing
  exact ⟨reachable.received_of_none missing, (reachable.accounts id).1 missing⟩

/-- The theorem applies to a stream that was overpaid. -/
theorem payments_accounted_overpaid :
    ((Sample.final Sample.overpaid).state.streams.lookup 0 = none →
        (Sample.final Sample.overpaid).state.received 0 = 0 ∧
          (Sample.final Sample.overpaid).state.refunded 0 = 0) ∧
      ∀ stream, (Sample.final Sample.overpaid).state.streams.lookup 0 = some stream →
        stream.AccountsFor ((Sample.final Sample.overpaid).state.received 0)
          ((Sample.final Sample.overpaid).state.refunded 0) :=
  payments_accounted (Sample.history (by decide)).reachable 0

example :
    (Sample.final Sample.overpaid).state.received 0 = 500 ∧
      (Sample.final Sample.overpaid).state.refunded 0 = 950 := by
  decide

theorem Reachable.figure_nonneg (reachable : Reachable contract start) (id : U64)
    (operation : StreamOperation) : 0 ≤ start.state.figure id operation := by
  cases stored : start.state.streams.lookup id with
  | none => rw [State.figure, stored, Option.elim_none]
  | some stream =>
      rw [State.figure, stored, Option.elim_some]
      have wellFormed := reachable.wellFormed stored
      cases operation with
      | raise => exact zero_le_one.trans wellFormed.totalPos
      | prolong => exact stream.end.lower_le
      | pay => exact wellFormed.withdrawnNonneg.trans ((reachable.accounts id).2 stream stored).1
      | close =>
          rw [Stream.figure]
          split
          · exact zero_le_one
          · exact le_rfl

/-- An operation that returns raises its figure, and nothing else lowers it. -/
theorem Step.figure_le (step : Step contract source action target)
    (reachable : Reachable contract source) (id : U64) (operation : StreamOperation) :
    source.state.figure id operation +
        (if operation? contract ⟨source, action, target⟩ = some (id, operation) then 1 else 0)
      ≤ target.state.figure id operation := by
  cases stepEffect_of_step step with
  | advance later laterSequence => exact (add_zero _).le
  | external noLoss => exact (add_zero _).le
  | failed outcome => simp [operation?, returnedCall?, outcome]
  | @returned invocation reply after outcome effect =>
      rw [operation?, returnedCall?_of_outcome outcome, Option.bind_some]
      cases stored : source.state.streams.lookup id with
      | none =>
          have notOperation : invocation.call.operation? ≠ some (id, operation) := by
            intro isOperation
            rcases effect.exists_stored (Call.target_of_operation? isOperation) with
              ⟨stream, found⟩
            rw [stored] at found
            contradiction
          rw [if_neg notOperation, add_zero, State.figure, stored, Option.elim_none]
          exact (reachable.step step).figure_nonneg id operation
      | some stream =>
          rcases effect.exists_record stored (reachable.lt_counter stored) with
            ⟨changed, changedStored, record⟩
          have receivedEq := effect.received_eq record
          simp only [State.figure, stored, changedStored, Option.elim_some]
          split
          · rename_i isOperation
            exact record.figure_lt receivedEq isOperation
          · rw [add_zero]
            exact record.figure_le (effect.received_le id)

/--
Between two states of a run at most as many top-ups of a stream return as its total
grows, at most as many extensions as its end moves, at most as many withdrawals as
its recipient receives, and at most one cancellation.
-/
theorem operations_bounded (reachable : Reachable contract start)
    (run : Run (Step contract) start trace final) (id : U64) (operation : StreamOperation) :
    (trace.countP fun transition => operation? contract transition = some (id, operation) : ℤ) ≤
      final.state.figure id operation - start.state.figure id operation := by
  rcases reachable with ⟨earlier, history⟩
  apply run.countP_le_measure (fun system => system.state.figure id operation)
  intro transition transitionMem
  rcases run.of_mem transitionMem with ⟨before, _, _, reaching, step, _⟩
  simpa using step.figure_le (history.append reaching).reachable id operation

/-- The theorem applies to a stream that is topped up and cancelled. -/
theorem operations_bounded_settling :
    ((execute (System.next .contract) (Sample.final Sample.halfway) Sample.settling).countP
        fun transition => operation? .contract transition = some (0, .raise) : ℤ) ≤
      (Sample.settling.foldl (System.next .contract)
          (Sample.final Sample.halfway)).state.figure 0 .raise -
        (Sample.final Sample.halfway).state.figure 0 .raise :=
  operations_bounded (Sample.history (by decide)).reachable (run_execute (by decide)) 0 .raise

end StreamPay
