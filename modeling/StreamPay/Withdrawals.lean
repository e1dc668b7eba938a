import StreamPay.Answers
import StreamPay.Cancellation

/-!
# What a withdrawal pays

The view of the withdrawable amount and the entry point that pays it compute the
same figure, but only the entry point looks at the status of the stream.  As long
as a stream is not cancelled the view foretells the withdrawal.  A cancellation
freezes the withdrawn figure at what has vested, whereas the schedule runs on, so
that the view of a cancelled stream soon promises an amount which nobody pays.

After its end an active stream owes exactly what has not been withdrawn, and both
ways to settle it pay that.
-/

namespace StreamPay

open Foundation Foundation.Computation

variable {Address : Type}

section Withdrawable

variable {stream : Stream Address} {now : U64}

/-- The computation returns unless its product overflows, and returns the clamped difference. -/
theorem withdrawable_eq_ok_iff {amount : I128} (wellFormed : stream.WellFormed now) :
    Vesting.withdrawable stream now = .ok amount ↔
      ¬stream.Overflows now ∧
        amount.val = max 0 (stream.scheduled now - stream.withdrawn.val) := by
  have totalPos := wellFormed.totalPos
  have withdrawnNonneg := wellFormed.withdrawnNonneg
  have withdrawnUpper := stream.withdrawn.le_upper
  rw [Vesting.withdrawable_eq_ok_iff]
  constructor
  · rintro ⟨vested, available, vestedEq, availableEq, amountEq⟩
    have onSchedule : vested.val = stream.scheduled now :=
      ((Vesting.vested_eq_ok_iff (by omega)).mp vestedEq).1
    refine ⟨?_, ?_⟩
    · intro overflows
      have failed := (vested_eq_error_iff totalPos wellFormed.window).mpr ⟨rfl, overflows⟩
      rw [vestedEq] at failed
      contradiction
    · rw [amountEq, availableEq, onSchedule]
  · rintro ⟨fits, amountEq⟩
    rcases exists_vested totalPos wellFormed.window fits with ⟨vested, vestedEq, onSchedule⟩
    have scheduledNonneg : 0 ≤ stream.scheduled now := wellFormed.scheduled_nonneg
    have vestedUpper := vested.le_upper
    refine ⟨vested, ⟨vested.val - stream.withdrawn.val, by omega, by omega⟩, vestedEq, rfl, ?_⟩
    rw [← onSchedule] at amountEq
    exact amountEq

/-- A positive amount is withdrawable exactly when the schedule is ahead of the withdrawals. -/
theorem exists_withdrawable_iff (wellFormed : stream.WellFormed now) :
    (∃ amount, Vesting.withdrawable stream now = .ok amount ∧ 0 < amount.val) ↔
      ¬stream.Overflows now ∧ stream.withdrawn.val < stream.scheduled now := by
  constructor
  · rintro ⟨amount, available, positive⟩
    rcases (withdrawable_eq_ok_iff wellFormed).mp available with ⟨fits, amountEq⟩
    exact ⟨fits, by omega⟩
  · rintro ⟨fits, ahead⟩
    have withdrawnNonneg := wellFormed.withdrawnNonneg
    have scheduledLe : stream.scheduled now ≤ stream.total.val := wellFormed.scheduled_le
    have totalUpper := stream.total.le_upper
    refine ⟨⟨stream.scheduled now - stream.withdrawn.val, by omega, by omega⟩, ?_, ?_⟩
    · refine (withdrawable_eq_ok_iff wellFormed).mpr ⟨fits, ?_⟩
      exact (max_eq_right (sub_nonneg.mpr ahead.le)).symm
    · exact sub_pos.mpr ahead

/-- From its end on, all that has not been withdrawn is withdrawable. -/
theorem withdrawable_of_end_le (wellFormed : stream.WellFormed now)
    (ended : stream.end.val ≤ now.val) :
    ∃ amount, Vesting.withdrawable stream now = .ok amount ∧
      amount.val = stream.total.val - stream.withdrawn.val := by
  have withdrawnNonneg := wellFormed.withdrawnNonneg
  have withdrawnLe := wellFormed.withdrawnLe
  have totalUpper := stream.total.le_upper
  have fits : ¬stream.Overflows now := by
    rintro ⟨_, beforeEnd, _⟩
    omega
  refine ⟨⟨stream.total.val - stream.withdrawn.val, by omega, by omega⟩, ?_, rfl⟩
  refine (withdrawable_eq_ok_iff wellFormed).mpr ⟨fits, ?_⟩
  rw [scheduled_of_end_le wellFormed.window ended]
  exact (max_eq_right (sub_nonneg.mpr withdrawnLe)).symm

/-- Adding what is withdrawable to what is withdrawn stays within the total. -/
theorem exists_withdrawn_of_withdrawable {amount : I128} (wellFormed : stream.WellFormed now)
    (available : Vesting.withdrawable stream now = .ok amount) :
    ∃ withdrawn, stream.withdrawn.checkedAdd amount = some withdrawn := by
  have amountEq := ((withdrawable_eq_ok_iff wellFormed).mp available).2
  have withdrawnNonneg := wellFormed.withdrawnNonneg
  have withdrawnLe := wellFormed.withdrawnLe
  have scheduledLe : stream.scheduled now ≤ stream.total.val := wellFormed.scheduled_le
  have totalUpper := stream.total.le_upper
  exact BoundedInt.exists_checkedAdd (by omega) (by omega)

/-- A completed stream has nothing left to withdraw. -/
theorem Stream.WellFormed.nothing_withdrawable (wellFormed : stream.WellFormed now)
    (completed : stream.status = .completed) :
    stream.scheduled now ≤ stream.withdrawn.val := by
  have scheduledLe : stream.scheduled now ≤ stream.total.val := wellFormed.scheduled_le
  rw [(wellFormed.completedPaid completed).1]
  exact scheduledLe

/-- The withdrawable figure of the summary is the one of its own view. -/
theorem exists_summary_iff {amount : I128} (window : stream.start.val < stream.end.val) :
    (∃ summary, stream.summary now = .ok summary ∧ summary.withdrawable = amount) ↔
      Vesting.withdrawable stream now = .ok amount := by
  simp only [Stream.summary, except_bind_eq_ok_iff, pure, Except.pure, Except.ok.injEq]
  constructor
  · rintro ⟨summary, ⟨vested, vestedEq, found, foundEq, bps, bpsEq, rfl⟩, rfl⟩
    exact foundEq
  · intro available
    rcases Vesting.withdrawable_eq_ok_iff.mp available with ⟨vested, _, vestedEq, _, _⟩
    rcases exists_progressBps window now with ⟨bps, bpsEq, _, _⟩
    exact ⟨_, ⟨vested, vestedEq, amount, available, bps, bpsEq, rfl⟩, rfl⟩

end Withdrawable

variable [DecidableEq Address] {contract : Address} {system : System Address}
  {env : Env Address} {before : State Address} {id : U64} {stream : Stream Address}
  {amount : I128} {withdrawing : Invocation Address}

/-- A withdrawal of something by the recipient fails only because the token refuses it. -/
theorem withdraw_ends (sound : before.Sound env.ledger.timestamp)
    (stored : before.streams.lookup id = some stream) (active : stream.status = .active)
    (available : Vesting.withdrawable stream env.ledger.timestamp = .ok amount)
    (positive : 0 < amount.val) (authorized : env.authorized stream.recipient = true) :
    Ends (withdraw env id stream.recipient) (fun result _ => result = amount)
      (fun fault => fault = .trap .transferFailed) before := by
  have wellFormed := sound.wellFormed id stream stored
  rcases exists_withdrawn_of_withdrawable wellFormed available with ⟨withdrawn, withdrawnEq⟩
  have notEmpty : ¬amount ≤ 0 := not_le.mpr positive
  have tokenSet := sound.tokenOfStream id stream stored
  rcases status_eq_active_iff.mp active with ⟨notCancelled, notCompleted⟩
  simp [withdraw, stored, authorized, notCancelled, notCompleted, available, notEmpty, withdrawnEq,
    tokenSet, readTotalSupply, writeStream, writeTotalSupply, streamWithdrawn, publish]

/-- What a withdrawal by the recipient returns when the token accepts its transfer. -/
theorem withdraw_outcome_iff (reachable : Reachable contract system)
    (stored : system.state.streams.lookup id = some stream)
    (isWithdraw : withdrawing.call = .withdraw id stream.recipient)
    (authorized : withdrawing.authorized stream.recipient = true)
    (accepted : (withdrawing.outcome contract system).1 ≠ .error (.trap .transferFailed)) :
    (withdrawing.outcome contract system).1 = .ok (.i128 amount) ↔
      stream.status = .active ∧
        Vesting.withdrawable stream system.ledger.timestamp = .ok amount ∧ 0 < amount.val := by
  constructor
  · intro returned
    rcases exists_effect_of_outcome returned with ⟨after, effect⟩
    rw [isWithdraw] at effect
    cases effect with
    | withdraw checks =>
        have isStream := Option.some.inj (checks.stored.symm.trans stored)
        subst isStream
        exact ⟨checks.active, checks.available, checks.positive⟩
  · rintro ⟨active, available, positive⟩
    have ends : Ends (withdrawing.call.run (withdrawing.env contract system.ledger))
        (fun reply _ => reply = .i128 amount) (fun fault => fault = .trap .transferFailed)
        system.state := by
      rw [isWithdraw]
      apply ends_map_iff.mpr
      apply (withdraw_ends reachable.sound stored active available positive authorized).mono
      rintro result _ rfl
      rfl
    rcases exists_returned_of_ends ends (fun _ refused => refused ▸ accepted) with
      ⟨reply, after, outcome, rfl, _⟩
    rw [outcome]

/--
The views of the withdrawable amount answer a positive amount exactly when the
withdrawal returns it, and when they answer nothing the withdrawal fails and
changes nothing.
-/
structure ViewPredictsWithdraw (contract : Address) (system : System Address) (id : U64)
    (withdrawing : Invocation Address) : Prop where
  view : ∀ amount : I128,
    (system.ask contract (.withdrawableAmount id) = .ok (.i128 amount) ∧ 0 < amount.val) ↔
      (withdrawing.outcome contract system).1 = .ok (.i128 amount)
  summary : ∀ amount : I128,
    (∃ summary, system.ask contract (.getSummary id) = .ok (.summary summary) ∧
        summary.withdrawable = amount ∧ 0 < amount.val) ↔
      (withdrawing.outcome contract system).1 = .ok (.i128 amount)
  nothing : system.ask contract (.withdrawableAmount id) = .ok (.i128 0) →
    ∃ fault, withdrawing.outcome contract system = (.error fault, system.state)

section Prediction

theorem ask_withdrawableAmount_iff (stored : system.state.streams.lookup id = some stream) :
    system.ask contract (.withdrawableAmount id) = .ok (.i128 amount) ↔
      Vesting.withdrawable stream system.ledger.timestamp = .ok amount := by
  rw [ask_of_reading rfl stored]
  cases Vesting.withdrawable stream system.ledger.timestamp <;> simp [Except.map]

theorem ask_getSummary_iff {summary : StreamSummary}
    (stored : system.state.streams.lookup id = some stream) :
    system.ask contract (.getSummary id) = .ok (.summary summary) ↔
      stream.summary system.ledger.timestamp = .ok summary := by
  rw [ask_of_reading rfl stored]
  cases stream.summary system.ledger.timestamp <;> simp [Except.map]

/-- The prediction is right exactly when there is nothing to predict or the stream is active. -/
theorem viewPredictsWithdraw_iff_active (reachable : Reachable contract system)
    (stored : system.state.streams.lookup id = some stream)
    (isWithdraw : withdrawing.call = .withdraw id stream.recipient)
    (authorized : withdrawing.authorized stream.recipient = true)
    (accepted : (withdrawing.outcome contract system).1 ≠ .error (.trap .transferFailed)) :
    ViewPredictsWithdraw contract system id withdrawing ↔
      ((∃ amount, Vesting.withdrawable stream system.ledger.timestamp = .ok amount ∧
        0 < amount.val) → stream.status = .active) := by
  have returns (amount : I128) :
      (withdrawing.outcome contract system).1 = .ok (.i128 amount) ↔ stream.status = .active ∧
        Vesting.withdrawable stream system.ledger.timestamp = .ok amount ∧ 0 < amount.val :=
    withdraw_outcome_iff reachable stored isWithdraw authorized accepted
  constructor
  · rintro ⟨view, _, _⟩ ⟨amount, available, positive⟩
    exact ((returns amount).mp ((view amount).mp
      ⟨(ask_withdrawableAmount_iff stored).mpr available, positive⟩)).1
  · intro activeIfSome
    have foretold (amount : I128) :
        (Vesting.withdrawable stream system.ledger.timestamp = .ok amount ∧ 0 < amount.val) ↔
          (withdrawing.outcome contract system).1 = .ok (.i128 amount) := by
      rw [returns amount]
      exact ⟨fun found => ⟨activeIfSome ⟨amount, found⟩, found⟩, And.right⟩
    constructor
    case view =>
      intro amount
      rw [ask_withdrawableAmount_iff stored]
      exact foretold amount
    case summary =>
      intro amount
      simp only [ask_getSummary_iff stored, ← and_assoc, exists_and_right,
        exists_summary_iff (reachable.wellFormed stored).window]
      exact foretold amount
    case nothing =>
      intro answered
      have available := (ask_withdrawableAmount_iff stored).mp answered
      cases result : (withdrawing.outcome contract system).1 with
      | error fault => exact ⟨fault, outcome_of_error result⟩
      | ok reply =>
          rcases exists_effect_of_outcome result with ⟨after, effect⟩
          rw [isWithdraw] at effect
          cases effect with
          | @withdraw _ _ _ amount _ found checks =>
              have isStream : found = stream :=
                Option.some.inj (checks.stored.symm.trans stored)
              subst found
              have isZero : amount = 0 :=
                Except.ok.inj (checks.available.symm.trans available)
              have positive := checks.positive
              rw [isZero] at positive
              exact absurd positive (lt_irrefl 0)

/--
The view foretells the withdrawal exactly when the stream is not cancelled, or
the schedule is not ahead of the recorded withdrawals, or the vesting computation
overflows.
-/
theorem withdrawable_predicts_iff (reachable : Reachable contract system)
    (stored : system.state.streams.lookup id = some stream)
    (isWithdraw : withdrawing.call = .withdraw id stream.recipient)
    (authorized : withdrawing.authorized stream.recipient = true)
    (accepted : (withdrawing.outcome contract system).1 ≠ .error (.trap .transferFailed)) :
    ViewPredictsWithdraw contract system id withdrawing ↔
      stream.status ≠ .cancelled ∨
        stream.scheduled system.ledger.timestamp ≤ stream.withdrawn.val ∨
          stream.Overflows system.ledger.timestamp := by
  have wellFormed := reachable.wellFormed stored
  rw [viewPredictsWithdraw_iff_active reachable stored isWithdraw authorized accepted,
    exists_withdrawable_iff wellFormed]
  cases status : stream.status with
  | active => simp
  | completed =>
      have nothing := wellFormed.nothing_withdrawable status
      simp [nothing]
  | cancelled =>
      simp only [reduceCtorEq, imp_false, ne_eq, not_true_eq_false, false_or, not_and_or, not_not,
        not_lt]
      exact or_comm

end Prediction

namespace Sample

/-- The second stream is cancelled half way, and a quarter of its window later still stored. -/
def cancelledHalfway : List (Action Party) :=
  Sample.withdrawing ++ [.invoke cancelSecond, advanceTo (time 175)]

def cancelledStream : Stream Party :=
  secondStream.closed (units 500)

end Sample

/-- The view foretells the withdrawal of a stream of which half has vested. -/
theorem withdrawable_predicts_halfway :
    ViewPredictsWithdraw .contract (Sample.final Sample.withdrawing) 1 Sample.withdrawSecond ↔
      Sample.secondStream.status ≠ .cancelled ∨
        Sample.secondStream.scheduled (Sample.final Sample.withdrawing).ledger.timestamp ≤
            Sample.secondStream.withdrawn.val ∨
          Sample.secondStream.Overflows (Sample.final Sample.withdrawing).ledger.timestamp := by
  have returned : (Sample.withdrawSecond.outcome .contract (Sample.final Sample.withdrawing)).1 =
      .ok (.i128 (Sample.units 500)) := by
    rfl
  refine withdrawable_predicts_iff (Sample.history (by decide)).reachable (by decide) rfl rfl ?_
  rw [returned]
  simp

/-- After a cancellation the view promises 250 while the withdrawal is refused. -/
theorem withdrawable_mispredicts_cancelled :
    ∃ system id stream withdrawing amount,
      Reachable Sample.Party.contract system ∧
        system.state.streams.lookup id = some stream ∧ stream.status = .cancelled ∧
          withdrawing.call = .withdraw id stream.recipient ∧
            withdrawing.authorized stream.recipient = true ∧
              system.ask .contract (.withdrawableAmount id) = .ok (.i128 amount) ∧
                0 < amount.val ∧
                  (withdrawing.outcome .contract system).1 = .error (.error .alreadyCancelled) ∧
                    ¬ViewPredictsWithdraw .contract system id withdrawing := by
  have answered : (Sample.final Sample.cancelledHalfway).ask .contract (.withdrawableAmount 1) =
      .ok (.i128 (Sample.units 250)) := by
    rfl
  have refused : (Sample.withdrawSecond.outcome .contract
      (Sample.final Sample.cancelledHalfway)).1 = .error (.error .alreadyCancelled) := by
    rfl
  refine ⟨Sample.final Sample.cancelledHalfway, 1, Sample.cancelledStream, Sample.withdrawSecond,
    Sample.units 250, (Sample.history (by decide)).reachable, by decide, rfl, rfl, rfl, answered,
    by decide, refused, ?_⟩
  intro predicts
  have returned := (predicts.view (Sample.units 250)).mp ⟨answered, by decide⟩
  rw [refused] at returned
  contradiction

/--
The recipient has been paid the amount, which was all that was left, and the
record shows the whole total as withdrawn.
-/
structure PaidInFull (contract : Address) (system : System Address) (id : U64)
    (stream : Stream Address) (amount : I128) (status : Status) (after : State Address) :
    Prop where
  amountEq : amount.val = stream.total.val - stream.withdrawn.val
  positive : 0 < amount.val
  onlyPayout : ∃ token, system.state.token = some token ∧
    after.transfers = system.state.transfers ++
        [⟨token, contract, stream.recipient, amount, .payout id⟩] ∧
      after.balances =
        system.state.balances.move token contract stream.recipient amount.val
  record : after.streams.lookup id =
    some { stream with withdrawn := stream.total, status := status }
  received : after.received id = stream.total.val

section AfterEnd

variable {cancelling : Invocation Address} {caller : Address}

/-- One payout of all that is left settles the stream. -/
theorem paidInFull_of_payout {token : Address} {status : Status} {after : State Address}
    (reachable : Reachable contract system)
    (stored : system.state.streams.lookup id = some stream) (active : stream.status = .active)
    (amountEq : amount.val = stream.total.val - stream.withdrawn.val)
    (tokenSet : system.state.token = some token)
    (transfers : after.transfers = system.state.transfers ++
      [⟨token, contract, stream.recipient, amount, .payout id⟩])
    (balances : after.balances =
      system.state.balances.move token contract stream.recipient amount.val)
    (record : after.streams.lookup id =
      some { stream with withdrawn := stream.total, status := status }) :
    PaidInFull contract system id stream amount status after := by
  have owes := (reachable.wellFormed stored).activeOwes active
  have receivedBefore : system.state.received id = stream.withdrawn.val :=
    reachable.received_eq stored (status_eq_active_iff.mp active).1
  have added : after.received id = system.state.received id + amount.val := by
    show movedFor (.payout id) after.transfers = _
    rw [transfers, movedFor_append]
    simp [movedFor, State.received]
  exact ⟨amountEq, by omega, ⟨token, tokenSet, transfers, balances⟩, record, by omega⟩

/-- The withdrawal after the end pays everything and completes the stream. -/
theorem withdraw_paysInFull (reachable : Reachable contract system)
    (stored : system.state.streams.lookup id = some stream) (active : stream.status = .active)
    (ended : stream.end.val ≤ system.ledger.timestamp.val)
    (isWithdraw : withdrawing.call = .withdraw id stream.recipient)
    (authorized : withdrawing.authorized stream.recipient = true)
    (accepted : (withdrawing.outcome contract system).1 ≠ .error (.trap .transferFailed)) :
    ∃ amount after, withdrawing.outcome contract system = (.ok (.i128 amount), after) ∧
      PaidInFull contract system id stream amount .completed after := by
  have wellFormed := reachable.wellFormed stored
  have owes := wellFormed.activeOwes active
  rcases withdrawable_of_end_le wellFormed ended with ⟨amount, available, amountEq⟩
  have returned : (withdrawing.outcome contract system).1 = .ok (.i128 amount) :=
    (withdraw_outcome_iff reachable stored isWithdraw authorized accepted).mpr
      ⟨active, available, by omega⟩
  rcases exists_effect_of_outcome returned with ⟨after, effect⟩
  refine ⟨amount, after, effect.outcome_eq, ?_⟩
  rw [isWithdraw] at effect
  cases effect with
  | @withdraw _ _ token _ withdrawn found checks =>
      have isStream : found = stream := Option.some.inj (checks.stored.symm.trans stored)
      subst found
      have withdrawnEq := checks.withdrawnEq
      have allWithdrawn : withdrawn = stream.total := BoundedInt.ext (by omega)
      subst withdrawn
      have reached : stream.total ≥ stream.total := le_refl stream.total.val
      have completed : stream.paidOut stream.total =
          { stream with withdrawn := stream.total, status := .completed } := by
        rw [Stream.paidOut, if_pos reached]
      refine paidInFull_of_payout reachable stored active amountEq checks.tokenSet rfl rfl ?_
      rw [← completed]
      exact Finmap.lookup_insert _

/-- A cancellation after the end pays the recipient everything and the sender nothing. -/
theorem cancel_paysInFull (reachable : Reachable contract system)
    (stored : system.state.streams.lookup id = some stream) (active : stream.status = .active)
    (ended : stream.end.val ≤ system.ledger.timestamp.val)
    (isCancel : cancelling.call = .cancel id caller)
    (isParty : caller = stream.sender ∨ caller = stream.recipient)
    (authorized : cancelling.authorized caller = true)
    (accepted : (cancelling.outcome contract system).1 ≠ .error (.trap .transferFailed)) :
    ∃ amount after, cancelling.outcome contract system = (.ok .unit, after) ∧
      PaidInFull contract system id stream amount .cancelled after ∧
        after.events = system.state.events ++ [.cancelled id caller 0 amount] := by
  have wellFormed := reachable.wellFormed stored
  have owes := wellFormed.activeOwes active
  have vestedEq : Vesting.vested stream system.ledger.timestamp = .ok stream.total :=
    Vesting.vested_of_end_le wellFormed.window ended
  rcases exists_cancelled_of_accepted reachable stored (status_eq_active_iff.mp active).1 vestedEq
    isCancel isParty authorized accepted with
    ⟨after, recipientPaid, senderRefund, token, outcome, checks, cancelled⟩
  have amountEq := checks.recipientPaidEq
  have positive : 0 < recipientPaid.val := by omega
  have noRefund : senderRefund = 0 := by
    have senderRefundEq := checks.senderRefundEq
    exact BoundedInt.ext (by rw [senderRefundEq, i128_zero_val, sub_self])
  subst senderRefund
  have onlyPayout : cancelTransfers contract token id stream recipientPaid 0 =
      [⟨token, contract, stream.recipient, recipientPaid, .payout id⟩] := by
    simp [cancelTransfers, Transfer.ifPositive, positive]
  refine ⟨recipientPaid, after, outcome, ?_, cancelled.events⟩
  refine paidInFull_of_payout reachable stored active amountEq checks.tokenSet ?_ ?_ ?_
  · rw [cancelled.transfers]
    exact congrArg _ onlyPayout
  · rw [cancelled.balances]
    exact congrArg _ onlyPayout
  · rw [cancelled.streams]
    exact Finmap.lookup_insert _

/--
From the end of an active stream on, the recipient's withdrawal pays all that has
not been withdrawn and completes the stream, and a cancellation by either party
pays the recipient the same and the sender nothing.  Either way the recipient has
then received exactly the total.
-/
theorem nothing_stuck_after_end (reachable : Reachable contract system)
    (stored : system.state.streams.lookup id = some stream) (active : stream.status = .active)
    (ended : stream.end.val ≤ system.ledger.timestamp.val) :
    (∀ withdrawing : Invocation Address,
      withdrawing.call = .withdraw id stream.recipient →
        withdrawing.authorized stream.recipient = true →
          (withdrawing.outcome contract system).1 ≠ .error (.trap .transferFailed) →
            ∃ amount after, withdrawing.outcome contract system = (.ok (.i128 amount), after) ∧
              PaidInFull contract system id stream amount .completed after) ∧
      ∀ (cancelling : Invocation Address) (caller : Address),
        cancelling.call = .cancel id caller →
          (caller = stream.sender ∨ caller = stream.recipient) →
            cancelling.authorized caller = true →
              (cancelling.outcome contract system).1 ≠ .error (.trap .transferFailed) →
                ∃ amount after, cancelling.outcome contract system = (.ok .unit, after) ∧
                  PaidInFull contract system id stream amount .cancelled after ∧
                    after.events = system.state.events ++ [.cancelled id caller 0 amount] := by
  constructor
  · intro withdrawing isWithdraw authorized accepted
    exact withdraw_paysInFull reachable stored active ended isWithdraw authorized accepted
  · intro cancelling caller isCancel isParty authorized accepted
    exact cancel_paysInFull reachable stored active ended isCancel isParty authorized accepted

end AfterEnd

namespace Sample

/-- The extended stream, of which half was withdrawn before, has ended. -/
def ended : List (Action Party) :=
  extended ++ [advanceTo (time 1100)]

end Sample

/-- The theorem applies to a stream that was extended after a withdrawal. -/
theorem nothing_stuck_extended :
    (∃ amount after,
      (Sample.invocationBy .bob (.withdraw 0 .bob)).outcome .contract (Sample.final Sample.ended) =
          (.ok (.i128 amount), after) ∧
        PaidInFull Sample.Party.contract (Sample.final Sample.ended) 0 Sample.extendedStream amount
          .completed after) ∧
      ∃ amount after,
        (Sample.invocationBy .alice (.cancel 0 .alice)).outcome .contract
            (Sample.final Sample.ended) = (.ok .unit, after) ∧
          PaidInFull Sample.Party.contract (Sample.final Sample.ended) 0 Sample.extendedStream
              amount .cancelled after ∧
            after.events = (Sample.final Sample.ended).state.events ++
              [.cancelled 0 .alice 0 amount] := by
  have withdrawn : ((Sample.invocationBy .bob (.withdraw 0 .bob)).outcome .contract
      (Sample.final Sample.ended)).1 = .ok (.i128 (Sample.units 500)) := by
    rfl
  have cancelled : ((Sample.invocationBy .alice (.cancel 0 .alice)).outcome .contract
      (Sample.final Sample.ended)).1 = .ok .unit := by
    rfl
  rcases nothing_stuck_after_end (Sample.history (by decide)).reachable
    (show (Sample.final Sample.ended).state.streams.lookup 0 = some Sample.extendedStream by decide)
    rfl (by decide) with ⟨withdrawal, cancellation⟩
  constructor
  · apply withdrawal _ rfl rfl
    rw [withdrawn]
    simp
  · apply cancellation _ .alice rfl (.inl rfl) rfl
    rw [cancelled]
    simp

end StreamPay
