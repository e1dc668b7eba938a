import StreamPay.Answers
import StreamPay.Payouts
import StreamPay.Solvency
import StreamPay.Supply

/-!
# Cancellations

A withdrawal adds what it pays to the withdrawn figure of the record, whereas a
cancellation overwrites the figure with what has vested, and pays the difference
only when it is positive.  Both agree with the money that moves as long as no
more has been withdrawn than has vested.  An extension can break this relation,
and then a cancellation lowers the figure and refunds more than was left.

A recipient who withdraws just before a cancellation gains nothing by it.
-/

namespace StreamPay

open Foundation Foundation.Computation

variable {Address : Type} {contract : Address}

/-- The sum of the transfers made for a purpose. -/
def movedFor (purpose : Purpose) (made : List (Transfer Address)) : ℤ :=
  ((made.filter fun record => record.purpose = purpose).map fun record => record.amount.val).sum

section Moved

variable {purpose : Purpose} {made : List (Transfer Address)}

theorem movedFor_append {more : List (Transfer Address)} :
    movedFor purpose (made ++ more) = movedFor purpose made + movedFor purpose more := by
  simp only [movedFor, List.filter_append, List.map_append, List.sum_append]

theorem movedFor_nonneg (nonneg : ∀ record ∈ made, 0 ≤ record.amount.val) :
    0 ≤ movedFor purpose made := by
  apply List.sum_nonneg
  intro amount amountMem
  rcases List.mem_map.mp amountMem with ⟨record, recordMem, rfl⟩
  exact nonneg record (List.mem_of_mem_filter recordMem)

theorem movedFor_ifPositive {record : Transfer Address} :
    movedFor purpose record.ifPositive =
      if record.purpose = purpose then max 0 record.amount.val else 0 := by
  by_cases positive : 0 < record.amount.val
  · rw [Transfer.ifPositive, if_pos positive, max_eq_right positive.le]
    by_cases isPurpose : record.purpose = purpose
    · simp [movedFor, isPurpose]
    · simp [movedFor, isPurpose]
  · rw [Transfer.ifPositive, if_neg positive, max_eq_left (not_lt.mp positive), ite_self]
    rfl

end Moved

/-- The record of every stream says what its recipient has received. -/
def State.Truthful (state : State Address) : Prop :=
  ∀ id stream, state.streams.lookup id = some stream →
    stream.withdrawn.val = state.received id

/-- No withdrawn figure is smaller afterwards. -/
def State.WithdrawnLe (before after : State Address) : Prop :=
  ∀ id older newer, before.streams.lookup id = some older →
    after.streams.lookup id = some newer → older.withdrawn.val ≤ newer.withdrawn.val

/-- The withdrawn figures are true in every state of the run, and smaller in no later one. -/
def WithdrawnTruthful [DecidableEq Address] (contract : Address) (trace : Trace Address)
    (final : System Address) : Prop :=
  ∀ earlier between later first second, trace = earlier ++ between ++ later →
    History contract earlier first → Run (Step contract) first between second →
      Run (Step contract) second later final →
        second.state.Truthful ∧ first.state.WithdrawnLe second.state

variable [DecidableEq Address]

section Truth

variable {env : Env Address} {before after : State Address} {call : Call Address}
  {reply : Reply Address} {source target : System Address} {action : Action Address} {id : U64}
  {stream : Stream Address}

/-- What a recipient has received is never taken back. -/
theorem Effect.received_le (effect : Effect env before call reply after) (id : U64) :
    before.received id ≤ after.received id := by
  rcases effect.exists_transferred with ⟨made, transferred⟩
  have added : after.received id = before.received id + movedFor (.payout id) made := by
    show movedFor (.payout id) after.transfers = _
    rw [transferred.transfers, movedFor_append]
    rfl
  have nonneg : 0 ≤ movedFor (.payout id) made := movedFor_nonneg transferred.nonneg
  omega

theorem Step.received_le (step : Step contract source action target) (id : U64) :
    source.state.received id ≤ target.state.received id := by
  cases stepEffect_of_step step with
  | advance later laterSequence => exact le_rfl
  | external noLoss => exact le_rfl
  | failed outcome => exact le_rfl
  | returned outcome effect => exact effect.received_le id

theorem received_le_of_run {trace : Trace Address} {first second : System Address}
    (run : Run (Step contract) first trace second) (id : U64) :
    first.state.received id ≤ second.state.received id := by
  induction run with
  | nil => exact le_rfl
  | snoc earlier last ih => exact ih.trans (last.received_le id)

/-- The record that a covered cancellation leaves is true. -/
theorem Step.truthful_of_closed (step : Step contract source action target)
    (reachable : Reachable contract source) {caller : Address}
    (covered : cancelCovered contract ⟨source, action, target⟩ = true)
    (returned : returnedCall? contract ⟨source, action, target⟩ = some (.cancel id caller))
    (stored : source.state.streams.lookup id = some stream)
    (notCancelled : stream.status ≠ .cancelled) {vested : I128}
    (vestedEq : Vesting.vested stream source.ledger.timestamp = .ok vested) :
    vested.val = target.state.received id := by
  rcases step.received_of_cancel reachable stored notCancelled returned with
    ⟨found, foundEq, receivedEq⟩
  rw [vestedEq, Except.ok.injEq] at foundEq
  subst found
  have received := reachable.received_eq stored notCancelled
  have wellFormed := reachable.wellFormed stored
  have totalPos := wellFormed.totalPos
  have onSchedule := ((Vesting.vested_eq_ok_iff (by omega)).mp vestedEq).1
  simp only [cancelCovered, returned, stored, Option.all_some, decide_eq_true_eq] at covered
  rw [receivedEq, received, max_eq_right]
  omega

/-- A step whose cancellation is covered keeps the records true. -/
theorem Step.truthful (step : Step contract source action target)
    (reachable : Reachable contract source)
    (covered : cancelCovered contract ⟨source, action, target⟩ = true)
    (truthful : source.state.Truthful) : target.state.Truthful := by
  intro id newer newerStored
  by_cases cancelled : newer.status = .cancelled
  · cases stepEffect_of_step step with
    | advance later laterSequence => exact truthful id newer newerStored
    | external noLoss => exact truthful id newer newerStored
    | failed outcome => exact truthful id newer newerStored
    | @returned invocation reply after outcome effect =>
        cases olderStored : source.state.streams.lookup id with
        | none =>
            have active := effect.opened_active olderStored newerStored
            rw [cancelled] at active
            contradiction
        | some older =>
            rcases effect.exists_record olderStored (reachable.lt_counter olderStored) with
              ⟨changed, changedStored, record⟩
            have changedEq : changed = newer :=
              Option.some.inj (changedStored.symm.trans newerStored)
            subst changed
            rcases invocation with ⟨authorized, transferAccepted, call⟩
            cases record with
            | untouched elsewhere =>
                rw [truthful id newer olderStored]
                exact received_eq_of_transfersFor (effect.transfersFor_eq elsewhere).symm
            | raised checks => exact absurd (checks.active.symm.trans cancelled) (by simp)
            | prolonged checks => exact absurd (checks.active.symm.trans cancelled) (by simp)
            | paidOut checks =>
                simp only [Stream.paidOut, checks.active] at cancelled
                split at cancelled
                · contradiction
                · contradiction
            | closed checks =>
                exact step.truthful_of_closed reachable covered
                  (returnedCall?_of_outcome outcome) olderStored checks.notCancelled
                  checks.vestedEq
  · exact ((reachable.step step).received_eq newerStored cancelled).symm

/-- As long as every cancellation is covered, the records are true. -/
theorem History.truthful {trace : Trace Address} {final : System Address}
    (history : History contract trace final)
    (covered : ∀ transition ∈ trace, cancelCovered contract transition = true) :
    final.state.Truthful := by
  induction history using History.induct with
  | nil start uninitialized =>
      intro id stream stored
      rw [uninitialized.streams, Finmap.lookup_empty] at stored
      contradiction
  | snoc trace source action target earlier step ih =>
      rw [List.forall_mem_append, List.forall_mem_singleton] at covered
      exact step.truthful earlier.reachable covered.2 (ih covered.1)

/-- A cancellation that leaves a true record was covered. -/
theorem Step.covered_of_truthful (step : Step contract source action target)
    (reachable : Reachable contract source) (truthful : target.state.Truthful) :
    cancelCovered contract ⟨source, action, target⟩ = true := by
  unfold cancelCovered
  split
  · rename_i id caller returned
    rw [Option.all_eq_true]
    intro stream stored
    rw [decide_eq_true_eq]
    rcases exists_effect_of_returnedCall? step returned with
      ⟨invocation, reply, actionEq, callEq, outcome, ledgerEq, effect⟩
    rcases effect.exists_record stored (reachable.lt_counter stored) with
      ⟨closed, closedStored, record⟩
    cases record with
    | untouched elsewhere => exact absurd rfl elsewhere
    | @closed _ token vested recipientPaid senderRefund checks =>
        rcases step.received_of_cancel reachable stored checks.notCancelled returned with
          ⟨found, foundEq, receivedEq⟩
        have sameVested : vested = found := Except.ok.inj (checks.vestedEq.symm.trans foundEq)
        subst found
        have received := reachable.received_eq stored checks.notCancelled
        have onSchedule : vested.val = stream.scheduled source.ledger.timestamp :=
          checks.onSchedule (reachable.wellFormed stored)
        have isTrue : vested.val = target.state.received id := truthful id _ closedStored
        rw [isTrue, receivedEq] at onSchedule
        exact received ▸ onSchedule ▸ le_max_left _ _
  · rfl

end Truth

/--
The withdrawn figure of every stream is what its recipient has received, in every
state of a run, and it is never lowered, exactly when every successful
cancellation of the run finds no more withdrawn than the schedule releases then.
-/
theorem withdrawn_truthful_iff {trace : Trace Address} {final : System Address}
    (history : History contract trace final) :
    WithdrawnTruthful contract trace final ↔
      ∀ transition ∈ trace, cancelCovered contract transition = true := by
  constructor
  · intro truthful transition transitionMem
    rcases history.of_mem transitionMem with ⟨earlier, later, traceEq, reaching, step, leaving⟩
    have trueAfter := truthful earlier [transition] later transition.source transition.target
      (by rw [traceEq, List.append_assoc, List.singleton_append]) reaching (.single step) leaving
    exact step.covered_of_truthful reaching.reachable trueAfter.1
  · rintro covered earlier between later first second rfl reaching passing leaving
    rw [List.forall_mem_append, List.forall_mem_append] at covered
    have firstTruthful := reaching.truthful covered.1.1
    have secondTruthful := (reaching.append passing).truthful
      (List.forall_mem_append.mpr covered.1)
    refine ⟨secondTruthful, ?_⟩
    intro id older newer olderStored newerStored
    rw [firstTruthful id older olderStored, secondTruthful id newer newerStored]
    exact received_le_of_run passing id

/-- The theorem applies to a run with a withdrawal and a cancellation. -/
theorem withdrawn_truthful_covered :
    WithdrawnTruthful .contract (Sample.trace Sample.covered) (Sample.final Sample.covered) :=
  (withdrawn_truthful_iff (Sample.history (by decide))).mpr (by decide)

/--
Without the condition the figure can go back: the recipient has received 500, and
the cancellation after the extension leaves 50.
-/
theorem withdrawn_lowered_by_cancellation :
    ∃ trace final,
      History Sample.Party.contract trace final ∧
        ¬WithdrawnTruthful Sample.Party.contract trace final := by
  refine ⟨Sample.trace Sample.overpaid, Sample.final Sample.overpaid,
    Sample.history (by decide), ?_⟩
  intro truthful
  have isTrue := (truthful (Sample.trace Sample.overpaid) [] [] _ _ (by simp)
    (Sample.history (by decide)) .nil .nil).1
  have stored : ((Sample.final Sample.overpaid).state.streams.lookup 0).map
      (fun stream => stream.withdrawn.val) = some 50 := by
    decide
  rcases Option.map_eq_some_iff.mp stored with ⟨stream, found, withdrawn⟩
  have received : (Sample.final Sample.overpaid).state.received 0 = 500 := by
    decide
  have wrong := isTrue 0 stream found
  omega

/--
The cancellation of a stream has paid both parties what it reported, nothing
negative, and together what was left of the total.
-/
structure CancelPays (contract : Address) (before after : State Address) (id : U64)
    (caller : Address) (stream : Stream Address) (made : List (Transfer Address))
    (recipientPaid senderRefund : I128) : Prop where
  transfers : after.transfers = before.transfers ++ made
  balances : after.balances = before.balances.moveAll made
  parties : ∀ record ∈ made, record.source = contract ∧ before.token = some record.token ∧
    (record.purpose = .payout id ∧ record.destination = stream.recipient ∨
      record.purpose = .refund id ∧ record.destination = stream.sender)
  reported : after.events = before.events ++ [.cancelled id caller senderRefund recipientPaid]
  paid : movedFor (.payout id) made = recipientPaid.val
  refunded : movedFor (.refund id) made = senderRefund.val
  paidNonneg : 0 ≤ recipientPaid.val
  refundNonneg : 0 ≤ senderRefund.val
  conserved : recipientPaid.val + senderRefund.val = stream.total.val - stream.withdrawn.val

def CancelConserves (contract : Address) (before after : State Address) (id : U64)
    (caller : Address) (stream : Stream Address) : Prop :=
  ∃ made recipientPaid senderRefund,
    CancelPays contract before after id caller stream made recipientPaid senderRefund

section Shares

variable {env : Env Address} {before after : State Address} {reply : Reply Address} {id : U64}
  {caller token : Address} {stream : Stream Address} {vested recipientPaid senderRefund : I128}

/-- The transfers of a cancellation, in order. -/
def cancelTransfers (contract token : Address) (id : U64) (stream : Stream Address)
    (recipientPaid senderRefund : I128) : List (Transfer Address) :=
  (Transfer.mk token contract stream.recipient recipientPaid (.payout id)).ifPositive ++
    (Transfer.mk token contract stream.sender senderRefund (.refund id)).ifPositive

omit [DecidableEq Address] in
theorem mem_cancelTransfers {record : Transfer Address}
    (recordMem : record ∈ cancelTransfers contract token id stream recipientPaid senderRefund) :
    record.source = contract ∧ record.token = token ∧
      (record.purpose = .payout id ∧ record.destination = stream.recipient ∨
        record.purpose = .refund id ∧ record.destination = stream.sender) := by
  rcases List.mem_append.mp recordMem with isPayout | isRefund
  · rcases Transfer.mem_ifPositive.mp isPayout with ⟨_, rfl⟩
    exact ⟨rfl, rfl, .inl ⟨rfl, rfl⟩⟩
  · rcases Transfer.mem_ifPositive.mp isRefund with ⟨_, rfl⟩
    exact ⟨rfl, rfl, .inr ⟨rfl, rfl⟩⟩

omit [DecidableEq Address] in
/-- A negative share moves nothing. -/
theorem movedFor_cancelTransfers :
    movedFor (.payout id) (cancelTransfers contract token id stream recipientPaid senderRefund) =
        max 0 recipientPaid.val ∧
      movedFor (.refund id) (cancelTransfers contract token id stream recipientPaid senderRefund) =
        max 0 senderRefund.val := by
  constructor
  · simp [cancelTransfers, movedFor_append, movedFor_ifPositive]
  · simp [cancelTransfers, movedFor_append, movedFor_ifPositive]

/-- The state that a cancellation leaves. -/
structure Cancelled (env : Env Address) (before : State Address) (id : U64) (caller : Address)
    (stream : Stream Address) (vested recipientPaid senderRefund : I128) (token : Address)
    (after : State Address) : Prop where
  streams : after.streams = before.streams.insert id (stream.closed vested)
  transfers : after.transfers = before.transfers ++
    cancelTransfers env.currentContractAddress token id stream recipientPaid senderRefund
  balances : after.balances = before.balances.moveAll
    (cancelTransfers env.currentContractAddress token id stream recipientPaid senderRefund)
  totalSupply : after.totalSupply = some (((before.totalSupply.getD 0).checkedSub
    (cancelReleased recipientPaid senderRefund)).getD 0)
  events : after.events = before.events ++ [.cancelled id caller senderRefund recipientPaid]

theorem CancelChecks.exists_effect
    (checks : CancelChecks env before id caller stream vested recipientPaid senderRefund token) :
    ∃ after, Effect env before (.cancel id caller) .unit after ∧
      Cancelled env before id caller stream vested recipientPaid senderRefund token after := by
  refine ⟨_, .cancel checks, rfl, ?_, ?_, rfl, ?_⟩
  · simp [cancelTransfers, Transfer.ifPositive]
  · rw [cancelTransfers, moveAll_append, moveAll_ifPositive, moveAll_ifPositive]
    rfl
  · simp

theorem Effect.exists_cancelled (effect : Effect env before (.cancel id caller) reply after) :
    ∃ stream vested recipientPaid senderRefund token,
      CancelChecks env before id caller stream vested recipientPaid senderRefund token ∧
        Cancelled env before id caller stream vested recipientPaid senderRefund token after := by
  have ran := effect.run_eq
  cases effect with
  | @cancel _ _ token vested recipientPaid senderRefund stream checks =>
      rcases checks.exists_effect with ⟨other, otherEffect, cancelled⟩
      have ranOther := otherEffect.run_eq
      rw [ran, EStateM.Result.ok.injEq] at ranOther
      refine ⟨stream, vested, recipientPaid, senderRefund, token, checks, ?_⟩
      rw [ranOther.2]
      exact cancelled

/-- With nothing withdrawn beyond the schedule, a cancellation conserves the escrow. -/
theorem Cancelled.pays
    (checks : CancelChecks env before id caller stream vested recipientPaid senderRefund token)
    (cancelled :
      Cancelled env before id caller stream vested recipientPaid senderRefund token after)
    (wellFormed : stream.WellFormed env.ledger.timestamp)
    (covered : stream.withdrawn.val ≤ stream.scheduled env.ledger.timestamp) :
    CancelPays env.currentContractAddress before after id caller stream
      (cancelTransfers env.currentContractAddress token id stream recipientPaid senderRefund)
      recipientPaid senderRefund := by
  have onSchedule := checks.onSchedule wellFormed
  have scheduledLe : stream.scheduled env.ledger.timestamp ≤ stream.total.val :=
    wellFormed.scheduled_le
  have recipientPaidEq := checks.recipientPaidEq
  have senderRefundEq := checks.senderRefundEq
  have paidNonneg : 0 ≤ recipientPaid.val := by omega
  have refundNonneg : 0 ≤ senderRefund.val := by omega
  refine ⟨cancelled.transfers, cancelled.balances, ?_, cancelled.events, ?_, ?_, paidNonneg,
    refundNonneg, by omega⟩
  · intro record recordMem
    rcases mem_cancelTransfers recordMem with ⟨isSource, rfl, parties⟩
    exact ⟨isSource, checks.tokenSet, parties⟩
  · rw [movedFor_cancelTransfers.1, max_eq_right paidNonneg]
  · rw [movedFor_cancelTransfers.2, max_eq_right refundNonneg]

end Shares

/--
A successful cancellation moves to the parties of the stream the two amounts that
it reports, neither of them negative and together what was left of the total,
exactly when no more was withdrawn than the schedule releases then.
-/
theorem cancel_conserves_iff {source target : System Address} {action : Action Address} {id : U64}
    {caller : Address} {stream : Stream Address} (reachable : Reachable contract source)
    (step : Step contract source action target)
    (stored : source.state.streams.lookup id = some stream)
    (returned : returnedCall? contract ⟨source, action, target⟩ = some (.cancel id caller)) :
    CancelConserves contract source.state target.state id caller stream ↔
      stream.withdrawn.val ≤ stream.scheduled source.ledger.timestamp := by
  have wellFormed := reachable.wellFormed stored
  rcases exists_effect_of_returnedCall? step returned with
    ⟨invocation, reply, _, _, _, _, effect⟩
  rcases effect.exists_cancelled with
    ⟨other, vested, recipientPaid, senderRefund, token, checks, cancelled⟩
  have isStream : other = stream := Option.some.inj (checks.stored.symm.trans stored)
  subst other
  constructor
  · rintro ⟨made, reportedPaid, reportedRefund, pays⟩
    have events := pays.reported.symm.trans cancelled.events
    simp only [List.append_cancel_left_eq, List.cons.injEq, Event.cancelled.injEq, and_true,
      true_and] at events
    have onSchedule : vested.val = stream.scheduled source.ledger.timestamp :=
      checks.onSchedule wellFormed
    have paidNonneg := pays.paidNonneg
    rw [events.2] at paidNonneg
    have recipientPaidEq := checks.recipientPaidEq
    omega
  · intro covered
    exact ⟨_, _, _, cancelled.pays checks wellFormed covered⟩

namespace Sample

def cancelWithdrawn : Action Party :=
  callBy .alice (.cancel 0 .alice)

def withdrawnStream : Stream Party where
  sender := .alice
  recipient := .bob
  total := units 1000
  withdrawn := units 500
  start := time 100
  «end» := time 200
  status := .active

/-- The withdrawn stream has been extended. -/
def extended : List (Action Party) :=
  withdrawing ++ [callBy .alice (.extendStream 0 .alice (time 1100))]

def extendedStream : Stream Party :=
  withdrawnStream.prolonged (time 1100)

end Sample

/-- The theorem applies to a cancellation after a withdrawal. -/
theorem cancel_conserves_withdrawing :
    CancelConserves .contract (Sample.final Sample.withdrawing).state
        ((Sample.final Sample.withdrawing).next .contract Sample.cancelWithdrawn).state 0 .alice
          Sample.withdrawnStream ↔
      Sample.withdrawnStream.withdrawn.val ≤
        Sample.withdrawnStream.scheduled (Sample.final Sample.withdrawing).ledger.timestamp :=
  cancel_conserves_iff (Sample.history (by decide)).reachable
    (⟨trivial, rfl⟩ : Step .contract _ Sample.cancelWithdrawn _) (by decide) rfl

/--
Without the condition the shares need not add up: the event reports that the
recipient was paid -450, and 950 of the remaining 500 go to the sender.
-/
theorem cancel_overpays_after_extension :
    ∃ source target action id caller stream,
      Reachable Sample.Party.contract source ∧ Step .contract source action target ∧
        source.state.streams.lookup id = some stream ∧ stream.status = .active ∧
          returnedCall? .contract ⟨source, action, target⟩ = some (.cancel id caller) ∧
            ¬CancelConserves .contract source.state target.state id caller stream := by
  refine ⟨Sample.final Sample.extended,
    (Sample.final Sample.extended).next .contract Sample.cancelWithdrawn, Sample.cancelWithdrawn, 0,
    .alice, Sample.extendedStream, (Sample.history (by decide)).reachable, ⟨trivial, rfl⟩,
    by decide, rfl, rfl, ?_⟩
  rintro ⟨made, recipientPaid, senderRefund, pays⟩
  have refund : movedFor (.refund 0)
      ((Sample.final Sample.extended).next .contract Sample.cancelWithdrawn).state.transfers =
        950 := by
    decide
  have noRefund : movedFor (.refund 0) (Sample.final Sample.extended).state.transfers = 0 := by
    decide
  have left : Sample.extendedStream.total.val - Sample.extendedStream.withdrawn.val = 500 := by
    decide
  rw [pays.transfers, movedFor_append, noRefund, zero_add, pays.refunded] at refund
  have conserved := pays.conserved
  have paidNonneg := pays.paidNonneg
  omega

/-- The cancellation moves what two views answer just before it. -/
def PaysByViews (contract : Address) (before : System Address) (id : U64)
    (stream : Stream Address) (after : State Address) : Prop :=
  ∃ token withdrawable remaining,
    before.state.token = some token ∧
      before.ask contract (.withdrawableAmount id) = .ok (.i128 withdrawable) ∧
        before.ask contract (.remainingAmount id) = .ok (.i128 remaining) ∧
          after.transfers = before.state.transfers ++
            cancelTransfers contract token id stream withdrawable remaining ∧
            after.balances = before.state.balances.moveAll
              (cancelTransfers contract token id stream withdrawable remaining)

/-- The cancellation pays by the views, and attempting a withdrawal first changes nothing. -/
def WithdrawalIsNeutral (contract : Address) (system : System Address) (id : U64)
    (stream : Stream Address) (withdrawing cancelling : Invocation Address) : Prop :=
  ∃ alone after,
    cancelling.outcome contract system = (.ok .unit, alone) ∧
      PaysByViews contract system id stream alone ∧
        cancelling.outcome contract (system.next contract (.invoke withdrawing)) =
            (.ok .unit, after) ∧
          after.streams = alone.streams ∧ after.balances = alone.balances ∧
            after.totalSupply = alone.totalSupply

section Neutral

variable {system : System Address} {env other : Env Address} {before after : State Address}
  {id : U64} {caller token : Address} {stream : Stream Address}
  {vested recipientPaid senderRefund : I128}

omit [DecidableEq Address] in
/-- A clamped payout moves the same tokens as the payout itself. -/
theorem cancelTransfers_of_clamped {withdrawable : I128}
    (clamped : withdrawable.val = max 0 recipientPaid.val) :
    cancelTransfers contract token id stream withdrawable senderRefund =
      cancelTransfers contract token id stream recipientPaid senderRefund := by
  unfold cancelTransfers
  congr 1
  by_cases positive : 0 < recipientPaid.val
  · rw [max_eq_right positive.le] at clamped
    rw [BoundedInt.ext clamped]
  · have nothing : ¬0 < withdrawable.val := by omega
    rw [Transfer.ifPositive, if_neg nothing, Transfer.ifPositive, if_neg positive]

/-- A cancellation by a party can fail only because the token refuses a transfer. -/
theorem cancel_ends (sound : before.Sound env.ledger.timestamp)
    (stored : before.streams.lookup id = some stream) (notCancelled : stream.status ≠ .cancelled)
    (vestedEq : Vesting.vested stream env.ledger.timestamp = .ok vested)
    (isParty : caller = stream.sender ∨ caller = stream.recipient)
    (authorized : env.authorized caller = true) :
    Ends (cancel env id caller) (fun _ _ => True) (fun fault => fault = .trap .transferFailed)
      before := by
  have wellFormed := sound.wellFormed id stream stored
  have totalPos := wellFormed.totalPos
  have withdrawnNonneg := wellFormed.withdrawnNonneg
  have withdrawnLe := wellFormed.withdrawnLe
  have onSchedule := ((Vesting.vested_eq_ok_iff (by omega)).mp vestedEq).1
  have scheduledNonneg : 0 ≤ stream.scheduled env.ledger.timestamp := wellFormed.scheduled_nonneg
  have scheduledLe : stream.scheduled env.ledger.timestamp ≤ stream.total.val :=
    wellFormed.scheduled_le
  have totalUpper := stream.total.le_upper
  have paidDefined : ∃ paid, vested.checkedSub stream.withdrawn = some paid :=
    BoundedInt.exists_checkedSub (by omega) (by omega)
  rcases paidDefined with ⟨paid, paidEq⟩
  have refundDefined : ∃ refund, Vesting.unvested stream env.ledger.timestamp = .ok refund := by
    rcases exists_checkedSub_of_le (show 0 ≤ vested.val by omega)
      (show vested.val ≤ stream.total.val by omega) with ⟨refund, _, refundVal⟩
    exact ⟨refund, (unvested_eq_ok_iff vestedEq).mpr refundVal⟩
  rcases refundDefined with ⟨refund, refundEq⟩
  have tokenSet := sound.tokenOfStream id stream stored
  rcases isParty with rfl | rfl
  · simp [cancel, stored, authorized, notCancelled, vestedEq, paidEq, refundEq, tokenSet,
      readTotalSupply, writeStream, writeTotalSupply, streamCancelled, publish]
  · simp [cancel, stored, authorized, notCancelled, vestedEq, paidEq, refundEq, tokenSet,
      readTotalSupply, writeStream, writeTotalSupply, streamCancelled, publish]

/-- A cancellation whose transfers are accepted returns. -/
theorem exists_cancelled_of_accepted {cancelling : Invocation Address}
    (reachable : Reachable contract system)
    (stored : system.state.streams.lookup id = some stream)
    (notCancelled : stream.status ≠ .cancelled)
    (vestedEq : Vesting.vested stream system.ledger.timestamp = .ok vested)
    (isCancel : cancelling.call = .cancel id caller)
    (isParty : caller = stream.sender ∨ caller = stream.recipient)
    (authorized : cancelling.authorized caller = true)
    (accepted : (cancelling.outcome contract system).1 ≠ .error (.trap .transferFailed)) :
    ∃ after recipientPaid senderRefund token,
      cancelling.outcome contract system = (.ok .unit, after) ∧
        CancelChecks (cancelling.env contract system.ledger) system.state id caller stream vested
          recipientPaid senderRefund token ∧
          Cancelled (cancelling.env contract system.ledger) system.state id caller stream vested
            recipientPaid senderRefund token after := by
  have ends : Ends (cancelling.call.run (cancelling.env contract system.ledger))
      (fun reply _ => reply = .unit) (fun fault => fault = .trap .transferFailed)
      system.state := by
    rw [isCancel]
    refine ends_map_iff.mpr ((cancel_ends reachable.sound stored notCancelled vestedEq isParty
      authorized).mono ?_)
    exact fun _ _ _ => rfl
  rcases exists_returned_of_ends ends (by rintro _ rfl; exact accepted) with
    ⟨_, after, outcome, rfl, effect⟩
  rw [isCancel] at effect
  rcases effect.exists_cancelled with
    ⟨other, found, recipientPaid, senderRefund, token, checks, cancelled⟩
  have isStream : other = stream := Option.some.inj (checks.stored.symm.trans stored)
  subst other
  have sameVested : found = vested := Except.ok.inj (checks.vestedEq.symm.trans vestedEq)
  subst found
  exact ⟨after, recipientPaid, senderRefund, token, outcome, checks, cancelled⟩

theorem Cancelled.paysByViews
    (checks : CancelChecks env before id caller stream vested recipientPaid senderRefund token)
    (cancelled :
      Cancelled env before id caller stream vested recipientPaid senderRefund token after) :
    PaysByViews env.currentContractAddress ⟨env.ledger, before⟩ id stream after := by
  have recipientPaidLower := recipientPaid.lower_le
  have recipientPaidUpper := recipientPaid.le_upper
  let withdrawable : I128 := ⟨max 0 recipientPaid.val, by omega, by omega⟩
  have available : Vesting.withdrawable stream env.ledger.timestamp = .ok withdrawable :=
    Vesting.withdrawable_eq_ok_iff.mpr
      ⟨vested, recipientPaid, checks.vestedEq, checks.recipientPaidEq, rfl⟩
  have remaining : Vesting.unvested stream env.ledger.timestamp = .ok senderRefund :=
    (unvested_eq_ok_iff checks.vestedEq).mpr checks.senderRefundEq
  have sameTransfers : cancelTransfers env.currentContractAddress token id stream withdrawable
      senderRefund = _ := cancelTransfers_of_clamped rfl
  refine ⟨token, withdrawable, senderRefund, checks.tokenSet, ?_, ?_, ?_, ?_⟩
  · rw [ask_of_reading rfl checks.stored, available]
    rfl
  · rw [ask_of_reading rfl checks.stored, remaining]
    rfl
  · rw [sameTransfers]
    exact cancelled.transfers
  · rw [sameTransfers]
    exact cancelled.balances

/-- The state that a withdrawal of the recipient leaves. -/
def State.withdrawal (before : State Address) (env : Env Address) (id : U64)
    (stream : Stream Address) (withdrawn amount : I128) (token : Address) : State Address :=
  (((before.putStream env.ledger id (stream.paidOut withdrawn)).recordTransfer
    ⟨token, env.currentContractAddress, stream.recipient, amount, .payout id⟩).setTotalSupply
      (((before.totalSupply.getD 0).checkedSub amount).getD 0)).publish
        (.withdrawn id stream.recipient amount)

theorem State.withdrawal_token {withdrawn amount : I128} :
    (before.withdrawal env id stream withdrawn amount token).token = before.token := by
  simp [State.withdrawal]

/-- After the recipient has withdrawn, the same cancellation passes with only the refund left. -/
theorem CancelChecks.after_withdrawal
    (checks : CancelChecks env before id caller stream vested recipientPaid senderRefund token)
    (positive : 0 < recipientPaid.val) :
    CancelChecks env (before.withdrawal env id stream vested recipientPaid token) id caller
      (stream.paidOut vested) vested 0 senderRefund token := by
  refine ⟨checks.authorized, Finmap.lookup_insert _, checks.isParty, ?_, checks.vestedEq, ?_,
    checks.senderRefundEq, State.withdrawal_token.trans checks.tokenSet, ?_, ?_⟩
  · unfold Stream.paidOut
    split
    · simp
    · exact checks.notCancelled
  · show (0 : I128).val = vested.val - vested.val
    simp
  · intro impossible
    exact absurd impossible (lt_irrefl 0)
  · intro refundPositive
    have accepted := checks.refundAccepted refundPositive
    rw [max_eq_right positive.le] at accepted
    rw [i128_zero_val, max_self, Balances.move_zero]
    exact accepted

/-- The cancellation after the withdrawal leaves what the cancellation alone leaves. -/
theorem Cancelled.after_withdrawal
    (checks : CancelChecks env before id caller stream vested recipientPaid senderRefund token)
    (alone :
      Cancelled env before id caller stream vested recipientPaid senderRefund token after)
    (wellFormed : stream.WellFormed env.ledger.timestamp)
    (covered : stream.total.val - stream.withdrawn.val ≤ before.tracked)
    (positive : 0 < recipientPaid.val) {final : State Address}
    (cancelled :
      Cancelled env (before.withdrawal env id stream vested recipientPaid token) id caller
        (stream.paidOut vested) vested 0 senderRefund token final) :
    final.streams = after.streams ∧ final.balances = after.balances ∧
      final.totalSupply = after.totalSupply := by
  refine ⟨?_, ?_, ?_⟩
  · rw [cancelled.streams, alone.streams]
    exact Finmap.insert_insert _
  · rw [cancelled.balances, alone.balances, cancelTransfers, cancelTransfers, moveAll_append,
      moveAll_append, moveAll_ifPositive, moveAll_ifPositive, moveAll_ifPositive,
      moveAll_ifPositive, i128_zero_val, max_self, Balances.move_zero, max_eq_right positive.le]
    rfl
  · have recipientPaidEq := checks.recipientPaidEq
    have senderRefundEq := checks.senderRefundEq
    have onSchedule := checks.onSchedule wellFormed
    have scheduledLe : stream.scheduled env.ledger.timestamp ≤ stream.total.val :=
      wellFormed.scheduled_le
    have refundNonneg : 0 ≤ senderRefund.val := by omega
    rcases checks.exists_released wellFormed with ⟨released, _, sameReleased, releasedVal⟩
    rw [wellFormed.escrow_eq checks.notCancelled] at releasedVal
    have refundOnly : cancelReleased 0 senderRefund = senderRefund := by
      have sum : (0 : I128).checkedAdd senderRefund = some senderRefund :=
        BoundedInt.checkedAdd_eq_some_iff.mpr (zero_add _).symm
      rw [cancelReleased, sum, Option.getD_some]
    have whole : ∃ supply, (before.totalSupply.getD 0).checkedSub released = some supply ∧
        supply.val = before.tracked - released.val :=
      exists_checkedSub_of_le (by omega) (releasedVal ▸ covered)
    have first : ∃ supply, (before.totalSupply.getD 0).checkedSub recipientPaid = some supply ∧
        supply.val = before.tracked - recipientPaid.val :=
      exists_checkedSub_of_le positive.le (show recipientPaid.val ≤ before.tracked by omega)
    rcases whole with ⟨left, leftEq, leftVal⟩
    rcases first with ⟨middle, middleEq, middleVal⟩
    have second : ∃ supply, middle.checkedSub senderRefund = some supply ∧
        supply.val = middle.val - senderRefund.val :=
      exists_checkedSub_of_le refundNonneg (by omega)
    rcases second with ⟨rest, restEq, restVal⟩
    rw [cancelled.totalSupply, alone.totalSupply, sameReleased, refundOnly]
    simp only [State.withdrawal, State.publish_totalSupply, State.setTotalSupply_totalSupply,
      Option.getD_some, middleEq, restEq, leftEq]
    have sameVal : rest.val = left.val := by omega
    rw [BoundedInt.ext sameVal]

/-- A returning withdrawal of the recipient pays what the cancellation would have paid. -/
theorem CancelChecks.withdrawal_eq
    (checks : CancelChecks env before id caller stream vested recipientPaid senderRefund token)
    {reply : Reply Address} {middle : State Address}
    (effect : Effect other before (.withdraw id stream.recipient) reply middle)
    (sameLedger : other.ledger = env.ledger)
    (sameContract : other.currentContractAddress = env.currentContractAddress) :
    0 < recipientPaid.val ∧
      middle = before.withdrawal env id stream vested recipientPaid token := by
  cases effect with
  | @withdraw _ _ otherToken amount withdrawn found withdraws =>
      have isStream : found = stream :=
        Option.some.inj (withdraws.stored.symm.trans checks.stored)
      subst found
      have isToken : otherToken = token :=
        Option.some.inj (withdraws.tokenSet.symm.trans checks.tokenSet)
      subst otherToken
      rcases Vesting.withdrawable_eq_ok_iff.mp withdraws.available with
        ⟨foundVested, available, vestedEq, availableEq, amountEq⟩
      rw [sameLedger] at vestedEq
      have sameVested : foundVested = vested :=
        Except.ok.inj (vestedEq.symm.trans checks.vestedEq)
      subst foundVested
      have recipientPaidEq := checks.recipientPaidEq
      have positive := withdraws.positive
      have withdrawnEq := withdraws.withdrawnEq
      have sameAmount : amount = recipientPaid := BoundedInt.ext (by omega)
      have sameWithdrawn : withdrawn = vested := BoundedInt.ext (by omega)
      subst amount
      subst withdrawn
      refine ⟨positive, ?_⟩
      rw [State.withdrawal, sameLedger, sameContract]

end Neutral

/--
A successful cancellation of an active stream moves what the views of the
withdrawable and of the remaining amount answer just before it.  When the
recipient first attempts to withdraw, with or without success, the cancellation
still succeeds, and leaves the same records, balances and tracked supply.
-/
theorem withdrawal_before_cancel_is_neutral {system : System Address} {id : U64}
    {stream : Stream Address} {vested : I128} {withdrawing cancelling : Invocation Address}
    {caller : Address} (reachable : Reachable contract system)
    (stored : system.state.streams.lookup id = some stream) (active : stream.status = .active)
    (covered : stream.total.val - stream.withdrawn.val ≤ system.state.tracked)
    (vestedEq : Vesting.vested stream system.ledger.timestamp = .ok vested)
    (isWithdraw : withdrawing.call = .withdraw id stream.recipient)
    (isCancel : cancelling.call = .cancel id caller)
    (isParty : caller = stream.sender ∨ caller = stream.recipient)
    (authorized : cancelling.authorized caller = true)
    (accepted : (cancelling.outcome contract system).1 ≠ .error (.trap .transferFailed)) :
    WithdrawalIsNeutral contract system id stream withdrawing cancelling := by
  have notCancelled : stream.status ≠ .cancelled := (status_eq_active_iff.mp active).1
  rcases exists_cancelled_of_accepted reachable stored notCancelled vestedEq isCancel isParty
    authorized accepted with ⟨alone, recipientPaid, senderRefund, token, outcome, checks, cancelled⟩
  have paid := cancelled.paysByViews checks
  have byViews : PaysByViews contract system id stream alone := paid
  have step : Step contract system (.invoke withdrawing)
      (system.next contract (.invoke withdrawing)) := ⟨trivial, rfl⟩
  unfold WithdrawalIsNeutral
  generalize system.next contract (.invoke withdrawing) = middle at step ⊢
  cases stepEffect_of_step step with
  | failed withdrawOutcome =>
      exact ⟨alone, alone, outcome, byViews, outcome, rfl, rfl, rfl⟩
  | @returned _ reply after withdrawOutcome effect =>
      rw [isWithdraw] at effect
      rcases checks.withdrawal_eq effect rfl rfl with ⟨positive, rfl⟩
      rcases (checks.after_withdrawal positive).exists_effect with
        ⟨final, finalEffect, finalCancelled⟩
      have wellFormed :
          stream.WellFormed (cancelling.env contract system.ledger).ledger.timestamp :=
        reachable.wellFormed stored
      have kept := cancelled.after_withdrawal checks wellFormed covered positive finalCancelled
      rw [← isCancel] at finalEffect
      refine ⟨alone, final, outcome, byViews, ?_, kept⟩
      apply Effect.outcome_eq
      exact finalEffect

namespace Sample

/-- An invocation authorized by `caller` alone; the token checks that the source can pay. -/
def invocationBy (caller : Party) (call : Call Party) : Invocation Party where
  authorized := fun party => decide (party = caller)
  transferAccepted := fun balances asset source _ amount =>
    decide (amount.val ≤ balances asset source)
  call := call

def withdrawSecond : Invocation Party :=
  invocationBy .dave (.withdraw 1 .dave)

def cancelSecond : Invocation Party :=
  invocationBy .carol (.cancel 1 .carol)

def secondStream : Stream Party where
  sender := .carol
  recipient := .dave
  total := units 1000
  withdrawn := 0
  start := time 100
  «end» := time 200
  status := .active

end Sample

/-- The theorem applies to a stream of which half has vested. -/
theorem withdrawal_is_neutral_halfway :
    WithdrawalIsNeutral .contract (Sample.final Sample.withdrawing) 1 Sample.secondStream
      Sample.withdrawSecond Sample.cancelSecond := by
  have returned : (Sample.cancelSecond.outcome .contract (Sample.final Sample.withdrawing)).1 =
      .ok .unit := by
    rfl
  have vestedEq : Vesting.vested Sample.secondStream
      (Sample.final Sample.withdrawing).ledger.timestamp = .ok (Sample.units 500) := by
    rfl
  refine withdrawal_before_cancel_is_neutral (Sample.history (by decide)).reachable (by decide) rfl
    (by decide) vestedEq rfl rfl (.inl rfl) rfl ?_
  rw [returned]
  simp

end StreamPay
