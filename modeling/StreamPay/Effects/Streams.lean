import StreamPay.Effects.Administration

/-!
# What calls on a single stream do

For each entry point that creates or changes one stream, a structure lists the
checks that a successful call has passed together with the values it computed,
and an equivalence states that the call returns exactly when these checks hold
and which state it leaves.
-/

namespace StreamPay

open Foundation Foundation.Computation

variable {Address : Type} {env : Env Address} {before after : State Address}

theorem getStream_eq_ok_iff {id : U64} {stream : Stream Address} :
    getStream id before = .ok stream after ↔
      before.streams.lookup id = some stream ∧ after = before := by
  simp only [getStream, readStream, bind_eq_ok_iff, readState_eq_ok_iff, liftM_eq_ok_iff,
    okOr_eq_ok_iff, and_assoc, exists_and_left, exists_eq_left]

theorem streamedAmount_eq_ok_iff {id : U64} {amount : I128} :
    streamedAmount env id before = .ok amount after ↔
      ∃ stream,
        before.streams.lookup id = some stream ∧
          Vesting.vested stream env.ledger.timestamp = .ok amount ∧ after = before := by
  simp only [streamedAmount, bind_eq_ok_iff, getStream_eq_ok_iff, liftM_eq_ok_iff, and_assoc,
    exists_and_left, exists_eq_left]

theorem status_eq_active_iff {status : Status} :
    status = .active ↔ status ≠ .cancelled ∧ status ≠ .completed := by
  cases status <;> simp

theorem unvested_eq_ok_iff {stream : Stream Address} {now : U64} {vested amount : I128}
    (vestedEq : Vesting.vested stream now = .ok vested) :
    Vesting.unvested stream now = .ok amount ↔
      amount.val = stream.total.val - vested.val := by
  simp only [Vesting.unvested, except_bind_eq_ok_iff, vestedEq, Except.ok.injEq,
    okOr_eq_ok_iff, BoundedInt.checkedSub_eq_some_iff, exists_eq_left']

variable [DecidableEq Address]

structure CreateStreamChecks (env : Env Address) (state : State Address)
    (sender : Address) (totalAmount : I128) (startTime endTime : U64)
    (newSupply : I128) (token : Address) (next : U64) : Prop where
  initialized : ∃ admin, state.admin = some admin
  authorized : env.authorized sender = true
  amountPos : 1 ≤ totalAmount.val
  window : (normalizeStartTime env.ledger.timestamp startTime).val < endTime.val
  endsLater : env.ledger.timestamp.val < endTime.val
  newSupplyEq : newSupply.val = (state.totalSupply.getD 0).val + totalAmount.val
  underCap : newSupply.val ≤ (state.supplyCap.getD I128.max).val
  tokenSet : state.token = some token
  accepted :
    env.accepts state.balances
      ⟨token, sender, env.currentContractAddress, totalAmount, .funding⟩ = true
  nextEq : next.val = (state.counter.getD 0).val + 1

/-- The record of a new stream. -/
def Stream.opened (sender recipient : Address) (totalAmount : I128) (startTime endTime : U64) :
    Stream Address where
  sender := sender
  recipient := recipient
  total := totalAmount
  withdrawn := 0
  start := startTime
  «end» := endTime
  status := .active

theorem createStream_eq_ok_iff {sender recipient : Address} {totalAmount : I128}
    {startTime endTime id : U64} :
    createStream env sender recipient totalAmount startTime endTime before = .ok id after ↔
      ∃ newSupply token next,
        CreateStreamChecks env before sender totalAmount startTime endTime newSupply token next ∧
          id = before.counter.getD 0 ∧
            after =
              (((((before.recordTransfer
                ⟨token, sender, env.currentContractAddress, totalAmount, .funding⟩).putStream
                  env.ledger id
                  (.opened sender recipient totalAmount
                    (normalizeStartTime env.ledger.timestamp startTime) endTime)).setCounter
                      next).setTotalSupply newSupply).touchInstance env.ledger).publish
                        (.created id sender recipient totalAmount) := by
  simp only [createStream, readTotalSupply, readSupplyCap, readCounter, writeStream,
    writeCounter, writeTotalSupply, extendInstance, streamCreated, publish, bind_eq_ok_iff,
    requireInitialized_eq_ok_iff, requireAuth_eq_ok_iff, failIf_eq_ok_iff, liftM_eq_ok_iff,
    okOr_eq_ok_iff, readState_eq_ok_iff, readToken_eq_ok_iff, transfer_eq_ok_iff,
    modify_eq_ok_iff, pure_eq_ok_iff, and_assoc, exists_and_left, exists_eq_left, exists_const,
    State.recordTransfer_counter, BoundedInt.checkedAdd_eq_some_iff, Bool.not_eq_false,
    isValidAmount_iff, BoundedInt.le_iff, BoundedInt.lt_iff, gt_iff_lt, not_le, not_lt,
    minStreamAmount, i128_one_val, u64_one_val]
  constructor
  · rintro ⟨initialized, authorized, amountPos, _, window, endsLater, newSupply, newSupplyEq,
      underCap, token, tokenSet, accepted, next, nextEq, rfl, rfl⟩
    exact ⟨newSupply, token, next, ⟨initialized, authorized, amountPos, window, endsLater,
      newSupplyEq, underCap, tokenSet, accepted, nextEq⟩, rfl, rfl⟩
  · rintro ⟨newSupply, token, next, checks, rfl, rfl⟩
    exact ⟨checks.initialized, checks.authorized, checks.amountPos, checks.amountPos,
      checks.window, checks.endsLater, newSupply, checks.newSupplyEq, checks.underCap, token,
      checks.tokenSet, checks.accepted, next, checks.nextEq, rfl, rfl⟩

structure TopUpChecks (env : Env Address) (state : State Address) (id : U64) (sender : Address)
    (amount : I128) (stream : Stream Address) (newTotal newSupply : I128) (token : Address) :
    Prop where
  authorized : env.authorized sender = true
  amountPos : 1 ≤ amount.val
  stored : state.streams.lookup id = some stream
  isSender : sender = stream.sender
  active : stream.status = .active
  newTotalEq : newTotal.val = stream.total.val + amount.val
  newSupplyEq : newSupply.val = (state.totalSupply.getD 0).val + amount.val
  underCap : newSupply.val ≤ (state.supplyCap.getD I128.max).val
  tokenSet : state.token = some token
  accepted :
    env.accepts state.balances
      ⟨token, sender, env.currentContractAddress, amount, .topUp id⟩ = true

theorem topUp_eq_ok_iff {id : U64} {sender : Address} {amount newTotal : I128} :
    topUp env id sender amount before = .ok newTotal after ↔
      ∃ stream newSupply token,
        TopUpChecks env before id sender amount stream newTotal newSupply token ∧
          after =
            ((((before.recordTransfer
              ⟨token, sender, env.currentContractAddress, amount, .topUp id⟩).putStream
                env.ledger id { stream with total := newTotal }).setTotalSupply
                  newSupply).touchInstance env.ledger).publish
                    (.toppedup id sender amount newTotal) := by
  simp only [topUp, readTotalSupply, readSupplyCap, writeStream, writeTotalSupply,
    extendInstance, streamToppedUp, publish, bind_eq_ok_iff, requireAuth_eq_ok_iff,
    failIf_eq_ok_iff, getStream_eq_ok_iff, liftM_eq_ok_iff, okOr_eq_ok_iff,
    readState_eq_ok_iff, readToken_eq_ok_iff, transfer_eq_ok_iff, modify_eq_ok_iff,
    pure_eq_ok_iff, and_assoc, exists_and_left, exists_eq_left, exists_const,
    BoundedInt.checkedAdd_eq_some_iff, Bool.not_eq_false, isValidAmount_iff, BoundedInt.lt_iff,
    gt_iff_lt, not_lt, ne_eq, not_not]
  constructor
  · rintro ⟨authorized, amountPos, stream, stored, isSender, active, newTotal, newTotalEq,
      newSupply, newSupplyEq, underCap, token, tokenSet, accepted, rfl, rfl⟩
    exact ⟨stream, newSupply, token, ⟨authorized, amountPos, stored, isSender, active,
      newTotalEq, newSupplyEq, underCap, tokenSet, accepted⟩, rfl⟩
  · rintro ⟨stream, newSupply, token, checks, rfl⟩
    exact ⟨checks.authorized, checks.amountPos, stream, checks.stored, checks.isSender,
      checks.active, newTotal, checks.newTotalEq, newSupply, checks.newSupplyEq,
      checks.underCap, token, checks.tokenSet, checks.accepted, rfl, rfl⟩

structure ExtendStreamChecks (env : Env Address) (state : State Address) (id : U64)
    (sender : Address) (newEnd : U64) (stream : Stream Address) : Prop where
  authorized : env.authorized sender = true
  stored : state.streams.lookup id = some stream
  isSender : sender = stream.sender
  active : stream.status = .active
  later : stream.end.val < newEnd.val

theorem extendStream_eq_ok_iff {id : U64} {sender : Address} {newEnd : U64} {result : Unit} :
    extendStream env id sender newEnd before = .ok result after ↔
      ∃ stream,
        ExtendStreamChecks env before id sender newEnd stream ∧
          after =
            ((before.putStream env.ledger id { stream with «end» := newEnd }).touchInstance
              env.ledger).publish (.extended id sender stream.end newEnd) := by
  simp only [extendStream, writeStream, extendInstance, streamExtended, publish,
    bind_eq_ok_iff, requireAuth_eq_ok_iff, failIf_eq_ok_iff, getStream_eq_ok_iff,
    modify_eq_ok_iff, and_assoc, exists_and_left, exists_eq_left, exists_const,
    BoundedInt.le_iff, not_le, ne_eq, not_not]
  constructor
  · rintro ⟨authorized, stream, stored, isSender, active, later, rfl⟩
    exact ⟨stream, ⟨authorized, stored, isSender, active, later⟩, rfl⟩
  · rintro ⟨stream, checks, rfl⟩
    exact ⟨checks.authorized, stream, checks.stored, checks.isSender, checks.active,
      checks.later, rfl⟩

structure WithdrawChecks (env : Env Address) (state : State Address) (id : U64)
    (recipient : Address) (amount : I128) (stream : Stream Address) (withdrawn : I128)
    (token : Address) : Prop where
  authorized : env.authorized recipient = true
  stored : state.streams.lookup id = some stream
  isRecipient : stream.recipient = recipient
  active : stream.status = .active
  available : Vesting.withdrawable stream env.ledger.timestamp = .ok amount
  positive : 0 < amount.val
  withdrawnEq : withdrawn.val = stream.withdrawn.val + amount.val
  tokenSet : state.token = some token
  accepted :
    env.accepts state.balances
      ⟨token, env.currentContractAddress, recipient, amount, .payout id⟩ = true

/-- The record of a stream after a withdrawal. -/
def Stream.paidOut (stream : Stream Address) (withdrawn : I128) : Stream Address :=
  { stream with
    withdrawn := withdrawn
    status := if withdrawn ≥ stream.total then .completed else stream.status }

theorem withdraw_eq_ok_iff {id : U64} {recipient : Address} {amount : I128} :
    withdraw env id recipient before = .ok amount after ↔
      ∃ stream withdrawn token,
        WithdrawChecks env before id recipient amount stream withdrawn token ∧
          after =
            ((((before.putStream env.ledger id (stream.paidOut withdrawn)).recordTransfer
              ⟨token, env.currentContractAddress, recipient, amount, .payout id⟩).setTotalSupply
                (((before.totalSupply.getD 0).checkedSub amount).getD 0))).publish
                  (.withdrawn id recipient amount) := by
  simp only [withdraw, readTotalSupply, writeStream, writeTotalSupply, streamWithdrawn, publish,
    bind_eq_ok_iff, requireAuth_eq_ok_iff, failIf_eq_ok_iff, getStream_eq_ok_iff,
    liftM_eq_ok_iff, okOr_eq_ok_iff, readState_eq_ok_iff, readToken_eq_ok_iff,
    transfer_eq_ok_iff, modify_eq_ok_iff, pure_eq_ok_iff, and_assoc, exists_and_left,
    exists_eq_left, exists_const, State.putStream_token,
    State.recordTransfer_totalSupply, State.putStream_totalSupply,
    BoundedInt.checkedAdd_eq_some_iff, BoundedInt.le_iff, i128_zero_val, not_le, ne_eq, not_not]
  constructor
  · rintro ⟨authorized, stream, stored, isRecipient, notCancelled, notCompleted, available,
      availableEq, positive, withdrawn, withdrawnEq, token, tokenSet, accepted, rfl, rfl⟩
    exact ⟨stream, withdrawn, token, ⟨authorized, stored, isRecipient,
      status_eq_active_iff.mpr ⟨notCancelled, notCompleted⟩, availableEq, positive,
      withdrawnEq, tokenSet, accepted⟩, rfl⟩
  · rintro ⟨stream, withdrawn, token, checks, rfl⟩
    rcases status_eq_active_iff.mp checks.active with ⟨notCancelled, notCompleted⟩
    exact ⟨checks.authorized, stream, checks.stored, checks.isRecipient, notCancelled,
      notCompleted, amount, checks.available, checks.positive, withdrawn, checks.withdrawnEq,
      token, checks.tokenSet, checks.accepted, rfl, rfl⟩

structure CancelChecks (env : Env Address) (state : State Address) (id : U64)
    (caller : Address) (stream : Stream Address) (vested recipientPaid senderRefund : I128)
    (token : Address) : Prop where
  authorized : env.authorized caller = true
  stored : state.streams.lookup id = some stream
  isParty : caller = stream.sender ∨ caller = stream.recipient
  notCancelled : stream.status ≠ .cancelled
  vestedEq : Vesting.vested stream env.ledger.timestamp = .ok vested
  recipientPaidEq : recipientPaid.val = vested.val - stream.withdrawn.val
  senderRefundEq : senderRefund.val = stream.total.val - vested.val
  tokenSet : state.token = some token
  payoutAccepted :
    0 < recipientPaid.val →
      env.accepts state.balances
        ⟨token, env.currentContractAddress, stream.recipient, recipientPaid, .payout id⟩ = true
  refundAccepted :
    0 < senderRefund.val →
      env.accepts
        (state.balances.move token env.currentContractAddress stream.recipient
          (max 0 recipientPaid.val))
        ⟨token, env.currentContractAddress, stream.sender, senderRefund, .refund id⟩ = true

/-- The amount by which `cancel` reduces the tracked supply. -/
def cancelReleased (recipientPaid senderRefund : I128) : I128 :=
  (recipientPaid.checkedAdd senderRefund).getD senderRefund

/-- The record of a stream after its cancellation. -/
def Stream.closed (stream : Stream Address) (vested : I128) : Stream Address :=
  { stream with withdrawn := vested, status := .cancelled }

theorem cancel_eq_ok_iff {id : U64} {caller : Address} {result : Unit} :
    cancel env id caller before = .ok result after ↔
      ∃ stream vested recipientPaid senderRefund token,
        CancelChecks env before id caller stream vested recipientPaid senderRefund token ∧
          after =
            ((((before.putStream env.ledger id (stream.closed vested)).recordPositive
              ⟨token, env.currentContractAddress, stream.recipient, recipientPaid,
                .payout id⟩).recordPositive
                ⟨token, env.currentContractAddress, stream.sender, senderRefund,
                  .refund id⟩).setTotalSupply
                  (((before.totalSupply.getD 0).checkedSub
                    (cancelReleased recipientPaid senderRefund)).getD 0)).publish
                      (.cancelled id caller senderRefund recipientPaid) := by
  simp only [cancel, readTotalSupply, writeStream, writeTotalSupply, streamCancelled, publish,
    bind_eq_ok_iff, requireAuth_eq_ok_iff, failIf_eq_ok_iff, getStream_eq_ok_iff,
    liftM_eq_ok_iff, okOr_eq_ok_iff, readState_eq_ok_iff, readToken_eq_ok_iff,
    onlyIf_transfer_eq_ok_iff, modify_eq_ok_iff, and_assoc, exists_and_left, exists_eq_left,
    exists_const, State.putStream_token, State.recordPositive_totalSupply,
    State.putStream_totalSupply, BoundedInt.checkedSub_eq_some_iff, ne_eq, not_and_or, not_not]
  constructor
  · rintro ⟨authorized, stream, stored, isParty, notCancelled, vested, vestedEq, recipientPaid,
      recipientPaidEq, senderRefund, senderRefundEq, token, tokenSet, payoutAccepted,
      refundAccepted, rfl⟩
    exact ⟨stream, vested, recipientPaid, senderRefund, token, ⟨authorized, stored, isParty,
      notCancelled, vestedEq, recipientPaidEq, (unvested_eq_ok_iff vestedEq).mp senderRefundEq,
      tokenSet, payoutAccepted, refundAccepted⟩, rfl⟩
  · rintro ⟨stream, vested, recipientPaid, senderRefund, token, checks, rfl⟩
    exact ⟨checks.authorized, stream, checks.stored, checks.isParty, checks.notCancelled,
      vested, checks.vestedEq, recipientPaid, checks.recipientPaidEq, senderRefund,
      (unvested_eq_ok_iff checks.vestedEq).mpr checks.senderRefundEq, token, checks.tokenSet,
      checks.payoutAccepted, checks.refundAccepted, rfl⟩

end StreamPay
