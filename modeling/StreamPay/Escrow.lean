import StreamPay.Records

/-!
# The escrow of the active streams

The escrow is what the contract still owes on its active streams.  This file
computes how each call that returns changes it.  The balance of the contract,
the tracked supply and the cap are later compared with it.
-/

namespace StreamPay

open Foundation

variable {Address : Type}

/-- What is still owed on a stream, to its recipient or to its sender. -/
def Stream.escrow (stream : Stream Address) : ℤ :=
  if stream.status = .active then stream.total.val - stream.withdrawn.val else 0

/-- The sum of what is owed on all active streams. -/
def State.held (state : State Address) : ℤ :=
  FiniteMap.total Stream.escrow state.streams

theorem Stream.escrow_of_active {stream : Stream Address} (active : stream.status = .active) :
    stream.escrow = stream.total.val - stream.withdrawn.val :=
  if_pos active

theorem Stream.WellFormed.escrow_nonneg {stream : Stream Address} {now : U64}
    (wellFormed : stream.WellFormed now) : 0 ≤ stream.escrow := by
  have withdrawnLe := wellFormed.withdrawnLe
  simp only [Stream.escrow]
  split
  · omega
  · exact le_rfl

/-- What is owed on a stream that is not cancelled. -/
theorem Stream.WellFormed.escrow_eq {stream : Stream Address} {now : U64}
    (wellFormed : stream.WellFormed now) (notCancelled : stream.status ≠ .cancelled) :
    stream.escrow = stream.total.val - stream.withdrawn.val := by
  by_cases active : stream.status = .active
  · exact Stream.escrow_of_active active
  · have completed : stream.status = .completed := by
      by_contra notCompleted
      exact active (status_eq_active_iff.mpr ⟨notCancelled, notCompleted⟩)
    have paid := (wellFormed.completedPaid completed).1
    simp only [Stream.escrow, if_neg active]
    omega

theorem Book.Describes.held_nonneg {book : Book Address} {system : System Address}
    (describes : book.Describes system) : 0 ≤ system.state.held := by
  apply FiniteMap.total_nonneg
  intro id stream stored
  exact (book.wellFormed id stream (describes.lookup stored)).escrow_nonneg

/-- What is owed on one stream is part of the escrow. -/
theorem Book.Describes.escrow_le_held {book : Book Address} {system : System Address}
    (describes : book.Describes system) {id : U64} {stream : Stream Address}
    (stored : system.state.streams.lookup id = some stream) :
    stream.escrow ≤ system.state.held := by
  apply FiniteMap.weight_le_total ?_ stored
  intro other otherStream otherStored
  exact (book.wellFormed other otherStream (describes.lookup otherStored)).escrow_nonneg

/-- Paying out moves what is paid from the escrow to the recipient. -/
theorem Stream.escrow_paidOut {stream : Stream Address} {withdrawn : I128}
    (active : stream.status = .active) (withdrawnLe : withdrawn.val ≤ stream.total.val) :
    (stream.paidOut withdrawn).escrow = stream.total.val - withdrawn.val := by
  by_cases reached : withdrawn ≥ stream.total
  · have full : stream.total.val ≤ withdrawn.val := reached
    simp only [Stream.escrow, Stream.paidOut, if_pos reached, reduceCtorEq, if_false]
    omega
  · simp only [Stream.escrow, Stream.paidOut, if_neg reached, active, if_true]

theorem Stream.escrow_closed (stream : Stream Address) (vested : I128) :
    (stream.closed vested).escrow = 0 := by
  simp [Stream.escrow, Stream.closed]

/-- A withdrawal takes at most what is owed on the stream. -/
theorem WithdrawChecks.amount_le_escrow {env : Env Address} {state : State Address} {id : U64}
    {recipient token : Address} {amount withdrawn : I128} {stream : Stream Address} {now : U64}
    (checks : WithdrawChecks env state id recipient amount stream withdrawn token)
    (wellFormed : stream.WellFormed now) : amount.val ≤ stream.escrow := by
  have onSchedule := checks.onSchedule wellFormed
  have scheduledLe : stream.scheduled env.ledger.timestamp ≤ stream.total.val :=
    wellFormed.scheduled_le
  have withdrawnEq := checks.withdrawnEq
  rw [Stream.escrow_of_active checks.active]
  omega

section Cancelling

variable [DecidableEq Address] {env : Env Address} {state : State Address} {id : U64}
  {caller token : Address} {vested recipientPaid senderRefund : I128} {stream : Stream Address}
  {now : U64}

/-- A cancellation announces what is owed on the stream, in two parts. -/
theorem CancelChecks.amounts_eq
    (checks : CancelChecks env state id caller stream vested recipientPaid senderRefund token)
    (wellFormed : stream.WellFormed now) :
    recipientPaid.val + senderRefund.val = stream.escrow := by
  have recipientPaidEq := checks.recipientPaidEq
  have senderRefundEq := checks.senderRefundEq
  rw [wellFormed.escrow_eq checks.notCancelled]
  omega

/-- The second part is not negative. -/
theorem CancelChecks.refund_nonneg
    (checks : CancelChecks env state id caller stream vested recipientPaid senderRefund token)
    (wellFormed : stream.WellFormed now) : 0 ≤ senderRefund.val := by
  have onSchedule := checks.onSchedule wellFormed
  have scheduledLe : stream.scheduled env.ledger.timestamp ≤ stream.total.val :=
    wellFormed.scheduled_le
  have senderRefundEq := checks.senderRefundEq
  omega

/-- A cancellation releases exactly what is owed on the stream, without overflow. -/
theorem CancelChecks.exists_released
    (checks : CancelChecks env state id caller stream vested recipientPaid senderRefund token)
    (wellFormed : stream.WellFormed now) :
    ∃ released, recipientPaid.checkedAdd senderRefund = some released ∧
      cancelReleased recipientPaid senderRefund = released ∧ released.val = stream.escrow := by
  have amountsEq := checks.amounts_eq wellFormed
  have escrowEq := wellFormed.escrow_eq checks.notCancelled
  have withdrawnNonneg := wellFormed.withdrawnNonneg
  have withdrawnLe := wellFormed.withdrawnLe
  have totalUpper := stream.total.le_upper
  have defined : ∃ released, recipientPaid.checkedAdd senderRefund = some released := by
    apply BoundedInt.exists_checkedAdd
    · omega
    · omega
  rcases defined with ⟨released, releasedEq⟩
  have releasedVal := BoundedInt.checkedAdd_eq_some_iff.mp releasedEq
  refine ⟨released, releasedEq, ?_, by omega⟩
  simp only [cancelReleased, releasedEq, Option.getD_some]

end Cancelling

/-- The change of the escrow caused by a call that returns. -/
def escrowChange (before : State Address) : Call Address → Reply Address → ℤ
  | .createStream _ _ totalAmount _ _, _ => totalAmount.val
  | .createStreamBatch _ requests, _ => amountSum requests.toList
  | .topUp _ _ amount, _ => amount.val
  | .withdraw _ _, .i128 amount => -amount.val
  | .cancel id _, _ => -((before.streams.lookup id).elim 0 Stream.escrow)
  | _, _ => 0

section Changes

variable {state : State Address} {ledger : Ledger} {id : U64} {stream new : Stream Address}

theorem held_insert (stored : state.streams.lookup id = some stream) :
    FiniteMap.total Stream.escrow (state.streams.insert id new) =
      state.held - stream.escrow + new.escrow :=
  FiniteMap.total_insert_of_lookup Stream.escrow stored new

theorem held_openAll {sender : Address} {requests : List (StreamRequest Address)}
    (unused : ∀ other : U64, id.val ≤ other.val → other ∉ state.streams)
    (room : id.val + requests.length ≤ 2 ^ 64 - 1) :
    (state.openAll ledger sender id requests).held = state.held + amountSum requests := by
  induction requests generalizing state id with
  | nil => simp [State.openAll]
  | cons request rest ih =>
      rw [List.length_cons] at room
      push_cast at room
      have nextVal : id.next.val = id.val + 1 := U64.next_val (by omega)
      have opened :
          ((state.putStream ledger id (request.toStream sender)).publish
            (.created id sender request.recipient request.totalAmount)).held =
              request.totalAmount.val + state.held := by
        have inserted := FiniteMap.total_insert_of_notMem Stream.escrow (unused id le_rfl)
          (request.toStream sender)
        have owed : (request.toStream sender).escrow = request.totalAmount.val := by
          simp [Stream.escrow, StreamRequest.toStream, Stream.opened]
        rw [owed] at inserted
        exact inserted
      have stillUnused (other : U64) (order : id.next.val ≤ other.val) :
          other ∉ ((state.putStream ledger id (request.toStream sender)).publish
            (.created id sender request.recipient request.totalAmount)).streams := by
        rw [State.publish_streams, State.putStream_streams, Finmap.mem_insert, not_or]
        refine ⟨?_, unused other (by omega)⟩
        rintro rfl
        omega
      rw [State.openAll, ih stillUnused (by omega), opened, amountSum_cons]
      omega

end Changes

variable [DecidableEq Address] {book : Book Address} {env : Env Address}
  {before after : State Address} {call : Call Address} {reply : Reply Address}

/-- The escrow changes by exactly what the call adds to it or takes from it. -/
theorem Effect.held_eq (describes : book.Describes ⟨env.ledger, before⟩)
    (effect : Effect env before call reply after) :
    after.held = before.held + escrowChange before call reply := by
  have unused (other : U64) (order : (before.counter.getD 0).val ≤ other.val) :
      other ∉ before.streams := by
    rw [← show book.streams = before.streams from describes.streams, book.stored_iff,
      show book.nextId = before.counter.getD 0 from describes.nextId]
    omega
  cases effect with
  | initializeContract fresh => exact (add_zero _).symm
  | scheduleAdminTransfer isAdmin authorized differs executeAfterEq => exact (add_zero _).symm
  | executeAdminTransfer isAdmin pending deadline matured => exact (add_zero _).symm
  | cancelAdminTransfer isAdmin authorized pending => exact (add_zero _).symm
  | setAdmin isAdmin authorized => exact (add_zero _).symm
  | setSupplyCap isAdmin authorized capPos => exact (add_zero _).symm
  | createStream checks =>
      refine (FiniteMap.total_insert_of_notMem Stream.escrow (unused _ le_rfl) _).trans ?_
      simp only [Stream.escrow, Stream.opened, if_true, i128_zero_val, sub_zero, escrowChange]
      exact add_comm _ _
  | createStreamBatch checks =>
      have room : (before.counter.getD 0).val + (_ : List _).length ≤ 2 ^ 64 - 1 :=
        checks.nextCounterEq ▸ (BoundedInt.le_upper _)
      exact held_openAll unused room
  | topUp checks =>
      refine (held_insert checks.stored).trans ?_
      rw [Stream.escrow_of_active checks.active]
      have newTotalEq := checks.newTotalEq
      simp only [Stream.escrow, checks.active, if_true, escrowChange]
      omega
  | extendStream checks =>
      refine (held_insert checks.stored).trans ?_
      simp only [Stream.escrow, escrowChange]
      omega
  | @withdraw id recipient token amount withdrawn stream checks =>
      have stored : book.streams.lookup id = some stream := describes.lookup checks.stored
      have wellFormed := book.wellFormed id stream stored
      have withdrawnLe : withdrawn.val ≤ stream.total.val := by
        rw [checks.onSchedule wellFormed]
        exact wellFormed.scheduled_le
      have withdrawnEq := checks.withdrawnEq
      refine (held_insert checks.stored).trans ?_
      rw [Stream.escrow_of_active checks.active,
        Stream.escrow_paidOut checks.active withdrawnLe]
      simp only [escrowChange]
      omega
  | cancel checks =>
      refine (held_insert checks.stored).trans ?_
      rw [Stream.escrow_closed]
      simp only [escrowChange, checks.stored, Option.elim_some]
      omega
  | query returned => exact (add_zero _).symm

end StreamPay
