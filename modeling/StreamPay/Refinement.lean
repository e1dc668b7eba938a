import StreamPay.Book
import StreamPay.System

/-!
# The contract keeps a book

This file relates the contract to the book of streams.  A book describes a
system when both have the same time, the same records and the same next id, and
when the book's figures of what was paid are those of the token transfers.

Every call that returns is matched by moves of the book, and calls that fail
are matched by none.  Hence every reachable system is described by a book, and
everything that a book carries holds of every reachable system.
-/

namespace StreamPay

open Foundation

variable {Address : Type}

/-- The sum of the transfers made to the recipient of a stream on its behalf. -/
def State.received (state : State Address) (id : U64) : ℤ :=
  ((state.transfers.filter fun record => record.purpose = .payout id).map
    fun record => record.amount.val).sum

theorem received_congr {first second : State Address}
    (same : first.transfers = second.transfers) (id : U64) :
    first.received id = second.received id := by
  simp only [State.received, same]

section Received

variable [DecidableEq Address] (state : State Address) (record : Transfer Address) (id : U64)

theorem received_recordTransfer :
    (state.recordTransfer record).received id =
      state.received id + if record.purpose = .payout id then record.amount.val else 0 := by
  by_cases isPayout : record.purpose = .payout id
  · simp [State.received, isPayout]
  · simp [State.received, isPayout]

theorem received_recordPositive :
    (state.recordPositive record).received id =
      state.received id + if record.purpose = .payout id then max 0 record.amount.val else 0 := by
  by_cases positive : 0 < record.amount.val
  · have sameTransfers :
        (state.recordPositive record).received id = (state.recordTransfer record).received id := by
      simp [State.received, positive]
    rw [sameTransfers, received_recordTransfer, max_eq_right positive.le]
  · have sameTransfers : (state.recordPositive record).received id = state.received id := by
      simp [State.received, positive]
    rw [sameTransfers, max_eq_left (not_lt.mp positive), ite_self, add_zero]

end Received

/-- The book and the system agree. -/
structure Book.Describes (book : Book Address) (system : System Address) : Prop where
  now : book.now = system.ledger.timestamp
  streams : book.streams = system.state.streams
  nextId : book.nextId = system.state.counter.getD 0
  paid : ∀ id, book.paid id = system.state.received id
  idle : system.state.admin = none → system.state.streams = ∅
  sameKeys : system.state.token.isSome = system.state.admin.isSome

/-- A stored stream is in the book. -/
theorem Book.Describes.lookup {book : Book Address} {system : System Address}
    (describes : book.Describes system) {id : U64} {stream : Stream Address}
    (stored : system.state.streams.lookup id = some stream) :
    book.streams.lookup id = some stream := by
  rw [describes.streams]
  exact stored

/-- The moves of the book that a call may stand for. -/
def Book.Move.OfCall : Book.Move Address → Call Address → Prop
  | .openStream _, .createStream .. => True
  | .openStream _, .createStreamBatch .. => True
  | .raise id newTotal, .topUp other _ amount => id = other ∧ amount.val ≤ newTotal.val
  | .prolong id newEnd, .extendStream other _ otherEnd => id = other ∧ newEnd = otherEnd
  | .pay id _, .withdraw other _ => id = other
  | .close id _, .cancel other _ => id = other
  | _, _ => False

/-- The move stands for the call and is made in `book`, unless it opens a stream. -/
def Book.Origin (book : Book Address) (call : Call Address)
    (taken : Transition (Book Address) (Book.Move Address)) : Prop :=
  taken.label.OfCall call ∧ (taken.source = book ∨ ∃ stream, taken.label = .openStream stream)

/-- Moves that `call` stands for lead from `book` to one that describes `after`. -/
def Book.Matched (book : Book Address) (ledger : Ledger) (call : Call Address)
    (after : State Address) : Prop :=
  ∃ moves next,
    Run Book.Step book moves next ∧ next.Describes ⟨ledger, after⟩ ∧
      ∀ taken ∈ moves, book.Origin call taken

section Matching

variable {book next : Book Address} {env : Env Address} {ledger : Ledger}
  {before after : State Address} {call : Call Address} {move : Book.Move Address}

theorem matched_single (step : Book.Step book move next)
    (describes : next.Describes ⟨ledger, after⟩)
    (ofCall : move.OfCall call) : book.Matched ledger call after := by
  refine ⟨_, next, .single step, describes, ?_⟩
  intro taken takenMem
  rw [List.mem_singleton] at takenMem
  subst taken
  exact ⟨ofCall, .inl rfl⟩

/-- A call that touches neither streams nor token is matched by no move. -/
theorem matched_quiet (describes : book.Describes ⟨ledger, before⟩)
    (streams : after.streams = before.streams) (counter : after.counter = before.counter)
    (transfers : after.transfers = before.transfers)
    (admin : after.admin.isSome = before.admin.isSome) (token : after.token = before.token) :
    book.Matched ledger call after := by
  refine ⟨[], book, .nil, ⟨describes.now, ?_, ?_, ?_, ?_, ?_⟩, by simp⟩
  · exact describes.streams.trans streams.symm
  · rw [counter]
    exact describes.nextId
  · intro id
    rw [State.received, transfers]
    exact describes.paid id
  · intro noAdmin
    rw [streams]
    apply describes.idle
    rw [← Option.not_isSome_iff_eq_none] at noAdmin ⊢
    rwa [admin] at noAdmin
  · rw [admin, token]
    exact describes.sameKeys

theorem update_add_apply {paid : U64 → ℤ} {id other : U64} {amount : ℤ} :
    Function.update paid id (paid id + amount) other =
      paid other + if id = other then amount else 0 := by
  by_cases same : id = other
  · subst other
    rw [Function.update_self, if_pos rfl]
  · rw [Function.update_of_ne (Ne.symm same), if_neg same, add_zero]

/-- What a successful withdrawal leaves is exactly what the schedule has released. -/
theorem WithdrawChecks.onSchedule {state : State Address} {id : U64} {recipient token : Address}
    {amount withdrawn : I128} {stream : Stream Address} {now : U64}
    (checks : WithdrawChecks env state id recipient amount stream withdrawn token)
    (wellFormed : stream.WellFormed now) :
    withdrawn.val = stream.scheduled env.ledger.timestamp := by
  rcases Vesting.withdrawable_eq_ok_iff.mp checks.available with
    ⟨vested, available, vestedEq, availableEq, amountEq⟩
  have totalPos := wellFormed.totalPos
  have onSchedule := ((Vesting.vested_eq_ok_iff (by omega)).mp vestedEq).1
  have positive := checks.positive
  have withdrawnEq := checks.withdrawnEq
  omega

theorem matched_initializeContract {admin token : Address}
    (describes : book.Describes ⟨ledger, before⟩) (fresh : before.admin = none) :
    book.Matched ledger call
      ((((((before.setAdmin admin).setToken token).setCounter 0).setTotalSupply
        0).setSupplyCap defaultSupplyCap).touchInstance ledger) := by
  have noStreams := describes.idle fresh
  refine ⟨[], book, .nil, ⟨describes.now, describes.streams, ?_, describes.paid, ?_, rfl⟩, by simp⟩
  · have empty : (0 : U64) ∉ book.streams := by
      rw [describes.streams, noStreams]
      exact Finmap.notMem_empty
    rw [book.stored_iff] at empty
    have nonneg := book.nextId.lower_le
    apply BoundedInt.ext
    simp only [State.touchInstance_counter, State.setSupplyCap_counter,
      State.setTotalSupply_counter, State.setCounter_counter, Option.getD_some,
      u64_zero_val] at empty ⊢
    omega
  · intro noAdmin
    contradiction

theorem matched_openAll {now : U64} {sender : Address} {requests : List (StreamRequest Address)}
    {id : U64} {state : State Address} (valid : ∀ request ∈ requests, request.Valid now)
    (nowEq : book.now = now) (idEq : book.nextId = id) (streamsEq : book.streams = state.streams)
    (room : id.val + requests.length ≤ 2 ^ 64 - 1) :
    ∃ moves next,
      Run Book.Step book moves next ∧ next.now = now ∧
        next.streams = (state.openAll ledger sender id requests).streams ∧
          next.nextId.val = id.val + requests.length ∧ next.paid = book.paid ∧
            ∀ taken ∈ moves, ∃ stream, taken.label = .openStream stream := by
  induction requests generalizing book state id with
  | nil => exact ⟨[], book, .nil, nowEq, streamsEq, by simp [idEq], rfl, by simp⟩
  | cons request rest ih =>
      subst nowEq
      subst idEq
      have requestValid := valid request List.mem_cons_self
      have fresh : (request.toStream sender).Fresh book.now :=
        ⟨requestValid.amountPos, rfl, requestValid.window, requestValid.endsLater, rfl⟩
      rw [List.length_cons] at room
      push_cast at room
      have nextEq : book.nextId.next.val = book.nextId.val + 1 := U64.next_val (by omega)
      have opened := Book.Step.openStream fresh nextEq
      have restValid := fun other otherMem => valid other (List.mem_cons_of_mem _ otherMem)
      have sameNow : (book.openStream (request.toStream sender) fresh _ nextEq).now = book.now :=
        rfl
      have nextIdEq :
          (book.openStream (request.toStream sender) fresh _ nextEq).nextId = book.nextId.next :=
        rfl
      have restStreams :
          (book.openStream (request.toStream sender) fresh _ nextEq).streams =
            ((state.putStream ledger book.nextId (request.toStream sender)).publish
              (.created book.nextId sender request.recipient request.totalAmount)).streams := by
        rw [State.publish_streams, State.putStream_streams, ← streamsEq]
        rfl
      rcases ih restValid sameNow nextIdEq restStreams (by omega) with
        ⟨moves, next, run, nowEq, streams, nextId, paid, opens⟩
      refine ⟨_, next, .cons opened run, nowEq, streams, ?_, paid, ?_⟩
      · rw [nextId, List.length_cons]
        push_cast
        omega
      · intro taken takenMem
        rcases List.mem_cons.mp takenMem with rfl | takenMem
        · exact ⟨_, rfl⟩
        · exact opens taken takenMem

/-- A call that rewrites one record is matched by the move that rewrites it in the book. -/
theorem describes_of_rewrite {id : U64} {stream : Stream Address} (new : Stream Address)
    (amount : ℤ) (describes : book.Describes ⟨env.ledger, before⟩)
    (stored : before.streams.lookup id = some stream)
    (now : next.now = book.now) (nextStreams : next.streams = book.streams.insert id new)
    (nextId : next.nextId = book.nextId)
    (paid : next.paid = Function.update book.paid id (book.paid id + amount))
    (streams : after.streams = before.streams.insert id new)
    (counter : after.counter = before.counter) (admin : after.admin = before.admin)
    (token : after.token = before.token)
    (received :
      ∀ other, after.received other = before.received other + if id = other then amount else 0) :
    next.Describes ⟨env.ledger, after⟩ := by
  refine ⟨now.trans describes.now, ?_, ?_, ?_, ?_, ?_⟩
  · rw [nextStreams, describes.streams]
    exact streams.symm
  · rw [nextId, counter]
    exact describes.nextId
  · intro other
    rw [paid, update_add_apply, received, describes.paid other]
  · intro noAdmin
    have noStreams := describes.idle (admin.symm.trans noAdmin)
    rw [show before.streams = ∅ from noStreams] at stored
    simp at stored
  · rw [admin, token]
    exact describes.sameKeys

theorem matched_extendStream {id : U64} {sender : Address} {newEnd : U64}
    {stream : Stream Address} (describes : book.Describes ⟨env.ledger, before⟩)
    (checks : ExtendStreamChecks env before id sender newEnd stream) :
    book.Matched env.ledger (.extendStream id sender newEnd)
      (((before.putStream env.ledger id { stream with «end» := newEnd }).touchInstance
        env.ledger).publish (.extended id sender stream.end newEnd)) := by
  have stored : book.streams.lookup id = some stream := describes.lookup checks.stored
  refine matched_single (.prolong stored checks.active checks.later.le) ?_ ⟨rfl, rfl⟩
  refine describes_of_rewrite (stream.prolonged newEnd) 0 describes checks.stored rfl rfl rfl rfl
    rfl (by simp) (by simp) (by simp) ?_
  intro other
  rw [ite_self, add_zero]
  exact received_congr rfl other

variable [DecidableEq Address]

theorem matched_createStream {sender recipient token : Address} {totalAmount newSupply : I128}
    {startTime endTime nextId : U64} (describes : book.Describes ⟨env.ledger, before⟩)
    (checks :
      CreateStreamChecks env before sender totalAmount startTime endTime newSupply token nextId) :
    book.Matched env.ledger (.createStream sender recipient totalAmount startTime endTime)
      ((((((before.recordTransfer
        ⟨token, sender, env.currentContractAddress, totalAmount, .funding⟩).putStream
          env.ledger (before.counter.getD 0)
          (.opened sender recipient totalAmount
            (normalizeStartTime env.ledger.timestamp startTime) endTime)).setCounter
              nextId).setTotalSupply newSupply).touchInstance env.ledger).publish
                (.created (before.counter.getD 0) sender recipient totalAmount)) := by
  have nowEq : book.now = env.ledger.timestamp := describes.now
  have idEq : book.nextId = before.counter.getD 0 := describes.nextId
  have fresh : (Stream.opened sender recipient totalAmount
      (normalizeStartTime env.ledger.timestamp startTime) endTime).Fresh book.now := by
    refine ⟨checks.amountPos, rfl, checks.window, ?_, rfl⟩
    rw [nowEq]
    exact checks.endsLater
  have nextEq : nextId.val = book.nextId.val + 1 := by
    rw [idEq]
    exact checks.nextEq
  refine matched_single (.openStream fresh nextEq) ?_ ?_
  swap
  · trivial
  have streamsEq : book.streams = before.streams := describes.streams
  refine ⟨nowEq, ?_, ?_, ?_, ?_, ?_⟩
  · simp only [State.publish_streams, State.touchInstance_streams, State.setTotalSupply_streams,
      State.setCounter_streams, State.putStream_streams, State.recordTransfer_streams]
    rw [← idEq, ← streamsEq]
    rfl
  · simp only [State.publish_counter, State.touchInstance_counter, State.setTotalSupply_counter,
      State.setCounter_counter, Option.getD_some]
    rfl
  · intro id
    have transferred := received_recordTransfer before
      ⟨token, sender, env.currentContractAddress, totalAmount, .funding⟩ id
    rw [if_neg (by simp), add_zero] at transferred
    exact ((describes.paid id).trans transferred.symm).trans (received_congr (by simp) id)
  · intro noAdmin
    rcases checks.initialized with ⟨admin, isAdmin⟩
    simp [isAdmin] at noAdmin
  · simpa using describes.sameKeys

theorem matched_createStreamBatch {sender token : Address}
    {requests : HostVec (StreamRequest Address)} {aggregate : I128} {nextCounter : U64}
    (describes : book.Describes ⟨env.ledger, before⟩)
    (checks : CreateBatchChecks env before sender requests aggregate token nextCounter) :
    book.Matched env.ledger (.createStreamBatch sender requests)
      ((((before.recordTransfer
        ⟨token, sender, env.currentContractAddress, aggregate, .funding⟩).openAll
          env.ledger sender (before.counter.getD 0) requests.toList).setCounter
            nextCounter).touchInstance env.ledger) := by
  have room : (before.counter.getD 0).val + requests.toList.length ≤ 2 ^ 64 - 1 := by
    rw [← checks.nextCounterEq]
    exact nextCounter.le_upper
  have streamsEq : book.streams = (before.recordTransfer
      ⟨token, sender, env.currentContractAddress, aggregate, .funding⟩).streams :=
    describes.streams
  rcases matched_openAll checks.valid describes.now describes.nextId streamsEq room with
    ⟨moves, next, run, nowEq, streams, nextId, paid, opens⟩
  refine ⟨moves, next, run, ⟨nowEq, streams, ?_, ?_, ?_, ?_⟩, ?_⟩
  · exact BoundedInt.ext (nextId.trans checks.nextCounterEq.symm)
  · intro id
    have transferred := received_recordTransfer before
      ⟨token, sender, env.currentContractAddress, aggregate, .funding⟩ id
    rw [if_neg (by simp), add_zero] at transferred
    rw [paid, describes.paid id, ← transferred]
    apply received_congr
    simp
  · intro noAdmin
    rcases checks.initialized with ⟨admin, isAdmin⟩
    simp [isAdmin] at noAdmin
  · simpa using describes.sameKeys
  · intro taken takenMem
    rcases opens taken takenMem with ⟨stream, label⟩
    refine ⟨?_, .inr ⟨stream, label⟩⟩
    rw [label]
    trivial

theorem matched_topUp {id : U64} {sender token : Address} {amount newTotal newSupply : I128}
    {stream : Stream Address} (describes : book.Describes ⟨env.ledger, before⟩)
    (checks : TopUpChecks env before id sender amount stream newTotal newSupply token) :
    book.Matched env.ledger (.topUp id sender amount)
      (((((before.recordTransfer
        ⟨token, sender, env.currentContractAddress, amount, .topUp id⟩).putStream
          env.ledger id { stream with total := newTotal }).setTotalSupply
            newSupply).touchInstance env.ledger).publish
              (.toppedup id sender amount newTotal)) := by
  have stored : book.streams.lookup id = some stream := describes.lookup checks.stored
  have amountPos := checks.amountPos
  have newTotalEq := checks.newTotalEq
  have totalPos := (book.wellFormed id stream stored).totalPos
  have more : stream.total.val ≤ newTotal.val := by omega
  refine matched_single (.raise stored checks.active more) ?_ ?_
  · refine describes_of_rewrite (stream.raised newTotal) 0 describes checks.stored rfl rfl rfl rfl
      rfl (by simp) (by simp) (by simp) ?_
    intro other
    have transferred := received_recordTransfer before
      ⟨token, sender, env.currentContractAddress, amount, .topUp id⟩ other
    rw [if_neg (by simp), add_zero] at transferred
    rw [ite_self, add_zero]
    exact (received_congr (by simp) other).trans transferred
  · refine ⟨rfl, ?_⟩
    omega

theorem matched_withdraw {id : U64} {recipient token : Address} {amount withdrawn : I128}
    {stream : Stream Address} (describes : book.Describes ⟨env.ledger, before⟩)
    (checks : WithdrawChecks env before id recipient amount stream withdrawn token) :
    book.Matched env.ledger (.withdraw id recipient)
      (((((before.putStream env.ledger id (stream.paidOut withdrawn)).recordTransfer
        ⟨token, env.currentContractAddress, recipient, amount, .payout id⟩).setTotalSupply
          (((before.totalSupply.getD 0).checkedSub amount).getD 0))).publish
            (.withdrawn id recipient amount)) := by
  have stored : book.streams.lookup id = some stream := describes.lookup checks.stored
  have onSchedule := checks.onSchedule (book.wellFormed id stream stored)
  rw [← show book.now = env.ledger.timestamp from describes.now] at onSchedule
  have positive := checks.positive
  have withdrawnEq := checks.withdrawnEq
  have more : stream.withdrawn.val ≤ withdrawn.val := by omega
  refine matched_single (.pay stored checks.active more onSchedule) ?_ rfl
  refine describes_of_rewrite (stream.paidOut withdrawn)
    (withdrawn.val - stream.withdrawn.val) describes checks.stored rfl rfl rfl rfl rfl
    (by simp) (by simp) (by simp) ?_
  intro other
  have transferred := received_recordTransfer
    (before.putStream env.ledger id (stream.paidOut withdrawn))
    ⟨token, env.currentContractAddress, recipient, amount, .payout id⟩ other
  have amountEq : withdrawn.val - stream.withdrawn.val = amount.val := by omega
  rw [amountEq]
  simp only [Purpose.payout.injEq] at transferred
  exact (received_congr (by simp) other).trans transferred

theorem CancelChecks.onSchedule {state : State Address} {id : U64} {caller token : Address}
    {vested recipientPaid senderRefund : I128} {stream : Stream Address} {now : U64}
    (checks : CancelChecks env state id caller stream vested recipientPaid senderRefund token)
    (wellFormed : stream.WellFormed now) :
    vested.val = stream.scheduled env.ledger.timestamp := by
  have totalPos := wellFormed.totalPos
  exact ((Vesting.vested_eq_ok_iff (by omega)).mp checks.vestedEq).1

theorem matched_cancel {id : U64} {caller token : Address}
    {vested recipientPaid senderRefund : I128} {stream : Stream Address}
    (describes : book.Describes ⟨env.ledger, before⟩)
    (checks : CancelChecks env before id caller stream vested recipientPaid senderRefund token) :
    book.Matched env.ledger (.cancel id caller)
      (((((before.putStream env.ledger id (stream.closed vested)).recordPositive
        ⟨token, env.currentContractAddress, stream.recipient, recipientPaid,
          .payout id⟩).recordPositive
          ⟨token, env.currentContractAddress, stream.sender, senderRefund,
            .refund id⟩).setTotalSupply
            (((before.totalSupply.getD 0).checkedSub
              (cancelReleased recipientPaid senderRefund)).getD 0)).publish
                (.cancelled id caller senderRefund recipientPaid)) := by
  have stored : book.streams.lookup id = some stream := describes.lookup checks.stored
  have onSchedule := checks.onSchedule (book.wellFormed id stream stored)
  rw [← show book.now = env.ledger.timestamp from describes.now] at onSchedule
  refine matched_single (.close stored checks.notCancelled onSchedule) ?_ rfl
  refine describes_of_rewrite (stream.closed vested)
    (max 0 (vested.val - stream.withdrawn.val)) describes checks.stored rfl rfl rfl rfl rfl
    (by simp) (by simp) (by simp) ?_
  intro other
  have paid := received_recordPositive
    (before.putStream env.ledger id (stream.closed vested))
    ⟨token, env.currentContractAddress, stream.recipient, recipientPaid, .payout id⟩ other
  have refunded := received_recordPositive
    ((before.putStream env.ledger id (stream.closed vested)).recordPositive
      ⟨token, env.currentContractAddress, stream.recipient, recipientPaid, .payout id⟩)
    ⟨token, env.currentContractAddress, stream.sender, senderRefund, .refund id⟩ other
  rw [if_neg (by simp), add_zero, paid] at refunded
  rw [← checks.recipientPaidEq]
  simp only [Purpose.payout.injEq] at refunded
  exact (received_congr (by simp) other).trans refunded

/-- Every call that returns is matched by moves of the book that it stands for. -/
theorem matched_of_effect {reply : Reply Address}
    (describes : book.Describes ⟨env.ledger, before⟩)
    (effect : Effect env before call reply after) : book.Matched env.ledger call after := by
  cases effect with
  | initializeContract fresh => exact matched_initializeContract describes fresh
  | scheduleAdminTransfer isAdmin authorized differs executeAfterEq =>
      exact matched_quiet describes rfl rfl rfl rfl rfl
  | executeAdminTransfer isAdmin pending deadline matured =>
      exact matched_quiet describes rfl rfl rfl (by simp [isAdmin]) rfl
  | cancelAdminTransfer isAdmin authorized pending =>
      exact matched_quiet describes rfl rfl rfl rfl rfl
  | setAdmin isAdmin authorized =>
      exact matched_quiet describes rfl rfl rfl (by simp [isAdmin]) rfl
  | setSupplyCap isAdmin authorized capPos => exact matched_quiet describes rfl rfl rfl rfl rfl
  | createStream checks => exact matched_createStream describes checks
  | createStreamBatch checks => exact matched_createStreamBatch describes checks
  | topUp checks => exact matched_topUp describes checks
  | extendStream checks => exact matched_extendStream describes checks
  | withdraw checks => exact matched_withdraw describes checks
  | cancel checks => exact matched_cancel describes checks
  | query returned => exact matched_quiet describes rfl rfl rfl rfl rfl

end Matching

section Runs

variable {contract : Address}

theorem describes_empty {state : State Address} {ledger : Ledger}
    (uninitialized : state.Uninitialized contract) :
    (Book.empty ledger.timestamp).Describes ⟨ledger, state⟩ := by
  refine ⟨rfl, uninitialized.streams.symm, ?_, ?_, fun _ => uninitialized.streams, ?_⟩
  · simp [uninitialized.counter, Book.empty]
  · intro id
    simp [State.received, uninitialized.transfers, Book.empty]
  · simp [uninitialized.token, uninitialized.admin]

variable [DecidableEq Address] {book : Book Address}
  {source target : System Address} {action : Action Address}

/-- The move of the book comes from the action of the system. -/
def Book.OriginOfAction (book : Book Address) (contract : Address) (source : System Address)
    (action : Action Address) (taken : Transition (Book Address) (Book.Move Address)) : Prop :=
  match action with
  | .advance ledger => taken.label = .tick ledger.timestamp
  | .external _ => False
  | .invoke invocation =>
      book.Origin invocation.call taken ∧
        ∃ reply, (invocation.outcome contract source).1 = .ok reply

theorem matched_of_step (describes : book.Describes source)
    (step : Step contract source action target) :
    ∃ moves next,
      Run Book.Step book moves next ∧ next.Describes target ∧
        ∀ taken ∈ moves, book.OriginOfAction contract source action taken := by
  cases stepEffect_of_step step with
  | advance later laterSequence =>
      have order : book.now.val ≤ _ := describes.now ▸ later
      refine ⟨_, _, .single (.tick order), ?_, ?_⟩
      · exact ⟨rfl, describes.streams, describes.nextId, describes.paid, describes.idle,
          describes.sameKeys⟩
      · intro taken takenMem
        rw [List.mem_singleton] at takenMem
        subst taken
        rfl
  | external noLoss =>
      refine ⟨[], book, .nil, ?_, by simp⟩
      exact ⟨describes.now, describes.streams, describes.nextId, describes.paid, describes.idle,
        describes.sameKeys⟩
  | failed outcome => exact ⟨[], book, .nil, describes, by simp⟩
  | returned outcome effect =>
      rcases matched_of_effect describes effect with ⟨moves, next, run, nextDescribes, origin⟩
      refine ⟨moves, next, run, nextDescribes, ?_⟩
      intro taken takenMem
      exact ⟨origin taken takenMem, _, congrArg Prod.fst outcome⟩

/-- Every history of the contract is a history of the book of streams. -/
theorem History.exists_run {trace : Trace Address} {final : System Address}
    (history : History contract trace final) :
    ∃ now moves book, Run Book.Step (Book.empty now) moves book ∧ book.Describes final := by
  rcases history with ⟨start, uninitialized, run⟩
  rcases run.simulate (fun _ => True) (fun _ => True) (describes_empty uninitialized) (by simp)
    (fun source action target book describes step _ => by
      rcases matched_of_step describes step with ⟨moves, next, matched, nextDescribes, _⟩
      exact ⟨moves, next, matched, nextDescribes, by simp⟩) with
    ⟨moves, book, matched, describes, _⟩
  exact ⟨_, moves, book, matched, describes⟩

/-- Every reachable system is described by a book. -/
theorem Reachable.exists_book {system : System Address} (reachable : Reachable contract system) :
    ∃ book : Book Address, book.Describes system := by
  rcases reachable with ⟨trace, history⟩
  rcases history.exists_run with ⟨_, _, book, _, describes⟩
  exact ⟨book, describes⟩

end Runs

end StreamPay
