import StreamPay.Refinement

/-!
# What a call does to one record

A call changes at most the one stream that it is addressed to, and only in the
way of the entry point.  This file states that for calls and for steps, together
with the facts about stored streams that every reachable system inherits from
the book that describes it.
-/

namespace StreamPay

open Foundation

variable {Address : Type} [DecidableEq Address]

section Reachable

variable {contract : Address} {system : System Address}

theorem Reachable.wellFormed (reachable : Reachable contract system) {id : U64}
    {stream : Stream Address} (stored : system.state.streams.lookup id = some stream) :
    stream.WellFormed system.ledger.timestamp := by
  rcases reachable.exists_book with ⟨book, describes⟩
  rw [← describes.now]
  exact book.wellFormed id stream (describes.lookup stored)

theorem Reachable.mem_iff (reachable : Reachable contract system) (id : U64) :
    id ∈ system.state.streams ↔ id.val < (system.state.counter.getD 0).val := by
  rcases reachable.exists_book with ⟨book, describes⟩
  rw [← describes.streams, ← describes.nextId]
  exact book.stored_iff id

theorem Reachable.lt_counter (reachable : Reachable contract system) {id : U64}
    {stream : Stream Address} (stored : system.state.streams.lookup id = some stream) :
    id.val < (system.state.counter.getD 0).val :=
  (reachable.mem_iff id).mp (Finmap.mem_of_lookup_eq_some stored)

/-- Streams are stored only after the token has been chosen. -/
theorem Reachable.exists_token (reachable : Reachable contract system) {id : U64}
    {stream : Stream Address} (stored : system.state.streams.lookup id = some stream) :
    ∃ token, system.state.token = some token := by
  rcases reachable.exists_book with ⟨book, describes⟩
  rw [← Option.isSome_iff_exists, describes.sameKeys, Option.isSome_iff_ne_none]
  intro noAdmin
  rw [describes.idle noAdmin] at stored
  simp at stored

theorem Reachable.exists_token_of_initialized (reachable : Reachable contract system)
    {admin : Address} (initialized : system.state.admin = some admin) :
    ∃ token, system.state.token = some token := by
  rcases reachable.exists_book with ⟨book, describes⟩
  rw [← Option.isSome_iff_exists, describes.sameKeys, initialized]
  rfl

/-- Before the contract is initialized, no stream is stored. -/
theorem Reachable.lookup_of_uninitialized (reachable : Reachable contract system)
    (uninitialized : system.state.admin = none) (id : U64) :
    system.state.streams.lookup id = none := by
  rcases reachable.exists_book with ⟨book, describes⟩
  rw [describes.idle uninitialized, Finmap.lookup_empty]

/-- A recipient has received what the record says, as long as the stream is not cancelled. -/
theorem Reachable.received_eq (reachable : Reachable contract system) {id : U64}
    {stream : Stream Address} (stored : system.state.streams.lookup id = some stream)
    (notCancelled : stream.status ≠ .cancelled) :
    system.state.received id = stream.withdrawn.val := by
  rcases reachable.exists_book with ⟨book, describes⟩
  rw [← describes.paid]
  exact book.paid_of_open id stream (describes.lookup stored) notCancelled

theorem Reachable.received_of_none (reachable : Reachable contract system) {id : U64}
    (missing : system.state.streams.lookup id = none) : system.state.received id = 0 := by
  rcases reachable.exists_book with ⟨book, describes⟩
  rw [← describes.paid]
  apply book.paid_of_notMem id
  rw [← Finmap.lookup_eq_none, describes.streams]
  exact missing

end Reachable

variable {env : Env Address} {before after : State Address} {call : Call Address}
  {reply : Reply Address} {id : U64} {stream : Stream Address}

/-- What a call can make of the record `stream` stored under `id`. -/
inductive RecordEffect (env : Env Address) (before : State Address) (id : U64)
    (stream : Stream Address) : Call Address → Reply Address → Stream Address → Prop where
  | untouched {call : Call Address} {reply : Reply Address} (elsewhere : call.target ≠ some id) :
      RecordEffect env before id stream call reply stream
  | raised {sender token : Address} {amount newTotal newSupply : I128}
      (checks : TopUpChecks env before id sender amount stream newTotal newSupply token) :
      RecordEffect env before id stream (.topUp id sender amount) (.i128 newTotal)
        (stream.raised newTotal)
  | prolonged {sender : Address} {newEnd : U64}
      (checks : ExtendStreamChecks env before id sender newEnd stream) :
      RecordEffect env before id stream (.extendStream id sender newEnd) .unit
        (stream.prolonged newEnd)
  | paidOut {recipient token : Address} {amount withdrawn : I128}
      (checks : WithdrawChecks env before id recipient amount stream withdrawn token) :
      RecordEffect env before id stream (.withdraw id recipient) (.i128 amount)
        (stream.paidOut withdrawn)
  | closed {caller token : Address} {vested recipientPaid senderRefund : I128}
      (checks :
        CancelChecks env before id caller stream vested recipientPaid senderRefund token) :
      RecordEffect env before id stream (.cancel id caller) .unit (stream.closed vested)

/-- Rewriting one record leaves the others alone. -/
theorem exists_record_of_insert {other : U64} {old new : Stream Address}
    (oldStored : before.streams.lookup other = some old)
    (inserted : after.streams = before.streams.insert other new)
    (target : call.target = some other)
    (changed : other = id → old = stream → RecordEffect env before id stream call reply new)
    (stored : before.streams.lookup id = some stream) :
    ∃ changed, after.streams.lookup id = some changed ∧
      RecordEffect env before id stream call reply changed := by
  rw [inserted]
  apply FiniteMap.exists_lookup_insert oldStored stored changed
  intro different
  apply RecordEffect.untouched
  rw [target, ne_eq, Option.some.injEq]
  exact different

theorem Effect.exists_record (effect : Effect env before call reply after)
    (stored : before.streams.lookup id = some stream)
    (older : id.val < (before.counter.getD 0).val) :
    ∃ changed, after.streams.lookup id = some changed ∧
      RecordEffect env before id stream call reply changed := by
  have notNext : id ≠ before.counter.getD 0 := by
    intro same
    rw [same] at older
    exact lt_irrefl _ older
  cases effect with
  | initializeContract fresh => exact ⟨stream, stored, .untouched (by simp [Call.target])⟩
  | scheduleAdminTransfer isAdmin authorized differs executeAfterEq =>
      exact ⟨stream, stored, .untouched (by simp [Call.target])⟩
  | executeAdminTransfer isAdmin pending deadline matured =>
      exact ⟨stream, stored, .untouched (by simp [Call.target])⟩
  | cancelAdminTransfer isAdmin authorized pending =>
      exact ⟨stream, stored, .untouched (by simp [Call.target])⟩
  | setAdmin isAdmin authorized => exact ⟨stream, stored, .untouched (by simp [Call.target])⟩
  | setSupplyCap isAdmin authorized capPos =>
      exact ⟨stream, stored, .untouched (by simp [Call.target])⟩
  | createStream checks =>
      refine ⟨stream, ?_, .untouched (by simp [Call.target])⟩
      simp only [State.publish_streams, State.touchInstance_streams, State.setTotalSupply_streams,
        State.setCounter_streams, State.putStream_streams, State.recordTransfer_streams]
      rw [Finmap.lookup_insert_of_ne _ notNext]
      exact stored
  | createStreamBatch checks =>
      refine ⟨stream, ?_, .untouched (by simp [Call.target])⟩
      have room : (before.counter.getD 0).val + (_ : List _).length ≤ 2 ^ 64 - 1 :=
        checks.nextCounterEq ▸ (BoundedInt.le_upper _)
      simp only [State.touchInstance_streams, State.setCounter_streams]
      rw [openAll_lookup_of_lt older room]
      exact stored
  | topUp checks =>
      apply exists_record_of_insert checks.stored rfl rfl ?_ stored
      rintro rfl rfl
      exact .raised checks
  | extendStream checks =>
      apply exists_record_of_insert checks.stored rfl rfl ?_ stored
      rintro rfl rfl
      exact .prolonged checks
  | withdraw checks =>
      apply exists_record_of_insert checks.stored rfl rfl ?_ stored
      rintro rfl rfl
      exact .paidOut checks
  | cancel checks =>
      apply exists_record_of_insert checks.stored rfl rfl ?_ stored
      rintro rfl rfl
      exact .closed checks
  | query returned => exact ⟨stream, stored, .untouched (by simp [Call.target])⟩

/-- What no call changes in a record. -/
structure Stream.Continues (older newer : Stream Address) : Prop where
  sender : newer.sender = older.sender
  recipient : newer.recipient = older.recipient
  start : newer.start = older.start
  cancelled : older.status = .cancelled → newer.status = .cancelled

omit [DecidableEq Address] in
theorem Stream.Continues.refl (stream : Stream Address) : stream.Continues stream :=
  ⟨rfl, rfl, rfl, id⟩

theorem RecordEffect.continues {changed : Stream Address}
    (record : RecordEffect env before id stream call reply changed) : stream.Continues changed := by
  cases record with
  | untouched elsewhere => exact .refl stream
  | raised checks => exact ⟨rfl, rfl, rfl, fun cancelled => cancelled⟩
  | prolonged checks => exact ⟨rfl, rfl, rfl, fun cancelled => cancelled⟩
  | paidOut checks =>
      refine ⟨rfl, rfl, rfl, ?_⟩
      intro cancelled
      rw [checks.active] at cancelled
      contradiction
  | closed checks => exact ⟨rfl, rfl, rfl, fun _ => rfl⟩

/-- A stored stream stays stored, under the same parties. -/
theorem Step.exists_continued {contract : Address} {source target : System Address}
    {action : Action Address} (step : Step contract source action target)
    (reachable : Reachable contract source)
    (stored : source.state.streams.lookup id = some stream) :
    ∃ changed, target.state.streams.lookup id = some changed ∧ stream.Continues changed := by
  cases stepEffect_of_step step with
  | advance later laterSequence => exact ⟨stream, stored, .refl stream⟩
  | external noLoss => exact ⟨stream, stored, .refl stream⟩
  | failed outcome => exact ⟨stream, stored, .refl stream⟩
  | returned outcome effect =>
      rcases effect.exists_record stored (reachable.lt_counter stored) with
        ⟨changed, changedStored, record⟩
      exact ⟨changed, changedStored, record.continues⟩

/-- A call that is addressed to a stream returns only when the stream is stored. -/
theorem Effect.exists_stored (effect : Effect env before call reply after)
    (addressed : call.target = some id) : ∃ stream, before.streams.lookup id = some stream := by
  cases effect with
  | topUp checks =>
      cases addressed
      exact ⟨_, checks.stored⟩
  | extendStream checks =>
      cases addressed
      exact ⟨_, checks.stored⟩
  | withdraw checks =>
      cases addressed
      exact ⟨_, checks.stored⟩
  | cancel checks =>
      cases addressed
      exact ⟨_, checks.stored⟩
  | _ => simp [Call.target] at addressed

/-- A record that a call leaves where there was none before is that of an active stream. -/
theorem Effect.opened_active (effect : Effect env before call reply after)
    (missing : before.streams.lookup id = none) (stored : after.streams.lookup id = some stream) :
    stream.status = .active := by
  have elsewhere : call.target ≠ some id := by
    intro addressed
    rcases effect.exists_stored addressed with ⟨older, olderStored⟩
    rw [missing] at olderStored
    contradiction
  have inserted {other : U64} {new : Stream Address}
      (found : (before.streams.insert other new).lookup id = some stream) :
      other = id ∧ new = stream := by
    by_cases same : id = other
    · subst other
      rw [Finmap.lookup_insert, Option.some.injEq] at found
      exact ⟨rfl, found⟩
    · rw [Finmap.lookup_insert_of_ne _ same, missing] at found
      contradiction
  cases effect with
  | createStream checks =>
      rcases inserted stored with ⟨_, rfl⟩
      rfl
  | createStreamBatch checks =>
      simp only [State.touchInstance_streams, State.setCounter_streams, openAll_streams] at stored
      rcases lookup_or_mem_of_storeFrom stored with found | isNew
      · rw [State.recordTransfer_streams, missing] at found
        contradiction
      · rcases List.mem_map.mp isNew with ⟨request, _, rfl⟩
        rfl
  | topUp checks => exact absurd (congrArg some (inserted stored).1) elsewhere
  | extendStream checks => exact absurd (congrArg some (inserted stored).1) elsewhere
  | withdraw checks => exact absurd (congrArg some (inserted stored).1) elsewhere
  | cancel checks => exact absurd (congrArg some (inserted stored).1) elsewhere
  | query returned =>
      rw [missing] at stored
      contradiction
  | _ =>
      have found : before.streams.lookup id = some stream := stored
      rw [missing] at found
      contradiction

/-- The transfers that concern the stream `id` alone. -/
def State.transfersFor (state : State Address) (id : U64) : List (Transfer Address) :=
  state.transfers.filter fun record => record.purpose.stream? = some id

/-- A call that is not addressed to a stream moves nothing on its behalf. -/
theorem Effect.transfersFor_eq (effect : Effect env before call reply after)
    (elsewhere : call.target ≠ some id) : after.transfersFor id = before.transfersFor id := by
  cases effect with
  | createStream checks => simp [State.transfersFor, Purpose.stream?]
  | createStreamBatch checks => simp [State.transfersFor, Purpose.stream?]
  | topUp checks => simpa [State.transfersFor, Purpose.stream?, Call.target] using elsewhere
  | withdraw checks => simpa [State.transfersFor, Purpose.stream?, Call.target] using elsewhere
  | cancel checks =>
      simp only [Call.target, ne_eq, Option.some.injEq] at elsewhere
      simp [State.transfersFor, Purpose.stream?, elsewhere]
  | _ => rfl

omit [DecidableEq Address] in
theorem filter_transfersFor {purpose : Purpose} (concerns : purpose.stream? = some id)
    (state : State Address) :
    (state.transfers.filter fun record => record.purpose = purpose) =
      (state.transfersFor id).filter fun record => record.purpose = purpose := by
  rw [State.transfersFor, List.filter_filter]
  apply List.filter_congr
  intro record _
  by_cases isPurpose : record.purpose = purpose
  · simp [isPurpose, concerns]
  · simp [isPurpose]

omit [DecidableEq Address] in
theorem received_eq_of_transfersFor {first second : State Address}
    (same : first.transfersFor id = second.transfersFor id) :
    first.received id = second.received id := by
  have concerns : (Purpose.payout id).stream? = some id := rfl
  rw [State.received, State.received, filter_transfersFor concerns first,
    filter_transfersFor concerns second, same]

/--
The transfers that a call may make: an authorized sender funds streams, or the
contract pays a party of the stream that the call is addressed to.
-/
inductive TransferEffect (env : Env Address) (before : State Address) (call : Call Address)
    (record : Transfer Address) : Prop where
  | funded (authorized : env.authorized record.source = true)
      (destination : record.destination = env.currentContractAddress)
      (notPayout : ∀ id, record.purpose ≠ .payout id)
  | paid {id : U64} {stream : Stream Address} (target : call.target = some id)
      (stored : before.streams.lookup id = some stream)
      (source : record.source = env.currentContractAddress)
      (destination : record.destination = stream.recipient) (purpose : record.purpose = .payout id)
  | refunded {id : U64} {stream : Stream Address} (target : call.target = some id)
      (stored : before.streams.lookup id = some stream)
      (source : record.source = env.currentContractAddress)
      (destination : record.destination = stream.sender) (purpose : record.purpose = .refund id)

/-- The balances after a list of transfers. -/
def Balances.moveAll (balances : Balances Address) (made : List (Transfer Address)) :
    Balances Address :=
  made.foldl
    (fun moved record =>
      moved.move record.token record.source record.destination record.amount.val)
    balances

/-- The transfers made by a call, in order, and what they do to the balances. -/
structure Transferred (env : Env Address) (before : State Address) (call : Call Address)
    (made : List (Transfer Address)) (after : State Address) : Prop where
  transfers : after.transfers = before.transfers ++ made
  balances : after.balances = before.balances.moveAll made
  nonneg : ∀ record ∈ made, 0 ≤ record.amount.val
  allowed : ∀ record ∈ made, TransferEffect env before call record

omit [DecidableEq Address] in
theorem Env.accepts_nonneg {balances : Balances Address} {record : Transfer Address}
    (accepted : env.accepts balances record = true) : 0 ≤ record.amount.val := by
  rw [Env.accepts, Bool.and_eq_true, decide_eq_true_eq] at accepted
  exact accepted.1

theorem transferred_nothing (transfers : after.transfers = before.transfers)
    (balances : after.balances = before.balances) : Transferred env before call [] after := by
  refine ⟨?_, balances, by simp, by simp⟩
  rw [List.append_nil]
  exact transfers

theorem transferred_single (record : Transfer Address)
    (transfers : after.transfers = before.transfers ++ [record])
    (balances : after.balances =
      before.balances.move record.token record.source record.destination record.amount.val)
    (nonneg : 0 ≤ record.amount.val) (allowed : TransferEffect env before call record) :
    Transferred env before call [record] after := by
  refine ⟨transfers, balances, ?_, ?_⟩
  · intro other otherMem
    rw [List.mem_singleton] at otherMem
    subst other
    exact nonneg
  · intro other otherMem
    rw [List.mem_singleton] at otherMem
    subst other
    exact allowed

/-- A record that is made only when its amount is positive. -/
def Transfer.ifPositive (record : Transfer Address) : List (Transfer Address) :=
  if 0 < record.amount.val then [record] else []

omit [DecidableEq Address] in
theorem Transfer.mem_ifPositive {record other : Transfer Address} :
    other ∈ record.ifPositive ↔ 0 < record.amount.val ∧ other = record := by
  rw [Transfer.ifPositive, List.mem_ite_nil_right, List.mem_singleton]

theorem moveAll_ifPositive {balances : Balances Address} {record : Transfer Address} :
    balances.moveAll record.ifPositive =
      balances.move record.token record.source record.destination (max 0 record.amount.val) := by
  by_cases positive : 0 < record.amount.val
  · rw [Transfer.ifPositive, if_pos positive, max_eq_right positive.le]
    rfl
  · rw [Transfer.ifPositive, if_neg positive, max_eq_left (not_lt.mp positive),
      Balances.move_zero]
    rfl

theorem moveAll_append {balances : Balances Address} {first second : List (Transfer Address)} :
    balances.moveAll (first ++ second) = (balances.moveAll first).moveAll second :=
  List.foldl_append

theorem transferred_twice (first second : Transfer Address)
    (transfers : after.transfers = before.transfers ++ (first.ifPositive ++ second.ifPositive))
    (balances : after.balances =
      (before.balances.move first.token first.source first.destination
        (max 0 first.amount.val)).move second.token second.source second.destination
          (max 0 second.amount.val))
    (firstAllowed : TransferEffect env before call first)
    (secondAllowed : TransferEffect env before call second) :
    Transferred env before call (first.ifPositive ++ second.ifPositive) after := by
  refine ⟨transfers, ?_, ?_, ?_⟩
  · rw [moveAll_append, moveAll_ifPositive, moveAll_ifPositive]
    exact balances
  · intro record recordMem
    rcases List.mem_append.mp recordMem with recordMem | recordMem
    · rcases Transfer.mem_ifPositive.mp recordMem with ⟨positive, rfl⟩
      exact positive.le
    · rcases Transfer.mem_ifPositive.mp recordMem with ⟨positive, rfl⟩
      exact positive.le
  · intro record recordMem
    rcases List.mem_append.mp recordMem with recordMem | recordMem
    · rcases Transfer.mem_ifPositive.mp recordMem with ⟨_, rfl⟩
      exact firstAllowed
    · rcases Transfer.mem_ifPositive.mp recordMem with ⟨_, rfl⟩
      exact secondAllowed

/-- A call that returns makes only transfers that it may make. -/
theorem Effect.exists_transferred (effect : Effect env before call reply after) :
    ∃ made, Transferred env before call made after := by
  cases effect with
  | @createStream sender recipient token totalAmount newSupply startTime endTime next checks =>
      refine ⟨_, transferred_single
        ⟨token, sender, env.currentContractAddress, totalAmount, .funding⟩ (by simp)
        (by funext other holder; simp) (Env.accepts_nonneg checks.accepted)
        (.funded checks.authorized rfl (by simp))⟩
  | @createStreamBatch sender token requests aggregate nextCounter checks =>
      refine ⟨_, transferred_single
        ⟨token, sender, env.currentContractAddress, aggregate, .funding⟩ (by simp)
        (by funext other holder; simp) (Env.accepts_nonneg checks.accepted)
        (.funded checks.authorized rfl (by simp))⟩
  | @topUp id sender token amount newTotal newSupply stream checks =>
      refine ⟨_, transferred_single
        ⟨token, sender, env.currentContractAddress, amount, .topUp id⟩ (by simp)
        (by funext other holder; simp) (Env.accepts_nonneg checks.accepted)
        (.funded checks.authorized rfl (by simp))⟩
  | @withdraw id recipient token amount withdrawn stream checks =>
      refine ⟨_, transferred_single
        ⟨token, env.currentContractAddress, recipient, amount, .payout id⟩ (by simp)
        rfl checks.positive.le (.paid rfl checks.stored rfl checks.isRecipient.symm rfl)⟩
  | @cancel id caller token vested recipientPaid senderRefund stream checks =>
      refine ⟨_, transferred_twice
        ⟨token, env.currentContractAddress, stream.recipient, recipientPaid, .payout id⟩
        ⟨token, env.currentContractAddress, stream.sender, senderRefund, .refund id⟩
        (by simp [Transfer.ifPositive]) rfl (.paid rfl checks.stored rfl rfl rfl)
        (.refunded rfl checks.stored rfl rfl rfl)⟩
  | query returned => exact ⟨[], transferred_nothing rfl rfl⟩
  | _ => exact ⟨[], transferred_nothing (by simp) (by funext other holder; simp)⟩

end StreamPay
