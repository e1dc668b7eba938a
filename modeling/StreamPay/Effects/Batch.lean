import StreamPay.Effects.Streams

/-!
# What a batch creation does

The two loops of `create_stream_batch` run a cursor over the requests.  Both
are described through the requests that the cursor has not reached yet, by
induction on the iterations left: the first loop checks each of them and adds
up their amounts, and the second opens one stream for each of them under
consecutive ids.
-/

namespace StreamPay

open Foundation Foundation.Computation

section Requests

variable {Address : Type}

structure StreamRequest.Valid (now : U64) (request : StreamRequest Address) : Prop where
  amountPos : 1 ≤ request.totalAmount.val
  window : request.startTime.val < request.endTime.val
  endsLater : now.val < request.endTime.val

/-- The sum of the requested amounts. -/
def amountSum (requests : List (StreamRequest Address)) : ℤ :=
  (requests.map fun request => request.totalAmount.val).sum

@[simp]
theorem amountSum_nil : amountSum ([] : List (StreamRequest Address)) = 0 :=
  rfl

@[simp]
theorem amountSum_cons (request : StreamRequest Address) (rest : List (StreamRequest Address)) :
    amountSum (request :: rest) = request.totalAmount.val + amountSum rest := by
  simp [amountSum]

theorem length_le_amountSum {now : U64} {requests : List (StreamRequest Address)}
    (valid : ∀ request ∈ requests, request.Valid now) :
    (requests.length : ℤ) ≤ amountSum requests := by
  induction requests with
  | nil => simp
  | cons request rest ih =>
      have restBound := ih fun other otherMem => valid other (List.mem_cons_of_mem _ otherMem)
      have amountPos := (valid request List.mem_cons_self).amountPos
      simp only [amountSum_cons, List.length_cons]
      omega

/-- The id after `id`, which wraps around at the largest one. -/
def U64.next (id : U64) : U64 :=
  BoundedInt.wrap u64_nonempty (id.val + 1)

theorem U64.next_val {id : U64} (notLast : id.val < 2 ^ 64 - 1) : id.next.val = id.val + 1 := by
  have nonneg := id.lower_le
  exact BoundedInt.wrap_val_of_mem (by omega) (by omega)

/-- The ids of `count` new streams, the first of which is `id`. -/
def idsFrom : U64 → ℕ → List U64
  | _, 0 => []
  | id, count + 1 => id :: idsFrom id.next count

/-- The record that a batch stores for a request. -/
def StreamRequest.toStream (sender : Address) (request : StreamRequest Address) :
    Stream Address :=
  .opened sender request.recipient request.totalAmount request.startTime request.endTime

/-- Stores the records under consecutive ids, the first of which is `id`. -/
def storeFrom (streams : Finmap fun _ : U64 => Stream Address) :
    U64 → List (Stream Address) → Finmap fun _ : U64 => Stream Address
  | _, [] => streams
  | id, stream :: rest => storeFrom (streams.insert id stream) id.next rest

/-- The effects of the second loop on the requests it has not reached yet. -/
def State.openAll (ledger : Ledger) (sender : Address) :
    State Address → U64 → List (StreamRequest Address) → State Address
  | state, _, [] => state
  | state, id, request :: rest =>
      openAll ledger sender
        ((state.putStream ledger id (request.toStream sender)).publish
          (.created id sender request.recipient request.totalAmount))
        id.next rest

section Storing

variable {streams : Finmap fun _ : U64 => Stream Address} {id : U64}

theorem storeFrom_lookup_of_lt {records : List (Stream Address)} {other : U64}
    (older : other.val < id.val) (room : id.val + records.length ≤ 2 ^ 64 - 1) :
    (storeFrom streams id records).lookup other = streams.lookup other := by
  induction records generalizing streams id with
  | nil => rfl
  | cons stream rest ih =>
      rw [List.length_cons] at room
      push_cast at room
      have nextVal : id.next.val = id.val + 1 := U64.next_val (by omega)
      have different : other ≠ id := by
        rintro rfl
        exact lt_irrefl _ older
      rw [storeFrom, ih (by omega) (by omega), Finmap.lookup_insert_of_ne _ different]

/-- A record found after storing was there before, or is one of the new ones. -/
theorem lookup_or_mem_of_storeFrom {records : List (Stream Address)} {other : U64}
    {stream : Stream Address}
    (stored : (storeFrom streams id records).lookup other = some stream) :
    streams.lookup other = some stream ∨ stream ∈ records := by
  induction records generalizing streams id with
  | nil => exact .inl stored
  | cons first rest ih =>
      rcases ih stored with found | restMem
      · by_cases same : other = id
        · subst other
          rw [Finmap.lookup_insert, Option.some.injEq] at found
          exact .inr (List.mem_cons.mpr (.inl found.symm))
        · rw [Finmap.lookup_insert_of_ne _ same] at found
          exact .inl found
      · exact .inr (List.mem_cons_of_mem _ restMem)

end Storing

section OpenAll

variable {ledger : Ledger} {sender : Address} {state : State Address} {id : U64}
  {requests : List (StreamRequest Address)}

/-- The second loop changes nothing but the stored streams and the events. -/
theorem openAll_frame {Result : Type} (read : State Address → Result)
    (ofPutStream : ∀ state id stream, read (state.putStream ledger id stream) = read state)
    (ofPublish : ∀ state event, read (state.publish event) = read state) :
    read (state.openAll ledger sender id requests) = read state := by
  induction requests generalizing state id with
  | nil => rfl
  | cons request rest ih => rw [State.openAll, ih, ofPublish, ofPutStream]

@[simp]
theorem openAll_admin : (state.openAll ledger sender id requests).admin = state.admin :=
  openAll_frame State.admin (fun _ _ _ => rfl) (fun _ _ => rfl)

@[simp]
theorem openAll_token : (state.openAll ledger sender id requests).token = state.token :=
  openAll_frame State.token (fun _ _ _ => rfl) (fun _ _ => rfl)

@[simp]
theorem openAll_pendingAdmin :
    (state.openAll ledger sender id requests).pendingAdmin = state.pendingAdmin :=
  openAll_frame State.pendingAdmin (fun _ _ _ => rfl) (fun _ _ => rfl)

@[simp]
theorem openAll_adminActionExecuteAfter :
    (state.openAll ledger sender id requests).adminActionExecuteAfter =
      state.adminActionExecuteAfter :=
  openAll_frame State.adminActionExecuteAfter (fun _ _ _ => rfl) (fun _ _ => rfl)

@[simp]
theorem openAll_totalSupply :
    (state.openAll ledger sender id requests).totalSupply = state.totalSupply :=
  openAll_frame State.totalSupply (fun _ _ _ => rfl) (fun _ _ => rfl)

@[simp]
theorem openAll_supplyCap :
    (state.openAll ledger sender id requests).supplyCap = state.supplyCap :=
  openAll_frame State.supplyCap (fun _ _ _ => rfl) (fun _ _ => rfl)

@[simp]
theorem openAll_balances :
    (state.openAll ledger sender id requests).balances = state.balances :=
  openAll_frame State.balances (fun _ _ _ => rfl) (fun _ _ => rfl)

@[simp]
theorem openAll_transfers :
    (state.openAll ledger sender id requests).transfers = state.transfers :=
  openAll_frame State.transfers (fun _ _ _ => rfl) (fun _ _ => rfl)

@[simp]
theorem openAll_instanceLiveUntil :
    (state.openAll ledger sender id requests).instanceLiveUntil = state.instanceLiveUntil :=
  openAll_frame State.instanceLiveUntil (fun _ _ _ => rfl) (fun _ _ => rfl)

@[simp]
theorem openAll_wasmHash : (state.openAll ledger sender id requests).wasmHash = state.wasmHash :=
  openAll_frame State.wasmHash (fun _ _ _ => rfl) (fun _ _ => rfl)

theorem openAll_streams {ledger : Ledger} {state : State Address} {id : U64}
    {rest : List (StreamRequest Address)} :
    (state.openAll ledger sender id rest).streams =
      storeFrom state.streams id (rest.map (StreamRequest.toStream sender)) := by
  induction rest generalizing state id with
  | nil => rfl
  | cons request rest ih =>
      rw [State.openAll, ih]
      rfl

/-- Streams with an id below the first new one are left alone. -/
theorem openAll_lookup_of_lt {other : U64} (older : other.val < id.val)
    (room : id.val + requests.length ≤ 2 ^ 64 - 1) :
    (state.openAll ledger sender id requests).streams.lookup other =
      state.streams.lookup other := by
  rw [openAll_streams]
  apply storeFrom_lookup_of_lt older
  rwa [List.length_map]

end OpenAll

end Requests

section Loops

variable {Item : Type} {items : HostVec Item} {index : U32} {item : Item} {rest : List Item}

theorem not_lt_len_of_drop_eq_nil (remaining : items.toList.drop index.val.toNat = []) :
    ¬index < items.len := by
  have lengthLe := List.drop_eq_nil_iff.mp remaining
  have nonneg := index.lower_le
  rw [BoundedInt.lt_iff]
  rw [HostVec.len_val]
  omega

theorem lt_len_of_drop_eq_cons (remaining : items.toList.drop index.val.toNat = item :: rest) :
    index < items.len := by
  have lengthEq := congrArg List.length remaining
  rw [List.length_drop, List.length_cons] at lengthEq
  have nonneg := index.lower_le
  rw [BoundedInt.lt_iff]
  rw [HostVec.len_val]
  omega

theorem get_of_drop_eq_cons (remaining : items.toList.drop index.val.toNat = item :: rest) :
    items.get index = some item := by
  have headEq := congrArg List.head? remaining
  rwa [List.head?_drop, List.head?_cons] at headEq

/-- The cursor can always be moved past an item that it has reached. -/
theorem exists_next_cursor (remaining : items.toList.drop index.val.toNat = item :: rest) :
    ∃ next, index.checkedAdd 1 = some next ∧ next.val = index.val + 1 ∧
      items.toList.drop next.val.toNat = rest := by
  have inRange : index.val < (items.toList.length : ℤ) := lt_len_of_drop_eq_cons remaining
  have lengthLe := items.length_le
  have nonneg := index.lower_le
  have defined : ∃ next, index.checkedAdd 1 = some next := by
    apply BoundedInt.exists_checkedAdd
    · rw [u32_one_val]
      omega
    · rw [u32_one_val]
      omega
  rcases defined with ⟨next, nextEq⟩
  have nextVal : next.val = index.val + 1 := BoundedInt.checkedAdd_eq_some_iff.mp nextEq
  refine ⟨next, nextEq, nextVal, ?_⟩
  have tailEq := congrArg List.tail remaining
  rw [List.tail_drop, List.tail_cons] at tailEq
  rw [← tailEq, nextVal]
  congr 1
  omega

end Loops

variable {Address : Type} {env : Env Address} {before after : State Address}
  {requests : HostVec (StreamRequest Address)} {rest : List (StreamRequest Address)}
  {fuel : ℕ} {index : U32}

theorem validateRequests_eq_ok_iff {now : U64} {aggregate total : I128}
    (remaining : requests.toList.drop index.val.toNat = rest) (enough : rest.length ≤ fuel) :
    validateRequests requests now fuel index aggregate before = .ok total after ↔
      (∀ request ∈ rest, request.Valid now) ∧
        total.val = aggregate.val + amountSum rest ∧ after = before := by
  induction fuel generalizing index aggregate rest with
  | zero =>
      have restEq : rest = [] := List.eq_nil_of_length_eq_zero (by omega)
      subst rest
      simp [validateRequests, pure_eq_ok_iff, BoundedInt.eq_iff, restEq]
  | succ fuel ih =>
      cases rest with
      | nil =>
          simp [validateRequests, not_lt_len_of_drop_eq_nil remaining, pure_eq_ok_iff,
            BoundedInt.eq_iff]
      | cons request rest =>
          rcases exists_next_cursor remaining with ⟨next, nextEq, _, nextRemaining⟩
          have enoughRest : rest.length ≤ fuel := by simpa using enough
          rw [validateRequests, if_pos (lt_len_of_drop_eq_cons remaining)]
          simp only [bind_eq_ok_iff, liftM_eq_ok_iff, orTrap_eq_ok_iff, okOr_eq_ok_iff,
            failIf_eq_ok_iff, get_of_drop_eq_cons remaining, nextEq, Option.some.injEq,
            BoundedInt.checkedAdd_eq_some_iff, and_assoc, exists_and_left, exists_eq_left',
            exists_eq_left, exists_const, ih nextRemaining enoughRest, Bool.not_eq_false,
            isValidAmount_iff, BoundedInt.lt_iff, BoundedInt.le_iff, not_lt, not_le,
            minStreamAmount, i128_one_val, List.forall_mem_cons, amountSum_cons]
          constructor
          · rintro ⟨amountPos, _, window, endsLater, partialSum, partialEq, restValid, totalEq, rfl⟩
            refine ⟨⟨amountPos, window, endsLater⟩, restValid, ?_, rfl⟩
            omega
          · rintro ⟨valid, restValid, totalEq, rfl⟩
            have restBound := length_le_amountSum restValid
            have amountPos := valid.amountPos
            have totalUpper := total.le_upper
            have aggregateLower := aggregate.lower_le
            refine ⟨amountPos, amountPos, valid.window, valid.endsLater,
              ⟨aggregate.val + request.totalAmount.val, by omega, by omega⟩, rfl, restValid, ?_,
              rfl⟩
            show total.val = aggregate.val + request.totalAmount.val + amountSum rest
            omega

/-- One round of the second loop: where its cursor and its id stand afterwards. -/
theorem exists_next_round {firstId id : U64} {request : StreamRequest Address}
    (remaining : requests.toList.drop index.val.toNat = request :: rest)
    (idEq : id.val = firstId.val + index.val)
    (fits : id.val + (request :: rest).length ≤ 2 ^ 64 - 1) :
    ∃ next, index.checkedAdd 1 = some next ∧ firstId.checkedAdd (U32.toU64 index) = some id ∧
      requests.toList.drop next.val.toNat = rest ∧ id.next.val = firstId.val + next.val ∧
        id.next.val + rest.length ≤ 2 ^ 64 - 1 := by
  rcases exists_next_cursor remaining with ⟨next, nextEq, nextVal, nextRemaining⟩
  have restFits : id.val + (rest.length + 1) ≤ 2 ^ 64 - 1 := by simpa using fits
  have nextIdVal : id.next.val = id.val + 1 := U64.next_val (by omega)
  have idOf : firstId.checkedAdd (U32.toU64 index) = some id :=
    BoundedInt.checkedAdd_eq_some_iff.mpr idEq
  exact ⟨next, nextEq, idOf, nextRemaining, by omega, by omega⟩

theorem createRequests_eq_ok_iff {sender : Address} {firstId id : U64} {ids returned : List U64}
    (remaining : requests.toList.drop index.val.toNat = rest) (enough : rest.length ≤ fuel)
    (idEq : id.val = firstId.val + index.val)
    (fits : id.val + rest.length ≤ 2 ^ 64 - 1) :
    createRequests env sender requests firstId fuel index ids before = .ok returned after ↔
      returned = ids ++ idsFrom id rest.length ∧
        after = before.openAll env.ledger sender id rest := by
  induction fuel generalizing index id ids rest before with
  | zero =>
      have restEq : rest = [] := List.eq_nil_of_length_eq_zero (by omega)
      subst rest
      simp [createRequests, pure_eq_ok_iff, restEq, idsFrom, State.openAll]
  | succ fuel ih =>
      cases rest with
      | nil =>
          simp [createRequests, not_lt_len_of_drop_eq_nil remaining, pure_eq_ok_iff, idsFrom,
            State.openAll]
      | cons request rest =>
          rcases exists_next_round remaining idEq fits with
            ⟨next, nextEq, idOf, nextRemaining, nextIdEq, nextFits⟩
          have enoughRest : rest.length ≤ fuel := by simpa using enough
          rw [createRequests, if_pos (lt_len_of_drop_eq_cons remaining)]
          simp only [writeStream, streamCreated, publish, bind_eq_ok_iff, liftM_eq_ok_iff,
            orTrap_eq_ok_iff, modify_eq_ok_iff, get_of_drop_eq_cons remaining, nextEq, idOf,
            Option.some.injEq, and_assoc, exists_and_left, exists_eq_left', exists_eq_left,
            exists_const, ih nextRemaining enoughRest nextIdEq nextFits, List.length_cons,
            idsFrom, State.openAll, List.append_assoc, List.singleton_append]
          rfl

/-- The first loop, started at the first request. -/
theorem validateRequests_start_eq_ok_iff {now : U64} {total : I128} :
    validateRequests requests now requests.toList.length 0 0 before = .ok total after ↔
      (∀ request ∈ requests.toList, request.Valid now) ∧
        total.val = amountSum requests.toList ∧ after = before := by
  have remaining : requests.toList.drop (0 : U32).val.toNat = requests.toList := rfl
  rw [validateRequests_eq_ok_iff remaining le_rfl, i128_zero_val, zero_add]

/-- The second loop, started at the first request. -/
theorem createRequests_start_eq_ok_iff {sender : Address} {firstId : U64} {returned : List U64}
    (fits : firstId.val + requests.toList.length ≤ 2 ^ 64 - 1) :
    createRequests env sender requests firstId requests.toList.length 0 [] before =
        .ok returned after ↔
      returned = idsFrom firstId requests.toList.length ∧
        after = before.openAll env.ledger sender firstId requests.toList := by
  have remaining : requests.toList.drop (0 : U32).val.toNat = requests.toList := rfl
  have idEq : firstId.val = firstId.val + (0 : U32).val := by
    rw [u32_zero_val, add_zero]
  rw [createRequests_eq_ok_iff remaining le_rfl idEq fits, List.nil_append]

structure CreateBatchChecks (env : Env Address) (state : State Address) (sender : Address)
    (requests : HostVec (StreamRequest Address)) (aggregate : I128) (token : Address)
    (nextCounter : U64) : Prop where
  initialized : ∃ admin, state.admin = some admin
  authorized : env.authorized sender = true
  nonempty : requests.toList ≠ []
  valid : ∀ request ∈ requests.toList, request.Valid env.ledger.timestamp
  aggregateEq : aggregate.val = amountSum requests.toList
  tokenSet : state.token = some token
  accepted :
    env.accepts state.balances
      ⟨token, sender, env.currentContractAddress, aggregate, .funding⟩ = true
  nextCounterEq : nextCounter.val = (state.counter.getD 0).val + requests.toList.length

theorem createStreamBatch_eq_ok_iff [DecidableEq Address] {sender : Address} {ids : List U64} :
    createStreamBatch env sender requests before = .ok ids after ↔
      ∃ aggregate token nextCounter,
        CreateBatchChecks env before sender requests aggregate token nextCounter ∧
          ids = idsFrom (before.counter.getD 0) requests.toList.length ∧
            after =
              (((before.recordTransfer
                ⟨token, sender, env.currentContractAddress, aggregate, .funding⟩).openAll
                  env.ledger sender (before.counter.getD 0) requests.toList).setCounter
                    nextCounter).touchInstance env.ledger := by
  simp only [createStreamBatch, readCounter, writeCounter, extendInstance, bind_eq_ok_iff,
    requireInitialized_eq_ok_iff, requireAuth_eq_ok_iff, failIf_eq_ok_iff,
    validateRequests_start_eq_ok_iff, liftM_eq_ok_iff, okOr_eq_ok_iff, readState_eq_ok_iff,
    readToken_eq_ok_iff, transfer_eq_ok_iff, modify_eq_ok_iff, pure_eq_ok_iff, and_assoc,
    exists_and_left, exists_eq_left, exists_const, BoundedInt.checkedAdd_eq_some_iff,
    U32.toU64_val]
  constructor
  · rintro ⟨initialized, authorized, nonempty, valid, aggregate, aggregateEq, nextCounter,
      nextCounterEq, token, tokenSet, accepted, created, middle, createdEq, rfl, rfl⟩
    have fits : (before.counter.getD 0).val + requests.toList.length ≤ 2 ^ 64 - 1 := by
      rw [HostVec.len_val] at nextCounterEq
      rw [← nextCounterEq]
      exact nextCounter.le_upper
    rcases (createRequests_start_eq_ok_iff fits).mp createdEq with ⟨idsEq, rfl⟩
    exact ⟨aggregate, token, nextCounter, ⟨initialized, authorized, nonempty, valid, aggregateEq,
      tokenSet, accepted, nextCounterEq⟩, idsEq, rfl⟩
  · rintro ⟨aggregate, token, nextCounter, checks, rfl, rfl⟩
    have fits : (before.counter.getD 0).val + requests.toList.length ≤ 2 ^ 64 - 1 := by
      rw [← checks.nextCounterEq]
      exact nextCounter.le_upper
    refine ⟨checks.initialized, checks.authorized, checks.nonempty, checks.valid, aggregate,
      checks.aggregateEq, nextCounter, checks.nextCounterEq, token, checks.tokenSet,
      checks.accepted, _, _, (createRequests_start_eq_ok_iff fits).mpr ⟨rfl, rfl⟩, rfl, rfl⟩

end StreamPay
