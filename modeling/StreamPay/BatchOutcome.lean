import StreamPay.Batches

/-!
# All or nothing

A batch is checked request by request before anything is done, and what is done
afterwards cannot fail.  This file says exactly when a batch succeeds, what it does
when it succeeds, and that otherwise it reports the first request that was wrong
and leaves everything as it was.

Each round of the first loop either accepts a request and adds its amount, or
rejects it and ends the call.  The second loop is described through the positions
in the list: the record of a request and its event are found at the id that is
returned for it.
-/

namespace StreamPay

open Foundation Foundation.Computation

variable {Address : Type}

section Requests

variable {now : U64} {request : StreamRequest Address} {requests : List (StreamRequest Address)}

/-- Why a request is rejected when the requests before it ask for `aggregate` in total. -/
def StreamRequest.rejection (now : U64) (aggregate : ℤ) (request : StreamRequest Address) :
    Option Error :=
  if request.totalAmount.val < 1 then
    some .invalidAmount
  else if request.endTime.val ≤ request.startTime.val then
    some .invalidTimeRange
  else if request.endTime.val ≤ now.val then
    some .endTimeInPast
  else if 2 ^ 127 - 1 < aggregate + request.totalAmount.val then
    some .overflow
  else
    none

/-- Every sum of the first few amounts is in range. -/
def PrefixSumsFit (requests : List (StreamRequest Address)) : Prop :=
  ∀ earlier, earlier <+: requests →
    -2 ^ 127 ≤ amountSum earlier ∧ amountSum earlier ≤ 2 ^ 127 - 1

/-- The first request that is invalid or takes the sum out of range is wrong for this reason. -/
def FirstRejected (now : U64) (requests : List (StreamRequest Address)) (error : Error) : Prop :=
  ∃ earlier request later, requests = earlier ++ request :: later ∧
    (∀ other ∈ earlier, other.Valid now) ∧ PrefixSumsFit earlier ∧
      request.rejection now (amountSum earlier) = some error

theorem amountSum_append {later : List (StreamRequest Address)} :
    amountSum (requests ++ later) = amountSum requests + amountSum later := by
  simp [amountSum]

theorem rejection_eq_none_iff {aggregate : ℤ} :
    request.rejection now aggregate = none ↔
      request.Valid now ∧ aggregate + request.totalAmount.val ≤ 2 ^ 127 - 1 := by
  unfold StreamRequest.rejection
  constructor
  · intro accepted
    split at accepted
    · contradiction
    split at accepted
    · contradiction
    split at accepted
    · contradiction
    split at accepted
    · contradiction
    exact ⟨⟨by omega, by omega, by omega⟩, by omega⟩
  · rintro ⟨valid, fits⟩
    have amountPos := valid.amountPos
    have window := valid.window
    have endsLater := valid.endsLater
    rw [if_neg (by omega), if_neg (by omega), if_neg (by omega), if_neg (by omega)]

/-- Sums of valid amounts grow, so the whole sum decides. -/
theorem prefixSumsFit_iff (valid : ∀ request ∈ requests, request.Valid now) :
    PrefixSumsFit requests ↔ amountSum requests ≤ 2 ^ 127 - 1 := by
  constructor
  · intro fits
    exact (fits requests List.prefix_rfl).2
  · rintro fits earlier ⟨later, rfl⟩
    have earlierBound := length_le_amountSum fun request requestMem =>
      valid request (List.mem_append_left _ requestMem)
    have laterBound := length_le_amountSum fun request requestMem =>
      valid request (List.mem_append_right _ requestMem)
    rw [amountSum_append] at fits
    constructor
    · omega
    · omega

theorem FirstRejected.append {error : Error} (rejected : FirstRejected now requests error)
    (more : List (StreamRequest Address)) : FirstRejected now (requests ++ more) error := by
  rcases rejected with ⟨earlier, request, later, rfl, valid, fits, reason⟩
  refine ⟨earlier, request, later ++ more, ?_, valid, fits, reason⟩
  rw [List.append_assoc, List.cons_append]

/-- Reading the requests in order, one meets a reason to stop or accepts them all. -/
theorem exists_firstRejected
    (notAll : ¬((∀ request ∈ requests, request.Valid now) ∧ PrefixSumsFit requests)) :
    ∃ error, FirstRejected now requests error := by
  induction requests using List.reverseRecOn with
  | nil =>
      have noneInvalid : ∀ request ∈ ([] : List (StreamRequest Address)), request.Valid now := by
        simp
      exact absurd ⟨noneInvalid, (prefixSumsFit_iff noneInvalid).mpr (by simp)⟩ notAll
  | append_singleton requests request ih =>
      by_cases earlierFit :
          (∀ request ∈ requests, request.Valid now) ∧ PrefixSumsFit requests
      · cases reason : request.rejection now (amountSum requests) with
        | some error =>
            exact ⟨error, requests, request, [], rfl, earlierFit.1, earlierFit.2, reason⟩
        | none =>
            rcases rejection_eq_none_iff.mp reason with ⟨valid, fits⟩
            have allValid : ∀ other ∈ requests ++ [request], other.Valid now := by
              rw [List.forall_mem_append, List.forall_mem_singleton]
              exact ⟨earlierFit.1, valid⟩
            refine absurd ⟨allValid, ?_⟩ notAll
            rw [prefixSumsFit_iff allValid, amountSum_append]
            simpa using fits
      · rcases ih earlierFit with ⟨error, rejected⟩
        exact ⟨error, rejected.append [request]⟩

end Requests

section Validation

variable {now : U64} {requests : HostVec (StreamRequest Address)} {index : U32} {fuel : ℕ}
  {aggregate : I128} {request : StreamRequest Address} {rest : List (StreamRequest Address)}
  {before : State Address} {error : Error}

/-- Every round starts with its request. -/
theorem validateRequests_round
    (remaining : requests.toList.drop index.val.toNat = request :: rest) :
    validateRequests requests now (fuel + 1) index aggregate before =
      (do
        failIf (isValidAmount request.totalAmount = false) .invalidAmount
        failIf (request.totalAmount < minStreamAmount) .amountBelowMinimum
        failIf (request.endTime ≤ request.startTime) .invalidTimeRange
        failIf (request.endTime ≤ now) .endTimeInPast
        let aggregateAmount ←
          (liftM (okOr (aggregate.checkedAdd request.totalAmount) .overflow) :
            Contract Address I128)
        let index ← (liftM (orTrap (index.checkedAdd 1) .arithmetic) : Contract Address U32)
        validateRequests requests now fuel index aggregateAmount) before := by
  have found : (liftM (orTrap (requests.get index) .unwrapNone) :
      Contract Address (StreamRequest Address)) before = .ok request before :=
    liftM_eq_ok_iff.mpr ⟨orTrap_eq_ok_iff.mpr (get_of_drop_eq_cons remaining), rfl⟩
  rw [validateRequests, if_pos (lt_len_of_drop_eq_cons remaining), bind_of_ok found]

/-- A round that accepts its request adds the amount and goes on. -/
theorem exists_accepting_round
    (remaining : requests.toList.drop index.val.toNat = request :: rest)
    (accepted : request.rejection now aggregate.val = none) :
    ∃ (next : U32) (sum : I128), requests.toList.drop next.val.toNat = rest ∧
      sum.val = aggregate.val + request.totalAmount.val ∧
        validateRequests requests now (fuel + 1) index aggregate before =
          validateRequests requests now fuel next sum before := by
  rcases rejection_eq_none_iff.mp accepted with ⟨valid, fits⟩
  rcases exists_next_cursor remaining with ⟨next, nextEq, _, nextRemaining⟩
  have amountPos := valid.amountPos
  have aggregateLower := aggregate.lower_le
  let sum : I128 := ⟨aggregate.val + request.totalAmount.val, by omega, fits⟩
  have sumEq : aggregate.checkedAdd request.totalAmount = some sum :=
    BoundedInt.checkedAdd_eq_some_iff.mpr rfl
  have validAmount : ¬isValidAmount request.totalAmount = false := by
    rw [Bool.not_eq_false, isValidAmount_iff]
    exact amountPos
  have notBelow : ¬request.totalAmount < minStreamAmount := not_lt.mpr amountPos
  have window : ¬request.endTime ≤ request.startTime := not_le.mpr valid.window
  have endsLater : ¬request.endTime ≤ now := not_le.mpr valid.endsLater
  refine ⟨next, sum, nextRemaining, rfl, ?_⟩
  rw [validateRequests_round remaining, bind_of_ok (failIf_of_not validAmount),
    bind_of_ok (failIf_of_not notBelow), bind_of_ok (failIf_of_not window),
    bind_of_ok (failIf_of_not endsLater), sumEq, nextEq]
  rfl

/-- A round that rejects its request ends the loop. -/
theorem validateRequests_of_rejection
    (remaining : requests.toList.drop index.val.toNat = request :: rest)
    (rejected : request.rejection now aggregate.val = some error) :
    validateRequests requests now (fuel + 1) index aggregate before =
      .error (.error error) before := by
  rw [validateRequests_round remaining]
  unfold StreamRequest.rejection at rejected
  split at rejected
  case isTrue tooSmall =>
      cases rejected
      have invalid : isValidAmount request.totalAmount = false := by
        rw [← Bool.not_eq_true, isValidAmount_iff]
        omega
      exact bind_of_error (failIf_of invalid)
  case isFalse amountPos =>
      have validAmount : ¬isValidAmount request.totalAmount = false := by
        rw [Bool.not_eq_false, isValidAmount_iff]
        omega
      have notBelow : ¬request.totalAmount < minStreamAmount := amountPos
      rw [bind_of_ok (failIf_of_not validAmount), bind_of_ok (failIf_of_not notBelow)]
      split at rejected
      case isTrue backwards =>
          cases rejected
          exact bind_of_error (failIf_of backwards)
      case isFalse window =>
          have forwards : ¬request.endTime ≤ request.startTime := window
          rw [bind_of_ok (failIf_of_not forwards)]
          split at rejected
          case isTrue past =>
              cases rejected
              exact bind_of_error (failIf_of past)
          case isFalse notPast =>
              have endsLater : ¬request.endTime ≤ now := notPast
              rw [bind_of_ok (failIf_of_not endsLater)]
              split at rejected
              case isTrue tooLarge =>
                  cases rejected
                  have noSum : aggregate.checkedAdd request.totalAmount = none :=
                    BoundedInt.checkedAdd_eq_none_iff.mpr (.inr tooLarge)
                  rw [noSum]
                  rfl
              case isFalse => contradiction

/-- The loop accepts the requests before the first wrong one, and reports that one. -/
theorem validateRequests_of_firstRejected {earlier later : List (StreamRequest Address)}
    (remaining : requests.toList.drop index.val.toNat = earlier ++ request :: later)
    (enough : (earlier ++ request :: later).length ≤ fuel)
    (valid : ∀ other ∈ earlier, other.Valid now)
    (fits : aggregate.val + amountSum earlier ≤ 2 ^ 127 - 1)
    (rejected : request.rejection now (aggregate.val + amountSum earlier) = some error) :
    validateRequests requests now fuel index aggregate before = .error (.error error) before := by
  induction earlier generalizing fuel index aggregate with
  | nil =>
      cases fuel with
      | zero => simp at enough
      | succ fuel =>
          apply validateRequests_of_rejection remaining
          simpa using rejected
  | cons first earlier ih =>
      cases fuel with
      | zero => simp at enough
      | succ fuel =>
          have restValid : ∀ other ∈ earlier, other.Valid now := fun other otherMem =>
            valid other (List.mem_cons_of_mem _ otherMem)
          have restBound := length_le_amountSum restValid
          rw [amountSum_cons] at fits rejected
          have accepted : first.rejection now aggregate.val = none :=
            rejection_eq_none_iff.mpr ⟨valid first List.mem_cons_self, by omega⟩
          rcases exists_accepting_round remaining accepted with
            ⟨next, sum, nextRemaining, sumEq, round⟩
          rw [round]
          apply ih nextRemaining (by simpa using enough) restValid
          · omega
          · rwa [sumEq, add_assoc]

end Validation

section Positions

variable {streams : Finmap fun _ : U64 => Stream Address} {id other : U64} {count : ℕ}
  {records : List (Stream Address)} {sender : Address}

theorem idsFrom_val (room : id.val + count ≤ 2 ^ 64 - 1) :
    (idsFrom id count).map BoundedInt.val = (List.range count).map fun position : ℕ =>
      id.val + (position : ℤ) := by
  induction count generalizing id with
  | zero => rfl
  | succ count ih =>
      push_cast at room
      have nextVal : id.next.val = id.val + 1 := U64.next_val (by omega)
      rw [idsFrom, List.map_cons, ih (by omega), List.range_succ_eq_map, List.map_cons,
        List.map_map, nextVal]
      congr 1
      · simp
      · apply List.map_congr_left
        intro position _
        simp only [Function.comp_apply, Nat.succ_eq_add_one]
        push_cast
        omega

theorem le_of_mem_idsFrom (room : id.val + count ≤ 2 ^ 64 - 1) (mem : other ∈ idsFrom id count) :
    id.val ≤ other.val := by
  have valMem := List.mem_map_of_mem (f := BoundedInt.val) mem
  rw [idsFrom_val room] at valMem
  rcases List.mem_map.mp valMem with ⟨position, _, positionEq⟩
  omega

/-- The record at a position is stored under the id at that position. -/
theorem storeFrom_lookup_getElem (streams : Finmap fun _ : U64 => Stream Address)
    (room : id.val + records.length ≤ 2 ^ 64 - 1) {position : ℕ} {stream : Stream Address}
    (found : records[position]? = some stream) :
    ∃ newId, (idsFrom id records.length)[position]? = some newId ∧
      (storeFrom streams id records).lookup newId = some stream := by
  induction records generalizing streams id position with
  | nil => simp at found
  | cons first rest ih =>
      rw [List.length_cons] at room
      push_cast at room
      have nextVal : id.next.val = id.val + 1 := U64.next_val (by omega)
      cases position with
      | zero =>
          rw [List.getElem?_cons_zero, Option.some.injEq] at found
          subst first
          refine ⟨id, rfl, ?_⟩
          rw [storeFrom, storeFrom_lookup_of_lt (by omega) (by omega), Finmap.lookup_insert]
      | succ position =>
          rw [List.getElem?_cons_succ] at found
          exact ih _ (by omega) found

/-- Nothing changes under the other ids. -/
theorem storeFrom_lookup_of_notMem (notMem : other ∉ idsFrom id records.length) :
    (storeFrom streams id records).lookup other = streams.lookup other := by
  induction records generalizing streams id with
  | nil => rfl
  | cons stream rest ih =>
      rw [List.length_cons, idsFrom, List.mem_cons, not_or] at notMem
      rw [storeFrom, ih notMem.2, Finmap.lookup_insert_of_ne _ notMem.1]

theorem createdFrom_eq_zipWith {requests : List (StreamRequest Address)} :
    createdFrom sender id requests =
      List.zipWith
        (fun id request => Event.created id sender request.recipient request.totalAmount)
        (idsFrom id requests.length) requests := by
  induction requests generalizing id with
  | nil => rfl
  | cons request rest ih =>
      rw [createdFrom, ih]
      rfl

end Positions

/-- What a batch has to meet apart from the transfer and the ids. -/
def RequestsFit (env : Env Address) (requests : HostVec (StreamRequest Address)) : Prop :=
  (∀ request ∈ requests.toList, request.Valid env.ledger.timestamp) ∧
    PrefixSumsFit requests.toList

/-- The token accepts the transfer of the requested sum. -/
def SumAccepted (env : Env Address) (state : State Address) (sender : Address)
    (requests : HostVec (StreamRequest Address)) : Prop :=
  ∃ (token : Address) (aggregate : I128), state.token = some token ∧
    aggregate.val = amountSum requests.toList ∧
      env.accepts state.balances
        ⟨token, sender, env.currentContractAddress, aggregate, .funding⟩ = true

/-- There is an id for each of the requests. -/
def IdsSuffice (state : State Address) (requests : HostVec (StreamRequest Address)) : Prop :=
  (state.counter.getD 0).val + requests.toList.length ≤ 2 ^ 64 - 1

/-- What a successful batch leaves behind. -/
structure BatchCreated [DecidableEq Address] (env : Env Address) (sender : Address)
    (requests : List (StreamRequest Address)) (before : State Address) (ids : List U64)
    (after : State Address) : Prop where
  idsEq : ids.map BoundedInt.val =
    (List.range requests.length).map fun position : ℕ =>
      (before.counter.getD 0).val + (position : ℤ)
  stored : ∀ (position : ℕ) request, requests[position]? = some request →
    ∃ id, ids[position]? = some id ∧
      after.streams.lookup id =
        some (.opened sender request.recipient request.totalAmount request.startTime
          request.endTime)
  others : ∀ other, other ∉ ids → after.streams.lookup other = before.streams.lookup other
  earlier : ∀ other stream, before.streams.lookup other = some stream →
    after.streams.lookup other = some stream
  counter : ∃ next, after.counter = some next ∧
    next.val = (before.counter.getD 0).val + requests.length
  transfer : ∃ (token : Address) (aggregate : I128), before.token = some token ∧
    aggregate.val = amountSum requests ∧
      after.transfers = before.transfers ++
        [⟨token, sender, env.currentContractAddress, aggregate, .funding⟩] ∧
      after.balances =
        before.balances.move token sender env.currentContractAddress aggregate.val
  events : after.events = before.events ++
    List.zipWith
      (fun id request => Event.created id sender request.recipient request.totalAmount)
      ids requests

section Whole

variable [DecidableEq Address] {env : Env Address} {before after : State Address}
  {sender : Address} {requests : HostVec (StreamRequest Address)}

/-- The caller is checked, and then the requests are read. -/
theorem createStreamBatch_reads (initialized : before.admin ≠ none)
    (authorized : env.authorized sender = true) (nonempty : requests.toList ≠ []) :
    createStreamBatch env sender requests before =
      (do
        let aggregateAmount ←
          validateRequests requests env.ledger.timestamp requests.toList.length 0 0
        let firstId ← readCounter
        let nextCounter ←
          (liftM (okOr (firstId.checkedAdd (U32.toU64 requests.len)) .overflow) :
            Contract Address U64)
        let token ← readToken
        transfer env token sender env.currentContractAddress aggregateAmount .funding
        let ids ← createRequests env sender requests firstId requests.toList.length 0 []
        writeCounter nextCounter
        extendInstance env
        return ids) before := by
  have isInitialized : requireInitialized before = .ok () before :=
    requireInitialized_eq_ok_iff.mpr ⟨Option.ne_none_iff_exists'.mp initialized, rfl⟩
  have isAuthorized : requireAuth env sender before = .ok () before :=
    requireAuth_eq_ok_iff.mpr ⟨authorized, rfl⟩
  rw [createStreamBatch, bind_of_ok isInitialized, bind_of_ok isAuthorized,
    bind_of_ok (failIf_of_not nonempty)]

omit [DecidableEq Address] in
/-- Requests that fit have a sum. -/
theorem exists_aggregate (requestsFit : RequestsFit env requests) :
    ∃ aggregate : I128, aggregate.val = amountSum requests.toList ∧
      validateRequests requests env.ledger.timestamp requests.toList.length 0 0 before =
        .ok aggregate before := by
  rcases requestsFit with ⟨valid, fits⟩
  rcases fits requests.toList List.prefix_rfl with ⟨lower, upper⟩
  refine ⟨⟨amountSum requests.toList, lower, upper⟩, rfl, ?_⟩
  exact validateRequests_start_eq_ok_iff.mpr ⟨valid, rfl, rfl⟩

/-- The first wrong request is reported. -/
theorem createStreamBatch_of_rejected (initialized : before.admin ≠ none)
    (authorized : env.authorized sender = true) (nonempty : requests.toList ≠ [])
    {error : Error} (rejected : FirstRejected env.ledger.timestamp requests.toList error) :
    createStreamBatch env sender requests before = .error (.error error) before := by
  rw [createStreamBatch_reads initialized authorized nonempty]
  rcases rejected with ⟨earlier, request, later, listEq, valid, fits, reason⟩
  have remaining :
      requests.toList.drop (0 : U32).val.toNat = earlier ++ request :: later := listEq
  have sumFits := (fits earlier List.prefix_rfl).2
  apply bind_of_error
  apply validateRequests_of_firstRejected remaining (le_of_eq (by rw [listEq])) valid
  · rwa [i128_zero_val, zero_add]
  · rwa [i128_zero_val, zero_add]

/-- Ids that run out are noticed before the transfer. -/
theorem createStreamBatch_of_overflow (initialized : before.admin ≠ none)
    (authorized : env.authorized sender = true) (nonempty : requests.toList ≠ [])
    (requestsFit : RequestsFit env requests) (tooFew : ¬IdsSuffice before requests) :
    createStreamBatch env sender requests before = .error (.error .overflow) before := by
  rw [createStreamBatch_reads initialized authorized nonempty]
  have noNext : (before.counter.getD 0).checkedAdd (U32.toU64 requests.len) = none := by
    rw [BoundedInt.checkedAdd_eq_none_iff, U32.toU64_val, HostVec.len_val]
    unfold IdsSuffice at tooFew
    omega
  have counted : readCounter before = .ok (before.counter.getD 0) before := rfl
  rcases exists_aggregate requestsFit with ⟨aggregate, _, validated⟩
  rw [bind_of_ok validated, bind_of_ok counted, noNext]
  rfl

/-- A refused transfer is the last thing that can go wrong. -/
theorem createStreamBatch_of_refused {token : Address} (initialized : before.admin ≠ none)
    (authorized : env.authorized sender = true) (nonempty : requests.toList ≠ [])
    (requestsFit : RequestsFit env requests) (suffice : IdsSuffice before requests)
    (tokenSet : before.token = some token) (refused : ¬SumAccepted env before sender requests) :
    createStreamBatch env sender requests before = .error (.trap .transferFailed) before := by
  rw [createStreamBatch_reads initialized authorized nonempty]
  have counterLower := (before.counter.getD 0).lower_le
  have counted : readCounter before = .ok (before.counter.getD 0) before := rfl
  let next : U64 :=
    ⟨(before.counter.getD 0).val + requests.toList.length, by omega, suffice⟩
  have nextEq : (before.counter.getD 0).checkedAdd (U32.toU64 requests.len) = some next := by
    rw [BoundedInt.checkedAdd_eq_some_iff, U32.toU64_val, HostVec.len_val]
  have hasToken : readToken before = .ok token before := readToken_eq_ok_iff.mpr ⟨tokenSet, rfl⟩
  rcases exists_aggregate requestsFit with ⟨aggregate, aggregateEq, validated⟩
  have stopped : transfer env token sender env.currentContractAddress aggregate .funding before =
      .error (.trap .transferFailed) before := by
    apply transfer_of_refused
    intro accepted
    exact refused ⟨token, aggregate, tokenSet, aggregateEq, accepted⟩
  rw [bind_of_ok validated, bind_of_ok counted, nextEq]
  have numbered : (liftM (okOr (some next) .overflow) : Contract Address U64) before =
      .ok next before := rfl
  rw [bind_of_ok numbered, bind_of_ok hasToken, bind_of_error stopped]

/-- A batch succeeds exactly when nothing of this is wrong. -/
theorem exists_created_iff (initialized : before.admin ≠ none)
    (authorized : env.authorized sender = true) (nonempty : requests.toList ≠ []) :
    (∃ ids after, createStreamBatch env sender requests before = .ok ids after) ↔
      RequestsFit env requests ∧ IdsSuffice before requests ∧
        SumAccepted env before sender requests := by
  constructor
  · rintro ⟨ids, after, created⟩
    rcases createStreamBatch_eq_ok_iff.mp created with
      ⟨aggregate, token, nextCounter, checks, _, _⟩
    refine ⟨⟨checks.valid, ?_⟩, ?_, token, aggregate, checks.tokenSet, checks.aggregateEq,
      checks.accepted⟩
    · rw [prefixSumsFit_iff checks.valid, ← checks.aggregateEq]
      exact aggregate.le_upper
    · rw [IdsSuffice, ← checks.nextCounterEq]
      exact nextCounter.le_upper
  · rintro ⟨⟨valid, _⟩, suffice, token, aggregate, tokenSet, aggregateEq, accepted⟩
    have counterLower := (before.counter.getD 0).lower_le
    let nextCounter : U64 :=
      ⟨(before.counter.getD 0).val + requests.toList.length, by omega, suffice⟩
    exact ⟨_, _, createStreamBatch_eq_ok_iff.mpr ⟨aggregate, token, nextCounter,
      ⟨Option.ne_none_iff_exists'.mp initialized, authorized, nonempty, valid, aggregateEq,
        tokenSet, accepted, rfl⟩, rfl, rfl⟩⟩

theorem batchCreated_of_createStreamBatch {ids : List U64}
    (olderStored : ∀ id stream, before.streams.lookup id = some stream →
      id.val < (before.counter.getD 0).val)
    (created : createStreamBatch env sender requests before = .ok ids after) :
    BatchCreated env sender requests.toList before ids after := by
  rcases createStreamBatch_eq_ok_iff.mp created with
    ⟨aggregate, token, nextCounter, checks, rfl, afterEq⟩
  rcases opened_of_createStreamBatch checks.tokenSet created with ⟨_, opened⟩
  have room : (before.counter.getD 0).val + requests.toList.length ≤ 2 ^ 64 - 1 := by
    rw [← checks.nextCounterEq]
    exact nextCounter.le_upper
  have others : ∀ other, other ∉ idsFrom (before.counter.getD 0) requests.toList.length →
      after.streams.lookup other = before.streams.lookup other := by
    intro other notMem
    rw [opened.streams]
    apply storeFrom_lookup_of_notMem
    rwa [List.length_map]
  refine ⟨idsFrom_val room, ?_, others, ?_, ⟨nextCounter, ?_, checks.nextCounterEq⟩,
    ⟨token, aggregate, checks.tokenSet, checks.aggregateEq, ?_, ?_⟩, ?_⟩
  · intro position request found
    have recordFound : (requests.toList.map (StreamRequest.toStream sender))[position]? =
        some (request.toStream sender) := by
      rw [List.getElem?_map, found, Option.map_some]
    have recordRoom : (before.counter.getD 0).val +
        (requests.toList.map (StreamRequest.toStream sender)).length ≤ 2 ^ 64 - 1 := by
      rwa [List.length_map]
    have placed := storeFrom_lookup_getElem before.streams recordRoom recordFound
    rw [List.length_map] at placed
    rw [opened.streams]
    exact placed
  · intro other stream stored
    rw [others other ?_, stored]
    intro newId
    have older := olderStored other stream stored
    have newer := le_of_mem_idsFrom room newId
    omega
  · rw [afterEq]
    rfl
  · rw [afterEq]
    simp
  · rw [opened.balances, checks.aggregateEq]
  · rw [opened.events, createdFrom_eq_zipWith]

/-- Whatever goes wrong, nothing has been done. -/
theorem createStreamBatch_failed {token : Address} (initialized : before.admin ≠ none)
    (authorized : env.authorized sender = true) (nonempty : requests.toList ≠ [])
    (tokenSet : before.token = some token) {fault : Fault}
    (failed : createStreamBatch env sender requests before = .error fault after) :
    after = before := by
  by_cases requestsFit : RequestsFit env requests
  · by_cases suffice : IdsSuffice before requests
    · by_cases accepted : SumAccepted env before sender requests
      · rcases (exists_created_iff initialized authorized nonempty).mpr
          ⟨requestsFit, suffice, accepted⟩ with ⟨ids, other, created⟩
        rw [created] at failed
        cases failed
      · rw [createStreamBatch_of_refused initialized authorized nonempty requestsFit suffice
          tokenSet accepted] at failed
        cases failed
        rfl
    · rw [createStreamBatch_of_overflow initialized authorized nonempty requestsFit suffice]
        at failed
      cases failed
      rfl
  · rcases exists_firstRejected requestsFit with ⟨error, rejected⟩
    rw [createStreamBatch_of_rejected initialized authorized nonempty rejected] at failed
    cases failed
    rfl

end Whole

/-- How a batch ends when its sender has authorized it. -/
structure BatchOutcome [DecidableEq Address] (env : Env Address) (sender : Address)
    (requests : HostVec (StreamRequest Address)) (before : State Address) : Prop where
  succeeds : (∃ ids after, createStreamBatch env sender requests before = .ok ids after) ↔
    RequestsFit env requests ∧ IdsSuffice before requests ∧
      SumAccepted env before sender requests
  created : ∀ ids after, createStreamBatch env sender requests before = .ok ids after →
    BatchCreated env sender requests.toList before ids after
  rejected : ¬RequestsFit env requests →
    ∃ error, FirstRejected env.ledger.timestamp requests.toList error ∧
      createStreamBatch env sender requests before = .error (.error error) before
  overflows : RequestsFit env requests → ¬IdsSuffice before requests →
    createStreamBatch env sender requests before = .error (.error .overflow) before
  unchanged : ∀ fault after, createStreamBatch env sender requests before = .error fault after →
    after = before

/-- A batch opens all of the requested streams, or it reports what is wrong and does nothing. -/
theorem batch_all_or_nothing [DecidableEq Address] {contract : Address}
    {source : System Address} (reachable : Reachable contract source) {env : Env Address}
    {sender : Address} {requests : HostVec (StreamRequest Address)}
    (initialized : source.state.admin ≠ none) (authorized : env.authorized sender = true)
    (nonempty : requests.toList ≠ []) :
    BatchOutcome env sender requests source.state := by
  rcases Option.ne_none_iff_exists'.mp initialized with ⟨admin, isAdmin⟩
  rcases reachable.exists_token_of_initialized isAdmin with ⟨token, tokenSet⟩
  refine ⟨exists_created_iff initialized authorized nonempty, ?_, ?_,
    createStreamBatch_of_overflow initialized authorized nonempty, ?_⟩
  · intro ids after created
    exact batchCreated_of_createStreamBatch (fun _ _ stored => reachable.lt_counter stored) created
  · intro notFit
    rcases exists_firstRejected notFit with ⟨error, rejected⟩
    exact ⟨error, rejected, createStreamBatch_of_rejected initialized authorized nonempty rejected⟩
  · intro fault after failed
    exact createStreamBatch_failed initialized authorized nonempty tokenSet failed

/-- The theorem applies to two requests of one sender. -/
theorem batch_all_or_nothing_twoRequests :
    BatchOutcome Sample.aliceEnv .alice (Sample.twoRequests (Sample.time 120))
      (Sample.final Sample.initialized).state :=
  batch_all_or_nothing (Sample.history (by decide)).reachable (by decide) rfl (by decide)

end StreamPay
