import StreamPay.Records

/-!
# Batches and single creations

A batch validates its requests, collects the sum of their amounts and opens the
streams; a sequence of single creations does all three for one request after the
other.  Both are described by what they do to the streams, the counter, the
balances and the events.  They accept the same requests, and they agree but for
one thing: a single creation replaces a start time of zero by the present time,
and a batch stores it as it is.
-/

namespace StreamPay

open Foundation Foundation.Computation

variable {Address : Type}

/-- The events of new streams under consecutive ids. -/
def createdFrom (sender : Address) : U64 → List (StreamRequest Address) → List (Event Address)
  | _, [] => []
  | id, request :: rest =>
      .created id sender request.recipient request.totalAmount ::
        createdFrom sender id.next rest

/-- Different lists of records are stored differently. -/
theorem storeFrom_injective {streams : Finmap fun _ : U64 => Stream Address} {id : U64}
    {first second : List (Stream Address)}
    (sameLength : first.length = second.length)
    (room : id.val + first.length ≤ 2 ^ 64 - 1)
    (same : storeFrom streams id first = storeFrom streams id second) : first = second := by
  induction first generalizing streams id second with
  | nil => exact (List.eq_nil_of_length_eq_zero sameLength.symm).symm
  | cons stream rest ih =>
      cases second with
      | nil => contradiction
      | cons other others =>
          have restLength : rest.length = others.length := by simpa using sameLength
          rw [List.length_cons] at room
          push_cast at room
          have nextVal : id.next.val = id.val + 1 := U64.next_val (by omega)
          have sameHere := congrArg (Finmap.lookup id) same
          rw [storeFrom, storeFrom, storeFrom_lookup_of_lt (by omega) (by omega),
            storeFrom_lookup_of_lt (by omega) (by omega), Finmap.lookup_insert,
            Finmap.lookup_insert, Option.some.injEq] at sameHere
          subst other
          rw [ih restLength (by omega) same]

/-- The request with the start time that a single creation would use. -/
def StreamRequest.normalized (now : U64) (request : StreamRequest Address) :
    StreamRequest Address :=
  { request with startTime := normalizeStartTime now request.startTime }

section Requests

variable {now : U64} {request : StreamRequest Address}

/-- Normalization makes no request valid or invalid. -/
theorem valid_normalized_iff : (request.normalized now).Valid now ↔ request.Valid now := by
  have nowNonneg := now.lower_le
  have startEq : (request.normalized now).startTime =
      if request.startTime = 0 then now else request.startTime := rfl
  by_cases isZero : request.startTime = 0
  · rw [if_pos isZero] at startEq
    constructor
    · intro valid
      refine ⟨valid.amountPos, ?_, valid.endsLater⟩
      have endsLater : now.val < request.endTime.val := valid.endsLater
      rw [isZero, u64_zero_val]
      omega
    · intro valid
      refine ⟨valid.amountPos, ?_, valid.endsLater⟩
      rw [startEq]
      exact valid.endsLater
  · rw [if_neg isZero] at startEq
    constructor
    · intro valid
      exact ⟨valid.amountPos, startEq ▸ valid.window, valid.endsLater⟩
    · intro valid
      refine ⟨valid.amountPos, ?_, valid.endsLater⟩
      rw [startEq]
      exact valid.window

theorem normalizeStartTime_eq_self_iff {startTime : U64} :
    normalizeStartTime now startTime = startTime ↔ startTime = 0 → now = 0 := by
  by_cases isZero : startTime = 0
  · subst startTime
    simp [normalizeStartTime, startNow]
  · simp [normalizeStartTime, startNow, isZero]

theorem normalized_eq_iff :
    request.normalized now = request ↔ request.startTime = 0 → now = 0 := by
  rw [← normalizeStartTime_eq_self_iff]
  rcases request with ⟨recipient, totalAmount, startTime, endTime⟩
  simp [StreamRequest.normalized]

/-- The records of the requests differ when normalization changes one of them. -/
theorem map_normalized_eq_iff (sender : Address) {requests : List (StreamRequest Address)} :
    requests.map (StreamRequest.toStream sender) =
        (requests.map (StreamRequest.normalized now)).map (StreamRequest.toStream sender) ↔
      ∀ request ∈ requests, request.startTime = 0 → now = 0 := by
  rw [List.map_map, List.map_inj_left]
  apply forall₂_congr
  intro request _
  rw [← normalized_eq_iff]
  rcases request with ⟨recipient, totalAmount, startTime, endTime⟩
  simp [StreamRequest.toStream, StreamRequest.normalized, Stream.opened, eq_comm]

end Requests

variable [DecidableEq Address]

/-- `create_stream` for the requests one after another. -/
def createEach (env : Env Address) (sender : Address) :
    List (StreamRequest Address) → Contract Address (List U64)
  | [] => pure []
  | request :: rest => do
      let id ← createStream env sender request.recipient request.totalAmount request.startTime
        request.endTime
      let ids ← createEach env sender rest
      return id :: ids

/-- The token accepts the transfers of the amounts one after another. -/
def Env.acceptsEach (env : Env Address) (token sender : Address) :
    Balances Address → List (StreamRequest Address) → Bool
  | _, [] => true
  | balances, request :: rest =>
      env.accepts balances
          ⟨token, sender, env.currentContractAddress, request.totalAmount, .funding⟩ &&
        acceptsEach env token sender
          (balances.move token sender env.currentContractAddress request.totalAmount.val) rest

/-- What opening the requested streams under consecutive ids does. -/
structure Opened (env : Env Address) (sender token : Address)
    (requests : List (StreamRequest Address)) (before after : State Address) : Prop where
  streams : after.streams =
    storeFrom before.streams (before.counter.getD 0) (requests.map (StreamRequest.toStream sender))
  counter : (after.counter.getD 0).val = (before.counter.getD 0).val + requests.length
  balances : after.balances =
    before.balances.move token sender env.currentContractAddress (amountSum requests)
  events : after.events =
    before.events ++ createdFrom sender (before.counter.getD 0) requests

/-- What single creations need for all of the requests, apart from the supply cap. -/
structure Admissible (env : Env Address) (sender token : Address)
    (requests : List (StreamRequest Address)) (state : State Address) : Prop where
  authorized : env.authorized sender = true
  valid : ∀ request ∈ requests, request.Valid env.ledger.timestamp
  accepted : env.acceptsEach token sender state.balances requests = true
  room : (state.counter.getD 0).val + requests.length ≤ 2 ^ 64 - 1

/-- The configuration under which single creations never reach the supply cap. -/
structure Uncapped (token : Address) (requests : List (StreamRequest Address))
    (state : State Address) : Prop where
  initialized : ∃ admin, state.admin = some admin
  tokenSet : state.token = some token
  noCap : state.supplyCap.getD I128.max = I128.max
  supplyFits : (state.totalSupply.getD 0).val + amountSum requests ≤ 2 ^ 127 - 1

section Singles

variable {env : Env Address} {sender token : Address} {before after : State Address}
  {request : StreamRequest Address} {rest : List (StreamRequest Address)} {id : U64}

theorem Balances.move_add {balances : Balances Address} {source destination : Address}
    {first second : ℤ} :
    (balances.move token source destination first).move token source destination second =
      balances.move token source destination (first + second) := by
  funext other holder
  simp only [Balances.move]
  split
  · split
    · split
      · omega
      · omega
    · split
      · omega
      · omega
  · rfl

/-- What opens one stream and then the others opens all of them. -/
theorem Opened.cons {middle : State Address}
    (head : Opened env sender token [request] before middle)
    (next : middle.counter.getD 0 = (before.counter.getD 0).next)
    (tail : Opened env sender token rest middle after) :
    Opened env sender token (request :: rest) before after := by
  refine ⟨?_, ?_, ?_, ?_⟩
  · rw [tail.streams, head.streams, next]
    rfl
  · have headCounter := head.counter
    have tailCounter := tail.counter
    simp only [List.length_cons, List.length_nil] at headCounter ⊢
    push_cast at headCounter ⊢
    omega
  · rw [tail.balances, head.balances, Balances.move_add]
    simp
  · rw [tail.events, head.events, next, List.append_assoc]
    rfl

/-- A single creation leaves the contract ready for the next one. -/
structure ReadyAfter (token : Address) (rest : List (StreamRequest Address))
    (before after : State Address) : Prop where
  next : after.counter.getD 0 = (before.counter.getD 0).next
  nextVal : (after.counter.getD 0).val = (before.counter.getD 0).val + 1
  uncapped : Uncapped token rest after

/-- A single creation opens one stream. -/
theorem opened_of_createStream (uncapped : Uncapped token (request :: rest) before)
    (created : createStream env sender request.recipient request.totalAmount request.startTime
      request.endTime before = .ok id after) :
    id = before.counter.getD 0 ∧ Admissible env sender token [request] before ∧
      ReadyAfter token rest before after ∧
        Opened env sender token [request.normalized env.ledger.timestamp] before after := by
  rcases createStream_eq_ok_iff.mp created with ⟨newSupply, other, next, checks, rfl, rfl⟩
  have sameToken : other = token := Option.some.inj (checks.tokenSet.symm.trans uncapped.tokenSet)
  subst other
  have nextEq := checks.nextEq
  have nextUpper := next.le_upper
  refine ⟨rfl, ⟨checks.authorized, ?_, ?_, ?_⟩, ⟨?_, ?_, ?_⟩, ⟨?_, ?_, ?_, ?_⟩⟩
  · rw [List.forall_mem_singleton]
    exact valid_normalized_iff.mp ⟨checks.amountPos, checks.window, checks.endsLater⟩
  · rw [Env.acceptsEach, Env.acceptsEach, Bool.and_true]
    exact checks.accepted
  · rw [List.length_singleton]
    push_cast
    omega
  · have isNext : next = (before.counter.getD 0).next := by
      rw [BoundedInt.eq_iff, U64.next_val (by omega), nextEq]
    simpa using isNext
  · simpa using nextEq
  · have supplyFits := uncapped.supplyFits
    have newSupplyEq := checks.newSupplyEq
    have restFits : newSupply.val + amountSum rest ≤ 2 ^ 127 - 1 := by
      rw [amountSum_cons] at supplyFits
      omega
    exact ⟨by simpa using uncapped.initialized, by simpa using uncapped.tokenSet,
      by simpa using uncapped.noCap, by simpa using restFits⟩
  · simp [storeFrom, StreamRequest.toStream, StreamRequest.normalized]
  · simpa using nextEq
  · funext otherToken holder
    simp [StreamRequest.normalized]
  · simp [createdFrom, StreamRequest.normalized]

theorem Admissible.cons {middle : State Address}
    (head : Admissible env sender token [request] before)
    (ready : ReadyAfter token rest before middle)
    (opened : Opened env sender token [request.normalized env.ledger.timestamp] before middle)
    (tail : Admissible env sender token rest middle) :
    Admissible env sender token (request :: rest) before := by
  refine ⟨head.authorized, ?_, ?_, ?_⟩
  · rw [List.forall_mem_cons]
    exact ⟨head.valid request List.mem_cons_self, tail.valid⟩
  · have headAccepted := head.accepted
    have tailAccepted := tail.accepted
    rw [opened.balances] at tailAccepted
    rw [Env.acceptsEach, Env.acceptsEach, Bool.and_true] at headAccepted
    rw [Env.acceptsEach, headAccepted, Bool.true_and, ← tailAccepted]
    simp [StreamRequest.normalized]
  · have room := tail.room
    have nextVal := ready.nextVal
    rw [List.length_cons]
    push_cast
    omega

/-- The empty list of requests needs nothing but the authorization. -/
theorem Admissible.nil (authorized : env.authorized sender = true) :
    Admissible env sender token [] before := by
  refine ⟨authorized, by simp, rfl, ?_⟩
  have upper := (before.counter.getD 0).le_upper
  simpa using upper

theorem Opened.nil : Opened env sender token [] before before := by
  refine ⟨rfl, by simp, ?_, by simp [createdFrom]⟩
  rw [amountSum_nil, Balances.move_zero]

/-- Single creations that all succeed open the requested streams. -/
theorem opened_of_createEach {requests : List (StreamRequest Address)} {ids : List U64}
    (authorized : env.authorized sender = true) (uncapped : Uncapped token requests before)
    (created : createEach env sender requests before = .ok ids after) :
    ids = idsFrom (before.counter.getD 0) requests.length ∧
      Admissible env sender token requests before ∧
        Opened env sender token (requests.map (.normalized env.ledger.timestamp)) before after := by
  induction requests generalizing before ids with
  | nil =>
      rcases pure_eq_ok_iff.mp created with ⟨rfl, rfl⟩
      exact ⟨rfl, .nil authorized, .nil⟩
  | cons request rest ih =>
      simp only [createEach, bind_eq_ok_iff, pure_eq_ok_iff] at created
      rcases created with ⟨id, middle, createdHead, restIds, last, createdRest, rfl, rfl⟩
      rcases opened_of_createStream uncapped createdHead with ⟨rfl, headAdmissible, ready, opened⟩
      rcases ih ready.uncapped createdRest with ⟨rfl, restAdmissible, restOpened⟩
      refine ⟨?_, headAdmissible.cons ready opened restAdmissible,
        opened.cons ready.next restOpened⟩
      rw [ready.next]
      rfl

theorem exists_createStream (uncapped : Uncapped token (request :: rest) before)
    (admissible : Admissible env sender token (request :: rest) before) :
    ∃ id after, createStream env sender request.recipient request.totalAmount request.startTime
      request.endTime before = .ok id after := by
  have validHead := valid_normalized_iff.mpr (admissible.valid request List.mem_cons_self)
  have restBound := length_le_amountSum fun other otherMem =>
    admissible.valid other (List.mem_cons_of_mem _ otherMem)
  have accepted := admissible.accepted
  rw [Env.acceptsEach, Bool.and_eq_true] at accepted
  have room := admissible.room
  rw [List.length_cons] at room
  push_cast at room
  have supplyFits := uncapped.supplyFits
  rw [amountSum_cons] at supplyFits
  have amountPos : 1 ≤ request.totalAmount.val := validHead.amountPos
  have supplyLower := (before.totalSupply.getD 0).lower_le
  have counterLower := (before.counter.getD 0).lower_le
  let newSupply : I128 :=
    ⟨(before.totalSupply.getD 0).val + request.totalAmount.val, by omega, by omega⟩
  let next : U64 := ⟨(before.counter.getD 0).val + 1, by omega, by omega⟩
  have checks : CreateStreamChecks env before sender request.totalAmount request.startTime
      request.endTime newSupply token next := by
    refine ⟨uncapped.initialized, admissible.authorized, amountPos, validHead.window,
      validHead.endsLater, rfl, ?_, uncapped.tokenSet, accepted.1, rfl⟩
    rw [uncapped.noCap]
    exact newSupply.le_upper
  exact ⟨_, _, createStream_eq_ok_iff.mpr ⟨newSupply, token, next, checks, rfl, rfl⟩⟩

/-- Single creations of admissible requests all succeed. -/
theorem exists_createEach {requests : List (StreamRequest Address)}
    (uncapped : Uncapped token requests before)
    (admissible : Admissible env sender token requests before) :
    ∃ ids after, createEach env sender requests before = .ok ids after := by
  induction requests generalizing before with
  | nil => exact ⟨[], before, rfl⟩
  | cons request rest ih =>
      rcases exists_createStream uncapped admissible with ⟨id, middle, createdHead⟩
      rcases opened_of_createStream uncapped createdHead with ⟨_, _, ready, opened⟩
      have restAdmissible : Admissible env sender token rest middle := by
        have accepted := admissible.accepted
        rw [Env.acceptsEach, Bool.and_eq_true] at accepted
        have room := admissible.room
        have nextVal := ready.nextVal
        rw [List.length_cons] at room
        push_cast at room
        refine ⟨admissible.authorized, ?_, ?_, by omega⟩
        · intro other otherMem
          exact admissible.valid other (List.mem_cons_of_mem _ otherMem)
        · rw [opened.balances]
          simpa [StreamRequest.normalized] using accepted.2
      rcases ih ready.uncapped restAdmissible with ⟨ids, after, createdRest⟩
      refine ⟨id :: ids, after, ?_⟩
      simp only [createEach, bind_eq_ok_iff, pure_eq_ok_iff]
      exact ⟨id, middle, createdHead, ids, after, createdRest, rfl, rfl⟩

end Singles

section Batches

variable {env : Env Address} {sender token : Address} {before after : State Address}
  {requests : HostVec (StreamRequest Address)}

omit [DecidableEq Address] in
theorem openAll_events {ledger : Ledger} {state : State Address} {id : U64}
    {rest : List (StreamRequest Address)} :
    (state.openAll ledger sender id rest).events =
      state.events ++ createdFrom sender id rest := by
  induction rest generalizing state id with
  | nil => exact (List.append_nil _).symm
  | cons request rest ih =>
      rw [State.openAll, ih, State.publish_events, State.putStream_events, List.append_assoc]
      rfl

/--
One transfer of the requested sum is accepted exactly when the separate
transfers of the amounts are.
-/
def TokenAdds (env : Env Address) (sender : Address)
    (requests : HostVec (StreamRequest Address)) (state : State Address) : Prop :=
  ∀ token, state.token = some token →
    (∀ request ∈ requests.toList, 1 ≤ request.totalAmount.val) →
      (env.acceptsEach token sender state.balances requests.toList = true ↔
        ∃ aggregate : I128, aggregate.val = amountSum requests.toList ∧
          env.accepts state.balances
            ⟨token, sender, env.currentContractAddress, aggregate, .funding⟩ = true)

/-- A batch that succeeds opens the requested streams. -/
theorem opened_of_createStreamBatch {ids : List U64} (tokenSet : before.token = some token)
    (created : createStreamBatch env sender requests before = .ok ids after) :
    ids = idsFrom (before.counter.getD 0) requests.toList.length ∧
      Opened env sender token requests.toList before after := by
  rcases createStreamBatch_eq_ok_iff.mp created with
    ⟨aggregate, other, nextCounter, checks, rfl, rfl⟩
  have sameToken : other = token := Option.some.inj (checks.tokenSet.symm.trans tokenSet)
  subst other
  refine ⟨rfl, ?_, ?_, ?_, ?_⟩
  · rw [State.touchInstance_streams, State.setCounter_streams, openAll_streams]
    rfl
  · exact checks.nextCounterEq
  · funext otherToken holder
    simp [checks.aggregateEq]
  · rw [State.touchInstance_events, State.setCounter_events, openAll_events]
    rfl

/-- A batch succeeds exactly when its requests are admissible. -/
theorem exists_createStreamBatch_iff (nonempty : requests.toList ≠ [])
    (uncapped : Uncapped token requests.toList before)
    (tokenAdds : TokenAdds env sender requests before) :
    (∃ ids after, createStreamBatch env sender requests before = .ok ids after) ↔
      Admissible env sender token requests.toList before := by
  constructor
  · rintro ⟨ids, after, created⟩
    rcases createStreamBatch_eq_ok_iff.mp created with
      ⟨aggregate, other, nextCounter, checks, _, _⟩
    have sameToken : other = token :=
      Option.some.inj (checks.tokenSet.symm.trans uncapped.tokenSet)
    subst other
    refine ⟨checks.authorized, checks.valid, ?_, ?_⟩
    · apply (tokenAdds token checks.tokenSet fun request requestMem =>
        (checks.valid request requestMem).amountPos).mpr
      exact ⟨aggregate, checks.aggregateEq, checks.accepted⟩
    · rw [← checks.nextCounterEq]
      exact nextCounter.le_upper
  · intro admissible
    rcases (tokenAdds token uncapped.tokenSet fun request requestMem =>
      (admissible.valid request requestMem).amountPos).mp admissible.accepted with
      ⟨aggregate, aggregateEq, accepted⟩
    have counterLower := (before.counter.getD 0).lower_le
    let nextCounter : U64 :=
      ⟨(before.counter.getD 0).val + requests.toList.length, by omega, admissible.room⟩
    exact ⟨_, _, createStreamBatch_eq_ok_iff.mpr ⟨aggregate, token, nextCounter,
      ⟨uncapped.initialized, admissible.authorized, nonempty, admissible.valid, aggregateEq,
        uncapped.tokenSet, accepted, rfl⟩, rfl, rfl⟩⟩

/-- Single creations succeed exactly when the requests are admissible. -/
theorem exists_createEach_iff (nonempty : requests.toList ≠ [])
    (uncapped : Uncapped token requests.toList before) :
    (∃ ids after, createEach env sender requests.toList before = .ok ids after) ↔
      Admissible env sender token requests.toList before := by
  constructor
  · rintro ⟨ids, after, created⟩
    have authorized : env.authorized sender = true := by
      rcases List.exists_cons_of_ne_nil nonempty with ⟨request, rest, listEq⟩
      rw [listEq] at created uncapped
      simp only [createEach, bind_eq_ok_iff] at created
      rcases created with ⟨id, middle, createdHead, _⟩
      exact (opened_of_createStream uncapped createdHead).2.1.authorized
    exact (opened_of_createEach authorized uncapped created).2.1
  · exact exists_createEach uncapped

/-- The two ways to create the requested streams succeed together and do the same. -/
structure BatchAgrees (env : Env Address) (sender : Address)
    (requests : HostVec (StreamRequest Address)) (state : State Address) : Prop where
  succeed : (∃ ids after, createStreamBatch env sender requests state = .ok ids after) ↔
    ∃ ids after, createEach env sender requests.toList state = .ok ids after
  agree : ∀ ids after idsEach afterEach,
    createStreamBatch env sender requests state = .ok ids after →
      createEach env sender requests.toList state = .ok idsEach afterEach →
        ids = idsEach ∧ after.streams = afterEach.streams ∧ after.counter = afterEach.counter ∧
          after.balances = afterEach.balances ∧ after.events = afterEach.events

omit [DecidableEq Address] in
theorem amountSum_normalized {now : U64} {rest : List (StreamRequest Address)} :
    amountSum (rest.map (StreamRequest.normalized now)) = amountSum rest := by
  induction rest with
  | nil => rfl
  | cons request rest ih =>
      rw [List.map_cons, amountSum_cons, amountSum_cons, ih]
      rfl

omit [DecidableEq Address] in
theorem createdFrom_normalized {now : U64} {id : U64} {rest : List (StreamRequest Address)} :
    createdFrom sender id (rest.map (StreamRequest.normalized now)) =
      createdFrom sender id rest := by
  induction rest generalizing id with
  | nil => rfl
  | cons request rest ih =>
      rw [List.map_cons, createdFrom, createdFrom, ih]
      rfl

/-- What the two ways do differs in nothing but the stored records. -/
theorem Opened.agree {afterEach : State Address} (nonempty : requests.toList ≠ [])
    (batch : Opened env sender token requests.toList before after)
    (each : Opened env sender token
      (requests.toList.map (.normalized env.ledger.timestamp)) before afterEach) :
    after.counter = afterEach.counter ∧ after.balances = afterEach.balances ∧
      after.events = afterEach.events := by
  have lengthPos : 0 < requests.toList.length := List.length_pos_iff.mpr nonempty
  have counterLower := (before.counter.getD 0).lower_le
  have batchCounter := batch.counter
  have eachCounter := each.counter
  rw [List.length_map] at eachCounter
  refine ⟨?_, ?_, ?_⟩
  · -- the counter is positive afterwards, so it is stored in both states
    cases batchStored : after.counter with
    | none =>
        rw [batchStored, Option.getD_none, u64_zero_val] at batchCounter
        omega
    | some next =>
        cases eachStored : afterEach.counter with
        | none =>
            rw [eachStored, Option.getD_none, u64_zero_val] at eachCounter
            omega
        | some nextEach =>
            rw [batchStored, Option.getD_some] at batchCounter
            rw [eachStored, Option.getD_some] at eachCounter
            rw [Option.some.injEq, BoundedInt.eq_iff, batchCounter, eachCounter]
  · rw [batch.balances, each.balances, amountSum_normalized]
  · rw [batch.events, each.events, createdFrom_normalized]

end Batches

/--
A batch agrees with single creations exactly when it is rejected, or when no
request leaves its start time to be filled in with a present time other than zero.
-/
theorem batch_agrees_iff {contract : Address} {source : System Address}
    (reachable : Reachable contract source) {env : Env Address} {sender : Address}
    {requests : HostVec (StreamRequest Address)} (initialized : source.state.admin ≠ none)
    (noCap : source.state.supplyCap.getD I128.max = I128.max)
    (supplyFits :
      (source.state.totalSupply.getD 0).val + amountSum requests.toList ≤ 2 ^ 127 - 1)
    (nonempty : requests.toList ≠ [])
    (tokenAdds : TokenAdds env sender requests source.state) :
    BatchAgrees env sender requests source.state ↔
      (∀ request ∈ requests.toList, request.startTime = 0 → env.ledger.timestamp = 0) ∨
        ¬∃ token, source.state.token = some token ∧
          Admissible env sender token requests.toList source.state := by
  rcases Option.ne_none_iff_exists'.mp initialized with ⟨admin, isAdmin⟩
  rcases reachable.exists_token_of_initialized isAdmin with ⟨token, tokenSet⟩
  have uncapped : Uncapped token requests.toList source.state :=
    ⟨⟨admin, isAdmin⟩, tokenSet, noCap, supplyFits⟩
  have batchIff := exists_createStreamBatch_iff nonempty uncapped tokenAdds
  have eachIff :
      (∃ ids after, createEach env sender requests.toList source.state = .ok ids after) ↔
        Admissible env sender token requests.toList source.state :=
    exists_createEach_iff nonempty uncapped
  have admissibleIff : (∃ other, source.state.token = some other ∧
      Admissible env sender other requests.toList source.state) ↔
        Admissible env sender token requests.toList source.state := by
    simp [tokenSet]
  rw [admissibleIff]
  constructor
  · intro agrees
    by_contra neither
    rw [not_or, not_not] at neither
    rcases neither with ⟨filledIn, admissible⟩
    rcases batchIff.mpr admissible with ⟨ids, after, batchCreated⟩
    rcases eachIff.mpr admissible with ⟨idsEach, afterEach, eachCreated⟩
    have batch := (opened_of_createStreamBatch tokenSet batchCreated).2
    have each := (opened_of_createEach admissible.authorized uncapped eachCreated).2.2
    have sameStreams := (agrees.agree _ _ _ _ batchCreated eachCreated).2.1
    rw [batch.streams, each.streams] at sameStreams
    apply filledIn
    rw [← map_normalized_eq_iff sender]
    apply storeFrom_injective ?_ ?_ sameStreams
    · simp
    · rw [List.length_map]
      exact admissible.room
  · intro condition
    refine ⟨batchIff.trans eachIff.symm, ?_⟩
    intro ids after idsEach afterEach batchCreated eachCreated
    have admissible := batchIff.mp ⟨ids, after, batchCreated⟩
    have nothingFilledIn := condition.resolve_right (not_not.mpr admissible)
    rcases opened_of_createStreamBatch tokenSet batchCreated with ⟨rfl, batch⟩
    rcases opened_of_createEach admissible.authorized uncapped eachCreated with ⟨rfl, _, each⟩
    refine ⟨rfl, ?_, batch.agree nonempty each⟩
    rw [batch.streams, each.streams, (map_normalized_eq_iff sender).mpr nothingFilledIn]

namespace Sample

def initialized : List (Action Party) :=
  [callBy .admin (.initializeContract .admin .token)]

/-- The present time is 100, and the token checks that the source can pay. -/
def aliceEnv : Env Party where
  ledger := ledgerAt (time 100)
  currentContractAddress := .contract
  authorized := fun party => decide (party = .alice)
  transferAccepted := fun balances asset source _ amount =>
    decide (amount.val ≤ balances asset source)
  uploaded := fun _ => false

/-- Two requests, the first of which starts at `startTime`. -/
def twoRequests (startTime : U64) : HostVec (StreamRequest Party) where
  toList :=
    [⟨.bob, units 1000, startTime, time 200⟩, ⟨.dave, units 2000, time 150, time 300⟩]
  length_le := by
    rw [List.length_cons, List.length_singleton]
    omega

theorem tokenAdds_twoRequests (startTime : U64) :
    TokenAdds aliceEnv .alice (twoRequests startTime) (final initialized).state := by
  intro asset tokenSet _
  have isToken : asset = .token := by
    have stored : (final initialized).state.token = some .token := by decide
    exact Option.some.inj (tokenSet.symm.trans stored)
  subst asset
  constructor
  · intro _
    exact ⟨units 3000, rfl, by decide⟩
  · intro _
    rfl

end Sample

/-- The theorem applies to two requests that name their start times. -/
theorem batch_agrees_twoRequests :
    BatchAgrees Sample.aliceEnv .alice (Sample.twoRequests (Sample.time 120))
      (Sample.final Sample.initialized).state :=
  (batch_agrees_iff (Sample.history (by decide)).reachable (by decide)
    (by decide) (by decide) (by decide)
    (Sample.tokenAdds_twoRequests _)).mpr (.inl (by decide))

/-- A batch stores a start time of zero, and a single creation the present time. -/
theorem batch_keeps_zero_start :
    ∃ source requests, Reachable Sample.Party.contract source ∧ source.state.admin ≠ none ∧
      source.state.supplyCap.getD I128.max = I128.max ∧
        (source.state.totalSupply.getD 0).val + amountSum requests.toList ≤ 2 ^ 127 - 1 ∧
          requests.toList ≠ [] ∧ TokenAdds Sample.aliceEnv .alice requests source.state ∧
            ¬BatchAgrees Sample.aliceEnv .alice requests source.state := by
  refine ⟨Sample.final Sample.initialized, Sample.twoRequests 0,
    (Sample.history (by decide)).reachable, by decide, by decide,
    by decide, by decide, Sample.tokenAdds_twoRequests _, ?_⟩
  intro agrees
  have sameStreams := (agrees.agree _ _ _ _ rfl rfl).2.1
  have sameStart := congrArg
    (fun streams => (Finmap.lookup (0 : U64) streams).map fun stream => stream.start.val)
    sameStreams
  revert sameStart
  decide

end StreamPay
