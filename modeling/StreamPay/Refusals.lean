import StreamPay.Lifespan
import StreamPay.Overflows

/-!
# Refusals that are final

A caller that is refused may want to try again.  For some errors this is pointless:
the arguments are wrong at any later time, the caller will never be a party of the
stream, or the stream will never be active again.  Other errors may go away with time,
with other calls, or with more funds.  This file says which are which.

What a final error reports stays true of the system in every step, and rules out that
the call returns.  For every other error there is a run in which the very same
invocation is first refused with it and returns later.
-/

namespace StreamPay

open Foundation Foundation.Computation

variable {Address : Type}

/-- The error says that its call will never return. -/
def Error.isFinal : Error → Bool
  | .alreadyInitialized | .invalidAmount | .invalidTimeRange | .alreadyCancelled
  | .alreadyCompleted | .endTimeInPast | .amountBelowMinimum | .streamNotActive
  | .invalidAdminAction | .emptyBatch => true
  | .notInitialized | .streamNotFound | .unauthorized | .overflow | .nothingToWithdraw
  | .noPendingAdminAction | .timelockNotExpired | .supplyCapExceeded => false

/-- The parties of a stream stay the same, whereas the administrator changes. -/
def Call.isFinal (call : Call Address) (error : Error) : Bool :=
  error.isFinal || (decide (error = .unauthorized) && call.target.isSome)

/-- The arguments of the call are wrong from `now` on. -/
def Call.Invalid (now : U64) : Call Address → Prop
  | .scheduleAdminTransfer admin newAdmin => newAdmin = admin
  | .setSupplyCap newCap => newCap.val < 1
  | .createStream _ _ totalAmount startTime endTime =>
      totalAmount.val < 1 ∨ endTime.val ≤ startTime.val ∨ endTime.val ≤ now.val
  | .createStreamBatch _ requests =>
      requests.toList = [] ∨ ∃ request ∈ requests.toList, ¬request.Valid now
  | .topUp _ _ amount => amount.val < 1
  | _ => False

/-- The record rules the call out. -/
def Stream.Bars (stream : Stream Address) : Call Address → Prop
  | .topUp _ sender _ => sender ≠ stream.sender ∨ stream.status ≠ .active
  | .extendStream _ sender newEnd =>
      sender ≠ stream.sender ∨ stream.status ≠ .active ∨ newEnd.val ≤ stream.end.val
  | .withdraw _ recipient => stream.recipient ≠ recipient ∨ stream.status ≠ .active
  | .cancel _ caller =>
      caller ≠ stream.sender ∧ caller ≠ stream.recipient ∨ stream.status = .cancelled
  | _ => False

/-- Something that never changes stands in the way of the call. -/
inductive Call.Blocked (system : System Address) (call : Call Address) : Prop where
  | invalid (invalid : call.Invalid system.ledger.timestamp)
  | barred {id : U64} {stream : Stream Address} (target : call.target = some id)
      (stored : system.state.streams.lookup id = some stream) (bars : stream.Bars call)
  | initialized {admin token : Address} (initializes : call = .initializeContract admin token)
      (isInitialized : system.state.admin.isSome = true)

/-- Starting at once makes no window invalid that would not end too early anyway. -/
theorem late_iff {now startTime endTime : U64} :
    endTime.val ≤ (normalizeStartTime now startTime).val ∨ endTime.val ≤ now.val ↔
      endTime.val ≤ startTime.val ∨ endTime.val ≤ now.val := by
  by_cases atOnce : startTime = startNow
  · have nowNonneg := now.lower_le
    have zero : startTime.val = 0 := congrArg BoundedInt.val atOnce
    rw [normalizeStartTime, if_pos atOnce]
    omega
  · rw [normalizeStartTime, if_neg atOnce]

/-- Wrong arguments stay wrong. -/
theorem Call.Invalid.mono {now later : U64} {call : Call Address} (invalid : call.Invalid now)
    (order : now.val ≤ later.val) : call.Invalid later := by
  cases call with
  | scheduleAdminTransfer admin newAdmin => exact invalid
  | setSupplyCap newCap => exact invalid
  | createStream sender recipient totalAmount startTime endTime =>
      simp only [Call.Invalid] at invalid ⊢
      omega
  | createStreamBatch sender requests =>
      rcases invalid with empty | ⟨request, requestMem, invalid⟩
      · exact .inl empty
      · refine .inr ⟨request, requestMem, ?_⟩
        intro valid
        exact invalid ⟨valid.amountPos, valid.window, order.trans_lt valid.endsLater⟩
  | topUp id sender amount => exact invalid
  | _ => contradiction

variable [DecidableEq Address] {contract : Address} {source target : System Address}
  {action : Action Address} {call : Call Address}

section Record

variable {env : Env Address} {before : State Address} {other : Call Address}
  {reply : Reply Address} {id : U64} {stream changed : Stream Address}

/-- A stream that is not active stays so. -/
theorem RecordEffect.inactive (record : RecordEffect env before id stream other reply changed)
    (inactive : stream.status ≠ .active) : changed.status ≠ .active := by
  cases record with
  | untouched elsewhere => exact inactive
  | raised checks => exact absurd checks.active inactive
  | prolonged checks => exact absurd checks.active inactive
  | paidOut checks => exact absurd checks.active inactive
  | closed checks => simp [Stream.closed]

/-- What a record rules out, it rules out after every call. -/
theorem RecordEffect.bars (record : RecordEffect env before id stream other reply changed)
    (bars : stream.Bars call) : changed.Bars call := by
  have continues := record.continues
  cases call with
  | topUp id sender amount =>
      rw [Stream.Bars, continues.sender]
      exact bars.imp_right record.inactive
  | extendStream id sender newEnd =>
      have endLe : stream.figure 0 .prolong ≤ changed.figure 0 .prolong := record.figure_le le_rfl
      rw [Stream.Bars, continues.sender]
      exact bars.imp_right (Or.imp record.inactive fun early => early.trans endLe)
  | withdraw id recipient =>
      rw [Stream.Bars, continues.recipient]
      exact bars.imp_right record.inactive
  | cancel id caller =>
      rw [Stream.Bars, continues.sender, continues.recipient]
      exact bars.imp_right continues.cancelled
  | _ => contradiction

end Record

theorem Effect.initialized {env : Env Address} {before after : State Address}
    {reply : Reply Address} (effect : Effect env before call reply after)
    (isInitialized : before.admin.isSome = true) : after.admin.isSome = true := by
  cases effect with
  | _ => simp [isInitialized]

/-- What stands in the way of a call stays there. -/
theorem Call.Blocked.step (blocked : call.Blocked source) (reachable : Reachable contract source)
    (step : Step contract source action target) : call.Blocked target := by
  cases stepEffect_of_step step with
  | advance later laterSequence =>
      cases blocked with
      | invalid invalid => exact .invalid (invalid.mono later)
      | barred target stored bars => exact .barred target stored bars
      | initialized initializes isInitialized => exact .initialized initializes isInitialized
  | external noLoss =>
      cases blocked with
      | invalid invalid => exact .invalid invalid
      | barred target stored bars => exact .barred target stored bars
      | initialized initializes isInitialized => exact .initialized initializes isInitialized
  | failed outcome => exact blocked
  | returned outcome effect =>
      cases blocked with
      | invalid invalid => exact .invalid invalid
      | barred target stored bars =>
          rcases effect.exists_record stored (reachable.lt_counter stored) with
            ⟨changed, changedStored, record⟩
          exact .barred target changedStored (record.bars bars)
      | initialized initializes isInitialized =>
          exact .initialized initializes (effect.initialized isInitialized)

/-- A call with something in its way does not return. -/
theorem Call.Blocked.not_returned {invocation : Invocation Address} {reply : Reply Address}
    (blocked : invocation.call.Blocked source) :
    (invocation.outcome contract source).1 ≠ .ok reply := by
  intro returned
  rcases exists_effect_of_outcome returned with ⟨after, effect⟩
  rcases invocation with ⟨authorized, transferAccepted, call⟩
  cases blocked with
  | invalid invalid =>
      cases effect with
      | scheduleAdminTransfer isAdmin authorized differs executeAfterEq => exact differs invalid
      | setSupplyCap isAdmin authorized capPos => exact not_lt.mpr capPos invalid
      | createStream checks =>
          rcases invalid with tooSmall | late
          · exact not_lt.mpr checks.amountPos tooSmall
          · rcases late_iff.mpr late with backwards | past
            · exact not_lt.mpr backwards checks.window
            · exact not_lt.mpr past checks.endsLater
      | createStreamBatch checks =>
          rcases invalid with empty | ⟨request, requestMem, invalid⟩
          · exact checks.nonempty empty
          · exact invalid (checks.valid request requestMem)
      | topUp checks => exact not_lt.mpr checks.amountPos invalid
      | _ => contradiction
  | barred target stored bars =>
      cases effect with
      | topUp checks =>
          cases target
          cases checks.stored.symm.trans stored
          exact bars.elim (· checks.isSender) (· checks.active)
      | extendStream checks =>
          cases target
          cases checks.stored.symm.trans stored
          rcases bars with stranger | inactive | early
          · exact stranger checks.isSender
          · exact inactive checks.active
          · exact not_lt.mpr early checks.later
      | withdraw checks =>
          cases target
          cases checks.stored.symm.trans stored
          exact bars.elim (· checks.isRecipient) (· checks.active)
      | cancel checks =>
          cases target
          cases checks.stored.symm.trans stored
          rcases bars with stranger | cancelled
          · exact checks.isParty.elim stranger.1 stranger.2
          · exact checks.notCancelled cancelled
      | _ => contradiction
  | initialized initializes isInitialized =>
      cases initializes
      cases effect with
      | initializeContract fresh => simp [fresh] at isInitialized

/-- The fault is not a final error of the call, unless there is a reason for that. -/
def FinalOnlyIf (call : Call Address) (Reason : Prop) (fault : Fault) : Prop :=
  ∀ error, fault = .error error → call.isFinal error = true → Reason

theorem lt_one_of_not_isValidAmount {amount : I128} (invalid : isValidAmount amount = false) :
    amount.val < 1 := by
  rwa [← Bool.not_eq_true, isValidAmount_iff, not_le] at invalid

section Reasons

variable {env : Env Address} {before : State Address} {id : U64} {Reason : Prop}

omit [DecidableEq Address] in
@[simp]
theorem finalOnlyIf_trap (trap : Trap) : FinalOnlyIf call Reason (.trap trap) := by
  intro error isError
  contradiction

omit [DecidableEq Address] in
@[simp]
theorem finalOnlyIf_error_iff {error : Error} :
    FinalOnlyIf call Reason (.error error) ↔ (call.isFinal error = true → Reason) := by
  simp [FinalOnlyIf]

/-- The computation ends with a final error of the call only if there is a reason for that. -/
def EndsFinalOnlyIf {Result : Type} (computation : Contract Address Result) (before : State Address)
    (call : Call Address) (Reason : Prop) : Prop :=
  Ends computation (fun _ _ => True) (FinalOnlyIf call Reason) before

omit [DecidableEq Address] in
theorem finalOnlyIf_initializeContract {admin token : Address}
    (initialized : before.admin.isSome = true → Reason) :
    EndsFinalOnlyIf (initializeContract env admin token) before (.initializeContract admin token)
      Reason := by
  simpa [EndsFinalOnlyIf, initializeContract, hasAdmin, writeAdmin, writeToken, writeCounter,
    writeTotalSupply, writeSupplyCap, extendInstance, Call.isFinal, Error.isFinal] using initialized

theorem finalOnlyIf_scheduleAdminTransfer {admin newAdmin : Address}
    (unchanged : newAdmin = admin → Reason) :
    EndsFinalOnlyIf (scheduleAdminTransfer env admin newAdmin) before
      (.scheduleAdminTransfer admin newAdmin) Reason := by
  simp +contextual [EndsFinalOnlyIf, scheduleAdminTransfer, writePendingAdminAction,
    extendInstance, adminTransferScheduled, publish, Call.isFinal, Error.isFinal, Call.target,
    unchanged]

omit [DecidableEq Address] in
theorem finalOnlyIf_executeAdminTransfer :
    EndsFinalOnlyIf (executeAdminTransfer env) before .executeAdminTransfer Reason := by
  simp [EndsFinalOnlyIf, executeAdminTransfer, readPendingAdmin, readAdminActionExecuteAfter,
    writeAdmin, clearPendingAdminAction, extendInstance, adminTransferExecuted, publish,
    Call.isFinal, Error.isFinal]

theorem finalOnlyIf_cancelAdminTransfer {admin : Address} :
    EndsFinalOnlyIf (cancelAdminTransfer env admin) before (.cancelAdminTransfer admin) Reason := by
  simp [EndsFinalOnlyIf, cancelAdminTransfer, readPendingAdmin, clearPendingAdminAction,
    extendInstance, adminTransferCancelled, publish, Call.isFinal, Error.isFinal, Call.target]

omit [DecidableEq Address] in
theorem finalOnlyIf_setAdmin {newAdmin : Address} :
    EndsFinalOnlyIf (setAdmin env newAdmin) before (.setAdmin newAdmin) Reason := by
  simp [EndsFinalOnlyIf, setAdmin, writeAdmin, extendInstance, adminChanged, publish, Call.isFinal,
    Error.isFinal]

omit [DecidableEq Address] in
theorem finalOnlyIf_setSupplyCap {newCap : I128} (nonpos : newCap ≤ 0 → Reason) :
    EndsFinalOnlyIf (setSupplyCap env newCap) before (.setSupplyCap newCap) Reason := by
  simp +contextual [EndsFinalOnlyIf, setSupplyCap, readSupplyCap, writeSupplyCap, extendInstance,
    supplyCapUpdated, publish, Call.isFinal, Error.isFinal, nonpos]

theorem finalOnlyIf_createStream {sender recipient : Address} {totalAmount : I128}
    {startTime endTime : U64} (tooSmall : totalAmount.val < 1 → Reason)
    (late : endTime ≤ normalizeStartTime env.ledger.timestamp startTime ∨
      endTime ≤ env.ledger.timestamp → Reason) :
    EndsFinalOnlyIf (createStream env sender recipient totalAmount startTime endTime) before
      (.createStream sender recipient totalAmount startTime endTime) Reason := by
  have belowMinimum (below : totalAmount < minStreamAmount) : Reason := tooSmall below
  have notPositive (invalid : isValidAmount totalAmount = false) : Reason :=
    tooSmall (lt_one_of_not_isValidAmount invalid)
  simp +contextual [EndsFinalOnlyIf, createStream, readTotalSupply, readSupplyCap, readCounter,
    writeStream, writeCounter, writeTotalSupply, extendInstance, streamCreated, publish,
    Call.isFinal, Error.isFinal, late, belowMinimum, notPositive]

theorem finalOnlyIf_topUp {sender : Address} {amount : I128} (tooSmall : amount.val < 1 → Reason)
    (bars : ∀ stream, before.streams.lookup id = some stream →
      sender ≠ stream.sender ∨ stream.status ≠ .active → Reason) :
    EndsFinalOnlyIf (topUp env id sender amount) before (.topUp id sender amount) Reason := by
  have notPositive (invalid : isValidAmount amount = false) : Reason :=
    tooSmall (lt_one_of_not_isValidAmount invalid)
  cases found : before.streams.lookup id with
  | none =>
      simp +contextual [EndsFinalOnlyIf, topUp, found, Call.isFinal, Error.isFinal, notPositive]
  | some stream =>
      have barred := bars stream found
      simp +contextual [EndsFinalOnlyIf, topUp, found, readTotalSupply, readSupplyCap, writeStream,
        writeTotalSupply, extendInstance, streamToppedUp, publish, Call.isFinal, Error.isFinal,
        Call.target, notPositive, barred]

theorem finalOnlyIf_extendStream {sender : Address} {newEnd : U64}
    (bars : ∀ stream, before.streams.lookup id = some stream →
      sender ≠ stream.sender ∨ stream.status ≠ .active ∨ newEnd ≤ stream.end → Reason) :
    EndsFinalOnlyIf (extendStream env id sender newEnd) before (.extendStream id sender newEnd)
      Reason := by
  cases found : before.streams.lookup id with
  | none => simp [EndsFinalOnlyIf, extendStream, found, Call.isFinal, Error.isFinal]
  | some stream =>
      have barred := bars stream found
      simp +contextual [EndsFinalOnlyIf, extendStream, found, writeStream, extendInstance,
        streamExtended, publish, Call.isFinal, Error.isFinal, Call.target, barred]

omit [DecidableEq Address] in
theorem ends_liftM_of_onlyOverflows {Result : Type} {value : Except Fault Result}
    {Returns : Result → State Address → Prop} (only : OnlyOverflows value) :
    Ends (liftM value : Contract Address Result) Returns (FinalOnlyIf call Reason) before ↔
      ∀ result, value = .ok result → Returns result before := by
  rw [ends_liftM_iff]
  refine and_iff_left ?_
  rintro fault failed error rfl isFinal
  rcases only _ failed with isOverflow | isTrap
  · cases isOverflow
    simp [Call.isFinal, Error.isFinal] at isFinal
  · contradiction

theorem finalOnlyIf_withdraw {recipient : Address}
    (bars : ∀ stream, before.streams.lookup id = some stream →
      stream.recipient ≠ recipient ∨ stream.status ≠ .active → Reason) :
    EndsFinalOnlyIf (withdraw env id recipient) before (.withdraw id recipient) Reason := by
  cases found : before.streams.lookup id with
  | none => simp [EndsFinalOnlyIf, withdraw, found, Call.isFinal, Error.isFinal]
  | some stream =>
      have barred := bars stream found
      simp +contextual [EndsFinalOnlyIf, withdraw, found, readTotalSupply, writeStream,
        writeTotalSupply, streamWithdrawn, publish, Call.isFinal, Error.isFinal, Call.target,
        barred, ends_liftM_of_onlyOverflows onlyOverflows_withdrawable]

theorem finalOnlyIf_cancel {caller : Address}
    (bars : ∀ stream, before.streams.lookup id = some stream →
      caller ≠ stream.sender ∧ caller ≠ stream.recipient ∨ stream.status = .cancelled → Reason) :
    EndsFinalOnlyIf (cancel env id caller) before (.cancel id caller) Reason := by
  cases found : before.streams.lookup id with
  | none => simp [EndsFinalOnlyIf, cancel, found, Call.isFinal, Error.isFinal]
  | some stream =>
      have barred := bars stream found
      simp +contextual [EndsFinalOnlyIf, cancel, found, readTotalSupply, writeStream,
        writeTotalSupply, streamCancelled, publish, Call.isFinal, Error.isFinal, Call.target,
        barred, ends_liftM_of_onlyOverflows onlyOverflows_vested,
        ends_liftM_of_onlyOverflows onlyOverflows_unvested]

section Batch

variable {sender : Address} {requests : HostVec (StreamRequest Address)}
  {rest : List (StreamRequest Address)} {fuel : ℕ} {index : U32} {now : U64}

omit [DecidableEq Address] in
/-- The first loop ends with a final error only at a request that is invalid. -/
theorem finalOnlyIf_validateRequests {aggregate : I128}
    (remaining : requests.toList.drop index.val.toNat = rest) (enough : rest.length ≤ fuel)
    (invalid : ∀ request ∈ rest, ¬request.Valid now → Reason) :
    Ends (validateRequests requests now fuel index aggregate) (fun _ after => after = before)
      (FinalOnlyIf (.createStreamBatch sender requests) Reason) before := by
  induction fuel generalizing index aggregate rest with
  | zero => simp [validateRequests]
  | succ fuel ih =>
      cases rest with
      | nil => simp [validateRequests, not_lt_len_of_drop_eq_nil remaining]
      | cons request rest =>
          rw [List.forall_mem_cons] at invalid
          rcases exists_next_cursor remaining with ⟨next, nextEq, _, nextRemaining⟩
          have enoughRest : rest.length ≤ fuel := by simpa using enough
          have restEnds (total : I128) :
              Ends (validateRequests requests now fuel next total) (fun _ after => after = before)
                (FinalOnlyIf (.createStreamBatch sender requests) Reason) before :=
            ih nextRemaining enoughRest invalid.2
          have tooSmall (notValid : isValidAmount request.totalAmount = false) : Reason :=
            invalid.1 fun valid =>
              not_lt.mpr valid.amountPos (lt_one_of_not_isValidAmount notValid)
          have belowMinimum (below : request.totalAmount < minStreamAmount) : Reason :=
            invalid.1 fun valid => not_lt.mpr valid.amountPos below
          have backwards (early : request.endTime ≤ request.startTime) : Reason :=
            invalid.1 fun valid => not_lt.mpr early valid.window
          have past (ended : request.endTime ≤ now) : Reason :=
            invalid.1 fun valid => not_lt.mpr ended valid.endsLater
          simp +contextual [validateRequests, lt_len_of_drop_eq_cons remaining,
            get_of_drop_eq_cons remaining, nextEq, restEnds, Call.isFinal, Error.isFinal,
            tooSmall, belowMinimum, backwards, past]

omit [DecidableEq Address] in
theorem finalOnlyIf_createRequests {firstId : U64} {ids : List U64} :
    EndsFinalOnlyIf (createRequests env sender requests firstId fuel index ids) before call
      Reason := by
  induction fuel generalizing index ids before with
  | zero => simp [EndsFinalOnlyIf, createRequests]
  | succ fuel ih =>
      unfold EndsFinalOnlyIf at ih ⊢
      simp [createRequests, writeStream, streamCreated, publish, ih]

theorem finalOnlyIf_createStreamBatch (empty : requests.toList = [] → Reason)
    (invalid : ∀ request ∈ requests.toList, ¬request.Valid env.ledger.timestamp → Reason) :
    EndsFinalOnlyIf (createStreamBatch env sender requests) before
      (.createStreamBatch sender requests) Reason := by
  have validated {Returns : I128 → State Address → Prop}
      (returns : ∀ aggregate, Returns aggregate before) :
      Ends (validateRequests requests env.ledger.timestamp requests.toList.length 0 0) Returns
        (FinalOnlyIf (.createStreamBatch sender requests) Reason) before := by
    have remaining : requests.toList.drop (0 : U32).val.toNat = requests.toList := rfl
    apply (finalOnlyIf_validateRequests remaining le_rfl invalid).mono
    rintro aggregate after rfl
    exact returns aggregate
  have created {firstId : U64} {middle : State Address} :
      Ends (createRequests env sender requests firstId requests.toList.length 0 [])
        (fun _ _ => True) (FinalOnlyIf (.createStreamBatch sender requests) Reason) middle :=
    finalOnlyIf_createRequests
  simp only [EndsFinalOnlyIf, createStreamBatch, readCounter, writeCounter, extendInstance,
    ends_bind_iff, ends_requireInitialized_iff, ends_requireAuth_iff, ends_failIf_iff,
    ends_readState_iff, ends_okOr_iff, ends_readToken_iff, ends_transfer_iff, ends_modify_iff,
    ends_pure_iff, finalOnlyIf_trap, finalOnlyIf_error_iff, implies_true, and_true]
  refine ⟨?_, fun initialized authorized => ⟨?_, fun nonempty => ?_⟩⟩
  · simp [Call.isFinal, Error.isFinal]
  · exact fun isEmpty _ => empty isEmpty
  · apply validated
    intro aggregate
    refine ⟨fun nextCounter fits token tokenSet accepted => created, ?_⟩
    simp [Call.isFinal, Error.isFinal]

end Batch

omit [DecidableEq Address] in
theorem finalOnlyIf_view {view : View} :
    EndsFinalOnlyIf (view.run env) before (.query view) Reason := by
  apply view.ends_viewFault.mono_fails
  rintro fault (_ | _)
  all_goals simp [Call.isFinal, Error.isFinal]

end Reasons

/-- A final error of a call says that something stands in its way. -/
theorem blocked_of_isFinal {invocation : Invocation Address} {error : Error}
    (refused : (invocation.outcome contract source).1 = .error (.error error))
    (isFinal : invocation.call.isFinal error = true) : invocation.call.Blocked source := by
  rcases invocation with ⟨authorized, transferAccepted, call⟩
  have ends : EndsFinalOnlyIf
      (call.run (Invocation.env ⟨authorized, transferAccepted, call⟩ contract source.ledger))
      source.state call (call.Blocked source) := by
    cases call with
    | initializeContract admin token =>
        exact ends_map_iff.mpr (finalOnlyIf_initializeContract (.initialized rfl))
    | scheduleAdminTransfer admin newAdmin =>
        apply ends_map_iff.mpr
        apply finalOnlyIf_scheduleAdminTransfer
        exact fun unchanged => .invalid unchanged
    | executeAdminTransfer => exact ends_map_iff.mpr finalOnlyIf_executeAdminTransfer
    | cancelAdminTransfer admin => exact ends_map_iff.mpr finalOnlyIf_cancelAdminTransfer
    | setAdmin newAdmin => exact ends_map_iff.mpr finalOnlyIf_setAdmin
    | setSupplyCap newCap =>
        apply ends_map_iff.mpr
        apply finalOnlyIf_setSupplyCap
        exact fun nonpos => .invalid (Int.lt_add_one_iff.mpr nonpos)
    | createStream sender recipient totalAmount startTime endTime =>
        apply ends_map_iff.mpr
        apply finalOnlyIf_createStream
        · exact fun tooSmall => .invalid (.inl tooSmall)
        · exact fun late => .invalid (.inr (late_iff.mp late))
    | createStreamBatch sender requests =>
        apply ends_map_iff.mpr
        apply finalOnlyIf_createStreamBatch
        · exact fun empty => .invalid (.inl empty)
        · exact fun request mem invalid => .invalid (.inr ⟨request, mem, invalid⟩)
    | topUp id sender amount =>
        apply ends_map_iff.mpr
        apply finalOnlyIf_topUp
        · exact fun tooSmall => .invalid tooSmall
        · exact fun stream stored bars => .barred rfl stored bars
    | extendStream id sender newEnd =>
        apply ends_map_iff.mpr
        apply finalOnlyIf_extendStream
        exact fun stream stored bars => .barred rfl stored bars
    | withdraw id recipient =>
        apply ends_map_iff.mpr
        apply finalOnlyIf_withdraw
        exact fun stream stored bars => .barred rfl stored bars
    | cancel id caller =>
        apply ends_map_iff.mpr
        apply finalOnlyIf_cancel
        exact fun stream stored bars => .barred rfl stored bars
    | query view => exact finalOnlyIf_view
  unfold Invocation.outcome at refused
  split at refused
  · contradiction
  · rename_i fault after runEq
    cases refused
    exact ends.of_error runEq error rfl isFinal

/--
A call that is refused with a final error fails at any later time as well, whoever
authorizes it then and whatever the token accepts.
-/
theorem refused_for_good {invocation : Invocation Address} {error : Error}
    (reachable : Reachable contract source)
    (refused : (invocation.outcome contract source).1 = .error (.error error))
    (isFinal : invocation.call.isFinal error = true) {trace : Trace Address}
    {later : System Address} (run : Run (Step contract) source trace later)
    {again : Invocation Address} (same : again.call = invocation.call) :
    ∃ fault, (again.outcome contract later).1 = .error fault := by
  have blocked : invocation.call.Blocked later := by
    have both : Reachable contract later ∧ invocation.call.Blocked later := by
      apply run.invariant_of_forall (fun _ => True)
        ⟨reachable, blocked_of_isFinal refused isFinal⟩ (by simp)
      rintro source label target ⟨reachable, blocked⟩ step _
      exact ⟨reachable.step step, blocked.step reachable step⟩
    exact both.2
  rw [← same] at blocked
  cases outcome : (again.outcome contract later).1 with
  | error fault => exact ⟨fault, rfl⟩
  | ok reply => exact absurd outcome blocked.not_returned

namespace Sample

/-- The stream is cancelled when its recipient asks for more. -/
def cancelledFirst : List (Action Party) :=
  withdrawing ++ [callBy .alice (.cancel 0 .alice)]

end Sample

/-- The theorem applies to a withdrawal from a cancelled stream. -/
theorem refused_for_good_cancelledFirst :
    ∃ fault, ((Sample.invocationBy .bob (.withdraw 0 .bob)).outcome .contract
        ([Sample.advanceTo (Sample.time 300)].foldl (System.next .contract)
          (Sample.final Sample.cancelledFirst))).1 = .error fault :=
  refused_for_good (Sample.history (by decide)).reachable (by rfl) (by rfl)
    (run_execute (by decide)) rfl

namespace Sample

/-- Refused at first, the invocation returns after what happens in between. -/
theorem exists_retry {error : Error} (earlier between : List (Action Party))
    (invocation : Invocation Party) {reply : Reply Party}
    (allowed : AllAllowed (System.next .contract) (System.Allowed .contract) start earlier)
    (allowedBetween : AllAllowed (System.next .contract) (System.Allowed .contract)
      (final earlier) between)
    (refused : (invocation.outcome .contract (final earlier)).1 = .error (.error error))
    (returned : (invocation.outcome .contract
      (between.foldl (System.next .contract) (final earlier))).1 = .ok reply) :
    ∃ (source later : System Party) (trace : Trace Party) (invocation : Invocation Party)
        (reply : Reply Party),
      Reachable .contract source ∧ Run (Step .contract) source trace later ∧
        (invocation.outcome .contract source).1 = .error (.error error) ∧
          (invocation.outcome .contract later).1 = .ok reply :=
  ⟨_, _, _, invocation, reply, (history allowed).reachable, run_execute allowedBetween, refused,
    returned⟩

def initializing : List (Action Party) :=
  [callBy .admin (.initializeContract .admin .token)]

def scheduling : Action Party :=
  callBy .admin (.scheduleAdminTransfer .admin .carol)

end Sample

/--
Every error that is not final is transient: in some run an invocation is refused with
it, and the same invocation returns later.
-/
theorem transient_refusal (error : Error) (transient : error.isFinal = false) :
    ∃ (source later : System Sample.Party) (trace : Trace Sample.Party)
        (invocation : Invocation Sample.Party) (reply : Reply Sample.Party),
      Reachable .contract source ∧ Run (Step .contract) source trace later ∧
        (invocation.outcome .contract source).1 = .error (.error error) ∧
          (invocation.outcome .contract later).1 = .ok reply := by
  cases error with
  | notInitialized =>
      exact Sample.exists_retry [] Sample.initializing
        (Sample.invocationBy .admin (.setSupplyCap (Sample.units 1000)))
        (by decide) (by decide) rfl rfl
  | streamNotFound =>
      exact Sample.exists_retry Sample.initializing [Sample.fundOne]
        (Sample.invocationBy .alice (.topUp 0 .alice (Sample.units 500)))
        (by decide) (by decide) rfl rfl
  | unauthorized =>
      exact Sample.exists_retry Sample.initializing
        [Sample.callBy .admin (.setAdmin .dave)]
        (Sample.invocationBy .dave (.scheduleAdminTransfer .dave .bob))
        (by decide) (by decide) rfl rfl
  | overflow =>
      exact Sample.exists_retry Sample.enormous [Sample.advanceTo (Sample.time 200)]
        (Sample.invocationBy .bob (.withdraw 0 .bob)) (by decide) (by decide) rfl rfl
  | nothingToWithdraw =>
      exact Sample.exists_retry Sample.withdrawing [Sample.advanceTo (Sample.time 160)]
        (Sample.invocationBy .bob (.withdraw 0 .bob)) (by decide) (by decide) rfl rfl
  | noPendingAdminAction =>
      exact Sample.exists_retry Sample.initializing
        [Sample.scheduling, Sample.advanceTo (Sample.time 86400)]
        (Sample.invocationBy .bob .executeAdminTransfer) (by decide) (by decide) rfl rfl
  | timelockNotExpired =>
      exact Sample.exists_retry (Sample.initializing ++ [Sample.scheduling])
        [Sample.advanceTo (Sample.time 86400)]
        (Sample.invocationBy .bob .executeAdminTransfer) (by decide) (by decide) rfl rfl
  | supplyCapExceeded =>
      exact Sample.exists_retry (Sample.capped (Sample.units 500))
        [Sample.callBy .admin (.setSupplyCap (Sample.units 2000))]
        (Sample.invocationBy .alice
          (.createStream .alice .bob (Sample.units 1000) 0 (Sample.time 200)))
        (by decide) (by decide) rfl rfl
  | _ => contradiction

end StreamPay
