import StreamPay.Foundation.CleanFailure
import StreamPay.Safety

/-!
# Checks before effects

A contract error is returned to the caller, and it is the host that discards what
the call has done before.  Almost no entry point depends on that: it makes all of
its checks before its first effect.  The exception is `create_stream`, which
takes the tokens of the sender before it finds out that there is no id left.
-/

namespace StreamPay

open Foundation Foundation.Computation

variable {Address : Type}

/-- The faults that a call reports to its caller. -/
def Fault.Reported (fault : Fault) : Prop :=
  ∃ error, fault = .error error

@[simp]
theorem reported_error (error : Error) : Fault.Reported (.error error) :=
  ⟨error, rfl⟩

@[simp]
theorem not_reported_trap (trap : Trap) : ¬Fault.Reported (.trap trap) := by
  rintro ⟨error, same⟩
  contradiction

section Inspecting

variable {env : Env Address} {id : U64}

@[simp]
theorem inspects_liftM {Result : Type} {value : Except Fault Result} :
    Inspects (liftM value : Contract Address Result) := by
  constructor
  · intro before result after returned
    exact (liftM_eq_ok_iff.mp returned).2
  · intro before fault after failed
    change liftResult value before = _ at failed
    cases value with
    | ok result => cases failed
    | error other =>
        cases failed
        rfl

@[simp]
theorem inspects_readState {Result : Type} {read : State Address → Result} :
    Inspects (readState read) := by
  constructor
  · intro before result after returned
    exact (readState_eq_ok_iff.mp returned).2
  · intro before fault after failed
    cases failed

@[simp]
theorem inspects_failIf {condition : Prop} [Decidable condition] {error : Error} :
    Inspects (failIf condition error : Contract Address Unit) :=
  .ite (.throw _) (.pure _)

@[simp]
theorem inspects_requireAuth {address : Address} : Inspects (requireAuth env address) :=
  .ite (.pure _) (.throw _)

@[simp]
theorem inspects_readAdmin : Inspects (readAdmin : Contract Address Address) :=
  .bind inspects_readState fun _ => inspects_liftM

@[simp]
theorem inspects_readToken : Inspects (readToken : Contract Address Address) :=
  .bind inspects_readState fun _ => inspects_liftM

@[simp]
theorem inspects_requireInitialized : Inspects (requireInitialized : Contract Address Unit) :=
  .bind inspects_readState fun _ => inspects_failIf

@[simp]
theorem inspects_getStream : Inspects (getStream id : Contract Address (Stream Address)) :=
  .bind inspects_readState fun _ => inspects_liftM

@[simp]
theorem inspects_validateRequests {requests : HostVec (StreamRequest Address)} {now : U64}
    {fuel : ℕ} {index : U32} {aggregate : I128} :
    Inspects (validateRequests requests now fuel index aggregate) := by
  induction fuel generalizing index aggregate with
  | zero => exact .pure aggregate
  | succ fuel ih =>
      unfold validateRequests
      refine .ite ?_ (.pure aggregate)
      refine .bind inspects_liftM fun request => ?_
      refine .bind inspects_failIf fun _ => .bind inspects_failIf fun _ => ?_
      refine .bind inspects_failIf fun _ => .bind inspects_failIf fun _ => ?_
      exact .bind inspects_liftM fun _ => .bind inspects_liftM fun _ => ih

end Inspecting

section EntryPoints

variable {env : Env Address} {before : State Address} {id : U64}

/-- A contract error is reported only in the state in which the computation was started. -/
def Clean {Result : Type} (computation : Contract Address Result) (before : State Address) :
    Prop :=
  FailsCleanly Fault.Reported computation before

theorem clean_initializeContract {admin token : Address} :
    Clean (initializeContract env admin token) before := by
  simp only [Clean, initializeContract, hasAdmin, failsCleanly_bind_iff, inspects_readState,
    inspects_failIf]
  intros
  apply FailsCleanly.of_ends
  simp [writeAdmin, writeToken, writeCounter, writeTotalSupply, writeSupplyCap, extendInstance]

theorem clean_executeAdminTransfer : Clean (executeAdminTransfer env) before := by
  simp only [Clean, executeAdminTransfer, readPendingAdmin, readAdminActionExecuteAfter,
    failsCleanly_bind_iff, inspects_requireInitialized, inspects_readState, inspects_liftM,
    inspects_failIf, inspects_readAdmin]
  intros
  apply FailsCleanly.of_ends
  simp [writeAdmin, clearPendingAdminAction, extendInstance, adminTransferExecuted, publish]

theorem clean_setAdmin {newAdmin : Address} : Clean (setAdmin env newAdmin) before := by
  simp only [Clean, setAdmin, failsCleanly_bind_iff, inspects_requireInitialized,
    inspects_readAdmin, inspects_requireAuth]
  intros
  apply FailsCleanly.of_ends
  simp [writeAdmin, extendInstance, adminChanged, publish]

theorem clean_upgrade {newWasmHash : BitVec 256} : Clean (upgrade env newWasmHash) before := by
  simp only [Clean, upgrade, failsCleanly_bind_iff, inspects_requireInitialized,
    inspects_readAdmin, inspects_requireAuth]
  intros
  apply FailsCleanly.of_ends
  simp [updateCurrentContractWasm, extendInstance, contractUpgraded, publish]

theorem clean_setSupplyCap {newCap : I128} : Clean (setSupplyCap env newCap) before := by
  simp only [Clean, setSupplyCap, readSupplyCap, failsCleanly_bind_iff,
    inspects_requireInitialized, inspects_readAdmin, inspects_requireAuth, inspects_failIf,
    inspects_readState]
  intros
  apply FailsCleanly.of_ends
  simp [writeSupplyCap, extendInstance, supplyCapUpdated, publish]

/-- The construction loop reports nothing. -/
theorem createRequests_ends_quietly {sender : Address}
    {requests : HostVec (StreamRequest Address)} {firstId : U64} {fuel : ℕ} {index : U32}
    {ids : List U64} :
    Ends (createRequests env sender requests firstId fuel index ids) (fun _ _ => True)
      (fun fault => ¬fault.Reported) before := by
  induction fuel generalizing index ids before with
  | zero => simp [createRequests]
  | succ fuel ih => simp [createRequests, writeStream, streamCreated, publish, ih]

theorem inspects_view (view : View) : Inspects (view.run env) := by
  cases view <;> apply Inspects.map
  case getAdmin => exact .bind inspects_requireInitialized fun _ => inspects_readAdmin
  case getPendingAdmin => exact .bind inspects_requireInitialized fun _ => inspects_readState
  case getAdminActionExecuteAfter =>
    exact .bind inspects_requireInitialized fun _ => inspects_readState
  case getToken => exact .bind inspects_requireInitialized fun _ => inspects_readToken
  case streamCounter => exact inspects_readState
  case getTotalSupply => exact inspects_readState
  case getSupplyCap => exact inspects_readState
  case getStream id => exact inspects_getStream
  case getStatus id => exact .bind inspects_getStream fun _ => .pure _
  case isActive id => exact .bind inspects_getStream fun _ => .pure _
  case percentWithdrawn id =>
    refine .bind inspects_getStream fun stream => .ite (.pure _) ?_
    exact .bind inspects_liftM fun _ => .bind inspects_liftM fun _ => .pure _
  case getSummary id =>
    refine .bind inspects_getStream fun stream => .bind inspects_liftM fun _ => ?_
    exact .bind inspects_liftM fun _ => .bind inspects_liftM fun _ => .pure _
  all_goals exact .bind inspects_getStream fun _ => inspects_liftM

variable [DecidableEq Address]

theorem clean_scheduleAdminTransfer {admin newAdmin : Address} :
    Clean (scheduleAdminTransfer env admin newAdmin) before := by
  simp only [Clean, scheduleAdminTransfer, failsCleanly_bind_iff, inspects_requireInitialized,
    inspects_requireAuth, inspects_readAdmin, inspects_failIf, inspects_liftM]
  intros
  apply FailsCleanly.of_ends
  simp [writePendingAdminAction, extendInstance, adminTransferScheduled, publish]

theorem clean_cancelAdminTransfer {admin : Address} :
    Clean (cancelAdminTransfer env admin) before := by
  simp only [Clean, cancelAdminTransfer, readPendingAdmin, failsCleanly_bind_iff,
    inspects_requireInitialized, inspects_requireAuth, inspects_readAdmin, inspects_readState,
    inspects_failIf]
  intros
  apply FailsCleanly.of_ends
  simp [clearPendingAdminAction, extendInstance, adminTransferCancelled, publish]

theorem clean_topUp {sender : Address} {amount : I128} :
    Clean (topUp env id sender amount) before := by
  simp only [Clean, topUp, readTotalSupply, readSupplyCap, failsCleanly_bind_iff,
    inspects_requireAuth, inspects_failIf, inspects_getStream, inspects_liftM,
    inspects_readState, inspects_readToken]
  intros
  apply FailsCleanly.of_ends
  simp [writeStream, writeTotalSupply, extendInstance, streamToppedUp, publish]

theorem clean_extendStream {sender : Address} {newEnd : U64} :
    Clean (extendStream env id sender newEnd) before := by
  simp only [Clean, extendStream, failsCleanly_bind_iff, inspects_requireAuth, inspects_failIf,
    inspects_getStream]
  intros
  apply FailsCleanly.of_ends
  simp [writeStream, extendInstance, streamExtended, publish]

theorem clean_withdraw {recipient : Address} : Clean (withdraw env id recipient) before := by
  simp only [Clean, withdraw, failsCleanly_bind_iff, inspects_requireAuth, inspects_failIf,
    inspects_getStream, inspects_liftM]
  intros
  apply FailsCleanly.of_ends
  simp [readTotalSupply, writeStream, writeTotalSupply, streamWithdrawn, publish]

theorem clean_cancel {caller : Address} : Clean (cancel env id caller) before := by
  simp only [Clean, cancel, failsCleanly_bind_iff, inspects_requireAuth, inspects_failIf,
    inspects_getStream, inspects_liftM]
  intros
  apply FailsCleanly.of_ends
  simp [readTotalSupply, writeStream, writeTotalSupply, streamCancelled, publish]

theorem clean_createStreamBatch {sender : Address} {requests : HostVec (StreamRequest Address)} :
    Clean (createStreamBatch env sender requests) before := by
  simp only [Clean, createStreamBatch, readCounter, failsCleanly_bind_iff,
    inspects_requireInitialized, inspects_requireAuth, inspects_failIf, inspects_validateRequests,
    inspects_readState, inspects_liftM, inspects_readToken]
  intros
  apply FailsCleanly.of_ends
  simp [writeCounter, extendInstance, createRequests_ends_quietly]

/-- The counter has named its last stream. -/
def State.Exhausted (state : State Address) : Prop :=
  (state.counter.getD 0).val = 2 ^ 64 - 1

/-- Everything that `create_stream` asks for before it looks at the counter. -/
structure CreateStreamFunds (env : Env Address) (state : State Address) (sender : Address)
    (totalAmount : I128) (startTime endTime : U64) : Prop where
  initialized : ∃ admin, state.admin = some admin
  authorized : env.authorized sender = true
  amountPos : 1 ≤ totalAmount.val
  window : (normalizeStartTime env.ledger.timestamp startTime).val < endTime.val
  endsLater : env.ledger.timestamp.val < endTime.val
  underCap : ∃ newSupply : I128,
    newSupply.val = (state.totalSupply.getD 0).val + totalAmount.val ∧
      newSupply.val ≤ (state.supplyCap.getD I128.max).val
  accepted : ∃ token, state.token = some token ∧
    env.accepts state.balances
      ⟨token, sender, env.currentContractAddress, totalAmount, .funding⟩ = true

omit [DecidableEq Address] in
theorem exhausted_iff : before.Exhausted ↔ (before.counter.getD 0).checkedAdd 1 = none := by
  have lower := (before.counter.getD 0).lower_le
  have upper := (before.counter.getD 0).le_upper
  rw [BoundedInt.checkedAdd_eq_none_iff, u64_one_val, State.Exhausted]
  omega

/-- A transfer before the counter is read can be reported as an overflow. -/
theorem clean_transfer_iff {token sender : Address} {totalAmount : I128} {Result : Type}
    {rest : U64 → U64 → Contract Address Result}
    (quiet : ∀ id next state,
      Ends (rest id next) (fun _ _ => True) (fun fault => ¬fault.Reported) state) :
    Clean (do
        transfer env token sender env.currentContractAddress totalAmount .funding
        let id ← readCounter
        let next ← (liftM (okOr (id.checkedAdd 1) .overflow) : Contract Address U64)
        rest id next) before ↔
      ¬(env.accepts before.balances
          ⟨token, sender, env.currentContractAddress, totalAmount, .funding⟩ = true ∧
        before.Exhausted) := by
  rw [exhausted_iff]
  constructor
  · rintro clean ⟨accepted, full⟩
    let paid := before.recordTransfer
      ⟨token, sender, env.currentContractAddress, totalAmount, .funding⟩
    have transferred : transfer env token sender env.currentContractAddress totalAmount .funding
        before = .ok () paid :=
      transfer_eq_ok_iff.mpr ⟨accepted, rfl⟩
    have counted : readCounter paid = .ok (before.counter.getD 0) paid := rfl
    have unchanged : paid = before := by
      apply clean (.error .overflow) paid (reported_error _)
      rw [bind_of_ok transferred, bind_of_ok counted, full]
      rfl
    have longer := congrArg (fun state => state.transfers.length) unchanged
    simp [paid] at longer
  · intro notBoth
    apply FailsCleanly.of_ends
    simpa [readCounter, quiet] using notBoth

theorem clean_createStream_iff {sender recipient : Address} {totalAmount : I128}
    {startTime endTime : U64} :
    Clean (createStream env sender recipient totalAmount startTime endTime) before ↔
      ¬(CreateStreamFunds env before sender totalAmount startTime endTime ∧
        before.Exhausted) := by
  have quiet (newSupply : I128) (id next : U64) (state : State Address) :
      Ends (do
          writeStream env id
            { sender := sender
              recipient := recipient
              total := totalAmount
              withdrawn := 0
              start := normalizeStartTime env.ledger.timestamp startTime
              «end» := endTime
              status := .active }
          writeCounter next
          writeTotalSupply newSupply
          extendInstance env
          streamCreated id sender recipient totalAmount
          return id) (fun _ _ => True) (fun fault => ¬fault.Reported) state := by
    simp [writeStream, writeCounter, writeTotalSupply, extendInstance, streamCreated, publish]
  simp only [Clean, createStream, readTotalSupply, readSupplyCap, failsCleanly_bind_iff,
    inspects_requireInitialized, inspects_requireAuth, inspects_failIf, inspects_readState,
    inspects_liftM, inspects_readToken, requireInitialized_eq_ok_iff, requireAuth_eq_ok_iff,
    failIf_eq_ok_iff, liftM_eq_ok_iff, okOr_eq_ok_iff, readState_eq_ok_iff, readToken_eq_ok_iff,
    and_true, forall_const, forall_eq, Bool.not_eq_false, isValidAmount_iff,
    BoundedInt.checkedAdd_eq_some_iff, gt_iff_lt]
  constructor
  · rintro clean ⟨⟨initialized, authorized, amountPos, window, endsLater,
      ⟨newSupply, newSupplyEq, underCap⟩, token, tokenSet, accepted⟩, full⟩
    have tail := clean initialized authorized amountPos (not_lt.mpr amountPos)
      (not_le.mpr window) (not_le.mpr endsLater) newSupply newSupplyEq (not_lt.mpr underCap)
      token tokenSet
    exact (clean_transfer_iff (quiet newSupply)).mp tail ⟨accepted, full⟩
  · intro notBoth initialized authorized amountPos _ window endsLater newSupply newSupplyEq underCap
      token tokenSet
    apply (clean_transfer_iff (quiet newSupply)).mpr
    rintro ⟨accepted, full⟩
    exact notBoth ⟨⟨initialized, authorized, amountPos, not_le.mp window, not_le.mp endsLater,
      ⟨newSupply, newSupplyEq, not_lt.mp underCap⟩, token, tokenSet, accepted⟩, full⟩

/-- The calls, and the upgrade that is not one of them. -/
inductive EntryPoint (Address : Type) where
  | call (called : Call Address)
  | upgrade (newWasmHash : BitVec 256)

def EntryPoint.run (env : Env Address) : EntryPoint Address → Contract Address (Reply Address)
  | .call called => called.run env
  | .upgrade newWasmHash => (fun _ => Reply.unit) <$> StreamPay.upgrade env newWasmHash

/-- A `create_stream` that takes the tokens and then finds no id. -/
def EntryPoint.TakesTooEarly (env : Env Address) (before : State Address) :
    EntryPoint Address → Prop
  | .call (.createStream sender _ totalAmount startTime endTime) =>
      CreateStreamFunds env before sender totalAmount startTime endTime ∧ before.Exhausted
  | _ => False

theorem clean_call {call : Call Address}
    (notCreated : ∀ sender recipient totalAmount startTime endTime,
      call ≠ .createStream sender recipient totalAmount startTime endTime) :
    Clean (call.run env) before := by
  cases call with
  | initializeContract => exact failsCleanly_map_iff.mpr clean_initializeContract
  | scheduleAdminTransfer => exact failsCleanly_map_iff.mpr clean_scheduleAdminTransfer
  | executeAdminTransfer => exact failsCleanly_map_iff.mpr clean_executeAdminTransfer
  | cancelAdminTransfer => exact failsCleanly_map_iff.mpr clean_cancelAdminTransfer
  | setAdmin => exact failsCleanly_map_iff.mpr clean_setAdmin
  | setSupplyCap => exact failsCleanly_map_iff.mpr clean_setSupplyCap
  | createStream => exact absurd rfl (notCreated _ _ _ _ _)
  | createStreamBatch => exact failsCleanly_map_iff.mpr clean_createStreamBatch
  | topUp => exact failsCleanly_map_iff.mpr clean_topUp
  | extendStream => exact failsCleanly_map_iff.mpr clean_extendStream
  | withdraw => exact failsCleanly_map_iff.mpr clean_withdraw
  | cancel => exact failsCleanly_map_iff.mpr clean_cancel
  | query view => exact (inspects_view view).failsCleanly

/-- A reported error leaves no trace, except where `create_stream` runs out of ids. -/
theorem checks_first_iff (env : Env Address) (before : State Address)
    (entryPoint : EntryPoint Address) :
    Clean (entryPoint.run env) before ↔ ¬entryPoint.TakesTooEarly env before := by
  cases entryPoint with
  | upgrade newWasmHash =>
      exact iff_of_true (failsCleanly_map_iff.mpr clean_upgrade) not_false
  | call called =>
      have run : (EntryPoint.call called).run env = called.run env := rfl
      rw [run]
      cases called with
      | createStream => exact failsCleanly_map_iff.trans clean_createStream_iff
      | _ => exact iff_of_true (clean_call (by simp)) not_false

end EntryPoints

namespace Sample

/-- Half of the window of a first stream has elapsed, and there are no ids left. -/
def exhausted : State Party :=
  { (final (withdrawing.take 2)).state with counter := some (time (2 ^ 64 - 1)) }

def environment (caller : Party) : Env Party where
  ledger := ledgerAt (time 150)
  currentContractAddress := .contract
  authorized := fun party => decide (party = caller)
  transferAccepted := fun balances asset source _ amount =>
    decide (amount.val ≤ balances asset source)
  uploaded := fun _ => false

end Sample

/-- The tokens are with the contract when `Overflow` is returned. -/
theorem checks_first_exhausted :
    ¬∀ (env : Env Sample.Party) (before : State Sample.Party)
        (entryPoint : EntryPoint Sample.Party),
      Clean (entryPoint.run env) before := by
  intro checksFirst
  let entryPoint : EntryPoint Sample.Party :=
    .call (.createStream .alice .bob (Sample.units 1000) (Sample.time 150) (Sample.time 200))
  have failed : ∃ after, entryPoint.run (Sample.environment .alice) Sample.exhausted =
      .error (.error .overflow) after ∧
        after.balances .token .contract ≠ Sample.exhausted.balances .token .contract := by
    refine ⟨_, rfl, ?_⟩
    decide
  rcases failed with ⟨after, failed, moved⟩
  have unchanged := checksFirst _ _ entryPoint _ after (reported_error _) failed
  rw [unchanged] at moved
  contradiction

end StreamPay
