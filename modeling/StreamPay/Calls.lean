import StreamPay.Effects.Batch

/-!
# Calls and their effects

This file collects the entry points into one type of calls and says once what a
call that returns has done.  Every later statement about all calls is a case
analysis on `Effect`.

Upgrades are left out, because nothing is known about the code that they
install.
-/

namespace StreamPay

open Foundation Foundation.Computation

inductive View where
  | getAdmin
  | getPendingAdmin
  | getAdminActionExecuteAfter
  | getToken
  | streamCounter
  | getTotalSupply
  | getSupplyCap
  | getStream (id : U64)
  | getStatus (id : U64)
  | isActive (id : U64)
  | duration (id : U64)
  | elapsed (id : U64)
  | streamedAmount (id : U64)
  | progressBps (id : U64)
  | percentWithdrawn (id : U64)
  | remainingAmount (id : U64)
  | getSummary (id : U64)
  | withdrawableAmount (id : U64)

inductive Call (Address : Type) where
  | initializeContract (admin token : Address)
  | scheduleAdminTransfer (admin newAdmin : Address)
  | executeAdminTransfer
  | cancelAdminTransfer (admin : Address)
  | setAdmin (newAdmin : Address)
  | setSupplyCap (newCap : I128)
  | createStream (sender recipient : Address) (totalAmount : I128) (startTime endTime : U64)
  | createStreamBatch (sender : Address) (requests : HostVec (StreamRequest Address))
  | topUp (id : U64) (sender : Address) (amount : I128)
  | extendStream (id : U64) (sender : Address) (newEnd : U64)
  | withdraw (id : U64) (recipient : Address)
  | cancel (id : U64) (caller : Address)
  | query (view : View)

inductive Reply (Address : Type) where
  | unit
  | bool (value : Bool)
  | u32 (value : U32)
  | u64 (value : U64)
  | i128 (value : I128)
  | ids (value : List U64)
  | address (value : Address)
  | addressOption (value : Option Address)
  | u64Option (value : Option U64)
  | status (value : Status)
  | stream (value : Stream Address)
  | summary (value : StreamSummary)

variable {Address : Type}

/-- The existing stream that a call would change. -/
def Call.target : Call Address → Option U64
  | .topUp id _ _ | .extendStream id _ _ | .withdraw id _ | .cancel id _ => some id
  | _ => none

def View.run (env : Env Address) : View → Contract Address (Reply Address)
  | .getAdmin => Reply.address <$> StreamPay.getAdmin
  | .getPendingAdmin => Reply.addressOption <$> StreamPay.getPendingAdmin
  | .getAdminActionExecuteAfter => Reply.u64Option <$> StreamPay.getAdminActionExecuteAfter
  | .getToken => Reply.address <$> StreamPay.getToken
  | .streamCounter => Reply.u64 <$> StreamPay.streamCounter
  | .getTotalSupply => Reply.i128 <$> StreamPay.getTotalSupply
  | .getSupplyCap => Reply.i128 <$> StreamPay.getSupplyCap
  | .getStream id => Reply.stream <$> StreamPay.getStream id
  | .getStatus id => Reply.status <$> StreamPay.getStatus id
  | .isActive id => Reply.bool <$> StreamPay.isActive id
  | .duration id => Reply.u64 <$> StreamPay.duration id
  | .elapsed id => Reply.u64 <$> StreamPay.elapsed env id
  | .streamedAmount id => Reply.i128 <$> StreamPay.streamedAmount env id
  | .progressBps id => Reply.u32 <$> StreamPay.progressBps env id
  | .percentWithdrawn id => Reply.u32 <$> StreamPay.percentWithdrawn id
  | .remainingAmount id => Reply.i128 <$> StreamPay.remainingAmount env id
  | .getSummary id => Reply.summary <$> StreamPay.getSummary env id
  | .withdrawableAmount id => Reply.i128 <$> StreamPay.withdrawableAmount env id

def Call.run [DecidableEq Address] (env : Env Address) :
    Call Address → Contract Address (Reply Address)
  | .initializeContract admin token =>
      (fun _ => Reply.unit) <$> StreamPay.initializeContract env admin token
  | .scheduleAdminTransfer admin newAdmin =>
      Reply.u64 <$> StreamPay.scheduleAdminTransfer env admin newAdmin
  | .executeAdminTransfer => (fun _ => Reply.unit) <$> StreamPay.executeAdminTransfer env
  | .cancelAdminTransfer admin =>
      (fun _ => Reply.unit) <$> StreamPay.cancelAdminTransfer env admin
  | .setAdmin newAdmin => (fun _ => Reply.unit) <$> StreamPay.setAdmin env newAdmin
  | .setSupplyCap newCap => (fun _ => Reply.unit) <$> StreamPay.setSupplyCap env newCap
  | .createStream sender recipient totalAmount startTime endTime =>
      Reply.u64 <$> StreamPay.createStream env sender recipient totalAmount startTime endTime
  | .createStreamBatch sender requests =>
      Reply.ids <$> StreamPay.createStreamBatch env sender requests
  | .topUp id sender amount => Reply.i128 <$> StreamPay.topUp env id sender amount
  | .extendStream id sender newEnd =>
      (fun _ => Reply.unit) <$> StreamPay.extendStream env id sender newEnd
  | .withdraw id recipient => Reply.i128 <$> StreamPay.withdraw env id recipient
  | .cancel id caller => (fun _ => Reply.unit) <$> StreamPay.cancel env id caller
  | .query view => view.run env

section Views

theorem readOnly_liftM {Result : Type} (value : Except Fault Result) :
    ReadOnly (liftM value : Contract Address Result) := by
  intro before result after returned
  exact (liftM_eq_ok_iff.mp returned).2

theorem readOnly_readState {Result : Type} (read : State Address → Result) :
    ReadOnly (readState read) := by
  intro before result after returned
  exact (readState_eq_ok_iff.mp returned).2

theorem readOnly_requireInitialized : ReadOnly (requireInitialized : Contract Address Unit) := by
  intro before result after returned
  exact (requireInitialized_eq_ok_iff.mp returned).2

theorem readOnly_readAdmin : ReadOnly (readAdmin : Contract Address Address) :=
  (readOnly_readState _).bind fun _ => readOnly_liftM _

theorem readOnly_readToken : ReadOnly (readToken : Contract Address Address) :=
  (readOnly_readState _).bind fun _ => readOnly_liftM _

theorem readOnly_getStream (id : U64) :
    ReadOnly (getStream id : Contract Address (Stream Address)) :=
  (readOnly_readState _).bind fun _ => readOnly_liftM _

/-- No view changes the state. -/
theorem readOnly_view (env : Env Address) (view : View) : ReadOnly (view.run env) := by
  have guarded {Result : Type} {rest : Contract Address Result} (restReads : ReadOnly rest) :
      ReadOnly (requireInitialized >>= fun _ => rest) :=
    readOnly_requireInitialized.bind fun _ => restReads
  have computed {Result : Type} (id : U64) (value : Stream Address → Except Fault Result) :
      ReadOnly (StreamPay.getStream id >>= fun stream =>
        (liftM (value stream) : Contract Address Result)) :=
    (readOnly_getStream id).bind fun _ => readOnly_liftM _
  have returned {Result : Type} (id : U64) (value : Stream Address → Result) :
      ReadOnly (StreamPay.getStream id >>= fun stream =>
        (pure (value stream) : Contract Address Result)) :=
    (readOnly_getStream id).bind fun _ => .pure _
  cases view with
  | getAdmin => exact (guarded readOnly_readAdmin).map _
  | getPendingAdmin => exact (guarded (readOnly_readState _)).map _
  | getAdminActionExecuteAfter => exact (guarded (readOnly_readState _)).map _
  | getToken => exact (guarded readOnly_readToken).map _
  | streamCounter => exact (readOnly_readState _).map _
  | getTotalSupply => exact (readOnly_readState _).map _
  | getSupplyCap => exact (readOnly_readState _).map _
  | getStream id => exact (readOnly_getStream id).map _
  | getStatus id => exact (returned id _).map _
  | isActive id => exact (returned id _).map _
  | duration id => exact (computed id _).map _
  | elapsed id => exact (computed id _).map _
  | streamedAmount id => exact (computed id _).map _
  | progressBps id => exact (computed id _).map _
  | percentWithdrawn id =>
      refine ((readOnly_getStream id).bind fun stream => ?_).map _
      refine .ite (.pure _) ?_
      exact (readOnly_liftM _).bind fun _ => (readOnly_liftM _).bind fun _ => .pure _
  | remainingAmount id => exact (computed id _).map _
  | getSummary id =>
      refine ((readOnly_getStream id).bind fun stream => ?_).map _
      exact (readOnly_liftM _).bind fun _ => (readOnly_liftM _).bind fun _ =>
        (readOnly_liftM _).bind fun _ => .pure _
  | withdrawableAmount id => exact (computed id _).map _

end Views

variable [DecidableEq Address]

/-- What a call that returns has done, with the checks that it has passed. -/
inductive Effect (env : Env Address) (before : State Address) :
    Call Address → Reply Address → State Address → Prop where
  | initializeContract {admin token : Address} (fresh : before.admin = none) :
      Effect env before (.initializeContract admin token) .unit
        ((((((before.setAdmin admin).setToken token).setCounter 0).setTotalSupply
          0).setSupplyCap defaultSupplyCap).touchInstance env.ledger)
  | scheduleAdminTransfer {admin newAdmin : Address} {executeAfter : U64}
      (isAdmin : before.admin = some admin) (authorized : env.authorized admin = true)
      (differs : newAdmin ≠ admin)
      (executeAfterEq : executeAfter.val = env.ledger.timestamp.val + 86400) :
      Effect env before (.scheduleAdminTransfer admin newAdmin) (.u64 executeAfter)
        ((((before.setPendingAdmin (some newAdmin)).setExecuteAfter
          (some executeAfter)).touchInstance env.ledger).publish
            (.adminScheduled admin newAdmin executeAfter))
  | executeAdminTransfer {previousAdmin pendingAdmin : Address} {executeAfter : U64}
      (isAdmin : before.admin = some previousAdmin)
      (pending : before.pendingAdmin = some pendingAdmin)
      (deadline : before.adminActionExecuteAfter = some executeAfter)
      (matured : executeAfter.val ≤ env.ledger.timestamp.val) :
      Effect env before .executeAdminTransfer .unit
        (((((before.setAdmin pendingAdmin).setPendingAdmin none).setExecuteAfter
          none).touchInstance env.ledger).publish (.adminTransfer previousAdmin pendingAdmin))
  | cancelAdminTransfer {admin : Address} (isAdmin : before.admin = some admin)
      (authorized : env.authorized admin = true) (pending : before.pendingAdmin ≠ none) :
      Effect env before (.cancelAdminTransfer admin) .unit
        ((((before.setPendingAdmin none).setExecuteAfter none).touchInstance
          env.ledger).publish (.adminCancelled admin))
  | setAdmin {currentAdmin newAdmin : Address} (isAdmin : before.admin = some currentAdmin)
      (authorized : env.authorized currentAdmin = true) :
      Effect env before (.setAdmin newAdmin) .unit
        (((before.setAdmin newAdmin).touchInstance env.ledger).publish
          (.adminSet currentAdmin newAdmin))
  | setSupplyCap {admin : Address} {newCap : I128} (isAdmin : before.admin = some admin)
      (authorized : env.authorized admin = true) (capPos : 0 < newCap.val) :
      Effect env before (.setSupplyCap newCap) .unit
        (((before.setSupplyCap newCap).touchInstance env.ledger).publish
          (.capadmin admin (before.supplyCap.getD I128.max) newCap))
  | createStream {sender recipient token : Address} {totalAmount newSupply : I128}
      {startTime endTime next : U64}
      (checks :
        CreateStreamChecks env before sender totalAmount startTime endTime newSupply token next) :
      Effect env before (.createStream sender recipient totalAmount startTime endTime)
        (.u64 (before.counter.getD 0))
        ((((((before.recordTransfer
          ⟨token, sender, env.currentContractAddress, totalAmount, .funding⟩).putStream
            env.ledger (before.counter.getD 0)
            (.opened sender recipient totalAmount
              (normalizeStartTime env.ledger.timestamp startTime) endTime)).setCounter
                next).setTotalSupply newSupply).touchInstance env.ledger).publish
                  (.created (before.counter.getD 0) sender recipient totalAmount))
  | createStreamBatch {sender token : Address} {requests : HostVec (StreamRequest Address)}
      {aggregate : I128} {nextCounter : U64}
      (checks : CreateBatchChecks env before sender requests aggregate token nextCounter) :
      Effect env before (.createStreamBatch sender requests)
        (.ids (idsFrom (before.counter.getD 0) requests.toList.length))
        ((((before.recordTransfer
          ⟨token, sender, env.currentContractAddress, aggregate, .funding⟩).openAll
            env.ledger sender (before.counter.getD 0) requests.toList).setCounter
              nextCounter).touchInstance env.ledger)
  | topUp {id : U64} {sender token : Address} {amount newTotal newSupply : I128}
      {stream : Stream Address}
      (checks : TopUpChecks env before id sender amount stream newTotal newSupply token) :
      Effect env before (.topUp id sender amount) (.i128 newTotal)
        (((((before.recordTransfer
          ⟨token, sender, env.currentContractAddress, amount, .topUp id⟩).putStream
            env.ledger id { stream with total := newTotal }).setTotalSupply
              newSupply).touchInstance env.ledger).publish
                (.toppedup id sender amount newTotal))
  | extendStream {id : U64} {sender : Address} {newEnd : U64} {stream : Stream Address}
      (checks : ExtendStreamChecks env before id sender newEnd stream) :
      Effect env before (.extendStream id sender newEnd) .unit
        (((before.putStream env.ledger id { stream with «end» := newEnd }).touchInstance
          env.ledger).publish (.extended id sender stream.end newEnd))
  | withdraw {id : U64} {recipient token : Address} {amount withdrawn : I128}
      {stream : Stream Address}
      (checks : WithdrawChecks env before id recipient amount stream withdrawn token) :
      Effect env before (.withdraw id recipient) (.i128 amount)
        (((((before.putStream env.ledger id (stream.paidOut withdrawn)).recordTransfer
          ⟨token, env.currentContractAddress, recipient, amount, .payout id⟩).setTotalSupply
            (((before.totalSupply.getD 0).checkedSub amount).getD 0))).publish
              (.withdrawn id recipient amount))
  | cancel {id : U64} {caller token : Address} {vested recipientPaid senderRefund : I128}
      {stream : Stream Address}
      (checks :
        CancelChecks env before id caller stream vested recipientPaid senderRefund token) :
      Effect env before (.cancel id caller) .unit
        (((((before.putStream env.ledger id (stream.closed vested)).recordPositive
          ⟨token, env.currentContractAddress, stream.recipient, recipientPaid,
            .payout id⟩).recordPositive
            ⟨token, env.currentContractAddress, stream.sender, senderRefund,
              .refund id⟩).setTotalSupply
              (((before.totalSupply.getD 0).checkedSub
                (cancelReleased recipientPaid senderRefund)).getD 0)).publish
                  (.cancelled id caller senderRefund recipientPaid))
  | query {view : View} {reply : Reply Address}
      (returned : view.run env before = .ok reply before) :
      Effect env before (.query view) reply before

/-- A call that returns has the effect that its checks allow. -/
theorem effect_of_run {env : Env Address} {call : Call Address} {before after : State Address}
    {reply : Reply Address} (returned : call.run env before = .ok reply after) :
    Effect env before call reply after := by
  cases call with
  | initializeContract admin token =>
      rcases map_eq_ok_iff.mp returned with ⟨_, ok, rfl⟩
      rcases initializeContract_eq_ok_iff.mp ok with ⟨fresh, rfl⟩
      exact .initializeContract fresh
  | scheduleAdminTransfer admin newAdmin =>
      rcases map_eq_ok_iff.mp returned with ⟨_, ok, rfl⟩
      rcases scheduleAdminTransfer_eq_ok_iff.mp ok with
        ⟨isAdmin, authorized, differs, executeAfterEq, rfl⟩
      exact .scheduleAdminTransfer isAdmin authorized differs executeAfterEq
  | executeAdminTransfer =>
      rcases map_eq_ok_iff.mp returned with ⟨_, ok, rfl⟩
      rcases executeAdminTransfer_eq_ok_iff.mp ok with
        ⟨_, _, _, isAdmin, pending, deadline, matured, rfl⟩
      exact .executeAdminTransfer isAdmin pending deadline matured
  | cancelAdminTransfer admin =>
      rcases map_eq_ok_iff.mp returned with ⟨_, ok, rfl⟩
      rcases cancelAdminTransfer_eq_ok_iff.mp ok with ⟨isAdmin, authorized, pending, rfl⟩
      exact .cancelAdminTransfer isAdmin authorized pending
  | setAdmin newAdmin =>
      rcases map_eq_ok_iff.mp returned with ⟨_, ok, rfl⟩
      rcases setAdmin_eq_ok_iff.mp ok with ⟨_, isAdmin, authorized, rfl⟩
      exact .setAdmin isAdmin authorized
  | setSupplyCap newCap =>
      rcases map_eq_ok_iff.mp returned with ⟨_, ok, rfl⟩
      rcases setSupplyCap_eq_ok_iff.mp ok with ⟨_, isAdmin, authorized, capPos, rfl⟩
      exact .setSupplyCap isAdmin authorized capPos
  | createStream sender recipient totalAmount startTime endTime =>
      rcases map_eq_ok_iff.mp returned with ⟨_, ok, rfl⟩
      rcases createStream_eq_ok_iff.mp ok with ⟨_, _, _, checks, rfl, rfl⟩
      exact .createStream checks
  | createStreamBatch sender requests =>
      rcases map_eq_ok_iff.mp returned with ⟨_, ok, rfl⟩
      rcases createStreamBatch_eq_ok_iff.mp ok with ⟨_, _, _, checks, rfl, rfl⟩
      exact .createStreamBatch checks
  | topUp id sender amount =>
      rcases map_eq_ok_iff.mp returned with ⟨_, ok, rfl⟩
      rcases topUp_eq_ok_iff.mp ok with ⟨_, _, _, checks, rfl⟩
      exact .topUp checks
  | extendStream id sender newEnd =>
      rcases map_eq_ok_iff.mp returned with ⟨_, ok, rfl⟩
      rcases extendStream_eq_ok_iff.mp ok with ⟨_, checks, rfl⟩
      exact .extendStream checks
  | withdraw id recipient =>
      rcases map_eq_ok_iff.mp returned with ⟨_, ok, rfl⟩
      rcases withdraw_eq_ok_iff.mp ok with ⟨_, _, _, checks, rfl⟩
      exact .withdraw checks
  | cancel id caller =>
      rcases map_eq_ok_iff.mp returned with ⟨_, ok, rfl⟩
      rcases cancel_eq_ok_iff.mp ok with ⟨_, _, _, _, _, checks, rfl⟩
      exact .cancel checks
  | query view =>
      have same := readOnly_view env view before reply after returned
      subst after
      exact .query returned

/-- A call whose checks hold returns. -/
theorem Effect.run_eq {env : Env Address} {call : Call Address} {before after : State Address}
    {reply : Reply Address} (effect : Effect env before call reply after) :
    call.run env before = .ok reply after := by
  cases effect with
  | initializeContract fresh =>
      exact map_eq_ok_iff.mpr ⟨(), initializeContract_eq_ok_iff.mpr ⟨fresh, rfl⟩, rfl⟩
  | scheduleAdminTransfer isAdmin authorized differs executeAfterEq =>
      have ok := scheduleAdminTransfer_eq_ok_iff.mpr
        ⟨isAdmin, authorized, differs, executeAfterEq, rfl⟩
      exact map_eq_ok_iff.mpr ⟨_, ok, rfl⟩
  | executeAdminTransfer isAdmin pending deadline matured =>
      exact map_eq_ok_iff.mpr ⟨(), executeAdminTransfer_eq_ok_iff.mpr
        ⟨_, _, _, isAdmin, pending, deadline, matured, rfl⟩, rfl⟩
  | cancelAdminTransfer isAdmin authorized pending =>
      exact map_eq_ok_iff.mpr
        ⟨(), cancelAdminTransfer_eq_ok_iff.mpr ⟨isAdmin, authorized, pending, rfl⟩, rfl⟩
  | setAdmin isAdmin authorized =>
      exact map_eq_ok_iff.mpr ⟨(), setAdmin_eq_ok_iff.mpr ⟨_, isAdmin, authorized, rfl⟩, rfl⟩
  | setSupplyCap isAdmin authorized capPos =>
      exact map_eq_ok_iff.mpr
        ⟨(), setSupplyCap_eq_ok_iff.mpr ⟨_, isAdmin, authorized, capPos, rfl⟩, rfl⟩
  | createStream checks =>
      exact map_eq_ok_iff.mpr ⟨_, createStream_eq_ok_iff.mpr ⟨_, _, _, checks, rfl, rfl⟩, rfl⟩
  | createStreamBatch checks =>
      exact map_eq_ok_iff.mpr ⟨_, createStreamBatch_eq_ok_iff.mpr ⟨_, _, _, checks, rfl, rfl⟩, rfl⟩
  | topUp checks =>
      exact map_eq_ok_iff.mpr ⟨_, topUp_eq_ok_iff.mpr ⟨_, _, _, checks, rfl⟩, rfl⟩
  | extendStream checks =>
      exact map_eq_ok_iff.mpr ⟨(), extendStream_eq_ok_iff.mpr ⟨_, checks, rfl⟩, rfl⟩
  | withdraw checks =>
      exact map_eq_ok_iff.mpr ⟨_, withdraw_eq_ok_iff.mpr ⟨_, _, _, checks, rfl⟩, rfl⟩
  | cancel checks =>
      exact map_eq_ok_iff.mpr ⟨(), cancel_eq_ok_iff.mpr ⟨_, _, _, _, _, checks, rfl⟩, rfl⟩
  | query returned => exact returned

end StreamPay
