import StreamPay.Foundation.Agreement
import StreamPay.System

/-!
# Calls consist of operations of the host

A relation of states that the operations of the host respect is respected by all
calls, since calls consist of these operations.  Not every relation is respected by
all operations: some relate states that differ in the administration, and some relate
states that agree on a single stream only.  The rules of this file therefore come in
three sizes, for the calls on one stream, for the calls of users and for all calls, and
every entry point is walked through once, for every relation with the rules it needs.

The tracked supply is read only to be compared and written back, which a relation can
respect even where it is not the same in both states.
-/

namespace StreamPay

open Foundation Foundation.Computation

variable {Address : Type}

/-- The calls that are not administrative; neither are the views of the administration. -/
def View.isUser : View → Bool
  | .getAdmin | .getPendingAdmin | .getAdminActionExecuteAfter | .getSupplyCap => false
  | _ => true

def Call.isUser : Call Address → Bool
  | .scheduleAdminTransfer .. | .executeAdminTransfer | .cancelAdminTransfer _ | .setAdmin _
  | .setSupplyCap _ => false
  | .query view => view.isUser
  | _ => true

/-- The calls that compare the supply with the cap. -/
def Call.checksCap : Call Address → Bool
  | .createStream .. | .topUp .. => true
  | _ => false

/-- The calls on an existing stream that escrow nothing. -/
def Call.settles : Call Address → Bool
  | .extendStream .. | .withdraw .. | .cancel .. => true
  | _ => false

theorem Call.exists_target {call : Call Address} (settles : call.settles = true) :
    ∃ id, call.target = some id := by
  cases call with
  | extendStream id => exact ⟨id, rfl⟩
  | withdraw id => exact ⟨id, rfl⟩
  | cancel id => exact ⟨id, rfl⟩
  | _ => contradiction

/-- The stream that a view is about. -/
def View.stream? : View → Option U64
  | .getStream id | .getStatus id | .isActive id | .duration id | .elapsed id
  | .streamedAmount id | .progressBps id | .percentWithdrawn id | .remainingAmount id
  | .getSummary id | .withdrawableAmount id => some id
  | _ => none

/-- The existing stream that a call changes or looks at. -/
def Call.stream? : Call Address → Option U64
  | .query view => view.stream?
  | call => call.target

theorem Call.stream?_of_target {call : Call Address} {id : U64}
    (targets : call.target = some id) : call.stream? = some id := by
  cases call with
  | query view => contradiction
  | _ => exact targets

section AnyRelation

variable {Related : State Address → State Address → Prop} {Excused : Fault → Prop}
  {Result : Type} {env : Env Address}

theorem unaffected_liftM (value : Except Fault Result) :
    Unaffected Related Excused (liftM value : Contract Address Result) := by
  intro before other same
  cases value with
  | ok result => exact ⟨rfl, same⟩
  | error fault => exact .inl rfl

theorem unaffected_readState {read : State Address → Result}
    (agrees : ∀ first second : State Address, Related first second → read first = read second) :
    Unaffected Related Excused (readState read) := by
  intro before other same
  exact ⟨agrees before other same, same⟩

theorem unaffected_failIf (condition : Prop) [Decidable condition] (error : Error) :
    Unaffected Related Excused (failIf condition error : Contract Address Unit) :=
  .ite (.throw _) (.pure _)

theorem unaffected_requireAuth (address : Address) :
    Unaffected Related Excused (requireAuth env address) :=
  .ite (.pure _) (.throw _)

theorem unaffected_onlyIf {condition : Prop} [Decidable condition]
    {action : Contract Address Unit} (unaffected : Unaffected Related Excused action) :
    Unaffected Related Excused (onlyIf condition action) :=
  .ite unaffected (.pure _)

/-- The first loop of a batch does not look at the state. -/
theorem unaffected_validateRequests {requests : HostVec (StreamRequest Address)} {now : U64}
    {fuel : ℕ} {index : U32} {aggregate : I128} :
    Unaffected Related Excused (validateRequests requests now fuel index aggregate) := by
  induction fuel generalizing index aggregate with
  | zero => exact .pure aggregate
  | succ fuel ih =>
      refine .ite ?_ (.pure aggregate)
      refine (unaffected_liftM _).bind fun request => ?_
      refine (unaffected_failIf _ _).bind fun _ => ?_
      refine (unaffected_failIf _ _).bind fun _ => ?_
      refine (unaffected_failIf _ _).bind fun _ => ?_
      refine (unaffected_failIf _ _).bind fun _ => ?_
      refine (unaffected_liftM _).bind fun total => ?_
      exact (unaffected_liftM _).bind fun next => ih

/--
The supply may be raised and compared with the cap.  In both states the raised supplies
agree in the sense of `Agree`, which is all that writing them back needs.
-/
structure SupplyRules (Related : State Address → State Address → Prop) (Excused : Fault → Prop)
    (Agree : I128 → I128 → Prop) : Prop where
  check : ∀ {Result : Type} (amount : I128) (rest : I128 → Contract Address Result),
    (∀ newSupply otherSupply, Agree newSupply otherSupply →
      Alike Related Excused (rest newSupply) (rest otherSupply)) →
        Unaffected Related Excused (do
          let currentSupply ← readTotalSupply
          let newSupply ← (liftM (okOr (currentSupply.checkedAdd amount) .overflow) :
            Contract Address I128)
          let cap ← readSupplyCap
          failIf (newSupply > cap) .supplyCapExceeded
          rest newSupply)
  write : ∀ newSupply otherSupply, Agree newSupply otherSupply →
    Alike Related Excused (writeTotalSupply newSupply : Contract Address Unit)
      (writeTotalSupply otherSupply)

/-- Where the supply is the same in both states, only the comparison with the cap is left. -/
theorem SupplyRules.of_same
    (read : Unaffected Related Excused (readTotalSupply : Contract Address I128))
    (write : ∀ supply,
      Unaffected Related Excused (writeTotalSupply supply : Contract Address Unit))
    (compare : ∀ {Result : Type} (newSupply : I128) (rest : Contract Address Result),
      Unaffected Related Excused rest →
        Unaffected Related Excused (do
          let cap ← readSupplyCap
          failIf (newSupply > cap) .supplyCapExceeded
          rest)) :
    SupplyRules Related Excused Eq where
  check amount rest restAlike := by
    refine read.bind fun currentSupply => ?_
    refine (unaffected_liftM _).bind fun newSupply => ?_
    exact compare newSupply (rest newSupply) (restAlike newSupply newSupply rfl)
  write newSupply otherSupply same := by
    subst same
    exact write newSupply

/-- A supply that is the same in both states may be updated. -/
theorem unaffected_updateSupply
    (read : Unaffected Related Excused (readTotalSupply : Contract Address I128))
    (write : ∀ supply,
      Unaffected Related Excused (writeTotalSupply supply : Contract Address Unit))
    (update : I128 → I128) (rest : Contract Address Result)
    (restUnaffected : Unaffected Related Excused rest) :
    Unaffected Related Excused (do
      let supply ← readTotalSupply
      writeTotalSupply (update supply)
      rest) :=
  read.bind fun _ => (write _).bind fun _ => restUnaffected

variable [DecidableEq Address] {id : U64} {Agree : I128 → I128 → Prop}

/-- The operations of which the calls on the stream `id` consist are unaffected. -/
structure StreamRules (Related : State Address → State Address → Prop)
    (Excused : Fault → Prop) (env : Env Address) (id : U64) : Prop where
  getStream : Unaffected Related Excused (getStream id : Contract Address (Stream Address))
  writeStream : ∀ stream, Unaffected Related Excused (writeStream env id stream)
  readToken : Unaffected Related Excused (readToken : Contract Address Address)
  transfer : ∀ token source destination amount purpose,
    Unaffected Related Excused (transfer env token source destination amount purpose)
  updateSupply : ∀ {Result : Type} (update : I128 → I128) (rest : Contract Address Result),
    Unaffected Related Excused rest →
      Unaffected Related Excused (do
        let supply ← readTotalSupply
        writeTotalSupply (update supply)
        rest)
  extendInstance : Unaffected Related Excused (extendInstance env)
  publish : ∀ event, Unaffected Related Excused (publish event : Contract Address Unit)

namespace StreamRules

theorem unaffected_topUp (rules : StreamRules Related Excused env id)
    (supply : SupplyRules Related Excused Agree) {sender : Address} {amount : I128} :
    Unaffected Related Excused (StreamPay.topUp env id sender amount) := by
  refine (unaffected_requireAuth sender).bind fun _ => ?_
  refine (unaffected_failIf _ _).bind fun _ => ?_
  refine rules.getStream.bind fun stream => ?_
  refine (unaffected_failIf _ _).bind fun _ => ?_
  refine (unaffected_failIf _ _).bind fun _ => ?_
  refine (unaffected_liftM _).bind fun newTotal => ?_
  apply supply.check
  intro newSupply otherSupply agree
  refine Alike.bind rules.readToken fun token => ?_
  refine Alike.bind (rules.transfer token sender _ amount (.topUp id)) fun _ => ?_
  refine Alike.bind (rules.writeStream _) fun _ => ?_
  refine (supply.write newSupply otherSupply agree).bind fun _ => ?_
  refine Alike.bind rules.extendInstance fun _ => ?_
  exact (rules.publish _).bind fun _ => .pure newTotal

theorem unaffected_extendStream (rules : StreamRules Related Excused env id)
    {sender : Address} {newEnd : U64} :
    Unaffected Related Excused (StreamPay.extendStream env id sender newEnd) := by
  refine (unaffected_requireAuth sender).bind fun _ => ?_
  refine rules.getStream.bind fun stream => ?_
  refine (unaffected_failIf _ _).bind fun _ => ?_
  refine (unaffected_failIf _ _).bind fun _ => ?_
  refine (unaffected_failIf _ _).bind fun _ => ?_
  refine (rules.writeStream _).bind fun _ => ?_
  exact rules.extendInstance.bind fun _ => rules.publish _

theorem unaffected_withdraw (rules : StreamRules Related Excused env id) {recipient : Address} :
    Unaffected Related Excused (StreamPay.withdraw env id recipient) := by
  refine (unaffected_requireAuth recipient).bind fun _ => ?_
  refine rules.getStream.bind fun stream => ?_
  refine (unaffected_failIf _ _).bind fun _ => ?_
  refine (unaffected_failIf _ _).bind fun _ => ?_
  refine (unaffected_failIf _ _).bind fun _ => ?_
  refine (unaffected_liftM _).bind fun available => ?_
  refine (unaffected_failIf _ _).bind fun _ => ?_
  refine (unaffected_liftM _).bind fun withdrawn => ?_
  refine (rules.writeStream _).bind fun _ => ?_
  refine rules.readToken.bind fun token => ?_
  refine (rules.transfer _ _ _ _ _).bind fun _ => ?_
  apply rules.updateSupply
  exact (rules.publish _).bind fun _ => .pure available

theorem unaffected_cancel (rules : StreamRules Related Excused env id) {caller : Address} :
    Unaffected Related Excused (StreamPay.cancel env id caller) := by
  refine (unaffected_requireAuth caller).bind fun _ => ?_
  refine rules.getStream.bind fun stream => ?_
  refine (unaffected_failIf _ _).bind fun _ => ?_
  refine (unaffected_failIf _ _).bind fun _ => ?_
  refine (unaffected_liftM _).bind fun vested => ?_
  refine (unaffected_liftM _).bind fun recipientPaid => ?_
  refine (unaffected_liftM _).bind fun senderRefund => ?_
  refine (rules.writeStream _).bind fun _ => ?_
  refine rules.readToken.bind fun token => ?_
  refine (unaffected_onlyIf (rules.transfer _ _ _ _ _)).bind fun _ => ?_
  refine (unaffected_onlyIf (rules.transfer _ _ _ _ _)).bind fun _ => ?_
  apply rules.updateSupply
  exact rules.publish _

/-- Views of a stream read its record and compute. -/
theorem unaffected_view (rules : StreamRules Related Excused env id) {view : View}
    (about : view.stream? = some id) : Unaffected Related Excused (view.run env) := by
  have computed {Result : Type} (value : Stream Address → Except Fault Result) :
      Unaffected Related Excused (StreamPay.getStream id >>= fun stream =>
        (liftM (value stream) : Contract Address Result)) :=
    rules.getStream.bind fun _ => unaffected_liftM _
  have returned {Result : Type} (value : Stream Address → Result) :
      Unaffected Related Excused (StreamPay.getStream id >>= fun stream =>
        (pure (value stream) : Contract Address Result)) :=
    rules.getStream.bind fun _ => .pure _
  cases view <;> cases about
  case getStream => exact rules.getStream.map _
  case getStatus => exact (returned _).map _
  case isActive => exact (returned _).map _
  case percentWithdrawn =>
    refine (rules.getStream.bind fun stream => ?_).map _
    refine .ite (.pure _) ?_
    refine (unaffected_liftM _).bind fun scaled => ?_
    exact (unaffected_liftM _).bind fun bps => .pure _
  case getSummary =>
    refine (rules.getStream.bind fun stream => ?_).map _
    refine (unaffected_liftM _).bind fun vested => ?_
    refine (unaffected_liftM _).bind fun withdrawable => ?_
    exact (unaffected_liftM _).bind fun progressBps => .pure _
  all_goals exact (computed _).map _

/-- Calls that settle a stream need nothing but the rules of that stream. -/
theorem unaffected_call (rules : StreamRules Related Excused env id) {call : Call Address}
    (settles : call.settles = true) (targets : call.target = some id) :
    Unaffected Related Excused (call.run env) := by
  cases call with
  | extendStream target sender newEnd =>
      cases targets
      exact rules.unaffected_extendStream.map _
  | withdraw target recipient =>
      cases targets
      exact rules.unaffected_withdraw.map _
  | cancel target caller =>
      cases targets
      exact rules.unaffected_cancel.map _
  | _ => contradiction

end StreamRules

/-- The operations of which the calls of users consist are unaffected. -/
structure UserRules (Related : State Address → State Address → Prop) (Excused : Fault → Prop)
    (env : Env Address) : Prop where
  onStream : ∀ id, StreamRules Related Excused env id
  hasAdmin : Unaffected Related Excused (hasAdmin : Contract Address Bool)
  writeAdmin : ∀ admin, Unaffected Related Excused (writeAdmin admin : Contract Address Unit)
  writeToken : ∀ token, Unaffected Related Excused (writeToken token : Contract Address Unit)
  readCounter : Unaffected Related Excused (readCounter : Contract Address U64)
  writeCounter : ∀ counter,
    Unaffected Related Excused (writeCounter counter : Contract Address Unit)
  readTotalSupply : Unaffected Related Excused (readTotalSupply : Contract Address I128)
  writeTotalSupply : ∀ supply,
    Unaffected Related Excused (writeTotalSupply supply : Contract Address Unit)
  writeSupplyCap : ∀ cap, Unaffected Related Excused (writeSupplyCap cap : Contract Address Unit)

namespace UserRules

theorem readToken (rules : UserRules Related Excused env) :
    Unaffected Related Excused (readToken : Contract Address Address) :=
  (rules.onStream 0).readToken

theorem transfer (rules : UserRules Related Excused env) (token source destination : Address)
    (amount : I128) (purpose : Purpose) :
    Unaffected Related Excused (transfer env token source destination amount purpose) :=
  (rules.onStream 0).transfer token source destination amount purpose

theorem extendInstance (rules : UserRules Related Excused env) :
    Unaffected Related Excused (extendInstance env) :=
  (rules.onStream 0).extendInstance

theorem publish (rules : UserRules Related Excused env) (event : Event Address) :
    Unaffected Related Excused (publish event : Contract Address Unit) :=
  (rules.onStream 0).publish event

theorem requireInitialized (rules : UserRules Related Excused env) :
    Unaffected Related Excused (requireInitialized : Contract Address Unit) :=
  rules.hasAdmin.bind fun _ => unaffected_failIf _ _

theorem unaffected_initializeContract (rules : UserRules Related Excused env)
    {admin token : Address} :
    Unaffected Related Excused (initializeContract env admin token) := by
  refine rules.hasAdmin.bind fun initialized => ?_
  refine (unaffected_failIf _ _).bind fun _ => ?_
  refine (rules.writeAdmin admin).bind fun _ => ?_
  refine (rules.writeToken token).bind fun _ => ?_
  refine (rules.writeCounter 0).bind fun _ => ?_
  refine (rules.writeTotalSupply 0).bind fun _ => ?_
  exact (rules.writeSupplyCap defaultSupplyCap).bind fun _ => rules.extendInstance

theorem unaffected_createStream (rules : UserRules Related Excused env)
    (supply : SupplyRules Related Excused Agree) {sender recipient : Address}
    {totalAmount : I128} {startTime endTime : U64} :
    Unaffected Related Excused
      (createStream env sender recipient totalAmount startTime endTime) := by
  refine rules.requireInitialized.bind fun _ => ?_
  refine (unaffected_requireAuth sender).bind fun _ => ?_
  refine (unaffected_failIf _ _).bind fun _ => ?_
  refine (unaffected_failIf _ _).bind fun _ => ?_
  refine (unaffected_failIf _ _).bind fun _ => ?_
  refine (unaffected_failIf _ _).bind fun _ => ?_
  apply supply.check
  intro newSupply otherSupply agree
  refine Alike.bind rules.readToken fun token => ?_
  refine Alike.bind (rules.transfer token sender _ totalAmount .funding) fun _ => ?_
  refine Alike.bind rules.readCounter fun id => ?_
  refine Alike.bind (unaffected_liftM _) fun next => ?_
  refine Alike.bind ((rules.onStream id).writeStream _) fun _ => ?_
  refine Alike.bind (rules.writeCounter next) fun _ => ?_
  refine (supply.write newSupply otherSupply agree).bind fun _ => ?_
  refine Alike.bind rules.extendInstance fun _ => ?_
  exact (rules.publish _).bind fun _ => .pure id

theorem unaffected_createRequests (rules : UserRules Related Excused env) {sender : Address}
    {requests : HostVec (StreamRequest Address)} {firstId : U64} {fuel : ℕ} {index : U32}
    {ids : List U64} :
    Unaffected Related Excused
      (createRequests env sender requests firstId fuel index ids) := by
  induction fuel generalizing index ids with
  | zero => exact .pure ids
  | succ fuel ih =>
      refine .ite ?_ (.pure ids)
      refine (unaffected_liftM _).bind fun request => ?_
      refine (unaffected_liftM _).bind fun id => ?_
      refine ((rules.onStream id).writeStream _).bind fun _ => ?_
      refine (rules.publish _).bind fun _ => ?_
      exact (unaffected_liftM _).bind fun next => ih

theorem unaffected_createStreamBatch (rules : UserRules Related Excused env) {sender : Address}
    {requests : HostVec (StreamRequest Address)} :
    Unaffected Related Excused (createStreamBatch env sender requests) := by
  refine rules.requireInitialized.bind fun _ => ?_
  refine (unaffected_requireAuth sender).bind fun _ => ?_
  refine (unaffected_failIf _ _).bind fun _ => ?_
  refine unaffected_validateRequests.bind fun aggregate => ?_
  refine rules.readCounter.bind fun firstId => ?_
  refine (unaffected_liftM _).bind fun nextCounter => ?_
  refine rules.readToken.bind fun token => ?_
  refine (rules.transfer token sender _ aggregate .funding).bind fun _ => ?_
  refine rules.unaffected_createRequests.bind fun ids => ?_
  refine (rules.writeCounter nextCounter).bind fun _ => ?_
  exact rules.extendInstance.bind fun _ => .pure ids

theorem unaffected_view (rules : UserRules Related Excused env) {view : View}
    (isUser : view.isUser = true) : Unaffected Related Excused (view.run env) := by
  cases view with
  | getAdmin => contradiction
  | getPendingAdmin => contradiction
  | getAdminActionExecuteAfter => contradiction
  | getSupplyCap => contradiction
  | getToken => exact (rules.requireInitialized.bind fun _ => rules.readToken).map _
  | streamCounter => exact rules.readCounter.map _
  | getTotalSupply => exact rules.readTotalSupply.map _
  | _ => exact (rules.onStream _).unaffected_view rfl

/-- Calls of users respect a relation that their operations respect. -/
theorem unaffected_call (rules : UserRules Related Excused env) {call : Call Address}
    (isUser : call.isUser = true)
    (supply : call.checksCap = true → SupplyRules Related Excused Agree) :
    Unaffected Related Excused (call.run env) := by
  cases call with
  | initializeContract admin token => exact rules.unaffected_initializeContract.map _
  | createStream sender recipient totalAmount startTime endTime =>
      exact (rules.unaffected_createStream (supply rfl)).map _
  | createStreamBatch sender requests => exact rules.unaffected_createStreamBatch.map _
  | topUp id sender amount => exact ((rules.onStream id).unaffected_topUp (supply rfl)).map _
  | extendStream id sender newEnd => exact (rules.onStream id).unaffected_call rfl rfl
  | withdraw id recipient => exact (rules.onStream id).unaffected_call rfl rfl
  | cancel id caller => exact (rules.onStream id).unaffected_call rfl rfl
  | query view => exact rules.unaffected_view isUser
  | _ => contradiction

end UserRules

/-- The operations of which all calls consist are unaffected. -/
structure HostRules (Related : State Address → State Address → Prop) (Excused : Fault → Prop)
    (env : Env Address) : Prop extends UserRules Related Excused env where
  readAdmin : Unaffected Related Excused (readAdmin : Contract Address Address)
  readPendingAdmin :
    Unaffected Related Excused (readPendingAdmin : Contract Address (Option Address))
  readAdminActionExecuteAfter :
    Unaffected Related Excused (readAdminActionExecuteAfter : Contract Address (Option U64))
  writePendingAdminAction : ∀ admin executeAfter,
    Unaffected Related Excused (writePendingAdminAction admin executeAfter : Contract Address Unit)
  clearPendingAdminAction :
    Unaffected Related Excused (clearPendingAdminAction : Contract Address Unit)
  readSupplyCap : Unaffected Related Excused (readSupplyCap : Contract Address I128)

namespace HostRules

theorem unaffected_scheduleAdminTransfer (rules : HostRules Related Excused env)
    {admin newAdmin : Address} :
    Unaffected Related Excused (scheduleAdminTransfer env admin newAdmin) := by
  refine rules.requireInitialized.bind fun _ => ?_
  refine (unaffected_requireAuth admin).bind fun _ => ?_
  refine rules.readAdmin.bind fun currentAdmin => ?_
  refine (unaffected_failIf _ _).bind fun _ => ?_
  refine (unaffected_failIf _ _).bind fun _ => ?_
  refine (unaffected_liftM _).bind fun executeAfter => ?_
  refine (rules.writePendingAdminAction newAdmin executeAfter).bind fun _ => ?_
  refine rules.extendInstance.bind fun _ => ?_
  exact (rules.publish _).bind fun _ => .pure executeAfter

theorem unaffected_executeAdminTransfer (rules : HostRules Related Excused env) :
    Unaffected Related Excused (executeAdminTransfer env) := by
  refine rules.requireInitialized.bind fun _ => ?_
  refine rules.readPendingAdmin.bind fun pending => ?_
  refine (unaffected_liftM _).bind fun pendingAdmin => ?_
  refine rules.readAdminActionExecuteAfter.bind fun deadline => ?_
  refine (unaffected_liftM _).bind fun executeAfter => ?_
  refine (unaffected_failIf _ _).bind fun _ => ?_
  refine rules.readAdmin.bind fun previousAdmin => ?_
  refine (rules.writeAdmin pendingAdmin).bind fun _ => ?_
  refine rules.clearPendingAdminAction.bind fun _ => ?_
  exact rules.extendInstance.bind fun _ => rules.publish _

theorem unaffected_cancelAdminTransfer (rules : HostRules Related Excused env)
    {admin : Address} : Unaffected Related Excused (cancelAdminTransfer env admin) := by
  refine rules.requireInitialized.bind fun _ => ?_
  refine (unaffected_requireAuth admin).bind fun _ => ?_
  refine rules.readAdmin.bind fun currentAdmin => ?_
  refine (unaffected_failIf _ _).bind fun _ => ?_
  refine rules.readPendingAdmin.bind fun pendingAdmin => ?_
  refine (unaffected_failIf _ _).bind fun _ => ?_
  refine rules.clearPendingAdminAction.bind fun _ => ?_
  exact rules.extendInstance.bind fun _ => rules.publish _

theorem unaffected_setAdmin (rules : HostRules Related Excused env) {newAdmin : Address} :
    Unaffected Related Excused (setAdmin env newAdmin) := by
  refine rules.requireInitialized.bind fun _ => ?_
  refine rules.readAdmin.bind fun currentAdmin => ?_
  refine (unaffected_requireAuth currentAdmin).bind fun _ => ?_
  refine (rules.writeAdmin newAdmin).bind fun _ => ?_
  exact rules.extendInstance.bind fun _ => rules.publish _

theorem unaffected_setSupplyCap (rules : HostRules Related Excused env) {newCap : I128} :
    Unaffected Related Excused (setSupplyCap env newCap) := by
  refine rules.requireInitialized.bind fun _ => ?_
  refine rules.readAdmin.bind fun admin => ?_
  refine (unaffected_requireAuth admin).bind fun _ => ?_
  refine (unaffected_failIf _ _).bind fun _ => ?_
  refine rules.readSupplyCap.bind fun oldCap => ?_
  refine (rules.writeSupplyCap newCap).bind fun _ => ?_
  exact rules.extendInstance.bind fun _ => rules.publish _

theorem unaffected_view (rules : HostRules Related Excused env) (view : View) :
    Unaffected Related Excused (view.run env) := by
  cases view with
  | getAdmin => exact (rules.requireInitialized.bind fun _ => rules.readAdmin).map _
  | getPendingAdmin => exact (rules.requireInitialized.bind fun _ => rules.readPendingAdmin).map _
  | getAdminActionExecuteAfter =>
      exact (rules.requireInitialized.bind fun _ => rules.readAdminActionExecuteAfter).map _
  | getSupplyCap => exact rules.readSupplyCap.map _
  | _ => exact rules.toUserRules.unaffected_view rfl

theorem supplyRules (rules : HostRules Related Excused env) :
    SupplyRules Related Excused Eq :=
  .of_same rules.readTotalSupply rules.writeTotalSupply fun _ _ restUnaffected =>
    rules.readSupplyCap.bind fun _ => (unaffected_failIf _ _).bind fun _ => restUnaffected

/-- All calls respect a relation that the operations of the host respect. -/
theorem unaffected_call (rules : HostRules Related Excused env) (call : Call Address) :
    Unaffected Related Excused (call.run env) := by
  cases call with
  | scheduleAdminTransfer admin newAdmin => exact rules.unaffected_scheduleAdminTransfer.map _
  | executeAdminTransfer => exact rules.unaffected_executeAdminTransfer.map _
  | cancelAdminTransfer admin => exact rules.unaffected_cancelAdminTransfer.map _
  | setAdmin newAdmin => exact rules.unaffected_setAdmin.map _
  | setSupplyCap newCap => exact rules.unaffected_setSupplyCap.map _
  | query view => exact rules.unaffected_view view
  | _ => exact rules.toUserRules.unaffected_call rfl fun _ => rules.supplyRules

end HostRules

end AnyRelation

section Outcomes

variable [DecidableEq Address] {contract : Address} {first second : System Address}
  {invocation : Invocation Address}

/-- Two outcomes of a call agree, unless one of them has an excused fault. -/
theorem outcome_eq_or_excused {Related : State Address → State Address → Prop}
    {Excused : Fault → Prop} (sameLedger : first.ledger = second.ledger)
    (same : Related first.state second.state)
    (unaffected : Unaffected Related Excused
      (invocation.call.run (invocation.env contract first.ledger))) :
    ((invocation.outcome contract first).1 = (invocation.outcome contract second).1 ∧
        Related (invocation.outcome contract first).2
          (invocation.outcome contract second).2) ∨
      ∃ fault, Excused fault ∧ ((invocation.outcome contract first).1 = .error fault ∨
        (invocation.outcome contract second).1 = .error fault) := by
  rcases (unaffected first.state second.state same).resolve with
    ⟨reply, after, otherAfter, firstEnd, secondEnd, related⟩ |
      ⟨fault, after, otherAfter, firstEnd, secondEnd⟩ | ⟨fault, after, excused, ended⟩
  · rw [sameLedger] at secondEnd
    left
    simp only [Invocation.outcome, firstEnd, secondEnd]
    exact ⟨trivial, related⟩
  · rw [sameLedger] at secondEnd
    left
    simp only [Invocation.outcome, firstEnd, secondEnd]
    exact ⟨trivial, same⟩
  · right
    refine ⟨fault, excused, ?_⟩
    rcases ended with firstEnd | secondEnd
    · left
      simp only [Invocation.outcome, firstEnd]
    · right
      rw [sameLedger] at secondEnd
      simp only [Invocation.outcome, secondEnd]

/-- Where no fault is excused, a call does the same in related states. -/
theorem outcome_eq_of_unaffected {Related : State Address → State Address → Prop}
    (sameLedger : first.ledger = second.ledger) (same : Related first.state second.state)
    (unaffected : Unaffected Related (fun _ => False)
      (invocation.call.run (invocation.env contract first.ledger))) :
    (invocation.outcome contract first).1 = (invocation.outcome contract second).1 ∧
      Related (invocation.outcome contract first).2 (invocation.outcome contract second).2 := by
  rcases outcome_eq_or_excused sameLedger same unaffected with agreed | ⟨fault, excused, _⟩
  · exact agreed
  · contradiction

end Outcomes

end StreamPay
