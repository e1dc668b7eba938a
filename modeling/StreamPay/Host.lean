import Mathlib.Logic.Function.Basic
import Mathlib.Tactic.Simps.Basic
import StreamPay.Foundation.Computation
import StreamPay.Foundation.FiniteMap
import StreamPay.Types

/-!
# The host of the contract

This file models what the contract uses of its host: the ledger, the storage of
`storage.rs`, the events of `events.rs`, authorization and the external token.

A contract function is a computation over the host state which either returns,
fails with a contract error, or traps.  The state reached before a failure is
kept; only the dispatcher of a call discards it.  The token is external code:
whether it accepts a transfer is decided by the environment of the call, and an
accepted transfer moves exactly the stated amount.  Every accepted transfer is
recorded together with its purpose, which nothing in the contract reads.  Code can be
installed only if it has been uploaded, which the environment decides as well.

The host records how long entries live.  That a call cannot use an expired entry is
not part of the functions here, which follow the source: see `Expiry`.
-/

namespace StreamPay

open Foundation

variable {Address : Type}

structure Ledger where
  timestamp : U64
  sequence : U32
  minPersistentEntryTtl : U32
deriving DecidableEq

/-- Balances by token and holder. -/
abbrev Balances (Address : Type) := Address → Address → ℤ

def Balances.move [DecidableEq Address] (balances : Balances Address)
    (token source destination : Address) (amount : ℤ) : Balances Address :=
  fun other holder =>
    if other = token then
      balances other holder - (if holder = source then amount else 0) +
        (if holder = destination then amount else 0)
    else
      balances other holder

theorem Balances.move_same_token [DecidableEq Address] (balances : Balances Address)
    (token source destination holder : Address) (amount : ℤ) :
    balances.move token source destination amount token holder =
      balances token holder - (if holder = source then amount else 0) +
        (if holder = destination then amount else 0) :=
  if_pos rfl

@[simp]
theorem Balances.move_zero [DecidableEq Address] (balances : Balances Address)
    (token source destination : Address) : balances.move token source destination 0 = balances := by
  funext other holder
  simp [Balances.move]

/-- Why a transfer was made, and for which stream if it concerns a single one. -/
inductive Purpose where
  | funding
  | topUp (id : U64)
  | payout (id : U64)
  | refund (id : U64)
deriving DecidableEq

/-- The single stream that a transfer concerns. -/
def Purpose.stream? : Purpose → Option U64
  | .funding => none
  | .topUp id | .payout id | .refund id => some id

structure Transfer (Address : Type) where
  token : Address
  source : Address
  destination : Address
  amount : I128
  purpose : Purpose
deriving DecidableEq

inductive Event (Address : Type) where
  | adminScheduled (currentAdmin pendingAdmin : Address) (executeAfter : U64)
  | adminTransfer (previousAdmin newAdmin : Address)
  | adminCancelled (admin : Address)
  | created (id : U64) (sender recipient : Address) (total : I128)
  | withdrawn (id : U64) (recipient : Address) (amount : I128)
  | toppedup (id : U64) (sender : Address) (amount newTotal : I128)
  | extended (id : U64) (sender : Address) (oldEnd newEnd : U64)
  | cancelled (id : U64) (caller : Address) (senderRefund recipientPaid : I128)
  | capadmin (admin : Address) (oldCap newCap : I128)
  | adminSet (oldAdmin newAdmin : Address)
  | upgraded (newWasmHash : BitVec 256)
deriving DecidableEq

/--
The part of the host that a call can change.  The first seven fields are the
instance keys of `DataKey`; `streams` holds the persistent `Stream` entries.
The two `LiveUntil` fields give the last ledger at which an entry is alive.
-/
structure State (Address : Type) where
  admin : Option Address
  token : Option Address
  counter : Option U64
  pendingAdmin : Option Address
  adminActionExecuteAfter : Option U64
  totalSupply : Option I128
  supplyCap : Option I128
  instanceLiveUntil : ℤ
  streams : Finmap fun _ : U64 => Stream Address
  streamLiveUntil : U64 → ℤ
  wasmHash : Option (BitVec 256)
  balances : Balances Address
  transfers : List (Transfer Address)
  events : List (Event Address)

/-- The part of the host that is fixed during a call. -/
structure Env (Address : Type) where
  ledger : Ledger
  currentContractAddress : Address
  authorized : Address → Bool
  transferAccepted : Balances Address → Address → Address → Address → I128 → Bool
  uploaded : BitVec 256 → Bool

abbrev Contract (Address : Type) := EStateM Fault (State Address)

def bumpThreshold : U32 := ⟨100000, by omega, by omega⟩

def bumpExtend : U32 := ⟨518400, by omega, by omega⟩

/-- The host's `extend_ttl`, on the last ledger at which an entry is alive. -/
def extendTtl (sequence threshold extendTo : U32) (liveUntil : ℤ) : ℤ :=
  if liveUntil - sequence.val ≤ threshold.val then sequence.val + extendTo.val else liveUntil

namespace State

@[simps]
def setAdmin (state : State Address) (admin : Address) : State Address :=
  { state with admin := some admin }

@[simps]
def setToken (state : State Address) (token : Address) : State Address :=
  { state with token := some token }

@[simps]
def setCounter (state : State Address) (counter : U64) : State Address :=
  { state with counter := some counter }

@[simps]
def setPendingAdmin (state : State Address) (pendingAdmin : Option Address) : State Address :=
  { state with pendingAdmin := pendingAdmin }

@[simps]
def setExecuteAfter (state : State Address) (executeAfter : Option U64) : State Address :=
  { state with adminActionExecuteAfter := executeAfter }

@[simps]
def setTotalSupply (state : State Address) (supply : I128) : State Address :=
  { state with totalSupply := some supply }

@[simps]
def setSupplyCap (state : State Address) (cap : I128) : State Address :=
  { state with supplyCap := some cap }

@[simps]
def setWasmHash (state : State Address) (newWasmHash : BitVec 256) : State Address :=
  { state with wasmHash := some newWasmHash }

@[simps]
def extendInstanceTtl (state : State Address) (ledger : Ledger) (threshold extendTo : U32) :
    State Address :=
  { state with
    instanceLiveUntil := extendTtl ledger.sequence threshold extendTo state.instanceLiveUntil }

/-- `persistent().set`: a new entry lives for the minimum time of the ledger. -/
@[simps]
def setStream (state : State Address) (ledger : Ledger) (id : U64) (stream : Stream Address) :
    State Address :=
  { state with
    streams := state.streams.insert id stream
    streamLiveUntil :=
      if id ∈ state.streams then
        state.streamLiveUntil
      else
        Function.update state.streamLiveUntil id
          (ledger.sequence.val + ledger.minPersistentEntryTtl.val - 1) }

/-- `persistent().extend_ttl`. -/
@[simps]
def extendStreamTtl (state : State Address) (ledger : Ledger) (id : U64)
    (threshold extendTo : U32) : State Address :=
  { state with
    streamLiveUntil :=
      Function.update state.streamLiveUntil id
        (extendTtl ledger.sequence threshold extendTo (state.streamLiveUntil id)) }

/-- `storage::write_stream`. -/
@[simps!]
def putStream (state : State Address) (ledger : Ledger) (id : U64) (stream : Stream Address) :
    State Address :=
  (state.setStream ledger id stream).extendStreamTtl ledger id bumpThreshold bumpExtend

/-- `storage::extend_instance`. -/
@[simps!]
def touchInstance (state : State Address) (ledger : Ledger) : State Address :=
  state.extendInstanceTtl ledger bumpThreshold bumpExtend

/-- An accepted transfer of the token, and its record. -/
@[simps]
def recordTransfer [DecidableEq Address] (state : State Address) (record : Transfer Address) :
    State Address :=
  { state with
    balances :=
      state.balances.move record.token record.source record.destination record.amount.val
    transfers := state.transfers ++ [record] }

/-- The transfer of a share that is paid only when it is positive. -/
@[simps]
def recordPositive [DecidableEq Address] (state : State Address) (record : Transfer Address) :
    State Address :=
  { state with
    balances :=
      state.balances.move record.token record.source record.destination (max 0 record.amount.val)
    transfers := state.transfers ++ if 0 < record.amount.val then [record] else [] }

@[simps]
def publish (state : State Address) (event : Event Address) : State Address :=
  { state with events := state.events ++ [event] }

end State

/-- `?` on a result that does not depend on the state. -/
def liftResult {Result : Type} (result : Except Fault Result) : Contract Address Result :=
  fun state =>
    match result with
    | .ok value => .ok value state
    | .error fault => .error fault state

instance : MonadLift (Except Fault) (Contract Address) := ⟨liftResult⟩

/-- `if condition { return Err(error); }`. -/
def failIf (condition : Prop) [Decidable condition] (error : Error) : Contract Address Unit :=
  if condition then throw (.error error) else pure ()

/-- `if condition { action }`. -/
def onlyIf (condition : Prop) [Decidable condition] (action : Contract Address Unit) :
    Contract Address Unit :=
  if condition then action else pure ()

/-- `address.require_auth()`. -/
def requireAuth (env : Env Address) (address : Address) : Contract Address Unit :=
  if env.authorized address then pure () else throw (.trap .authorizationFailed)

/-- A read of the state, with what the source makes of a missing key. -/
def readState {Result : Type} (read : State Address → Result) : Contract Address Result := do
  let state ← get
  return read state

def hasAdmin : Contract Address Bool :=
  readState fun state => state.admin.isSome

def readAdmin : Contract Address Address := do
  let admin ← readState State.admin
  orTrap admin .unwrapNone

def writeAdmin (admin : Address) : Contract Address Unit :=
  modify fun state => state.setAdmin admin

def readPendingAdmin : Contract Address (Option Address) :=
  readState State.pendingAdmin

def readAdminActionExecuteAfter : Contract Address (Option U64) :=
  readState State.adminActionExecuteAfter

def writePendingAdminAction (admin : Address) (executeAfter : U64) : Contract Address Unit := do
  modify fun state => state.setPendingAdmin (some admin)
  modify fun state => state.setExecuteAfter (some executeAfter)

def clearPendingAdminAction : Contract Address Unit := do
  modify fun state => state.setPendingAdmin none
  modify fun state => state.setExecuteAfter none

def readToken : Contract Address Address := do
  let token ← readState State.token
  orTrap token .unwrapNone

def writeToken (token : Address) : Contract Address Unit :=
  modify fun state => state.setToken token

def readCounter : Contract Address U64 :=
  readState fun state => state.counter.getD 0

def writeCounter (counter : U64) : Contract Address Unit :=
  modify fun state => state.setCounter counter

def readStream (id : U64) : Contract Address (Option (Stream Address)) :=
  readState fun state => state.streams.lookup id

def writeStream (env : Env Address) (id : U64) (stream : Stream Address) :
    Contract Address Unit :=
  modify fun state => state.putStream env.ledger id stream

def extendInstance (env : Env Address) : Contract Address Unit :=
  modify fun state => state.touchInstance env.ledger

def readTotalSupply : Contract Address I128 :=
  readState fun state => state.totalSupply.getD 0

def writeTotalSupply (supply : I128) : Contract Address Unit :=
  modify fun state => state.setTotalSupply supply

def readSupplyCap : Contract Address I128 :=
  readState fun state => state.supplyCap.getD I128.max

def writeSupplyCap (cap : I128) : Contract Address Unit :=
  modify fun state => state.setSupplyCap cap

/-- The host installs no code that has not been uploaded. -/
def updateCurrentContractWasm (env : Env Address) (newWasmHash : BitVec 256) :
    Contract Address Unit :=
  if env.uploaded newWasmHash then
    modify fun state => state.setWasmHash newWasmHash
  else
    throw (.trap .wasmMissing)

/-- No token takes a negative amount; otherwise the environment of the call decides. -/
def Env.accepts (env : Env Address) (balances : Balances Address) (record : Transfer Address) :
    Bool :=
  decide (0 ≤ record.amount) &&
    env.transferAccepted balances record.token record.source record.destination record.amount

/-- `token::Client::transfer`.  The purpose only labels the record of the transfer. -/
def transfer [DecidableEq Address] (env : Env Address) (token source destination : Address)
    (amount : I128) (purpose : Purpose) : Contract Address Unit := do
  let state ← get
  let record := Transfer.mk token source destination amount purpose
  if env.accepts state.balances record then
    set (state.recordTransfer record)
  else
    throw (.trap .transferFailed)

def publish (event : Event Address) : Contract Address Unit :=
  modify fun state => state.publish event

def adminTransferScheduled (currentAdmin pendingAdmin : Address) (executeAfter : U64) :
    Contract Address Unit :=
  publish (.adminScheduled currentAdmin pendingAdmin executeAfter)

def adminTransferExecuted (previousAdmin newAdmin : Address) : Contract Address Unit :=
  publish (.adminTransfer previousAdmin newAdmin)

def adminTransferCancelled (admin : Address) : Contract Address Unit :=
  publish (.adminCancelled admin)

def streamCreated (id : U64) (sender recipient : Address) (total : I128) :
    Contract Address Unit :=
  publish (.created id sender recipient total)

def streamWithdrawn (id : U64) (recipient : Address) (amount : I128) : Contract Address Unit :=
  publish (.withdrawn id recipient amount)

def streamToppedUp (id : U64) (sender : Address) (amount newTotal : I128) :
    Contract Address Unit :=
  publish (.toppedup id sender amount newTotal)

def streamExtended (id : U64) (sender : Address) (oldEnd newEnd : U64) : Contract Address Unit :=
  publish (.extended id sender oldEnd newEnd)

def streamCancelled (id : U64) (caller : Address) (senderRefund recipientPaid : I128) :
    Contract Address Unit :=
  publish (.cancelled id caller senderRefund recipientPaid)

def supplyCapUpdated (admin : Address) (oldCap newCap : I128) : Contract Address Unit :=
  publish (.capadmin admin oldCap newCap)

def adminChanged (oldAdmin newAdmin : Address) : Contract Address Unit :=
  publish (.adminSet oldAdmin newAdmin)

def contractUpgraded (newWasmHash : BitVec 256) : Contract Address Unit :=
  publish (.upgraded newWasmHash)

section Outcomes

open Computation

variable {before after : State Address} {result : Unit}

@[simp]
theorem liftM_eq_ok_iff {Result : Type} {value : Except Fault Result} {returned : Result} :
    (liftM value : Contract Address Result) before = .ok returned after ↔
      value = .ok returned ∧ after = before := by
  change liftResult value before = _ ↔ _
  cases value <;> simp [liftResult, eq_comm]

@[simp]
theorem get_eq_ok_iff {state : State Address} :
    (get : Contract Address (State Address)) before = .ok state after ↔
      state = before ∧ after = before := by
  change EStateM.Result.ok before before = _ ↔ _
  simp [eq_comm]

@[simp]
theorem failIf_eq_ok_iff {condition : Prop} [Decidable condition] {error : Error} :
    (failIf condition error : Contract Address Unit) before = .ok result after ↔
      ¬condition ∧ after = before := by
  by_cases failed : condition
  · simp [failIf, failed, throw_ne_ok]
  · simp [failIf, failed, pure_eq_ok_iff]

theorem failIf_of_not {condition : Prop} [Decidable condition] {error : Error}
    (passed : ¬condition) :
    (failIf condition error : Contract Address Unit) before = .ok () before :=
  failIf_eq_ok_iff.mpr ⟨passed, rfl⟩

theorem failIf_of {condition : Prop} [Decidable condition] {error : Error} (failed : condition) :
    (failIf condition error : Contract Address Unit) before = .error (.error error) before := by
  rw [failIf, if_pos failed]
  rfl

@[simp]
theorem requireAuth_eq_ok_iff {env : Env Address} {address : Address} :
    requireAuth env address before = .ok result after ↔
      env.authorized address = true ∧ after = before := by
  by_cases authorized : env.authorized address = true
  · simp [requireAuth, authorized, pure_eq_ok_iff]
  · simp [requireAuth, authorized, throw_ne_ok]

@[simp]
theorem transfer_eq_ok_iff [DecidableEq Address] {env : Env Address}
    {token source destination : Address} {amount : I128} {purpose : Purpose} :
    transfer env token source destination amount purpose before = .ok result after ↔
      env.accepts before.balances ⟨token, source, destination, amount, purpose⟩ = true ∧
        after = before.recordTransfer ⟨token, source, destination, amount, purpose⟩ := by
  simp only [transfer, bind_eq_ok_iff, get_eq_ok_iff]
  by_cases accepted :
      env.accepts before.balances ⟨token, source, destination, amount, purpose⟩ = true
  · have setOk (state : State Address) :
        (set state : Contract Address PUnit) before = .ok result after ↔ after = state := by
      change EStateM.Result.ok PUnit.unit state = _ ↔ _
      simp [eq_comm]
    simp [accepted, setOk]
  · simp [accepted, throw_ne_ok]

theorem transfer_of_refused [DecidableEq Address] {env : Env Address}
    {token source destination : Address} {amount : I128} {purpose : Purpose}
    (refused : ¬env.accepts before.balances ⟨token, source, destination, amount, purpose⟩ = true) :
    transfer env token source destination amount purpose before =
      .error (.trap .transferFailed) before := by
  have started : (get : Contract Address (State Address)) before = .ok before before := rfl
  rw [transfer, bind_of_ok started, if_neg refused]
  rfl

/-- A transfer that is made only for a positive amount. -/
theorem onlyIf_transfer_eq_ok_iff [DecidableEq Address] {env : Env Address}
    {token source destination : Address} {amount : I128} {purpose : Purpose} :
    onlyIf (amount > 0) (transfer env token source destination amount purpose) before =
        .ok result after ↔
      (0 < amount.val →
          env.accepts before.balances ⟨token, source, destination, amount, purpose⟩ = true) ∧
        after = before.recordPositive ⟨token, source, destination, amount, purpose⟩ := by
  by_cases positive : 0 < amount.val
  · have isPositive : amount > 0 := positive
    have sameState : before.recordPositive ⟨token, source, destination, amount, purpose⟩ =
        before.recordTransfer ⟨token, source, destination, amount, purpose⟩ := by
      simp [State.recordPositive, State.recordTransfer, positive, max_eq_right positive.le]
    simp only [onlyIf, if_pos isPositive, transfer_eq_ok_iff, positive, sameState, true_imp_iff]
  · have notPositive : ¬amount > 0 := positive
    have sameState : before.recordPositive ⟨token, source, destination, amount, purpose⟩ =
        before := by
      have noAmount : max 0 amount.val = 0 := max_eq_left (by omega)
      simp [State.recordPositive, positive, noAmount]
    simp only [onlyIf, if_neg notPositive, pure_eq_ok_iff, positive, sameState, true_and,
      false_imp_iff]

@[simp]
theorem readState_eq_ok_iff {Result : Type} {read : State Address → Result} {value : Result} :
    readState read before = .ok value after ↔ value = read before ∧ after = before := by
  change EStateM.Result.ok (read before) before = _ ↔ _
  simp [eq_comm]

@[simp]
theorem readAdmin_eq_ok_iff {admin : Address} :
    readAdmin before = .ok admin after ↔ before.admin = some admin ∧ after = before := by
  simp only [readAdmin, bind_eq_ok_iff, readState_eq_ok_iff, liftM_eq_ok_iff, orTrap_eq_ok_iff,
    and_assoc, exists_and_left, exists_eq_left]

@[simp]
theorem readToken_eq_ok_iff {token : Address} :
    readToken before = .ok token after ↔ before.token = some token ∧ after = before := by
  simp only [readToken, bind_eq_ok_iff, readState_eq_ok_iff, liftM_eq_ok_iff, orTrap_eq_ok_iff,
    and_assoc, exists_and_left, exists_eq_left]

end Outcomes

section WeakestPreconditions

open Computation

variable {before : State Address} {Fails : Fault → Prop}

theorem ends_liftM_iff {Result : Type} {value : Except Fault Result}
    {Returns : Result → State Address → Prop} :
    Ends (liftM value : Contract Address Result) Returns Fails before ↔
      (∀ result, value = .ok result → Returns result before) ∧
        ∀ fault, value = .error fault → Fails fault := by
  change Ends (liftResult value) Returns Fails before ↔ _
  cases value with
  | ok result => simp [Ends, liftResult]
  | error fault => simp [Ends, liftResult]

@[simp]
theorem ends_liftM_ok_iff {Result : Type} {result : Result}
    {Returns : Result → State Address → Prop} :
    Ends (liftM (Except.ok result : Except Fault Result) : Contract Address Result) Returns Fails
        before ↔
      Returns result before :=
  Iff.rfl

@[simp]
theorem ends_okOr_iff {Result : Type} {value : Option Result} {error : Error}
    {Returns : Result → State Address → Prop} :
    Ends (liftM (okOr value error) : Contract Address Result) Returns Fails before ↔
      (∀ result, value = some result → Returns result before) ∧
        (value = none → Fails (.error error)) := by
  change Ends (liftResult (okOr value error)) Returns Fails before ↔ _
  cases value with
  | none => simp [Ends, liftResult, okOr]
  | some result => simp [Ends, liftResult, okOr]

@[simp]
theorem ends_orTrap_iff {Result : Type} {value : Option Result} {trap : Trap}
    {Returns : Result → State Address → Prop} :
    Ends (liftM (orTrap value trap) : Contract Address Result) Returns Fails before ↔
      (∀ result, value = some result → Returns result before) ∧
        (value = none → Fails (.trap trap)) := by
  change Ends (liftResult (orTrap value trap)) Returns Fails before ↔ _
  cases value with
  | none => simp [Ends, liftResult, orTrap]
  | some result => simp [Ends, liftResult, orTrap]

@[simp]
theorem ends_failIf_iff {condition : Prop} [Decidable condition] {error : Error}
    {Returns : Unit → State Address → Prop} :
    Ends (failIf condition error : Contract Address Unit) Returns Fails before ↔
      (condition → Fails (.error error)) ∧ (¬condition → Returns () before) := by
  rw [failIf, ends_ite_iff, ends_throw_iff, ends_pure_iff]

@[simp]
theorem ends_onlyIf_iff {condition : Prop} [Decidable condition]
    {action : Contract Address Unit} {Returns : Unit → State Address → Prop} :
    Ends (onlyIf condition action) Returns Fails before ↔
      (condition → Ends action Returns Fails before) ∧ (¬condition → Returns () before) := by
  rw [onlyIf, ends_ite_iff, ends_pure_iff]

@[simp]
theorem ends_requireAuth_iff {env : Env Address} {address : Address}
    {Returns : Unit → State Address → Prop} :
    Ends (requireAuth env address) Returns Fails before ↔
      (env.authorized address = true → Returns () before) ∧
        (¬env.authorized address = true → Fails (.trap .authorizationFailed)) := by
  rw [requireAuth, ends_ite_iff, ends_throw_iff, ends_pure_iff]

@[simp]
theorem ends_readState_iff {Result : Type} {read : State Address → Result}
    {Returns : Result → State Address → Prop} :
    Ends (readState read) Returns Fails before ↔ Returns (read before) before :=
  Iff.rfl

@[simp]
theorem ends_readAdmin_iff {Returns : Address → State Address → Prop} :
    Ends readAdmin Returns Fails before ↔
      (∀ admin, before.admin = some admin → Returns admin before) ∧
        (before.admin = none → Fails (.trap .unwrapNone)) := by
  rw [readAdmin, ends_bind_iff, ends_readState_iff, ends_orTrap_iff]

@[simp]
theorem ends_readToken_iff {Returns : Address → State Address → Prop} :
    Ends readToken Returns Fails before ↔
      (∀ token, before.token = some token → Returns token before) ∧
        (before.token = none → Fails (.trap .unwrapNone)) := by
  rw [readToken, ends_bind_iff, ends_readState_iff, ends_orTrap_iff]

@[simp]
theorem ends_transfer_iff [DecidableEq Address] {env : Env Address}
    {token source destination : Address} {amount : I128} {purpose : Purpose}
    {Returns : Unit → State Address → Prop} :
    Ends (transfer env token source destination amount purpose) Returns Fails before ↔
      (env.accepts before.balances ⟨token, source, destination, amount, purpose⟩ = true →
          Returns () (before.recordTransfer ⟨token, source, destination, amount, purpose⟩)) ∧
        (¬env.accepts before.balances ⟨token, source, destination, amount, purpose⟩ = true →
          Fails (.trap .transferFailed)) := by
  change Ends (if _ then _ else _) Returns Fails before ↔ _
  rw [ends_ite_iff]
  exact Iff.rfl

end WeakestPreconditions

end StreamPay
