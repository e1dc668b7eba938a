import StreamPay.Host
import StreamPay.Vesting

/-!
# Entry points of the contract

This file follows `lib.rs`.  Checks and effects stand in the order of the
source; `?` on an option or a result is a bind, and an early `return Err(..)`
is `failIf`.
-/

namespace StreamPay

open Foundation

variable {Address : Type} [DecidableEq Address]

def initializeContract (env : Env Address) (admin token : Address) : Contract Address Unit := do
  let initialized ← hasAdmin
  failIf (initialized = true) .alreadyInitialized
  writeAdmin admin
  writeToken token
  writeCounter 0
  writeTotalSupply 0
  writeSupplyCap defaultSupplyCap
  extendInstance env

/-- The guard `if !storage::has_admin(&env)` of the administrative entry points. -/
def requireInitialized : Contract Address Unit := do
  let initialized ← hasAdmin
  failIf (initialized = false) .notInitialized

def getAdmin : Contract Address Address := do
  requireInitialized
  readAdmin

def getPendingAdmin : Contract Address (Option Address) := do
  requireInitialized
  readPendingAdmin

def getAdminActionExecuteAfter : Contract Address (Option U64) := do
  requireInitialized
  readAdminActionExecuteAfter

def scheduleAdminTransfer (env : Env Address) (admin newAdmin : Address) :
    Contract Address U64 := do
  requireInitialized
  requireAuth env admin
  let currentAdmin ← readAdmin
  failIf (admin ≠ currentAdmin) .unauthorized
  failIf (newAdmin = admin) .invalidAdminAction
  let executeAfter ← okOr (env.ledger.timestamp.checkedAdd adminTimelockDelay) .overflow
  writePendingAdminAction newAdmin executeAfter
  extendInstance env
  adminTransferScheduled admin newAdmin executeAfter
  return executeAfter

def executeAdminTransfer (env : Env Address) : Contract Address Unit := do
  requireInitialized
  let pendingAdmin ← readPendingAdmin
  let pendingAdmin ← okOr pendingAdmin .noPendingAdminAction
  let executeAfter ← readAdminActionExecuteAfter
  let executeAfter ← okOr executeAfter .noPendingAdminAction
  failIf (env.ledger.timestamp < executeAfter) .timelockNotExpired
  let previousAdmin ← readAdmin
  writeAdmin pendingAdmin
  clearPendingAdminAction
  extendInstance env
  adminTransferExecuted previousAdmin pendingAdmin

def cancelAdminTransfer (env : Env Address) (admin : Address) : Contract Address Unit := do
  requireInitialized
  requireAuth env admin
  let currentAdmin ← readAdmin
  failIf (admin ≠ currentAdmin) .unauthorized
  let pendingAdmin ← readPendingAdmin
  failIf (pendingAdmin = none) .noPendingAdminAction
  clearPendingAdminAction
  extendInstance env
  adminTransferCancelled admin

def getToken : Contract Address Address := do
  requireInitialized
  readToken

def setAdmin (env : Env Address) (newAdmin : Address) : Contract Address Unit := do
  requireInitialized
  let currentAdmin ← readAdmin
  requireAuth env currentAdmin
  writeAdmin newAdmin
  extendInstance env
  adminChanged currentAdmin newAdmin

def upgrade (env : Env Address) (newWasmHash : BitVec 256) : Contract Address Unit := do
  requireInitialized
  let currentAdmin ← readAdmin
  requireAuth env currentAdmin
  updateCurrentContractWasm env newWasmHash
  extendInstance env
  contractUpgraded newWasmHash

def streamCounter : Contract Address U64 :=
  readCounter

def getTotalSupply : Contract Address I128 :=
  readTotalSupply

def getSupplyCap : Contract Address I128 :=
  readSupplyCap

def setSupplyCap (env : Env Address) (newCap : I128) : Contract Address Unit := do
  requireInitialized
  let admin ← readAdmin
  requireAuth env admin
  failIf (newCap ≤ 0) .invalidAmount
  let oldCap ← readSupplyCap
  writeSupplyCap newCap
  extendInstance env
  supplyCapUpdated admin oldCap newCap

/-- `storage::read_stream(&env, id).ok_or(Error::StreamNotFound)?`. -/
def getStream (id : U64) : Contract Address (Stream Address) := do
  let stream ← readStream id
  okOr stream .streamNotFound

def createStream (env : Env Address) (sender recipient : Address) (totalAmount : I128)
    (startTime endTime : U64) : Contract Address U64 := do
  requireInitialized
  requireAuth env sender
  let startTime := normalizeStartTime env.ledger.timestamp startTime
  failIf (isValidAmount totalAmount = false) .invalidAmount
  failIf (totalAmount < minStreamAmount) .amountBelowMinimum
  failIf (endTime ≤ startTime) .invalidTimeRange
  failIf (endTime ≤ env.ledger.timestamp) .endTimeInPast
  let currentSupply ← readTotalSupply
  let newSupply ← okOr (currentSupply.checkedAdd totalAmount) .overflow
  let cap ← readSupplyCap
  failIf (newSupply > cap) .supplyCapExceeded
  let token ← readToken
  transfer env token sender env.currentContractAddress totalAmount .funding
  let id ← readCounter
  let next ← okOr (id.checkedAdd 1) .overflow
  writeStream env id
    { sender := sender
      recipient := recipient
      total := totalAmount
      withdrawn := 0
      start := startTime
      «end» := endTime
      status := .active }
  writeCounter next
  writeTotalSupply newSupply
  extendInstance env
  streamCreated id sender recipient totalAmount
  return id

/-- A host vector, whose length is a `u32`. -/
structure HostVec (Item : Type) where
  toList : List Item
  length_le : toList.length ≤ 2 ^ 32 - 1

def HostVec.len {Item : Type} (items : HostVec Item) : U32 :=
  ⟨items.toList.length, by omega, by have := items.length_le; omega⟩

@[simp]
theorem HostVec.len_val {Item : Type} (items : HostVec Item) :
    items.len.val = items.toList.length :=
  rfl

def HostVec.get {Item : Type} (items : HostVec Item) (index : U32) : Option Item :=
  items.toList[index.val.toNat]?

/-- The validation loop of `create_stream_batch`; `fuel` bounds the iterations left. -/
def validateRequests (requests : HostVec (StreamRequest Address)) (now : U64) :
    ℕ → U32 → I128 → Contract Address I128
  | 0, _, aggregateAmount => pure aggregateAmount
  | fuel + 1, index, aggregateAmount =>
      if index < requests.len then do
        let request ← orTrap (requests.get index) .unwrapNone
        failIf (isValidAmount request.totalAmount = false) .invalidAmount
        failIf (request.totalAmount < minStreamAmount) .amountBelowMinimum
        failIf (request.endTime ≤ request.startTime) .invalidTimeRange
        failIf (request.endTime ≤ now) .endTimeInPast
        let aggregateAmount ← okOr (aggregateAmount.checkedAdd request.totalAmount) .overflow
        let index ← orTrap (index.checkedAdd 1) .arithmetic
        validateRequests requests now fuel index aggregateAmount
      else
        pure aggregateAmount

/-- The construction loop of `create_stream_batch`; `fuel` bounds the iterations left. -/
def createRequests (env : Env Address) (sender : Address)
    (requests : HostVec (StreamRequest Address)) (firstId : U64) :
    ℕ → U32 → List U64 → Contract Address (List U64)
  | 0, _, ids => pure ids
  | fuel + 1, index, ids =>
      if index < requests.len then do
        let request ← orTrap (requests.get index) .unwrapNone
        let id ← orTrap (firstId.checkedAdd (U32.toU64 index)) .arithmetic
        writeStream env id
          { sender := sender
            recipient := request.recipient
            total := request.totalAmount
            withdrawn := 0
            start := request.startTime
            «end» := request.endTime
            status := .active }
        streamCreated id sender request.recipient request.totalAmount
        let index ← orTrap (index.checkedAdd 1) .arithmetic
        createRequests env sender requests firstId fuel index (ids ++ [id])
      else
        pure ids

def createStreamBatch (env : Env Address) (sender : Address)
    (requests : HostVec (StreamRequest Address)) : Contract Address (List U64) := do
  requireInitialized
  requireAuth env sender
  failIf (requests.toList = []) .emptyBatch
  let now := env.ledger.timestamp
  let aggregateAmount ← validateRequests requests now requests.toList.length 0 0
  let count := U32.toU64 requests.len
  let firstId ← readCounter
  let nextCounter ← okOr (firstId.checkedAdd count) .overflow
  let token ← readToken
  transfer env token sender env.currentContractAddress aggregateAmount .funding
  let ids ← createRequests env sender requests firstId requests.toList.length 0 []
  writeCounter nextCounter
  extendInstance env
  return ids

def topUp (env : Env Address) (id : U64) (sender : Address) (amount : I128) :
    Contract Address I128 := do
  requireAuth env sender
  failIf (isValidAmount amount = false) .invalidAmount
  let stream ← getStream id
  failIf (sender ≠ stream.sender) .unauthorized
  failIf (stream.status ≠ .active) .streamNotActive
  let newTotal ← okOr (stream.total.checkedAdd amount) .overflow
  let currentSupply ← readTotalSupply
  let newSupply ← okOr (currentSupply.checkedAdd amount) .overflow
  let cap ← readSupplyCap
  failIf (newSupply > cap) .supplyCapExceeded
  let token ← readToken
  transfer env token sender env.currentContractAddress amount (.topUp id)
  writeStream env id { stream with total := newTotal }
  writeTotalSupply newSupply
  extendInstance env
  streamToppedUp id sender amount newTotal
  return newTotal

def extendStream (env : Env Address) (id : U64) (sender : Address) (newEnd : U64) :
    Contract Address Unit := do
  requireAuth env sender
  let stream ← getStream id
  failIf (sender ≠ stream.sender) .unauthorized
  failIf (stream.status ≠ .active) .streamNotActive
  failIf (newEnd ≤ stream.end) .invalidTimeRange
  writeStream env id { stream with «end» := newEnd }
  extendInstance env
  streamExtended id sender stream.end newEnd

def getStatus (id : U64) : Contract Address Status := do
  let stream ← getStream id
  return stream.status

def isActive (id : U64) : Contract Address Bool := do
  let stream ← getStream id
  return decide (stream.status = .active)

def duration (id : U64) : Contract Address U64 := do
  let stream ← getStream id
  orTrap (stream.end.checkedSub stream.start) .arithmetic

def elapsed (env : Env Address) (id : U64) : Contract Address U64 := do
  let stream ← getStream id
  Vesting.elapsed stream env.ledger.timestamp

def streamedAmount (env : Env Address) (id : U64) : Contract Address I128 := do
  let stream ← getStream id
  Vesting.vested stream env.ledger.timestamp

def progressBps (env : Env Address) (id : U64) : Contract Address U32 := do
  let stream ← getStream id
  Vesting.progressBps stream env.ledger.timestamp

def percentWithdrawn (id : U64) : Contract Address U32 := do
  let stream ← getStream id
  if stream.total ≤ 0 then
    return 0
  else do
    let scaled ← okOr (stream.withdrawn.checkedMul ⟨10000, by omega, by omega⟩) .overflow
    let bps ← orTrap (scaled.checkedDiv stream.total) .arithmetic
    return toU32 bps.val

def remainingAmount (env : Env Address) (id : U64) : Contract Address I128 := do
  let stream ← getStream id
  Vesting.unvested stream env.ledger.timestamp

def getSummary (env : Env Address) (id : U64) : Contract Address StreamSummary := do
  let stream ← getStream id
  let now := env.ledger.timestamp
  let vested ← Vesting.vested stream now
  let withdrawable ← Vesting.withdrawable stream now
  let progressBps ← Vesting.progressBps stream now
  return {
    total := stream.total
    vested := vested
    withdrawn := stream.withdrawn
    withdrawable := withdrawable
    progressBps := progressBps
    status := stream.status }

def withdrawableAmount (env : Env Address) (id : U64) : Contract Address I128 := do
  let stream ← getStream id
  Vesting.withdrawable stream env.ledger.timestamp

def withdraw (env : Env Address) (id : U64) (recipient : Address) : Contract Address I128 := do
  requireAuth env recipient
  let stream ← getStream id
  failIf (stream.recipient ≠ recipient) .unauthorized
  failIf (stream.status = .cancelled) .alreadyCancelled
  failIf (stream.status = .completed) .alreadyCompleted
  let available ← Vesting.withdrawable stream env.ledger.timestamp
  failIf (available ≤ 0) .nothingToWithdraw
  let withdrawn ← okOr (stream.withdrawn.checkedAdd available) .overflow
  let status := if withdrawn ≥ stream.total then .completed else stream.status
  writeStream env id { stream with withdrawn := withdrawn, status := status }
  let token ← readToken
  transfer env token env.currentContractAddress recipient available (.payout id)
  let supply ← readTotalSupply
  writeTotalSupply ((supply.checkedSub available).getD 0)
  streamWithdrawn id recipient available
  return available

def cancel (env : Env Address) (id : U64) (caller : Address) : Contract Address Unit := do
  requireAuth env caller
  let stream ← getStream id
  failIf (caller ≠ stream.sender ∧ caller ≠ stream.recipient) .unauthorized
  failIf (stream.status = .cancelled) .alreadyCancelled
  let now := env.ledger.timestamp
  let vested ← Vesting.vested stream now
  let recipientPaid ← okOr (vested.checkedSub stream.withdrawn) .overflow
  let senderRefund ← Vesting.unvested stream now
  writeStream env id { stream with withdrawn := vested, status := .cancelled }
  let token ← readToken
  onlyIf (recipientPaid > 0) <|
    transfer env token env.currentContractAddress stream.recipient recipientPaid (.payout id)
  onlyIf (senderRefund > 0) <|
    transfer env token env.currentContractAddress stream.sender senderRefund (.refund id)
  let released := (recipientPaid.checkedAdd senderRefund).getD senderRefund
  let supply ← readTotalSupply
  writeTotalSupply ((supply.checkedSub released).getD 0)
  streamCancelled id caller senderRefund recipientPaid

end StreamPay
