import StreamPay.Foundation.BoundedInt

/-!
# Data types and limits of the streaming contract

This file follows `types.rs`, `error.rs` and `constants.rs`.  Fixed-width
integers are integers with range proofs, addresses are an arbitrary type with
decidable equality, and every outcome of a Rust function that is not a value is
a `Fault`: either a contract error returned to the caller or a trap of the
host.
-/

namespace StreamPay

open Foundation

abbrev U32 := BoundedInt 0 (2 ^ 32 - 1)

abbrev U64 := BoundedInt 0 (2 ^ 64 - 1)

abbrev U128 := BoundedInt 0 (2 ^ 128 - 1)

abbrev I128 := BoundedInt (-2 ^ 127) (2 ^ 127 - 1)

theorem u32_nonempty : (0 : ℤ) ≤ 2 ^ 32 - 1 := by
  omega

theorem u64_nonempty : (0 : ℤ) ≤ 2 ^ 64 - 1 := by
  omega

theorem i128_nonempty : (-2 ^ 127 : ℤ) ≤ 2 ^ 127 - 1 := by
  omega

instance : OfNat U32 0 := ⟨⟨0, by omega, by omega⟩⟩

instance : OfNat U32 1 := ⟨⟨1, by omega, by omega⟩⟩

instance : OfNat U64 0 := ⟨⟨0, by omega, by omega⟩⟩

instance : OfNat U64 1 := ⟨⟨1, by omega, by omega⟩⟩

instance : OfNat I128 0 := ⟨⟨0, by omega, by omega⟩⟩

instance : OfNat I128 1 := ⟨⟨1, by omega, by omega⟩⟩

@[simp]
theorem u32_zero_val : (0 : U32).val = 0 :=
  rfl

@[simp]
theorem u32_one_val : (1 : U32).val = 1 :=
  rfl

@[simp]
theorem u64_zero_val : (0 : U64).val = 0 :=
  rfl

@[simp]
theorem u64_one_val : (1 : U64).val = 1 :=
  rfl

@[simp]
theorem i128_zero_val : (0 : I128).val = 0 :=
  rfl

@[simp]
theorem i128_one_val : (1 : I128).val = 1 :=
  rfl

def I128.max : I128 := ⟨2 ^ 127 - 1, by omega, by omega⟩

/-- The widening cast `as i128` of a `u64`. -/
def U64.toI128 (value : U64) : I128 :=
  ⟨value.val, by have := value.lower_le; omega, by have := value.le_upper; omega⟩

/-- The widening cast `as u128` of a `u64`. -/
def U64.toU128 (value : U64) : U128 :=
  ⟨value.val, value.lower_le, by have := value.le_upper; omega⟩

/-- The widening cast `as u64` of a `u32`. -/
def U32.toU64 (value : U32) : U64 :=
  ⟨value.val, value.lower_le, by have := value.le_upper; omega⟩

/-- The narrowing cast `as u32`, which keeps the low bits. -/
def toU32 (value : ℤ) : U32 :=
  BoundedInt.wrap u32_nonempty value

@[simp]
theorem U64.toI128_val (value : U64) : value.toI128.val = value.val :=
  rfl

@[simp]
theorem U64.toU128_val (value : U64) : value.toU128.val = value.val :=
  rfl

@[simp]
theorem U32.toU64_val (value : U32) : value.toU64.val = value.val :=
  rfl

inductive Error where
  | alreadyInitialized
  | notInitialized
  | streamNotFound
  | invalidAmount
  | invalidTimeRange
  | unauthorized
  | overflow
  | alreadyCancelled
  | nothingToWithdraw
  | alreadyCompleted
  | endTimeInPast
  | amountBelowMinimum
  | streamNotActive
  | noPendingAdminAction
  | timelockNotExpired
  | invalidAdminAction
  | supplyCapExceeded
  | emptyBatch
deriving DecidableEq, Repr

/-- The ways a call aborts without returning a contract error. -/
inductive Trap where
  | authorizationFailed
  | transferFailed
  | wasmMissing
  | unwrapNone
  | arithmetic
deriving DecidableEq, Repr

inductive Fault where
  | error (error : Error)
  | trap (trap : Trap)
deriving DecidableEq, Repr

/-- `ok_or(error)?`. -/
def okOr {Result : Type} (value : Option Result) (error : Error) : Except Fault Result :=
  match value with
  | some result => .ok result
  | none => .error (.error error)

/-- An operation that panics where it is undefined. -/
def orTrap {Result : Type} (value : Option Result) (trap : Trap) : Except Fault Result :=
  match value with
  | some result => .ok result
  | none => .error (.trap trap)

@[simp]
theorem okOr_eq_ok_iff {Result : Type} {value : Option Result} {error : Error}
    {result : Result} : okOr value error = .ok result ↔ value = some result := by
  cases value <;> simp [okOr]

@[simp]
theorem orTrap_eq_ok_iff {Result : Type} {value : Option Result} {trap : Trap}
    {result : Result} : orTrap value trap = .ok result ↔ value = some result := by
  cases value <;> simp [orTrap]

theorem okOr_eq_error_iff {Result : Type} {value : Option Result} {error : Error}
    {fault : Fault} : okOr value error = .error fault ↔ value = none ∧ fault = .error error := by
  cases value <;> simp [okOr, eq_comm]

theorem orTrap_eq_error_iff {Result : Type} {value : Option Result} {trap : Trap}
    {fault : Fault} : orTrap value trap = .error fault ↔ value = none ∧ fault = .trap trap := by
  cases value <;> simp [orTrap, eq_comm]

structure StreamRequest (Address : Type) where
  recipient : Address
  totalAmount : I128
  startTime : U64
  endTime : U64
deriving DecidableEq

inductive Status where
  | active
  | cancelled
  | completed
deriving DecidableEq, Repr

structure Stream (Address : Type) where
  sender : Address
  recipient : Address
  total : I128
  withdrawn : I128
  start : U64
  «end» : U64
  status : Status
deriving DecidableEq

structure StreamSummary where
  total : I128
  vested : I128
  withdrawn : I128
  withdrawable : I128
  progressBps : U32
  status : Status
deriving DecidableEq

def minStreamAmount : I128 := 1

def adminTimelockDelay : U64 := ⟨86400, by omega, by omega⟩

def minValidAmount : I128 := 1

def defaultSupplyCap : I128 := I128.max

def isValidAmount (amount : I128) : Bool :=
  decide (amount ≥ minValidAmount) && decide (amount ≥ minStreamAmount)

@[simp]
theorem isValidAmount_iff {amount : I128} : isValidAmount amount = true ↔ 1 ≤ amount.val := by
  simp only [isValidAmount, minValidAmount, minStreamAmount, ge_iff_le, Bool.and_self,
    decide_eq_true_eq, BoundedInt.le_iff, i128_one_val]

end StreamPay
