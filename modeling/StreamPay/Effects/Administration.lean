import StreamPay.Contract

/-!
# What administrative calls do

For each administrative entry point this file states exactly when it returns
and which state it leaves.  Later arguments use these equivalences and never
unfold the entry points.
-/

namespace StreamPay

open Foundation Foundation.Computation

variable {Address : Type} {env : Env Address}
  {before after : State Address} {result : Unit}

theorem requireInitialized_eq_ok_iff :
    (requireInitialized : Contract Address Unit) before = .ok result after ↔
      (∃ admin, before.admin = some admin) ∧ after = before := by
  simp only [requireInitialized, hasAdmin, bind_eq_ok_iff, readState_eq_ok_iff,
    failIf_eq_ok_iff, and_assoc, exists_and_left, exists_eq_left, Bool.not_eq_false,
    Option.isSome_iff_exists]

theorem initializeContract_eq_ok_iff {admin token : Address} :
    initializeContract env admin token before = .ok result after ↔
      before.admin = none ∧
        after =
          (((((before.setAdmin admin).setToken token).setCounter 0).setTotalSupply
            0).setSupplyCap defaultSupplyCap).touchInstance env.ledger := by
  simp only [initializeContract, hasAdmin, writeAdmin, writeToken, writeCounter,
    writeTotalSupply, writeSupplyCap, extendInstance, bind_eq_ok_iff, readState_eq_ok_iff,
    failIf_eq_ok_iff, modify_eq_ok_iff, and_assoc, exists_and_left, exists_eq_left, exists_const,
    Bool.not_eq_true, Option.isSome_eq_false_iff, Option.isNone_iff_eq_none]

variable [DecidableEq Address]

theorem scheduleAdminTransfer_eq_ok_iff {admin newAdmin : Address} {executeAfter : U64} :
    scheduleAdminTransfer env admin newAdmin before = .ok executeAfter after ↔
      before.admin = some admin ∧ env.authorized admin = true ∧ newAdmin ≠ admin ∧
        executeAfter.val = env.ledger.timestamp.val + 86400 ∧
          after =
            (((before.setPendingAdmin (some newAdmin)).setExecuteAfter
              (some executeAfter)).touchInstance env.ledger).publish
                (.adminScheduled admin newAdmin executeAfter) := by
  simp only [scheduleAdminTransfer, writePendingAdminAction, extendInstance,
    adminTransferScheduled, publish, bind_eq_ok_iff, requireInitialized_eq_ok_iff,
    requireAuth_eq_ok_iff, readAdmin_eq_ok_iff, failIf_eq_ok_iff, liftM_eq_ok_iff,
    okOr_eq_ok_iff, BoundedInt.checkedAdd_eq_some_iff, modify_eq_ok_iff, pure_eq_ok_iff,
    and_assoc, exists_and_left, exists_eq_left, exists_const, ne_eq, not_not]
  constructor
  · rintro ⟨_, authorized, current, isAdmin, rfl, differs, deadline, deadlineEq, rfl, rfl⟩
    exact ⟨isAdmin, authorized, differs, deadlineEq, rfl⟩
  · rintro ⟨isAdmin, authorized, differs, deadlineEq, rfl⟩
    exact ⟨⟨admin, isAdmin⟩, authorized, admin, isAdmin, rfl, differs, executeAfter, deadlineEq,
      rfl, rfl⟩

omit [DecidableEq Address] in
theorem executeAdminTransfer_eq_ok_iff :
    executeAdminTransfer env before = .ok result after ↔
      ∃ previousAdmin pendingAdmin executeAfter,
        before.admin = some previousAdmin ∧ before.pendingAdmin = some pendingAdmin ∧
          before.adminActionExecuteAfter = some executeAfter ∧
            executeAfter.val ≤ env.ledger.timestamp.val ∧
              after =
                ((((before.setAdmin pendingAdmin).setPendingAdmin none).setExecuteAfter
                  none).touchInstance env.ledger).publish
                    (.adminTransfer previousAdmin pendingAdmin) := by
  simp only [executeAdminTransfer, readPendingAdmin, readAdminActionExecuteAfter, writeAdmin,
    clearPendingAdminAction, extendInstance, adminTransferExecuted, publish, bind_eq_ok_iff,
    requireInitialized_eq_ok_iff, readState_eq_ok_iff, readAdmin_eq_ok_iff, failIf_eq_ok_iff,
    liftM_eq_ok_iff, okOr_eq_ok_iff, BoundedInt.lt_iff, modify_eq_ok_iff, and_assoc,
    exists_and_left, exists_eq_left, exists_const, not_lt]
  constructor
  · rintro ⟨_, pendingAdmin, pendingEq, executeAfter, executeAfterEq, matured, previousAdmin,
      isAdmin, rfl⟩
    exact ⟨previousAdmin, isAdmin, pendingAdmin, pendingEq, executeAfter, executeAfterEq, matured,
      rfl⟩
  · rintro ⟨previousAdmin, isAdmin, pendingAdmin, pendingEq, executeAfter, executeAfterEq,
      matured, rfl⟩
    exact ⟨⟨previousAdmin, isAdmin⟩, pendingAdmin, pendingEq, executeAfter, executeAfterEq,
      matured, previousAdmin, isAdmin, rfl⟩

theorem cancelAdminTransfer_eq_ok_iff {admin : Address} :
    cancelAdminTransfer env admin before = .ok result after ↔
      before.admin = some admin ∧ env.authorized admin = true ∧ before.pendingAdmin ≠ none ∧
        after =
          (((before.setPendingAdmin none).setExecuteAfter none).touchInstance env.ledger).publish
            (.adminCancelled admin) := by
  simp only [cancelAdminTransfer, readPendingAdmin, clearPendingAdminAction, extendInstance,
    adminTransferCancelled, publish, bind_eq_ok_iff, requireInitialized_eq_ok_iff,
    requireAuth_eq_ok_iff, readState_eq_ok_iff, readAdmin_eq_ok_iff, failIf_eq_ok_iff,
    modify_eq_ok_iff, and_assoc, exists_and_left, exists_eq_left, exists_const, ne_eq, not_not]
  constructor
  · rintro ⟨_, authorized, current, isAdmin, rfl, pending, rfl⟩
    exact ⟨isAdmin, authorized, pending, rfl⟩
  · rintro ⟨isAdmin, authorized, pending, rfl⟩
    exact ⟨⟨admin, isAdmin⟩, authorized, admin, isAdmin, rfl, pending, rfl⟩

omit [DecidableEq Address] in
theorem setAdmin_eq_ok_iff {newAdmin : Address} :
    setAdmin env newAdmin before = .ok result after ↔
      ∃ currentAdmin,
        before.admin = some currentAdmin ∧ env.authorized currentAdmin = true ∧
          after =
            ((before.setAdmin newAdmin).touchInstance env.ledger).publish
              (.adminSet currentAdmin newAdmin) := by
  simp only [setAdmin, writeAdmin, extendInstance, adminChanged, publish, bind_eq_ok_iff,
    requireInitialized_eq_ok_iff, requireAuth_eq_ok_iff, readAdmin_eq_ok_iff, modify_eq_ok_iff,
    and_assoc, exists_and_left, exists_eq_left, exists_const]
  constructor
  · rintro ⟨_, changed⟩
    exact changed
  · rintro ⟨currentAdmin, isAdmin, changed⟩
    exact ⟨⟨currentAdmin, isAdmin⟩, currentAdmin, isAdmin, changed⟩

omit [DecidableEq Address] in
theorem setSupplyCap_eq_ok_iff {newCap : I128} :
    setSupplyCap env newCap before = .ok result after ↔
      ∃ admin,
        before.admin = some admin ∧ env.authorized admin = true ∧ 0 < newCap.val ∧
          after =
            ((before.setSupplyCap newCap).touchInstance env.ledger).publish
              (.capadmin admin (before.supplyCap.getD I128.max) newCap) := by
  simp only [setSupplyCap, readSupplyCap, writeSupplyCap, extendInstance, supplyCapUpdated,
    publish, bind_eq_ok_iff, requireInitialized_eq_ok_iff, requireAuth_eq_ok_iff,
    readAdmin_eq_ok_iff, readState_eq_ok_iff, failIf_eq_ok_iff, modify_eq_ok_iff,
    BoundedInt.le_iff, i128_zero_val, not_le, and_assoc, exists_and_left, exists_eq_left,
    exists_const]
  constructor
  · rintro ⟨_, changed⟩
    exact changed
  · rintro ⟨admin, isAdmin, changed⟩
    exact ⟨⟨admin, isAdmin⟩, admin, isAdmin, changed⟩

end StreamPay
