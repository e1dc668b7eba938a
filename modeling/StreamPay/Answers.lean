import StreamPay.Safety

/-!
# What the views of a stream answer

Every view of a stream reads its record and computes a result from the record and
the time alone.  This file gives these computations as functions of the record,
so that statements about answers need not look at the state of the contract.
-/

namespace StreamPay

open Foundation Foundation.Computation

variable {Address : Type}

instance : LawfulMonadLift (Except Fault) (Contract Address) where
  monadLift_pure _ := rfl
  monadLift_bind value _ := by cases value <;> rfl

namespace Stream

/-- The withdrawn part of the total in basis points. -/
def percentWithdrawn (stream : Stream Address) : Except Fault U32 :=
  if stream.total ≤ 0 then
    .ok 0
  else do
    let scaled ← okOr (stream.withdrawn.checkedMul basisPoints) .overflow
    let bps ← orTrap (scaled.checkedDiv stream.total) .arithmetic
    return toU32 bps.val

/-- The summary of a record at one timestamp. -/
def summary (stream : Stream Address) (now : U64) : Except Fault StreamSummary := do
  let vested ← Vesting.vested stream now
  let withdrawable ← Vesting.withdrawable stream now
  let progressBps ← Vesting.progressBps stream now
  return ⟨stream.total, vested, stream.withdrawn, withdrawable, progressBps, stream.status⟩

end Stream

theorem percentWithdrawn_eq {id : U64} :
    (percentWithdrawn id : Contract Address U32) =
      getStream id >>= fun stream => liftM stream.percentWithdrawn := by
  unfold percentWithdrawn Stream.percentWithdrawn
  congr
  funext stream
  split
  · rfl
  · simp [liftM_bind, basisPoints]

theorem getSummary_eq {env : Env Address} {id : U64} :
    getSummary env id =
      getStream id >>= fun stream => liftM (stream.summary env.ledger.timestamp) := by
  simp [getSummary, Stream.summary, liftM_bind]

/-- The only fault of the computation is an overflow, whether it is reported or not. -/
def OnlyOverflows {Result : Type} (value : Except Fault Result) : Prop :=
  ∀ fault, value = .error fault → fault = .error .overflow ∨ fault = .trap .arithmetic

section Overflowing

variable {Result Next : Type} {stream : Stream Address} {now : U64}

theorem OnlyOverflows.ok {result : Result} : OnlyOverflows (.ok result) := by
  intro fault failed
  contradiction

theorem OnlyOverflows.bind {value : Except Fault Result} {next : Result → Except Fault Next}
    (first : OnlyOverflows value) (rest : ∀ result, OnlyOverflows (next result)) :
    OnlyOverflows (value >>= next) := by
  intro fault failed
  rcases except_bind_eq_error_iff.mp failed with failed | ⟨middle, _, failed⟩
  · exact first fault failed
  · exact rest middle fault failed

theorem onlyOverflows_okOr {result : Option Result} : OnlyOverflows (okOr result .overflow) := by
  intro fault failed
  exact .inl (okOr_eq_error_iff.mp failed).2

theorem onlyOverflows_orTrap {result : Option Result} :
    OnlyOverflows (orTrap result .arithmetic) := by
  intro fault failed
  exact .inr (orTrap_eq_error_iff.mp failed).2

theorem onlyOverflows_vested : OnlyOverflows (Vesting.vested stream now) := by
  unfold Vesting.vested
  split
  · exact .ok
  · split
    · exact .ok
    · refine onlyOverflows_orTrap.bind fun elapsed => onlyOverflows_orTrap.bind fun duration => ?_
      exact onlyOverflows_okOr.bind fun numerator => onlyOverflows_okOr

theorem onlyOverflows_unvested : OnlyOverflows (Vesting.unvested stream now) :=
  onlyOverflows_vested.bind fun _ => onlyOverflows_okOr

theorem onlyOverflows_withdrawable : OnlyOverflows (Vesting.withdrawable stream now) :=
  onlyOverflows_vested.bind fun _ => onlyOverflows_okOr.bind fun _ => .ok

theorem onlyOverflows_progressBps : OnlyOverflows (Vesting.progressBps stream now) := by
  unfold Vesting.progressBps
  split
  · exact .ok
  · split
    · exact .ok
    · refine onlyOverflows_orTrap.bind fun elapsed => onlyOverflows_orTrap.bind fun duration => ?_
      exact onlyOverflows_orTrap.bind fun scaled => onlyOverflows_orTrap.bind fun bps => .ok

theorem onlyOverflows_percentWithdrawn : OnlyOverflows stream.percentWithdrawn := by
  unfold Stream.percentWithdrawn
  split
  · exact .ok
  · exact onlyOverflows_okOr.bind fun scaled => onlyOverflows_orTrap.bind fun bps => .ok

theorem onlyOverflows_summary : OnlyOverflows (stream.summary now) :=
  onlyOverflows_vested.bind fun _ => onlyOverflows_withdrawable.bind fun _ =>
    onlyOverflows_progressBps.bind fun _ => .ok

end Overflowing

/-- The faults of views. -/
inductive ViewFault : Fault → Prop where
  | notInitialized : ViewFault (.error .notInitialized)
  | streamNotFound : ViewFault (.error .streamNotFound)
  | overflow : ViewFault (.error .overflow)
  | arithmetic : ViewFault (.trap .arithmetic)
  | unwrapNone : ViewFault (.trap .unwrapNone)

theorem View.ends_viewFault {env : Env Address} {before : State Address} {view : View} :
    Ends (view.run env) (fun _ _ => True) ViewFault before := by
  have computed {Result : Type} {toReply : Result → Reply Address} (id : U64)
      {value : Stream Address → Except Fault Result}
      (only : ∀ stream, OnlyOverflows (value stream)) :
      Ends (toReply <$> (StreamPay.getStream id >>= fun stream =>
        (liftM (value stream) : Contract Address Result))) (fun _ _ => True) ViewFault before := by
    rw [ends_map_iff, ends_bind_iff, ends_getStream_iff]
    refine ⟨fun stream _ => ?_, fun _ => .streamNotFound⟩
    refine ends_liftM_iff.mpr ⟨fun _ _ => trivial, fun fault failed => ?_⟩
    rcases only stream fault failed with rfl | rfl
    · exact .overflow
    · exact .arithmetic
  cases view
  case percentWithdrawn id =>
    rw [View.run, percentWithdrawn_eq]
    exact computed id fun _ => onlyOverflows_percentWithdrawn
  case getSummary id =>
    rw [View.run, getSummary_eq]
    exact computed id fun _ => onlyOverflows_summary
  case duration id => exact computed id fun _ => onlyOverflows_orTrap
  case elapsed id => exact computed id fun _ => onlyOverflows_orTrap
  case streamedAmount id => exact computed id fun _ => onlyOverflows_vested
  case progressBps id => exact computed id fun _ => onlyOverflows_progressBps
  case remainingAmount id => exact computed id fun _ => onlyOverflows_unvested
  case withdrawableAmount id => exact computed id fun _ => onlyOverflows_withdrawable
  all_goals
    simp [View.run, StreamPay.getAdmin, StreamPay.getPendingAdmin,
      StreamPay.getAdminActionExecuteAfter, StreamPay.getToken, StreamPay.streamCounter,
      StreamPay.getTotalSupply, StreamPay.getSupplyCap, StreamPay.getStatus, StreamPay.isActive,
      readPendingAdmin, readAdminActionExecuteAfter, readCounter, readTotalSupply,
      readSupplyCap, ViewFault.notInitialized, ViewFault.streamNotFound, ViewFault.unwrapNone]

/-- The stream that a view reads, and what the view makes of the record. -/
def View.reading (now : U64) :
    View → Option (U64 × (Stream Address → Except Fault (Reply Address)))
  | .getStream id => some (id, fun stream => .ok (.stream stream))
  | .getStatus id => some (id, fun stream => .ok (.status stream.status))
  | .isActive id => some (id, fun stream => .ok (.bool (decide (stream.status = .active))))
  | .duration id =>
      some (id, fun stream => (orTrap (stream.end.checkedSub stream.start) .arithmetic).map .u64)
  | .elapsed id => some (id, fun stream => (Vesting.elapsed stream now).map .u64)
  | .streamedAmount id => some (id, fun stream => (Vesting.vested stream now).map .i128)
  | .progressBps id => some (id, fun stream => (Vesting.progressBps stream now).map .u32)
  | .percentWithdrawn id => some (id, fun stream => stream.percentWithdrawn.map .u32)
  | .remainingAmount id => some (id, fun stream => (Vesting.unvested stream now).map .i128)
  | .getSummary id => some (id, fun stream => (stream.summary now).map .summary)
  | .withdrawableAmount id => some (id, fun stream => (Vesting.withdrawable stream now).map .i128)
  | .getAdmin | .getPendingAdmin | .getAdminActionExecuteAfter | .getToken | .streamCounter
  | .getTotalSupply | .getSupplyCap => none

section Asking

variable {env : Env Address} {before : State Address} {id : U64} {stream : Stream Address}
  {view : View} {answer : Stream Address → Except Fault (Reply Address)}

/-- A computation on a stored record ends as the computation on the record does. -/
theorem ends_computed_iff {Result : Type} {value : Stream Address → Except Fault Result}
    {toReply : Result → Reply Address} {expected : Except Fault (Reply Address)}
    (stored : before.streams.lookup id = some stream)
    (computed : expected = (value stream).map toReply) :
    Ends (toReply <$> (getStream id >>= fun stream =>
        (liftM (value stream) : Contract Address Result)))
      (fun reply _ => .ok reply = expected) (fun fault => .error fault = expected) before := by
  rw [ends_map_iff, ends_bind_iff, ends_getStream_iff, computed]
  simp +contextual [stored, ends_liftM_iff, Except.map]

theorem View.ends_reading (reads : view.reading env.ledger.timestamp = some (id, answer))
    (stored : before.streams.lookup id = some stream) :
    Ends (view.run env) (fun reply _ => .ok reply = answer stream)
      (fun fault => .error fault = answer stream) before := by
  cases view <;> simp only [View.reading, Option.some.injEq, Prod.mk.injEq, reduceCtorEq] at reads
  all_goals
    rcases reads with ⟨rfl, rfl⟩
  case getStream => simp +contextual [View.run, stored]
  case getStatus => simp +contextual [View.run, StreamPay.getStatus, stored]
  case isActive => simp +contextual [View.run, StreamPay.isActive, stored]
  case percentWithdrawn =>
    rw [View.run, percentWithdrawn_eq]
    exact ends_computed_iff stored rfl
  case getSummary =>
    rw [View.run, getSummary_eq]
    exact ends_computed_iff stored rfl
  all_goals exact ends_computed_iff stored rfl

variable [DecidableEq Address] {contract : Address} {system : System Address}

/-- A view of a stored stream answers what it makes of the record. -/
theorem ask_of_reading (reads : view.reading system.ledger.timestamp = some (id, answer))
    (stored : system.state.streams.lookup id = some stream) :
    system.ask contract view = answer stream := by
  apply ask_eq_of_ends
  intro env sameLedger
  rw [← sameLedger] at reads
  exact view.ends_reading reads stored

end Asking

end StreamPay
