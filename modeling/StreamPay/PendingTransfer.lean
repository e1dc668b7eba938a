import StreamPay.Authority

/-!
# The pending transfer as a summary of the history

The address that may become admin and the time from which it may are two
independent entries of the storage.  Together they say what the last of the calls
that schedule, execute or cancel a transfer has left: the address that it
scheduled and the time a day later, or nothing.  What an execution does is
therefore determined by that call alone, and every execution uses up a schedule
of its own.
-/

namespace StreamPay

open Foundation

variable {Address : Type} [DecidableEq Address] {contract : Address}

/-- The address that a transition schedules, and when. -/
def scheduledTransfer? (contract : Address)
    (transition : Transition (System Address) (Action Address)) : Option (Address × U64) :=
  match returnedCall? contract transition with
  | some (.scheduleAdminTransfer _ newAdmin) =>
      some (newAdmin, transition.source.ledger.timestamp)
  | _ => none

/-- The last transition that has scheduled, executed or cancelled a transfer. -/
def lastSettling? (contract : Address) (trace : Trace Address) :
    Option (Transition (System Address) (Action Address)) :=
  (trace.filter (settlesPending contract)).getLast?

/-- What the last settling call has left pending: the address, and when it was scheduled. -/
def pendingTransfer? (contract : Address) (trace : Trace Address) : Option (Address × U64) :=
  (lastSettling? contract trace).bind (scheduledTransfer? contract)

/-- Both entries of the storage agree with a transfer scheduled at some time, or with none. -/
structure State.Pends (state : State Address) (scheduled : Option (Address × U64)) : Prop where
  pendingAdmin : state.pendingAdmin = scheduled.map Prod.fst
  executeAfter : state.adminActionExecuteAfter.map BoundedInt.val =
    scheduled.map fun transfer => transfer.2.val + 86400

section Slot

variable {source target : System Address} {action : Action Address} {trace : Trace Address}
  {final : System Address} {transition : Transition (System Address) (Action Address)}

theorem pendingTransfer?_snoc_of_settles (settles : settlesPending contract transition = true) :
    pendingTransfer? contract (trace ++ [transition]) = scheduledTransfer? contract transition := by
  simp [pendingTransfer?, lastSettling?, List.filter_append, settles]

theorem pendingTransfer?_snoc_of_not_settles
    (notSettled : settlesPending contract transition = false) :
    pendingTransfer? contract (trace ++ [transition]) = pendingTransfer? contract trace := by
  simp [pendingTransfer?, lastSettling?, List.filter_append, notSettled]

/-- A settling call writes both entries, or clears both. -/
theorem Step.pends_of_settles (step : Step contract source action target)
    (settles : settlesPending contract ⟨source, action, target⟩ = true) :
    target.state.Pends (scheduledTransfer? contract ⟨source, action, target⟩) := by
  cases stepEffect_of_step step with
  | advance later laterSequence => simp [settlesPending, returnedCall?] at settles
  | external noLoss => simp [settlesPending, returnedCall?] at settles
  | failed outcome => simp [settlesPending, returnedCall?, outcome] at settles
  | @returned invocation reply after outcome effect =>
      have returned : returnedCall? contract
          ⟨source, .invoke invocation, { source with state := after }⟩ = some invocation.call :=
        returnedCall?_of_outcome outcome
      rcases invocation with ⟨authorized, transferAccepted, call⟩
      cases effect with
      | scheduleAdminTransfer isAdmin isAuthorized differs executeAfterEq =>
          simp only [scheduledTransfer?, returned]
          exact ⟨rfl, congrArg some executeAfterEq⟩
      | executeAdminTransfer isAdmin pending deadline matured =>
          simp only [scheduledTransfer?, returned]
          exact ⟨rfl, rfl⟩
      | cancelAdminTransfer isAdmin isAuthorized pending =>
          simp only [scheduledTransfer?, returned]
          exact ⟨rfl, rfl⟩
      | _ => simp [settlesPending, returned] at settles

/-- Every other step leaves both entries alone. -/
theorem Step.pends_of_not_settles (step : Step contract source action target)
    (notSettled : settlesPending contract ⟨source, action, target⟩ = false)
    {scheduled : Option (Address × U64)} (pends : source.state.Pends scheduled) :
    target.state.Pends scheduled := by
  rcases step.pendingStep.kept_of_not_settles notSettled with ⟨pending, deadline⟩
  have samePending : target.state.pendingAdmin = source.state.pendingAdmin := pending
  have sameDeadline :
      target.state.adminActionExecuteAfter = source.state.adminActionExecuteAfter := deadline
  exact ⟨samePending ▸ pends.pendingAdmin, sameDeadline ▸ pends.executeAfter⟩

/-- The two entries summarise the whole history. -/
theorem History.pends (history : History contract trace final) :
    final.state.Pends (pendingTransfer? contract trace) := by
  induction history using History.induct with
  | nil start uninitialized =>
      constructor
      · rw [uninitialized.pendingAdmin]
        rfl
      · rw [uninitialized.adminActionExecuteAfter]
        rfl
  | snoc trace source action target earlier step ih =>
      cases settles : settlesPending contract ⟨source, action, target⟩ with
      | true =>
          rw [pendingTransfer?_snoc_of_settles settles]
          exact step.pends_of_settles settles
      | false =>
          rw [pendingTransfer?_snoc_of_not_settles settles]
          exact step.pends_of_not_settles settles ih

/-- A transfer can only be pending when there is an admin. -/
theorem History.exists_admin_of_pending (history : History contract trace final)
    (pending : final.state.pendingAdmin ≠ none) : ∃ admin, final.state.admin = some admin := by
  induction history using History.induct with
  | nil start uninitialized => exact absurd uninitialized.pendingAdmin pending
  | snoc trace source action target earlier step ih =>
      cases step.pendingStep with
      | scheduled returned isPending deadline executeAfterEq =>
          exact ⟨_, (step.schedules returned).2⟩
      | cleared returned isCleared => exact absurd isCleared pending
      | kept kept isKept deadline =>
          have samePending : target.state.pendingAdmin = source.state.pendingAdmin := isKept
          rw [samePending] at pending
          rcases ih pending with ⟨admin, isAdmin⟩
          cases step.adminStep isAdmin with
          | kept same => exact ⟨admin, same⟩
          | executed returned matured becomes => exact ⟨_, becomes⟩
          | set returned becomes => exact ⟨_, becomes⟩

end Slot

/-- What a history says about the pending transfer at its end. -/
structure PendingFaithful (contract : Address) (trace : Trace Address) (final : System Address) :
    Prop where
  pair : ∀ newAdmin executeAfter,
    final.state.pendingAdmin = some newAdmin ∧
        final.state.adminActionExecuteAfter = some executeAfter ↔
      ∃ scheduledAt, pendingTransfer? contract trace = some (newAdmin, scheduledAt) ∧
        executeAfter.val = scheduledAt.val + 86400
  absent : pendingTransfer? contract trace = none →
    final.state.pendingAdmin = none ∧ final.state.adminActionExecuteAfter = none
  executes : ∀ invocation : Invocation Address, invocation.call = .executeAdminTransfer →
    ((invocation.outcome contract final).1 = .ok .unit ↔
      ∃ newAdmin scheduledAt, pendingTransfer? contract trace = some (newAdmin, scheduledAt) ∧
        scheduledAt.val + 86400 ≤ final.ledger.timestamp.val)
  installs : ∀ (invocation : Invocation Address) after,
    invocation.call = .executeAdminTransfer →
      invocation.outcome contract final = (.ok .unit, after) →
        ∃ newAdmin scheduledAt, pendingTransfer? contract trace = some (newAdmin, scheduledAt) ∧
          after.admin = some newAdmin ∧ after.pendingAdmin = none ∧
            after.adminActionExecuteAfter = none
  once : ∀ earlier first between second later,
    trace = earlier ++ first :: between ++ second :: later →
      returnedCall? contract first = some .executeAdminTransfer →
        returnedCall? contract second = some .executeAdminTransfer →
          ∃ scheduling ∈ between, (scheduledTransfer? contract scheduling).isSome

section Executions

variable {trace : Trace Address} {final : System Address} {invocation : Invocation Address}

omit [DecidableEq Address] in
theorem State.Pends.pair_iff {state : State Address} {scheduled : Option (Address × U64)}
    (pends : state.Pends scheduled) {newAdmin : Address} {executeAfter : U64} :
    state.pendingAdmin = some newAdmin ∧ state.adminActionExecuteAfter = some executeAfter ↔
      ∃ scheduledAt, scheduled = some (newAdmin, scheduledAt) ∧
        executeAfter.val = scheduledAt.val + 86400 := by
  rcases pends with ⟨isPending, isDeadline⟩
  cases scheduled with
  | none =>
      simp only [Option.map_none, Option.map_eq_none_iff] at isPending isDeadline
      simp [isPending]
  | some transfer =>
      rcases transfer with ⟨other, scheduledAt⟩
      simp only [Option.map_some, Option.map_eq_some_iff] at isPending isDeadline
      rcases isDeadline with ⟨deadline, stored, deadlineVal⟩
      rw [isPending, stored]
      simp only [Option.some.injEq, Prod.mk.injEq, BoundedInt.eq_iff, deadlineVal]
      constructor
      · rintro ⟨sameAdmin, sameDeadline⟩
        exact ⟨scheduledAt, ⟨sameAdmin, rfl⟩, sameDeadline.symm⟩
      · rintro ⟨otherAt, ⟨sameAdmin, sameAt⟩, isDeadline⟩
        exact ⟨sameAdmin, by omega⟩

omit [DecidableEq Address] in
theorem State.Pends.matured_iff {state : State Address} {scheduled : Option (Address × U64)}
    (pends : state.Pends scheduled) {now : U64} {newAdmin : Address} :
    state.Matured now newAdmin ↔
      ∃ scheduledAt, scheduled = some (newAdmin, scheduledAt) ∧
        scheduledAt.val + 86400 ≤ now.val := by
  constructor
  · rintro ⟨pending, executeAfter, deadline, matured⟩
    rcases pends.pair_iff.mp ⟨pending, deadline⟩ with ⟨scheduledAt, isScheduled, executeAfterEq⟩
    exact ⟨scheduledAt, isScheduled, by omega⟩
  · rintro ⟨scheduledAt, rfl, dayPassed⟩
    rcases Option.map_eq_some_iff.mp pends.executeAfter with
      ⟨executeAfter, deadline, executeAfterEq⟩
    have dayLater : executeAfter.val = scheduledAt.val + 86400 := executeAfterEq
    exact ⟨pends.pendingAdmin, executeAfter, deadline, by omega⟩

/-- An execution succeeds exactly when what the storage holds has matured. -/
theorem execute_outcome_iff (history : History contract trace final)
    (executes : invocation.call = .executeAdminTransfer) :
    (invocation.outcome contract final).1 = .ok .unit ↔
      ∃ newAdmin, final.state.Matured final.ledger.timestamp newAdmin := by
  constructor
  · intro returned
    rcases exists_effect_of_outcome returned with ⟨after, effect⟩
    rw [executes] at effect
    cases effect with
    | executeAdminTransfer isAdmin pending deadline matured =>
        exact ⟨_, pending, _, deadline, matured⟩
  · rintro ⟨newAdmin, pending, executeAfter, deadline, matured⟩
    rcases history.exists_admin_of_pending (by simp [pending]) with ⟨admin, isAdmin⟩
    have effect : Effect (invocation.env contract final.ledger) final.state
        .executeAdminTransfer .unit _ :=
      .executeAdminTransfer isAdmin pending deadline matured
    rw [← executes] at effect
    rw [effect.outcome_eq]

/-- Between two executions a transfer is scheduled. -/
theorem History.exists_scheduling_between {earlier between later : Trace Address}
    {first second : Transition (System Address) (Action Address)}
    (history : History contract (earlier ++ first :: between ++ second :: later) final)
    (firstExecutes : returnedCall? contract first = some .executeAdminTransfer)
    (secondExecutes : returnedCall? contract second = some .executeAdminTransfer) :
    ∃ scheduling ∈ between, (scheduledTransfer? contract scheduling).isSome := by
  rcases history with ⟨start, uninitialized, run⟩
  rcases run.of_cons_append with ⟨reaching, step, leaving⟩
  have pends : second.source.state.Pends
      (pendingTransfer? contract (earlier ++ first :: between)) :=
    History.pends ⟨start, uninitialized, reaching⟩
  rcases exists_effect_of_returnedCall? step secondExecutes with
    ⟨invocation, reply, _, _, _, _, effect⟩
  generalize second.target.state = after at effect
  cases effect with
  | executeAdminTransfer isAdmin pending deadline matured =>
      rcases pends.pair_iff.mp ⟨pending, deadline⟩ with ⟨scheduledAt, isScheduled, _⟩
      rcases Option.bind_eq_some_iff.mp isScheduled with ⟨last, isLast, lastScheduled⟩
      have firstSettles : settlesPending contract first = true := by
        simp [settlesPending, firstExecutes]
      have afterFirst :
          (first :: between.filter (settlesPending contract)).getLast? = some last := by
        rw [lastSettling?, List.filter_append, List.filter_cons_of_pos firstSettles] at isLast
        rwa [List.getLast?_append_of_ne_nil _ (by simp)] at isLast
      rcases List.mem_cons.mp (List.mem_of_getLast? afterFirst) with rfl | lastMem
      · simp [scheduledTransfer?, firstExecutes] at lastScheduled
      · exact ⟨last, List.mem_of_mem_filter lastMem, by simp [lastScheduled]⟩

end Executions

/--
In every run the stored pair is what the last successful call that schedules,
executes or cancels a transfer has left.  An execution succeeds exactly when that
call is a schedule which is a day old, it installs the address of that schedule,
and no schedule is executed twice.
-/
theorem pending_transfer_faithful {trace : Trace Address} {final : System Address}
    (history : History contract trace final) : PendingFaithful contract trace final := by
  have pends := history.pends
  have executes (invocation : Invocation Address)
      (isExecution : invocation.call = .executeAdminTransfer) :
      (invocation.outcome contract final).1 = .ok .unit ↔
        ∃ newAdmin scheduledAt, pendingTransfer? contract trace = some (newAdmin, scheduledAt) ∧
          scheduledAt.val + 86400 ≤ final.ledger.timestamp.val := by
    rw [execute_outcome_iff history isExecution]
    exact exists_congr fun newAdmin => pends.matured_iff
  constructor
  case pair => exact fun newAdmin executeAfter => pends.pair_iff
  case absent =>
    intro nothing
    rw [nothing] at pends
    exact ⟨pends.pendingAdmin, Option.map_eq_none_iff.mp pends.executeAfter⟩
  case executes => exact executes
  case installs =>
    intro invocation after isExecution outcome
    rcases exists_effect_of_outcome (congrArg Prod.fst outcome) with ⟨left, effect⟩
    have sameState : left = after := congrArg Prod.snd (effect.outcome_eq.symm.trans outcome)
    subst left
    rw [isExecution] at effect
    cases effect with
    | executeAdminTransfer isAdmin pending deadline matured =>
        rcases pends.pair_iff.mp ⟨pending, deadline⟩ with ⟨scheduledAt, isScheduled, _⟩
        exact ⟨_, scheduledAt, isScheduled, rfl, rfl, rfl⟩
  case once =>
    rintro earlier first between second later rfl firstExecutes secondExecutes
    exact history.exists_scheduling_between firstExecutes secondExecutes

/-- The theorem applies to a run that replaces a scheduled transfer and executes the new one. -/
theorem pending_transfer_faithful_transferring :
    PendingFaithful .contract (Sample.trace Sample.transferring)
      (Sample.final Sample.transferring) :=
  pending_transfer_faithful (Sample.history (by decide))

/-- The replaced schedule does not count: the deadline is a day after the second one. -/
example : pendingTransfer? .contract (Sample.trace (Sample.transferring.take 5)) =
    some (.dave, Sample.time 100) := by
  rfl

end StreamPay
