import StreamPay.Records

/-!
# Who may do what

Every entry point checks the authorization of an address that its caller names,
and compares this address with stored data later on.  This file puts the two
checks together: whoever loses tokens, and whoever owns what a call changes, has
authorized the call.

The admin changes only when a scheduled transfer is executed a day later, except
by `set_admin`, which replaces the admin at once.  It also keeps the transfer that
the replaced admin has scheduled, which can then be executed against the new one.
-/

namespace StreamPay

open Foundation

variable {Address : Type} [DecidableEq Address] {contract : Address}

section Effects

variable {env : Env Address} {before after : State Address} {call : Call Address}
  {reply : Reply Address} {id : U64} {stream : Stream Address}

/-- Transfers take tokens from their sources only. -/
theorem le_moveAll {balances : Balances Address} {made : List (Transfer Address)}
    {token holder : Address} (nonneg : ∀ record ∈ made, 0 ≤ record.amount.val)
    (notSource : ∀ record ∈ made, record.source ≠ holder) :
    balances token holder ≤ balances.moveAll made token holder := by
  induction made generalizing balances with
  | nil => exact le_rfl
  | cons record made ih =>
      rw [List.forall_mem_cons] at nonneg notSource
      refine le_trans ?_ (ih nonneg.2 notSource.2)
      have amountNonneg := nonneg.1
      simp only [Balances.move, if_neg (Ne.symm notSource.1)]
      split
      · split
        · omega
        · omega
      · exact le_rfl

/-- Whoever loses tokens in a call has authorized it, unless it is the contract. -/
theorem Transferred.authorized_of_lt {made : List (Transfer Address)}
    (transferred : Transferred env before call made after) {token holder : Address}
    (notContract : holder ≠ env.currentContractAddress)
    (loses : after.balances token holder < before.balances token holder) :
    env.authorized holder = true := by
  by_contra unauthorized
  apply not_le.mpr loses
  rw [transferred.balances]
  apply le_moveAll transferred.nonneg
  rintro record recordMem rfl
  cases transferred.allowed record recordMem with
  | funded authorized destination notPayout => exact unauthorized authorized
  | paid addressed stored isSource destination purpose => exact notContract isSource
  | refunded addressed stored isSource destination purpose => exact notContract isSource

omit [DecidableEq Address] in
/-- Tokens leave the contract only for the parties of the stream that the call names. -/
theorem TransferEffect.to_party {record : Transfer Address}
    (effect : TransferEffect env before call record)
    (leaves : record.destination ≠ env.currentContractAddress) :
    record.source ≠ env.currentContractAddress ∨
      ∃ id stream, call.target = some id ∧ before.streams.lookup id = some stream ∧
        (record.destination = stream.sender ∨ record.destination = stream.recipient) := by
  cases effect with
  | funded authorized destination notPayout => exact absurd destination leaves
  | @paid id stream addressed stored isSource destination purpose =>
      exact .inr ⟨id, stream, addressed, stored, .inr destination⟩
  | @refunded id stream addressed stored isSource destination purpose =>
      exact .inr ⟨id, stream, addressed, stored, .inl destination⟩

/-- Only its sender changes the amount and the end of a stream. -/
theorem RecordEffect.sender_authorized {changed : Stream Address}
    (record : RecordEffect env before id stream call reply changed)
    (differs : changed.total ≠ stream.total ∨ changed.end ≠ stream.end) :
    env.authorized stream.sender = true := by
  cases record with
  | raised checks =>
      rw [← checks.isSender]
      exact checks.authorized
  | prolonged checks =>
      rw [← checks.isSender]
      exact checks.authorized
  | untouched elsewhere => simp at differs
  | paidOut checks => simp [Stream.paidOut] at differs
  | closed checks => simp [Stream.closed] at differs

/-- Only its recipient changes what was withdrawn from a stream, unless a party cancels it. -/
theorem RecordEffect.party_authorized {changed : Stream Address}
    (record : RecordEffect env before id stream call reply changed)
    (differs : changed.withdrawn ≠ stream.withdrawn ∨ changed.status ≠ stream.status) :
    env.authorized stream.recipient = true ∨
      (∃ caller, call = .cancel id caller) ∧ env.authorized stream.sender = true := by
  cases record with
  | paidOut checks =>
      left
      rw [checks.isRecipient]
      exact checks.authorized
  | @closed caller token vested recipientPaid senderRefund checks =>
      have authorized := checks.authorized
      rcases checks.isParty with rfl | rfl
      · exact .inr ⟨⟨_, rfl⟩, authorized⟩
      · exact .inl authorized
  | untouched elsewhere => simp at differs
  | raised checks => simp [Stream.raised] at differs
  | prolonged checks => simp [Stream.prolonged] at differs

/-- A pending transfer whose time has come. -/
def State.Matured (state : State Address) (now : U64) (newAdmin : Address) : Prop :=
  state.pendingAdmin = some newAdmin ∧
    ∃ executeAfter, state.adminActionExecuteAfter = some executeAfter ∧
      executeAfter.val ≤ now.val

/-- The configuration that only the admin may change. -/
structure State.SameConfiguration (before after : State Address) : Prop where
  admin : after.admin = before.admin
  pendingAdmin : after.pendingAdmin = before.pendingAdmin
  adminActionExecuteAfter : after.adminActionExecuteAfter = before.adminActionExecuteAfter
  supplyCap : after.supplyCap = before.supplyCap

omit [DecidableEq Address] in
theorem State.SameConfiguration.refl (state : State Address) : state.SameConfiguration state :=
  ⟨rfl, rfl, rfl, rfl⟩

/-- Only the admin changes the configuration, unless a transfer that has matured is executed. -/
theorem Effect.admin_authorized (effect : Effect env before call reply after) {admin : Address}
    (isAdmin : before.admin = some admin) (differs : ¬before.SameConfiguration after) :
    env.authorized admin = true ∨
      call = .executeAdminTransfer ∧
        ∃ newAdmin, before.Matured env.ledger.timestamp newAdmin ∧
          after.admin = some newAdmin := by
  have sameAdmin {other : Address} (isOther : before.admin = some other) : other = admin :=
    Option.some.inj (isOther.symm.trans isAdmin)
  cases effect with
  | initializeContract fresh =>
      rw [fresh] at isAdmin
      contradiction
  | scheduleAdminTransfer isOther authorized _ _ => exact .inl (sameAdmin isOther ▸ authorized)
  | executeAdminTransfer isOther pending deadline matured =>
      exact .inr ⟨rfl, _, ⟨pending, _, deadline, matured⟩, rfl⟩
  | cancelAdminTransfer isOther authorized _ => exact .inl (sameAdmin isOther ▸ authorized)
  | setAdmin isOther authorized => exact .inl (sameAdmin isOther ▸ authorized)
  | setSupplyCap isOther authorized _ => exact .inl (sameAdmin isOther ▸ authorized)
  | query returned => exact absurd (.refl before) differs
  | _ => exact absurd ⟨by simp, by simp, by simp, by simp⟩ differs

end Effects

/-- Everything that an invocation has changed was changed on the authority of its owner. -/
structure AuthorizedByOwners (contract : Address) (source : System Address)
    (invocation : Invocation Address) (target : System Address) : Prop where
  tokens : ∀ token holder, holder ≠ contract →
    target.state.balances token holder < source.state.balances token holder →
      invocation.authorized holder = true
  records : ∀ id stream, source.state.streams.lookup id = some stream →
    ∃ changed, target.state.streams.lookup id = some changed ∧
      (changed.total ≠ stream.total ∨ changed.end ≠ stream.end →
        invocation.authorized stream.sender = true) ∧
        (changed.withdrawn ≠ stream.withdrawn ∨ changed.status ≠ stream.status →
          invocation.authorized stream.recipient = true ∨
            (∃ caller, invocation.call = .cancel id caller) ∧
              invocation.authorized stream.sender = true)
  payouts : ∃ made, target.state.transfers = source.state.transfers ++ made ∧
    ∀ record ∈ made, record.source = contract → record.destination ≠ contract →
      ∃ id stream, invocation.call.target = some id ∧
        source.state.streams.lookup id = some stream ∧
          (record.destination = stream.sender ∨ record.destination = stream.recipient)
  configuration : ∀ admin, source.state.admin = some admin →
    ¬source.state.SameConfiguration target.state →
      invocation.authorized admin = true ∨
        invocation.call = .executeAdminTransfer ∧
          ∃ newAdmin, source.state.Matured source.ledger.timestamp newAdmin ∧
            target.state.admin = some newAdmin

/--
Whoever loses tokens in a call has authorized it, and so has the sender, the
recipient or the admin whose data it changes.  Tokens leave the contract only
for the parties of the stream that the call names.
-/
theorem effects_authorized {source target : System Address} {invocation : Invocation Address}
    (reachable : Reachable contract source)
    (step : Step contract source (.invoke invocation) target) :
    AuthorizedByOwners contract source invocation target := by
  cases stepEffect_of_step step with
  | failed outcome =>
      refine ⟨?_, ?_, ⟨[], by simp⟩, ?_⟩
      · intro token holder _ loses
        exact absurd loses (lt_irrefl _)
      · intro id stream stored
        exact ⟨stream, stored, by simp, by simp⟩
      · intro admin _ differs
        exact absurd (.refl _) differs
  | @returned _ reply after outcome effect =>
      rcases effect.exists_transferred with ⟨made, transferred⟩
      refine ⟨?_, ?_, ⟨made, transferred.transfers, ?_⟩, ?_⟩
      · intro token holder notContract loses
        exact transferred.authorized_of_lt notContract loses
      · intro id stream stored
        rcases effect.exists_record stored (reachable.lt_counter stored) with
          ⟨changed, changedStored, record⟩
        exact ⟨changed, changedStored, record.sender_authorized, record.party_authorized⟩
      · intro record recordMem isSource leaves
        rcases (transferred.allowed record recordMem).to_party leaves with notSource | toParty
        · exact absurd isSource notSource
        · exact toParty
      · intro admin isAdmin differs
        exact effect.admin_authorized isAdmin differs

/-- The call replaces, executes or cancels the pending transfer. -/
def settlesPending (contract : Address)
    (transition : Transition (System Address) (Action Address)) : Bool :=
  match returnedCall? contract transition with
  | some (.scheduleAdminTransfer _ _) | some .executeAdminTransfer
  | some (.cancelAdminTransfer _) => true
  | _ => false

/--
A transfer to `newAdmin` was scheduled at least a day before `now`, and since
then it has been neither replaced nor cancelled, nor has it been executed.
-/
def ScheduledBefore (contract : Address) (trace : Trace Address) (newAdmin : Address)
    (now : U64) : Prop :=
  ∃ earlier scheduling later admin, trace = earlier ++ scheduling :: later ∧
    returnedCall? contract scheduling = some (.scheduleAdminTransfer admin newAdmin) ∧
      scheduling.source.ledger.timestamp.val + 86400 ≤ now.val ∧
        ∀ transition ∈ later, settlesPending contract transition = false

/-- The admin changes only to addresses that were scheduled a day before. -/
def TimelockKept (contract : Address) (trace : Trace Address) : Prop :=
  ∀ earlier transition later, trace = earlier ++ transition :: later →
    ∀ admin newAdmin, transition.source.state.admin = some admin →
      transition.target.state.admin = some newAdmin → newAdmin ≠ admin →
        ScheduledBefore contract earlier newAdmin transition.source.ledger.timestamp

/-- A direct change of the admin is one that the pending transfer allows at that time. -/
def setsMatured (contract : Address)
    (transition : Transition (System Address) (Action Address)) : Bool :=
  match returnedCall? contract transition with
  | some (.setAdmin newAdmin) =>
      decide (transition.source.state.admin = some newAdmin) ||
        decide (transition.source.state.pendingAdmin = some newAdmin) &&
          transition.source.state.adminActionExecuteAfter.any fun executeAfter =>
            decide (executeAfter.val ≤ transition.source.ledger.timestamp.val)
  | _ => true

/-- What a transition does to the pending transfer. -/
inductive PendingStep (contract : Address)
    (transition : Transition (System Address) (Action Address)) : Prop where
  | scheduled {admin newAdmin : Address} {executeAfter : U64}
      (returned : returnedCall? contract transition = some (.scheduleAdminTransfer admin newAdmin))
      (pending : transition.target.state.pendingAdmin = some newAdmin)
      (deadline : transition.target.state.adminActionExecuteAfter = some executeAfter)
      (executeAfterEq :
        executeAfter.val = transition.source.ledger.timestamp.val + 86400) :
      PendingStep contract transition
  | cleared
      (returned : returnedCall? contract transition = some .executeAdminTransfer ∨
        ∃ admin, returnedCall? contract transition = some (.cancelAdminTransfer admin))
      (pending : transition.target.state.pendingAdmin = none) : PendingStep contract transition
  | kept (kept : settlesPending contract transition = false)
      (pending :
        transition.target.state.pendingAdmin = transition.source.state.pendingAdmin)
      (deadline : transition.target.state.adminActionExecuteAfter =
        transition.source.state.adminActionExecuteAfter) : PendingStep contract transition

/-- What a step does to the address of an admin in office. -/
inductive AdminStep (contract admin : Address)
    (transition : Transition (System Address) (Action Address)) : Prop where
  | kept (same : transition.target.state.admin = some admin) : AdminStep contract admin transition
  | executed {newAdmin : Address}
      (returned : returnedCall? contract transition = some .executeAdminTransfer)
      (matured :
        transition.source.state.Matured transition.source.ledger.timestamp newAdmin)
      (becomes : transition.target.state.admin = some newAdmin) :
      AdminStep contract admin transition
  | set {newAdmin : Address}
      (returned : returnedCall? contract transition = some (.setAdmin newAdmin))
      (becomes : transition.target.state.admin = some newAdmin) :
      AdminStep contract admin transition

section Timelock

variable {source target : System Address} {action : Action Address} {trace : Trace Address}
  {final : System Address} {newAdmin : Address} {now : U64}

theorem Step.pendingStep (step : Step contract source action target) :
    PendingStep contract ⟨source, action, target⟩ := by
  cases stepEffect_of_step step with
  | advance later laterSequence => exact .kept (by simp [settlesPending, returnedCall?]) rfl rfl
  | external noLoss => exact .kept (by simp [settlesPending, returnedCall?]) rfl rfl
  | failed outcome => exact .kept (by simp [settlesPending, returnedCall?, outcome]) rfl rfl
  | @returned invocation reply after outcome effect =>
      have returned : returnedCall? contract
          ⟨source, .invoke invocation, { source with state := after }⟩ = some invocation.call :=
        returnedCall?_of_outcome outcome
      rcases invocation with ⟨authorized, transferAccepted, call⟩
      cases effect with
      | scheduleAdminTransfer isAdmin isAuthorized differs executeAfterEq =>
          exact .scheduled returned rfl rfl executeAfterEq
      | executeAdminTransfer isAdmin pending deadline matured =>
          exact .cleared (.inl returned) rfl
      | cancelAdminTransfer isAdmin isAuthorized pending =>
          exact .cleared (.inr ⟨_, returned⟩) rfl
      | _ => exact .kept (by simp [settlesPending, returned]) (by simp) (by simp)

/-- What does not settle the pending transfer leaves it alone. -/
theorem PendingStep.kept_of_not_settles
    {transition : Transition (System Address) (Action Address)}
    (step : PendingStep contract transition)
    (notSettled : settlesPending contract transition = false) :
    transition.target.state.pendingAdmin = transition.source.state.pendingAdmin ∧
      transition.target.state.adminActionExecuteAfter =
        transition.source.state.adminActionExecuteAfter := by
  cases step with
  | scheduled returned pending deadline executeAfterEq =>
      simp [settlesPending, returned] at notSettled
  | cleared returned pending =>
      rcases returned with returned | ⟨admin, returned⟩
      · simp [settlesPending, returned] at notSettled
      · simp [settlesPending, returned] at notSettled
  | kept kept pending deadline => exact ⟨pending, deadline⟩

/-- A pending transfer that has matured was scheduled a day before. -/
theorem History.scheduledBefore (history : History contract trace final)
    (matured : final.state.Matured now newAdmin) :
    ScheduledBefore contract trace newAdmin now := by
  induction history using History.induct with
  | nil start uninitialized =>
      have pending := matured.1
      rw [uninitialized.pendingAdmin] at pending
      contradiction
  | snoc trace source action target earlier step ih =>
      rcases matured with ⟨isPending, executeAfter, isDeadline, reached⟩
      cases step.pendingStep with
      | @scheduled admin other otherAfter returned pending deadline executeAfterEq =>
          have sameAdmin : other = newAdmin := Option.some.inj (pending.symm.trans isPending)
          have sameDeadline : otherAfter = executeAfter :=
            Option.some.inj (deadline.symm.trans isDeadline)
          subst sameAdmin sameDeadline
          exact ⟨trace, _, [], admin, rfl, returned, executeAfterEq ▸ reached, by simp⟩
      | cleared returned pending =>
          have cleared : target.state.pendingAdmin = none := pending
          rw [isPending] at cleared
          contradiction
      | kept kept pending deadline =>
          rcases ih ⟨pending.symm.trans isPending, executeAfter, deadline.symm.trans isDeadline,
            reached⟩ with ⟨before, scheduling, later, admin, traceEq, returned, dayPassed, open_⟩
          refine ⟨before, scheduling, later ++ [⟨source, action, target⟩], admin, ?_, returned,
            dayPassed, ?_⟩
          · rw [traceEq, List.append_assoc]
            rfl
          · rw [List.forall_mem_append, List.forall_mem_singleton]
            exact ⟨open_, kept⟩

/-- A transfer that was scheduled a day before is pending and has matured. -/
theorem ScheduledBefore.matured (scheduled : ScheduledBefore contract trace newAdmin now)
    (history : History contract trace final) : final.state.Matured now newAdmin := by
  rcases scheduled with ⟨earlier, scheduling, later, admin, rfl, returned, dayPassed, open_⟩
  rcases history with ⟨start, uninitialized, run⟩
  rcases run.of_cons_append with ⟨reaching, step, leaving⟩
  apply leaving.invariant_of_forall
    (fun transition => settlesPending contract transition = false) ?_ open_
  · rintro source action target ⟨isPending, executeAfter, isDeadline, reached⟩ taken notSettled
    rcases taken.pendingStep.kept_of_not_settles notSettled with ⟨pending, deadline⟩
    exact ⟨pending.trans isPending, executeAfter, deadline.trans isDeadline, reached⟩
  · cases step.pendingStep with
    | scheduled found pending deadline executeAfterEq =>
        rw [returned, Option.some.injEq, Call.scheduleAdminTransfer.injEq] at found
        rw [found.2]
        exact ⟨pending, _, deadline, executeAfterEq ▸ dayPassed⟩
    | cleared found pending => simp [returned] at found
    | kept kept pending deadline => simp [settlesPending, returned] at kept

/-- Only an executed transfer and `set_admin` replace an admin. -/
theorem Step.adminStep (step : Step contract source action target) {admin : Address}
    (isAdmin : source.state.admin = some admin) :
    AdminStep contract admin ⟨source, action, target⟩ := by
  cases stepEffect_of_step step with
  | advance later laterSequence => exact .kept isAdmin
  | external noLoss => exact .kept isAdmin
  | failed outcome => exact .kept isAdmin
  | @returned invocation reply after outcome effect =>
      have returned : returnedCall? contract
          ⟨source, .invoke invocation, { source with state := after }⟩ = some invocation.call :=
        returnedCall?_of_outcome outcome
      rcases invocation with ⟨authorized, transferAccepted, call⟩
      cases effect with
      | initializeContract fresh =>
          rw [fresh] at isAdmin
          contradiction
      | executeAdminTransfer isOther pending deadline matured =>
          exact .executed returned ⟨pending, _, deadline, matured⟩ rfl
      | setAdmin isOther isAuthorized => exact .set returned rfl
      | query viewed => exact .kept isAdmin
      | _ => exact .kept (by simpa using isAdmin)

/-- The admin changes when a matured transfer is executed, and when it is set directly. -/
theorem Step.admin_changed (step : Step contract source action target) {admin : Address}
    (isAdmin : source.state.admin = some admin) (becomes : target.state.admin = some newAdmin)
    (differs : newAdmin ≠ admin) :
    source.state.Matured source.ledger.timestamp newAdmin ∨
      returnedCall? contract ⟨source, action, target⟩ = some (.setAdmin newAdmin) := by
  cases step.adminStep isAdmin with
  | kept same => exact absurd (Option.some.inj (becomes.symm.trans same)) differs
  | executed returned matured found =>
      cases Option.some.inj (found.symm.trans becomes)
      exact .inl matured
  | set returned found =>
      cases Option.some.inj (found.symm.trans becomes)
      exact .inr returned

theorem setsMatured_iff
    (returned : returnedCall? contract ⟨source, action, target⟩ = some (.setAdmin newAdmin)) :
    setsMatured contract ⟨source, action, target⟩ = true ↔
      source.state.admin = some newAdmin ∨
        source.state.Matured source.ledger.timestamp newAdmin := by
  simp [setsMatured, returned, State.Matured, Option.any_eq_true]

theorem Step.admin_of_setAdmin (step : Step contract source action target)
    (returned : returnedCall? contract ⟨source, action, target⟩ = some (.setAdmin newAdmin)) :
    (∃ admin, source.state.admin = some admin) ∧ target.state.admin = some newAdmin := by
  rcases exists_effect_of_returnedCall? step returned with
    ⟨invocation, reply, _, _, _, _, effect⟩
  generalize target.state = after at effect
  cases effect with
  | @setAdmin admin _ isAdmin authorized => exact ⟨⟨admin, isAdmin⟩, rfl⟩

/-- A direct change that the pending transfer does not allow changes the admin. -/
theorem Step.exists_change (step : Step contract source action target)
    (direct : setsMatured contract ⟨source, action, target⟩ = false) :
    ∃ admin newAdmin, source.state.admin = some admin ∧ target.state.admin = some newAdmin ∧
      newAdmin ≠ admin ∧ ¬source.state.Matured source.ledger.timestamp newAdmin := by
  cases returned : returnedCall? contract ⟨source, action, target⟩ with
  | none => simp [setsMatured, returned] at direct
  | some call =>
      cases call with
      | setAdmin newAdmin =>
          rw [← Bool.not_eq_true, setsMatured_iff returned, not_or] at direct
          rcases step.admin_of_setAdmin returned with ⟨⟨admin, isAdmin⟩, becomes⟩
          refine ⟨admin, newAdmin, isAdmin, becomes, ?_, direct.2⟩
          rintro rfl
          exact direct.1 isAdmin
      | _ => simp [setsMatured, returned] at direct

end Timelock

/--
In a run, the admin changes only to addresses that were scheduled a day before
exactly when `set_admin` never changes the admin to another address than the one
of a pending transfer that has matured.
-/
theorem timelock_kept_iff {trace : Trace Address} {final : System Address}
    (history : History contract trace final) :
    TimelockKept contract trace ↔ ∀ transition ∈ trace, setsMatured contract transition = true := by
  constructor
  · intro timelock transition transitionMem
    by_contra direct
    rw [Bool.not_eq_true] at direct
    rcases history.of_mem transitionMem with ⟨earlier, later, traceEq, reaching, step, leaving⟩
    rcases step.exists_change direct with
      ⟨admin, newAdmin, isAdmin, becomes, differs, notMatured⟩
    have scheduled := timelock earlier transition later traceEq admin newAdmin isAdmin becomes
      differs
    exact notMatured (scheduled.matured reaching)
  · intro direct earlier transition later traceEq admin newAdmin isAdmin becomes differs
    subst trace
    rcases history with ⟨start, uninitialized, run⟩
    rcases run.of_cons_append with ⟨reaching, step, leaving⟩
    have earlierHistory : History contract earlier transition.source :=
      ⟨start, uninitialized, reaching⟩
    apply earlierHistory.scheduledBefore
    rcases step.admin_changed isAdmin becomes differs with matured | returned
    · exact matured
    · have allowed := direct transition (List.mem_append_right _ List.mem_cons_self)
      rcases (setsMatured_iff returned).mp allowed with same | matured
      · exact absurd (Option.some.inj (same.symm.trans isAdmin)) differs
      · exact matured

namespace Sample

/-- A transfer is scheduled, replaced, and executed a day later. -/
def transferring : List (Action Party) :=
  [callBy .admin (.initializeContract .admin .token),
    callBy .admin (.scheduleAdminTransfer .admin .carol),
    advanceTo (time 100),
    callBy .admin (.scheduleAdminTransfer .admin .dave),
    advanceTo (time 86500),
    callBy .bob .executeAdminTransfer,
    callBy .dave (.setAdmin .dave)]

/-- The admin hands over at once. -/
def handingOver : List (Action Party) :=
  [callBy .admin (.initializeContract .admin .token), callBy .admin (.setAdmin .dave)]

end Sample

/-- A withdrawal has its effects on the authority of the recipient. -/
theorem effects_authorized_withdrawing :
    AuthorizedByOwners .contract (Sample.final (Sample.withdrawing.take 5))
      ⟨fun party => decide (party = .bob),
        fun balances asset source _ amount => decide (amount.val ≤ balances asset source),
        .withdraw 0 .bob⟩
      (Sample.final Sample.withdrawing) :=
  effects_authorized (Sample.history (by decide)).reachable ⟨trivial, rfl⟩

/-- The theorem applies to a run that changes the admin after a day. -/
theorem timelock_kept_transferring :
    TimelockKept .contract (Sample.trace Sample.transferring) :=
  (timelock_kept_iff (Sample.history (by decide))).mpr (by decide)

/-- Without the condition the admin changes at once. -/
theorem admin_set_without_schedule :
    ∃ trace final, History Sample.Party.contract trace final ∧ ¬TimelockKept .contract trace := by
  refine ⟨Sample.trace Sample.handingOver, Sample.final Sample.handingOver, ?_, ?_⟩
  · exact Sample.history (by decide)
  · intro timelock
    have scheduled := timelock (Sample.trace (Sample.handingOver.take 1))
      (Sample.transition (Sample.handingOver.take 1) (Sample.callBy .admin (.setAdmin .dave))) []
      rfl .admin .dave rfl rfl (by decide)
    have reaching : History Sample.Party.contract (Sample.trace (Sample.handingOver.take 1))
        (Sample.final (Sample.handingOver.take 1)) :=
      Sample.history (by decide)
    have noneIsSome := (scheduled.matured reaching).1
    contradiction

/-- The call is authorized by `admin` and schedules a transfer to `newAdmin`. -/
def Schedules (contract : Address) (transition : Transition (System Address) (Action Address))
    (admin newAdmin : Address) : Prop :=
  returnedCall? contract transition = some (.scheduleAdminTransfer admin newAdmin) ∧
    ∃ invocation, transition.label = .invoke invocation ∧ invocation.authorized admin = true

/-- The trace leaves a transfer to `newAdmin` pending that `admin` has scheduled. -/
def ScheduledBy (contract : Address) (trace : Trace Address) (admin newAdmin : Address) : Prop :=
  ∃ earlier scheduling later, trace = earlier ++ scheduling :: later ∧
    Schedules contract scheduling admin newAdmin ∧
      ∀ transition ∈ later, settlesPending contract transition = false

/-- Every transfer that is executed was scheduled by the admin who is replaced by it. -/
def ExecutedForAuthor (contract : Address) (trace : Trace Address) : Prop :=
  ∀ earlier transition later, trace = earlier ++ transition :: later →
    returnedCall? contract transition = some .executeAdminTransfer →
      ∃ admin newAdmin, transition.source.state.admin = some admin ∧
        transition.target.state.admin = some newAdmin ∧
          ScheduledBy contract earlier admin newAdmin

/-- A direct change of the admin leaves a transfer pending that the replaced admin scheduled. -/
def orphansPending (contract : Address)
    (transition : Transition (System Address) (Action Address)) : Bool :=
  match returnedCall? contract transition with
  | some (.setAdmin newAdmin) =>
      transition.source.state.pendingAdmin.isSome &&
        decide (transition.source.state.admin ≠ some newAdmin)
  | _ => false

section Author

variable {source target : System Address} {action : Action Address} {trace : Trace Address}
  {final : System Address} {admin newAdmin : Address}

theorem Step.schedules (step : Step contract source action target)
    (returned : returnedCall? contract ⟨source, action, target⟩ =
      some (.scheduleAdminTransfer admin newAdmin)) :
    Schedules contract ⟨source, action, target⟩ admin newAdmin ∧
      target.state.admin = some admin := by
  rcases exists_effect_of_returnedCall? step returned with
    ⟨invocation, reply, labelEq, _, _, _, effect⟩
  generalize target.state = after at effect
  cases effect with
  | scheduleAdminTransfer isAdmin authorized differs executeAfterEq =>
      exact ⟨⟨returned, invocation, labelEq, authorized⟩, isAdmin⟩

/-- Nothing but the two changes of the admin replaces the admin. -/
theorem Step.admin_kept (step : Step contract source action target)
    (isAdmin : source.state.admin = some admin)
    (pending : source.state.pendingAdmin = some newAdmin)
    (notSettled : settlesPending contract ⟨source, action, target⟩ = false)
    (notOrphaned : orphansPending contract ⟨source, action, target⟩ = false) :
    target.state.admin = some admin := by
  cases step.adminStep isAdmin with
  | kept same => exact same
  | executed returned matured becomes => simp [settlesPending, returned] at notSettled
  | set returned becomes =>
      simp only [orphansPending, returned, pending, isAdmin, Option.isSome_some,
        Bool.true_and, decide_eq_false_iff_not, ne_eq, not_not] at notOrphaned
      exact becomes.trans notOrphaned.symm

theorem ScheduledBy.snoc {transition : Transition (System Address) (Action Address)}
    (scheduled : ScheduledBy contract trace admin newAdmin)
    (notSettled : settlesPending contract transition = false) :
    ScheduledBy contract (trace ++ [transition]) admin newAdmin := by
  rcases scheduled with ⟨earlier, scheduling, later, rfl, schedules, open_⟩
  refine ⟨earlier, scheduling, later ++ [transition], by simp, schedules, ?_⟩
  rw [List.forall_mem_append, List.forall_mem_singleton]
  exact ⟨open_, notSettled⟩

/-- The pending transfer was scheduled by the admin in office. -/
theorem History.scheduledBy (history : History contract trace final)
    (notOrphaned : ∀ transition ∈ trace, orphansPending contract transition = false)
    (pending : final.state.pendingAdmin = some newAdmin) :
    ∃ admin, final.state.admin = some admin ∧ ScheduledBy contract trace admin newAdmin := by
  induction history using History.induct with
  | nil start uninitialized =>
      rw [uninitialized.pendingAdmin] at pending
      contradiction
  | snoc trace source action target earlier step ih =>
      rw [List.forall_mem_append, List.forall_mem_singleton] at notOrphaned
      cases step.pendingStep with
      | @scheduled admin other executeAfter returned isPending deadline executeAfterEq =>
          have sameAdmin : other = newAdmin := Option.some.inj (isPending.symm.trans pending)
          subst other
          rcases step.schedules returned with ⟨schedules, isAdmin⟩
          exact ⟨admin, isAdmin, trace, _, [], rfl, schedules, by simp⟩
      | cleared returned isPending =>
          have cleared : target.state.pendingAdmin = none := isPending
          rw [pending] at cleared
          contradiction
      | kept notSettled isPending deadline =>
          have pendingBefore := isPending.symm.trans pending
          rcases ih notOrphaned.1 pendingBefore with ⟨admin, isAdmin, scheduled⟩
          exact ⟨admin, step.admin_kept isAdmin pendingBefore notSettled notOrphaned.2,
            scheduled.snoc notSettled⟩

end Author

/--
As long as `set_admin` replaces nobody while a transfer is pending, a transfer
takes the role only from the admin who has scheduled it.
-/
theorem executed_for_author {trace : Trace Address} {final : System Address}
    (history : History contract trace final)
    (notOrphaned : ∀ transition ∈ trace, orphansPending contract transition = false) :
    ExecutedForAuthor contract trace := by
  intro earlier transition later traceEq returned
  subst trace
  rw [List.forall_mem_append] at notOrphaned
  rcases history with ⟨start, uninitialized, run⟩
  rcases run.of_cons_append with ⟨reaching, step, leaving⟩
  have earlierHistory : History contract earlier transition.source :=
    ⟨start, uninitialized, reaching⟩
  rcases exists_effect_of_returnedCall? step returned with
    ⟨invocation, reply, labelEq, _, _, _, effect⟩
  generalize transition.target.state = after at effect ⊢
  cases effect with
  | @executeAdminTransfer previousAdmin pendingAdmin executeAfter isAdmin pending deadline
      matured =>
      rcases earlierHistory.scheduledBy notOrphaned.1 pending with ⟨admin, inOffice, scheduled⟩
      exact ⟨admin, pendingAdmin, inOffice, rfl, scheduled⟩

namespace Sample

/-- The admin schedules a transfer and hands over to somebody else, then the transfer matures. -/
def usurping : List (Action Party) :=
  [callBy .admin (.initializeContract .admin .token),
    callBy .admin (.scheduleAdminTransfer .admin .carol),
    callBy .admin (.setAdmin .dave),
    advanceTo (time 86400)]

def executeByBob : Action Party :=
  callBy .bob .executeAdminTransfer

/-- The party on whose authority the transition schedules a transfer. -/
def author? (transition : Transition (System Party) (Action Party)) : Option Party :=
  match returnedCall? .contract transition with
  | some (.scheduleAdminTransfer author _) => some author
  | _ => none

end Sample

/-- The theorem applies to a run in which a replaced transfer is executed. -/
theorem executed_for_author_transferring :
    ExecutedForAuthor .contract (Sample.trace Sample.transferring) :=
  executed_for_author (Sample.history (by decide)) (by decide)

/-- Without the condition a transfer takes the role from an admin who never agreed to it. -/
theorem successor_replaced_by_old_transfer :
    ∃ trace final, History Sample.Party.contract trace final ∧
      ¬ExecutedForAuthor .contract trace := by
  refine ⟨Sample.trace (Sample.usurping ++ [Sample.executeByBob]),
    Sample.final (Sample.usurping ++ [Sample.executeByBob]), ?_, ?_⟩
  · exact Sample.history (by decide)
  · intro executed
    have traceEq : Sample.trace (Sample.usurping ++ [Sample.executeByBob]) =
        Sample.trace Sample.usurping ++
          [Sample.transition Sample.usurping Sample.executeByBob] := by
      rw [Sample.trace, execute_append]
      rfl
    rcases executed _ _ [] traceEq rfl with ⟨inOffice, newAdmin, isAdmin, _, scheduled⟩
    have isDave : inOffice = .dave := Option.some.inj (isAdmin.symm.trans rfl)
    subst inOffice
    rcases scheduled with ⟨earlier, scheduling, later, earlierEq, ⟨returned, _⟩, _⟩
    have notByDave : ∀ transition ∈ Sample.trace Sample.usurping,
        Sample.author? transition ≠ some .dave := by
      decide
    apply notByDave scheduling
    · rw [earlierEq]
      exact List.mem_append_right _ List.mem_cons_self
    · simp only [Sample.author?, returned]

end StreamPay
