import StreamPay.Foundation.Replay
import StreamPay.Noninterference
import StreamPay.PendingTransfer
import StreamPay.Transcript

/-!
# The log of the administration

A run begins with nothing but views until the contract is initialized, which happens
once.  From then on the administration can be followed in the log alone: starting
from the first admin and the default cap, every administrative event takes one office
to the next, and names the values that the log before it has left.
-/

namespace StreamPay

open Foundation

variable {Address : Type}

/-- Who administrates the contract, under which cap, and which transfer is pending. -/
structure Office (Address : Type) where
  admin : Address
  cap : I128
  pending : Option (Address × U64)
deriving DecidableEq

namespace Office

/-- The office that the initialization leaves. -/
def founded (admin : Address) : Office Address where
  admin := admin
  cap := defaultSupplyCap
  pending := none

/-- What an event makes of the office. -/
def after (office : Office Address) : Event Address → Office Address
  | .adminScheduled _ pendingAdmin executeAfter =>
      { office with pending := some (pendingAdmin, executeAfter) }
  | .adminTransfer _ newAdmin => { office with admin := newAdmin, pending := none }
  | .adminCancelled _ => { office with pending := none }
  | .adminSet _ newAdmin => { office with admin := newAdmin }
  | .capadmin _ _ newCap => { office with cap := newCap }
  | _ => office

/-- What an event says about the office before it. -/
def Fits (office : Office Address) : Event Address → Prop
  | .adminScheduled currentAdmin pendingAdmin _ =>
      currentAdmin = office.admin ∧ pendingAdmin ≠ office.admin
  | .adminTransfer previousAdmin newAdmin =>
      previousAdmin = office.admin ∧ office.pending.map Prod.fst = some newAdmin
  | .adminCancelled admin => admin = office.admin ∧ office.pending ≠ none
  | .adminSet oldAdmin _ => oldAdmin = office.admin
  | .capadmin admin oldCap newCap => admin = office.admin ∧ oldCap = office.cap ∧ 0 < newCap.val
  | _ => True

/-- The office is the one in the storage. -/
structure Describes (office : Office Address) (state : State Address) : Prop where
  admin : state.admin = some office.admin
  cap : state.supplyCap = some office.cap
  pendingAdmin : state.pendingAdmin = office.pending.map Prod.fst
  executeAfter : state.adminActionExecuteAfter = office.pending.map Prod.snd

end Office

/-- What an event says about a stream says nothing about the office. -/
theorem Office.ignores {event : Event Address} {id : U64} (about : event.stream? = some id)
    (office : Office Address) : office.Fits event ∧ office.after event = office := by
  cases event with
  | created => exact ⟨trivial, rfl⟩
  | withdrawn => exact ⟨trivial, rfl⟩
  | toppedup => exact ⟨trivial, rfl⟩
  | extended => exact ⟨trivial, rfl⟩
  | cancelled => exact ⟨trivial, rfl⟩
  | _ => contradiction

section Call

variable [DecidableEq Address] {env : Env Address} {before after : State Address}
  {call : Call Address} {reply : Reply Address}

/-- Before the initialization only the initialization itself and views return. -/
theorem Effect.of_uninitialized (effect : Effect env before call reply after)
    (noStream : ∀ id, before.streams.lookup id = none) (fresh : before.admin = none) :
    (∃ admin token, call = .initializeContract admin token) ∨ ∃ view, call = .query view := by
  have notAdmin {admin : Address} : before.admin ≠ some admin := by simp [fresh]
  have notStored {id : U64} {stream : Stream Address} :
      before.streams.lookup id ≠ some stream := by simp [noStream id]
  cases effect with
  | initializeContract => exact .inl ⟨_, _, rfl⟩
  | scheduleAdminTransfer isAdmin => exact absurd isAdmin notAdmin
  | executeAdminTransfer isAdmin => exact absurd isAdmin notAdmin
  | cancelAdminTransfer isAdmin => exact absurd isAdmin notAdmin
  | setAdmin isAdmin => exact absurd isAdmin notAdmin
  | setSupplyCap isAdmin => exact absurd isAdmin notAdmin
  | createStream checks =>
      rcases checks.initialized with ⟨admin, isAdmin⟩
      exact absurd isAdmin notAdmin
  | createStreamBatch checks =>
      rcases checks.initialized with ⟨admin, isAdmin⟩
      exact absurd isAdmin notAdmin
  | topUp checks => exact absurd checks.stored notStored
  | extendStream checks => exact absurd checks.stored notStored
  | withdraw checks => exact absurd checks.stored notStored
  | cancel checks => exact absurd checks.stored notStored
  | query => exact .inr ⟨_, rfl⟩

/-- A call on streams announces nothing but streams. -/
theorem Effect.announces_streams (effect : Effect env before call reply after)
    (onStreams : call.escrows = true ∨ call.settles = true) :
    ∀ event ∈ call.announcement env.ledger.timestamp before reply, ∃ id,
      event.stream? = some id := by
  cases effect with
  | createStreamBatch checks =>
      intro event eventMem
      rcases List.mem_iff_getElem?.mp eventMem with ⟨position, found⟩
      rcases List.getElem?_zipWith_eq_some.mp found with ⟨id, request, _, _, rfl⟩
      exact ⟨id, rfl⟩
  | createStream checks => simp [Call.announcement, Event.stream?]
  | topUp checks => simp [Call.announcement, Event.stream?]
  | extendStream checks => simp [Call.announcement, checks.stored, Event.stream?]
  | withdraw checks => simp [Call.announcement, Event.stream?]
  | cancel checks =>
      simp [Call.announcement, checks.stored, cancelAmounts_of_checks checks, Event.stream?]
  | _ => simp [Call.escrows, Call.settles] at onStreams

/-- The announcement of a call leads from the office before it to the one after it. -/
structure OfficeKept (now : U64) (before : State Address) (call : Call Address)
    (reply : Reply Address) (after : State Address) (office : Office Address) : Prop where
  replays : Replays Office.after Office.Fits office (call.announcement now before reply)
  describes : (replay Office.after office (call.announcement now before reply)).Describes after
  token : after.token = before.token

theorem Effect.officeKept_of_streams {office : Office Address}
    (effect : Effect env before call reply after) (describes : office.Describes before)
    (onStreams : call.escrows = true ∨ call.settles = true) :
    OfficeKept env.ledger.timestamp before call reply after office := by
  have about := effect.announces_streams onStreams
  have ignored : Replays Office.after Office.Fits office
        (call.announcement env.ledger.timestamp before reply) ∧
      replay Office.after office (call.announcement env.ledger.timestamp before reply) =
        office := by
    apply replays_of_ignored
    · intro event eventMem
      rcases about event eventMem with ⟨id, isAbout⟩
      exact (Office.ignores isAbout office).1
    · intro event eventMem
      rcases about event eventMem with ⟨id, isAbout⟩
      exact (Office.ignores isAbout office).2
  have kept (sameAdmin : after.admin = before.admin) (sameCap : after.supplyCap = before.supplyCap)
      (samePending : after.pendingAdmin = before.pendingAdmin)
      (sameDeadline : after.adminActionExecuteAfter = before.adminActionExecuteAfter)
      (sameToken : after.token = before.token) :
      OfficeKept env.ledger.timestamp before call reply after office := by
    refine ⟨ignored.1, ?_, sameToken⟩
    rw [ignored.2]
    exact ⟨sameAdmin.trans describes.admin, sameCap.trans describes.cap,
      samePending.trans describes.pendingAdmin, sameDeadline.trans describes.executeAfter⟩
  cases effect with
  | createStream checks => apply kept <;> simp
  | createStreamBatch checks => apply kept <;> simp
  | topUp checks => apply kept <;> simp
  | extendStream checks => apply kept <;> simp
  | withdraw checks => apply kept <;> simp
  | cancel checks => apply kept <;> simp
  | _ => simp [Call.escrows, Call.settles] at onStreams

/-- Once there is an office, every call keeps it in step with the log. -/
theorem Effect.officeKept {office : Office Address} (effect : Effect env before call reply after)
    (describes : office.Describes before) :
    OfficeKept env.ledger.timestamp before call reply after office := by
  have sameAdmin {admin : Address} (isAdmin : before.admin = some admin) : admin = office.admin :=
    Option.some.inj (isAdmin.symm.trans describes.admin)
  have sameCap := describes.cap
  have samePending := describes.pendingAdmin
  have sameDeadline := describes.executeAfter
  cases effect with
  | initializeContract fresh =>
      rw [describes.admin] at fresh
      contradiction
  | scheduleAdminTransfer isAdmin authorized differs executeAfterEq =>
      cases sameAdmin isAdmin
      exact ⟨replays_singleton ⟨rfl, differs⟩, ⟨isAdmin, sameCap, rfl, rfl⟩, rfl⟩
  | @executeAdminTransfer previousAdmin newAdmin executeAfter isAdmin pending deadline matured =>
      cases sameAdmin isAdmin
      have announced : Call.announcement env.ledger.timestamp before .executeAdminTransfer .unit =
          [.adminTransfer office.admin newAdmin] := by
        simp only [Call.announcement, isAdmin, pending]
        rfl
      refine ⟨?_, ?_, rfl⟩
      · rw [announced]
        exact replays_singleton ⟨rfl, samePending.symm.trans pending⟩
      · rw [announced]
        exact ⟨rfl, sameCap, rfl, rfl⟩
  | cancelAdminTransfer isAdmin authorized pending =>
      cases sameAdmin isAdmin
      refine ⟨replays_singleton ⟨rfl, ?_⟩, ⟨isAdmin, sameCap, rfl, rfl⟩, rfl⟩
      intro nothing
      rw [samePending, nothing] at pending
      exact pending rfl
  | setAdmin isAdmin authorized =>
      cases sameAdmin isAdmin
      have announced (newAdmin : Address) :
          Call.announcement env.ledger.timestamp before (.setAdmin newAdmin) .unit =
            [.adminSet office.admin newAdmin] := by
        simp only [Call.announcement, isAdmin]
        rfl
      refine ⟨?_, ?_, rfl⟩
      · rw [announced]
        exact replays_singleton rfl
      · rw [announced]
        exact ⟨rfl, sameCap, samePending, sameDeadline⟩
  | setSupplyCap isAdmin authorized capPos =>
      cases sameAdmin isAdmin
      have announced (newCap : I128) :
          Call.announcement env.ledger.timestamp before (.setSupplyCap newCap) .unit =
            [.capadmin office.admin office.cap newCap] := by
        simp only [Call.announcement, isAdmin, sameCap]
        rfl
      refine ⟨?_, ?_, rfl⟩
      · rw [announced]
        exact replays_singleton ⟨rfl, rfl, capPos⟩
      · rw [announced]
        exact ⟨isAdmin, rfl, samePending, sameDeadline⟩
  | query returned => exact ⟨replays_nil, describes, rfl⟩
  | createStream checks =>
      exact (Effect.createStream checks).officeKept_of_streams describes (.inl rfl)
  | createStreamBatch checks =>
      exact (Effect.createStreamBatch checks).officeKept_of_streams describes (.inl rfl)
  | topUp checks => exact (Effect.topUp checks).officeKept_of_streams describes (.inl rfl)
  | extendStream checks =>
      exact (Effect.extendStream checks).officeKept_of_streams describes (.inr rfl)
  | withdraw checks => exact (Effect.withdraw checks).officeKept_of_streams describes (.inr rfl)
  | cancel checks => exact (Effect.cancel checks).officeKept_of_streams describes (.inr rfl)

end Call

variable [DecidableEq Address]

/-- Nothing but views returns in the trace. -/
def OnlyViews (contract : Address) (trace : Trace Address) : Prop :=
  ∀ transition ∈ trace, ∀ call, returnedCall? contract transition = some call →
    ∃ view, call = .query view

/-- The trace initializes the contract once, and nothing but views returns before that. -/
def InitializedBy (contract : Address) (trace : Trace Address) (admin token : Address) : Prop :=
  ∃ earlier founding later,
    trace = earlier ++ founding :: later ∧
      returnedCall? contract founding = some (.initializeContract admin token) ∧
        OnlyViews contract earlier ∧
          ∀ transition ∈ later, ∀ otherAdmin otherToken,
            returnedCall? contract transition ≠ some (.initializeContract otherAdmin otherToken)

/-- The log and the arguments of the initialization tell the administration. -/
structure OfficeLogged (state : State Address) (admin token : Address) : Prop where
  replays : Replays Office.after Office.Fits (Office.founded admin) state.events
  describes : (replay Office.after (Office.founded admin) state.events).Describes state
  token : state.token = some token

section Runs

variable {contract : Address} {source target final : System Address} {action : Action Address}
  {trace : Trace Address} {transition : Transition (System Address) (Action Address)}
  {admin token : Address}

theorem OnlyViews.snoc (onlyViews : OnlyViews contract trace)
    (last : ∀ call, returnedCall? contract transition = some call → ∃ view, call = .query view) :
    OnlyViews contract (trace ++ [transition]) := by
  intro other otherMem
  rcases List.mem_append.mp otherMem with otherMem | otherMem
  · exact onlyViews other otherMem
  · rw [List.mem_singleton] at otherMem
    exact otherMem ▸ last

theorem InitializedBy.snoc (initialized : InitializedBy contract trace admin token)
    (last : ∀ otherAdmin otherToken,
      returnedCall? contract transition ≠ some (.initializeContract otherAdmin otherToken)) :
    InitializedBy contract (trace ++ [transition]) admin token := by
  rcases initialized with ⟨earlier, founding, later, rfl, returned, onlyViews, once⟩
  refine ⟨earlier, founding, later ++ [transition], by simp, returned, onlyViews, ?_⟩
  rw [List.forall_mem_append, List.forall_mem_singleton]
  exact ⟨once, last⟩

/-- Before the contract is initialized, no transfer is pending. -/
theorem Reachable.nothing_pending (reachable : Reachable contract source)
    (fresh : source.state.admin = none) :
    source.state.pendingAdmin = none ∧ source.state.adminActionExecuteAfter = none := by
  rcases reachable with ⟨trace, history⟩
  have noPending : source.state.pendingAdmin = none := by
    by_contra pending
    rcases history.exists_admin_of_pending pending with ⟨admin, isAdmin⟩
    rw [fresh] at isAdmin
    contradiction
  have pends := history.pends
  refine ⟨noPending, ?_⟩
  have nothing := pends.pendingAdmin
  rw [noPending, eq_comm, Option.map_eq_none_iff] at nothing
  simpa [nothing] using pends.executeAfter

/-- A step of an uninitialized system initializes it, or shows it to somebody. -/
theorem Step.of_uninitialized (step : Step contract source action target)
    (reachable : Reachable contract source) (fresh : source.state.admin = none) :
    (∃ admin token, returnedCall? contract ⟨source, action, target⟩ =
        some (.initializeContract admin token) ∧
          target.state.events = source.state.events ∧
            (Office.founded admin).Describes target.state ∧ target.state.token = some token) ∨
      (∀ call, returnedCall? contract ⟨source, action, target⟩ = some call →
        ∃ view, call = .query view) ∧
          target.state.admin = none ∧ target.state.events = source.state.events := by
  have keeps (returnsNothing : returnedCall? contract ⟨source, action, target⟩ = none)
      (call : Call Address)
      (returned : returnedCall? contract ⟨source, action, target⟩ = some call) :
      ∃ view, call = .query view := by
    rw [returnsNothing] at returned
    contradiction
  cases stepEffect_of_step step with
  | advance later laterSequence => exact .inr ⟨keeps rfl, fresh, rfl⟩
  | external noLoss => exact .inr ⟨keeps rfl, fresh, rfl⟩
  | failed outcome => exact .inr ⟨keeps (by simp [returnedCall?, outcome]), fresh, rfl⟩
  | @returned invocation reply after outcome effect =>
      have returned : returnedCall? contract
          ⟨source, .invoke invocation, { source with state := after }⟩ = some invocation.call :=
        returnedCall?_of_outcome outcome
      rcases invocation with ⟨authorized, transferAccepted, call⟩
      rcases effect.of_uninitialized (reachable.lookup_of_uninitialized fresh) fresh with
        ⟨admin, token, isInitialize⟩ | ⟨view, isView⟩
      · dsimp only at isInitialize
        subst call
        left
        refine ⟨admin, token, returned, ?_⟩
        rcases reachable.nothing_pending fresh with ⟨noPending, noDeadline⟩
        cases effect with
        | initializeContract => exact ⟨rfl, ⟨rfl, rfl, noPending, noDeadline⟩, rfl⟩
      · dsimp only at isView
        subst call
        right
        refine ⟨?_, ?_⟩
        · intro call isCall
          rw [returned, Option.some.injEq] at isCall
          exact ⟨view, isCall.symm⟩
        · cases effect with
          | query => exact ⟨fresh, rfl⟩

/-- A step of an initialized system keeps the office in step with the log. -/
theorem Step.officeLogged (step : Step contract source action target)
    (logged : OfficeLogged source.state admin token) :
    OfficeLogged target.state admin token ∧ ∀ otherAdmin otherToken,
      returnedCall? contract ⟨source, action, target⟩ ≠
        some (.initializeContract otherAdmin otherToken) := by
  cases stepEffect_of_step step with
  | advance later laterSequence => exact ⟨logged, by simp [returnedCall?]⟩
  | external noLoss =>
      refine ⟨⟨logged.replays, ?_, logged.token⟩, by simp [returnedCall?]⟩
      have describes := logged.describes
      exact ⟨describes.admin, describes.cap, describes.pendingAdmin, describes.executeAfter⟩
  | failed outcome => exact ⟨logged, by simp [returnedCall?, outcome]⟩
  | @returned invocation reply after outcome effect =>
      have kept := effect.officeKept logged.describes
      constructor
      · refine ⟨?_, ?_, kept.token.trans logged.token⟩
        · rw [effect.events_eq, replays_append]
          exact ⟨logged.replays, kept.replays⟩
        · rw [effect.events_eq, replay_append]
          exact kept.describes
      · intro otherAdmin otherToken again
        rw [returnedCall?_of_outcome outcome, Option.some.injEq] at again
        rcases invocation with ⟨authorized, transferAccepted, call⟩
        cases effect with
        | initializeContract fresh =>
            rw [logged.describes.admin] at fresh
            contradiction
        | _ => contradiction

/--
Either nothing but views has returned in a run and nothing is logged, or the contract
was initialized once, before everything else but views.  In that case the log tells
the administration: the events lead from the first admin and the default cap to the
stored admin, cap and pending transfer, each of them names the values before it, and
the token is the one of the initialization.
-/
theorem log_determines_office (history : History contract trace final) :
    (OnlyViews contract trace ∧ final.state.admin = none ∧ final.state.events = []) ∨
      ∃ admin token, InitializedBy contract trace admin token ∧
        OfficeLogged final.state admin token := by
  induction history using History.induct with
  | nil start uninitialized =>
      left
      refine ⟨?_, uninitialized.admin, uninitialized.events⟩
      intro transition transitionMem
      contradiction
  | snoc trace source action target earlier step ih =>
      rcases ih with ⟨onlyViews, fresh, nothing⟩ | ⟨admin, token, initialized, logged⟩
      · rcases step.of_uninitialized earlier.reachable fresh with
          ⟨admin, token, returned, sameLog, describes, isToken⟩ | ⟨isView, stillFresh, sameLog⟩
        · right
          refine ⟨admin, token, ⟨trace, _, [], rfl, returned, onlyViews, by simp⟩, ?_⟩
          rw [nothing] at sameLog
          refine ⟨?_, ?_, isToken⟩
          · rw [sameLog]
            exact replays_nil
          · rw [sameLog]
            exact describes
        · exact .inl ⟨onlyViews.snoc isView, stillFresh, sameLog.trans nothing⟩
      · rcases step.officeLogged logged with ⟨stillLogged, notAgain⟩
        exact .inr ⟨admin, token, initialized.snoc notAgain, stillLogged⟩

end Runs

namespace Sample

/-- The administration changes in every way, and a stream is created in between. -/
def governing : List (Action Party) :=
  [callBy .bob (.query .streamCounter), callBy .admin (.initializeContract .admin .token),
    callBy .admin (.setSupplyCap (units 2000)), fundOne,
    callBy .admin (.scheduleAdminTransfer .admin .carol),
    callBy .admin (.cancelAdminTransfer .admin),
    callBy .admin (.scheduleAdminTransfer .admin .carol), callBy .admin (.setAdmin .dave),
    advanceTo (time 86400), callBy .bob .executeAdminTransfer]

end Sample

/-- The theorem applies to a run in which a replaced admin's transfer is executed. -/
theorem log_determines_office_governing :
    (OnlyViews .contract (Sample.trace Sample.governing) ∧
        (Sample.final Sample.governing).state.admin = none ∧
          (Sample.final Sample.governing).state.events = []) ∨
      ∃ first asset, InitializedBy .contract (Sample.trace Sample.governing) first asset ∧
        OfficeLogged (Sample.final Sample.governing).state first asset :=
  log_determines_office (Sample.history (by decide))

example :
    replay Office.after (Office.founded .admin) (Sample.final Sample.governing).state.events =
      ⟨.carol, Sample.units 2000, none⟩ := by
  decide

end StreamPay
