import StreamPay.Expiry
import StreamPay.Foundation.Observation
import StreamPay.Governance
import StreamPay.Lifetimes

/-!
# A stream on its own

The streams share the token and the contract's balance of it, the tracked supply and the
cap, and the instance entry with its lifetime.  The calls on a stream and the views of it
look at nothing else that belongs to others.  This file compares a run with one in which
only these calls and views are made, at the same times.  Everything that concerns the
stream is the same in both: what the callers get, the record and the lifetime of its
entry, its events and its transfers.

What is shared can be noticed in three ways.  A transfer can be refused, a top-up can
find no room under the cap, and a call can find the instance entry expired, which the
calls on other streams may have renewed.  Runs in which that happens are set aside.
-/

namespace StreamPay

open Foundation Foundation.Computation

variable {Address : Type}

/-- The clock, and the calls that concern the stream `id`. -/
def Action.concerns (id : U64) : Action Address → Bool
  | .advance _ => true
  | .external _ => false
  | .invoke invocation => invocation.call.stream? = some id

/-- Two states hold the same about the stream `id`. -/
structure State.SameStream (id : U64) (first second : State Address) : Prop where
  token : first.token = second.token
  stream : first.streams.lookup id = second.streams.lookup id
  liveUntil : first.streamLiveUntil id = second.streamLiveUntil id
  events : first.eventsFor id = second.eventsFor id
  transfers : first.transfersFor id = second.transfersFor id

theorem State.SameStream.refl {id : U64} (state : State Address) : state.SameStream id state :=
  ⟨rfl, rfl, rfl, rfl, rfl⟩

theorem State.SameStream.trans {id : U64} {first second third : State Address}
    (earlier : first.SameStream id second) (later : second.SameStream id third) :
    first.SameStream id third :=
  ⟨earlier.token.trans later.token, earlier.stream.trans later.stream,
    earlier.liveUntil.trans later.liveUntil, earlier.events.trans later.events,
    earlier.transfers.trans later.transfers⟩

/-- The faults by which a call notices what its stream shares with others. -/
def Call.Shortage (call : Call Address) (fault : Fault) : Prop :=
  fault = .trap .transferFailed ∨
    call.checksCap = true ∧ (fault = .error .supplyCapExceeded ∨ fault = .error .overflow)

instance (call : Call Address) : DecidablePred call.Shortage := fun fault =>
  inferInstanceAs (Decidable (fault = .trap .transferFailed ∨
    call.checksCap = true ∧ (fault = .error .supplyCapExceeded ∨ fault = .error .overflow)))

section Operations

variable {Excused : Fault → Prop} {id : U64} {env : Env Address} {Result : Type}

theorem State.SameStream.mem_iff {first second : State Address}
    (same : first.SameStream id second) :
    id ∈ first.streams ↔ id ∈ second.streams := by
  rw [Finmap.mem_iff, Finmap.mem_iff, same.stream]

theorem unaffectedFor_readToken :
    Unaffected (State.SameStream id) Excused (readToken : Contract Address Address) :=
  (unaffected_readState fun _ _ same => same.token).bind fun _ => unaffected_liftM _

theorem unaffectedFor_getStream :
    Unaffected (State.SameStream id) Excused
      (getStream id : Contract Address (Stream Address)) :=
  (unaffected_readState fun _ _ same => same.stream).bind fun _ => unaffected_liftM _

theorem unaffectedFor_writeStream (stream : Stream Address) :
    Unaffected (State.SameStream id) Excused (writeStream env id stream) := by
  apply Unaffected.modify
  intro first second same
  refine ⟨same.token, by simp, ?_, same.events, same.transfers⟩
  by_cases stored : id ∈ first.streams
  · rw [putStream_liveUntil_of_stored stored,
      putStream_liveUntil_of_stored (same.mem_iff.mp stored), same.liveUntil]
  · have otherMissing : id ∉ second.streams := fun present => stored (same.mem_iff.mpr present)
    simp [State.putStream_streamLiveUntil, stored, otherMissing]

theorem unaffectedFor_extendInstance :
    Unaffected (State.SameStream id) Excused (extendInstance env) :=
  .modify fun _ _ same =>
    ⟨same.token, same.stream, same.liveUntil, same.events, same.transfers⟩

/-- The supply is read only to be changed. -/
theorem unaffectedFor_updateSupply {update : I128 → I128} {rest : Contract Address Result}
    (restUnaffected : Unaffected (State.SameStream id) Excused rest) :
    Unaffected (State.SameStream id) Excused (do
      let supply ← readTotalSupply
      writeTotalSupply (update supply)
      rest) := by
  intro first second same
  let updated (state : State Address) : State Address :=
    state.setTotalSupply (update (state.totalSupply.getD 0))
  have updatedSame : State.SameStream id (updated first) (updated second) :=
    ⟨same.token, same.stream, same.liveUntil, same.events, same.transfers⟩
  exact restUnaffected (updated first) (updated second) updatedSame

/-- A top-up finds room under the cap in both states, unless a fault is excused. -/
theorem supplyRules_sameStream (overflowExcused : Excused (.error .overflow))
    (capExcused : Excused (.error .supplyCapExceeded)) :
    SupplyRules (State.SameStream id : State Address → State Address → Prop) Excused
      fun _ _ => True where
  check amount rest restAlike := by
    intro first second same
    have checked (newSupply otherSupply : I128) : Alike (State.SameStream id) Excused
        (do
          let cap ← readSupplyCap
          failIf (newSupply > cap) .supplyCapExceeded
          rest newSupply)
        (do
          let cap ← readSupplyCap
          failIf (otherSupply > cap) .supplyCapExceeded
          rest otherSupply) := by
      intro first second same
      have guarded : Alike (State.SameStream id) Excused
          (failIf (newSupply > first.supplyCap.getD I128.max) .supplyCapExceeded :
            Contract Address Unit)
          (failIf (otherSupply > second.supplyCap.getD I128.max) .supplyCapExceeded) :=
        alike_ite_throw_of_excused capExcused _ _
      exact guarded.bind (fun _ => restAlike newSupply otherSupply trivial) first second same
    change SameEnd _ _
      ((liftM (okOr ((first.totalSupply.getD 0).checkedAdd amount) .overflow) >>= fun newSupply =>
        _ : Contract Address _) first)
      ((liftM (okOr ((second.totalSupply.getD 0).checkedAdd amount) .overflow) >>= fun newSupply =>
        _ : Contract Address _) second)
    cases (first.totalSupply.getD 0).checkedAdd amount with
    | none => exact SameEnd.of_excused_left overflowExcused _
    | some newSupply =>
        cases (second.totalSupply.getD 0).checkedAdd amount with
        | none => exact SameEnd.of_excused_right overflowExcused _
        | some otherSupply => exact checked newSupply otherSupply first second same
  write _ _ _ := .modify fun _ _ same =>
    ⟨same.token, same.stream, same.liveUntil, same.events, same.transfers⟩

theorem unaffectedFor_publish (event : Event Address) :
    Unaffected (State.SameStream id) Excused (publish event) := by
  apply Unaffected.modify
  intro first second same
  refine ⟨same.token, same.stream, same.liveUntil, ?_, same.transfers⟩
  have sameEvents := same.events
  simp only [State.eventsFor] at sameEvents
  simp [State.eventsFor, sameEvents]

variable [DecidableEq Address]

theorem unaffectedFor_transfer (excused : Excused (.trap .transferFailed))
    (token source destination : Address) (amount : I128) (purpose : Purpose) :
    Unaffected (State.SameStream id) Excused
      (transfer env token source destination amount purpose) := by
  intro first second same
  let record := Transfer.mk token source destination amount purpose
  have sameTransfers : (first.recordTransfer record).transfersFor id =
      (second.recordTransfer record).transfersFor id := by
    have transfers := same.transfers
    simp only [State.transfersFor] at transfers
    simp [State.transfersFor, transfers]
  change SameEnd _ _ ((if _ then _ else _ : Contract Address Unit) first)
    ((if _ then _ else _ : Contract Address Unit) second)
  by_cases accepted : env.accepts first.balances record = true
  · by_cases otherAccepted : env.accepts second.balances record = true
    · rw [if_pos accepted, if_pos otherAccepted]
      exact ⟨rfl, same.token, same.stream, same.liveUntil, same.events, sameTransfers⟩
    · rw [if_neg otherAccepted]
      exact SameEnd.of_excused_right excused _
  · rw [if_neg accepted]
    exact SameEnd.of_excused_left excused _

theorem streamRules_sameStream (excused : Excused (.trap .transferFailed)) :
    StreamRules (State.SameStream id) Excused env id where
  getStream := unaffectedFor_getStream
  writeStream := unaffectedFor_writeStream
  readToken := unaffectedFor_readToken
  transfer := unaffectedFor_transfer excused
  updateSupply _ _ restUnaffected := unaffectedFor_updateSupply restUnaffected
  extendInstance := unaffectedFor_extendInstance
  publish := unaffectedFor_publish

/-- A call that concerns a stream looks only at what two states hold about it. -/
theorem Call.unaffectedFor {call : Call Address} (about : call.stream? = some id) :
    Unaffected (State.SameStream id) call.Shortage (call.run env) := by
  have rules : StreamRules (State.SameStream id) call.Shortage env id :=
    streamRules_sameStream (.inl rfl)
  cases call with
  | topUp target sender amount =>
      cases about
      exact (rules.unaffected_topUp
        (supplyRules_sameStream (.inr ⟨rfl, .inr rfl⟩) (.inr ⟨rfl, .inl rfl⟩))).map _
  | extendStream target sender newEnd => exact rules.unaffected_call rfl about
  | withdraw target recipient => exact rules.unaffected_call rfl about
  | cancel target caller => exact rules.unaffected_call rfl about
  | query view => exact rules.unaffected_view about
  | _ => simp [Call.stream?, Call.target] at about

end Operations

variable [DecidableEq Address]

section Elsewhere

variable {env : Env Address} {before after : State Address} {call : Call Address}
  {reply : Reply Address} {id : U64} {stream : Stream Address} {contract : Address}
  {source target : System Address} {action : Action Address}

/-- A call that is not addressed to a stored stream publishes nothing about it. -/
theorem Effect.eventsFor_eq (effect : Effect env before call reply after)
    (older : id.val < (before.counter.getD 0).val) (elsewhere : call.target ≠ some id) :
    after.eventsFor id = before.eventsFor id := by
  cases effect with
  | initializeContract fresh => rfl
  | createStream checks =>
      have notNext : before.counter.getD 0 ≠ id := by
        intro same
        rw [same] at older
        exact lt_irrefl _ older
      exact eventsFor_of_ne (published_of_silent (by simp))
        (by simpa [Event.stream?] using notNext)
  | createStreamBatch checks =>
      have room : (before.counter.getD 0).val + (_ : List _).length ≤ 2 ^ 64 - 1 :=
        checks.nextCounterEq ▸ (BoundedInt.le_upper _)
      exact openAll_eventsFor_of_lt older room
  | topUp checks => exact eventsFor_of_ne (published_of_silent (by simp)) elsewhere
  | extendStream checks => exact eventsFor_of_ne (published_of_silent (by simp)) elsewhere
  | withdraw checks => exact eventsFor_of_ne (published_of_silent (by simp)) elsewhere
  | cancel checks => exact eventsFor_of_ne (published_of_silent (by simp)) elsewhere
  | query returned => rfl
  | _ => exact eventsFor_of_ne (published_of_silent (by simp)) (by simp [Event.stream?])

/-- What does not concern a stored stream leaves everything about it alone. -/
theorem Step.sameStream (step : Step contract source action target)
    (reachable : Reachable contract source)
    (stored : source.state.streams.lookup id = some stream)
    (elsewhere : action.concerns id = false) : target.state.SameStream id source.state := by
  have older := reachable.lt_counter stored
  cases stepEffect_of_step step with
  | advance later laterSequence => exact ⟨rfl, rfl, rfl, rfl, rfl⟩
  | external noLoss => exact ⟨rfl, rfl, rfl, rfl, rfl⟩
  | failed outcome => exact ⟨rfl, rfl, rfl, rfl, rfl⟩
  | @returned invocation reply after outcome effect =>
      have notAbout : invocation.call.stream? ≠ some id := by
        simpa [Action.concerns] using elsewhere
      have notTarget : invocation.call.target ≠ some id := fun targets =>
        notAbout (Call.stream?_of_target targets)
      rcases reachable.exists_token stored with ⟨token, tokenSet⟩
      have idle : source.state.admin = none → source.state.token = none :=
        fun uninitialized => (reachable.idle uninitialized).1
      have kept : after.streams.lookup id = some stream := by
        apply step.lookup_kept reachable stored
        intro call returned
        rw [returnedCall?_of_outcome outcome, Option.some.injEq] at returned
        rw [← returned]
        exact notTarget
      exact ⟨(effect.token_kept idle tokenSet).trans tokenSet.symm, kept.trans stored.symm,
        effect.liveUntil_of_ne older notTarget, effect.eventsFor_eq older notTarget,
        effect.transfersFor_eq notTarget⟩

end Elsewhere

/-- What the caller of a call that concerns the stream `id` gets. -/
def answerFor? (contract : Address) (id : U64)
    (transition : Transition (System Address) (Action Address)) :
    Option (Option (Except Fault (Reply Address))) :=
  if transition.label.concerns id then answer? contract transition else none

/-- A call that concerns the stream `id` notices what the streams share. -/
def runsShort (contract : Address) (id : U64)
    (transition : Transition (System Address) (Action Address)) : Bool :=
  match transition.label with
  | .invoke invocation =>
      decide (invocation.call.stream? = some id) &&
        match invocation.answer contract transition.source with
        | none => decide ¬transition.source.InstanceAlive
        | some (.ok _) => false
        | some (.error fault) => decide (invocation.call.Shortage fault)
  | .advance _ | .external _ => false

def NeverShort (contract : Address) (id : U64) (start : System Address)
    (actions : List (Action Address)) : Prop :=
  ∀ transition ∈ execute (System.serve contract) start actions,
    runsShort contract id transition = false

section Runs

variable {contract : Address} {id : U64} {first second start : System Address}
  {invocation : Invocation Address} {actions : List (Action Address)} {stream : Stream Address}

/-- A stream is stored in the first system, and the second one holds the same about it. -/
structure SharesStream (contract : Address) (id : U64) (first second : System Address) :
    Prop where
  reachable : Reachable contract first
  stored : ∃ stream, first.state.streams.lookup id = some stream
  ledger : first.ledger = second.ledger
  same : first.state.SameStream id second.state

/-- A call that is not short finds the instance entry alive. -/
theorem instanceAlive_of_enough (about : invocation.call.stream? = some id)
    (enough :
      runsShort contract id (taken (System.serve contract) first (.invoke invocation)) = false) :
    first.InstanceAlive := by
  by_contra expired
  have refused : invocation.answer contract first = none :=
    answer_of_not_serves fun serves => expired serves.1
  simp [runsShort, taken, about, refused, expired] at enough

/-- If the instance entries are alive, a call is run in both systems or in none. -/
theorem SharesStream.serves_iff (shares : SharesStream contract id first second)
    (about : invocation.call.stream? = some id) (alive : first.InstanceAlive)
    (otherAlive : second.InstanceAlive) :
    first.Serves invocation ↔ second.Serves invocation := by
  have sameEntry : first.StreamAlive id ↔ second.StreamAlive id := by
    rw [System.StreamAlive, System.StreamAlive, shares.same.mem_iff, shares.ledger,
      shares.same.liveUntil]
  have onlyThis (read : U64) (reads : read ∈ invocation.reads?) : read = id := by
    have isRead := Invocation.stream?_of_reads? reads
    rw [about, Option.some.injEq] at isRead
    exact isRead.symm
  constructor
  · rintro ⟨_, streamAlive⟩
    refine ⟨otherAlive, fun read reads => ?_⟩
    have isThis := onlyThis read reads
    subst read
    exact sameEntry.mp (streamAlive id reads)
  · rintro ⟨_, streamAlive⟩
    refine ⟨alive, fun read reads => ?_⟩
    have isThis := onlyThis read reads
    subst read
    exact sameEntry.mpr (streamAlive id reads)

theorem SharesStream.answer_eq (shares : SharesStream contract id first second)
    (about : invocation.call.stream? = some id)
    (enough :
      runsShort contract id (taken (System.serve contract) first (.invoke invocation)) = false)
    (otherEnough :
      runsShort contract id (taken (System.serve contract) second (.invoke invocation)) = false) :
    invocation.answer contract first = invocation.answer contract second ∧
      (first.serve contract (.invoke invocation)).state.SameStream id
        (second.serve contract (.invoke invocation)).state := by
  have servesIff := shares.serves_iff about (instanceAlive_of_enough about enough)
    (instanceAlive_of_enough about otherEnough)
  rcases answer_eq_or_excused shares.ledger shares.same servesIff (Call.unaffectedFor about) with
    agreed | ⟨fault, shortage, failed | failed⟩
  · exact agreed
  · simp [runsShort, taken, about, failed, shortage] at enough
  · simp [runsShort, taken, about, failed, shortage] at otherEnough

theorem SharesStream.serve (shares : SharesStream contract id first second)
    {action : Action Address} {other : System Address} (allowed : first.Allowed contract action)
    (ledger : (first.serve contract action).ledger = other.ledger)
    (same : (first.serve contract action).state.SameStream id other.state) :
    SharesStream contract id (first.serve contract action) other := by
  refine ⟨shares.reachable.serve allowed, ?_, ledger, same⟩
  rcases serve_eq_or contract first action with served | left
  · have step : Step contract first action (first.next contract action) := ⟨allowed, rfl⟩
    rcases shares.stored with ⟨stream, stored⟩
    rcases (step.growsTo shares.reachable).stored id stream stored with ⟨newer, newerStored, _⟩
    rw [served]
    exact ⟨newer, newerStored⟩
  · rw [left]
    exact shares.stored

/-- Nothing that concerns a stream shows what concerns other streams. -/
theorem others_unnoticed :
    Unnoticed (System.serve contract) (answerFor? contract id) (Action.concerns id)
      (fun transition => transition.source.Allowed contract transition.label ∧
        runsShort contract id transition = false)
      (fun transition => runsShort contract id transition = false) (SharesStream contract id) where
  kept first second action shares concerns fine otherFine := by
    cases action with
    | advance ledger => exact ⟨rfl, shares.serve fine.1 rfl shares.same⟩
    | external balances => contradiction
    | invoke invocation =>
        have about : invocation.call.stream? = some id := by
          simpa [Action.concerns] using concerns
        rcases shares.answer_eq about fine.2 otherFine with ⟨sameAnswer, sameAfter⟩
        refine ⟨?_, shares.serve fine.1 ?_ sameAfter⟩
        · simp only [answerFor?, answer?, taken, concerns, if_true, sameAnswer]
        · rw [serve_invoke_ledger, serve_invoke_ledger, shares.ledger]
  leftOut first second action shares elsewhere fine := by
    have notShown : answerFor? contract id (taken (System.serve contract) first action) = none :=
      if_neg (Bool.not_eq_true _ ▸ elsewhere)
    rcases shares.stored with ⟨stream, stored⟩
    have step : Step contract first action (first.next contract action) := ⟨fine.1, rfl⟩
    have unchanged : (first.serve contract action).state.SameStream id first.state := by
      rcases serve_eq_or contract first action with served | left
      · rw [served]
        exact step.sameStream shares.reachable stored elsewhere
      · rw [left]
        exact .refl first.state
    have same := unchanged.trans shares.same
    cases action with
    | advance ledger => contradiction
    | external balances => exact ⟨notShown, shares.serve fine.1 shares.ledger same⟩
    | invoke invocation =>
        refine ⟨notShown, shares.serve fine.1 ?_ same⟩
        rw [serve_invoke_ledger]
        exact shares.ledger

end Runs

/-- What concerns a stream is the same when nothing else is done. -/
structure StreamIsolated (contract : Address) (id : U64) (start : System Address)
    (actions : List (Action Address)) : Prop where
  answers : observations (System.serve contract) (answerFor? contract id) start actions =
    observations (System.serve contract) (answerFor? contract id) start
      (actions.filter (Action.concerns id))
  final : (actions.foldl (System.serve contract) start).state.SameStream id
    ((actions.filter (Action.concerns id)).foldl (System.serve contract) start).state

/--
Leave out of a run everything but the clock and the calls and views that concern one
stored stream.  If no call on the stream meets a refused transfer, a full supply or an
expired instance entry, neither in the run nor in what is left of it, then the callers of
its calls and views get the same, and its record, the lifetime of its entry, its events
and its transfers are the same in the end.
-/
theorem stream_isolated {contract : Address} {id : U64} {start : System Address}
    {actions : List (Action Address)} (reachable : Reachable contract start)
    (stored : id ∈ start.state.streams)
    (allowed : AllAllowed (System.serve contract) (System.Allowed contract) start actions)
    (enough : NeverShort contract id start actions)
    (otherEnough : NeverShort contract id start (actions.filter (Action.concerns id))) :
    StreamIsolated contract id start actions := by
  have shares : SharesStream contract id start start :=
    ⟨reachable, Finmap.mem_iff.mp stored, rfl, .refl start.state⟩
  have fine : ∀ transition ∈ execute (System.serve contract) start actions,
      transition.source.Allowed contract transition.label ∧
        runsShort contract id transition = false := by
    intro transition transitionMem
    rcases (run_execute allowed).of_mem transitionMem with ⟨_, _, _, _, step, _⟩
    exact ⟨step.1, enough transition transitionMem⟩
  rcases others_unnoticed.observations_eq actions shares fine otherEnough with ⟨answers, final⟩
  exact ⟨answers, final.same⟩

namespace Sample

/-- Both streams are raised, withdrawn from and cancelled. -/
def interleaved : List (Action Party) :=
  [callBy .carol (.topUp 1 .carol (units 200)),
    callBy .alice (.topUp 0 .alice (units 500)),
    callBy .admin (.setSupplyCap (units 5000)),
    callBy .alice (.createStream .alice .dave (units 100) 0 (time 300)),
    advanceTo (time 175),
    callBy .dave (.withdraw 1 .dave),
    callBy .bob (.withdraw 0 .bob),
    callBy .carol (.cancel 1 .carol),
    callBy .alice (.cancel 0 .alice)]

end Sample

/-- The theorem applies to two streams whose calls are interleaved. -/
theorem stream_isolated_interleaved :
    StreamIsolated .contract 0 (Sample.final Sample.withdrawing) Sample.interleaved :=
  stream_isolated (Sample.history (by decide)).reachable (by decide) (by decide)
    (by unfold NeverShort; decide) (by unfold NeverShort; decide)

end StreamPay
