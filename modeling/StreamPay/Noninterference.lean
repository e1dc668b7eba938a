import StreamPay.Foundation.Observation
import StreamPay.Operations

/-!
# Administration does not touch the streams

The administrative keys and the keys of the streams lie in one storage.  This
file compares two runs of the same calls, with and without administrative calls
between them.  The calls of users end alike in both, because they look at the
administration in two ways only: whether there is an administrator at all, which
never changes back, and whether the cap is exceeded, in which case they fail and
say so.
-/

namespace StreamPay

open Foundation Foundation.Computation

variable {Address : Type}

/--
Two states hold the same streams and the same tokens.  If `guarded` holds, they
also agree on whether the contract is initialized.
-/
structure State.SameForUsers (guarded : Prop) (first second : State Address) : Prop where
  token : first.token = second.token
  counter : first.counter = second.counter
  totalSupply : first.totalSupply = second.totalSupply
  streams : first.streams = second.streams
  balances : first.balances = second.balances
  initialized : guarded → first.admin.isSome = second.admin.isSome

namespace State.SameForUsers

variable {guarded : Prop} {first second : State Address}

theorem refl (state : State Address) : state.SameForUsers guarded state :=
  ⟨rfl, rfl, rfl, rfl, rfl, fun _ => rfl⟩

theorem trans {third : State Address} (earlier : first.SameForUsers guarded second)
    (later : second.SameForUsers guarded third) : first.SameForUsers guarded third :=
  ⟨earlier.token.trans later.token, earlier.counter.trans later.counter,
    earlier.totalSupply.trans later.totalSupply, earlier.streams.trans later.streams,
    earlier.balances.trans later.balances,
    fun holds => (earlier.initialized holds).trans (later.initialized holds)⟩

theorem symm (same : first.SameForUsers guarded second) : second.SameForUsers guarded first :=
  ⟨same.token.symm, same.counter.symm, same.totalSupply.symm, same.streams.symm,
    same.balances.symm, fun holds => (same.initialized holds).symm⟩

theorem setCounter (same : first.SameForUsers guarded second) (counter : U64) :
    (first.setCounter counter).SameForUsers guarded (second.setCounter counter) :=
  ⟨same.token, rfl, same.totalSupply, same.streams, same.balances, same.initialized⟩

theorem setTotalSupply (same : first.SameForUsers guarded second) (supply : I128) :
    (first.setTotalSupply supply).SameForUsers guarded (second.setTotalSupply supply) :=
  ⟨same.token, same.counter, rfl, same.streams, same.balances, same.initialized⟩

theorem setToken (same : first.SameForUsers guarded second) (token : Address) :
    (first.setToken token).SameForUsers guarded (second.setToken token) :=
  ⟨rfl, same.counter, same.totalSupply, same.streams, same.balances, same.initialized⟩

theorem setAdmin (same : first.SameForUsers guarded second) (admin : Address) :
    (first.setAdmin admin).SameForUsers guarded (second.setAdmin admin) :=
  ⟨same.token, same.counter, same.totalSupply, same.streams, same.balances, fun _ => rfl⟩

theorem putStream (same : first.SameForUsers guarded second) (ledger : Ledger) (id : U64)
    (stream : Stream Address) :
    (first.putStream ledger id stream).SameForUsers guarded
      (second.putStream ledger id stream) :=
  ⟨same.token, same.counter, same.totalSupply, congrArg (·.insert id stream) same.streams,
    same.balances, same.initialized⟩

theorem setSupplyCap (same : first.SameForUsers guarded second) (cap : I128) :
    (first.setSupplyCap cap).SameForUsers guarded (second.setSupplyCap cap) :=
  ⟨same.token, same.counter, same.totalSupply, same.streams, same.balances, same.initialized⟩

theorem touchInstance (same : first.SameForUsers guarded second) (ledger : Ledger) :
    (first.touchInstance ledger).SameForUsers guarded (second.touchInstance ledger) :=
  ⟨same.token, same.counter, same.totalSupply, same.streams, same.balances, same.initialized⟩

theorem publish (same : first.SameForUsers guarded second) (event : Event Address) :
    (first.publish event).SameForUsers guarded (second.publish event) :=
  ⟨same.token, same.counter, same.totalSupply, same.streams, same.balances, same.initialized⟩

theorem recordTransfer [DecidableEq Address] (same : first.SameForUsers guarded second)
    (record : Transfer Address) :
    (first.recordTransfer record).SameForUsers guarded (second.recordTransfer record) :=
  ⟨same.token, same.counter, same.totalSupply, same.streams,
    congrArg (·.move record.token record.source record.destination record.amount.val)
      same.balances,
    same.initialized⟩

end State.SameForUsers

section Rules

variable {guarded : Prop} {Excused : Fault → Prop} {env : Env Address} {id : U64}

theorem unaffected_readTotalSupply :
    Unaffected (State.SameForUsers guarded) Excused (readTotalSupply : Contract Address I128) :=
  unaffected_readState fun _ _ same => congrArg (·.getD 0) same.totalSupply

theorem unaffected_writeTotalSupply (supply : I128) :
    Unaffected (State.SameForUsers guarded) Excused
      (writeTotalSupply supply : Contract Address Unit) :=
  .modify fun _ _ same => same.setTotalSupply supply

/-- The cap is looked at only by a check whose fault is excused. -/
theorem supplyRules_sameForUsers (excused : Excused (.error .supplyCapExceeded)) :
    SupplyRules (State.SameForUsers guarded : State Address → State Address → Prop) Excused Eq := by
  apply SupplyRules.of_same unaffected_readTotalSupply unaffected_writeTotalSupply
  intro Result newSupply rest restUnaffected before other same
  have checked : Alike (State.SameForUsers guarded) Excused
      (failIf (newSupply > before.supplyCap.getD I128.max) .supplyCapExceeded :
        Contract Address Unit)
      (failIf (newSupply > other.supplyCap.getD I128.max) .supplyCapExceeded) :=
    alike_ite_throw_of_excused excused _ _
  exact (checked.bind fun _ => restUnaffected) before other same

variable [DecidableEq Address]

theorem unaffected_transfer (token source destination : Address) (amount : I128)
    (purpose : Purpose) :
    Unaffected (State.SameForUsers guarded) Excused
      (transfer env token source destination amount purpose) := by
  intro before other same
  let record := Transfer.mk token source destination amount purpose
  have sameAnswer : env.accepts before.balances record = env.accepts other.balances record := by
    rw [same.balances]
  change SameEnd _ _ ((if _ then _ else _ : Contract Address Unit) before)
    ((if _ then _ else _ : Contract Address Unit) other)
  by_cases accepted : env.accepts before.balances record = true
  · rw [if_pos accepted, if_pos (sameAnswer ▸ accepted)]
    exact ⟨rfl, same.recordTransfer record⟩
  · rw [if_neg accepted, if_neg (sameAnswer ▸ accepted)]
    exact .inl rfl

theorem streamRules_sameForUsers : StreamRules (State.SameForUsers guarded) Excused env id where
  getStream := by
    refine (unaffected_readState ?_).bind fun _ => unaffected_liftM _
    intro first second same
    rw [same.streams]
  writeStream stream := .modify fun _ _ same => same.putStream env.ledger id stream
  readToken := (unaffected_readState fun _ _ same => same.token).bind fun _ => unaffected_liftM _
  transfer := unaffected_transfer
  updateSupply := unaffected_updateSupply unaffected_readTotalSupply unaffected_writeTotalSupply
  extendInstance := .modify fun _ _ same => same.touchInstance env.ledger
  publish event := .modify fun _ _ same => same.publish event

/-- Only here does it matter whether the contract is initialized. -/
theorem userRules_sameForUsers : UserRules (State.SameForUsers True) Excused env where
  onStream _ := streamRules_sameForUsers
  hasAdmin := unaffected_readState fun _ _ same => same.initialized trivial
  writeAdmin admin := .modify fun _ _ same => same.setAdmin admin
  writeToken token := .modify fun _ _ same => same.setToken token
  readCounter := unaffected_readState fun _ _ same => congrArg (·.getD 0) same.counter
  writeCounter counter := .modify fun _ _ same => same.setCounter counter
  readTotalSupply := unaffected_readTotalSupply
  writeTotalSupply := unaffected_writeTotalSupply
  writeSupplyCap cap := .modify fun _ _ same => same.setSupplyCap cap

/-- The only fault that the administration can cause in the call of a user. -/
def Call.ExcusedFault (call : Call Address) (fault : Fault) : Prop :=
  call.checksCap = true ∧ fault = .error .supplyCapExceeded

theorem Call.unaffected (call : Call Address) (isUser : call.isUser = true) :
    Unaffected (State.SameForUsers True) call.ExcusedFault (call.run env) :=
  userRules_sameForUsers.unaffected_call isUser fun checksCap =>
    supplyRules_sameForUsers ⟨checksCap, rfl⟩

/-- Calls that settle a stream do not even look at whether the contract is initialized. -/
theorem Call.unaffected_of_settles (call : Call Address) (settles : call.settles = true) :
    Unaffected (State.SameForUsers False) (fun _ => False) (call.run env) := by
  rcases Call.exists_target settles with ⟨id, targets⟩
  exact streamRules_sameForUsers.unaffected_call settles targets

end Rules

variable [DecidableEq Address]

/-- The result of the call of a user. -/
def userResult? (contract : Address)
    (transition : Transition (System Address) (Action Address)) :
    Option (Except Fault (Reply Address)) :=
  match transition.label with
  | .invoke invocation =>
      if invocation.call.isUser then
        some (invocation.outcome contract transition.source).1
      else
        none
  | .advance _ | .external _ => none

/-- The results of the calls of users, in order. -/
def userResults (contract : Address) (start : System Address) (actions : List (Action Address)) :
    List (Except Fault (Reply Address)) :=
  (execute (System.next contract) start actions).filterMap (userResult? contract)

/-- Everything but administrative calls. -/
def Action.isUser : Action Address → Bool
  | .invoke invocation => invocation.call.isUser
  | .advance _ | .external _ => true

/-- A creation or a top-up fails because of the cap. -/
def refusedByCap (contract : Address)
    (transition : Transition (System Address) (Action Address)) : Bool :=
  match transition.label with
  | .invoke invocation =>
      invocation.call.checksCap &&
        match (invocation.outcome contract transition.source).1 with
        | .error (.error .supplyCapExceeded) => true
        | _ => false
  | .advance _ | .external _ => false

def NeverRefusedByCap (contract : Address) (start : System Address)
    (actions : List (Action Address)) : Prop :=
  ∀ transition ∈ execute (System.next contract) start actions,
    refusedByCap contract transition = false

section Runs

variable {contract : Address} {first second : System Address} {invocation : Invocation Address}

/-- An administrative call changes nothing that users see. -/
theorem Effect.sameForUsers {env : Env Address} {before after : State Address}
    {call : Call Address} {reply : Reply Address} (effect : Effect env before call reply after)
    (administrative : call.isUser = false) : before.SameForUsers True after := by
  cases effect with
  | scheduleAdminTransfer isAdmin authorized differs executeAfterEq =>
      exact ⟨rfl, rfl, rfl, rfl, rfl, fun _ => rfl⟩
  | executeAdminTransfer isAdmin pending deadline matured =>
      refine ⟨rfl, rfl, rfl, rfl, rfl, fun _ => ?_⟩
      rw [isAdmin]
      rfl
  | cancelAdminTransfer isAdmin authorized pending =>
      exact ⟨rfl, rfl, rfl, rfl, rfl, fun _ => rfl⟩
  | setAdmin isAdmin authorized =>
      refine ⟨rfl, rfl, rfl, rfl, rfl, fun _ => ?_⟩
      rw [isAdmin]
      rfl
  | setSupplyCap isAdmin authorized capPos => exact ⟨rfl, rfl, rfl, rfl, rfl, fun _ => rfl⟩
  | query returned => exact .refl before
  | _ => contradiction

theorem outcome_sameForUsers (administrative : invocation.call.isUser = false) :
    first.state.SameForUsers True (invocation.outcome contract first).2 := by
  rcases runEq : invocation.call.run (invocation.env contract first.ledger) first.state with
    ⟨reply, after⟩ | ⟨fault, after⟩
  · simp only [Invocation.outcome, runEq]
    exact (effect_of_run runEq).sameForUsers administrative
  · simp only [Invocation.outcome, runEq]
    exact .refl first.state

/-- The call of a user ends alike, if the cap refuses it in neither run. -/
theorem user_outcome_eq (isUser : invocation.call.isUser = true)
    (sameLedger : first.ledger = second.ledger)
    (same : first.state.SameForUsers True second.state)
    (accepted : refusedByCap contract
      ⟨first, .invoke invocation, first.next contract (.invoke invocation)⟩ = false)
    (otherAccepted : refusedByCap contract
      ⟨second, .invoke invocation, second.next contract (.invoke invocation)⟩ = false) :
    (invocation.outcome contract first).1 = (invocation.outcome contract second).1 ∧
      (invocation.outcome contract first).2.SameForUsers True
        (invocation.outcome contract second).2 := by
  rcases outcome_eq_or_excused sameLedger same (invocation.call.unaffected isUser) with
    agreed | ⟨fault, ⟨checksCap, rfl⟩, refused | refused⟩
  · exact agreed
  · simp [refusedByCap, checksCap, refused] at accepted
  · simp [refusedByCap, checksCap, refused] at otherAccepted

/-- Users do not notice administrative calls. -/
theorem administration_unnoticed :
    Unnoticed (System.next contract) (userResult? contract) Action.isUser
      (fun transition => refusedByCap contract transition = false)
      (fun transition => refusedByCap contract transition = false)
      (fun first second => first.ledger = second.ledger ∧
        first.state.SameForUsers True second.state) where
  kept first second action same isUser accepted otherAccepted := by
    rcases same with ⟨sameLedger, same⟩
    cases action with
    | advance ledger => exact ⟨rfl, rfl, same⟩
    | external balances =>
        exact ⟨rfl, sameLedger, same.token, same.counter, same.totalSupply, same.streams, rfl,
          same.initialized⟩
    | invoke invocation =>
        have ends := user_outcome_eq isUser sameLedger same accepted otherAccepted
        refine ⟨?_, sameLedger, ends.2⟩
        simp only [userResult?, taken, ends.1]
  leftOut first second action same notUser _ := by
    cases action with
    | advance ledger => contradiction
    | external balances => contradiction
    | invoke invocation =>
        have administrative : invocation.call.isUser = false := notUser
        refine ⟨?_, same.1, (outcome_sameForUsers administrative).symm.trans same.2⟩
        simp [userResult?, taken, administrative]

end Runs

/-- The state with other administrative keys. -/
def State.administered (state : State Address) (admin pendingAdmin : Option Address)
    (executeAfter : Option U64) (cap : Option I128) : State Address :=
  { state with
    admin := admin
    pendingAdmin := pendingAdmin
    adminActionExecuteAfter := executeAfter
    supplyCap := cap }

/-- Users see the same with and without the administrative calls. -/
structure AdministrationSeparate (contract : Address) (start : System Address)
    (actions : List (Action Address)) : Prop where
  results : userResults contract start actions =
    userResults contract start (actions.filter Action.isUser)
  final : (actions.foldl (System.next contract) start).state.SameForUsers True
    ((actions.filter Action.isUser).foldl (System.next contract) start).state
  settling : ∀ (system : System Address) (invocation : Invocation Address) admin pendingAdmin
    executeAfter cap, invocation.call.settles = true →
      (invocation.outcome contract
        { system with
          state := system.state.administered admin pendingAdmin executeAfter cap }).1 =
        (invocation.outcome contract system).1

/--
If the cap refuses no creation and no top-up, neither in a run nor in the run
without its administrative calls, then the calls of users have the same results
in both, and both end with the same records, counter, tracked supply and
balances.  Withdrawals, cancellations and extensions have the same results
whatever the administrative keys hold.
-/
theorem administration_separate (contract : Address) (start : System Address)
    (actions : List (Action Address)) (accepted : NeverRefusedByCap contract start actions)
    (otherAccepted : NeverRefusedByCap contract start (actions.filter Action.isUser)) :
    AdministrationSeparate contract start actions := by
  rcases administration_unnoticed.observations_eq actions ⟨rfl, .refl start.state⟩ accepted
    otherAccepted with ⟨results, _, final⟩
  refine ⟨results, final, ?_⟩
  intro system invocation admin pendingAdmin executeAfter cap settles
  let other : System Address :=
    { system with state := system.state.administered admin pendingAdmin executeAfter cap }
  have sameLedger : other.ledger = system.ledger := rfl
  have same : other.state.SameForUsers False system.state :=
    ⟨rfl, rfl, rfl, rfl, rfl, False.elim⟩
  exact (outcome_eq_of_unaffected sameLedger same
    (invocation.call.unaffected_of_settles settles)).1

namespace Sample

/-- The administrator interferes while a stream is funded, withdrawn from and cancelled. -/
def administered : List (Action Party) :=
  [callBy .admin (.initializeContract .admin .token),
    callBy .admin (.setSupplyCap (units 2000)),
    callBy .alice (.createStream .alice .bob (units 1000) 0 (time 200)),
    callBy .admin (.scheduleAdminTransfer .admin .carol),
    advanceTo (time 150),
    callBy .admin (.setAdmin .dave),
    callBy .bob (.withdraw 0 .bob),
    callBy .admin (.setSupplyCap (units 1)),
    callBy .alice (.cancel 0 .alice)]

end Sample

/-- The theorem applies to a run with administrative calls between those of users. -/
theorem administration_separate_administered :
    AdministrationSeparate .contract Sample.start Sample.administered :=
  administration_separate .contract Sample.start Sample.administered
    (by unfold NeverRefusedByCap; decide) (by unfold NeverRefusedByCap; decide)

end StreamPay
