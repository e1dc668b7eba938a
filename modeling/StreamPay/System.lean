import Mathlib.Data.Fintype.Basic
import StreamPay.Calls
import StreamPay.Foundation.Run

/-!
# The contract in its environment

A system is a ledger together with the state of the host.  It moves when the
ledger advances, when others move tokens without taking any from the contract,
and when somebody invokes an entry point.  An invocation carries everything
that its environment decides: who authorized it, and which transfers the token
accepts.  The host discards whatever a failed call has done.
-/

namespace StreamPay

open Foundation Foundation.Computation

variable {Address : Type}

structure System (Address : Type) where
  ledger : Ledger
  state : State Address

structure Invocation (Address : Type) where
  authorized : Address → Bool
  transferAccepted : Balances Address → Address → Address → Address → I128 → Bool
  call : Call Address

inductive Action (Address : Type) where
  | advance (ledger : Ledger)
  | external (balances : Balances Address)
  | invoke (invocation : Invocation Address)

/-- The environment of an invocation of the contract at address `contract`. -/
def Invocation.env (invocation : Invocation Address) (contract : Address) (ledger : Ledger) :
    Env Address where
  ledger := ledger
  currentContractAddress := contract
  authorized := invocation.authorized
  transferAccepted := invocation.transferAccepted
  -- No call installs code.
  uploaded := fun _ => false

section Steps

variable [DecidableEq Address]

/-- The result of an invocation and the state after it. -/
def Invocation.outcome (invocation : Invocation Address) (contract : Address)
    (system : System Address) : Except Fault (Reply Address) × State Address :=
  match invocation.call.run (invocation.env contract system.ledger) system.state with
  | .ok reply after => (.ok reply, after)
  | .error fault _ => (.error fault, system.state)

/-- The answer of a view. -/
def System.ask (system : System Address) (contract : Address) (view : View) :
    Except Fault (Reply Address) :=
  (Invocation.outcome ⟨fun _ => false, fun _ _ _ _ _ => false, .query view⟩ contract system).1

def System.next (contract : Address) (system : System Address) : Action Address → System Address
  | .advance ledger => { system with ledger := ledger }
  | .external balances => { system with state := { system.state with balances := balances } }
  | .invoke invocation => { system with state := (invocation.outcome contract system).2 }

/-- Time does not run backwards, and nobody else takes tokens from the contract. -/
def System.Allowed (contract : Address) (system : System Address) : Action Address → Prop
  | .advance ledger =>
      system.ledger.timestamp ≤ ledger.timestamp ∧ system.ledger.sequence ≤ ledger.sequence
  | .external balances =>
      ∀ token, system.state.balances token contract ≤ balances token contract
  | .invoke _ => True

instance [Fintype Address] (contract : Address) (system : System Address) :
    DecidablePred (system.Allowed contract)
  | .advance ledger =>
      inferInstanceAs (Decidable (system.ledger.timestamp ≤ ledger.timestamp ∧
        system.ledger.sequence ≤ ledger.sequence))
  | .external balances =>
      inferInstanceAs
        (Decidable (∀ token, system.state.balances token contract ≤ balances token contract))
  | .invoke _ => .isTrue trivial

def Step (contract : Address) (source : System Address) (action : Action Address)
    (target : System Address) : Prop :=
  source.Allowed contract action ∧ target = source.next contract action

/-- The call of a transition, if the call returns. -/
def returnedCall? (contract : Address)
    (transition : Transition (System Address) (Action Address)) : Option (Call Address) :=
  match transition.label with
  | .invoke invocation =>
      match (invocation.outcome contract transition.source).1 with
      | .ok _ => some invocation.call
      | .error _ => none
  | .advance _ | .external _ => none

/-- Nothing has been stored, and the contract has no debts. -/
structure State.Uninitialized (contract : Address) (state : State Address) : Prop where
  admin : state.admin = none
  token : state.token = none
  counter : state.counter = none
  pendingAdmin : state.pendingAdmin = none
  adminActionExecuteAfter : state.adminActionExecuteAfter = none
  totalSupply : state.totalSupply = none
  supplyCap : state.supplyCap = none
  streams : state.streams = ∅
  transfers : state.transfers = []
  events : state.events = []
  solvent : ∀ token, 0 ≤ state.balances token contract

abbrev Trace (Address : Type) := List (Transition (System Address) (Action Address))

/-- A trace that leads from an uninitialized state to `final`. -/
def History (contract : Address) (trace : Trace Address) (final : System Address) : Prop :=
  ∃ start, start.state.Uninitialized contract ∧ Run (Step contract) start trace final

def Reachable (contract : Address) (system : System Address) : Prop :=
  ∃ trace, History contract trace system

theorem History.snoc {contract : Address} {trace : Trace Address} {source target : System Address}
    {action : Action Address} (history : History contract trace source)
    (step : Step contract source action target) :
    History contract (trace ++ [⟨source, action, target⟩]) target := by
  rcases history with ⟨start, uninitialized, run⟩
  exact ⟨start, uninitialized, .snoc run step⟩

/-- Induction over the steps of a history. -/
@[elab_as_elim]
theorem History.induct {contract : Address}
    {Motive : ∀ trace final, History contract trace final → Prop}
    (nil : ∀ start (uninitialized : start.state.Uninitialized contract),
      Motive [] start ⟨start, uninitialized, .nil⟩)
    (snoc : ∀ trace source action target (earlier : History contract trace source)
      (step : Step contract source action target), Motive trace source earlier →
        Motive (trace ++ [⟨source, action, target⟩]) target (earlier.snoc step))
    {trace : Trace Address} {final : System Address} (history : History contract trace final) :
    Motive trace final history := by
  rcases history with ⟨start, uninitialized, run⟩
  induction run with
  | nil => exact nil start uninitialized
  | snoc earlier last ih => exact snoc _ _ _ _ ⟨start, uninitialized, earlier⟩ last ih

theorem History.reachable {contract : Address} {trace : Trace Address} {final : System Address}
    (history : History contract trace final) : Reachable contract final :=
  ⟨trace, history⟩

theorem Reachable.step {contract : Address} {source target : System Address}
    {action : Action Address} (reachable : Reachable contract source)
    (step : Step contract source action target) : Reachable contract target := by
  rcases reachable with ⟨trace, history⟩
  exact (history.snoc step).reachable

/-- Every transition of a history starts where an earlier history ends. -/
theorem History.of_mem {contract : Address} {trace : Trace Address} {final : System Address}
    (history : History contract trace final)
    {transition : Transition (System Address) (Action Address)}
    (transitionMem : transition ∈ trace) :
    ∃ earlier later,
      trace = earlier ++ transition :: later ∧ History contract earlier transition.source ∧
        Step contract transition.source transition.label transition.target ∧
          Run (Step contract) transition.target later final := by
  rcases history with ⟨start, uninitialized, run⟩
  rcases run.of_mem transitionMem with ⟨earlier, later, traceEq, reaching, step, leaving⟩
  exact ⟨earlier, later, traceEq, ⟨start, uninitialized, reaching⟩, step, leaving⟩

theorem History.append {contract : Address} {earlier later : Trace Address}
    {middle final : System Address} (history : History contract earlier middle)
    (leaving : Run (Step contract) middle later final) :
    History contract (earlier ++ later) final := by
  rcases history with ⟨start, uninitialized, run⟩
  exact ⟨start, uninitialized, run.append leaving⟩

/-- The ways in which a system moves. -/
inductive StepEffect (contract : Address) (source : System Address) :
    Action Address → System Address → Prop where
  | advance {ledger : Ledger} (later : source.ledger.timestamp.val ≤ ledger.timestamp.val)
      (laterSequence : source.ledger.sequence.val ≤ ledger.sequence.val) :
      StepEffect contract source (.advance ledger) { source with ledger := ledger }
  | external {balances : Balances Address}
      (noLoss : ∀ token, source.state.balances token contract ≤ balances token contract) :
      StepEffect contract source (.external balances)
        { source with state := { source.state with balances := balances } }
  | failed {invocation : Invocation Address} {fault : Fault}
      (outcome : invocation.outcome contract source = (.error fault, source.state)) :
      StepEffect contract source (.invoke invocation) source
  | returned {invocation : Invocation Address} {reply : Reply Address} {after : State Address}
      (outcome : invocation.outcome contract source = (.ok reply, after))
      (effect :
        Effect (invocation.env contract source.ledger) source.state invocation.call reply after) :
      StepEffect contract source (.invoke invocation) { source with state := after }

theorem stepEffect_of_step {contract : Address} {source target : System Address}
    {action : Action Address} (step : Step contract source action target) :
    StepEffect contract source action target := by
  rcases step with ⟨allowed, rfl⟩
  cases action with
  | advance ledger => exact .advance allowed.1 allowed.2
  | external balances => exact .external allowed
  | invoke invocation =>
      rcases runEq : invocation.call.run (invocation.env contract source.ledger) source.state with
        ⟨reply, after⟩ | ⟨fault, after⟩
      · have outcome : invocation.outcome contract source = (.ok reply, after) := by
          simp only [Invocation.outcome, runEq]
        simp only [System.next, outcome]
        exact .returned outcome (effect_of_run runEq)
      · have outcome : invocation.outcome contract source = (.error fault, source.state) := by
          simp only [Invocation.outcome, runEq]
        simp only [System.next, outcome]
        exact .failed outcome

theorem Effect.outcome_eq {contract : Address} {source : System Address}
    {invocation : Invocation Address} {reply : Reply Address} {after : State Address}
    (effect :
      Effect (invocation.env contract source.ledger) source.state invocation.call reply after) :
    invocation.outcome contract source = (.ok reply, after) := by
  simp only [Invocation.outcome, effect.run_eq]

/-- An invocation that does not end with a fault permitted by `Fails` returns as required. -/
theorem exists_returned_of_ends {contract : Address} {source : System Address}
    {invocation : Invocation Address} {Returns : Reply Address → State Address → Prop}
    {Fails : Fault → Prop}
    (ends : Ends (invocation.call.run (invocation.env contract source.ledger)) Returns Fails
      source.state)
    (accepted : ∀ fault, Fails fault →
      (invocation.outcome contract source).1 ≠ .error fault) :
    ∃ reply after,
      invocation.outcome contract source = (.ok reply, after) ∧ Returns reply after ∧
        Effect (invocation.env contract source.ledger) source.state invocation.call reply
          after := by
  rcases runEq : invocation.call.run (invocation.env contract source.ledger) source.state with
    ⟨reply, after⟩ | ⟨fault, after⟩
  · refine ⟨reply, after, ?_, ends.of_ok runEq, effect_of_run runEq⟩
    simp only [Invocation.outcome, runEq]
  · have refused : (invocation.outcome contract source).1 ≠ .error fault :=
      accepted fault (ends.of_error runEq)
    simp only [Invocation.outcome, runEq] at refused
    exact absurd rfl refused

/-- An invocation ends with a given fault under exactly the condition that its call does. -/
theorem outcome_eq_error_iff_of_ends {contract : Address} {source : System Address}
    {invocation : Invocation Address} {fault : Fault} {Condition : Prop}
    (ends : Ends (invocation.call.run (invocation.env contract source.ledger))
      (fun _ _ => ¬Condition) (fun other => other = fault ↔ Condition) source.state) :
    (invocation.outcome contract source).1 = .error fault ↔ Condition := by
  unfold Invocation.outcome
  split
  · rename_i reply after runEq
    simpa only [reduceCtorEq, false_iff] using ends.of_ok runEq
  · rename_i other after runEq
    simpa only [Except.error.injEq] using ends.of_error runEq

/-- A failed invocation leaves the state alone. -/
theorem outcome_of_error {contract : Address} {source : System Address}
    {invocation : Invocation Address} {fault : Fault}
    (failed : (invocation.outcome contract source).1 = .error fault) :
    invocation.outcome contract source = (.error fault, source.state) := by
  unfold Invocation.outcome at failed ⊢
  split at failed
  · contradiction
  · cases failed
    rfl

/-- What an invocation returned is the effect of its call. -/
theorem exists_effect_of_outcome {contract : Address} {source : System Address}
    {invocation : Invocation Address} {reply : Reply Address}
    (returned : (invocation.outcome contract source).1 = .ok reply) :
    ∃ after,
      Effect (invocation.env contract source.ledger) source.state invocation.call reply after := by
  unfold Invocation.outcome at returned
  split at returned
  · rename_i other after runEq
    cases returned
    exact ⟨after, effect_of_run runEq⟩
  · contradiction

theorem returnedCall?_of_outcome {contract : Address} {source target : System Address}
    {invocation : Invocation Address} {reply : Reply Address} {after : State Address}
    (outcome : invocation.outcome contract source = (.ok reply, after)) :
    returnedCall? contract ⟨source, .invoke invocation, target⟩ = some invocation.call := by
  simp only [returnedCall?, outcome]

/-- A call that returns was invoked, had its effect, and left the state of that effect. -/
theorem exists_effect_of_returnedCall? {contract : Address}
    {transition : Transition (System Address) (Action Address)} {call : Call Address}
    (step : Step contract transition.source transition.label transition.target)
    (returned : returnedCall? contract transition = some call) :
    ∃ invocation reply,
      transition.label = .invoke invocation ∧ invocation.call = call ∧
        invocation.outcome contract transition.source = (.ok reply, transition.target.state) ∧
          transition.target.ledger = transition.source.ledger ∧
            Effect (invocation.env contract transition.source.ledger) transition.source.state call
              reply transition.target.state := by
  rcases transition with ⟨source, action, target⟩
  change Step contract source action target at step
  cases stepEffect_of_step step with
  | advance later laterSequence => simp [returnedCall?] at returned
  | external noLoss => simp [returnedCall?] at returned
  | failed outcome => simp [returnedCall?, outcome] at returned
  | @returned invocation reply after outcome effect =>
      rw [returnedCall?_of_outcome outcome, Option.some.injEq] at returned
      subst call
      exact ⟨invocation, reply, rfl, rfl, outcome, rfl, effect⟩

end Steps

section Answers

variable [DecidableEq Address] {contract : Address} {system : System Address} {id : U64}

/-- A view answers whatever its weakest precondition singles out. -/
theorem ask_eq_of_ends {view : View} {answer : Except Fault (Reply Address)}
    (ends : ∀ env : Env Address, env.ledger = system.ledger →
      Ends (view.run env) (fun reply _ => .ok reply = answer) (fun fault => .error fault = answer)
        system.state) :
    system.ask contract view = answer := by
  simp only [System.ask, Invocation.outcome, Call.run]
  split
  · rename_i reply after runEq
    exact (ends _ rfl).of_ok runEq
  · rename_i fault after runEq
    exact (ends _ rfl).of_error runEq

theorem ask_streamedAmount_eq_ok_iff {amount : I128} :
    system.ask contract (.streamedAmount id) = .ok (.i128 amount) ↔
      ∃ stream,
        system.state.streams.lookup id = some stream ∧
          Vesting.vested stream system.ledger.timestamp = .ok amount := by
  have ran {after : State Address} {env : Env Address} :
      (View.streamedAmount id).run env system.state = .ok (.i128 amount) after ↔
        ∃ stream, system.state.streams.lookup id = some stream ∧
          Vesting.vested stream env.ledger.timestamp = .ok amount ∧ after = system.state := by
    simp [View.run, Computation.map_eq_ok_iff, streamedAmount_eq_ok_iff]
  constructor
  · intro answered
    simp only [System.ask, Invocation.outcome, Call.run] at answered
    split at answered
    · rename_i reply after runEq
      cases answered
      rcases ran.mp runEq with ⟨stream, stored, vestedEq, _⟩
      exact ⟨stream, stored, vestedEq⟩
    · contradiction
  · rintro ⟨stream, stored, vestedEq⟩
    simp only [System.ask, Invocation.outcome, Call.run]
    rw [ran.mpr ⟨stream, stored, vestedEq, rfl⟩]

end Answers

/-- Executing allowed actions from an uninitialized state is a history. -/
theorem history_execute [DecidableEq Address] {contract : Address} {start : System Address}
    {actions : List (Action Address)} (uninitialized : start.state.Uninitialized contract)
    (allowed : AllAllowed (System.next contract) (System.Allowed contract) start actions) :
    History contract (execute (System.next contract) start actions)
      (actions.foldl (System.next contract) start) :=
  ⟨start, uninitialized, run_execute allowed⟩

namespace Sample

inductive Party where
  | contract
  | token
  | admin
  | alice
  | bob
  | carol
  | dave
deriving DecidableEq

instance : Fintype Party where
  elems := {.contract, .token, .admin, .alice, .bob, .carol, .dave}
  complete := by
    intro party
    cases party <;> decide

def time (timestamp : ℕ) : U64 :=
  BoundedInt.wrap u64_nonempty timestamp

def units (amount : ℕ) : I128 :=
  BoundedInt.wrap i128_nonempty amount

def ledgerAt (timestamp : U64) : Ledger where
  timestamp := timestamp
  sequence := 0
  minPersistentEntryTtl := 1

/-- Nothing is stored, and the two senders own some tokens. -/
def start : System Party where
  ledger := ledgerAt (time 0)
  state :=
    { admin := none
      token := none
      counter := none
      pendingAdmin := none
      adminActionExecuteAfter := none
      totalSupply := none
      supplyCap := none
      instanceLiveUntil := 0
      streams := ∅
      streamLiveUntil := fun _ => 0
      wasmHash := none
      balances := fun _ holder => if holder = .alice ∨ holder = .carol then 5000 else 0
      transfers := []
      events := [] }

theorem start_uninitialized : start.state.Uninitialized Party.contract :=
  ⟨rfl, rfl, rfl, rfl, rfl, rfl, rfl, rfl, rfl, rfl, fun _ => le_rfl⟩

/-- A call authorized by `caller` alone; the token checks that the source can pay. -/
def callBy (caller : Party) (call : Call Party) : Action Party :=
  .invoke
    { authorized := fun party => decide (party = caller)
      transferAccepted := fun balances asset source _ amount =>
        decide (amount.val ≤ balances asset source)
      call := call }

def advanceTo (timestamp : U64) : Action Party :=
  .advance (ledgerAt timestamp)

/-- Two funded streams, one of which is withdrawn from. -/
def withdrawing : List (Action Party) :=
  [callBy .admin (.initializeContract .admin .token),
    advanceTo (time 100),
    callBy .alice (.createStream .alice .bob (units 1000) 0 (time 200)),
    callBy .carol (.createStream .carol .dave (units 1000) 0 (time 200)),
    advanceTo (time 150),
    callBy .bob (.withdraw 0 .bob)]

def final (actions : List (Action Party)) : System Party :=
  actions.foldl (System.next .contract) start

def trace (actions : List (Action Party)) : Trace Party :=
  execute (System.next .contract) start actions

/-- The last transition when `action` follows `actions`. -/
def transition (actions : List (Action Party)) (action : Action Party) :
    Transition (System Party) (Action Party) :=
  ⟨final actions, action, (final actions).next .contract action⟩

theorem transition_mem (actions : List (Action Party)) (action : Action Party) :
    transition actions action ∈ trace (actions ++ [action]) := by
  rw [trace, execute_append]
  exact List.mem_append_right _ List.mem_cons_self

theorem history {actions : List (Action Party)}
    (allowed : AllAllowed (System.next .contract) (System.Allowed .contract) start actions) :
    History .contract (trace actions) (final actions) :=
  history_execute start_uninitialized allowed

end Sample

end StreamPay
