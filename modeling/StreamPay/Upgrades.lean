import StreamPay.Expiry
import StreamPay.Foundation.Observation
import StreamPay.Governance

/-!
# Upgrades keep the storage

The runs of the other files have no upgrades, because nothing is known about the
code that they install.  This file adds upgrades to code that behaves alike, as
after a repair of something that the model does not see.  They go unnoticed: with
and without them every call has the same result, and both runs end with the same
records, keys, balances and transfers.

What is compared is everything but what an upgrade writes: the code itself, the
lifetime of the instance entry, and the events about upgrades.  That lifetime can be
noticed, since no call is run once the instance entry has expired and an upgrade may
have renewed it.  Runs in which a call finds it expired are therefore set aside.
-/

namespace StreamPay

open Foundation Foundation.Computation

variable {Address : Type}

/-- The state after an upgrade, which is discarded if it fails. -/
def State.afterUpgrade (state : State Address) (env : Env Address) (newWasmHash : BitVec 256) :
    State Address :=
  match StreamPay.upgrade env newWasmHash state with
  | .ok _ after => after
  | .error _ _ => state

/-- The code that an upgrade installs: what the administrator authorizes, if it is uploaded. -/
def State.installs (state : State Address) (authorized : Address → Bool)
    (uploaded : BitVec 256 → Bool) (newWasmHash : BitVec 256) : Option (BitVec 256) :=
  state.admin.bind fun admin =>
    if authorized admin && uploaded newWasmHash then some newWasmHash else none

section Upgrade

variable {state before after : State Address} {env : Env Address}
  {newWasmHash code : BitVec 256}

theorem updateCurrentContractWasm_eq_ok_iff {result : Unit} :
    updateCurrentContractWasm env newWasmHash before = .ok result after ↔
      env.uploaded newWasmHash = true ∧ after = before.setWasmHash newWasmHash := by
  cases isUploaded : env.uploaded newWasmHash with
  | false => simp [updateCurrentContractWasm, isUploaded, throw_ne_ok]
  | true => simp [updateCurrentContractWasm, isUploaded, modify_eq_ok_iff]

theorem upgrade_eq_ok_iff :
    upgrade env newWasmHash before = .ok () after ↔
      before.installs env.authorized env.uploaded newWasmHash = some newWasmHash ∧
        after =
          ((before.setWasmHash newWasmHash).touchInstance env.ledger).publish
            (.upgraded newWasmHash) := by
  simp only [upgrade, extendInstance, contractUpgraded, publish, bind_eq_ok_iff,
    requireInitialized_eq_ok_iff, requireAuth_eq_ok_iff, readAdmin_eq_ok_iff, modify_eq_ok_iff,
    updateCurrentContractWasm_eq_ok_iff, and_assoc, exists_and_left, exists_eq_left, exists_const]
  cases isAdmin : before.admin with
  | none => simp [State.installs, isAdmin]
  | some admin => simp [State.installs, isAdmin, and_assoc]

/-- An attempt that installs nothing changes nothing. -/
theorem afterUpgrade_of_refused
    (refused : state.installs env.authorized env.uploaded newWasmHash = none) :
    state.afterUpgrade env newWasmHash = state := by
  rcases runEq : upgrade env newWasmHash state with ⟨result, after⟩ | ⟨fault, after⟩
  · rw [(upgrade_eq_ok_iff.mp runEq).1] at refused
    contradiction
  · simp only [State.afterUpgrade, runEq]

theorem afterUpgrade_of_installs
    (installs : state.installs env.authorized env.uploaded newWasmHash = some code) :
    state.afterUpgrade env newWasmHash =
      ((state.setWasmHash code).touchInstance env.ledger).publish (.upgraded code) := by
  have same : newWasmHash = code := by
    rcases Option.bind_eq_some_iff.mp installs with ⟨admin, _, chosen⟩
    simp at chosen
    exact chosen.2
  subst newWasmHash
  have runEq := upgrade_eq_ok_iff.mpr ⟨installs, rfl⟩
  simp only [State.afterUpgrade, runEq]

theorem afterUpgrade_sameShown :
    (state.afterUpgrade env newWasmHash).SameShown .history state := by
  cases installs : state.installs env.authorized env.uploaded newWasmHash with
  | none => rw [afterUpgrade_of_refused installs, State.SameShown]
  | some code =>
      have logged : (state.events ++ [Event.upgraded code]).filter (·.installed?.isNone) =
          state.events.filter (·.installed?.isNone) := by
        simp [Event.installed?]
      rw [afterUpgrade_of_installs installs]
      exact congrArg (fun events : List (Event Address) =>
        { state with wasmHash := none, instanceLiveUntil := 0, events := events }) logged

end Upgrade

/-- An action, or an upgrade with the authorizations and the uploads that it comes upon. -/
inductive Happening (Address : Type) where
  | action (action : Action Address)
  | upgrade (authorized : Address → Bool) (uploaded : BitVec 256 → Bool)
      (newWasmHash : BitVec 256)

/-- Everything but upgrades. -/
def Happening.isAction : Happening Address → Bool
  | .action _ => true
  | .upgrade .. => false

/-- The environment of an upgrade, in which nothing is transferred. -/
def upgradeEnv (contract : Address) (ledger : Ledger) (authorized : Address → Bool)
    (uploaded : BitVec 256 → Bool) : Env Address where
  ledger := ledger
  currentContractAddress := contract
  authorized := authorized
  transferAccepted := fun _ _ _ _ _ => false
  uploaded := uploaded

/-- The code that is installed by what happens.  An upgrade needs the instance entry as well. -/
def installed? (transition : Transition (System Address) (Happening Address)) :
    Option (BitVec 256) :=
  match transition.label with
  | .action _ => none
  | .upgrade authorized uploaded newWasmHash =>
      if transition.source.InstanceAlive then
        transition.source.state.installs authorized uploaded newWasmHash
      else
        none

/-- A call that finds the instance entry expired. -/
def findsExpired (transition : Transition (System Address) (Happening Address)) : Bool :=
  match transition.label with
  | .action (.invoke _) => decide ¬transition.source.InstanceAlive
  | _ => false

variable [DecidableEq Address]

def System.happen (contract : Address) (system : System Address) :
    Happening Address → System Address
  | .action action => system.serve contract action
  | .upgrade authorized uploaded newWasmHash =>
      if system.InstanceAlive then
        { system with
          state := system.state.afterUpgrade
            (upgradeEnv contract system.ledger authorized uploaded) newWasmHash }
      else
        system

/-- No call finds the instance entry expired. -/
def InstanceFound (contract : Address) (start : System Address)
    (happenings : List (Happening Address)) : Prop :=
  ∀ transition ∈ execute (System.happen contract) start happenings,
    findsExpired transition = false

/-- What the caller gets, if a call is what happens. -/
def callAnswer? (contract : Address)
    (transition : Transition (System Address) (Happening Address)) :
    Option (Option (Except Fault (Reply Address))) :=
  match transition.label with
  | .action action => answer? contract (taken (System.serve contract) transition.source action)
  | .upgrade .. => none

section Steps

variable {contract : Address} {before after : State Address} {env : Env Address}
  {call : Call Address} {reply : Reply Address} {system : System Address}
  {action : Action Address}

theorem Effect.wasmHash_eq (effect : Effect env before call reply after) :
    after.wasmHash = before.wasmHash := by
  cases effect <;> simp

/-- No call announces an upgrade. -/
theorem Effect.announces_no_upgrade (effect : Effect env before call reply after) :
    (call.announcement env.ledger.timestamp before reply).filterMap Event.installed? = [] := by
  have streams (onStreams : call.escrows = true ∨ call.settles = true) :
      (call.announcement env.ledger.timestamp before reply).filterMap Event.installed? = [] := by
    rw [List.filterMap_eq_nil_iff]
    intro event eventMem
    rcases effect.announces_streams onStreams event eventMem with ⟨id, about⟩
    cases event with
    | upgraded => contradiction
    | _ => rfl
  cases effect with
  | initializeContract => rfl
  | scheduleAdminTransfer => rfl
  | executeAdminTransfer isAdmin pending =>
      simp [Call.announcement, isAdmin, pending, Event.installed?]
  | cancelAdminTransfer => rfl
  | setAdmin isAdmin => simp [Call.announcement, isAdmin, Event.installed?]
  | setSupplyCap isAdmin => simp [Call.announcement, isAdmin, Event.installed?]
  | createStream => exact streams (.inl rfl)
  | createStreamBatch => exact streams (.inl rfl)
  | topUp => exact streams (.inl rfl)
  | extendStream => exact streams (.inr rfl)
  | withdraw => exact streams (.inr rfl)
  | cancel => exact streams (.inr rfl)
  | query => rfl

/-- An action neither installs code nor logs that it has been installed. -/
theorem next_keeps_code :
    (system.next contract action).state.wasmHash = system.state.wasmHash ∧
      (system.next contract action).state.events.filterMap Event.installed? =
        system.state.events.filterMap Event.installed? := by
  cases action with
  | advance ledger => exact ⟨rfl, rfl⟩
  | external balances => exact ⟨rfl, rfl⟩
  | invoke invocation =>
      rcases runEq : invocation.call.run (invocation.env contract system.ledger) system.state with
        ⟨reply, after⟩ | ⟨fault, after⟩
      · have effect := effect_of_run runEq
        have events : after.events.filterMap Event.installed? =
            system.state.events.filterMap Event.installed? := by
          rw [effect.events_eq, List.filterMap_append, effect.announces_no_upgrade,
            List.append_nil]
        simp only [System.next, Invocation.outcome, runEq]
        exact ⟨effect.wasmHash_eq, events⟩
      · simp only [System.next, Invocation.outcome, runEq, and_self]

/-- Neither does the host by not running a call. -/
theorem serve_keeps_code :
    (system.serve contract action).state.wasmHash = system.state.wasmHash ∧
      (system.serve contract action).state.events.filterMap Event.installed? =
        system.state.events.filterMap Event.installed? := by
  rcases serve_eq_or contract system action with served | left
  · rw [served]
    exact next_keeps_code
  · rw [left]
    exact ⟨rfl, rfl⟩

variable {first second : System Address} {happening : Happening Address}

/-- Upgrades are unnoticed by callers. -/
theorem upgrades_unnoticed_by_calls :
    Unnoticed (System.happen contract) (callAnswer? contract) Happening.isAction
      (fun transition => findsExpired transition = false)
      (fun transition => findsExpired transition = false) (System.SameShown .history) where
  kept first second happening same isAction found otherFound := by
    cases happening with
    | action action =>
        cases action with
        | advance ledger => exact ⟨rfl, same.next contract (.advance ledger)⟩
        | external balances => exact ⟨rfl, same.next contract (.external balances)⟩
        | invoke invocation =>
            have alive : first.InstanceAlive := not_not.mp (of_decide_eq_false found)
            have otherAlive : second.InstanceAlive := not_not.mp (of_decide_eq_false otherFound)
            have servesIff : first.Serves invocation ↔ second.Serves invocation :=
              same.serves_iff (by decide) (iff_of_true alive otherAlive)
            rcases same.serve servesIff with ⟨sameAnswer, sameAfter⟩
            exact ⟨congrArg some sameAnswer, sameAfter⟩
    | upgrade authorized uploaded newWasmHash => contradiction
  leftOut first second happening same isUpgrade _ := by
    cases happening with
    | action action => contradiction
    | upgrade authorized uploaded newWasmHash =>
        refine ⟨rfl, ?_⟩
        by_cases alive : first.InstanceAlive
        · simp only [System.happen, if_pos alive]
          exact ⟨same.1, afterUpgrade_sameShown.trans same.2⟩
        · simp only [System.happen, if_neg alive]
          exact same

/-- What happens installs the code that it shows to be installed. -/
theorem happen_wasmHash :
    (system.happen contract happening).state.wasmHash =
      (installed? (taken (System.happen contract) system happening)).or system.state.wasmHash := by
  cases happening with
  | action action => exact serve_keeps_code.1
  | upgrade authorized uploaded newWasmHash =>
      by_cases alive : system.InstanceAlive
      · simp only [System.happen, installed?, taken, if_pos alive]
        cases installs : system.state.installs authorized uploaded newWasmHash with
        | none => rw [afterUpgrade_of_refused installs, Option.none_or]
        | some code => rw [afterUpgrade_of_installs installs]; rfl
      · simp only [System.happen, installed?, taken, if_neg alive, Option.none_or]

/-- What happens logs the code that it installs. -/
theorem happen_log :
    (system.happen contract happening).state.events.filterMap Event.installed? =
      system.state.events.filterMap Event.installed? ++
        (installed? (taken (System.happen contract) system happening)).toList := by
  cases happening with
  | action action => exact serve_keeps_code.2.trans (List.append_nil _).symm
  | upgrade authorized uploaded newWasmHash =>
      by_cases alive : system.InstanceAlive
      · simp only [System.happen, installed?, taken, if_pos alive]
        cases installs : system.state.installs authorized uploaded newWasmHash with
        | none => rw [afterUpgrade_of_refused installs, Option.toList_none, List.append_nil]
        | some code =>
            rw [afterUpgrade_of_installs installs, State.publish_events, List.filterMap_append]
            rfl
      · simp only [System.happen, installed?, taken, if_neg alive, Option.toList_none,
          List.append_nil]

end Steps

/-- Upgrades leave no trace but the code itself and its log. -/
structure UpgradesUnnoticed (contract : Address) (start : System Address)
    (happenings : List (Happening Address)) : Prop where
  answers : observations (System.happen contract) (callAnswer? contract) start happenings =
    observations (System.happen contract) (callAnswer? contract) start
      (happenings.filter Happening.isAction)
  final : (happenings.foldl (System.happen contract) start).SameShown .history
    ((happenings.filter Happening.isAction).foldl (System.happen contract) start)
  code : (happenings.foldl (System.happen contract) start).state.wasmHash =
    (observations (System.happen contract) installed? start happenings).getLast?.or
      start.state.wasmHash
  log : (happenings.foldl (System.happen contract) start).state.events.filterMap
      Event.installed? =
    start.state.events.filterMap Event.installed? ++
      observations (System.happen contract) installed? start happenings

/--
In a run with upgrades to code that behaves alike, every call has the same result
as in the run without them, and both runs end with the same records, keys, balances
and transfers, and the same log of everything else, provided that in neither run a call
finds the instance entry expired.  The code is that of the last attempt which found the
instance entry alive, the administrator of that moment consenting, and the code
uploaded; the log names each of these upgrades, and all other attempts change nothing.
-/
theorem upgrades_unnoticed {contract : Address} {start : System Address}
    {happenings : List (Happening Address)} (found : InstanceFound contract start happenings)
    (otherFound : InstanceFound contract start (happenings.filter Happening.isAction)) :
    UpgradesUnnoticed contract start happenings := by
  have same : start.SameShown .history start := ⟨rfl, rfl⟩
  rcases upgrades_unnoticed_by_calls.observations_eq happenings same found otherFound with
    ⟨answers, final⟩
  refine ⟨answers, final, ?_, ?_⟩
  · exact register_eq_getLast? (fun system : System Address => system.state.wasmHash)
      fun system happening => happen_wasmHash
  · exact log_eq_observations
      (fun system : System Address => system.state.events.filterMap Event.installed?)
      fun system happening => happen_log

namespace Sample

/-- Only the code 7 is uploaded. -/
def uploaded (newWasmHash : BitVec 256) : Bool :=
  newWasmHash = 7

def upgradeBy (caller : Party) (newWasmHash : BitVec 256) : Happening Party :=
  .upgrade (fun party => decide (party = caller)) uploaded newWasmHash

/-- Of three attempts, one is not authorized and another one names code that is missing. -/
def upgrading : List (Happening Party) :=
  [.action (callBy .admin (.initializeContract .admin .token)),
    upgradeBy .alice 7,
    .action (callBy .alice (.createStream .alice .bob (units 1000) 0 (time 200))),
    upgradeBy .admin 7,
    .action (advanceTo (time 100)),
    upgradeBy .admin 8,
    .action (callBy .bob (.withdraw 0 .bob))]

end Sample

/-- The theorem applies to a run with an upgrade and two failed attempts. -/
theorem upgrades_unnoticed_upgrading :
    UpgradesUnnoticed .contract Sample.start Sample.upgrading :=
  upgrades_unnoticed (by unfold InstanceFound; decide) (by unfold InstanceFound; decide)

/-- The code of the one upgrade is installed. -/
example : (Sample.upgrading.foldl (System.happen .contract) Sample.start).state.wasmHash =
    some 7 := by
  decide

end StreamPay
