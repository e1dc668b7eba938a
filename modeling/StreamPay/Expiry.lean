import StreamPay.Safety
import StreamPay.Shown

/-!
# Calls on expired entries

An entry of the ledger cannot be used once it has expired.  The host runs no call of a
contract whose instance entry has expired, and it aborts a call that comes to read a
stream whose entry has expired.  The contract does not observe this, so it is not part
of the entry points, but it decides what their callers get.

This file adds it to the steps of a system.  The code of the contract is taken to be
available as long as the instance entry is.  An expired entry stays unusable here; on
the network it can be restored from the archive, which no entry point does.
-/

namespace StreamPay

open Foundation Foundation.Computation

variable {Address : Type}

def System.InstanceAlive (system : System Address) : Prop :=
  system.ledger.sequence.val ≤ system.state.instanceLiveUntil

/-- The entry of a stream has not expired.  A stream that is not stored has none. -/
def System.StreamAlive (system : System Address) (id : U64) : Prop :=
  id ∈ system.state.streams → system.ledger.sequence.val ≤ system.state.streamLiveUntil id

/-- The stream that an invocation reads, if it passes the checks that come before. -/
def Invocation.reads? (invocation : Invocation Address) : Option U64 :=
  match invocation.call with
  | .topUp id sender amount =>
      if invocation.authorized sender && isValidAmount amount then some id else none
  | .extendStream id sender _ => if invocation.authorized sender then some id else none
  | .withdraw id recipient => if invocation.authorized recipient then some id else none
  | .cancel id caller => if invocation.authorized caller then some id else none
  | .query view => view.stream?
  | _ => none

/-- The entries that an invocation needs are alive. -/
def System.Serves (system : System Address) (invocation : Invocation Address) : Prop :=
  system.InstanceAlive ∧ ∀ id ∈ invocation.reads?, system.StreamAlive id

instance (system : System Address) : Decidable system.InstanceAlive :=
  inferInstanceAs (Decidable (_ ≤ _))

instance (system : System Address) : DecidablePred system.StreamAlive := fun _ =>
  inferInstanceAs (Decidable (_ → _))

instance (system : System Address) : DecidablePred system.Serves := fun _ =>
  inferInstanceAs (Decidable (_ ∧ _))

theorem Invocation.stream?_of_reads? {invocation : Invocation Address} {id : U64}
    (reads : invocation.reads? = some id) : invocation.call.stream? = some id := by
  rcases invocation with ⟨authorized, transferAccepted, call⟩
  cases call with
  | query view => exact reads
  | _ => simp_all [Invocation.reads?, Call.stream?, Call.target]

section Lifetimes

variable {first second : System Address} {invocation : Invocation Address} {extent : Extent}
  {id : U64}

/-- Lifetimes of stored streams are shown, unless nothing but values is. -/
theorem System.SameShown.streamAlive_iff (same : first.SameShown extent second)
    (withLifetimes : extent ≠ .values) : first.StreamAlive id ↔ second.StreamAlive id := by
  have sameAnswer := same.2.read_eq
    (fun state => id ∈ state.streams → first.ledger.sequence.val ≤ state.streamLiveUntil id)
    fun state => by
      cases extent with
      | values => contradiction
      | entries => simp +contextual [State.shown, Extent.streamLifetimes]
      | history => rfl
  rw [System.StreamAlive, System.StreamAlive, ← same.1]
  exact iff_of_eq sameAnswer

/-- What is shown but the lifetime of the instance entry decides whether a call is run. -/
theorem System.SameShown.serves_iff (same : first.SameShown extent second)
    (withLifetimes : extent ≠ .values)
    (sameInstance : first.InstanceAlive ↔ second.InstanceAlive) :
    first.Serves invocation ↔ second.Serves invocation :=
  and_congr sameInstance (forall₂_congr fun _ _ => same.streamAlive_iff withLifetimes)

end Lifetimes

variable [DecidableEq Address]

/-- What the caller gets: the result of the call, unless the host does not run it. -/
def Invocation.answer (invocation : Invocation Address) (contract : Address)
    (system : System Address) : Option (Except Fault (Reply Address)) :=
  if system.Serves invocation then some (invocation.outcome contract system).1 else none

/-- A step with a host that runs no call on expired entries. -/
def System.serve (contract : Address) (system : System Address) : Action Address → System Address
  | .invoke invocation =>
      if system.Serves invocation then system.next contract (.invoke invocation) else system
  | action => system.next contract action

/-- What the caller of a call gets. -/
def answer? (contract : Address) (transition : Transition (System Address) (Action Address)) :
    Option (Option (Except Fault (Reply Address))) :=
  match transition.label with
  | .invoke invocation => some (invocation.answer contract transition.source)
  | .advance _ | .external _ => none

section Serving

variable {contract : Address} {system : System Address} {invocation : Invocation Address}
  {action : Action Address} {id : U64}

theorem answer_of_serves (serves : system.Serves invocation) :
    invocation.answer contract system = some (invocation.outcome contract system).1 :=
  if_pos serves

theorem answer_of_not_serves (expired : ¬system.Serves invocation) :
    invocation.answer contract system = none :=
  if_neg expired

theorem serve_of_serves (serves : system.Serves invocation) :
    system.serve contract (.invoke invocation) = system.next contract (.invoke invocation) :=
  if_pos serves

theorem serve_of_not_serves (expired : ¬system.Serves invocation) :
    system.serve contract (.invoke invocation) = system :=
  if_neg expired

theorem serve_eq_or (contract : Address) (system : System Address) (action : Action Address) :
    system.serve contract action = system.next contract action ∨
      system.serve contract action = system := by
  cases action with
  | advance ledger => exact .inl rfl
  | external balances => exact .inl rfl
  | invoke invocation =>
      by_cases serves : system.Serves invocation
      · exact .inl (serve_of_serves serves)
      · exact .inr (serve_of_not_serves serves)

/-- A host that refuses some calls reaches nothing that one which runs all calls does not. -/
theorem Reachable.serve (reachable : Reachable contract system)
    (allowed : system.Allowed contract action) :
    Reachable contract (system.serve contract action) := by
  have step : Step contract system action (system.next contract action) := ⟨allowed, rfl⟩
  rcases serve_eq_or contract system action with served | left
  · rw [served]
    exact reachable.step step
  · rw [left]
    exact reachable

@[simp]
theorem serve_invoke_ledger :
    (system.serve contract (.invoke invocation)).ledger = system.ledger := by
  rcases serve_eq_or contract system (.invoke invocation) with served | left
  · rw [served]
    rfl
  · rw [left]

/-- A call that reads a stream is one that notices if the stream is missing. -/
theorem streamNotFound_iff_reads (about : invocation.call.stream? = some id)
    (missing : system.state.streams.lookup id = none) :
    (invocation.outcome contract system).1 = .error (.error .streamNotFound) ↔
      invocation.reads? = some id := by
  apply outcome_eq_error_iff_of_ends
  rcases invocation with ⟨authorized, transferAccepted, call⟩
  cases call with
  | topUp target sender amount =>
      cases about
      cases valid : isValidAmount amount with
      | false => simp [Call.run, topUp, valid, Invocation.reads?, Invocation.env]
      | true => simp [Call.run, topUp, valid, missing, Invocation.reads?, Invocation.env]
  | extendStream target sender newEnd =>
      cases about
      simp [Call.run, extendStream, missing, Invocation.reads?, Invocation.env]
  | withdraw target recipient =>
      cases about
      simp [Call.run, withdraw, missing, Invocation.reads?, Invocation.env]
  | cancel target caller =>
      cases about
      simp [Call.run, cancel, missing, Invocation.reads?, Invocation.env]
  | query view =>
      have notFound {Result : Type} {rest : Stream Address → Contract Address Result}
          {toReply : Result → Reply Address} {Reads : Prop} (reads : Reads) :
          Ends (toReply <$> (getStream id >>= rest)) (fun _ _ => ¬Reads)
            (fun other => other = .error .streamNotFound ↔ Reads) system.state := by
        simp [missing, reads]
      cases view <;> cases about
      case query.getStream.refl =>
        simp [Call.run, View.run, missing, Invocation.reads?, View.stream?]
      all_goals exact notFound rfl
  | _ => simp [Call.stream?, Call.target] at about

end Serving

section Comparing

variable {contract : Address} {first second : System Address} {invocation : Invocation Address}
  {extent : Extent}

/-- A call that is run in both systems or in none is answered alike in related states. -/
theorem answer_eq_or_excused {Related : State Address → State Address → Prop}
    {Excused : Fault → Prop} (sameLedger : first.ledger = second.ledger)
    (same : Related first.state second.state)
    (servesIff : first.Serves invocation ↔ second.Serves invocation)
    (unaffected : Unaffected Related Excused
      (invocation.call.run (invocation.env contract first.ledger))) :
    (invocation.answer contract first = invocation.answer contract second ∧
        Related (first.serve contract (.invoke invocation)).state
          (second.serve contract (.invoke invocation)).state) ∨
      ∃ fault, Excused fault ∧ (invocation.answer contract first = some (.error fault) ∨
        invocation.answer contract second = some (.error fault)) := by
  by_cases serves : first.Serves invocation
  · have otherServes := servesIff.mp serves
    rw [serve_of_serves serves, serve_of_serves otherServes, answer_of_serves serves,
      answer_of_serves otherServes]
    rcases outcome_eq_or_excused sameLedger same unaffected with
      ⟨sameResult, sameAfter⟩ | ⟨fault, excused, failed⟩
    · exact .inl ⟨congrArg some sameResult, sameAfter⟩
    · exact .inr ⟨fault, excused, failed.imp (congrArg some) (congrArg some)⟩
  · have otherExpired := fun otherServes => serves (servesIff.mpr otherServes)
    rw [serve_of_not_serves serves, serve_of_not_serves otherExpired,
      answer_of_not_serves serves, answer_of_not_serves otherExpired]
    exact .inl ⟨rfl, same⟩

/-- A call that is run in both systems or in none does the same where the same is shown. -/
theorem System.SameShown.serve (same : first.SameShown extent second)
    (servesIff : first.Serves invocation ↔ second.Serves invocation) :
    invocation.answer contract first = invocation.answer contract second ∧
      (first.serve contract (.invoke invocation)).SameShown extent
        (second.serve contract (.invoke invocation)) := by
  have unaffected : Unaffected (State.SameShown extent) (fun _ => False)
      (invocation.call.run (invocation.env contract first.ledger)) :=
    hostRules_sameShown.unaffected_call invocation.call
  rcases answer_eq_or_excused same.1 same.2 servesIff unaffected with
    ⟨sameAnswer, sameAfter⟩ | ⟨fault, excused, _⟩
  · refine ⟨sameAnswer, ?_, sameAfter⟩
    rw [serve_invoke_ledger, serve_invoke_ledger, same.1]
  · contradiction

end Comparing

end StreamPay
