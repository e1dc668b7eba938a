import StreamPay.BatchOutcome
import StreamPay.EventLog
import StreamPay.Foundation.Accounting
import StreamPay.Persistence
import StreamPay.Supply

/-!
# The log is a transcript of the calls

Every call that returns announces what it has done, and nothing else writes to the
log.  This file says what a call announces, given its reply and the state in which
it was made, and shows that the log of a run is the concatenation of these
announcements in the order of the calls.

New streams are announced under consecutive ids, so that the `created` events of a
run count from zero to the counter.
-/

namespace StreamPay

open Foundation

variable {Address : Type}

/-- The events of a call that returns `reply`. -/
def Call.announcement (now : U64) (before : State Address) :
    Call Address → Reply Address → List (Event Address)
  | .scheduleAdminTransfer admin newAdmin, .u64 executeAfter =>
      [.adminScheduled admin newAdmin executeAfter]
  | .executeAdminTransfer, _ =>
      (Option.map₂ Event.adminTransfer before.admin before.pendingAdmin).toList
  | .cancelAdminTransfer admin, _ => [.adminCancelled admin]
  | .setAdmin newAdmin, _ =>
      (before.admin.map fun currentAdmin => Event.adminSet currentAdmin newAdmin).toList
  | .setSupplyCap newCap, _ =>
      (before.admin.map fun admin =>
        Event.capadmin admin (before.supplyCap.getD I128.max) newCap).toList
  | .createStream sender recipient totalAmount _ _, .u64 id =>
      [.created id sender recipient totalAmount]
  | .createStreamBatch sender requests, .ids ids =>
      List.zipWith (fun id request => .created id sender request.recipient request.totalAmount) ids
        requests.toList
  | .topUp id sender amount, .i128 newTotal => [.toppedup id sender amount newTotal]
  | .extendStream id sender newEnd, _ =>
      ((before.streams.lookup id).map fun stream =>
        Event.extended id sender stream.end newEnd).toList
  | .withdraw id recipient, .i128 amount => [.withdrawn id recipient amount]
  | .cancel id caller, _ =>
      (((before.streams.lookup id).bind (cancelAmounts · now)).map
        fun (recipientPaid, senderRefund) =>
          Event.cancelled id caller senderRefund recipientPaid).toList
  | _, _ => []

variable [DecidableEq Address]

/-- A call that returns appends its announcement to the log. -/
theorem Effect.events_eq {env : Env Address} {before after : State Address} {call : Call Address}
    {reply : Reply Address} (effect : Effect env before call reply after) :
    after.events = before.events ++ call.announcement env.ledger.timestamp before reply := by
  cases effect with
  | initializeContract fresh => exact (List.append_nil _).symm
  | scheduleAdminTransfer isAdmin authorized differs executeAfterEq => rfl
  | executeAdminTransfer isAdmin pending deadline matured =>
      simp [Call.announcement, isAdmin, pending]
  | cancelAdminTransfer isAdmin authorized pending => rfl
  | setAdmin isAdmin authorized => simp [Call.announcement, isAdmin]
  | setSupplyCap isAdmin authorized capPos => simp [Call.announcement, isAdmin]
  | createStream checks => exact published_of_silent (by simp)
  | createStreamBatch checks =>
      rw [State.touchInstance_events, State.setCounter_events, openAll_events,
        createdFrom_eq_zipWith]
      rfl
  | topUp checks => exact published_of_silent (by simp)
  | extendStream checks => simp [Call.announcement, checks.stored]
  | withdraw checks => exact published_of_silent (by simp)
  | cancel checks =>
      simp [Call.announcement, checks.stored, cancelAmounts_of_checks checks]
  | query returned => exact (List.append_nil _).symm

/-- The events of a transition: those of the call that returns in it. -/
def announcement (contract : Address)
    (transition : Transition (System Address) (Action Address)) : List (Event Address) :=
  match transition.label with
  | .invoke invocation =>
      match (invocation.outcome contract transition.source).1 with
      | .ok reply =>
          invocation.call.announcement transition.source.ledger.timestamp transition.source.state
            reply
      | .error _ => []
  | .advance _ | .external _ => []

variable {contract : Address} {source target start final : System Address}
  {action : Action Address} {trace : Trace Address}

theorem Step.events_eq (step : Step contract source action target) :
    target.state.events =
      source.state.events ++ announcement contract ⟨source, action, target⟩ := by
  cases stepEffect_of_step step with
  | advance later laterSequence => exact (List.append_nil _).symm
  | external noLoss => exact (List.append_nil _).symm
  | failed outcome =>
      simp only [announcement, outcome]
      exact (List.append_nil _).symm
  | returned outcome effect =>
      simp only [announcement, outcome]
      exact effect.events_eq

theorem events_eq_of_run (run : Run (Step contract) start trace final) :
    final.state.events = start.state.events ++ trace.flatMap (announcement contract) := by
  apply run.log_eq_flatMap (fun system => system.state.events)
  intro transition transitionMem
  rcases run.of_mem transitionMem with ⟨_, _, _, _, step, _⟩
  exact step.events_eq

/--
The log of a run is the concatenation, in the order of the calls, of what the
calls that return announce: failed calls, views, the initialization and all that
happens outside the contract leave nothing in it.
-/
theorem log_eq_announcements (history : History contract trace final) :
    final.state.events = trace.flatMap (announcement contract) := by
  rcases history with ⟨start, uninitialized, run⟩
  rw [events_eq_of_run run, uninitialized.events, List.nil_append]

/-- The theorem applies to a run with every kind of event about a stream. -/
theorem log_eq_announcements_announcing :
    (Sample.final Sample.announcing).state.events =
      (Sample.trace Sample.announcing).flatMap (announcement .contract) :=
  log_eq_announcements (Sample.history (by decide))

/-- The id of a `created` event. -/
def Event.createdId? : Event Address → Option U64
  | .created id .. => some id
  | _ => none

/-- The ids that a call gives out when it returns `reply`. -/
def Call.issued : Call Address → Reply Address → List U64
  | .createStream .., .u64 id => [id]
  | .createStreamBatch .., .ids ids => ids
  | _, _ => []

/-- The ids given out in a transition. -/
def issued (contract : Address)
    (transition : Transition (System Address) (Action Address)) : List U64 :=
  match transition.label with
  | .invoke invocation =>
      match (invocation.outcome contract transition.source).1 with
      | .ok reply => invocation.call.issued reply
      | .error _ => []
  | .advance _ | .external _ => []

theorem idsFrom_append {id first : U64} {earlier later : ℕ}
    (follows : id.val + earlier = first.val) :
    idsFrom id earlier ++ idsFrom first later = idsFrom id (earlier + later) := by
  induction earlier generalizing id with
  | zero =>
      have same : id = first := BoundedInt.eq_iff.mpr (by simpa using follows)
      rw [same, Nat.zero_add]
      rfl
  | succ earlier ih =>
      have upper := first.le_upper
      push_cast at follows
      have nextVal : id.next.val = id.val + 1 := U64.next_val (by omega)
      rw [Nat.succ_add, idsFrom, idsFrom, List.cons_append, ih (by omega)]

/-- Exactly the new ids of a call are in its announcement. -/
theorem Effect.createdIds_eq {env : Env Address} {before after : State Address}
    {call : Call Address} {reply : Reply Address} (effect : Effect env before call reply after) :
    (call.announcement env.ledger.timestamp before reply).filterMap Event.createdId? =
      call.issued reply := by
  cases effect with
  | @createStreamBatch sender token requests aggregate nextCounter checks =>
      have announced (id : U64) (batch : List (StreamRequest Address)) :
          (List.zipWith
            (fun id request => Event.created id sender request.recipient request.totalAmount)
            (idsFrom id batch.length) batch).filterMap Event.createdId? =
              idsFrom id batch.length := by
        induction batch generalizing id with
        | nil => rfl
        | cons request rest ih =>
            have read : (Event.created id sender request.recipient request.totalAmount).createdId? =
                some id := rfl
            rw [List.length_cons, idsFrom, List.zipWith_cons_cons, List.filterMap_cons_some read,
              ih]
      exact announced _ _
  | createStream checks => rfl
  | executeAdminTransfer isAdmin pending deadline matured =>
      simp [Call.announcement, Call.issued, isAdmin, pending, Event.createdId?]
  | setAdmin isAdmin authorized =>
      simp [Call.announcement, Call.issued, isAdmin, Event.createdId?]
  | setSupplyCap isAdmin authorized capPos =>
      simp [Call.announcement, Call.issued, isAdmin, Event.createdId?]
  | extendStream checks =>
      simp [Call.announcement, Call.issued, checks.stored, Event.createdId?]
  | cancel checks =>
      simp [Call.announcement, Call.issued, checks.stored, cancelAmounts_of_checks checks,
        Event.createdId?]
  | _ => rfl

/-- The ids given out continue from the counter. -/
theorem Effect.exists_issued {env : Env Address} {before after : State Address}
    {call : Call Address} {reply : Reply Address} (effect : Effect env before call reply after)
    (idle : before.admin = none → (before.counter.getD 0).val = 0) :
    ∃ count : ℕ,
      call.issued reply = idsFrom (before.counter.getD 0) count ∧
        (after.counter.getD 0).val = (before.counter.getD 0).val + count := by
  cases effect with
  | initializeContract fresh =>
      refine ⟨0, rfl, ?_⟩
      rw [idle fresh]
      rfl
  | createStream checks => exact ⟨1, rfl, checks.nextEq⟩
  | createStreamBatch checks => exact ⟨_, rfl, checks.nextCounterEq⟩
  | _ => exact ⟨0, rfl, by simp⟩

theorem Step.exists_issued (step : Step contract source action target)
    (reachable : Reachable contract source) :
    ∃ count : ℕ,
      issued contract ⟨source, action, target⟩ = idsFrom (source.state.counter.getD 0) count ∧
        (target.state.counter.getD 0).val = (source.state.counter.getD 0).val + count := by
  cases stepEffect_of_step step with
  | advance later laterSequence => exact ⟨0, rfl, (add_zero _).symm⟩
  | external noLoss => exact ⟨0, rfl, (add_zero _).symm⟩
  | failed outcome =>
      simp only [issued, outcome]
      exact ⟨0, rfl, (add_zero _).symm⟩
  | returned outcome effect =>
      simp only [issued, outcome]
      exact effect.exists_issued fun fresh => (reachable.idle fresh).2

theorem createdIds_announcement (step : Step contract source action target) :
    (announcement contract ⟨source, action, target⟩).filterMap Event.createdId? =
      issued contract ⟨source, action, target⟩ := by
  cases stepEffect_of_step step with
  | advance later laterSequence => rfl
  | external noLoss => rfl
  | failed outcome => simp only [announcement, issued, outcome, List.filterMap_nil]
  | returned outcome effect =>
      simp only [announcement, issued, outcome]
      exact effect.createdIds_eq

/--
The ids that the calls of a run give out, in the order of the calls, are zero, one
and so on up to the counter, and the `created` events of the log carry the same ids
in the same order.
-/
theorem ids_issued_in_order (history : History contract trace final) :
    trace.flatMap (issued contract) = idsFrom 0 (final.state.counter.getD 0).val.toNat ∧
      final.state.events.filterMap Event.createdId? = trace.flatMap (issued contract) := by
  induction history using History.induct with
  | nil start uninitialized =>
      rw [uninitialized.counter, uninitialized.events]
      exact ⟨rfl, rfl⟩
  | snoc trace source action target earlier step ih =>
      rcases step.exists_issued earlier.reachable with ⟨count, issuedEq, counterEq⟩
      have sourceNonneg := (source.state.counter.getD 0).lower_le
      rw [List.flatMap_append, List.flatMap_singleton, step.events_eq, List.filterMap_append,
        createdIds_announcement step, ih.2, ih.1, issuedEq]
      refine ⟨?_, rfl⟩
      rw [idsFrom_append (by simpa using sourceNonneg), counterEq,
        Int.toNat_add sourceNonneg (Int.natCast_nonneg _), Int.toNat_natCast]

namespace Sample

/-- A batch of two streams between two single ones. -/
def numbering : List (Action Party) :=
  [callBy .admin (.initializeContract .admin .token), fundOne,
    callBy .carol (.createStreamBatch .carol
      ⟨[⟨.bob, units 500, time 0, time 200⟩, ⟨.dave, units 700, time 0, time 300⟩], by decide⟩),
    fundOne]

end Sample

/-- The theorem applies to a run that creates four streams in three calls. -/
theorem ids_issued_in_order_numbering :
    (Sample.trace Sample.numbering).flatMap (issued .contract) =
        idsFrom 0 ((Sample.final Sample.numbering).state.counter.getD 0).val.toNat ∧
      (Sample.final Sample.numbering).state.events.filterMap Event.createdId? =
        (Sample.trace Sample.numbering).flatMap (issued .contract) :=
  ids_issued_in_order (Sample.history (by decide))

example : (Sample.trace Sample.numbering).flatMap (issued .contract) =
    [0, 1, Sample.time 2, Sample.time 3] := by
  decide

end StreamPay
