import StreamPay.Records

/-!
# What recipients receive

The vested amount of a stream is computed afresh whenever it is needed.  Time and
top-ups never lower it, and neither does a withdrawal or a cancellation.  The
sender lowers it by extending a stream that is running, because the same total is
then released over a longer window; as long as this does not happen, whatever has
vested is paid out by the time at which the stream is no longer active.

A recipient who asks for a payout receives whatever has vested beyond the earlier
payouts.  Hence the payouts add up to the largest amount that had vested at one
of these attempts, no matter how many there were.
-/

namespace StreamPay

open Foundation

variable {Address : Type} [DecidableEq Address] {contract : Address}

/-- The sender extends the stream while it is running, beyond the present time. -/
def postpones (contract : Address) (id : U64)
    (transition : Transition (System Address) (Action Address)) : Bool :=
  match returnedCall? contract transition with
  | some (.extendStream other _ newEnd) =>
      decide (other = id) &&
        (transition.source.state.streams.lookup id).any fun stream =>
          decide (stream.start.val < transition.source.ledger.timestamp.val ∧
            transition.source.ledger.timestamp.val < newEnd.val)
  | _ => false

section Released

variable {source target final : System Address} {action : Action Address} {id : U64}
  {book : Book Address}

/-- A move of the book puts off the end of a stream only if the step does so. -/
theorem not_postpones_of_origin (describes : book.Describes source)
    (kept : postpones contract id ⟨source, action, target⟩ = false)
    {taken : Transition (Book Address) (Book.Move Address)}
    (origin : book.OriginOfAction contract source action taken) : ¬Book.Postpones id taken := by
  rintro ⟨stream, newEnd, labelEq, stored, afterStart, beforeEnd⟩
  cases action with
  | advance ledger =>
      have tickLabel : taken.label = .tick ledger.timestamp := origin
      rw [labelEq] at tickLabel
      contradiction
  | external balances => exact origin
  | invoke invocation =>
      rcases invocation with ⟨authorized, transferAccepted, call⟩
      rcases origin with ⟨⟨ofCall, isSource⟩, reply, replyEq⟩
      rw [labelEq] at ofCall isSource
      have sourceEq : taken.source = book := by
        rcases isSource with sourceEq | ⟨opened, isOpen⟩
        · exact sourceEq
        · contradiction
      cases call with
      | extendStream other sender otherEnd =>
          rcases ofCall with ⟨rfl, rfl⟩
          rw [sourceEq, describes.streams] at stored
          rw [sourceEq, describes.now] at afterStart beforeEnd
          have returned : returnedCall? contract
              ⟨source, .invoke ⟨authorized, transferAccepted, .extendStream id sender newEnd⟩,
                target⟩ = some (.extendStream id sender newEnd) :=
            returnedCall?_of_outcome (Prod.ext replyEq rfl)
          simp [postpones, returned, stored, afterStart, beforeEnd] at kept
      | _ => exact ofCall

/-- Runs of the contract that put off no end are runs of the book that put off none. -/
theorem exists_run_of_not_postpones {trace : Trace Address} (describes : book.Describes source)
    (run : Run (Step contract) source trace final)
    (kept : ∀ transition ∈ trace, postpones contract id transition = false) :
    ∃ moves next, Run Book.Step book moves next ∧ next.Describes final ∧
      ∀ taken ∈ moves, ¬Book.Postpones id taken := by
  apply run.simulate (fun transition => postpones contract id transition = false)
    (fun taken => ¬Book.Postpones id taken) describes kept
  intro before action after current currentDescribes step condition
  rcases matched_of_step currentDescribes step with ⟨moves, next, matched, nextDescribes, origin⟩
  refine ⟨moves, next, matched, nextDescribes, ?_⟩
  intro taken takenMem
  exact not_postpones_of_origin currentDescribes condition (origin taken takenMem)

/-- The vested amount of a stream that is stored is what its schedule has released. -/
theorem Book.Describes.scheduled_of_ask (describes : book.Describes source) {amount : I128}
    (asked : source.ask contract (.streamedAmount id) = .ok (.i128 amount)) :
    ∃ stream, book.streams.lookup id = some stream ∧ amount.val = stream.scheduled book.now := by
  rcases ask_streamedAmount_eq_ok_iff.mp asked with ⟨stream, stored, vestedEq⟩
  rw [← describes.streams] at stored
  rw [← describes.now] at vestedEq
  have totalPos := (book.wellFormed id stream stored).totalPos
  exact ⟨stream, stored, ((Vesting.vested_eq_ok_iff (by omega)).mp vestedEq).1⟩

theorem Book.Describes.released_of_ask (describes : book.Describes source) {amount : I128}
    (asked : source.ask contract (.streamedAmount id) = .ok (.i128 amount)) :
    book.Released id amount.val := by
  rcases describes.scheduled_of_ask asked with ⟨stream, stored, amountEq⟩
  exact ⟨stream, stored, amountEq.le⟩

/-- What has vested on a stream that is not cancelled is secured. -/
theorem Book.Describes.secured_of_ask (describes : book.Describes source) {amount : I128}
    {stream : Stream Address} (stored : source.state.streams.lookup id = some stream)
    (notCancelled : stream.status ≠ .cancelled)
    (asked : source.ask contract (.streamedAmount id) = .ok (.i128 amount)) :
    book.Secured id amount.val := by
  refine ⟨describes.released_of_ask asked, ?_⟩
  intro found foundStored notActive
  rw [describes.streams, stored, Option.some.injEq] at foundStored
  subst found
  rw [← describes.streams] at stored
  have completed : stream.status = .completed := by
    by_contra notCompleted
    exact notActive (status_eq_active_iff.mpr ⟨notCancelled, notCompleted⟩)
  rcases describes.scheduled_of_ask asked with ⟨other, otherStored, amountEq⟩
  rw [stored, Option.some.injEq] at otherStored
  subst other
  have wellFormed := book.wellFormed id stream stored
  have paidInFull := (wellFormed.completedPaid completed).1
  have scheduledLe : stream.scheduled book.now ≤ stream.total.val := wellFormed.scheduled_le
  have received := book.withdrawn_le_paid id stream stored
  omega

/-- A larger amount has been released when the schedule is asked again. -/
theorem Book.Describes.le_of_released (describes : book.Describes source) {vested : ℤ}
    {amount : I128} (released : book.Released id vested)
    (asked : source.ask contract (.streamedAmount id) = .ok (.i128 amount)) :
    vested ≤ amount.val := by
  rcases describes.scheduled_of_ask asked with ⟨stream, stored, amountEq⟩
  rcases released with ⟨other, otherStored, enough⟩
  rw [stored, Option.some.injEq] at otherStored
  subst other
  exact amountEq ▸ enough

end Released

/--
A step that does not extend the stream while it is running never lowers its
vested amount.  In a run without such a step, the recipient of a stream that was
not cancelled has received what had vested at its start as soon as the stream is
no longer active, and until then at least that much remains vested.
-/
theorem vested_kept_until_postponed {source : System Address}
    (reachable : Reachable contract source) (id : U64) :
    (∀ action target vested later, Step contract source action target →
      postpones contract id ⟨source, action, target⟩ = false →
        source.ask contract (.streamedAmount id) = .ok (.i128 vested) →
          target.ask contract (.streamedAmount id) = .ok (.i128 later) →
            vested.val ≤ later.val) ∧
      ∀ trace final stream vested, Run (Step contract) source trace final →
        (∀ transition ∈ trace, postpones contract id transition = false) →
          source.state.streams.lookup id = some stream → stream.status ≠ .cancelled →
            source.ask contract (.streamedAmount id) = .ok (.i128 vested) →
              ∃ last, final.state.streams.lookup id = some last ∧
                (last.status ≠ .active → vested.val ≤ final.state.received id) ∧
                  ∀ later, final.ask contract (.streamedAmount id) = .ok (.i128 later) →
                    vested.val ≤ later.val := by
  rcases reachable.exists_book with ⟨book, describes⟩
  constructor
  · intro action target vested later step kept asked askedLater
    rcases exists_run_of_not_postpones describes (.single step) (List.forall_mem_singleton.mpr kept)
      with ⟨moves, next, run, nextDescribes, allowed⟩
    exact nextDescribes.le_of_released ((describes.released_of_ask asked).run run allowed)
      askedLater
  · intro trace final stream vested leaving kept stored notCancelled asked
    rcases exists_run_of_not_postpones describes leaving kept with
      ⟨moves, next, run, nextDescribes, allowed⟩
    have secured := (describes.secured_of_ask stored notCancelled asked).run run allowed
    rcases secured.released with ⟨last, lastStored, enough⟩
    refine ⟨last, nextDescribes.streams ▸ lastStored, ?_, ?_⟩
    · intro notActive
      rw [← nextDescribes.paid]
      exact secured.paid last lastStored notActive
    · intro later askedLater
      exact nextDescribes.le_of_released secured.released askedLater

namespace Sample

/-- A stream of 1000 in the middle of its window. -/
def halfway : List (Action Party) :=
  [callBy .admin (.initializeContract .admin .token),
    advanceTo (time 100),
    callBy .alice (.createStream .alice .bob (units 1000) 0 (time 200)),
    advanceTo (time 150)]

def halfwayStream : Stream Party where
  sender := .alice
  recipient := .bob
  total := units 1000
  withdrawn := 0
  start := time 100
  «end» := time 200
  status := .active

def topUpFirst : Action Party :=
  callBy .alice (.topUp 0 .alice (units 500))

/-- The sender tops up and cancels. -/
def settling : List (Action Party) :=
  [topUpFirst, callBy .alice (.cancel 0 .alice)]

def extendFirst : Action Party :=
  callBy .alice (.extendStream 0 .alice (time 1100))

end Sample

/-- The theorem applies to a stream in the middle of its window. -/
theorem vested_kept_halfway :
    (Sample.units 500).val ≤ (Sample.units 750).val ∧
      ∃ last, ((Sample.settling.foldl (System.next .contract)
          (Sample.final Sample.halfway)).state.streams.lookup 0 = some last) ∧
        (last.status ≠ .active →
          (Sample.units 500).val ≤ (Sample.settling.foldl (System.next .contract)
            (Sample.final Sample.halfway)).state.received 0) ∧
          ∀ later, (Sample.settling.foldl (System.next .contract)
            (Sample.final Sample.halfway)).ask .contract (.streamedAmount 0) =
              .ok (.i128 later) → (Sample.units 500).val ≤ later.val := by
  have reachable : Reachable .contract (Sample.final Sample.halfway) :=
    (Sample.history (by decide)).reachable
  have kept := vested_kept_until_postponed reachable 0
  constructor
  · exact kept.1 Sample.topUpFirst _ _ _ ⟨trivial, rfl⟩ (by decide) rfl rfl
  · exact kept.2 _ _ Sample.halfwayStream _ (run_execute (by decide))
      (by decide) (by decide) (by decide) rfl

/-- An extension in the middle of the window takes back most of what has vested. -/
theorem vested_lowered_by_extension :
    ∃ source target action,
      Reachable Sample.Party.contract source ∧ Step .contract source action target ∧
        source.ask .contract (.streamedAmount 0) = .ok (.i128 (Sample.units 500)) ∧
          target.ask .contract (.streamedAmount 0) = .ok (.i128 (Sample.units 50)) ∧
            (target.next .contract (Sample.callBy .alice (.cancel 0 .alice))).state.received 0 =
              50 := by
  refine ⟨Sample.final Sample.halfway,
    (Sample.final Sample.halfway).next .contract Sample.extendFirst, Sample.extendFirst,
    (Sample.history (by decide)).reachable, ⟨trivial, rfl⟩, rfl, rfl, ?_⟩
  decide

/-- The vested amount that the recipient finds when asking for a payout of the active stream. -/
def attempt? (id : U64) (transition : Transition (System Address) (Action Address)) : Option ℤ :=
  match transition.label with
  | .invoke invocation =>
      match invocation.call, transition.source.state.streams.lookup id with
      | .withdraw other recipient, some stream =>
          match Vesting.vested stream transition.source.ledger.timestamp with
          | .ok vested =>
              if other = id ∧ invocation.authorized recipient = true ∧
                  stream.recipient = recipient ∧ stream.status = .active then
                some vested.val
              else
                none
          | .error _ => none
      | _, _ => none
  | .advance _ | .external _ => none

/-- The largest vested amount found at an attempt, or zero. -/
def mostVested (id : U64) (trace : Trace Address) : ℤ :=
  (trace.filterMap (attempt? id)).foldl max 0

/-- The token accepts what a withdrawal from the stream would pay. -/
def payoutAccepted (contract : Address) (id : U64)
    (transition : Transition (System Address) (Action Address)) : Bool :=
  match transition.label with
  | .invoke invocation =>
      match invocation.call, transition.source.state.streams.lookup id,
        transition.source.state.token with
      | .withdraw other recipient, some stream, some token =>
          match Vesting.withdrawable stream transition.source.ledger.timestamp with
          | .ok amount =>
              decide (other = id → 0 < amount.val →
                invocation.transferAccepted transition.source.state.balances token contract
                  recipient amount = true)
          | .error _ => true
      | _, _, _ => true
  | .advance _ | .external _ => true

section Attempts

variable {source target : System Address} {action : Action Address} {id : U64}
  {stream : Stream Address}

theorem mostVested_snoc {trace : Trace Address}
    {transition : Transition (System Address) (Action Address)} :
    mostVested id (trace ++ [transition]) =
      (attempt? id transition).elim (mostVested id trace) (max (mostVested id trace)) := by
  rw [mostVested, List.filterMap_append, List.foldl_append]
  cases found : attempt? id transition with
  | none => simp [found, mostVested]
  | some amount => simp [found, mostVested]

theorem attempt?_eq_some_iff {amount : ℤ} :
    attempt? id ⟨source, action, target⟩ = some amount ↔
      ∃ authorized transferAccepted recipient stream vested,
        action = .invoke ⟨authorized, transferAccepted, .withdraw id recipient⟩ ∧
          authorized recipient = true ∧ source.state.streams.lookup id = some stream ∧
            stream.recipient = recipient ∧ stream.status = .active ∧
              Vesting.vested stream source.ledger.timestamp = .ok vested ∧
                vested.val = amount := by
  constructor
  · intro found
    cases action with
    | advance ledger => simp [attempt?] at found
    | external balances => simp [attempt?] at found
    | invoke invocation =>
        rcases invocation with ⟨authorized, transferAccepted, call⟩
        cases call with
        | withdraw other recipient =>
            simp only [attempt?] at found
            split at found
            · rename_i stream callEq stored
              cases callEq
              split at found
              · rename_i vested vestedEq
                simp only [Option.ite_none_right_eq_some, Option.some.injEq] at found
                rcases found with ⟨⟨rfl, isAuthorized, isRecipient, active⟩, amountEq⟩
                exact ⟨authorized, transferAccepted, recipient, stream, vested, rfl, isAuthorized,
                  stored, isRecipient, active, vestedEq, amountEq⟩
              · contradiction
            · contradiction
        | _ => simp [attempt?] at found
  · rintro ⟨authorized, transferAccepted, recipient, stream, vested, rfl, isAuthorized, stored,
      isRecipient, active, vestedEq, amountEq⟩
    simp [attempt?, stored, vestedEq, isAuthorized, isRecipient, active, amountEq]

/-- Calls that are not addressed to the stream are no attempts. -/
theorem attempt?_of_target_ne {invocation : Invocation Address}
    (elsewhere : invocation.call.target ≠ some id) :
    attempt? id ⟨source, .invoke invocation, target⟩ = none := by
  rw [Option.eq_none_iff_forall_ne_some]
  intro amount found
  rcases attempt?_eq_some_iff.mp found with
    ⟨authorized, transferAccepted, recipient, stream, vested, actionEq, _⟩
  cases actionEq
  exact elsewhere rfl

/-- An attempt that finds more than what was withdrawn succeeds, if the token accepts it. -/
theorem exists_returned_of_attempt {authorized : Address → Bool}
    {transferAccepted : Balances Address → Address → Address → Address → I128 → Bool}
    {recipient : Address} {vested : I128} (reachable : Reachable contract source)
    (accepted : payoutAccepted contract id
      ⟨source, .invoke ⟨authorized, transferAccepted, .withdraw id recipient⟩, target⟩ = true)
    (isAuthorized : authorized recipient = true)
    (stored : source.state.streams.lookup id = some stream)
    (isRecipient : stream.recipient = recipient) (active : stream.status = .active)
    (vestedEq : Vesting.vested stream source.ledger.timestamp = .ok vested)
    (more : stream.withdrawn.val < vested.val) :
    ∃ reply after, Invocation.outcome ⟨authorized, transferAccepted, .withdraw id recipient⟩
      contract source = (.ok reply, after) := by
  have withdrawnNonneg := (reachable.wellFormed stored).withdrawnNonneg
  have vestedUpper := vested.le_upper
  rcases reachable.exists_token stored with ⟨token, tokenSet⟩
  let amount : I128 := ⟨vested.val - stream.withdrawn.val, by omega, by omega⟩
  have positive : 0 < amount.val := sub_pos.mpr more
  have available : Vesting.withdrawable stream source.ledger.timestamp = .ok amount :=
    Vesting.withdrawable_eq_ok_iff.mpr
      ⟨vested, amount, vestedEq, rfl, (max_eq_right positive.le).symm⟩
  have tokenAccepts :
      transferAccepted source.state.balances token contract recipient amount = true := by
    simp only [payoutAccepted, stored, tokenSet, available, decide_eq_true_eq,
      true_imp_iff] at accepted
    exact accepted positive
  have checks :
      WithdrawChecks
        (Invocation.env ⟨authorized, transferAccepted, .withdraw id recipient⟩ contract
          source.ledger)
        source.state id recipient amount stream vested token := by
    refine ⟨isAuthorized, stored, isRecipient, active, available, positive, ?_, tokenSet, ?_⟩
    · show vested.val = stream.withdrawn.val + (vested.val - stream.withdrawn.val)
      omega
    · rw [Env.accepts, Bool.and_eq_true, decide_eq_true_eq]
      exact ⟨positive.le, tokenAccepts⟩
  exact ⟨_, _, (Effect.withdraw checks).outcome_eq⟩

/-- A step leaves as withdrawn the larger of what was withdrawn and what an attempt finds. -/
theorem Step.withdrawn_eq (step : Step contract source action target)
    (reachable : Reachable contract source) {changed : Stream Address}
    (accepted : payoutAccepted contract id ⟨source, action, target⟩ = true)
    (stored : source.state.streams.lookup id = some stream)
    (changedStored : target.state.streams.lookup id = some changed)
    (notCancelled : changed.status ≠ .cancelled) :
    changed.withdrawn.val =
      (attempt? id ⟨source, action, target⟩).elim stream.withdrawn.val
        (max stream.withdrawn.val) := by
  cases stepEffect_of_step step with
  | advance later laterSequence =>
      rw [stored, Option.some.injEq] at changedStored
      rw [changedStored]
      rfl
  | external noLoss =>
      rw [stored, Option.some.injEq] at changedStored
      rw [changedStored]
      rfl
  | @failed invocation fault outcome =>
      rw [stored, Option.some.injEq] at changedStored
      subst changed
      cases found : attempt? id ⟨source, .invoke invocation, source⟩ with
      | none => rfl
      | some amount =>
          rcases attempt?_eq_some_iff.mp found with
            ⟨authorized, transferAccepted, recipient, other, vested, actionEq, isAuthorized,
              otherStored, isRecipient, active, vestedEq, rfl⟩
          cases actionEq
          rw [stored, Option.some.injEq] at otherStored
          subst other
          apply Eq.symm
          apply max_eq_left
          by_contra more
          rcases exists_returned_of_attempt reachable accepted isAuthorized stored isRecipient
            active vestedEq (not_le.mp more) with ⟨reply, after, returned⟩
          rw [outcome] at returned
          cases returned
  | @returned invocation reply after outcome effect =>
      rcases effect.exists_record stored (reachable.lt_counter stored) with
        ⟨found, foundStored, record⟩
      have foundEq : found = changed := Option.some.inj (foundStored.symm.trans changedStored)
      subst found
      rcases invocation with ⟨authorized, transferAccepted, call⟩
      cases record with
      | untouched elsewhere =>
          rw [attempt?_of_target_ne elsewhere]
          rfl
      | raised checks => rfl
      | prolonged checks => rfl
      | @paidOut recipient token amount withdrawn checks =>
          rcases Vesting.withdrawable_eq_ok_iff.mp checks.available with
            ⟨vested, available, vestedEq, availableEq, amountEq⟩
          have found : attempt? id
              ⟨source, .invoke ⟨authorized, transferAccepted, .withdraw id recipient⟩,
                { source with state := after }⟩ = some vested.val :=
            attempt?_eq_some_iff.mpr ⟨authorized, transferAccepted, recipient, stream, vested, rfl,
              checks.authorized, stored, checks.isRecipient, checks.active, vestedEq, rfl⟩
          have positive := checks.positive
          have withdrawnEq := checks.withdrawnEq
          rw [found, Option.elim_some]
          show withdrawn.val = max stream.withdrawn.val vested.val
          omega
      | closed checks => exact absurd rfl notCancelled

/-- A stream that a step opens has paid nothing. -/
theorem Step.received_of_none (step : Step contract source action target)
    (reachable : Reachable contract source)
    (missing : source.state.streams.lookup id = none) : target.state.received id = 0 := by
  have nothing := reachable.received_of_none missing
  cases stepEffect_of_step step with
  | advance later laterSequence => exact nothing
  | external noLoss => exact nothing
  | failed outcome => exact nothing
  | @returned invocation reply after outcome effect =>
      have elsewhere : invocation.call.target ≠ some id := by
        intro addressed
        rcases effect.exists_stored addressed with ⟨stream, stored⟩
        have storedBefore : source.state.streams.lookup id = some stream := stored
        rw [missing] at storedBefore
        contradiction
      rw [← nothing]
      exact received_eq_of_transfersFor (effect.transfersFor_eq elsewhere)

/-- What was received is the largest vested amount found at an attempt. -/
theorem History.received_eq {trace : Trace Address} {final : System Address}
    (history : History contract trace final)
    (accepted : ∀ transition ∈ trace, payoutAccepted contract id transition = true) :
    (final.state.streams.lookup id = none → mostVested id trace = 0) ∧
      ∀ stream, final.state.streams.lookup id = some stream → stream.status ≠ .cancelled →
        final.state.received id = mostVested id trace := by
  induction history using History.induct with
  | nil start uninitialized =>
      refine ⟨fun _ => rfl, ?_⟩
      intro stream stored
      rw [uninitialized.streams, Finmap.lookup_empty] at stored
      contradiction
  | snoc trace source action target earlier step ih =>
      rw [List.forall_mem_append, List.forall_mem_singleton] at accepted
      rcases ih accepted.1 with ⟨whenMissing, whenStored⟩
      rw [mostVested_snoc]
      cases sourceStored : source.state.streams.lookup id with
      | none =>
          have noAttempt : attempt? id ⟨source, action, target⟩ = none := by
            rw [Option.eq_none_iff_forall_ne_some]
            intro amount found
            rcases attempt?_eq_some_iff.mp found with ⟨_, _, _, _, _, _, _, stored, _⟩
            rw [sourceStored] at stored
            contradiction
          rw [noAttempt, Option.elim_none, whenMissing sourceStored]
          refine ⟨fun _ => rfl, ?_⟩
          intro stream _ _
          exact step.received_of_none earlier.reachable sourceStored
      | some older =>
          rcases step.exists_continued earlier.reachable sourceStored with
            ⟨changed, changedStored, continues⟩
          constructor
          · intro missing
            rw [changedStored] at missing
            contradiction
          · intro stream stored notCancelled
            rw [changedStored, Option.some.injEq] at stored
            subst stream
            have notCancelledBefore : older.status ≠ .cancelled :=
              fun cancelled => notCancelled (continues.cancelled cancelled)
            rw [(earlier.snoc step).reachable.received_eq changedStored notCancelled,
              step.withdrawn_eq earlier.reachable accepted.2 sourceStored changedStored
                notCancelled, ← earlier.reachable.received_eq sourceStored notCancelledBefore,
              whenStored older sourceStored notCancelledBefore]

/-- The record was paid by the contract to the recipient of the stream. -/
def Transfer.PaidTo (record : Transfer Address) (contract : Address) (state : State Address)
    (id : U64) : Prop :=
  record.source = contract ∧ ∃ stream, state.streams.lookup id = some stream ∧
    record.destination = stream.recipient

theorem Transfer.PaidTo.step {record : Transfer Address}
    (paid : record.PaidTo contract source.state id) (reachable : Reachable contract source)
    (step : Step contract source action target) : record.PaidTo contract target.state id := by
  rcases paid with ⟨isSource, stream, stored, isRecipient⟩
  rcases step.exists_continued reachable stored with ⟨changed, changedStored, continues⟩
  exact ⟨isSource, changed, changedStored, isRecipient.trans continues.recipient.symm⟩

/-- Every payout of a stream goes from the contract to the stream's recipient. -/
theorem Reachable.paidTo {system : System Address} (reachable : Reachable contract system) :
    ∀ record ∈ system.state.transfers, record.purpose = .payout id →
      record.PaidTo contract system.state id := by
  rcases reachable with ⟨trace, history⟩
  induction history using History.induct with
  | nil start uninitialized =>
      intro record recordMem
      rw [uninitialized.transfers] at recordMem
      contradiction
  | snoc trace source action target earlier step ih =>
      intro record recordMem isPayout
      refine .step (?_ : record.PaidTo contract source.state id) earlier.reachable step
      cases stepEffect_of_step step with
      | advance later laterSequence => exact ih record recordMem isPayout
      | external noLoss => exact ih record recordMem isPayout
      | failed outcome => exact ih record recordMem isPayout
      | returned outcome effect =>
          rcases effect.exists_transferred with ⟨made, transferred⟩
          rw [transferred.transfers] at recordMem
          rcases List.mem_append.mp recordMem with recordMem | recordMem
          · exact ih record recordMem isPayout
          · cases transferred.allowed record recordMem with
            | funded authorized destination notPayout => exact absurd isPayout (notPayout id)
            | @paid other stream addressed stored isSource destination purpose =>
                rw [isPayout, Purpose.payout.injEq] at purpose
                subst other
                exact ⟨isSource, stream, stored, destination⟩
            | refunded addressed stored isSource destination purpose =>
                rw [isPayout] at purpose
                contradiction

/-- A cancellation pays out what has vested beyond the withdrawals. -/
theorem Effect.received_of_cancel {env : Env Address} {before after : State Address}
    {caller : Address} {reply : Reply Address}
    (effect : Effect env before (.cancel id caller) reply after) :
    ∃ stream vested, before.streams.lookup id = some stream ∧
      Vesting.vested stream env.ledger.timestamp = .ok vested ∧
        after.received id =
          before.received id + max 0 (vested.val - stream.withdrawn.val) := by
  cases effect with
  | @cancel _ _ token vested recipientPaid senderRefund stream checks =>
      refine ⟨stream, vested, checks.stored, checks.vestedEq, ?_⟩
      have paid := received_recordPositive
        (before.putStream env.ledger id (stream.closed vested))
        ⟨token, env.currentContractAddress, stream.recipient, recipientPaid, .payout id⟩ id
      have refunded := received_recordPositive
        ((before.putStream env.ledger id (stream.closed vested)).recordPositive
          ⟨token, env.currentContractAddress, stream.recipient, recipientPaid, .payout id⟩)
        ⟨token, env.currentContractAddress, stream.sender, senderRefund, .refund id⟩ id
      rw [if_neg (by simp), add_zero, paid, if_pos rfl] at refunded
      rw [← checks.recipientPaidEq]
      exact refunded

theorem Step.received_of_cancel (step : Step contract source action target)
    (reachable : Reachable contract source) {caller : Address}
    (stored : source.state.streams.lookup id = some stream)
    (notCancelled : stream.status ≠ .cancelled)
    (returned : returnedCall? contract ⟨source, action, target⟩ = some (.cancel id caller)) :
    ∃ vested, Vesting.vested stream source.ledger.timestamp = .ok vested ∧
      target.state.received id = max (source.state.received id) vested.val := by
  rcases exists_effect_of_returnedCall? step returned with
    ⟨invocation, reply, _, _, _, _, effect⟩
  rcases effect.received_of_cancel with ⟨other, vested, otherStored, vestedEq, receivedEq⟩
  have isStream : other = stream := Option.some.inj (otherStored.symm.trans stored)
  subst other
  have received := reachable.received_eq stored notCancelled
  have receivedAfter : target.state.received id =
      source.state.received id + max 0 (vested.val - stream.withdrawn.val) := receivedEq
  refine ⟨vested, vestedEq, ?_⟩
  omega

end Attempts

/--
As long as a stream is not cancelled, its recipient has received the largest of
the vested amounts found at the attempts to withdraw, and all of it was paid to
the recipient by the contract.  Cancelling an active stream makes this amount the
larger of itself and what has vested at that time.
-/
theorem payouts_path_independent {trace : Trace Address} {final : System Address}
    (history : History contract trace final) {id : U64} {stream : Stream Address}
    (stored : final.state.streams.lookup id = some stream)
    (notCancelled : stream.status ≠ .cancelled)
    (accepted : ∀ transition ∈ trace, payoutAccepted contract id transition = true) :
    final.state.received id = mostVested id trace ∧
      (∀ record ∈ final.state.transfers, record.purpose = .payout id →
        record.source = contract ∧ record.destination = stream.recipient) ∧
        (stream.status = .active → ∀ action target caller, Step contract final action target →
          returnedCall? contract ⟨final, action, target⟩ = some (.cancel id caller) →
            ∃ vested, Vesting.vested stream final.ledger.timestamp = .ok vested ∧
              target.state.received id = max (mostVested id trace) vested.val) := by
  have received := (history.received_eq accepted).2 stream stored notCancelled
  refine ⟨received, ?_, ?_⟩
  · intro record recordMem isPayout
    rcases history.reachable.paidTo record recordMem isPayout with
      ⟨isSource, other, otherStored, destination⟩
    rw [stored, Option.some.injEq] at otherStored
    exact ⟨isSource, otherStored ▸ destination⟩
  · intro active action target caller step returned
    rw [← received]
    exact step.received_of_cancel history.reachable stored notCancelled returned

namespace Sample

/-- The recipient asks twice at the same time, then again after a top-up and an extension. -/
def asking : List (Action Party) :=
  withdrawing ++
    [callBy .bob (.withdraw 0 .bob), topUpFirst, callBy .bob (.withdraw 0 .bob),
      callBy .alice (.extendStream 0 .alice (time 1100)), callBy .bob (.withdraw 0 .bob)]

def askedStream : Stream Party where
  sender := .alice
  recipient := .bob
  total := units 1500
  withdrawn := units 750
  start := time 100
  «end» := time 1100
  status := .active

end Sample

/-- The theorem applies to a run with paid and unpaid attempts. -/
theorem payouts_path_independent_asking :
    (Sample.final Sample.asking).state.received 0 = mostVested 0 (Sample.trace Sample.asking) ∧
      (∀ record ∈ (Sample.final Sample.asking).state.transfers, record.purpose = .payout 0 →
        record.source = .contract ∧ record.destination = Sample.askedStream.recipient) ∧
        (Sample.askedStream.status = .active → ∀ action target caller,
          Step .contract (Sample.final Sample.asking) action target →
            returnedCall? .contract ⟨Sample.final Sample.asking, action, target⟩ =
                some (.cancel 0 caller) →
              ∃ vested,
                Vesting.vested Sample.askedStream
                    (Sample.final Sample.asking).ledger.timestamp = .ok vested ∧
                  target.state.received 0 =
                    max (mostVested 0 (Sample.trace Sample.asking)) vested.val) :=
  payouts_path_independent (Sample.history (by decide)) (by decide)
    (by decide) (by decide)

/-- The two attempts that pay add up to the largest amount found. -/
example : (Sample.trace Sample.asking).filterMap (attempt? 0) = [500, 500, 750, 75] := by
  decide

end StreamPay
