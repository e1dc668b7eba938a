import StreamPay.Overflows
import StreamPay.Schedule
import StreamPay.Solvency

/-!
# Extensions and payments in advance

A stream has paid in advance if more has been withdrawn than its schedule has
released by now.  Withdrawals and cancellations pay exactly what is released, and
neither time nor a top-up takes anything back.  Hence payments are in advance only
after an extension that moves the schedule below what was withdrawn.

A contract without such extensions is solvent.  Nothing else is needed: they are the
only calls that let a later cancellation pay more than the escrow of its stream.  And
what its views show of a stream is consistent: never more is withdrawn than has
vested, neither as an amount nor as a share.
-/

namespace StreamPay

open Foundation Foundation.Computation

variable {Address : Type}

/-- Every schedule has released what was withdrawn. -/
def System.NothingAdvanced (system : System Address) : Prop :=
  ∀ id stream, system.state.streams.lookup id = some stream →
    stream.withdrawn.val ≤ stream.scheduled system.ledger.timestamp

variable [DecidableEq Address]

/-- An extension that returns leaves the schedule at or above what was withdrawn. -/
def extensionCovered (contract : Address)
    (transition : Transition (System Address) (Action Address)) : Bool :=
  match returnedCall? contract transition with
  | some (.extendStream id _ newEnd) =>
      (transition.source.state.streams.lookup id).all fun stream =>
        decide (stream.withdrawn.val ≤
          (stream.prolonged newEnd).scheduled transition.source.ledger.timestamp)
  | _ => true

variable {contract : Address} {source target final : System Address} {action : Action Address}
  {trace : Trace Address}

section Call

variable {env : Env Address} {before after : State Address} {call : Call Address}
  {reply : Reply Address} {id : U64} {stream changed : Stream Address}

/-- Only an extension can move the schedule below what was withdrawn. -/
theorem RecordEffect.withdrawn_le_scheduled
    (record : RecordEffect env before id stream call reply changed)
    (wellFormed : stream.WellFormed env.ledger.timestamp)
    (released : stream.withdrawn.val ≤ stream.scheduled env.ledger.timestamp)
    (covered : ∀ sender newEnd, call = .extendStream id sender newEnd →
      stream.withdrawn.val ≤ (stream.prolonged newEnd).scheduled env.ledger.timestamp) :
    changed.withdrawn.val ≤ changed.scheduled env.ledger.timestamp := by
  cases record with
  | untouched elsewhere => exact released
  | raised checks =>
      have amountPos := checks.amountPos
      have newTotalEq := checks.newTotalEq
      exact released.trans (scheduled_mono_total wellFormed.totalPos (by omega))
  | prolonged checks => exact covered _ _ rfl
  | paidOut checks => exact (checks.onSchedule wellFormed).le
  | closed checks => exact (checks.onSchedule wellFormed).le

end Call

/-- Nothing has been withdrawn from a stream that was not there before. -/
theorem Effect.withdrawn_of_opened {reply : Reply Address} {after : State Address}
    {invocation : Invocation Address} (reachable : Reachable contract source)
    (reachableAfter : Reachable contract { source with state := after })
    (effect : Effect (invocation.env contract source.ledger) source.state invocation.call reply
      after)
    {id : U64} {stream : Stream Address} (missing : source.state.streams.lookup id = none)
    (stored : after.streams.lookup id = some stream) : stream.withdrawn.val = 0 := by
  have active := effect.opened_active missing stored
  have elsewhere : invocation.call.target ≠ some id := by
    intro addressed
    rcases effect.exists_stored addressed with ⟨older, olderStored⟩
    rw [missing] at olderStored
    contradiction
  have notCancelled : stream.status ≠ .cancelled := by simp [active]
  have received : after.received id = stream.withdrawn.val :=
    reachableAfter.received_eq stored notCancelled
  rw [← received, received_eq_of_transfersFor (effect.transfersFor_eq elsewhere)]
  exact reachable.received_of_none missing

theorem Step.nothingAdvanced (step : Step contract source action target)
    (reachable : Reachable contract source)
    (covered : extensionCovered contract ⟨source, action, target⟩ = true)
    (nothingAdvanced : source.NothingAdvanced) : target.NothingAdvanced := by
  have reachableAfter := reachable.step step
  cases stepEffect_of_step step with
  | advance later laterSequence =>
      intro id stream stored
      have wellFormed := reachable.wellFormed stored
      exact (nothingAdvanced id stream stored).trans
        (scheduled_mono_now wellFormed.totalPos wellFormed.window later)
  | external noLoss => exact nothingAdvanced
  | failed outcome => exact nothingAdvanced
  | @returned invocation reply after outcome effect =>
      intro id changed changedStored
      rcases stored : source.state.streams.lookup id with _ | stream
      · have nothing := effect.withdrawn_of_opened reachable reachableAfter stored changedStored
        have wellFormed := reachableAfter.wellFormed changedStored
        rw [nothing]
        exact wellFormed.scheduled_nonneg
      · rcases effect.exists_record stored (reachable.lt_counter stored) with
          ⟨found, foundStored, record⟩
        cases Option.some.inj (changedStored.symm.trans foundStored)
        refine record.withdrawn_le_scheduled (reachable.wellFormed stored)
          (nothingAdvanced id stream stored) ?_
        intro sender newEnd isExtension
        simp only [extensionCovered, returnedCall?_of_outcome outcome, isExtension, stored,
          Option.all_some] at covered
        exact of_decide_eq_true covered

/-- An extension after which nothing is paid in advance was covered. -/
theorem Step.extensionCovered (step : Step contract source action target)
    (nothingAdvanced : target.NothingAdvanced) :
    extensionCovered contract ⟨source, action, target⟩ = true := by
  cases stepEffect_of_step step with
  | advance later laterSequence => rfl
  | external noLoss => rfl
  | failed outcome => simp only [StreamPay.extensionCovered, returnedCall?, outcome]
  | @returned invocation reply after outcome effect =>
      rw [StreamPay.extensionCovered, returnedCall?_of_outcome outcome]
      rcases invocation with ⟨authorized, transferAccepted, call⟩
      cases effect with
      | @extendStream id sender newEnd stream checks =>
          have prolonged := nothingAdvanced id (stream.prolonged newEnd)
            (Finmap.lookup_insert _)
          simp only [checks.stored, Option.all_some, decide_eq_true_eq]
          exact prolonged
      | _ => rfl

theorem History.nothingAdvanced (history : History contract trace final)
    (covered : ∀ transition ∈ trace, extensionCovered contract transition = true) :
    final.NothingAdvanced := by
  induction history using History.induct with
  | nil start uninitialized =>
      intro id stream stored
      rw [uninitialized.streams, Finmap.lookup_empty] at stored
      contradiction
  | snoc trace source action target earlier step ih =>
      rw [List.forall_mem_append, List.forall_mem_singleton] at covered
      exact step.nothingAdvanced earlier.reachable covered.2 (ih covered.1)

/-- The part of a run before one of its transitions has covered extensions, too. -/
theorem History.nothingAdvanced_source (history : History contract trace final)
    (covered : ∀ transition ∈ trace, StreamPay.extensionCovered contract transition = true)
    {transition : Transition (System Address) (Action Address)}
    (transitionMem : transition ∈ trace) : transition.source.NothingAdvanced := by
  rcases history.of_mem transitionMem with ⟨earlier, later, traceEq, reaching, _, _⟩
  apply reaching.nothingAdvanced
  intro other otherMem
  apply covered
  rw [traceEq]
  exact List.mem_append_left _ otherMem

/--
Nothing is paid in advance in any state of a run exactly if every extension that
returns leaves the schedule at or above what was withdrawn.
-/
theorem nothing_advanced_iff (history : History contract trace final) :
    (∀ transition ∈ trace, transition.target.NothingAdvanced) ↔
      ∀ transition ∈ trace, extensionCovered contract transition = true := by
  constructor
  · intro nothingAdvanced transition transitionMem
    rcases history.of_mem transitionMem with ⟨_, _, _, _, step, _⟩
    exact step.extensionCovered (nothingAdvanced transition transitionMem)
  · intro covered transition transitionMem
    rcases history.of_mem transitionMem with ⟨_, _, _, reaching, step, _⟩
    exact step.nothingAdvanced reaching.reachable (covered transition transitionMem)
      (history.nothingAdvanced_source covered transitionMem)

namespace Sample

/-- The withdrawn stream is extended when its new schedule has caught up, and is cancelled. -/
def caughtUp : List (Action Party) :=
  withdrawing ++
    [advanceTo (time 180), callBy .alice (.extendStream 0 .alice (time 250)),
      callBy .alice (.cancel 0 .alice)]

end Sample

/-- The theorem applies to a run with an extension after a withdrawal. -/
theorem nothing_advanced_iff_caughtUp :
    (∀ transition ∈ Sample.trace Sample.caughtUp, transition.target.NothingAdvanced) ↔
      ∀ transition ∈ Sample.trace Sample.caughtUp,
        extensionCovered .contract transition = true :=
  nothing_advanced_iff (Sample.history (by decide))

example : ∀ transition ∈ Sample.trace Sample.caughtUp,
    extensionCovered .contract transition = true := by
  decide

/-- Where nothing is paid in advance, a cancellation pays no more than the escrow. -/
theorem System.NothingAdvanced.cancelCovered (nothingAdvanced : source.NothingAdvanced) :
    cancelCovered contract ⟨source, action, target⟩ = true := by
  unfold StreamPay.cancelCovered
  split
  · rename_i id caller isCancel
    rw [Option.all_eq_true]
    intro stream stored
    exact decide_eq_true (nothingAdvanced id stream stored)
  · rfl

/--
If every extension that returns leaves the schedule at or above what was withdrawn,
then every cancellation of the run is covered and the contract is solvent: extensions
that undercut a withdrawal are the only source of a shortfall.
-/
theorem solvent_of_covered_extensions (history : History contract trace final)
    (notSelf : ∀ transition ∈ trace, neverSelfFunded contract transition.label = true)
    (covered : ∀ transition ∈ trace, extensionCovered contract transition = true) :
    (∀ transition ∈ trace, cancelCovered contract transition = true) ∧
      final.Solvent contract := by
  have cancelsCovered : ∀ transition ∈ trace, cancelCovered contract transition = true := by
    intro transition transitionMem
    exact (history.nothingAdvanced_source covered transitionMem).cancelCovered
  exact ⟨cancelsCovered, history.solvent notSelf cancelsCovered⟩

/-- The theorem applies to a run that cancels a stream extended after a withdrawal. -/
theorem solvent_of_covered_extensions_caughtUp :
    (∀ transition ∈ Sample.trace Sample.caughtUp, cancelCovered .contract transition = true) ∧
      (Sample.final Sample.caughtUp).Solvent .contract :=
  solvent_of_covered_extensions (Sample.history (by decide)) (by decide) (by decide)

section Views

variable {id : U64} {stream : Stream Address} {now : U64}

omit [DecidableEq Address] in
theorem percentWithdrawn_val {share : U32} (wellFormed : stream.WellFormed now)
    (shareEq : stream.percentWithdrawn = .ok share) : share.val = stream.withdrawnShare := by
  have totalPos : 0 < stream.total.val := wellFormed.totalPos
  have notEmpty : ¬stream.total ≤ 0 := not_le.mpr totalPos
  rcases share_exact wellFormed.withdrawnNonneg totalPos wellFormed.withdrawnLe with
    ⟨exactly, _, _, narrowed⟩
  simp only [Stream.percentWithdrawn, if_neg notEmpty, except_bind_eq_ok_iff, okOr_eq_ok_iff,
    orTrap_eq_ok_iff, BoundedInt.checkedMul_eq_some_iff, BoundedInt.checkedDiv_eq_some_iff]
    at shareEq
  rcases shareEq with ⟨scaled, scaledEq, quotient, ⟨_, quotientEq⟩, isShare⟩
  cases isShare
  rw [quotientEq, scaledEq]
  exact exactly ▸ narrowed

theorem ask_percentWithdrawn_iff {system : System Address} {share : U32}
    (stored : system.state.streams.lookup id = some stream) :
    system.ask contract (.percentWithdrawn id) = .ok (.u32 share) ↔
      stream.percentWithdrawn = .ok share := by
  rw [ask_of_reading rfl stored]
  cases stream.percentWithdrawn <;> simp [Except.map]

omit [DecidableEq Address] in
/-- A share of what has vested is at most the elapsed share of the window. -/
theorem withdrawnShare_le_progress (wellFormed : stream.WellFormed now)
    (released : stream.withdrawn.val ≤ stream.scheduled now) :
    stream.withdrawnShare ≤ stream.progress now := by
  have totalPos : 0 < stream.total.val := wellFormed.totalPos
  have scalePos : (0 : ℤ) < basisPoints.val := by decide
  have shared : stream.withdrawnShare * stream.total.val ≤ 10000 * stream.withdrawn.val :=
    released_mul_le totalPos
  have vested : 10000 * stream.scheduled now < stream.total.val * (stream.progress now + 1) :=
    mul_scheduled_lt totalPos scalePos wellFormed.window
  have less : stream.withdrawnShare * stream.total.val <
      (stream.progress now + 1) * stream.total.val := by
    rw [mul_comm (stream.progress now + 1)]
    omega
  exact Int.lt_add_one_iff.mp (lt_of_mul_lt_mul_right less totalPos.le)

/--
If every extension that returns leaves the schedule at or above what was withdrawn,
then every summary shows at most as much withdrawn as vested, the rest of it as
withdrawable, and a progress that the withdrawn share does not exceed.
-/
theorem summary_consistent (history : History contract trace final)
    (covered : ∀ transition ∈ trace, extensionCovered contract transition = true)
    (stored : final.state.streams.lookup id = some stream) {summary : StreamSummary}
    (asked : final.ask contract (.getSummary id) = .ok (.summary summary)) :
    summary.withdrawn.val ≤ summary.vested.val ∧
      summary.withdrawable.val = summary.vested.val - summary.withdrawn.val ∧
        ∀ share, final.ask contract (.percentWithdrawn id) = .ok (.u32 share) →
          share.val ≤ summary.progressBps.val := by
  have wellFormed := history.reachable.wellFormed stored
  have released := history.nothingAdvanced covered id stream stored
  have totalPos := wellFormed.totalPos
  rw [ask_getSummary_iff stored] at asked
  simp only [Stream.summary, except_bind_eq_ok_iff] at asked
  rcases asked with ⟨vested, vestedEq, withdrawable, withdrawableEq, bps, bpsEq, built⟩
  cases built
  have scheduled := val_eq_scheduled vestedEq (by omega)
  rcases Vesting.withdrawable_eq_ok_iff.mp withdrawableEq with
    ⟨other, available, otherEq, availableEq, clamped⟩
  obtain rfl : other = vested := Except.ok.inj (otherEq.symm.trans vestedEq)
  have noMore : stream.withdrawn.val ≤ other.val := scheduled ▸ released
  refine ⟨noMore, ?_, ?_⟩
  · show withdrawable.val = other.val - stream.withdrawn.val
    omega
  · intro share askedShare
    rw [ask_percentWithdrawn_iff stored] at askedShare
    show share.val ≤ bps.val
    rw [percentWithdrawn_val wellFormed askedShare, val_eq_progress wellFormed.window bpsEq]
    exact withdrawnShare_le_progress wellFormed released

end Views

namespace Sample

/-- The first stream after its cancellation. -/
def caughtUpStream : Stream Party where
  sender := .alice
  recipient := .bob
  total := units 1000
  withdrawn := units 533
  start := time 100
  «end» := time 250
  status := .cancelled

def caughtUpSummary : StreamSummary where
  total := units 1000
  vested := units 533
  withdrawn := units 533
  withdrawable := 0
  progressBps := ⟨5333, by omega, by omega⟩
  status := .cancelled

end Sample

/-- The theorem applies to a stream whose two shares differ by rounding. -/
theorem summary_consistent_caughtUp :
    Sample.caughtUpSummary.withdrawn.val ≤ Sample.caughtUpSummary.vested.val ∧
      Sample.caughtUpSummary.withdrawable.val =
          Sample.caughtUpSummary.vested.val - Sample.caughtUpSummary.withdrawn.val ∧
        ∀ share, (Sample.final Sample.caughtUp).ask .contract (.percentWithdrawn 0) =
            .ok (.u32 share) → share.val ≤ Sample.caughtUpSummary.progressBps.val := by
  have stored :
      (Sample.final Sample.caughtUp).state.streams.lookup 0 = some Sample.caughtUpStream := by
    decide
  exact summary_consistent (Sample.history (by decide)) (by decide) stored (by rfl)

example : Sample.caughtUpStream.withdrawnShare = 5330 := by
  decide

end StreamPay
