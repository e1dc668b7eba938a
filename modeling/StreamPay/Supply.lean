import StreamPay.Escrow
import StreamPay.Operations

/-!
# The tracked supply and the cap

The contract tracks its escrow in a counter and compares this counter with the
cap.  Every call except the batch creation updates the counter by exactly the
change of the escrow; the batch creation escrows tokens without counting them.
A counter that is behind the escrow stays behind by the same amount, unless it
is so far behind that it would leave its type.

An exact counter is one that is not behind at all.  Neither are the saturating
fallbacks taken nor is the cap exceeded until the first batch is created.
-/

namespace StreamPay

open Foundation

variable {Address : Type}

/-- The stored figure of the escrow. -/
def State.tracked (state : State Address) : ℤ :=
  (state.totalSupply.getD 0).val

def State.Exact (state : State Address) : Prop :=
  state.tracked = state.held

/-- The counter is behind the escrow by `drift`, and is untouched before the initialization. -/
structure State.BehindBy (drift : ℤ) (state : State Address) : Prop where
  held_eq : state.held = state.tracked + drift
  idle : state.admin = none → state.tracked = 0

/-- The amounts that `cancel` pays to the recipient and refunds to the sender. -/
def cancelAmounts (stream : Stream Address) (now : U64) : Option (I128 × I128) := do
  let vested ← (Vesting.vested stream now).toOption
  let recipientPaid ← vested.checkedSub stream.withdrawn
  let senderRefund ← stream.total.checkedSub vested
  return (recipientPaid, senderRefund)

/-- What a call escrows without counting it. -/
def Call.batchAmount : Call Address → ℤ
  | .createStreamBatch _ requests => amountSum requests.toList
  | _ => 0

variable [DecidableEq Address]

/-- The call returned a value that an `unwrap_or` supplied. -/
def fallbackTaken (contract : Address)
    (transition : Transition (System Address) (Action Address)) : Bool :=
  let state := transition.source.state
  let supply := state.totalSupply.getD 0
  match transition.label with
  | .invoke invocation =>
      match invocation.call, (invocation.outcome contract transition.source).1 with
      | .withdraw _ _, .ok (.i128 amount) => (supply.checkedSub amount).isNone
      | .cancel id _, .ok _ =>
          ((state.streams.lookup id).bind fun stream =>
            cancelAmounts stream transition.source.ledger.timestamp).any
              fun (recipientPaid, senderRefund) =>
                (recipientPaid.checkedAdd senderRefund).isNone ||
                  (supply.checkedSub (cancelReleased recipientPaid senderRefund)).isNone
      | _, _ => false
  | .advance _ | .external _ => false

def batchReturned (contract : Address)
    (transition : Transition (System Address) (Action Address)) : Bool :=
  match returnedCall? contract transition with
  | some (.createStreamBatch _ _) => true
  | _ => false

/-- What is escrowed in a transition without being counted. -/
def uncounted (contract : Address)
    (transition : Transition (System Address) (Action Address)) : ℤ :=
  (returnedCall? contract transition).elim 0 Call.batchAmount

section Call

variable {book : Book Address} {env : Env Address} {before after : State Address}
  {call : Call Address} {reply : Reply Address} {drift : ℤ}

/-- What is paid out of the escrow can be taken from a counter that is not too far behind. -/
theorem exists_checkedSub_of_behind {supply amount : I128} {held : ℤ}
    (heldEq : held = supply.val + drift) (bounded : drift ≤ 2 ^ 127)
    (nonneg : 0 ≤ amount.val) (escrowed : amount.val ≤ held) :
    ∃ rest, supply.checkedSub amount = some rest ∧ rest.val = supply.val - amount.val := by
  have supplyUpper := supply.le_upper
  have defined : ∃ rest, supply.checkedSub amount = some rest := by
    apply BoundedInt.exists_checkedSub
    · omega
    · omega
  rcases defined with ⟨rest, restEq⟩
  exact ⟨rest, restEq, BoundedInt.checkedSub_eq_some_iff.mp restEq⟩

theorem exists_checkedSub_of_le {left right : I128} (rightNonneg : 0 ≤ right.val)
    (order : right.val ≤ left.val) :
    ∃ difference, left.checkedSub right = some difference ∧
      difference.val = left.val - right.val :=
  exists_checkedSub_of_behind (add_zero _).symm (by norm_num) rightNonneg order

omit [DecidableEq Address] in
theorem State.Exact.behindBy {system : System Address} (exact : system.state.Exact)
    (describes : book.Describes system) : system.state.BehindBy 0 := by
  refine ⟨exact.symm.trans (add_zero _).symm, fun fresh => ?_⟩
  rw [exact, State.held, show system.state.streams = ∅ from describes.idle fresh,
    FiniteMap.total_empty]

omit [DecidableEq Address] in
theorem WithdrawChecks.exists_rest {id : U64} {recipient token : Address}
    {amount withdrawn : I128} {stream : Stream Address}
    (checks : WithdrawChecks env before id recipient amount stream withdrawn token)
    (describes : book.Describes ⟨env.ledger, before⟩) (behind : before.BehindBy drift)
    (bounded : drift ≤ 2 ^ 127) :
    ∃ rest, (before.totalSupply.getD 0).checkedSub amount = some rest ∧
      rest.val = before.tracked - amount.val := by
  have stored : book.streams.lookup id = some stream := describes.lookup checks.stored
  have owed := checks.amount_le_escrow (book.wellFormed id stream stored)
  have held : stream.escrow ≤ before.held := describes.escrow_le_held checks.stored
  exact exists_checkedSub_of_behind behind.held_eq bounded checks.positive.le (owed.trans held)

theorem CancelChecks.exists_rest {id : U64} {caller token : Address}
    {vested recipientPaid senderRefund : I128} {stream : Stream Address}
    (checks : CancelChecks env before id caller stream vested recipientPaid senderRefund token)
    (describes : book.Describes ⟨env.ledger, before⟩) (behind : before.BehindBy drift)
    (bounded : drift ≤ 2 ^ 127) :
    ∃ released rest,
      recipientPaid.checkedAdd senderRefund = some released ∧
        cancelReleased recipientPaid senderRefund = released ∧
          (before.totalSupply.getD 0).checkedSub released = some rest ∧
            rest.val = before.tracked - stream.escrow := by
  have stored : book.streams.lookup id = some stream := describes.lookup checks.stored
  have wellFormed := book.wellFormed id stream stored
  rcases checks.exists_released wellFormed with ⟨released, releasedEq, sameReleased, releasedVal⟩
  have owed : 0 ≤ released.val := releasedVal ▸ wellFormed.escrow_nonneg
  have held : released.val ≤ before.held := releasedVal ▸ describes.escrow_le_held checks.stored
  rcases exists_checkedSub_of_behind behind.held_eq bounded owed held with ⟨rest, restEq, restVal⟩
  rw [releasedVal] at restVal
  exact ⟨released, rest, releasedEq, sameReleased, restEq, restVal⟩

/-- A call changes the counter as it changes the escrow, apart from what it creates in a batch. -/
theorem Effect.tracked_eq (describes : book.Describes ⟨env.ledger, before⟩)
    (effect : Effect env before call reply after) (behind : before.BehindBy drift)
    (bounded : drift ≤ 2 ^ 127) :
    after.tracked = before.tracked + escrowChange before call reply - call.batchAmount := by
  cases effect with
  | initializeContract fresh =>
      rw [behind.idle fresh]
      rfl
  | createStream checks =>
      simp only [Call.batchAmount, sub_zero]
      exact checks.newSupplyEq
  | createStreamBatch checks =>
      simp [State.tracked, escrowChange, Call.batchAmount]
  | topUp checks =>
      simp only [Call.batchAmount, sub_zero]
      exact checks.newSupplyEq
  | withdraw checks =>
      rcases checks.exists_rest describes behind bounded with ⟨rest, restEq, restVal⟩
      simp only [State.tracked, State.publish_totalSupply, State.setTotalSupply_totalSupply,
        Option.getD_some, restEq, escrowChange, Call.batchAmount]
      rw [restVal, State.tracked]
      omega
  | cancel checks =>
      rcases checks.exists_rest describes behind bounded with
        ⟨released, rest, _, sameReleased, restEq, restVal⟩
      simp only [State.tracked, State.publish_totalSupply, State.setTotalSupply_totalSupply,
        Option.getD_some, sameReleased, restEq, escrowChange, checks.stored, Option.elim_some,
        Call.batchAmount]
      rw [restVal, State.tracked]
      omega
  | _ => simp [State.tracked, escrowChange, Call.batchAmount]

/-- Nothing is counted before the contract is initialized. -/
theorem Effect.tracked_of_uninitialized (describes : book.Describes ⟨env.ledger, before⟩)
    (effect : Effect env before call reply after) (behind : before.BehindBy drift)
    (uninitialized : after.admin = none) : after.tracked = 0 := by
  have noStream {id : U64} {stream : Stream Address} (fresh : before.admin = none)
      (stored : before.streams.lookup id = some stream) : False := by
    rw [show before.streams = ∅ from describes.idle fresh, Finmap.lookup_empty] at stored
    contradiction
  have noAdmin {state : State Address} (same : after.admin = state.admin) : state.admin = none :=
    same ▸ uninitialized
  cases effect with
  | initializeContract fresh => contradiction
  | executeAdminTransfer isAdmin pending deadline matured => contradiction
  | setAdmin isAdmin authorized => contradiction
  | createStream checks =>
      rcases checks.initialized with ⟨admin, isAdmin⟩
      have fresh : before.admin = none := noAdmin (by simp)
      rw [isAdmin] at fresh
      contradiction
  | topUp checks => exact (noStream (noAdmin (by simp)) checks.stored).elim
  | withdraw checks => exact (noStream (noAdmin (by simp)) checks.stored).elim
  | cancel checks => exact (noStream (noAdmin (by simp)) checks.stored).elim
  | _ =>
      have fresh : before.admin = none := noAdmin (by simp)
      simpa [State.tracked] using behind.idle fresh

/-- A batch that is created escrows something. -/
theorem Effect.batchAmount_pos {sender : Address} {requests : HostVec (StreamRequest Address)}
    (effect : Effect env before (.createStreamBatch sender requests) reply after) :
    0 < amountSum requests.toList := by
  cases effect with
  | createStreamBatch checks =>
      have amounts := length_le_amountSum checks.valid
      have nonempty := List.length_pos_of_ne_nil checks.nonempty
      omega

/-- The cap is compared with a counter that is behind. -/
theorem Effect.held_le_cap_add (describes : book.Describes ⟨env.ledger, before⟩)
    (effect : Effect env before call reply after) (behind : before.BehindBy drift)
    (checksCap : call.checksCap = true) :
    after.held ≤ (before.supplyCap.getD I128.max).val + drift := by
  have behindEq := behind.held_eq
  have heldEq := effect.held_eq describes
  cases effect with
  | createStream checks =>
      have underCap := checks.underCap
      have newSupplyEq := checks.newSupplyEq
      simp only [escrowChange, State.tracked] at heldEq behindEq
      omega
  | topUp checks =>
      have underCap := checks.underCap
      have newSupplyEq := checks.newSupplyEq
      simp only [escrowChange, State.tracked] at heldEq behindEq
      omega
  | _ => contradiction

end Call

section Runs

variable {contract : Address} {source target : System Address} {action : Action Address}
  {drift : ℤ}

theorem cancelAmounts_of_checks {env : Env Address} {state : State Address} {id : U64}
    {caller token : Address} {vested recipientPaid senderRefund : I128} {stream : Stream Address}
    (checks : CancelChecks env state id caller stream vested recipientPaid senderRefund token) :
    cancelAmounts stream env.ledger.timestamp = some (recipientPaid, senderRefund) := by
  have recipientPaidEq := BoundedInt.checkedSub_eq_some_iff.mpr checks.recipientPaidEq
  have senderRefundEq := BoundedInt.checkedSub_eq_some_iff.mpr checks.senderRefundEq
  simp [cancelAmounts, checks.vestedEq, Except.toOption, recipientPaidEq, senderRefundEq]

theorem Step.behindBy (step : Step contract source action target)
    (reachable : Reachable contract source) (behind : source.state.BehindBy drift)
    (bounded : drift ≤ 2 ^ 127) :
    target.state.BehindBy (drift + uncounted contract ⟨source, action, target⟩) := by
  rcases reachable.exists_book with ⟨book, describes⟩
  have unchanged (nothing : uncounted contract ⟨source, action, target⟩ = 0)
      (kept : target.state.BehindBy drift) :
      target.state.BehindBy (drift + uncounted contract ⟨source, action, target⟩) := by
    rw [nothing, add_zero]
    exact kept
  cases stepEffect_of_step step with
  | advance later laterSequence => exact unchanged rfl behind
  | external noLoss => exact unchanged rfl ⟨behind.held_eq, behind.idle⟩
  | failed outcome => exact unchanged (by simp [uncounted, returnedCall?, outcome]) behind
  | @returned invocation reply after outcome effect =>
      have heldEq := effect.held_eq describes
      have trackedEq := effect.tracked_eq describes behind bounded
      have behindEq := behind.held_eq
      constructor
      · rw [uncounted, returnedCall?_of_outcome outcome, Option.elim_some]
        show after.held = after.tracked + _
        omega
      · exact effect.tracked_of_uninitialized describes behind

/-- A counter that is not too far behind needs no fallback. -/
theorem Step.no_fallback (step : Step contract source action target)
    (reachable : Reachable contract source) (behind : source.state.BehindBy drift)
    (bounded : drift ≤ 2 ^ 127) : fallbackTaken contract ⟨source, action, target⟩ = false := by
  rcases reachable.exists_book with ⟨book, describes⟩
  cases stepEffect_of_step step with
  | advance later laterSequence => rfl
  | external noLoss => rfl
  | @failed invocation fault outcome =>
      simp only [fallbackTaken, outcome]
      split
      · contradiction
      · contradiction
      · rfl
  | @returned invocation reply after outcome effect =>
      rcases invocation with ⟨authorized, transferAccepted, call⟩
      simp only [fallbackTaken, outcome]
      cases effect with
      | withdraw checks =>
          rcases checks.exists_rest describes behind bounded with ⟨rest, restEq, _⟩
          simp only [restEq, Option.isNone_some]
      | cancel checks =>
          rcases checks.exists_rest describes behind bounded with
            ⟨released, rest, releasedEq, sameReleased, restEq, _⟩
          have stored := checks.stored
          have amounts := cancelAmounts_of_checks checks
          simp only [Invocation.env] at amounts
          simp only [stored, amounts, Option.bind_some, Option.any_some, releasedEq,
            sameReleased, restEq, Option.isNone_some, Bool.or_self]
      | _ => rfl

theorem uncounted_of_not_batch {transition : Transition (System Address) (Action Address)}
    (notBatch : batchReturned contract transition = false) : uncounted contract transition = 0 := by
  rw [uncounted]
  cases returned : returnedCall? contract transition with
  | none => rfl
  | some call =>
      cases call with
      | createStreamBatch => simp [batchReturned, returned] at notBatch
      | _ => rfl

theorem uncounted_of_batch (step : Step contract source action target)
    (batch : batchReturned contract ⟨source, action, target⟩ = true) :
    0 < uncounted contract ⟨source, action, target⟩ := by
  have someBatch : ∃ sender requests,
      returnedCall? contract ⟨source, action, target⟩ =
        some (.createStreamBatch sender requests) := by
    simp only [batchReturned] at batch
    split at batch
    · exact ⟨_, _, ‹_›⟩
    · contradiction
  rcases someBatch with ⟨sender, requests, returned⟩
  rcases exists_effect_of_returnedCall? step returned with
    ⟨invocation, reply, _, _, _, _, effect⟩
  rw [uncounted, returned, Option.elim_some, Call.batchAmount]
  exact effect.batchAmount_pos

theorem uncounted_nonneg (step : Step contract source action target) :
    0 ≤ uncounted contract ⟨source, action, target⟩ := by
  cases batch : batchReturned contract ⟨source, action, target⟩ with
  | false => exact (uncounted_of_not_batch batch).ge
  | true => exact (uncounted_of_batch step batch).le

/-- From an exact counter a step leads to one that is behind by what is not counted. -/
theorem Step.behindBy_uncounted (step : Step contract source action target)
    (reachable : Reachable contract source) (exact : source.state.Exact) :
    target.state.BehindBy (uncounted contract ⟨source, action, target⟩) := by
  rcases reachable.exists_book with ⟨book, describes⟩
  have behind := step.behindBy reachable (exact.behindBy describes) (by norm_num)
  rwa [zero_add] at behind

theorem Step.exact (step : Step contract source action target)
    (reachable : Reachable contract source) (exact : source.state.Exact)
    (notBatch : batchReturned contract ⟨source, action, target⟩ = false) : target.state.Exact := by
  have behindEq := (step.behindBy_uncounted reachable exact).held_eq
  rw [uncounted_of_not_batch notBatch, add_zero] at behindEq
  exact behindEq.symm

theorem Step.not_exact_of_batch (step : Step contract source action target)
    (reachable : Reachable contract source) (exact : source.state.Exact)
    (batch : batchReturned contract ⟨source, action, target⟩ = true) :
    ¬target.state.Exact := by
  have behindEq := (step.behindBy_uncounted reachable exact).held_eq
  have missed := uncounted_of_batch step batch
  intro exactAfter
  rw [State.Exact] at exactAfter
  omega

omit [DecidableEq Address] in
theorem exact_of_uninitialized {state : State Address}
    (uninitialized : state.Uninitialized contract) :
    state.Exact := by
  simp [State.Exact, State.tracked, State.held, uninitialized.totalSupply, uninitialized.streams]

/-- A history whose transitions all lead to exact counters ends in one. -/
theorem History.exact_of_forall {trace : Trace Address} {final : System Address}
    (history : History contract trace final)
    (targets : ∀ transition ∈ trace, transition.target.state.Exact) : final.state.Exact := by
  rcases history with ⟨start, uninitialized, run⟩
  cases run with
  | nil => exact exact_of_uninitialized uninitialized
  | snoc earlier last =>
      rw [List.forall_mem_append, List.forall_mem_singleton] at targets
      exact targets.2

/-- Without batches the counter is exact in every state of a run. -/
theorem History.exact {trace : Trace Address} {final : System Address}
    (history : History contract trace final)
    (noBatch : ∀ transition ∈ trace, batchReturned contract transition = false) :
    final.state.Exact := by
  induction history using History.induct with
  | nil start uninitialized => exact exact_of_uninitialized uninitialized
  | snoc trace source action target earlier step ih =>
      rw [List.forall_mem_append, List.forall_mem_singleton] at noBatch
      exact step.exact earlier.reachable (ih noBatch.1) noBatch.2

/-- Without batches every transition starts from an exact counter. -/
theorem History.exact_source {trace : Trace Address} {final : System Address}
    (history : History contract trace final)
    (noBatch : ∀ transition ∈ trace, batchReturned contract transition = false)
    {transition : Transition (System Address) (Action Address)}
    (transitionMem : transition ∈ trace) : transition.source.state.Exact := by
  rcases history.of_mem transitionMem with ⟨earlier, later, traceEq, reaching, _, _⟩
  apply reaching.exact
  intro other otherMem
  exact noBatch other (traceEq ▸ List.mem_append_left _ otherMem)

/-- The transition leads to an exact and nonnegative counter, without any fallback. -/
structure SupplyKept (contract : Address)
    (transition : Transition (System Address) (Action Address)) : Prop where
  exact : transition.target.state.tracked = transition.target.state.held
  nonneg : 0 ≤ transition.target.state.tracked
  noFallback : fallbackTaken contract transition = false

def SupplyKeptThroughout (contract : Address) (trace : Trace Address) : Prop :=
  ∀ transition ∈ trace, SupplyKept contract transition

/--
The tracked supply equals the escrow in every state of a run, is never negative
and never supplied by a fallback, exactly when no batch creation of the run
returns.
-/
theorem supply_kept_iff_no_batch {trace : Trace Address} {final : System Address}
    (history : History contract trace final) :
    SupplyKeptThroughout contract trace ↔
      ∀ transition ∈ trace, batchReturned contract transition = false := by
  constructor
  · intro kept transition transitionMem
    by_contra isBatch
    rw [Bool.not_eq_false] at isBatch
    rcases history.of_mem transitionMem with ⟨earlier, later, traceEq, reaching, step, _⟩
    have exactBefore : transition.source.state.Exact := by
      apply reaching.exact_of_forall
      intro other otherMem
      exact (kept other (traceEq ▸ List.mem_append_left _ otherMem)).exact
    exact step.not_exact_of_batch reaching.reachable exactBefore isBatch
      (kept transition transitionMem).exact
  · intro noBatch transition transitionMem
    rcases history.of_mem transitionMem with ⟨_, _, _, reaching, step, _⟩
    have exactBefore := history.exact_source noBatch transitionMem
    have exactAfter :=
      step.exact reaching.reachable exactBefore (noBatch transition transitionMem)
    rcases (reaching.snoc step).reachable.exists_book with ⟨book, describes⟩
    refine ⟨exactAfter, ?_, ?_⟩
    · rw [exactAfter]
      exact describes.held_nonneg
    · rcases reaching.reachable.exists_book with ⟨sourceBook, sourceDescribes⟩
      exact step.no_fallback reaching.reachable (exactBefore.behindBy sourceDescribes)
        (by norm_num)

/-- The calls that move tokens into the contract. -/
def Call.escrows : Call Address → Bool
  | .createStream .. | .createStreamBatch .. | .topUp .. => true
  | _ => false

/--
In a run in which no batch creation returns, every call that escrows tokens and
returns leaves an escrow of at most the cap in force during the call.
-/
theorem cap_bounds_escrow {trace : Trace Address} {final : System Address}
    (history : History contract trace final)
    (noBatch : ∀ transition ∈ trace, batchReturned contract transition = false)
    {transition : Transition (System Address) (Action Address)} (transitionMem : transition ∈ trace)
    {call : Call Address} (returned : returnedCall? contract transition = some call)
    (escrows : call.escrows = true) :
    transition.target.state.held ≤
      (transition.source.state.supplyCap.getD I128.max).val := by
  rcases history.of_mem transitionMem with ⟨_, _, _, reaching, step, _⟩
  have exactBefore := history.exact_source noBatch transitionMem
  have notBatch (sender : Address) (requests : HostVec (StreamRequest Address)) :
      call ≠ .createStreamBatch sender requests := by
    rintro rfl
    have kept := noBatch transition transitionMem
    simp [batchReturned, returned] at kept
  have checksCap : call.checksCap = true := by
    cases call with
    | createStreamBatch sender requests => exact absurd rfl (notBatch sender requests)
    | _ => exact escrows
  rcases reaching.reachable.exists_book with ⟨book, describes⟩
  rcases exists_effect_of_returnedCall? step returned with ⟨invocation, reply, _, _, _, _, effect⟩
  have bound := effect.held_le_cap_add describes (exactBefore.behindBy describes) checksCap
  rwa [add_zero] at bound

end Runs

namespace Sample

def capped (cap : I128) : List (Action Party) :=
  [callBy .admin (.initializeContract .admin .token), callBy .admin (.setSupplyCap cap)]

def fundOne : Action Party :=
  callBy .alice (.createStream .alice .bob (units 1000) 0 (time 200))

def fundBatch : Action Party :=
  callBy .alice (.createStreamBatch .alice ⟨[⟨.bob, units 1000, time 0, time 200⟩], by decide⟩)

end Sample

/-- The theorem applies to a run that withdraws from one of two streams. -/
theorem supply_kept_withdrawing :
    SupplyKeptThroughout .contract (Sample.trace Sample.withdrawing) :=
  (supply_kept_iff_no_batch (Sample.history (by decide))).mpr (by decide)

/-- Without the condition the counter can miss what a batch has escrowed. -/
theorem tracked_ne_held_after_batch :
    ∃ trace final,
      History Sample.Party.contract trace final ∧ final.state.admin = some .admin ∧
        final.state.tracked ≠ final.state.held := by
  refine ⟨Sample.trace (Sample.capped (Sample.units 100) ++ [Sample.fundBatch]),
    Sample.final (Sample.capped (Sample.units 100) ++ [Sample.fundBatch]), ?_, ?_, ?_⟩
  · exact Sample.history (by decide)
  · decide
  · decide

/-- The theorem applies to a stream that exhausts the cap. -/
theorem cap_bounds_escrow_fundOne :
    (Sample.transition (Sample.capped (Sample.units 1000)) Sample.fundOne).target.state.held ≤
      ((Sample.transition (Sample.capped (Sample.units 1000))
        Sample.fundOne).source.state.supplyCap.getD I128.max).val :=
  cap_bounds_escrow (Sample.history (by decide)) (by decide)
    (Sample.transition_mem _ _) rfl rfl

/-- Without the condition a batch can exceed the cap that is in force. -/
theorem escrow_exceeds_cap_after_batch :
    ∃ trace final,
      History Sample.Party.contract trace final ∧
        ∃ transition ∈ trace, ∃ call,
          returnedCall? .contract transition = some call ∧ call.escrows = true ∧
            ¬transition.target.state.held ≤
              (transition.source.state.supplyCap.getD I128.max).val := by
  refine ⟨Sample.trace (Sample.capped (Sample.units 100) ++ [Sample.fundBatch]),
    Sample.final (Sample.capped (Sample.units 100) ++ [Sample.fundBatch]),
    Sample.history (by decide), _, Sample.transition_mem _ _, _, rfl, rfl, ?_⟩
  decide

end StreamPay
