import StreamPay.Escrow

/-!
# Solvency

The contract keeps the tokens of all streams in one balance.  This file compares
that balance with the escrow.  Funding adds to both the same amount, and so does
a withdrawal take from both; a cancellation pays out the escrow of its stream
exactly when the recipient has not withdrawn more than the schedule releases at
that time.  Extending a stream after a withdrawal can lower the schedule below
what was withdrawn, and the cancellation that follows is then paid for by the
other streams.
-/

namespace StreamPay

open Foundation

variable {Address : Type}

/-- The party on whose behalf a call would move tokens into the contract. -/
def Call.sender : Call Address → Option Address
  | .createStream sender .. | .createStreamBatch sender _ | .topUp _ sender _ => some sender
  | .extendStream _ sender _ => some sender
  | _ => none

/-- The contract does not authorize the action as its sender. -/
def neverSelfFunded [DecidableEq Address] (contract : Address) : Action Address → Bool
  | .invoke invocation =>
      decide (invocation.call.sender = some contract → invocation.authorized contract = false)
  | .advance _ | .external _ => true

/-- The balance of the configured token covers the escrow. -/
def System.Solvent (contract : Address) (system : System Address) : Prop :=
  ∀ token, (system.state.token = none ∨ system.state.token = some token) →
    system.state.held ≤ system.state.balances token contract

variable [DecidableEq Address]

/-- A cancellation that returns finds no more withdrawn than the schedule releases then. -/
def cancelCovered (contract : Address)
    (transition : Transition (System Address) (Action Address)) : Bool :=
  match returnedCall? contract transition with
  | some (.cancel id _) =>
      (transition.source.state.streams.lookup id).all fun stream =>
        decide (stream.withdrawn.val ≤ stream.scheduled transition.source.ledger.timestamp)
  | _ => true

variable {contract : Address} {env : Env Address}
  {before after : State Address} {call : Call Address} {reply : Reply Address}

theorem le_move_of_ne {balances : Balances Address} {token source holder : Address} {amount : ℤ}
    (different : source ≠ holder) :
    balances token holder + amount ≤ balances.move token source holder amount token holder := by
  rw [Balances.move_same_token, if_neg (Ne.symm different), if_pos rfl]
  omega

theorem le_move_of_payment {balances : Balances Address} {token destination holder : Address}
    {amount : ℤ} (nonneg : 0 ≤ amount) :
    balances token holder - amount ≤
      balances.move token holder destination amount token holder := by
  rw [Balances.move_same_token, if_pos rfl]
  split
  · omega
  · omega

omit [DecidableEq Address] in
theorem token_eq_of_configured {state : State Address} {token other : Address}
    (configured : state.token = none ∨ state.token = some token)
    (tokenSet : state.token = some other) : other = token := by
  rcases configured with unset | same
  · rw [tokenSet] at unset
    contradiction
  · exact Option.some.inj (tokenSet.symm.trans same)

/-- The balance of the contract keeps up with the escrow. -/
theorem Effect.le_balance {book : Book Address} (describes : book.Describes ⟨env.ledger, before⟩)
    (isContract : env.currentContractAddress = contract)
    (effect : Effect env before call reply after)
    (notSelf : call.sender = some contract → env.authorized contract = false)
    (covered : ∀ id caller stream, call = .cancel id caller →
      before.streams.lookup id = some stream →
        stream.withdrawn.val ≤ stream.scheduled env.ledger.timestamp)
    {token : Address} (configured : before.token = none ∨ before.token = some token) :
    before.balances token contract + escrowChange before call reply ≤
      after.balances token contract := by
  subst isContract
  have notContract {sender : Address} (isSender : call.sender = some sender)
      (authorized : env.authorized sender = true) : sender ≠ env.currentContractAddress := by
    rintro rfl
    rw [notSelf isSender] at authorized
    contradiction
  cases effect with
  | initializeContract fresh => exact (add_zero _).le
  | scheduleAdminTransfer isAdmin authorized differs executeAfterEq => exact (add_zero _).le
  | executeAdminTransfer isAdmin pending deadline matured => exact (add_zero _).le
  | cancelAdminTransfer isAdmin authorized pending => exact (add_zero _).le
  | setAdmin isAdmin authorized => exact (add_zero _).le
  | setSupplyCap isAdmin authorized capPos => exact (add_zero _).le
  | createStream checks =>
      cases token_eq_of_configured configured checks.tokenSet
      exact le_move_of_ne (notContract rfl checks.authorized)
  | createStreamBatch checks =>
      cases token_eq_of_configured configured checks.tokenSet
      simp only [State.touchInstance_balances, State.setCounter_balances, openAll_balances,
        State.recordTransfer_balances, escrowChange, ← checks.aggregateEq]
      exact le_move_of_ne (notContract rfl checks.authorized)
  | topUp checks =>
      cases token_eq_of_configured configured checks.tokenSet
      exact le_move_of_ne (notContract rfl checks.authorized)
  | extendStream checks => exact (add_zero _).le
  | withdraw checks =>
      cases token_eq_of_configured configured checks.tokenSet
      exact le_move_of_payment checks.positive.le
  | @cancel id caller token vested recipientPaid senderRefund stream checks =>
      cases token_eq_of_configured configured checks.tokenSet
      have stored : book.streams.lookup id = some stream := describes.lookup checks.stored
      have wellFormed := book.wellFormed id stream stored
      have enough := covered id caller stream rfl checks.stored
      have onSchedule := checks.onSchedule wellFormed
      have recipientPaidEq := checks.recipientPaidEq
      have refundNonneg := checks.refund_nonneg wellFormed
      have amountsEq := checks.amounts_eq wellFormed
      have payout : before.balances token env.currentContractAddress - max 0 recipientPaid.val ≤
          before.balances.move token env.currentContractAddress stream.recipient
            (max 0 recipientPaid.val) token env.currentContractAddress :=
        le_move_of_payment (le_max_left _ _)
      have refund : _ ≤ (before.balances.move token env.currentContractAddress stream.recipient
          (max 0 recipientPaid.val)).move token env.currentContractAddress stream.sender
            (max 0 senderRefund.val) token env.currentContractAddress :=
        le_move_of_payment (le_max_left _ _)
      simp only [escrowChange, checks.stored, Option.elim_some]
      refine le_trans ?_ refund
      omega
  | query returned => exact (add_zero _).le

/-- Only the first call of all chooses the token. -/
theorem Effect.token_before {book : Book Address} (describes : book.Describes ⟨env.ledger, before⟩)
    (effect : Effect env before call reply after) {token : Address}
    (configured : after.token = none ∨ after.token = some token) :
    before.token = none ∨ before.token = some token := by
  cases effect with
  | initializeContract fresh =>
      left
      have sameKeys : before.token.isSome = before.admin.isSome := describes.sameKeys
      rw [fresh] at sameKeys
      simpa using sameKeys
  | _ => simpa using configured

/-- A step that pays out no more than its stream's escrow keeps the system solvent. -/
theorem Step.solvent {source target : System Address} {action : Action Address}
    (step : Step contract source action target) (reachable : Reachable contract source)
    (notSelf : neverSelfFunded contract action = true)
    (covered : cancelCovered contract ⟨source, action, target⟩ = true)
    (solvent : source.Solvent contract) : target.Solvent contract := by
  rcases reachable.exists_book with ⟨book, describes⟩
  cases stepEffect_of_step step with
  | advance later laterSequence => exact solvent
  | external noLoss =>
      intro token configured
      exact (solvent token configured).trans (noLoss token)
  | failed outcome => exact solvent
  | @returned invocation reply after outcome effect =>
      intro token configured
      have configuredBefore := effect.token_before describes configured
      have heldEq := effect.held_eq describes
      have coveredBefore (id : U64) (caller : Address) (stream : Stream Address)
          (isCancel : invocation.call = .cancel id caller)
          (stored : source.state.streams.lookup id = some stream) :
          stream.withdrawn.val ≤ stream.scheduled source.ledger.timestamp := by
        simp only [cancelCovered, returnedCall?_of_outcome outcome, isCancel, stored,
          Option.all_some] at covered
        exact of_decide_eq_true covered
      have balanceLe : source.state.balances token contract +
          escrowChange source.state invocation.call reply ≤ after.balances token contract :=
        effect.le_balance describes rfl (of_decide_eq_true notSelf) coveredBefore configuredBefore
      have enough := solvent token configuredBefore
      show after.held ≤ after.balances token contract
      omega

/-- Runs in which every cancellation is covered are solvent in every state. -/
theorem History.solvent {trace : Trace Address} {final : System Address}
    (history : History contract trace final)
    (notSelf : ∀ transition ∈ trace, neverSelfFunded contract transition.label = true)
    (covered : ∀ transition ∈ trace, cancelCovered contract transition = true) :
    final.Solvent contract := by
  induction history using History.induct with
  | nil start uninitialized =>
      intro token _
      have noEscrow : start.state.held = 0 := by
        rw [State.held, uninitialized.streams, FiniteMap.total_empty]
      rw [noEscrow]
      exact uninitialized.solvent token
  | snoc trace source action target earlier step ih =>
      rw [List.forall_mem_append, List.forall_mem_singleton] at notSelf covered
      exact step.solvent earlier.reachable notSelf.2 covered.2 (ih notSelf.1 covered.1)

/--
If every successful cancellation of a run finds no more withdrawn than the
schedule releases at that time, then in every state of the run the contract's
balance of the streamed token covers what is owed on all active streams.
-/
theorem balance_covers_escrow {trace : Trace Address} {final : System Address}
    (history : History contract trace final)
    (notSelf : ∀ transition ∈ trace, neverSelfFunded contract transition.label = true)
    (covered : ∀ transition ∈ trace, cancelCovered contract transition = true) {token : Address}
    (configured : final.state.token = some token) :
    final.state.held ≤ final.state.balances token contract :=
  history.solvent notSelf covered token (.inr configured)

namespace Sample

/-- Then the withdrawn stream is cancelled. -/
def covered : List (Action Party) :=
  withdrawing ++ [callBy .alice (.cancel 0 .alice)]

/-- Then the withdrawn stream is extended and cancelled. -/
def overpaid : List (Action Party) :=
  withdrawing ++
    [callBy .alice (.extendStream 0 .alice (time 1100)), callBy .alice (.cancel 0 .alice)]

end Sample

/-- The theorem applies to a run with a withdrawal and a cancellation. -/
theorem balance_covers_escrow_covered :
    (Sample.final Sample.covered).state.held ≤
      (Sample.final Sample.covered).state.balances .token .contract :=
  balance_covers_escrow (Sample.history (by decide)) (by decide)
    (by decide) (by decide)

/--
Without the condition the balance can fall short: after the extension the
schedule of the first stream is below what was withdrawn from it, and its
cancellation refunds tokens that belong to the second stream.
-/
theorem balance_short_after_overpaid :
    ∃ trace final,
      History Sample.Party.contract trace final ∧
        (∀ transition ∈ trace,
          neverSelfFunded Sample.Party.contract transition.label = true) ∧
          final.state.token = some .token ∧
            ¬final.state.held ≤ final.state.balances .token .contract := by
  refine ⟨Sample.trace Sample.overpaid, Sample.final Sample.overpaid, ?_, ?_, ?_, ?_⟩
  · exact Sample.history (by decide)
  · decide
  · decide
  · decide

end StreamPay
