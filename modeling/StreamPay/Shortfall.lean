import StreamPay.Solvency
import StreamPay.Transcript

/-!
# The balance of the contract, to the unit

Solvency bounds the balance of the contract by its escrow where nothing is
overpaid.  This file computes the balance in every run.

The log alone determines the escrow: what was announced as escrowed, less what was
announced as paid out.  The balance differs from it by what others have given to the
contract and by what cancellations have refunded although it was already withdrawn,
which the log shows as negative payments to recipients.  Transfers of the contract
to itself move nothing, although the books count them.
-/

namespace StreamPay

open Foundation

variable {Address : Type}

/-- What an announced change adds to the escrow. -/
def Event.escrowed : Event Address → ℤ
  | .created _ _ _ total => total.val
  | .toppedup _ _ amount _ => amount.val
  | .withdrawn _ _ amount => -amount.val
  | .cancelled _ _ senderRefund recipientPaid => -(senderRefund.val + recipientPaid.val)
  | _ => 0

/-- What a cancellation refunds although the recipient has withdrawn it. -/
def Event.overpaid : Event Address → ℤ
  | .cancelled _ _ _ recipientPaid => max 0 (-recipientPaid.val)
  | _ => 0

/-- What a transfer to itself should have added to the balance according to the books. -/
def Purpose.booked (purpose : Purpose) (amount : ℤ) : ℤ :=
  match purpose with
  | .funding | .topUp _ => amount
  | .payout _ | .refund _ => -amount

variable [DecidableEq Address]

/-- The part of the booked amount by which a transfer does not change the balance. -/
def Transfer.circular (contract : Address) (record : Transfer Address) : ℤ :=
  if record.source = contract ∧ record.destination = contract then
    -record.purpose.booked record.amount.val
  else
    0

/-- What others move to a holder in a transition. -/
def donated (holder token : Address)
    (transition : Transition (System Address) (Action Address)) : ℤ :=
  match transition.label with
  | .external balances =>
      balances token holder - transition.source.state.balances token holder
  | .advance _ | .invoke _ => 0

section Escrow

variable {book : Book Address} {env : Env Address} {before after : State Address}
  {call : Call Address} {reply : Reply Address}

omit [DecidableEq Address] in
theorem tally_escrowed_zipWith {sender : Address} {id : U64}
    {requests : List (StreamRequest Address)} :
    tally Event.escrowed
      (List.zipWith
        (fun id request => Event.created id sender request.recipient request.totalAmount)
        (idsFrom id requests.length) requests) = amountSum requests := by
  induction requests generalizing id with
  | nil => rfl
  | cons request rest ih =>
      rw [List.length_cons, idsFrom, List.zipWith_cons_cons, tally_cons, ih, amountSum_cons]
      rfl

/-- A call announces by how much it changes the escrow. -/
theorem Effect.tally_escrowed (describes : book.Describes ⟨env.ledger, before⟩)
    (effect : Effect env before call reply after) :
    tally Event.escrowed (call.announcement env.ledger.timestamp before reply) =
      escrowChange before call reply := by
  cases effect with
  | executeAdminTransfer isAdmin pending deadline matured =>
      simp [Call.announcement, isAdmin, pending, Event.escrowed, escrowChange]
  | setAdmin isAdmin authorized =>
      simp [Call.announcement, isAdmin, Event.escrowed, escrowChange]
  | setSupplyCap isAdmin authorized capPos =>
      simp [Call.announcement, isAdmin, Event.escrowed, escrowChange]
  | createStream checks => exact add_zero _
  | createStreamBatch checks => exact tally_escrowed_zipWith
  | topUp checks => exact add_zero _
  | extendStream checks =>
      simp [Call.announcement, checks.stored, Event.escrowed, escrowChange]
  | withdraw checks => exact add_zero _
  | @cancel id caller token vested recipientPaid senderRefund stream checks =>
      have wellFormed := book.wellFormed id stream (describes.lookup checks.stored)
      have amountsEq := checks.amounts_eq wellFormed
      simp only [Call.announcement, checks.stored, Option.bind_some,
        cancelAmounts_of_checks checks, Option.map_some, Option.toList_some, tally_cons,
        tally_nil, Event.escrowed, escrowChange, Option.elim_some]
      omega
  | _ => rfl

end Escrow

variable {contract token : Address} {source target start final : System Address}
  {action : Action Address} {trace : Trace Address}

theorem Step.held_eq (step : Step contract source action target)
    (reachable : Reachable contract source) :
    target.state.held = source.state.held +
      tally Event.escrowed (announcement contract ⟨source, action, target⟩) := by
  rcases reachable.exists_book with ⟨book, describes⟩
  cases stepEffect_of_step step with
  | advance later laterSequence => exact (add_zero _).symm
  | external noLoss => exact (add_zero _).symm
  | failed outcome =>
      simp only [announcement, outcome]
      exact (add_zero _).symm
  | returned outcome effect =>
      simp only [announcement, outcome]
      exact (effect.held_eq describes).trans
        (congrArg _ (effect.tally_escrowed describes).symm)

/--
In every state of a run the log determines the escrow: it is the sum of all created
and topped up amounts, less all withdrawals and both amounts that every cancellation
announces, with their sign.  A payment that is announced as negative makes up for a
refund that exceeds what the stream held.
-/
theorem escrow_eq_log (history : History contract trace final) :
    final.state.held = tally Event.escrowed final.state.events := by
  induction history using History.induct with
  | nil start uninitialized =>
      rw [State.held, uninitialized.streams, FiniteMap.total_empty, uninitialized.events, tally_nil]
  | snoc trace source action target earlier step ih =>
      rw [step.held_eq earlier.reachable, step.events_eq, tally_append, ih]

/-- The theorem applies to a run with every kind of event about a stream. -/
theorem escrow_eq_log_announcing :
    (Sample.final Sample.announcing).state.held =
      tally Event.escrowed (Sample.final Sample.announcing).state.events :=
  escrow_eq_log (Sample.history (by decide))

/-- What the balance holds apart from transfers of the contract to itself. -/
def State.settled (contract token : Address) (state : State Address) : ℤ :=
  state.balances token contract - tally (Transfer.circular contract) state.transfers

/-- Only the balances and the transfers count. -/
theorem settled_congr {first second : State Address} (balances : first.balances = second.balances)
    (transfers : first.transfers = second.transfers) :
    first.settled contract token = second.settled contract token := by
  rw [State.settled, State.settled, balances, transfers]

section Settled

variable (state : State Address) (record : Transfer Address)

/-- A transfer into the contract adds what the books say. -/
theorem settled_of_funding (isToken : record.token = token)
    (destination : record.destination = contract)
    (booked : record.purpose.booked record.amount.val = record.amount.val) :
    (state.recordTransfer record).settled contract token =
      state.settled contract token + record.amount.val := by
  simp only [State.settled, State.recordTransfer_balances, State.recordTransfer_transfers,
    tally_append, tally_cons, tally_nil, isToken, Balances.move_same_token, Transfer.circular,
    destination, booked, and_true, if_true, eq_comm (a := contract)]
  split
  · omega
  · omega

/-- A transfer out of the contract takes what the books say. -/
theorem settled_of_payment (isToken : record.token = token) (source : record.source = contract)
    (booked : record.purpose.booked record.amount.val = -record.amount.val) :
    (state.recordTransfer record).settled contract token =
      state.settled contract token - record.amount.val := by
  simp only [State.settled, State.recordTransfer_balances, State.recordTransfer_transfers,
    tally_append, tally_cons, tally_nil, isToken, Balances.move_same_token, Transfer.circular,
    source, booked, true_and, if_true, eq_comm (a := contract)]
  split
  · omega
  · omega

theorem settled_of_positive_payment (isToken : record.token = token)
    (source : record.source = contract)
    (booked : record.purpose.booked record.amount.val = -record.amount.val) :
    (state.recordPositive record).settled contract token =
      state.settled contract token - max 0 record.amount.val := by
  by_cases positive : 0 < record.amount.val
  · have recorded : state.recordPositive record = state.recordTransfer record := by
      simp [State.recordPositive, State.recordTransfer, positive, max_eq_right positive.le]
    rw [recorded, settled_of_payment state record isToken source booked,
      max_eq_right positive.le]
  · have nothing : max 0 record.amount.val = 0 := max_eq_left (not_lt.mp positive)
    have unrecorded : state.recordPositive record = state := by
      simp [State.recordPositive, positive, nothing]
    rw [unrecorded, nothing, sub_zero]

end Settled

omit [DecidableEq Address] in
theorem tally_overpaid_zipWith {sender : Address} {ids : List U64}
    {requests : List (StreamRequest Address)} :
    tally Event.overpaid
      (List.zipWith
        (fun id request => Event.created id sender request.recipient request.totalAmount)
        ids requests) = 0 := by
  induction ids generalizing requests with
  | nil => rfl
  | cons id ids ih =>
      cases requests with
      | nil => rfl
      | cons request rest =>
          rw [List.zipWith_cons_cons, tally_cons, ih]
          rfl

section Moves

variable {env : Env Address} {before after : State Address} {call : Call Address}
  {reply : Reply Address}

/-- A batch moves the sum of its amounts. -/
theorem CreateBatchChecks.settled_eq {sender : Address}
    {requests : HostVec (StreamRequest Address)} {aggregate : I128} {nextCounter : U64}
    (checks : CreateBatchChecks env before sender requests aggregate token nextCounter)
    (balances : after.balances = (before.recordTransfer
      ⟨token, sender, env.currentContractAddress, aggregate, .funding⟩).balances)
    (transfers : after.transfers = (before.recordTransfer
      ⟨token, sender, env.currentContractAddress, aggregate, .funding⟩).transfers) :
    after.settled env.currentContractAddress token =
      before.settled env.currentContractAddress token + amountSum requests.toList := by
  rw [settled_congr balances transfers, ← checks.aggregateEq]
  exact settled_of_funding before _ rfl rfl rfl

/-- A cancellation moves what is owed on the stream, and what it overpays. -/
theorem CancelChecks.settled_eq {id : U64} {caller : Address}
    {vested recipientPaid senderRefund : I128} {stream : Stream Address} {now : U64}
    (checks : CancelChecks env before id caller stream vested recipientPaid senderRefund token)
    (wellFormed : stream.WellFormed now) :
    ((before.recordPositive
        ⟨token, env.currentContractAddress, stream.recipient, recipientPaid,
          .payout id⟩).recordPositive
      ⟨token, env.currentContractAddress, stream.sender, senderRefund, .refund id⟩).settled
        env.currentContractAddress token =
      before.settled env.currentContractAddress token - stream.escrow -
        max 0 (-recipientPaid.val) := by
  have amountsEq := checks.amounts_eq wellFormed
  have refundNonneg := checks.refund_nonneg wellFormed
  have paid := settled_of_positive_payment before
    ⟨token, env.currentContractAddress, stream.recipient, recipientPaid, .payout id⟩ rfl rfl rfl
  have refunded := settled_of_positive_payment
    (before.recordPositive
      ⟨token, env.currentContractAddress, stream.recipient, recipientPaid, .payout id⟩)
    ⟨token, env.currentContractAddress, stream.sender, senderRefund, .refund id⟩ rfl rfl rfl
  refine refunded.trans ?_
  dsimp only at paid ⊢
  omega

/-- A call moves what it announces, and what it announces as overpaid. -/
theorem Effect.settled_eq {book : Book Address} (describes : book.Describes ⟨env.ledger, before⟩)
    (effect : Effect env before call reply after)
    (configured : before.token = none ∨ before.token = some token) :
    after.settled env.currentContractAddress token =
      before.settled env.currentContractAddress token + escrowChange before call reply -
        tally Event.overpaid (call.announcement env.ledger.timestamp before reply) := by
  cases effect with
  | executeAdminTransfer isAdmin pending deadline matured =>
      simp [State.settled, Call.announcement, isAdmin, pending, Event.overpaid, escrowChange]
  | setAdmin isAdmin authorized =>
      simp [State.settled, Call.announcement, isAdmin, Event.overpaid, escrowChange]
  | setSupplyCap isAdmin authorized capPos =>
      simp [State.settled, Call.announcement, isAdmin, Event.overpaid, escrowChange]
  | @createStream sender recipient other totalAmount newSupply startTime endTime next checks =>
      cases token_eq_of_configured configured checks.tokenSet
      simp only [Call.announcement, tally_cons, tally_nil, Event.overpaid, escrowChange, add_zero,
        sub_zero]
      have funded := settled_of_funding before
        ⟨token, sender, env.currentContractAddress, totalAmount, .funding⟩ rfl rfl rfl
      rw [← funded]
      simp [State.settled]
  | createStreamBatch checks =>
      cases token_eq_of_configured configured checks.tokenSet
      simp only [Call.announcement, tally_overpaid_zipWith, escrowChange, sub_zero]
      exact checks.settled_eq openAll_balances openAll_transfers
  | @topUp id sender other amount newTotal newSupply stream checks =>
      cases token_eq_of_configured configured checks.tokenSet
      simp only [Call.announcement, tally_cons, tally_nil, Event.overpaid, escrowChange, add_zero,
        sub_zero]
      have funded := settled_of_funding before
        ⟨token, sender, env.currentContractAddress, amount, .topUp id⟩ rfl rfl rfl
      rw [← funded]
      simp [State.settled]
  | extendStream checks =>
      simp [State.settled, Call.announcement, checks.stored, Event.overpaid, escrowChange]
  | @withdraw id recipient other amount withdrawn stream checks =>
      cases token_eq_of_configured configured checks.tokenSet
      simp only [Call.announcement, tally_cons, tally_nil, Event.overpaid, escrowChange, add_zero,
        sub_zero, ← sub_eq_add_neg]
      have paid := settled_of_payment before
        ⟨token, env.currentContractAddress, recipient, amount, .payout id⟩ rfl rfl rfl
      exact (settled_congr rfl rfl).trans paid
  | @cancel id caller other vested recipientPaid senderRefund stream checks =>
      cases token_eq_of_configured configured checks.tokenSet
      have wellFormed := book.wellFormed id stream (describes.lookup checks.stored)
      simp only [Call.announcement, checks.stored, Option.bind_some,
        cancelAmounts_of_checks checks, Option.map_some, Option.toList_some, tally_cons,
        tally_nil, Event.overpaid, escrowChange, Option.elim_some, add_zero, ← sub_eq_add_neg]
      exact checks.settled_eq wellFormed
  | _ => simp [State.settled, Call.announcement, Event.overpaid, escrowChange]

end Moves

/-- What the contract holds beyond its escrow, with everything overpaid made good. -/
def System.surplus (contract token : Address) (system : System Address) : ℤ :=
  system.state.settled contract token - system.state.held +
    tally Event.overpaid system.state.events

/-- Only gifts change the surplus. -/
theorem Step.surplus_eq (step : Step contract source action target)
    (reachable : Reachable contract source)
    (configured : source.state.token = none ∨ source.state.token = some token) :
    target.surplus contract token =
      source.surplus contract token + donated contract token ⟨source, action, target⟩ := by
  rcases reachable.exists_book with ⟨book, describes⟩
  cases stepEffect_of_step step with
  | advance later laterSequence => exact (add_zero _).symm
  | external noLoss =>
      simp only [System.surplus, State.settled, State.held, donated]
      omega
  | failed outcome => exact (add_zero _).symm
  | @returned invocation reply after outcome effect =>
      have settledEq := effect.settled_eq describes configured
      have heldEq := effect.held_eq describes
      have eventsEq := effect.events_eq
      simp only [Invocation.env] at settledEq eventsEq
      simp only [System.surplus, donated, eventsEq, tally_append]
      omega

theorem Step.token_before (step : Step contract source action target)
    (reachable : Reachable contract source)
    (configured : target.state.token = none ∨ target.state.token = some token) :
    source.state.token = none ∨ source.state.token = some token := by
  rcases reachable.exists_book with ⟨book, describes⟩
  cases stepEffect_of_step step with
  | advance later laterSequence => exact configured
  | external noLoss => exact configured
  | failed outcome => exact configured
  | returned outcome effect => exact effect.token_before describes configured

/-- The token of a run is the one that the run ends with. -/
theorem token_before_of_run (reachable : Reachable contract start)
    (run : Run (Step contract) start trace final)
    (configured : final.state.token = none ∨ final.state.token = some token) :
    start.state.token = none ∨ start.state.token = some token := by
  induction run with
  | nil => exact configured
  | snoc earlier last ih =>
      rcases reachable with ⟨reaching, history⟩
      exact ih (last.token_before (history.append earlier).reachable configured)

/--
In every run the balance of the contract is its initial balance, what others have
given to it and the escrow, less what cancellations have overpaid and up to the
transfers of the contract to itself.
-/
theorem balance_eq_escrow_less_overpaid (uninitialized : start.state.Uninitialized contract)
    (run : Run (Step contract) start trace final) (configured : final.state.token = some token) :
    final.state.balances token contract =
      start.state.balances token contract + tally (donated contract token) trace +
          final.state.held - tally Event.overpaid final.state.events +
        tally (Transfer.circular contract) final.state.transfers := by
  have surplusEq : final.surplus contract token =
      start.surplus contract token + tally (donated contract token) trace := by
    apply run.measure_eq_tally
    rintro ⟨source, action, target⟩ transitionMem
    have history : History contract trace final := ⟨start, uninitialized, run⟩
    rcases history.of_mem transitionMem with ⟨_, _, _, reaching, step, leaving⟩
    have configuredTarget := token_before_of_run (reaching.snoc step).reachable leaving
      (.inr configured)
    exact step.surplus_eq reaching.reachable (step.token_before reaching.reachable configuredTarget)
  have noEscrow : start.state.held = 0 := by
    rw [State.held, uninitialized.streams, FiniteMap.total_empty]
  simp only [System.surplus, State.settled, noEscrow, uninitialized.transfers,
    uninitialized.events, tally_nil] at surplusEq
  omega

/-- The theorem applies to the run whose last cancellation overpays. -/
theorem balance_eq_escrow_less_overpaid_overpaid :
    (Sample.final Sample.overpaid).state.balances .token .contract =
      Sample.start.state.balances .token .contract +
            tally (donated .contract .token) (Sample.trace Sample.overpaid) +
          (Sample.final Sample.overpaid).state.held -
            tally Event.overpaid (Sample.final Sample.overpaid).state.events +
        tally (Transfer.circular .contract) (Sample.final Sample.overpaid).state.transfers :=
  balance_eq_escrow_less_overpaid Sample.start_uninitialized (run_execute (by decide)) (by decide)

example : tally Event.overpaid (Sample.final Sample.overpaid).state.events = 450 := by
  decide

end StreamPay
