import StreamPay.Foundation.Replay
import StreamPay.Shortfall

/-!
# Everybody's balance from the log

An observer of the log can tell what the contract has done to the balance of every
address.  A `created` event names the two parties of a stream, which a cancellation
does not: it announces two amounts, and the observer looks up who has received them.
Announced amounts that are negative have not been paid.

With what others have moved, the log then gives all balances of the streamed token.
-/

namespace StreamPay

open Foundation

variable {Address : Type}

/-- The sender and the recipient of a stream. -/
def Stream.parties (stream : Stream Address) : Address × Address :=
  (stream.sender, stream.recipient)

def State.parties (state : State Address) (id : U64) : Option (Address × Address) :=
  (state.streams.lookup id).map Stream.parties

/-- What an observer knows: the parties of every stream, and what everybody has gained. -/
structure Settlement (Address : Type) where
  parties : U64 → Option (Address × Address)
  flow : Address → ℤ

/-- Nothing is known of an empty log. -/
def Settlement.opening : Settlement Address where
  parties _ := none
  flow _ := 0

variable [DecidableEq Address]

/-- Adds a payment to what everybody has gained. -/
def flowAfter (source destination : Address) (amount : ℤ) (flow : Address → ℤ) : Address → ℤ :=
  fun holder =>
    flow holder - (if holder = source then amount else 0) +
      (if holder = destination then amount else 0)

namespace Settlement

/-- Pays the parties of a cancelled stream what was announced. -/
def close (contract : Address) (settlement : Settlement Address)
    (senderRefund recipientPaid : ℤ) : Option (Address × Address) → Settlement Address
  | some (sender, recipient) =>
      { settlement with
        flow := flowAfter contract sender (max 0 senderRefund)
          (flowAfter contract recipient (max 0 recipientPaid) settlement.flow) }
  | none => settlement

/-- What an event makes of the settlement. -/
def after (contract : Address) (settlement : Settlement Address) :
    Event Address → Settlement Address
  | .created id sender recipient total =>
      { parties := Function.update settlement.parties id (some (sender, recipient))
        flow := flowAfter sender contract total.val settlement.flow }
  | .toppedup _ sender amount _ =>
      { settlement with flow := flowAfter sender contract amount.val settlement.flow }
  | .withdrawn _ recipient amount =>
      { settlement with flow := flowAfter contract recipient amount.val settlement.flow }
  | .cancelled id _ senderRefund recipientPaid =>
      settlement.close contract senderRefund.val recipientPaid.val (settlement.parties id)
  | _ => settlement

end Settlement

/-- What the observer of a log knows. -/
def settle (contract : Address) (settlement : Settlement Address) (log : List (Event Address)) :
    Settlement Address :=
  replay (Settlement.after contract) settlement log

theorem flowAfter_add {source destination : Address} {first second : ℤ} {flow : Address → ℤ} :
    flowAfter source destination second (flowAfter source destination first flow) =
      flowAfter source destination (first + second) flow := by
  funext holder
  simp only [flowAfter]
  split
  · split
    · omega
    · omega
  · split
    · omega
    · omega

/-- A transfer of the token adds the payment to the balances. -/
theorem move_eq_flowAfter {balances : Balances Address} {token source destination : Address}
    {amount : ℤ} :
    balances.move token source destination amount token =
      flowAfter source destination amount (balances token) := by
  funext holder
  exact Balances.move_same_token balances token source destination holder amount

theorem flowAfter_sub {source destination holder : Address} {amount : ℤ}
    {first second : Address → ℤ} :
    flowAfter source destination amount first holder -
        flowAfter source destination amount second holder = first holder - second holder := by
  simp only [flowAfter]
  omega

section Call

variable {env : Env Address} {before after : State Address} {call : Call Address}
  {reply : Reply Address} {settlement : Settlement Address} {contract token : Address}

omit [DecidableEq Address] in
theorem parties_insert {id : U64} (new : Stream Address)
    (inserted : after.streams = before.streams.insert id new) :
    after.parties = Function.update before.parties id (some new.parties) := by
  funext other
  rw [State.parties, inserted]
  by_cases isHere : other = id
  · subst other
    rw [Finmap.lookup_insert, Function.update_self, Option.map_some]
  · rw [Finmap.lookup_insert_of_ne _ isHere, Function.update_of_ne isHere, State.parties]

omit [DecidableEq Address] in
theorem parties_of_insert {id : U64} {stream : Stream Address} (new : Stream Address)
    (stored : before.streams.lookup id = some stream) (same : new.parties = stream.parties)
    (inserted : after.streams = before.streams.insert id new) : after.parties = before.parties := by
  rw [parties_insert new inserted, same, Function.update_eq_self_iff, State.parties, stored,
    Option.map_some]

/-- The observer of a batch knows the parties of its streams and the sum of the amounts. -/
theorem settle_batch (contract sender : Address) (requests : List (StreamRequest Address))
    (id : U64) {streams : Finmap fun _ : U64 => Stream Address}
    (known : settlement.parties = fun other => (streams.lookup other).map Stream.parties) :
    (settle contract settlement (createdFrom sender id requests)).parties =
        (fun other => ((storeFrom streams id
          (requests.map (StreamRequest.toStream sender))).lookup other).map Stream.parties) ∧
      (settle contract settlement (createdFrom sender id requests)).flow =
        flowAfter sender contract (amountSum requests) settlement.flow := by
  induction requests generalizing settlement id streams with
  | nil =>
      refine ⟨known, ?_⟩
      funext holder
      simp [createdFrom, settle, replay, flowAfter]
  | cons request rest ih =>
      have knownNext : (Settlement.after contract settlement
          (.created id sender request.recipient request.totalAmount)).parties =
            fun other => ((streams.insert id (request.toStream sender)).lookup other).map
              Stream.parties := by
        funext other
        simp only [Settlement.after, known]
        by_cases isHere : other = id
        · subst other
          rw [Function.update_self, Finmap.lookup_insert]
          rfl
        · rw [Function.update_of_ne isHere, Finmap.lookup_insert_of_ne _ isHere]
      rcases ih id.next knownNext with ⟨partiesEq, flowEq⟩
      refine ⟨partiesEq, flowEq.trans ?_⟩
      rw [amountSum_cons]
      exact flowAfter_add

/-- What a call announces tells the observer the parties and the payments of the call. -/
structure Settles (contract token : Address) (settlement next : Settlement Address)
    (before after : State Address) : Prop where
  parties : next.parties = after.parties
  balances : ∀ holder, after.balances token holder - next.flow holder =
    before.balances token holder - settlement.flow holder

/-- A transfer that the observer counts. -/
theorem Settles.of_move {next : Settlement Address} {source destination : Address} {amount : ℤ}
    (parties : next.parties = after.parties)
    (balances : after.balances = before.balances.move token source destination amount)
    (flow : next.flow = flowAfter source destination amount settlement.flow) :
    Settles contract token settlement next before after := by
  refine ⟨parties, fun holder => ?_⟩
  rw [balances, flow, move_eq_flowAfter]
  exact flowAfter_sub

/-- A batch opens its streams and takes the sum of their amounts. -/
theorem settles_of_batch {sender : Address} {requests : List (StreamRequest Address)} {id : U64}
    (known : settlement.parties = before.parties)
    (streams : after.streams =
      storeFrom before.streams id (requests.map (StreamRequest.toStream sender)))
    (balances : after.balances =
      before.balances.move token sender contract (amountSum requests)) :
    Settles contract token settlement
      (settle contract settlement (createdFrom sender id requests)) before after := by
  rcases settle_batch contract sender requests id known with ⟨partiesEq, flowEq⟩
  refine .of_move (partiesEq.trans ?_) balances flowEq
  funext other
  rw [State.parties, streams]

/-- A cancellation pays both parties what it announces, unless that is negative. -/
theorem settles_of_cancel {id : U64} {caller : Address} {stream : Stream Address}
    {vested recipientPaid senderRefund : I128} (known : settlement.parties = before.parties)
    (stored : before.streams.lookup id = some stream)
    (streams : after.streams = before.streams.insert id (stream.closed vested))
    (balances : after.balances =
      (before.balances.move token contract stream.recipient (max 0 recipientPaid.val)).move token
        contract stream.sender (max 0 senderRefund.val)) :
    Settles contract token settlement
      (settle contract settlement [.cancelled id caller senderRefund recipientPaid]) before
      after := by
  have isKnown : settlement.parties id = some (stream.sender, stream.recipient) := by
    rw [known, State.parties, stored]
    rfl
  have settled : settle contract settlement [.cancelled id caller senderRefund recipientPaid] =
      settlement.close contract senderRefund.val recipientPaid.val
        (some (stream.sender, stream.recipient)) :=
    congrArg (settlement.close _ _ _) isKnown
  rw [settled]
  refine ⟨known.trans (parties_of_insert (stream.closed vested) stored rfl streams).symm,
    fun holder => ?_⟩
  rw [balances, move_eq_flowAfter, move_eq_flowAfter, Settlement.close, flowAfter_sub]
  exact flowAfter_sub

theorem Effect.settles (effect : Effect env before call reply after)
    (known : settlement.parties = before.parties)
    (configured : before.token = none ∨ before.token = some token) :
    Settles env.currentContractAddress token settlement
      (settle env.currentContractAddress settlement
        (call.announcement env.ledger.timestamp before reply)) before after := by
  cases effect with
  | executeAdminTransfer isAdmin pending deadline matured =>
      simp only [Call.announcement, isAdmin, pending]
      exact ⟨known, fun holder => rfl⟩
  | setAdmin isAdmin authorized =>
      simp only [Call.announcement, isAdmin]
      exact ⟨known, fun holder => rfl⟩
  | setSupplyCap isAdmin authorized capPos =>
      simp only [Call.announcement, isAdmin]
      exact ⟨known, fun holder => rfl⟩
  | @createStream sender recipient other totalAmount newSupply startTime endTime next checks =>
      cases token_eq_of_configured configured checks.tokenSet
      refine .of_move ?_ rfl rfl
      show Function.update settlement.parties (before.counter.getD 0) _ = _
      rw [known]
      let opened := Stream.opened sender recipient totalAmount
        (normalizeStartTime env.ledger.timestamp startTime) endTime
      exact (parties_insert opened rfl).symm
  | createStreamBatch checks =>
      cases token_eq_of_configured configured checks.tokenSet
      rw [Call.announcement, ← createdFrom_eq_zipWith]
      refine settles_of_batch known openAll_streams ?_
      rw [← checks.aggregateEq]
      exact openAll_balances
  | @topUp id sender other amount newTotal newSupply stream checks =>
      cases token_eq_of_configured configured checks.tokenSet
      refine .of_move ?_ rfl rfl
      exact known.trans (parties_of_insert (stream.raised newTotal) checks.stored rfl rfl).symm
  | @extendStream id sender newEnd stream checks =>
      simp only [Call.announcement, checks.stored]
      refine ⟨?_, fun holder => rfl⟩
      exact known.trans (parties_of_insert (stream.prolonged newEnd) checks.stored rfl rfl).symm
  | @withdraw id recipient other amount withdrawn stream checks =>
      cases token_eq_of_configured configured checks.tokenSet
      refine .of_move ?_ rfl rfl
      exact known.trans (parties_of_insert (stream.paidOut withdrawn) checks.stored rfl rfl).symm
  | @cancel id caller other vested recipientPaid senderRefund stream checks =>
      cases token_eq_of_configured configured checks.tokenSet
      have announced : Call.announcement env.ledger.timestamp before (.cancel id caller) .unit =
          [.cancelled id caller senderRefund recipientPaid] := by
        simp [Call.announcement, checks.stored, cancelAmounts_of_checks checks]
      rw [announced]
      exact settles_of_cancel known checks.stored rfl rfl
  | _ => exact ⟨known, fun holder => rfl⟩

end Call

variable {contract token : Address} {source target start final : System Address}
  {action : Action Address} {trace : Trace Address}

/-- A step keeps the observer informed, up to what others have moved. -/
theorem Step.settles (step : Step contract source action target) {settlement : Settlement Address}
    (known : settlement.parties = source.state.parties)
    (configured : source.state.token = none ∨ source.state.token = some token) :
    (settle contract settlement (announcement contract ⟨source, action, target⟩)).parties =
        target.state.parties ∧
      ∀ holder,
        target.state.balances token holder -
            (settle contract settlement (announcement contract ⟨source, action, target⟩)).flow
              holder =
          source.state.balances token holder - settlement.flow holder +
            donated holder token ⟨source, action, target⟩ := by
  cases stepEffect_of_step step with
  | advance later laterSequence => exact ⟨known, fun holder => (add_zero _).symm⟩
  | external noLoss =>
      refine ⟨known, fun holder => ?_⟩
      simp only [announcement, settle, replay, List.foldl_nil, donated]
      omega
  | failed outcome =>
      simp only [announcement, outcome]
      exact ⟨known, fun holder => (add_zero _).symm⟩
  | returned outcome effect =>
      have settles := effect.settles known configured
      simp only [announcement, outcome]
      exact ⟨settles.parties, fun holder => (settles.balances holder).trans (add_zero _).symm⟩

/-- The observer of a run, from the events in the log of its last state. -/
def System.settlement (contract : Address) (system : System Address) : Settlement Address :=
  settle contract .opening system.state.events

theorem Step.settlement_eq (step : Step contract source action target) :
    target.settlement contract =
      settle contract (source.settlement contract)
        (announcement contract ⟨source, action, target⟩) := by
  rw [System.settlement, step.events_eq, settle, replay_append]
  rfl

/--
In every run the log names the parties of every stream, and it determines the balances
of the streamed token: everybody holds what they held at first, what others have moved
to them, and what the events say that the contract has moved.
-/
theorem log_settles_balances (uninitialized : start.state.Uninitialized contract)
    (run : Run (Step contract) start trace final)
    (configured : final.state.token = none ∨ final.state.token = some token) :
    (final.settlement contract).parties = final.state.parties ∧
      ∀ holder,
        final.state.balances token holder =
          start.state.balances token holder + tally (donated holder token) trace +
            (final.settlement contract).flow holder := by
  induction run with
  | nil =>
      rw [System.settlement, uninitialized.events]
      refine ⟨?_, fun holder => ?_⟩
      · funext id
        rw [State.parties, uninitialized.streams, Finmap.lookup_empty]
        rfl
      · rw [tally_nil, add_zero]
        exact (add_zero _).symm
  | snoc earlier last ih =>
      have reachable : Reachable contract _ := ⟨_, _, uninitialized, earlier⟩
      have configuredBefore := last.token_before reachable configured
      rcases ih configuredBefore with ⟨known, balancesEq⟩
      rcases last.settles known configuredBefore with ⟨partiesEq, movedEq⟩
      rw [last.settlement_eq]
      refine ⟨partiesEq, fun holder => ?_⟩
      have before := balancesEq holder
      have moved := movedEq holder
      rw [tally_append, tally_cons, tally_nil]
      omega

/-- The theorem applies to the run whose last cancellation overpays. -/
theorem log_settles_balances_overpaid :
    ((Sample.final Sample.overpaid).settlement .contract).parties =
        (Sample.final Sample.overpaid).state.parties ∧
      ∀ holder,
        (Sample.final Sample.overpaid).state.balances .token holder =
          Sample.start.state.balances .token holder +
              tally (donated holder .token) (Sample.trace Sample.overpaid) +
            ((Sample.final Sample.overpaid).settlement .contract).flow holder :=
  log_settles_balances Sample.start_uninitialized (run_execute (by decide)) (.inr (by decide))

/-- The sender of the overpaid stream has gained what another stream has lost. -/
example :
    ((Sample.final Sample.overpaid).settlement .contract).flow .alice = -50 ∧
      ((Sample.final Sample.overpaid).settlement .contract).flow .bob = 500 ∧
        ((Sample.final Sample.overpaid).settlement .contract).flow .contract = 550 := by
  decide

end StreamPay
