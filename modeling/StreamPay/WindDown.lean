import StreamPay.Commutation
import StreamPay.Expiry
import StreamPay.Foundation.Observation
import StreamPay.Lifetimes
import StreamPay.Persistence
import StreamPay.Solvency
import StreamPay.Withdrawals

/-!
# Winding the contract down

A stream can be closed for good in two ways: its recipient collects everything after
the end, or one of its parties cancels it.  This file shows that a solvent contract
can close all of its streams, whatever the order in which the parties come: every
call returns, nothing is owed afterwards, and the contract has paid no more than it
owed.  For this no entry that the calls need may have expired, no cancelled stream may
be overpaid, and the vested amount of a cancelled stream must not overflow.
-/

namespace StreamPay

open Foundation Foundation.Computation

variable {Address : Type}

/-- The token refuses no transfer that its source can pay. -/
def Invocation.Honest (invocation : Invocation Address) : Prop :=
  ∀ (balances : Balances Address) token source destination (amount : I128),
    0 ≤ amount.val → amount.val ≤ balances token source →
      invocation.transferAccepted balances token source destination amount = true

/-- The call closes an active stream at the time `now`. -/
inductive Invocation.Closes (now : U64) (id : U64) (stream : Stream Address)
    (invocation : Invocation Address) : Prop where
  | collects (isWithdraw : invocation.call = .withdraw id stream.recipient)
      (authorized : invocation.authorized stream.recipient = true)
      (ended : stream.end.val ≤ now.val) : Closes now id stream invocation
  | cancels {caller : Address} (isCancel : invocation.call = .cancel id caller)
      (isParty : caller = stream.sender ∨ caller = stream.recipient)
      (authorized : invocation.authorized caller = true) (fits : ¬stream.Overflows now)
      (covered : stream.withdrawn.val ≤ stream.scheduled now) : Closes now id stream invocation

theorem Invocation.Closes.paysOut {now id : U64} {stream : Stream Address}
    {invocation : Invocation Address} (closes : invocation.Closes now id stream) :
    invocation.call.target = some id ∧ invocation.call.paysOut = true ∧
      invocation.call.isQuery = false := by
  cases closes with
  | collects isWithdraw authorized ended =>
      rw [isWithdraw]
      exact ⟨rfl, rfl, rfl⟩
  | cancels isCancel isParty authorized fits covered =>
      rw [isCancel]
      exact ⟨rfl, rfl, rfl⟩

theorem Invocation.Closes.settles {now id : U64} {stream : Stream Address}
    {invocation : Invocation Address} (closes : invocation.Closes now id stream) :
    invocation.call.settles = true := by
  cases closes with
  | collects isWithdraw authorized ended => rw [isWithdraw]; rfl
  | cancels isCancel isParty authorized fits covered => rw [isCancel]; rfl

variable [DecidableEq Address]

section OneCall

variable {contract : Address} {system : System Address} {invocation : Invocation Address}
  {id : U64} {stream : Stream Address}

omit [DecidableEq Address] in
theorem Invocation.Honest.accepts (honest : invocation.Honest) {balances : Balances Address}
    {record : Transfer Address} (nonneg : 0 ≤ record.amount.val)
    (enough : record.amount.val ≤ balances record.token record.source) :
    (invocation.env contract system.ledger).accepts balances record = true := by
  rw [Env.accepts, Bool.and_eq_true, decide_eq_true_eq]
  exact ⟨nonneg, honest balances _ _ _ _ nonneg enough⟩

/-- The recipient of a stream that has ended collects what is left. -/
theorem exists_collected {env : Env Address} {state : State Address} {token : Address}
    (accepts : ∀ (balances : Balances Address) (record : Transfer Address),
      0 ≤ record.amount.val → record.amount.val ≤ balances record.token record.source →
        env.accepts balances record = true)
    (wellFormed : stream.WellFormed env.ledger.timestamp)
    (stored : state.streams.lookup id = some stream)
    (active : stream.status = .active) (tokenSet : state.token = some token)
    (owed : stream.escrow ≤ state.balances token env.currentContractAddress)
    (authorized : env.authorized stream.recipient = true)
    (ended : stream.end.val ≤ env.ledger.timestamp.val) :
    ∃ reply after, Effect env state (.withdraw id stream.recipient) reply after ∧
      ∀ changed, after.streams.lookup id = some changed → changed.status ≠ .active := by
  have owes := wellFormed.activeOwes active
  have escrowEq := Stream.escrow_of_active active
  rcases withdrawable_of_end_le wellFormed ended with ⟨amount, available, amountEq⟩
  rcases exists_withdrawn_of_withdrawable wellFormed available with ⟨withdrawn, added⟩
  have withdrawnEq := BoundedInt.checkedAdd_eq_some_iff.mp added
  have positive : 0 < amount.val := by omega
  have enough : amount.val ≤ state.balances token env.currentContractAddress := by omega
  refine ⟨_, _, .withdraw ⟨authorized, stored, rfl, active, available, positive, withdrawnEq,
    tokenSet, accepts _ _ positive.le enough⟩, ?_⟩
  intro changed changedStored
  have isPaid : changed = stream.paidOut withdrawn :=
    Option.some.inj (changedStored.symm.trans (Finmap.lookup_insert _))
  have reached : withdrawn ≥ stream.total := by
    show stream.total.val ≤ withdrawn.val
    omega
  simp [isPaid, Stream.paidOut, reached]

/-- A party cancels a stream that is not overpaid. -/
theorem exists_cancelled {env : Env Address} {state : State Address} {token caller : Address}
    (accepts : ∀ (balances : Balances Address) (record : Transfer Address),
      0 ≤ record.amount.val → record.amount.val ≤ balances record.token record.source →
        env.accepts balances record = true)
    (wellFormed : stream.WellFormed env.ledger.timestamp)
    (stored : state.streams.lookup id = some stream)
    (active : stream.status = .active) (tokenSet : state.token = some token)
    (owed : stream.escrow ≤ state.balances token env.currentContractAddress)
    (isParty : caller = stream.sender ∨ caller = stream.recipient)
    (authorized : env.authorized caller = true) (fits : ¬stream.Overflows env.ledger.timestamp)
    (covered : stream.withdrawn.val ≤ stream.scheduled env.ledger.timestamp) :
    ∃ reply after, Effect env state (.cancel id caller) reply after ∧
      ∀ changed, after.streams.lookup id = some changed → changed.status ≠ .active := by
  have escrowEq := Stream.escrow_of_active active
  have withdrawnNonneg := wellFormed.withdrawnNonneg
  have scheduledLe : stream.scheduled env.ledger.timestamp ≤ stream.total.val :=
    wellFormed.scheduled_le
  have totalUpper := stream.total.le_upper
  rcases exists_vested wellFormed.totalPos wellFormed.window fits with
    ⟨vested, vestedEq, onSchedule⟩
  have paidDefined : ∃ recipientPaid, vested.checkedSub stream.withdrawn = some recipientPaid :=
    BoundedInt.exists_checkedSub (by omega) (by omega)
  have refundDefined : ∃ senderRefund, stream.total.checkedSub vested = some senderRefund :=
    BoundedInt.exists_checkedSub (by omega) (by omega)
  rcases paidDefined with ⟨recipientPaid, paid⟩
  rcases refundDefined with ⟨senderRefund, refunded⟩
  have recipientPaidEq := BoundedInt.checkedSub_eq_some_iff.mp paid
  have senderRefundEq := BoundedInt.checkedSub_eq_some_iff.mp refunded
  have enough : recipientPaid.val ≤ state.balances token env.currentContractAddress := by omega
  have left : state.balances token env.currentContractAddress - max 0 recipientPaid.val ≤
      state.balances.move token env.currentContractAddress stream.recipient
        (max 0 recipientPaid.val) token env.currentContractAddress :=
    le_move_of_payment (le_max_left _ _)
  have enoughLeft : senderRefund.val ≤
      state.balances.move token env.currentContractAddress stream.recipient
        (max 0 recipientPaid.val) token env.currentContractAddress := by omega
  refine ⟨_, _, .cancel ⟨authorized, stored, isParty, (status_eq_active_iff.mp active).1,
    vestedEq, recipientPaidEq, senderRefundEq, tokenSet,
    fun positive => accepts _ _ positive.le enough,
    fun positive => accepts _ _ positive.le enoughLeft⟩, ?_⟩
  intro changed changedStored
  have isClosed : changed = stream.closed vested :=
    Option.some.inj (changedStored.symm.trans (Finmap.lookup_insert _))
  simp [isClosed, Stream.closed]

/-- A call that closes a stream of a solvent contract returns. -/
theorem Invocation.Closes.exists_effect
    (closes : invocation.Closes system.ledger.timestamp id stream)
    (honest : invocation.Honest) (reachable : Reachable contract system)
    {token : Address} (tokenSet : system.state.token = some token)
    (solvent : system.state.held ≤ system.state.balances token contract)
    (stored : system.state.streams.lookup id = some stream) (active : stream.status = .active) :
    ∃ reply after,
      Effect (invocation.env contract system.ledger) system.state invocation.call reply after ∧
        ∀ changed, after.streams.lookup id = some changed → changed.status ≠ .active := by
  have wellFormed := reachable.wellFormed stored
  rcases reachable.exists_book with ⟨book, describes⟩
  have owed : stream.escrow ≤ system.state.balances token contract :=
    (describes.escrow_le_held stored).trans solvent
  cases closes with
  | collects isWithdraw authorized ended =>
      rw [isWithdraw]
      exact exists_collected (fun _ _ => honest.accepts) wellFormed stored active tokenSet owed
        authorized ended
  | cancels isCancel isParty authorized fits covered =>
      rw [isCancel]
      exact exists_cancelled (fun _ _ => honest.accepts) wellFormed stored active tokenSet owed
        isParty authorized fits covered

/-- What a call that closes a stream leaves for the others. -/
structure ClosedBy (contract token : Address) (system : System Address) (id : U64)
    (invocation : Invocation Address) : Prop where
  returned : ∃ reply, invocation.answer contract system = some (.ok reply)
  closed : ∀ changed,
    (system.serve contract (.invoke invocation)).state.streams.lookup id = some changed →
      changed.status ≠ .active
  others : ∀ other, other ≠ id →
    system.AgreesAt other (system.serve contract (.invoke invocation))
  alive : ∀ other : Invocation Address, other.call.stream? ≠ some id → system.Serves other →
    (system.serve contract (.invoke invocation)).Serves other
  configured : (system.serve contract (.invoke invocation)).state.token = some token
  slack : system.state.balances token contract - system.state.held ≤
    (system.serve contract (.invoke invocation)).state.balances token contract -
      (system.serve contract (.invoke invocation)).state.held

/-- A call that closes a stream leaves the lifetimes of all other entries as they are. -/
theorem Invocation.Closes.serves_other
    (closes : invocation.Closes system.ledger.timestamp id stream)
    (reachable : Reachable contract system) {reply : Reply Address} {after : State Address}
    (effect : Effect (invocation.env contract system.ledger) system.state invocation.call reply
      after)
    (others : ∀ other, other ≠ id → system.AgreesAt other { system with state := after })
    {other : Invocation Address} (elsewhere : other.call.stream? ≠ some id)
    (serves : system.Serves other) : System.Serves { system with state := after } other := by
  rcases closes.paysOut with ⟨targets, paysOut, changes⟩
  rcases serves with ⟨instanceAlive, streamsAlive⟩
  refine ⟨?_, fun read reads stored => ?_⟩
  · have unchanged : after.instanceLiveUntil = system.state.instanceLiveUntil := by
      rw [effect.instanceLiveUntil_eq changes, if_pos paysOut]
    show system.ledger.sequence.val ≤ after.instanceLiveUntil
    rw [unchanged]
    exact instanceAlive
  · have different : read ≠ id := by
      rintro rfl
      exact elsewhere (Invocation.stream?_of_reads? reads)
    have agrees := (others read different).stream
    rcases Finmap.mem_iff.mp stored with ⟨found, foundStored⟩
    have storedBefore : system.state.streams.lookup read = some found :=
      agrees.trans foundStored
    have unchanged : after.streamLiveUntil read = system.state.streamLiveUntil read := by
      apply effect.liveUntil_of_ne (reachable.lt_counter storedBefore)
      rw [targets, ne_eq, Option.some.injEq]
      exact Ne.symm different
    show system.ledger.sequence.val ≤ after.streamLiveUntil read
    rw [unchanged]
    exact streamsAlive read reads (Finmap.mem_of_lookup_eq_some storedBefore)

/-- Closing a stream takes no more from the balance than from the escrow. -/
theorem Invocation.Closes.closedBy
    (closes : invocation.Closes system.ledger.timestamp id stream)
    (honest : invocation.Honest) (serves : system.Serves invocation)
    (reachable : Reachable contract system)
    {token : Address} (tokenSet : system.state.token = some token)
    (solvent : system.state.held ≤ system.state.balances token contract)
    (stored : system.state.streams.lookup id = some stream) (active : stream.status = .active) :
    ClosedBy contract token system id invocation := by
  rcases closes.exists_effect honest reachable tokenSet solvent stored active with
    ⟨reply, after, effect, closed⟩
  rcases reachable.exists_book with ⟨book, describes⟩
  have outcome := effect.outcome_eq
  have served : system.serve contract (.invoke invocation) = { system with state := after } := by
    rw [serve_of_serves serves, System.next, outcome]
  rcases closes.paysOut with ⟨targets, _, _⟩
  have notSelf : invocation.call.sender = some contract →
      (invocation.env contract system.ledger).authorized contract = false := by
    cases closes with
    | collects isWithdraw => simp [isWithdraw, Call.sender]
    | cancels isCancel => simp [isCancel, Call.sender]
  have coveredBefore (other : U64) (caller : Address) (found : Stream Address)
      (isCancel : invocation.call = .cancel other caller)
      (foundStored : system.state.streams.lookup other = some found) :
      found.withdrawn.val ≤ found.scheduled system.ledger.timestamp := by
    cases closes with
    | collects isWithdraw =>
        rw [isWithdraw] at isCancel
        contradiction
    | cancels isClosing isParty authorized fits covered =>
        rw [isClosing, Call.cancel.injEq] at isCancel
        rw [← isCancel.1, stored, Option.some.injEq] at foundStored
        exact foundStored ▸ covered
  have balanceLe : system.state.balances token contract +
      escrowChange system.state invocation.call reply ≤ after.balances token contract :=
    effect.le_balance describes rfl notSelf coveredBefore (.inr tokenSet)
  have heldEq := effect.held_eq describes
  have others (other : U64) (different : other ≠ id) :
      system.AgreesAt other { system with state := after } := by
    rw [← served, serve_of_serves serves]
    apply agreesAt_invoke closes.settles
    rw [targets, ne_eq, Option.some.injEq]
    exact Ne.symm different
  constructor
  case returned =>
    rw [answer_of_serves serves, outcome]
    exact ⟨reply, rfl⟩
  all_goals rw [served]
  case closed => exact closed
  case others => exact others
  case alive => exact fun _ elsewhere => closes.serves_other reachable effect others elsewhere
  case configured => exact effect.token_kept (fun fresh => (reachable.idle fresh).1) tokenSet
  case slack =>
    show system.state.balances token contract - system.state.held ≤
      after.balances token contract - after.held
    omega

end OneCall

/-- Each call closes an active stream of its own. -/
structure ClosesApart (system : System Address) (calls : List (Invocation Address)) : Prop where
  closes : ∀ invocation ∈ calls, ∃ id stream,
    system.state.streams.lookup id = some stream ∧ stream.status = .active ∧
      invocation.Closes system.ledger.timestamp id stream
  apart : (calls.map fun invocation => invocation.call.target).Nodup

/-- The system after calls that come one after another. -/
def System.serveAll (contract : Address) (system : System Address)
    (calls : List (Invocation Address)) : System Address :=
  (calls.map Action.invoke).foldl (System.serve contract) system

/-- No stream is left open. -/
structure WoundDown (contract token : Address) (system : System Address)
    (calls : List (Invocation Address)) : Prop where
  returned : ∀ answer ∈ observations (System.serve contract) (answer? contract) system
    (calls.map Action.invoke), ∃ reply, answer = some (.ok reply)
  closed : ∀ id stream,
    (system.serveAll contract calls).state.streams.lookup id = some stream →
      stream.status ≠ .active
  nothingOwed : (system.serveAll contract calls).state.held = 0
  paid : system.state.balances token contract - system.state.held ≤
    (system.serveAll contract calls).state.balances token contract

section AllCalls

variable {contract token : Address} {system : System Address}
  {calls rest : List (Invocation Address)} {invocation : Invocation Address}

omit [DecidableEq Address] in
theorem ClosesApart.elsewhere (apart : ClosesApart system (invocation :: rest)) {id : U64}
    (targets : invocation.call.target = some id) {other : Invocation Address}
    (otherMem : other ∈ rest) :
    ∃ otherId stream, otherId ≠ id ∧ other.call.target = some otherId ∧
      system.state.streams.lookup otherId = some stream ∧ stream.status = .active ∧
        other.Closes system.ledger.timestamp otherId stream := by
  have distinct := apart.apart
  rw [List.map_cons, List.nodup_cons] at distinct
  rcases apart.closes other (List.mem_cons_of_mem _ otherMem) with
    ⟨otherId, stream, stored, active, closes⟩
  refine ⟨otherId, stream, ?_, closes.paysOut.1, stored, active, closes⟩
  rintro rfl
  apply distinct.1
  rw [targets, ← closes.paysOut.1]
  exact List.mem_map_of_mem otherMem

/-- Closing one stream leaves the calls on the others as they are. -/
theorem ClosesApart.tail (apart : ClosesApart system (invocation :: rest)) {id : U64}
    (targets : invocation.call.target = some id)
    (closed : ClosedBy contract token system id invocation) :
    ClosesApart (system.serve contract (.invoke invocation)) rest := by
  have distinct := apart.apart
  rw [List.map_cons, List.nodup_cons] at distinct
  refine ⟨?_, distinct.2⟩
  intro other otherMem
  rcases apart.elsewhere targets otherMem with
    ⟨otherId, stream, different, _, stored, active, closes⟩
  have agrees := closed.others otherId different
  refine ⟨otherId, stream, agrees.stream ▸ stored, active, ?_⟩
  rw [serve_invoke_ledger]
  exact closes

/-- The streams that are still active are left to the other calls. -/
theorem ClosedBy.complete {id : U64} (closed : ClosedBy contract token system id invocation)
    (targets : invocation.call.target = some id)
    (complete : ∀ other found, system.state.streams.lookup other = some found →
      found.status = .active →
        ∃ later ∈ invocation :: rest, later.call.target = some other)
    {other : U64} {found : Stream Address}
    (stored : (system.serve contract (.invoke invocation)).state.streams.lookup other = some found)
    (active : found.status = .active) : ∃ later ∈ rest, later.call.target = some other := by
  have different : other ≠ id := by
    rintro rfl
    exact closed.closed found stored active
  rw [← (closed.others other different).stream] at stored
  rcases complete other found stored active with ⟨later, laterMem, laterTargets⟩
  rcases List.mem_cons.mp laterMem with rfl | laterMem
  · rw [targets, Option.some.injEq] at laterTargets
    exact absurd laterTargets.symm different
  · exact ⟨later, laterMem, laterTargets⟩

/-- The calls on the other streams are still run. -/
theorem ClosesApart.alive (apart : ClosesApart system (invocation :: rest)) {id : U64}
    (targets : invocation.call.target = some id)
    (closed : ClosedBy contract token system id invocation)
    (alive : ∀ other ∈ rest, system.Serves other) :
    ∀ other ∈ rest, (system.serve contract (.invoke invocation)).Serves other := by
  intro other otherMem
  apply closed.alive other ?_ (alive other otherMem)
  rcases apart.elsewhere targets otherMem with ⟨otherId, _, different, otherTargets, _⟩
  rw [Call.stream?_of_target otherTargets, ne_eq, Option.some.injEq]
  exact different

/-- Where no stream is active nothing has to be done. -/
theorem WoundDown.nil
    (noneActive : ∀ id stream, system.state.streams.lookup id = some stream →
      stream.status ≠ .active) : WoundDown contract token system [] := by
  have nothingOwed : system.state.held = 0 := by
    apply FiniteMap.total_eq_zero
    intro id stream stored
    exact if_neg (noneActive id stream stored)
  refine ⟨?_, noneActive, nothingOwed, ?_⟩
  · intro answer answerMem
    contradiction
  · rw [nothingOwed, sub_zero]
    rfl

/-- One stream is closed, and then all others are. -/
theorem WoundDown.cons {id : U64} (closed : ClosedBy contract token system id invocation)
    (woundDown : WoundDown contract token (system.serve contract (.invoke invocation)) rest) :
    WoundDown contract token system (invocation :: rest) := by
  have slack := closed.slack
  have paid := woundDown.paid
  refine ⟨?_, woundDown.closed, woundDown.nothingOwed, slack.trans paid⟩
  rw [List.map_cons, observations_cons]
  intro answer answerMem
  rcases List.mem_cons.mp answerMem with rfl | answerMem
  · exact closed.returned
  · exact woundDown.returned answer answerMem

end AllCalls

/--
A solvent contract can close all of its streams as long as the entries are alive: if
every active stream is either collected by its recipient after the end, or cancelled by
one of its parties while it is not overpaid and its vested amount does not overflow, and
if the host runs each of these calls now, then in every order all of them return, no
stream is active and nothing is owed afterwards, and the contract has lost at most what
it owed.
-/
theorem streams_wound_down {contract token : Address} {system : System Address}
    (reachable : Reachable contract system) (tokenSet : system.state.token = some token)
    (solvent : system.state.held ≤ system.state.balances token contract)
    {calls : List (Invocation Address)} (honest : ∀ invocation ∈ calls, invocation.Honest)
    (alive : ∀ invocation ∈ calls, system.Serves invocation) (apart : ClosesApart system calls)
    (complete : ∀ id stream, system.state.streams.lookup id = some stream →
      stream.status = .active → ∃ invocation ∈ calls, invocation.call.target = some id) :
    WoundDown contract token system calls := by
  induction calls generalizing system with
  | nil =>
      apply WoundDown.nil
      intro id stream stored active
      rcases complete id stream stored active with ⟨invocation, invocationMem, _⟩
      contradiction
  | cons invocation rest ih =>
      rw [List.forall_mem_cons] at honest alive
      rcases apart.closes invocation List.mem_cons_self with ⟨id, stream, stored, active, closes⟩
      have targets := closes.paysOut.1
      have closed : ClosedBy contract token system id invocation :=
        closes.closedBy honest.1 alive.1 reachable tokenSet solvent stored active
      have slack := closed.slack
      apply WoundDown.cons closed
      exact ih (reachable.serve trivial) closed.configured (by omega) honest.2
        (apart.alive targets closed alive.2) (apart.tail targets closed)
        fun _ _ => closed.complete targets complete

namespace Sample

/-- Both streams have ended. -/
def expired : List (Action Party) :=
  withdrawing ++ [advanceTo (time 200)]

/-- The recipient of the first stream collects, and the sender of the second one cancels. -/
def closing : List (Invocation Party) :=
  [cancelSecond, invocationBy .bob (.withdraw 0 .bob)]

/-- The first stream, half of which is withdrawn. -/
def firstStream : Stream Party where
  sender := .alice
  recipient := .bob
  total := units 1000
  withdrawn := units 500
  start := time 100
  «end» := time 200
  status := .active

theorem honest_invocationBy (caller : Party) (call : Call Party) :
    (invocationBy caller call).Honest := by
  intro balances asset source destination amount nonneg enough
  exact decide_eq_true enough

theorem closing_honest : ∀ invocation ∈ closing, invocation.Honest := by
  simp [closing, cancelSecond, honest_invocationBy]

theorem closing_apart : ClosesApart (final expired) closing := by
  refine ⟨?_, by decide⟩
  rw [closing, List.forall_mem_cons, List.forall_mem_singleton]
  constructor
  · refine ⟨1, secondStream, by decide, rfl, ?_⟩
    exact .cancels rfl (.inl rfl) (by decide) (by decide) (by decide)
  · refine ⟨0, firstStream, by decide, rfl, ?_⟩
    exact .collects rfl (by decide) (by decide)

end Sample

/-- The theorem applies to two streams that are closed in different ways. -/
theorem streams_wound_down_expired :
    WoundDown Sample.Party.contract .token (Sample.final Sample.expired) Sample.closing := by
  have reachable : Reachable Sample.Party.contract (Sample.final Sample.expired) :=
    (Sample.history (by decide)).reachable
  refine streams_wound_down reachable (by decide) (by decide) Sample.closing_honest (by decide)
    Sample.closing_apart ?_
  intro id stream stored _
  have older : id.val < 2 := reachable.lt_counter stored
  have nonneg := id.lower_le
  rcases (show id.val = 1 ∨ id.val = 0 by omega) with isSecond | isFirst
  · exact ⟨_, List.mem_cons_self, congrArg some (BoundedInt.eq_iff.mpr isSecond.symm)⟩
  · exact ⟨_, List.mem_cons_of_mem _ List.mem_cons_self,
      congrArg some (BoundedInt.eq_iff.mpr isFirst.symm)⟩

end StreamPay
