import StreamPay.Noninterference
import StreamPay.Supply

/-!
# Settling streams in any order

Withdrawals, cancellations and extensions read and change one stream.  What else
they touch, the pooled tokens and the tracked supply, they only change by an
amount that depends on that stream.  Hence calls on different streams can be made
in any order: every call gets the same result, and the final state is the same.

The proof compares two runs of one call in two states that hold the same stream
under its id.  Only a refused transfer can tell such states apart.  A call finds
its stream as it was before all of the calls, and leaves it as it will be after
them, whatever the order; the final balances are the sum of the changes, and an
exact supply is determined by the final streams.
-/

namespace StreamPay

open Foundation Foundation.Computation

variable {Address : Type}

/--
Two states that are reached from two others hold the same stream under an id, and
the balances have changed by the same amounts.
-/
structure State.SameAt (start otherStart : State Address) (id : U64)
    (first second : State Address) : Prop where
  token : first.token = second.token
  stream : first.streams.lookup id = second.streams.lookup id
  moved : ∀ token holder,
    first.balances token holder - start.balances token holder =
      second.balances token holder - otherStart.balances token holder

/-- The fault of a call whose transfer the token refuses. -/
def Fault.Refused (fault : Fault) : Prop :=
  fault = .trap .transferFailed

section TwoStates

variable {start otherStart : State Address} {id : U64} {env : Env Address} {Result : Type}

theorem unaffectedAt_readToken :
    Unaffected (start.SameAt otherStart id) Fault.Refused
      (readToken : Contract Address Address) :=
  (unaffected_readState fun _ _ same => same.token).bind fun _ => unaffected_liftM _

theorem unaffectedAt_getStream :
    Unaffected (start.SameAt otherStart id) Fault.Refused
      (getStream id : Contract Address (Stream Address)) := by
  refine (unaffected_readState ?_).bind fun _ => unaffected_liftM _
  intro first second same
  exact same.stream

theorem unaffectedAt_writeStream (stream : Stream Address) :
    Unaffected (start.SameAt otherStart id) Fault.Refused (writeStream env id stream) := by
  apply Unaffected.modify
  intro first second same
  refine ⟨same.token, ?_, same.moved⟩
  simp

theorem unaffectedAt_extendInstance :
    Unaffected (start.SameAt otherStart id) Fault.Refused (extendInstance env) :=
  .modify fun _ _ same => ⟨same.token, same.stream, same.moved⟩

theorem unaffectedAt_publish (event : Event Address) :
    Unaffected (start.SameAt otherStart id) Fault.Refused (publish event) :=
  .modify fun _ _ same => ⟨same.token, same.stream, same.moved⟩

/-- The supply is read only to be changed. -/
theorem unaffectedAt_updateSupply {update : I128 → I128} {rest : Contract Address Result}
    (restUnaffected : Unaffected (start.SameAt otherStart id) Fault.Refused rest) :
    Unaffected (start.SameAt otherStart id) Fault.Refused (do
      let supply ← readTotalSupply
      writeTotalSupply (update supply)
      rest) := by
  intro first second same
  let updated (state : State Address) : State Address :=
    state.setTotalSupply (update (state.totalSupply.getD 0))
  have updatedSame : start.SameAt otherStart id (updated first) (updated second) :=
    ⟨same.token, same.stream, same.moved⟩
  exact restUnaffected (updated first) (updated second) updatedSame

variable [DecidableEq Address]

/-- A transfer that neither token refuses moves the same amount. -/
theorem unaffectedAt_transfer {token source destination : Address} {amount : I128}
    {purpose : Purpose} :
    Unaffected (start.SameAt otherStart id) Fault.Refused
      (transfer env token source destination amount purpose) := by
  intro first second same
  let record := Transfer.mk token source destination amount purpose
  have refused : Fault.Refused (.trap .transferFailed) := rfl
  change SameEnd _ _ ((if _ then _ else _ : Contract Address Unit) first)
    ((if _ then _ else _ : Contract Address Unit) second)
  by_cases accepted : env.accepts first.balances record = true
  · by_cases otherAccepted : env.accepts second.balances record = true
    · rw [if_pos accepted, if_pos otherAccepted]
      refine ⟨rfl, same.token, same.stream, ?_⟩
      intro asset holder
      have moved := same.moved asset holder
      simp only [State.recordTransfer, Balances.move]
      split
      · omega
      · exact moved
    · rw [if_neg otherAccepted]
      exact SameEnd.of_excused_right refused _
  · rw [if_neg accepted]
    exact SameEnd.of_excused_left refused _

theorem streamRules_sameAt :
    StreamRules (start.SameAt otherStart id) Fault.Refused env id where
  getStream := unaffectedAt_getStream
  writeStream := unaffectedAt_writeStream
  readToken := unaffectedAt_readToken
  transfer _ _ _ _ _ := unaffectedAt_transfer
  updateSupply _ _ restUnaffected := unaffectedAt_updateSupply restUnaffected
  extendInstance := unaffectedAt_extendInstance
  publish := unaffectedAt_publish

end TwoStates

variable [DecidableEq Address]

/-- The system after an invocation. -/
def System.invoke (contract : Address) (system : System Address)
    (invocation : Invocation Address) : System Address :=
  system.next contract (.invoke invocation)

/-- Two systems look the same to a call on the stream under an id. -/
structure System.AgreesAt (id : U64) (first second : System Address) : Prop where
  ledger : first.ledger = second.ledger
  token : first.state.token = second.state.token
  stream : first.state.streams.lookup id = second.state.streams.lookup id

namespace System.AgreesAt

variable {id : U64} {first second third : System Address}

omit [DecidableEq Address] in
theorem refl (system : System Address) : system.AgreesAt id system :=
  ⟨rfl, rfl, rfl⟩

omit [DecidableEq Address] in
theorem symm (agrees : first.AgreesAt id second) : second.AgreesAt id first :=
  ⟨agrees.ledger.symm, agrees.token.symm, agrees.stream.symm⟩

omit [DecidableEq Address] in
theorem trans (earlier : first.AgreesAt id second) (later : second.AgreesAt id third) :
    first.AgreesAt id third :=
  ⟨earlier.ledger.trans later.ledger, earlier.token.trans later.token,
    earlier.stream.trans later.stream⟩

end System.AgreesAt

section OneCall

variable {contract : Address} {source first second : System Address}
  {invocation : Invocation Address} {id : U64}

/-- A call on a stream does the same in systems that agree on the stream. -/
theorem Invocation.outcome_sameAt (settles : invocation.call.settles = true)
    (targets : invocation.call.target = some id) (agrees : first.AgreesAt id second)
    (accepted : (invocation.outcome contract first).1 ≠ .error (.trap .transferFailed))
    (otherAccepted : (invocation.outcome contract second).1 ≠ .error (.trap .transferFailed)) :
    (invocation.outcome contract first).1 = (invocation.outcome contract second).1 ∧
      first.state.SameAt second.state id (invocation.outcome contract first).2
        (invocation.outcome contract second).2 := by
  have initially : first.state.SameAt second.state id first.state second.state :=
    ⟨agrees.token, agrees.stream, fun token holder => by rw [sub_self, sub_self]⟩
  have alike : SameEnd (first.state.SameAt second.state id) Fault.Refused
      (invocation.call.run (invocation.env contract first.ledger) first.state)
      (invocation.call.run (invocation.env contract first.ledger) second.state) :=
    streamRules_sameAt.unaffected_call settles targets first.state second.state initially
  unfold Invocation.outcome at accepted otherAccepted ⊢
  rw [← agrees.ledger] at otherAccepted ⊢
  rcases alike.resolve with ⟨reply, after, otherAfter, ends, otherEnds, same⟩ |
    ⟨fault, after, otherAfter, ends, otherEnds⟩ | ⟨fault, after, rfl, ends | otherEnds⟩
  · rw [ends, otherEnds]
    exact ⟨rfl, same⟩
  · rw [ends, otherEnds]
    exact ⟨rfl, initially⟩
  · rw [ends] at accepted
    exact absurd rfl accepted
  · rw [otherEnds] at otherAccepted
    exact absurd rfl otherAccepted

theorem step_invoke :
    Step contract source (.invoke invocation) (source.invoke contract invocation) :=
  ⟨trivial, rfl⟩

theorem Reachable.invoke (reachable : Reachable contract source) :
    Reachable contract (source.invoke contract invocation) :=
  reachable.step step_invoke

/-- A call on one stream leaves the others alone. -/
theorem agreesAt_invoke (settles : invocation.call.settles = true)
    (elsewhere : invocation.call.target ≠ some id) :
    source.AgreesAt id (source.invoke contract invocation) := by
  have step : Step contract source (.invoke invocation) (source.invoke contract invocation) :=
    step_invoke
  have different {other : U64} (notTarget : some other ≠ some id) : id ≠ other := by
    rintro rfl
    exact notTarget rfl
  generalize source.invoke contract invocation = target at step ⊢
  cases stepEffect_of_step step with
  | failed => exact .refl source
  | @returned _ reply after outcome effect =>
      rcases invocation with ⟨authorized, transferAccepted, call⟩
      cases effect with
      | extendStream checks =>
          exact ⟨rfl, rfl, (Finmap.lookup_insert_of_ne _ (different elsewhere)).symm⟩
      | withdraw checks =>
          exact ⟨rfl, rfl, (Finmap.lookup_insert_of_ne _ (different elsewhere)).symm⟩
      | cancel checks =>
          refine ⟨rfl, ?_, ?_⟩
          · simp
          · simpa using (Finmap.lookup_insert_of_ne _ (different elsewhere)).symm
      | _ => contradiction

/-- A call on a stream keeps an exact supply exact. -/
theorem exact_invoke (settles : invocation.call.settles = true)
    (reachable : Reachable contract source) (exact : source.state.Exact) :
    (source.invoke contract invocation).state.Exact := by
  apply step_invoke.exact reachable exact
  cases returned : returnedCall? contract
      ⟨source, .invoke invocation, source.invoke contract invocation⟩ with
  | none => simp [batchReturned, returned]
  | some call =>
      rcases exists_effect_of_returnedCall? step_invoke returned with
        ⟨other, reply, labelEq, rfl, _⟩
      cases labelEq
      rcases invocation with ⟨authorized, transferAccepted, call⟩
      cases call with
      | createStreamBatch => contradiction
      | _ => simp [batchReturned, returned]

end OneCall

/-- Calls that settle pairwise different streams. -/
structure SettleApart (calls : List (Invocation Address)) : Prop where
  settles : ∀ invocation ∈ calls, invocation.call.settles = true
  apart : (calls.map fun invocation => invocation.call.target).Nodup

/-- The calls with their results when they are made one after another. -/
def answers (contract : Address) (source : System Address) (calls : List (Invocation Address)) :
    List (Invocation Address × Except Fault (Reply Address)) :=
  (execute (System.invoke contract) source calls).map fun transition =>
    (transition.label, (transition.label.outcome contract transition.source).1)

section AllCalls

variable {contract : Address} {source : System Address} {calls permuted : List (Invocation Address)}
  {id : U64}

theorem agreesAt_foldl (settles : ∀ invocation ∈ calls, invocation.call.settles = true)
    (elsewhere : ∀ invocation ∈ calls, invocation.call.target ≠ some id) :
    source.AgreesAt id (calls.foldl (System.invoke contract) source) := by
  induction calls generalizing source with
  | nil => exact .refl source
  | cons invocation rest ih =>
      rw [List.forall_mem_cons] at settles elsewhere
      exact (agreesAt_invoke settles.1 elsewhere.1).trans (ih settles.2 elsewhere.2)

theorem exact_foldl (settles : ∀ invocation ∈ calls, invocation.call.settles = true)
    (reachable : Reachable contract source) (exact : source.state.Exact) :
    (calls.foldl (System.invoke contract) source).state.Exact := by
  induction calls generalizing source with
  | nil => exact exact
  | cons invocation rest ih =>
      rw [List.forall_mem_cons] at settles
      exact ih settles.2 reachable.invoke (exact_invoke settles.1 reachable exact)

/-- A call finds its stream as it was before all of them, and leaves it as it is after them. -/
theorem SettleApart.agreesAt (apart : SettleApart calls)
    {transition : Transition (System Address) (Invocation Address)}
    (transitionMem : transition ∈ execute (System.invoke contract) source calls)
    (targets : transition.label.call.target = some id) :
    source.AgreesAt id transition.source ∧
      transition.target.AgreesAt id (calls.foldl (System.invoke contract) source) := by
  rcases exists_labels_of_mem_execute transitionMem with
    ⟨earlier, later, rfl, sourceEq, targetEq⟩
  have distinct := apart.apart
  rw [List.map_append, List.map_cons, targets, List.nodup_middle, List.nodup_cons,
    List.mem_append, not_or] at distinct
  have notEarlier : ∀ invocation ∈ earlier, invocation.call.target ≠ some id := by
    intro invocation invocationMem same
    exact distinct.1.1 (List.mem_map.mpr ⟨invocation, invocationMem, same⟩)
  have notLater : ∀ invocation ∈ later, invocation.call.target ≠ some id := by
    intro invocation invocationMem same
    exact distinct.1.2 (List.mem_map.mpr ⟨invocation, invocationMem, same⟩)
  have settles := apart.settles
  rw [List.forall_mem_append, List.forall_mem_cons] at settles
  constructor
  · rw [sourceEq]
    exact agreesAt_foldl settles.1 notEarlier
  · rw [List.foldl_append, List.foldl_cons, ← sourceEq, ← targetEq]
    exact agreesAt_foldl settles.2.2 notLater

omit [DecidableEq Address] in
theorem SettleApart.perm (apart : SettleApart calls) (perm : calls.Perm permuted) :
    SettleApart permuted := by
  refine ⟨?_, (perm.map _).nodup_iff.mp apart.apart⟩
  intro invocation invocationMem
  exact apart.settles invocation (perm.mem_iff.mpr invocationMem)

/-- No transfer of the calls is refused. -/
def NoneRefused (contract : Address) (source : System Address)
    (calls : List (Invocation Address)) : Prop :=
  ∀ answer ∈ answers contract source calls, answer.2 ≠ .error (.trap .transferFailed)

/-- In both orders a call gets the same result and makes the same changes. -/
theorem outcome_sameAt_of_orders (apart : SettleApart calls) (otherApart : SettleApart permuted)
    (accepted : NoneRefused contract source calls)
    (otherAccepted : NoneRefused contract source permuted)
    {first second : Transition (System Address) (Invocation Address)}
    (firstMem : first ∈ execute (System.invoke contract) source calls)
    (secondMem : second ∈ execute (System.invoke contract) source permuted)
    (sameLabel : first.label = second.label) (targets : first.label.call.target = some id) :
    (first.label.outcome contract first.source).1 =
        (second.label.outcome contract second.source).1 ∧
      first.source.state.SameAt second.source.state id first.target.state second.target.state := by
  rcases exists_labels_of_mem_execute firstMem with ⟨earlier, later, callsEq, _, firstTarget⟩
  rcases exists_labels_of_mem_execute secondMem with ⟨_, _, _, _, secondTarget⟩
  have settles : first.label.call.settles = true := by
    apply apart.settles
    rw [callsEq]
    exact List.mem_append_right _ List.mem_cons_self
  have agrees : first.source.AgreesAt id second.source :=
    (apart.agreesAt firstMem targets).1.symm.trans
      (otherApart.agreesAt secondMem (sameLabel ▸ targets)).1
  have firstAccepted := accepted _ (List.mem_map_of_mem firstMem)
  have secondAccepted := otherAccepted _ (List.mem_map_of_mem secondMem)
  rw [← sameLabel] at secondAccepted secondTarget ⊢
  rw [firstTarget, secondTarget]
  exact first.label.outcome_sameAt settles targets agrees firstAccepted secondAccepted

/-- In both orders a stream ends as the call on it leaves it, if there is one. -/
theorem lookup_eq_of_orders (perm : calls.Perm permuted) (apart : SettleApart calls)
    (accepted : NoneRefused contract source calls)
    (otherAccepted : NoneRefused contract source permuted) :
    (calls.foldl (System.invoke contract) source).state.streams.lookup id =
      (permuted.foldl (System.invoke contract) source).state.streams.lookup id := by
  have otherApart := apart.perm perm
  by_cases targeted : ∃ invocation ∈ calls, invocation.call.target = some id
  · rcases targeted with ⟨invocation, invocationMem, targets⟩
    have permutedMem : invocation ∈ permuted := perm.mem_iff.mp invocationMem
    rw [← execute_map_label (System.invoke contract) source calls] at invocationMem
    rw [← execute_map_label (System.invoke contract) source permuted] at permutedMem
    rcases List.mem_map.mp invocationMem with ⟨first, firstMem, rfl⟩
    rcases List.mem_map.mp permutedMem with ⟨second, secondMem, sameLabel⟩
    have same := (outcome_sameAt_of_orders apart otherApart accepted otherAccepted firstMem
      secondMem sameLabel.symm targets).2
    have ends := (apart.agreesAt firstMem targets).2.stream
    have otherEnds := (otherApart.agreesAt secondMem (sameLabel ▸ targets)).2.stream
    rw [← ends, same.stream, otherEnds]
  · have elsewhere : ∀ invocation ∈ calls, invocation.call.target ≠ some id :=
      fun invocation invocationMem targets => targeted ⟨invocation, invocationMem, targets⟩
    have otherElsewhere : ∀ invocation ∈ permuted, invocation.call.target ≠ some id :=
      fun invocation invocationMem => elsewhere invocation (perm.mem_iff.mpr invocationMem)
    rw [← (agreesAt_foldl apart.settles elsewhere).stream,
      ← (agreesAt_foldl otherApart.settles otherElsewhere).stream]

end AllCalls

/-- Two orders of the same calls give the same results and end in the same state. -/
structure OrdersAgree (contract : Address) (source : System Address)
    (calls permuted : List (Invocation Address)) : Prop where
  results : (answers contract source calls).Perm (answers contract source permuted)
  streams : (calls.foldl (System.invoke contract) source).state.streams =
    (permuted.foldl (System.invoke contract) source).state.streams
  balances : (calls.foldl (System.invoke contract) source).state.balances =
    (permuted.foldl (System.invoke contract) source).state.balances
  totalSupply : (calls.foldl (System.invoke contract) source).state.totalSupply.getD 0 =
    (permuted.foldl (System.invoke contract) source).state.totalSupply.getD 0

/-- The order in which different streams are settled does not matter. -/
theorem settling_commutes {contract : Address} {source : System Address}
    (reachable : Reachable contract source) (exact : source.state.Exact)
    {calls permuted : List (Invocation Address)} (apart : SettleApart calls)
    (perm : calls.Perm permuted) (accepted : NoneRefused contract source calls)
    (otherAccepted : NoneRefused contract source permuted) :
    OrdersAgree contract source calls permuted := by
  have otherApart := apart.perm perm
  have agree : ∀ first ∈ execute (System.invoke contract) source calls,
      ∀ second ∈ execute (System.invoke contract) source permuted, first.label = second.label →
        ∃ id, (first.label.outcome contract first.source).1 =
            (second.label.outcome contract second.source).1 ∧
          first.source.state.SameAt second.source.state id first.target.state
            second.target.state := by
    intro first firstMem second secondMem sameLabel
    have labelMem : first.label ∈ calls := by
      rw [← execute_map_label (System.invoke contract) source calls]
      exact List.mem_map_of_mem firstMem
    rcases Call.exists_target (apart.settles _ labelMem) with ⟨id, targets⟩
    exact ⟨id, outcome_sameAt_of_orders apart otherApart accepted otherAccepted firstMem secondMem
      sameLabel targets⟩
  have sameStreams : (calls.foldl (System.invoke contract) source).state.streams =
      (permuted.foldl (System.invoke contract) source).state.streams :=
    Finmap.ext_lookup fun id => lookup_eq_of_orders perm apart accepted otherAccepted
  refine ⟨?_, sameStreams, ?_, ?_⟩
  · apply perm_map_of_agree
    · rwa [execute_map_label, execute_map_label]
    · intro first firstMem second secondMem sameLabel
      rcases agree first firstMem second secondMem sameLabel with ⟨_, sameResult, _⟩
      rw [sameResult, sameLabel]
  · funext token holder
    apply measure_foldl_perm
      (fun system : System Address => system.state.balances token holder) perm
    intro first firstMem second secondMem sameLabel
    rcases agree first firstMem second secondMem sameLabel with ⟨_, _, same⟩
    exact same.moved token holder
  · have ends : State.tracked _ = State.held _ := exact_foldl apart.settles reachable exact
    have otherEnds : State.tracked _ = State.held _ :=
      exact_foldl otherApart.settles reachable exact
    rw [BoundedInt.eq_iff]
    show State.tracked _ = State.tracked _
    rw [ends, otherEnds, State.held, State.held, sameStreams]

namespace Sample

/-- The recipient of the first stream withdraws, and the sender of the second one cancels. -/
def settlements : List (Invocation Party) :=
  [⟨fun party => decide (party = .bob), fun _ _ _ _ _ => true, .withdraw 0 .bob⟩,
    ⟨fun party => decide (party = .carol), fun _ _ _ _ _ => true, .cancel 1 .carol⟩]

theorem settlements_apart : SettleApart settlements := by
  refine ⟨?_, by decide⟩
  simp [settlements, Call.settles]

/-- Both calls return, in either order. -/
theorem settlements_return (order : List (Invocation Party))
    (inOrder : order = settlements ∨ order = settlements.reverse) :
    (answers .contract (final (withdrawing.take 5)) order).all
      (fun answer => answer.2.isOk) = true := by
  rcases inOrder with rfl | rfl
  · rfl
  · rfl

theorem settlements_noneRefused (order : List (Invocation Party))
    (inOrder : order = settlements ∨ order = settlements.reverse) :
    NoneRefused .contract (final (withdrawing.take 5)) order := by
  intro answer answerMem refused
  have isOk := List.all_eq_true.mp (settlements_return order inOrder) answer answerMem
  rw [refused] at isOk
  contradiction

end Sample

/-- The theorem applies to a withdrawal and a cancellation. -/
theorem settling_commutes_reversed :
    OrdersAgree .contract (Sample.final (Sample.withdrawing.take 5)) Sample.settlements
      Sample.settlements.reverse :=
  settling_commutes (Sample.history (by decide)).reachable
    ((Sample.history (by decide)).exact (by decide)) Sample.settlements_apart
    (List.reverse_perm _).symm (Sample.settlements_noneRefused _ (.inl rfl))
    (Sample.settlements_noneRefused _ (.inr rfl))

end StreamPay
