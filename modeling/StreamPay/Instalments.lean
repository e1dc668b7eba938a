import StreamPay.BatchOutcome
import StreamPay.Commutation
import StreamPay.Foundation.Fusion
import StreamPay.Shown

/-!
# Paying in parts

A sender may pay a top-up in instalments and may divide a batch into several.  Nothing
is gained or lost by that: the parts return exactly where the whole does, and they
leave the same records, the same counter and supply, and the same balances.  Only the
log and the transfers show how the payment was made.

This needs a token that accepts a sum exactly where it accepts the parts one after
another.
-/

namespace StreamPay

open Foundation

variable {Address : Type}

theorem storeFrom_append {streams : Finmap fun _ : U64 => Stream Address} {id later : U64}
    {first second : List (Stream Address)} (follows : id.val + first.length = later.val) :
    storeFrom streams id (first ++ second) =
      storeFrom (storeFrom streams id first) later second := by
  induction first generalizing streams id with
  | nil =>
      have same : id = later := BoundedInt.eq_iff.mpr (by simpa using follows)
      rw [same]
      rfl
  | cons stream rest ih =>
      have upper := later.le_upper
      rw [List.length_cons] at follows
      push_cast at follows
      have nextVal : id.next.val = id.val + 1 := U64.next_val (by omega)
      rw [List.cons_append, storeFrom, storeFrom, ih (by omega)]

/-- The sum of the amounts of valid requests is positive. -/
theorem amountSum_pos {now : U64} {requests : List (StreamRequest Address)}
    (nonempty : requests ≠ []) (valid : ∀ request ∈ requests, request.Valid now) :
    1 ≤ amountSum requests := by
  have enough := length_le_amountSum valid
  have positive : 0 < requests.length := List.length_pos_iff.mpr nonempty
  omega

variable [DecidableEq Address]

/-- The token accepts the sum of two amounts exactly where it accepts one after the other. -/
def TransfersAdd (contract sender : Address)
    (transferAccepted : Balances Address → Address → Address → Address → I128 → Bool) : Prop :=
  ∀ (balances : Balances Address) (token : Address) (first second whole : I128),
    1 ≤ first.val → 1 ≤ second.val → whole.val = first.val + second.val →
      transferAccepted balances token sender contract whole =
        (transferAccepted balances token sender contract first &&
          transferAccepted (balances.move token sender contract first.val) token sender contract
            second)

/-- Two payments in the same environment, and the payment of both at once. -/
inductive Invocation.Joins (contract : Address) :
    Invocation Address → Invocation Address → Invocation Address → Prop where
  | topUp {authorized : Address → Bool}
      {transferAccepted : Balances Address → Address → Address → Address → I128 → Bool}
      {id : U64} {sender : Address} {first second whole : I128}
      (additive : TransfersAdd contract sender transferAccepted) (firstPos : 1 ≤ first.val)
      (secondPos : 1 ≤ second.val) (wholeEq : whole.val = first.val + second.val) :
      Joins contract ⟨authorized, transferAccepted, .topUp id sender first⟩
        ⟨authorized, transferAccepted, .topUp id sender second⟩
        ⟨authorized, transferAccepted, .topUp id sender whole⟩
  | batch {authorized : Address → Bool}
      {transferAccepted : Balances Address → Address → Address → Address → I128 → Bool}
      {sender : Address} {first second whole : HostVec (StreamRequest Address)}
      (additive : TransfersAdd contract sender transferAccepted)
      (firstNonempty : first.toList ≠ []) (secondNonempty : second.toList ≠ [])
      (wholeEq : whole.toList = first.toList ++ second.toList)
      (fits : amountSum whole.toList ≤ 2 ^ 127 - 1) :
      Joins contract ⟨authorized, transferAccepted, .createStreamBatch sender first⟩
        ⟨authorized, transferAccepted, .createStreamBatch sender second⟩
        ⟨authorized, transferAccepted, .createStreamBatch sender whole⟩

section Parts

variable {env : Env Address} {before : State Address} {sender token : Address}

/-- A transfer of a sum is accepted exactly where the transfers of its parts are. -/
theorem accepts_sum_iff {purpose : Purpose} {first second whole : I128}
    (additive : TransfersAdd env.currentContractAddress sender env.transferAccepted)
    (firstPos : 1 ≤ first.val) (secondPos : 1 ≤ second.val)
    (wholeEq : whole.val = first.val + second.val) (balances : Balances Address) :
    env.accepts balances ⟨token, sender, env.currentContractAddress, whole, purpose⟩ = true ↔
      env.accepts balances ⟨token, sender, env.currentContractAddress, first, purpose⟩ = true ∧
        env.accepts (balances.move token sender env.currentContractAddress first.val)
          ⟨token, sender, env.currentContractAddress, second, purpose⟩ = true := by
  have nonneg {amount : I128} (positive : 1 ≤ amount.val) : 0 ≤ amount := by
    show (0 : ℤ) ≤ amount.val
    omega
  simp only [Env.accepts, Bool.and_eq_true, decide_eq_true_eq,
    additive balances token first second whole firstPos secondPos wholeEq, nonneg firstPos,
    nonneg secondPos, nonneg (wholeEq ▸ by omega : 1 ≤ whole.val), true_and]

section TopUp

variable {id : U64} {first second whole newTotal newSupply : I128} {stream : Stream Address}

/-- The state after a top-up that returns. -/
def State.toppedUp (env : Env Address) (state : State Address) (id : U64) (sender token : Address)
    (amount : I128) (stream : Stream Address) (newTotal newSupply : I128) : State Address :=
  ((((state.recordTransfer
    ⟨token, sender, env.currentContractAddress, amount, .topUp id⟩).putStream
      env.ledger id { stream with total := newTotal }).setTotalSupply
        newSupply).touchInstance env.ledger).publish
          (.toppedup id sender amount newTotal)

section Fields

variable {state : State Address} {amount : I128}

@[simp]
theorem toppedUp_token :
    (state.toppedUp env id sender token amount stream newTotal newSupply).token =
      state.token := by
  simp [State.toppedUp]

@[simp]
theorem toppedUp_totalSupply :
    (state.toppedUp env id sender token amount stream newTotal newSupply).totalSupply =
      some newSupply := by
  simp [State.toppedUp]

@[simp]
theorem toppedUp_supplyCap :
    (state.toppedUp env id sender token amount stream newTotal newSupply).supplyCap =
      state.supplyCap := by
  simp [State.toppedUp]

@[simp]
theorem toppedUp_streams :
    (state.toppedUp env id sender token amount stream newTotal newSupply).streams =
      state.streams.insert id (stream.raised newTotal) := by
  simp [State.toppedUp, Stream.raised]

@[simp]
theorem toppedUp_balances :
    (state.toppedUp env id sender token amount stream newTotal newSupply).balances =
      state.balances.move token sender env.currentContractAddress amount.val := by
  funext other holder
  simp [State.toppedUp]

end Fields

section Checks

variable (additive : TransfersAdd env.currentContractAddress sender env.transferAccepted)
  (firstPos : 1 ≤ first.val) (secondPos : 1 ≤ second.val)
  (wholeEq : whole.val = first.val + second.val)

include additive firstPos secondPos wholeEq

/-- A top-up that passes its checks could be made in two. -/
theorem TopUpChecks.exists_parts
    (checks : TopUpChecks env before id sender whole stream newTotal newSupply token) :
    ∃ middleTotal middleSupply,
      TopUpChecks env before id sender first stream middleTotal middleSupply token ∧
        TopUpChecks env
          (before.toppedUp env id sender token first stream middleTotal middleSupply) id sender
          second (stream.raised middleTotal) newTotal newSupply token := by
  have newTotalEq := checks.newTotalEq
  have newSupplyEq := checks.newSupplyEq
  have underCap := checks.underCap
  have totalLower := stream.total.lower_le
  have totalUpper := newTotal.le_upper
  have supplyLower := (before.totalSupply.getD 0).lower_le
  have supplyUpper := newSupply.le_upper
  let middleTotal : I128 := ⟨stream.total.val + first.val, by omega, by omega⟩
  let middleSupply : I128 :=
    ⟨(before.totalSupply.getD 0).val + first.val, by omega, by omega⟩
  rcases (accepts_sum_iff additive firstPos secondPos wholeEq _).mp checks.accepted with
    ⟨firstAccepted, secondAccepted⟩
  have middleUnderCap : middleSupply.val ≤ (before.supplyCap.getD I128.max).val := by
    show (before.totalSupply.getD 0).val + first.val ≤ _
    omega
  refine ⟨middleTotal, middleSupply, ?_, ?_⟩
  · exact ⟨checks.authorized, firstPos, checks.stored, checks.isSender, checks.active, rfl, rfl,
      middleUnderCap, checks.tokenSet, firstAccepted⟩
  · constructor
    case authorized => exact checks.authorized
    case amountPos => exact secondPos
    case stored =>
      rw [toppedUp_streams]
      exact Finmap.lookup_insert _
    case isSender => exact checks.isSender
    case active => exact checks.active
    case newTotalEq =>
      show newTotal.val = stream.total.val + first.val + second.val
      omega
    case newSupplyEq =>
      rw [toppedUp_totalSupply]
      show newSupply.val = (before.totalSupply.getD 0).val + first.val + second.val
      omega
    case underCap => rwa [toppedUp_supplyCap]
    case tokenSet => rw [toppedUp_token, checks.tokenSet]
    case accepted => rwa [toppedUp_balances]

/-- Two top-ups that pass their checks could be made in one. -/
theorem TopUpChecks.join {middleTotal middleSupply : I128} {later : Stream Address}
    {other : Address}
    (firstChecks : TopUpChecks env before id sender first stream middleTotal middleSupply token)
    (secondChecks : TopUpChecks env
      (before.toppedUp env id sender token first stream middleTotal middleSupply) id sender
      second later newTotal newSupply other) :
    TopUpChecks env before id sender whole stream newTotal newSupply token := by
  have stored := secondChecks.stored
  have tokenSet := secondChecks.tokenSet
  have newTotalEq := secondChecks.newTotalEq
  have newSupplyEq := secondChecks.newSupplyEq
  have underCap := secondChecks.underCap
  have secondAccepted := secondChecks.accepted
  have middleTotalEq := firstChecks.newTotalEq
  have middleSupplyEq := firstChecks.newSupplyEq
  rw [toppedUp_streams, Finmap.lookup_insert, Option.some.injEq] at stored
  rw [toppedUp_token, firstChecks.tokenSet, Option.some.injEq] at tokenSet
  rw [toppedUp_totalSupply, Option.getD_some] at newSupplyEq
  rw [toppedUp_supplyCap] at underCap
  subst later other
  rw [toppedUp_balances] at secondAccepted
  have accepted := (accepts_sum_iff additive firstPos secondPos wholeEq _).mpr
    ⟨firstChecks.accepted, secondAccepted⟩
  change newTotal.val = middleTotal.val + second.val at newTotalEq
  exact ⟨firstChecks.authorized, by omega, firstChecks.stored, firstChecks.isSender,
    firstChecks.active, by omega, by omega, underCap, firstChecks.tokenSet, accepted⟩

end Checks

/-- Two top-ups leave what one of the sum leaves, apart from the history. -/
theorem toppedUp_sameShown (wholeEq : whole.val = first.val + second.val)
    {middleTotal middleSupply : I128} :
    ((before.toppedUp env id sender token first stream middleTotal middleSupply).toppedUp env id
      sender token second (stream.raised middleTotal) newTotal newSupply).SameShown .values
        (before.toppedUp env id sender token whole stream newTotal newSupply) := by
  apply sameShown_of_storage
  case streams =>
    rw [toppedUp_streams, toppedUp_streams, toppedUp_streams]
    exact Finmap.insert_insert _
  case balances => rw [toppedUp_balances, toppedUp_balances, toppedUp_balances,
    Balances.move_add, wholeEq]
  all_goals simp [State.toppedUp]

end TopUp

section Batch

variable {first second whole : HostVec (StreamRequest Address)} {aggregate : I128}
  {nextCounter : U64}

/-- The state after a batch that returns. -/
def State.batchOpened (env : Env Address) (state : State Address) (sender token : Address)
    (requests : List (StreamRequest Address)) (aggregate : I128) (nextCounter : U64) :
    State Address :=
  (((state.recordTransfer
    ⟨token, sender, env.currentContractAddress, aggregate, .funding⟩).openAll
      env.ledger sender (state.counter.getD 0) requests).setCounter
        nextCounter).touchInstance env.ledger

section Fields

variable {state : State Address} {requests : List (StreamRequest Address)}

@[simp]
theorem batchOpened_admin :
    (state.batchOpened env sender token requests aggregate nextCounter).admin = state.admin := by
  simp [State.batchOpened]

@[simp]
theorem batchOpened_token :
    (state.batchOpened env sender token requests aggregate nextCounter).token = state.token := by
  simp [State.batchOpened]

@[simp]
theorem batchOpened_counter :
    (state.batchOpened env sender token requests aggregate nextCounter).counter =
      some nextCounter := by
  simp [State.batchOpened]

@[simp]
theorem batchOpened_streams :
    (state.batchOpened env sender token requests aggregate nextCounter).streams =
      storeFrom state.streams (state.counter.getD 0)
        (requests.map (StreamRequest.toStream sender)) := by
  simp [State.batchOpened, openAll_streams]

@[simp]
theorem batchOpened_balances :
    (state.batchOpened env sender token requests aggregate nextCounter).balances =
      state.balances.move token sender env.currentContractAddress aggregate.val := by
  funext other holder
  simp [State.batchOpened]

end Fields

section Checks

variable (additive : TransfersAdd env.currentContractAddress sender env.transferAccepted)
  (firstNonempty : first.toList ≠ []) (secondNonempty : second.toList ≠ [])
  (wholeEq : whole.toList = first.toList ++ second.toList)

include additive firstNonempty secondNonempty wholeEq

/-- A batch that passes its checks could be divided into two. -/
theorem CreateBatchChecks.exists_parts
    (checks : CreateBatchChecks env before sender whole aggregate token nextCounter) :
    ∃ firstAggregate middleCounter secondAggregate,
      aggregate.val = firstAggregate.val + secondAggregate.val ∧
        CreateBatchChecks env before sender first firstAggregate token middleCounter ∧
          CreateBatchChecks env
            (before.batchOpened env sender token first.toList firstAggregate middleCounter) sender
            second secondAggregate token nextCounter := by
  have valid := checks.valid
  have aggregateEq := checks.aggregateEq
  have nextCounterEq := checks.nextCounterEq
  rw [wholeEq, List.forall_mem_append] at valid
  rw [wholeEq, amountSum_append] at aggregateEq
  rw [wholeEq, List.length_append] at nextCounterEq
  push_cast at nextCounterEq
  have firstPos := amountSum_pos firstNonempty valid.1
  have secondPos := amountSum_pos secondNonempty valid.2
  have aggregateUpper := aggregate.le_upper
  have counterLower := (before.counter.getD 0).lower_le
  have counterUpper := nextCounter.le_upper
  let firstAggregate : I128 := ⟨amountSum first.toList, by omega, by omega⟩
  let secondAggregate : I128 := ⟨amountSum second.toList, by omega, by omega⟩
  let middleCounter : U64 :=
    ⟨(before.counter.getD 0).val + first.toList.length, by omega, by omega⟩
  have firstAggregatePos : 1 ≤ firstAggregate.val := firstPos
  have secondAggregatePos : 1 ≤ secondAggregate.val := secondPos
  rcases (accepts_sum_iff additive firstAggregatePos secondAggregatePos aggregateEq _).mp
    checks.accepted with ⟨firstAccepted, secondAccepted⟩
  refine ⟨firstAggregate, middleCounter, secondAggregate, aggregateEq, ?_, ?_⟩
  · exact ⟨checks.initialized, checks.authorized, firstNonempty, valid.1, rfl, checks.tokenSet,
      firstAccepted, rfl⟩
  · constructor
    case initialized => simpa using checks.initialized
    case authorized => exact checks.authorized
    case nonempty => exact secondNonempty
    case valid => exact valid.2
    case aggregateEq => rfl
    case tokenSet => simpa using checks.tokenSet
    case accepted => rwa [batchOpened_balances]
    case nextCounterEq =>
      rw [batchOpened_counter, Option.getD_some]
      show nextCounter.val = (before.counter.getD 0).val + first.toList.length + _
      omega

/-- Two batches that pass their checks could be one, if the sum of all amounts fits. -/
theorem CreateBatchChecks.exists_join {firstAggregate secondAggregate : I128} {middleCounter : U64}
    {other : Address} (fits : amountSum whole.toList ≤ 2 ^ 127 - 1)
    (firstChecks : CreateBatchChecks env before sender first firstAggregate token middleCounter)
    (secondChecks : CreateBatchChecks env
      (before.batchOpened env sender token first.toList firstAggregate middleCounter) sender
      second secondAggregate other nextCounter) :
    ∃ aggregate, CreateBatchChecks env before sender whole aggregate token nextCounter := by
  have tokenSet := secondChecks.tokenSet
  have secondAccepted := secondChecks.accepted
  have nextCounterEq := secondChecks.nextCounterEq
  have firstAggregateEq := firstChecks.aggregateEq
  have secondAggregateEq := secondChecks.aggregateEq
  have middleCounterEq := firstChecks.nextCounterEq
  rw [batchOpened_token, firstChecks.tokenSet, Option.some.injEq] at tokenSet
  rw [batchOpened_counter, Option.getD_some] at nextCounterEq
  subst other
  rw [batchOpened_balances] at secondAccepted
  have firstPos := amountSum_pos firstNonempty firstChecks.valid
  have secondPos := amountSum_pos secondNonempty secondChecks.valid
  have sumEq : amountSum whole.toList = firstAggregate.val + secondAggregate.val := by
    rw [wholeEq, amountSum_append, firstAggregateEq, secondAggregateEq]
  let aggregate : I128 := ⟨amountSum whole.toList, by omega, fits⟩
  have aggregateEq : aggregate.val = firstAggregate.val + secondAggregate.val := sumEq
  have accepted := (accepts_sum_iff additive (by omega) (by omega) aggregateEq _).mpr
    ⟨firstChecks.accepted, secondAccepted⟩
  refine ⟨aggregate, firstChecks.initialized, firstChecks.authorized, ?_, ?_, rfl,
    firstChecks.tokenSet, accepted, ?_⟩
  · simp [wholeEq, firstNonempty]
  · rw [wholeEq, List.forall_mem_append]
    exact ⟨firstChecks.valid, secondChecks.valid⟩
  · rw [wholeEq, List.length_append]
    push_cast
    omega

end Checks

/-- Two batches leave what one of all requests leaves, apart from the history. -/
theorem batchOpened_sameShown {firstAggregate secondAggregate : I128} {middleCounter : U64}
    (wholeEq : whole.toList = first.toList ++ second.toList)
    (aggregateEq : aggregate.val = firstAggregate.val + secondAggregate.val)
    (middleCounterEq :
      middleCounter.val = (before.counter.getD 0).val + first.toList.length) :
    ((before.batchOpened env sender token first.toList firstAggregate middleCounter).batchOpened
      env sender token second.toList secondAggregate nextCounter).SameShown .values
        (before.batchOpened env sender token whole.toList aggregate nextCounter) := by
  apply sameShown_of_storage
  case streams =>
    simp only [batchOpened_streams, batchOpened_counter, Option.getD_some, wholeEq,
      List.map_append]
    apply Eq.symm
    apply storeFrom_append
    rw [List.length_map, middleCounterEq]
  case balances => rw [batchOpened_balances, batchOpened_balances, batchOpened_balances,
    Balances.move_add, aggregateEq]
  all_goals simp [State.batchOpened]

end Batch

end Parts

/-- The invocation returns a reply. -/
def System.Returns (contract : Address) (system : System Address)
    (invocation : Invocation Address) : Prop :=
  ∃ reply, (invocation.outcome contract system).1 = .ok reply

section Invocations

variable {contract : Address} {system : System Address}
  {invocation first second whole : Invocation Address}

theorem returns_iff :
    system.Returns contract invocation ↔
      ∃ reply after,
        Effect (invocation.env contract system.ledger) system.state invocation.call reply
          after := by
  constructor
  · rintro ⟨reply, returned⟩
    exact ⟨reply, exists_effect_of_outcome returned⟩
  · rintro ⟨reply, after, effect⟩
    exact ⟨reply, congrArg Prod.fst effect.outcome_eq⟩

theorem Effect.invoke_eq {reply : Reply Address} {after : State Address}
    (effect : Effect (invocation.env contract system.ledger) system.state invocation.call reply
      after) : system.invoke contract invocation = { system with state := after } := by
  rw [System.invoke, System.next, effect.outcome_eq]

/-- Two payments that return could be made at once. -/
theorem Invocation.Joins.returns_whole (joins : Invocation.Joins contract first second whole)
    (firstReturns : system.Returns contract first)
    (secondReturns : (system.invoke contract first).Returns contract second) :
    system.Returns contract whole := by
  rcases returns_iff.mp firstReturns with ⟨_, middle, firstEffect⟩
  rw [firstEffect.invoke_eq, returns_iff] at secondReturns
  rcases secondReturns with ⟨_, after, secondEffect⟩
  rw [returns_iff]
  cases joins with
  | topUp additive firstPos secondPos wholeEq =>
      cases firstEffect with
      | topUp firstChecks =>
          cases secondEffect with
          | topUp secondChecks =>
              exact ⟨_, _, .topUp (firstChecks.join additive firstPos secondPos wholeEq
                secondChecks)⟩
  | batch additive firstNonempty secondNonempty wholeEq fits =>
      cases firstEffect with
      | createStreamBatch firstChecks =>
          cases secondEffect with
          | createStreamBatch secondChecks =>
              rcases firstChecks.exists_join additive firstNonempty secondNonempty wholeEq fits
                secondChecks with ⟨aggregate, checks⟩
              exact ⟨_, _, .createStreamBatch checks⟩

theorem parts_return {firstReply secondReply : Reply Address} {middle last after : State Address}
    (firstEffect :
      Effect (first.env contract system.ledger) system.state first.call firstReply middle)
    (secondEffect :
      Effect (second.env contract system.ledger) middle second.call secondReply last)
    (same : last.SameShown .values after) :
    system.Returns contract first ∧ (system.invoke contract first).Returns contract second ∧
      ((system.invoke contract first).invoke contract second).SameShown .values
        { system with state := after } := by
  have secondEffectAfter : Effect (second.env contract { system with state := middle }.ledger)
      { system with state := middle }.state second.call secondReply last := secondEffect
  rw [firstEffect.invoke_eq, secondEffectAfter.invoke_eq]
  exact ⟨returns_iff.mpr ⟨_, _, firstEffect⟩, returns_iff.mpr ⟨_, _, secondEffectAfter⟩, rfl, same⟩

/-- A payment that returns could be made in its two parts. -/
theorem Invocation.Joins.returns_parts (joins : Invocation.Joins contract first second whole)
    (returns : system.Returns contract whole) :
    system.Returns contract first ∧ (system.invoke contract first).Returns contract second ∧
      ((system.invoke contract first).invoke contract second).SameShown .values
        (system.invoke contract whole) := by
  rcases returns_iff.mp returns with ⟨_, after, effect⟩
  rw [effect.invoke_eq]
  cases joins with
  | topUp additive firstPos secondPos wholeEq =>
      cases effect with
      | topUp checks =>
          rcases checks.exists_parts additive firstPos secondPos wholeEq with
            ⟨middleTotal, middleSupply, firstChecks, secondChecks⟩
          exact parts_return (.topUp firstChecks) (.topUp secondChecks)
            (toppedUp_sameShown wholeEq)
  | batch additive firstNonempty secondNonempty wholeEq fits =>
      cases effect with
      | createStreamBatch checks =>
          rcases checks.exists_parts additive firstNonempty secondNonempty wholeEq with
            ⟨firstAggregate, middleCounter, secondAggregate, aggregateEq, firstChecks, secondChecks⟩
          exact parts_return (.createStreamBatch firstChecks) (.createStreamBatch secondChecks)
            (batchOpened_sameShown wholeEq aggregateEq firstChecks.nextCounterEq)

/-- Taking two payments is taking both at once. -/
theorem payments_fuse (contract : Address) :
    Fuses (System.invoke contract) (System.Returns contract) (System.SameShown .values)
      (Invocation.Joins contract) where
  equivalence := sameShown_equivalence
  allowed_iff system first second whole joins := by
    constructor
    · rintro ⟨firstReturns, secondReturns⟩
      exact joins.returns_whole firstReturns secondReturns
    · intro returns
      rcases joins.returns_parts returns with ⟨firstReturns, secondReturns, _⟩
      exact ⟨firstReturns, secondReturns⟩
  same system first second whole joins returns := (joins.returns_parts returns).2.2

end Invocations

section Payments

variable {contract sender : Address} {authorized : Address → Bool}
  {transferAccepted : Balances Address → Address → Address → Address → I128 → Bool}

/-- Several payments return exactly where one payment does, and they leave the same. -/
structure PaidInParts (contract : Address) (system : System Address)
    (parts : List (Invocation Address)) (whole : Invocation Address) : Prop where
  return_iff : AllAllowed (System.invoke contract) (System.Returns contract) system parts ↔
    system.Returns contract whole
  same : system.Returns contract whole →
    (parts.foldl (System.invoke contract) system).SameShown .values (system.invoke contract whole)

theorem paidInParts_of_joinsAll {parts : List (Invocation Address)} {whole : Invocation Address}
    (joins : JoinsAll (Invocation.Joins contract) parts whole) (system : System Address) :
    PaidInParts contract system parts whole where
  return_iff := (payments_fuse contract).allAllowed_iff joins
  same := (payments_fuse contract).same_foldl joins

theorem joinsAll_topUps (additive : TransfersAdd contract sender transferAccepted) (id : U64)
    {amounts : List I128} {whole : I128} (nonempty : amounts ≠ [])
    (positive : ∀ amount ∈ amounts, 1 ≤ amount.val)
    (wholeEq : whole.val = (amounts.map BoundedInt.val).sum) :
    JoinsAll (Invocation.Joins contract)
      (amounts.map fun amount => ⟨authorized, transferAccepted, .topUp id sender amount⟩)
      ⟨authorized, transferAccepted, .topUp id sender whole⟩ := by
  induction amounts generalizing whole with
  | nil => contradiction
  | cons amount rest ih =>
      rw [List.forall_mem_cons] at positive
      rw [List.map_cons, List.sum_cons] at wholeEq
      by_cases isLast : rest = []
      · subst rest
        have same : whole = amount := BoundedInt.eq_iff.mpr (by simpa using wholeEq)
        rw [same]
        exact .single _
      · have restPos : 0 < (rest.map BoundedInt.val).sum := by
          apply List.sum_pos
          · rw [List.forall_mem_map]
            exact positive.2
          · simpa using isLast
        have upper := whole.le_upper
        have amountPos := positive.1
        let others : I128 := ⟨(rest.map BoundedInt.val).sum, by omega, by omega⟩
        have othersEq : others.val = (rest.map BoundedInt.val).sum := rfl
        exact .cons (ih isLast positive.2 othersEq) (.topUp additive amountPos restPos wholeEq)

theorem joinsAll_batches (additive : TransfersAdd contract sender transferAccepted)
    {parts : List (HostVec (StreamRequest Address))} {whole : HostVec (StreamRequest Address)}
    (nonempty : parts ≠ []) (eachNonempty : ∀ part ∈ parts, part.toList ≠ [])
    (nonneg : ∀ request ∈ whole.toList, 0 ≤ request.totalAmount.val)
    (fits : amountSum whole.toList ≤ 2 ^ 127 - 1)
    (wholeEq : whole.toList = parts.flatMap HostVec.toList) :
    JoinsAll (Invocation.Joins contract)
      (parts.map fun part => ⟨authorized, transferAccepted, .createStreamBatch sender part⟩)
      ⟨authorized, transferAccepted, .createStreamBatch sender whole⟩ := by
  induction parts generalizing whole with
  | nil => contradiction
  | cons part rest ih =>
      rw [List.forall_mem_cons] at eachNonempty
      rw [List.flatMap_cons] at wholeEq
      by_cases isLast : rest = []
      · subst rest
        rcases whole with ⟨requests, length⟩
        rcases part with ⟨partRequests, partLength⟩
        obtain rfl : requests = partRequests := by simpa using wholeEq
        exact .single _
      · have lengthLe := whole.length_le
        have lengthEq := congrArg List.length wholeEq
        have sumEq := congrArg amountSum wholeEq
        rw [List.length_append] at lengthEq
        rw [amountSum_append] at sumEq
        rw [wholeEq, List.forall_mem_append] at nonneg
        have partNonneg : 0 ≤ amountSum part.toList := by
          apply List.sum_nonneg
          rw [List.forall_mem_map]
          exact nonneg.1
        let others : HostVec (StreamRequest Address) := ⟨rest.flatMap HostVec.toList, by omega⟩
        have othersEq : others.toList = rest.flatMap HostVec.toList := rfl
        have othersNonempty : others.toList ≠ [] := by
          rcases List.exists_cons_of_ne_nil isLast with ⟨next, later, restEq⟩
          subst rest
          have nextNonempty := eachNonempty.2 next List.mem_cons_self
          simp [othersEq, nextNonempty]
        have othersFits : amountSum others.toList ≤ 2 ^ 127 - 1 := by
          rw [othersEq]
          omega
        exact .cons (ih isLast eachNonempty.2 nonneg.2 othersFits othersEq)
          (.batch additive eachNonempty.1 othersNonempty wholeEq fits)

/--
A top-up may be paid in any number of positive instalments: all of them return exactly
if one top-up of the sum does, and then they leave the same storage and balances.
-/
theorem top_up_in_instalments (additive : TransfersAdd contract sender transferAccepted)
    (system : System Address) (id : U64) {amounts : List I128} {whole : I128}
    (nonempty : amounts ≠ []) (positive : ∀ amount ∈ amounts, 1 ≤ amount.val)
    (wholeEq : whole.val = (amounts.map BoundedInt.val).sum) :
    PaidInParts contract system
      (amounts.map fun amount => ⟨authorized, transferAccepted, .topUp id sender amount⟩)
      ⟨authorized, transferAccepted, .topUp id sender whole⟩ :=
  paidInParts_of_joinsAll (joinsAll_topUps additive id nonempty positive wholeEq) system

namespace Sample

/-- The token checks that the source can pay. -/
def covers (balances : Balances Party) (asset source _ : Party) (amount : I128) : Bool :=
  decide (amount.val ≤ balances asset source)

theorem transfersAdd_covers {party : Party} (different : party ≠ .contract) :
    TransfersAdd .contract party covers := by
  intro balances asset first second whole firstPos secondPos wholeEq
  rw [covers, covers, covers, ← Bool.decide_and, decide_eq_decide, Balances.move_same_token,
    if_pos rfl, if_neg different]
  omega

end Sample

/-- The theorem applies to three instalments for a stream that was withdrawn from. -/
theorem top_up_in_instalments_three :
    PaidInParts .contract (Sample.final Sample.withdrawing)
      ([Sample.units 100, Sample.units 200, Sample.units 300].map fun amount =>
        ⟨fun party => decide (party = .alice), Sample.covers, .topUp 0 .alice amount⟩)
      ⟨fun party => decide (party = .alice), Sample.covers, .topUp 0 .alice (Sample.units 600)⟩ :=
  top_up_in_instalments (Sample.transfersAdd_covers (by decide)) _ 0 (by decide) (by decide)
    (by decide)

/--
A batch may be divided into any number of batches: all of them return exactly if the
whole does, and then they leave the same storage and balances.
-/
theorem batch_in_parts (additive : TransfersAdd contract sender transferAccepted)
    (system : System Address) {parts : List (HostVec (StreamRequest Address))}
    {whole : HostVec (StreamRequest Address)} (nonempty : parts ≠ [])
    (eachNonempty : ∀ part ∈ parts, part.toList ≠ [])
    (nonneg : ∀ request ∈ whole.toList, 0 ≤ request.totalAmount.val)
    (fits : amountSum whole.toList ≤ 2 ^ 127 - 1)
    (wholeEq : whole.toList = parts.flatMap HostVec.toList) :
    PaidInParts contract system
      (parts.map fun part => ⟨authorized, transferAccepted, .createStreamBatch sender part⟩)
      ⟨authorized, transferAccepted, .createStreamBatch sender whole⟩ :=
  paidInParts_of_joinsAll (joinsAll_batches additive nonempty eachNonempty nonneg fits wholeEq)
    system

namespace Sample

def oneRequest (request : StreamRequest Party) : HostVec (StreamRequest Party) where
  toList := [request]
  length_le := by
    rw [List.length_singleton]
    omega

end Sample

/-- The theorem applies to two requests that are made one by one. -/
theorem batch_in_parts_two :
    PaidInParts .contract (Sample.final Sample.withdrawing)
      (((Sample.twoRequests 0).toList.map Sample.oneRequest).map fun part =>
        ⟨fun party => decide (party = .alice), Sample.covers, .createStreamBatch .alice part⟩)
      ⟨fun party => decide (party = .alice), Sample.covers,
        .createStreamBatch .alice (Sample.twoRequests 0)⟩ :=
  batch_in_parts (Sample.transfersAdd_covers (by decide)) _ (by decide) (by decide) (by decide)
    (by decide) rfl

end Payments

end StreamPay
