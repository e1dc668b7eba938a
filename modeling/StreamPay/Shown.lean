import StreamPay.Operations

/-!
# What two systems have in common

Two systems can be compared to three extents.  They may have the values of the storage
and the balances in common, or also the lifetimes of all entries, or all but what an
upgrade writes.  To each of these extents, what the contract does depends on nothing
that is left out: in systems that show the same, a call has the same result, and
afterwards they show the same again.

What the contract does is not yet what a caller gets, because the host does not let a
call use an expired entry.  This is added in `Expiry`.
-/

namespace StreamPay

open Foundation Foundation.Computation

variable {Address : Type}

/-- The code whose installation an event announces. -/
def Event.installed? : Event Address → Option (BitVec 256)
  | .upgraded newWasmHash => some newWasmHash
  | _ => none

/-- How much of two states is compared. -/
inductive Extent where
  | values
  | entries
  | history
deriving DecidableEq

/-- A stream that is not stored has no entry, and no lifetime either. -/
def Extent.streamLifetimes (extent : Extent) (streams : Finmap fun _ : U64 => Stream Address)
    (liveUntil : U64 → ℤ) : U64 → ℤ :=
  match extent with
  | .values => fun _ => 0
  | .entries => fun id => if id ∈ streams then liveUntil id else 0
  | .history => liveUntil

/-- What is left of the state when everything beyond the extent is forgotten. -/
def State.shown (extent : Extent) (state : State Address) : State Address :=
  { state with
    wasmHash := none
    instanceLiveUntil :=
      match extent with
      | .entries => state.instanceLiveUntil
      | .values | .history => 0
    streamLiveUntil := extent.streamLifetimes state.streams state.streamLiveUntil
    transfers :=
      match extent with
      | .history => state.transfers
      | .values | .entries => []
    events :=
      match extent with
      | .history => state.events.filter fun event => event.installed?.isNone
      | .values | .entries => [] }

/-- Two states show the same. -/
def State.SameShown (extent : Extent) (first second : State Address) : Prop :=
  first.shown extent = second.shown extent

section Shown

variable {extent : Extent} {first second : State Address} {Excused : Fault → Prop}
  {Result : Type} {env : Env Address}

/-- A read that looks at nothing but what is shown. -/
theorem State.SameShown.read_eq {Value : Type} (same : first.SameShown extent second)
    (read : State Address → Value) (blind : ∀ state, read (state.shown extent) = read state) :
    read first = read second := by
  rw [← blind first, ← blind second, same]

/-- Beyond the values and the balances, only lifetimes are left to compare. -/
theorem sameShown_of_storage (admin : first.admin = second.admin)
    (token : first.token = second.token) (counter : first.counter = second.counter)
    (pendingAdmin : first.pendingAdmin = second.pendingAdmin)
    (executeAfter : first.adminActionExecuteAfter = second.adminActionExecuteAfter)
    (totalSupply : first.totalSupply = second.totalSupply)
    (supplyCap : first.supplyCap = second.supplyCap) (streams : first.streams = second.streams)
    (balances : first.balances = second.balances) : first.SameShown .values second := by
  simp only [State.SameShown, State.shown, admin, token, counter, pendingAdmin, executeAfter,
    totalSupply, supplyCap, streams, balances, Extent.streamLifetimes]

theorem unaffected_blindRead {read : State Address → Result}
    (blind : ∀ state, read (state.shown extent) = read state) :
    Unaffected (State.SameShown extent) Excused (readState read) :=
  unaffected_readState fun _ _ same => same.read_eq read blind

/-- An update of the storage. -/
theorem unaffected_blindModify {update : State Address → State Address}
    (blind : ∀ state, update (state.shown extent) = (update state).shown extent) :
    Unaffected (State.SameShown extent) Excused (modify update : Contract Address PUnit) := by
  refine .modify fun before other same => ?_
  rw [State.SameShown, ← blind before, ← blind other, same]

namespace State.SameShown

/-- A write gives the entry the same lifetime if it had the same before, or if it is new. -/
theorem putStream (same : first.SameShown extent second) (ledger : Ledger) (id : U64)
    (stream : Stream Address) :
    (first.putStream ledger id stream).SameShown extent
      (second.putStream ledger id stream) := by
  cases extent with
  | values =>
      have blind (state : State Address) :
          ((state.shown .values).putStream ledger id stream).shown .values =
            (state.putStream ledger id stream).shown .values := rfl
      rw [State.SameShown, ← blind first, ← blind second, same]
  | entries =>
      have lifetimes (state : State Address) :
          ((state.shown .entries).putStream ledger id stream).shown .entries =
            (state.putStream ledger id stream).shown .entries := by
        have known : Extent.entries.streamLifetimes (state.streams.insert id stream)
            ((state.shown .entries).putStream ledger id stream).streamLiveUntil =
              Extent.entries.streamLifetimes (state.streams.insert id stream)
                (state.putStream ledger id stream).streamLiveUntil := by
          funext other
          by_cases written : other = id
          · subst other
            by_cases stored : id ∈ state.streams
            · simp [Extent.streamLifetimes, State.shown, stored]
            · simp [Extent.streamLifetimes, State.shown, stored]
          · by_cases stored : id ∈ state.streams
            · simp +contextual [Extent.streamLifetimes, State.shown, stored, written]
            · simp +contextual [Extent.streamLifetimes, State.shown, stored, written]
        exact congrArg (fun liveUntil : U64 → ℤ =>
          { (state.putStream ledger id stream).shown .entries with
            streamLiveUntil := liveUntil }) known
      rw [State.SameShown, ← lifetimes first, ← lifetimes second, same]
  | history => exact congrArg (State.putStream · ledger id stream) same

theorem touchInstance (same : first.SameShown extent second) (ledger : Ledger) :
    (first.touchInstance ledger).SameShown extent (second.touchInstance ledger) := by
  cases extent with
  | values => exact same
  | entries => exact congrArg (State.touchInstance · ledger) same
  | history => exact same

theorem publish (same : first.SameShown extent second) (event : Event Address) :
    (first.publish event).SameShown extent (second.publish event) := by
  cases extent with
  | values => exact same
  | entries => exact same
  | history =>
      have published (state : State Address) : (state.publish event).shown .history =
          { state.shown .history with
            events := (state.shown .history).events ++
              [event].filter fun event => event.installed?.isNone } := by
        simp [State.shown, State.publish, List.filter_append]
      rw [State.SameShown, published, published, same]

theorem setBalances (same : first.SameShown extent second)
    (update : Balances Address → Balances Address) :
    State.SameShown extent { first with balances := update first.balances }
      { second with balances := update second.balances } := by
  have updated := congrArg
    (fun state : State Address => { state with balances := update state.balances }) same
  exact updated

theorem recordTransfer [DecidableEq Address] (same : first.SameShown extent second)
    (record : Transfer Address) :
    (first.recordTransfer record).SameShown extent (second.recordTransfer record) := by
  have moved := same.setBalances fun balances =>
    balances.move record.token record.source record.destination record.amount.val
  cases extent with
  | values => exact moved
  | entries => exact moved
  | history => exact congrArg (State.recordTransfer · record) same

end State.SameShown

theorem hostRules_sameShown [DecidableEq Address] :
    HostRules (State.SameShown extent) Excused env where
  onStream id :=
    { getStream := (unaffected_blindRead fun _ => rfl).bind fun _ => unaffected_liftM _
      writeStream := fun stream => .modify fun _ _ same => same.putStream env.ledger id stream
      readToken := (unaffected_blindRead fun _ => rfl).bind fun _ => unaffected_liftM _
      transfer := by
        intro token source destination amount purpose before other same
        let record := Transfer.mk token source destination amount purpose
        have sameAnswer :
            env.accepts before.balances record = env.accepts other.balances record :=
          same.read_eq (fun state => env.accepts state.balances record) fun _ => rfl
        change SameEnd _ _ ((if _ then _ else _ : Contract Address Unit) before)
          ((if _ then _ else _ : Contract Address Unit) other)
        by_cases accepted : env.accepts before.balances record = true
        · rw [if_pos accepted, if_pos (sameAnswer ▸ accepted)]
          exact ⟨rfl, same.recordTransfer record⟩
        · rw [if_neg accepted, if_neg (sameAnswer ▸ accepted)]
          exact .inl rfl
      updateSupply := unaffected_updateSupply (unaffected_blindRead fun _ => rfl) fun supply =>
        unaffected_blindModify fun _ => rfl
      extendInstance := .modify fun _ _ same => same.touchInstance env.ledger
      publish := fun event => .modify fun _ _ same => same.publish event }
  hasAdmin := unaffected_blindRead fun _ => rfl
  writeAdmin admin := unaffected_blindModify fun _ => rfl
  writeToken token := unaffected_blindModify fun _ => rfl
  readCounter := unaffected_blindRead fun _ => rfl
  writeCounter counter := unaffected_blindModify fun _ => rfl
  readTotalSupply := unaffected_blindRead fun _ => rfl
  writeTotalSupply supply := unaffected_blindModify fun _ => rfl
  writeSupplyCap cap := unaffected_blindModify fun _ => rfl
  readAdmin := (unaffected_blindRead fun _ => rfl).bind fun _ => unaffected_liftM _
  readPendingAdmin := unaffected_blindRead fun _ => rfl
  readAdminActionExecuteAfter := unaffected_blindRead fun _ => rfl
  writePendingAdminAction admin executeAfter := by
    refine Unaffected.bind ?_ fun _ => ?_
    · exact unaffected_blindModify fun _ => rfl
    · exact unaffected_blindModify fun _ => rfl
  clearPendingAdminAction := by
    refine Unaffected.bind ?_ fun _ => ?_
    · exact unaffected_blindModify fun _ => rfl
    · exact unaffected_blindModify fun _ => rfl
  readSupplyCap := unaffected_blindRead fun _ => rfl

end Shown

/-- The same ledger and states that show the same. -/
def System.SameShown (extent : Extent) (first second : System Address) : Prop :=
  first.ledger = second.ledger ∧ first.state.SameShown extent second.state

theorem sameShown_equivalence {extent : Extent} :
    Equivalence (System.SameShown extent : System Address → System Address → Prop) where
  refl _ := ⟨rfl, rfl⟩
  symm same := ⟨same.1.symm, same.2.symm⟩
  trans first second := ⟨first.1.trans second.1, first.2.trans second.2⟩

section Calls

variable [DecidableEq Address] {extent : Extent} {contract : Address}
  {first second : System Address}

/-- An invocation does the same in systems that show the same. -/
theorem System.SameShown.outcome (same : first.SameShown extent second)
    (invocation : Invocation Address) :
    (invocation.outcome contract first).1 = (invocation.outcome contract second).1 ∧
      (invocation.outcome contract first).2.SameShown extent
        (invocation.outcome contract second).2 :=
  outcome_eq_of_unaffected same.1 same.2 (hostRules_sameShown.unaffected_call invocation.call)

/-- So does an action. -/
theorem System.SameShown.next (same : first.SameShown extent second) (contract : Address)
    (action : Action Address) :
    (first.next contract action).SameShown extent (second.next contract action) := by
  rcases same with ⟨sameLedger, sameState⟩
  cases action with
  | advance ledger => exact ⟨rfl, sameState⟩
  | external balances => exact ⟨sameLedger, sameState.setBalances fun _ => balances⟩
  | invoke invocation =>
      exact ⟨sameLedger, (System.SameShown.outcome ⟨sameLedger, sameState⟩ invocation).2⟩

end Calls

end StreamPay
