import StreamPay.Records

/-!
# Streams that stay

Ids are handed out by a counter that never goes back, and no entry is ever
removed.  Hence a later state of a run still holds every stream of an earlier
one, between the same parties and with the same start, and only the call that is
addressed to a stream has touched its record.
-/

namespace StreamPay

open Foundation

variable {Address : Type} {contract : Address}

/-- What later states keep of a record. -/
structure Stream.GrowsTo (older newer : Stream Address) : Prop where
  sender : newer.sender = older.sender
  recipient : newer.recipient = older.recipient
  start : newer.start = older.start
  total : older.total.val ≤ newer.total.val
  «end» : older.end.val ≤ newer.end.val

theorem Stream.GrowsTo.refl (stream : Stream Address) : stream.GrowsTo stream :=
  ⟨rfl, rfl, rfl, le_rfl, le_rfl⟩

theorem Stream.GrowsTo.trans {first second third : Stream Address}
    (earlier : first.GrowsTo second) (later : second.GrowsTo third) : first.GrowsTo third :=
  ⟨later.sender.trans earlier.sender, later.recipient.trans earlier.recipient,
    later.start.trans earlier.start, earlier.total.trans later.total,
    earlier.end.trans later.end⟩

/-- What later states keep of an earlier one. -/
structure State.GrowsTo (before after : State Address) : Prop where
  stored : ∀ id older, before.streams.lookup id = some older →
    ∃ newer, after.streams.lookup id = some newer ∧ older.GrowsTo newer
  counter : (before.counter.getD 0).val ≤ (after.counter.getD 0).val
  token : ∀ token, before.token = some token → after.token = some token

theorem State.GrowsTo.refl (state : State Address) : state.GrowsTo state :=
  ⟨fun _ older stored => ⟨older, stored, .refl older⟩, le_rfl, fun _ tokenSet => tokenSet⟩

theorem State.GrowsTo.trans {first second third : State Address}
    (earlier : first.GrowsTo second) (later : second.GrowsTo third) : first.GrowsTo third := by
  refine ⟨?_, earlier.counter.trans later.counter, ?_⟩
  · intro id oldest stored
    rcases earlier.stored id oldest stored with ⟨older, olderStored, olderGrows⟩
    rcases later.stored id older olderStored with ⟨newer, newerStored, newerGrows⟩
    exact ⟨newer, newerStored, olderGrows.trans newerGrows⟩
  · intro token tokenSet
    exact later.token token (earlier.token token tokenSet)

/-- The stored streams are the ones below the counter, and only their own calls change them. -/
structure StreamsPersist [DecidableEq Address] (contract : Address) (middle : System Address)
    (trace : Trace Address) (final : System Address) : Prop where
  storedIff : ∀ id, (∃ stream, final.state.streams.lookup id = some stream) ↔
    id.val < (final.state.counter.getD 0).val
  grows : middle.state.GrowsTo final.state
  untouched : ∀ transition ∈ trace, ∀ id stream,
    transition.source.state.streams.lookup id = some stream →
      (∀ call, returnedCall? contract transition = some call → call.target ≠ some id) →
        transition.target.state.streams.lookup id = some stream

variable [DecidableEq Address]

section Steps

variable {env : Env Address} {before after : State Address} {call : Call Address}
  {reply : Reply Address} {id : U64} {stream changed : Stream Address}
  {system source target : System Address} {action : Action Address}

theorem RecordEffect.grows (record : RecordEffect env before id stream call reply changed) :
    stream.GrowsTo changed := by
  cases record with
  | untouched elsewhere => exact .refl stream
  | @raised sender token amount newTotal newSupply checks =>
      have amountPos := checks.amountPos
      have newTotalEq := checks.newTotalEq
      refine ⟨rfl, rfl, rfl, ?_, le_rfl⟩
      show stream.total.val ≤ newTotal.val
      omega
  | prolonged checks => exact ⟨rfl, rfl, rfl, le_rfl, checks.later.le⟩
  | paidOut checks => exact ⟨rfl, rfl, rfl, le_rfl, le_rfl⟩
  | closed checks => exact ⟨rfl, rfl, rfl, le_rfl, le_rfl⟩

/-- Before the contract is initialized, it has neither handed out ids nor chosen a token. -/
theorem Reachable.idle (reachable : Reachable contract system)
    (uninitialized : system.state.admin = none) :
    system.state.token = none ∧ (system.state.counter.getD 0).val = 0 := by
  have noStream (id : U64) : ¬id.val < (system.state.counter.getD 0).val := by
    rw [← reachable.mem_iff]
    intro stored
    rcases Finmap.mem_iff.mp stored with ⟨stream, found⟩
    rw [reachable.lookup_of_uninitialized uninitialized] at found
    contradiction
  rcases reachable.exists_book with ⟨book, describes⟩
  constructor
  · have sameKeys := describes.sameKeys
    rw [uninitialized] at sameKeys
    simpa using sameKeys
  · have notPositive := noStream 0
    have nonneg := (system.state.counter.getD 0).lower_le
    rw [u64_zero_val] at notPositive
    omega

theorem Effect.counter_le (effect : Effect env before call reply after)
    (idle : before.admin = none → (before.counter.getD 0).val = 0) :
    (before.counter.getD 0).val ≤ (after.counter.getD 0).val := by
  cases effect with
  | initializeContract fresh => exact (idle fresh).le
  | @createStream sender recipient token totalAmount newSupply startTime endTime next checks =>
      have nextEq := checks.nextEq
      show (before.counter.getD 0).val ≤ next.val
      omega
  | @createStreamBatch sender token requests aggregate nextCounter checks =>
      have nextCounterEq := checks.nextCounterEq
      show (before.counter.getD 0).val ≤ nextCounter.val
      omega
  | query returned => exact le_rfl
  | _ => simp

theorem Effect.token_kept (effect : Effect env before call reply after)
    (idle : before.admin = none → before.token = none) {token : Address}
    (tokenSet : before.token = some token) : after.token = some token := by
  cases effect with
  | initializeContract fresh =>
      rw [idle fresh] at tokenSet
      contradiction
  | query returned => exact tokenSet
  | _ => simpa using tokenSet

theorem Step.growsTo (step : Step contract source action target)
    (reachable : Reachable contract source) : source.state.GrowsTo target.state := by
  cases stepEffect_of_step step with
  | advance later laterSequence => exact .refl source.state
  | external noLoss => exact ⟨(State.GrowsTo.refl source.state).stored, le_rfl, fun _ set => set⟩
  | failed outcome => exact .refl source.state
  | returned outcome effect =>
      refine ⟨?_, ?_, ?_⟩
      · intro id older stored
        rcases effect.exists_record stored (reachable.lt_counter stored) with
          ⟨newer, newerStored, record⟩
        exact ⟨newer, newerStored, record.grows⟩
      · exact effect.counter_le fun uninitialized => (reachable.idle uninitialized).2
      · intro token tokenSet
        exact effect.token_kept (fun uninitialized => (reachable.idle uninitialized).1) tokenSet

/-- A step whose call is addressed elsewhere leaves the record as it is. -/
theorem Step.lookup_kept (step : Step contract source action target)
    (reachable : Reachable contract source)
    (stored : source.state.streams.lookup id = some stream)
    (elsewhere : ∀ call, returnedCall? contract ⟨source, action, target⟩ = some call →
      call.target ≠ some id) :
    target.state.streams.lookup id = some stream := by
  cases stepEffect_of_step step with
  | advance later laterSequence => exact stored
  | external noLoss => exact stored
  | failed outcome => exact stored
  | @returned invocation reply after outcome effect =>
      have notTarget := elsewhere invocation.call (returnedCall?_of_outcome outcome)
      rcases effect.exists_record stored (reachable.lt_counter stored) with
        ⟨changed, changedStored, record⟩
      rcases invocation with ⟨authorized, transferAccepted, call⟩
      cases record with
      | untouched _ => exact changedStored
      | raised checks => exact absurd rfl notTarget
      | prolonged checks => exact absurd rfl notTarget
      | paidOut checks => exact absurd rfl notTarget
      | closed checks => exact absurd rfl notTarget

end Steps

/--
A stream is stored under an id if and only if the id is below the counter.  Later
in a run every stream is still stored under its id, with the same sender,
recipient and start and no smaller total and end; the counter has not gone back,
the token is the same, and a call has changed no record but the one it names.
-/
theorem streams_persist {middle final : System Address} {trace : Trace Address}
    (reachable : Reachable contract middle) (run : Run (Step contract) middle trace final) :
    StreamsPersist contract middle trace final := by
  have finalGrows : Reachable contract final ∧ middle.state.GrowsTo final.state := by
    apply run.invariant_of_forall (fun _ => True) ⟨reachable, .refl middle.state⟩ (by simp)
    rintro source action target ⟨sourceReachable, sourceGrows⟩ step _
    exact ⟨sourceReachable.step step, sourceGrows.trans (step.growsTo sourceReachable)⟩
  refine ⟨?_, finalGrows.2, ?_⟩
  · intro id
    rw [← finalGrows.1.mem_iff, Finmap.mem_iff]
  · intro transition transitionMem id stream stored elsewhere
    rcases run.of_mem transitionMem with ⟨earlier, later, _, reaching, step, _⟩
    rcases reachable with ⟨before, history⟩
    exact step.lookup_kept (history.append reaching).reachable stored elsewhere

namespace Sample

/-- The first stream is raised, and the recipient of the second one withdraws. -/
def laterActions : List (Action Party) :=
  [callBy .alice (.topUp 0 .alice (units 500)), callBy .dave (.withdraw 1 .dave)]

end Sample

/-- The theorem applies to what follows a withdrawal. -/
theorem streams_persist_withdrawing :
    StreamsPersist .contract (Sample.final Sample.withdrawing)
      (execute (System.next .contract) (Sample.final Sample.withdrawing) Sample.laterActions)
      (Sample.laterActions.foldl (System.next .contract) (Sample.final Sample.withdrawing)) :=
  streams_persist (Sample.history (by decide)).reachable (run_execute (by decide))

end StreamPay
