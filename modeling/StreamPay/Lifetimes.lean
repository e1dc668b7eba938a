import StreamPay.Foundation.Lease
import StreamPay.Records

/-!
# How long entries live

Entries of the storage expire.  Writing a stream extends the life of its entry,
and most calls extend the life of the instance entry, but both only when at most
a hundred thousand ledgers are left.  A write that comes too early for that
leaves the entry as it is, so what counts is how long ago the last extension was,
not how long ago the last write was.
-/

namespace StreamPay

open Foundation

variable {Address : Type}

/-- The terms on which `extend_ttl` is called for every entry. -/
def entryLease : Lease where
  threshold := bumpThreshold.val
  extension := bumpExtend.val
  threshold_lt := by decide

theorem extendTtl_eq_renew {sequence : U32} {liveUntil : ℤ} :
    extendTtl sequence bumpThreshold bumpExtend liveUntil =
      entryLease.renew liveUntil sequence.val :=
  rfl

/-- The step stores the stream for the first time. -/
def opensStream (id : U64) (transition : Transition (System Address) (Action Address)) : Bool :=
  decide (id ∉ transition.source.state.streams ∧ id ∈ transition.target.state.streams)

variable [DecidableEq Address]

/-- A call that is addressed to the stream returns. -/
def writesStream (contract : Address) (id : U64)
    (transition : Transition (System Address) (Action Address)) : Bool :=
  (returnedCall? contract transition).any fun call => decide (call.target = some id)

/-- The ledger in which the step writes the entry of the stream. -/
def writeTime? (contract : Address) (id : U64)
    (transition : Transition (System Address) (Action Address)) : Option ℤ :=
  if opensStream id transition || writesStream contract id transition then
    some transition.source.ledger.sequence.val
  else
    none

/-- The ledgers in which the entry of the stream is written, the first of them at its creation. -/
def writeTimes (contract : Address) (id : U64) (trace : Trace Address) : List ℤ :=
  trace.filterMap (writeTime? contract id)

/-- The creation leaves the entry the full time to live. -/
def OpenedInFull (id : U64) (trace : Trace Address) : Prop :=
  ∀ transition ∈ trace, opensStream id transition = true →
    transition.target.state.streamLiveUntil id =
      transition.source.ledger.sequence.val + bumpExtend.val

/-- Whenever the stream is written after its creation, its entry has not expired. -/
def StreamAliveWhenWritten (contract : Address) (id : U64) (trace : Trace Address) : Prop :=
  ∀ transition ∈ trace, writesStream contract id transition = true →
    transition.source.ledger.sequence.val ≤ transition.source.state.streamLiveUntil id

/--
Every write comes at most the extension after the last write that renewed the
entry.  The creation renews it, and so does a write for which the entry has at
most the threshold left.
-/
def RenewedInTime : List ℤ → Prop
  | [] => True
  | created :: writes => entryLease.InTime created writes

section Writes

variable {contract : Address} {env : Env Address} {before after : State Address}
  {call : Call Address} {reply : Reply Address} {id : U64} {stream : Stream Address}
  {ledger : Ledger}

omit [DecidableEq Address] in
theorem putStream_liveUntil_of_stored (stored : id ∈ before.streams) (new : Stream Address) :
    (before.putStream ledger id new).streamLiveUntil id =
      entryLease.renew (before.streamLiveUntil id) ledger.sequence.val := by
  rw [State.putStream_streamLiveUntil, Function.update_self, if_pos stored, extendTtl_eq_renew]

omit [DecidableEq Address] in
theorem putStream_liveUntil_of_ne {other : U64} (different : id ≠ other) (new : Stream Address) :
    (before.putStream ledger other new).streamLiveUntil id = before.streamLiveUntil id := by
  rw [State.putStream_streamLiveUntil, Function.update_of_ne different,
    State.setStream_streamLiveUntil]
  split
  · rfl
  · rw [Function.update_of_ne different]

omit [DecidableEq Address] in
theorem openAll_liveUntil_of_lt {sender : Address} {requests : List (StreamRequest Address)}
    {first : U64} (older : id.val < first.val) (room : first.val + requests.length ≤ 2 ^ 64 - 1) :
    (before.openAll ledger sender first requests).streamLiveUntil id =
      before.streamLiveUntil id := by
  induction requests generalizing before first with
  | nil => rfl
  | cons request rest ih =>
      rw [List.length_cons] at room
      push_cast at room
      have nextVal : first.next.val = first.val + 1 := U64.next_val (by omega)
      have different : id ≠ first := by
        rintro rfl
        exact lt_irrefl _ older
      rw [State.openAll, ih (by omega) (by omega), State.publish_streamLiveUntil,
        putStream_liveUntil_of_ne different]

/-- A call that is addressed to a stream renews its entry, on the terms of the lease. -/
theorem Effect.liveUntil_of_target (effect : Effect env before call reply after)
    (addressed : call.target = some id) :
    after.streamLiveUntil id =
      entryLease.renew (before.streamLiveUntil id) env.ledger.sequence.val := by
  cases effect with
  | topUp checks =>
      cases addressed
      simp only [State.publish_streamLiveUntil, State.touchInstance_streamLiveUntil,
        State.setTotalSupply_streamLiveUntil]
      refine putStream_liveUntil_of_stored ?_ _
      exact Finmap.mem_of_lookup_eq_some checks.stored
  | extendStream checks =>
      cases addressed
      simp only [State.publish_streamLiveUntil, State.touchInstance_streamLiveUntil]
      exact putStream_liveUntil_of_stored (Finmap.mem_of_lookup_eq_some checks.stored) _
  | withdraw checks =>
      cases addressed
      simp only [State.publish_streamLiveUntil, State.setTotalSupply_streamLiveUntil,
        State.recordTransfer_streamLiveUntil]
      exact putStream_liveUntil_of_stored (Finmap.mem_of_lookup_eq_some checks.stored) _
  | cancel checks =>
      cases addressed
      simp only [State.publish_streamLiveUntil, State.setTotalSupply_streamLiveUntil,
        State.recordPositive_streamLiveUntil]
      exact putStream_liveUntil_of_stored (Finmap.mem_of_lookup_eq_some checks.stored) _
  | _ => simp [Call.target] at addressed

/-- A call that is not addressed to a stored stream leaves its entry alone. -/
theorem Effect.liveUntil_of_ne (effect : Effect env before call reply after)
    (older : id.val < (before.counter.getD 0).val) (elsewhere : call.target ≠ some id) :
    after.streamLiveUntil id = before.streamLiveUntil id := by
  have different {other : U64} (isTarget : call.target = some other) : id ≠ other := by
    rintro rfl
    exact elsewhere isTarget
  cases effect with
  | createStream checks =>
      have notNext : id ≠ before.counter.getD 0 := by
        intro same
        rw [same] at older
        exact lt_irrefl _ older
      simp only [State.publish_streamLiveUntil, State.touchInstance_streamLiveUntil,
        State.setTotalSupply_streamLiveUntil, State.setCounter_streamLiveUntil]
      exact putStream_liveUntil_of_ne notNext _
  | createStreamBatch checks =>
      have room : (before.counter.getD 0).val + (_ : List _).length ≤ 2 ^ 64 - 1 :=
        checks.nextCounterEq ▸ (BoundedInt.le_upper _)
      simp only [State.touchInstance_streamLiveUntil, State.setCounter_streamLiveUntil]
      exact openAll_liveUntil_of_lt older room
  | topUp checks =>
      simp only [State.publish_streamLiveUntil, State.touchInstance_streamLiveUntil,
        State.setTotalSupply_streamLiveUntil]
      exact putStream_liveUntil_of_ne (different rfl) _
  | extendStream checks =>
      simp only [State.publish_streamLiveUntil, State.touchInstance_streamLiveUntil]
      exact putStream_liveUntil_of_ne (different rfl) _
  | withdraw checks =>
      simp only [State.publish_streamLiveUntil, State.setTotalSupply_streamLiveUntil,
        State.recordTransfer_streamLiveUntil]
      exact putStream_liveUntil_of_ne (different rfl) _
  | cancel checks =>
      simp only [State.publish_streamLiveUntil, State.setTotalSupply_streamLiveUntil,
        State.recordPositive_streamLiveUntil]
      exact putStream_liveUntil_of_ne (different rfl) _
  | query returned => rfl
  | _ => simp

section Steps

variable {source target final : System Address} {action : Action Address} {trace : Trace Address}

omit [DecidableEq Address] in
theorem opensStream_iff :
    opensStream id (⟨source, action, target⟩ : Transition (System Address) (Action Address)) =
        true ↔ id ∉ source.state.streams ∧ id ∈ target.state.streams :=
  decide_eq_true_iff

omit [DecidableEq Address] in
theorem not_opensStream (stored : source.state.streams.lookup id = some stream) :
    opensStream id (⟨source, action, target⟩ : Transition (System Address) (Action Address)) =
      false := by
  rw [← Bool.not_eq_true, opensStream_iff]
  rintro ⟨missing, _⟩
  exact missing (Finmap.mem_of_lookup_eq_some stored)

/-- A stream that is not stored is not written. -/
theorem Step.not_writesStream (step : Step contract source action target)
    (missing : source.state.streams.lookup id = none) :
    writesStream contract id ⟨source, action, target⟩ = false := by
  rw [← Bool.not_eq_true, writesStream, Option.any_eq_true]
  rintro ⟨call, returned, addressed⟩
  rcases exists_effect_of_returnedCall? step returned with
    ⟨invocation, reply, _, _, _, _, effect⟩
  rcases effect.exists_stored (of_decide_eq_true addressed) with ⟨stream, stored⟩
  have storedBefore : source.state.streams.lookup id = some stream := stored
  rw [missing] at storedBefore
  contradiction

/-- Only the writes of a stored stream change how long its entry lives. -/
theorem Step.liveUntil_eq (step : Step contract source action target)
    (reachable : Reachable contract source)
    (stored : source.state.streams.lookup id = some stream) :
    target.state.streamLiveUntil id =
      if writesStream contract id ⟨source, action, target⟩ = true then
        entryLease.renew (source.state.streamLiveUntil id) source.ledger.sequence.val
      else
        source.state.streamLiveUntil id := by
  cases stepEffect_of_step step with
  | advance later laterSequence => rfl
  | external noLoss => rfl
  | failed outcome => simp [writesStream, returnedCall?, outcome]
  | returned outcome effect =>
      simp only [writesStream, returnedCall?_of_outcome outcome, Option.any_some,
        decide_eq_true_eq]
      split
      · rename_i addressed
        exact effect.liveUntil_of_target addressed
      · rename_i elsewhere
        exact effect.liveUntil_of_ne (reachable.lt_counter stored) elsewhere

/-- What the writes of a stream say about its entry. -/
structure EntryLogged (contract : Address) (id : U64) (trace : Trace Address)
    (final : System Address) : Prop where
  missing : final.state.streams.lookup id = none →
    writeTimes contract id trace = [] ∧ StreamAliveWhenWritten contract id trace
  stored : ∀ stream, final.state.streams.lookup id = some stream →
    ∃ created writes, writeTimes contract id trace = created :: writes ∧
      final.state.streamLiveUntil id =
        entryLease.lastRenewal created writes + entryLease.extension ∧
      (StreamAliveWhenWritten contract id trace ↔ entryLease.InTime created writes)

theorem streamAliveWhenWritten_snoc
    {transition : Transition (System Address) (Action Address)} :
    StreamAliveWhenWritten contract id (trace ++ [transition]) ↔
      StreamAliveWhenWritten contract id trace ∧
        (writesStream contract id transition = true →
          transition.source.ledger.sequence.val ≤
            transition.source.state.streamLiveUntil id) := by
  rw [StreamAliveWhenWritten, List.forall_mem_append, List.forall_mem_singleton]
  exact Iff.rfl

/-- The step that creates a stream starts its log. -/
theorem EntryLogged.opened (step : Step contract source action target)
    (logged : EntryLogged contract id trace source)
    (missing : source.state.streams.lookup id = none)
    (extended : opensStream id
      (⟨source, action, target⟩ : Transition (System Address) (Action Address)) = true →
        target.state.streamLiveUntil id = source.ledger.sequence.val + bumpExtend.val) :
    EntryLogged contract id (trace ++ [⟨source, action, target⟩]) target := by
  rcases logged.missing missing with ⟨noWrites, alive⟩
  have notWritten := step.not_writesStream missing
  have stillAlive : StreamAliveWhenWritten contract id (trace ++ [⟨source, action, target⟩]) := by
    rw [streamAliveWhenWritten_snoc, notWritten]
    exact ⟨alive, by simp⟩
  constructor
  · intro stillMissing
    refine ⟨?_, stillAlive⟩
    have skipped : writeTime? contract id ⟨source, action, target⟩ = none := by
      simp [writeTime?, notWritten, opensStream, Finmap.lookup_eq_none.mp stillMissing]
    rw [writeTimes, filterMap_snoc_of_none skipped]
    exact noWrites
  · intro stream stored
    have opens : opensStream id
        (⟨source, action, target⟩ : Transition (System Address) (Action Address)) = true :=
      opensStream_iff.mpr
        ⟨Finmap.lookup_eq_none.mp missing, Finmap.mem_of_lookup_eq_some stored⟩
    have written : writeTime? contract id ⟨source, action, target⟩ =
        some source.ledger.sequence.val := by
      simp [writeTime?, opens]
    refine ⟨source.ledger.sequence.val, [], ?_, extended opens, ?_⟩
    · rw [writeTimes, filterMap_snoc_of_some written]
      exact congrArg (· ++ _) noWrites
    · exact iff_of_true stillAlive eachFollows_nil

/-- A step continues the log of a stored stream. -/
theorem EntryLogged.continued (step : Step contract source action target)
    (reachable : Reachable contract source) (logged : EntryLogged contract id trace source)
    (stored : source.state.streams.lookup id = some stream) :
    EntryLogged contract id (trace ++ [⟨source, action, target⟩]) target := by
  rcases logged.stored stream stored with ⟨created, writes, timesEq, liveUntil, aliveIff⟩
  rcases step.exists_continued reachable stored with ⟨changed, changedStored, _⟩
  have liveUntilEq := step.liveUntil_eq reachable stored
  have notOpened : opensStream id
      (⟨source, action, target⟩ : Transition (System Address) (Action Address)) = false :=
    not_opensStream stored
  constructor
  · intro missing
    rw [changedStored] at missing
    contradiction
  · intro _ _
    by_cases written : writesStream contract id ⟨source, action, target⟩ = true
    · have time : writeTime? contract id ⟨source, action, target⟩ =
          some source.ledger.sequence.val := by
        simp [writeTime?, written]
      refine ⟨created, writes ++ [source.ledger.sequence.val], ?_, ?_, ?_⟩
      · rw [writeTimes, filterMap_snoc_of_some time]
        exact congrArg (· ++ _) timesEq
      · rw [liveUntilEq, if_pos written, liveUntil, Lease.renew_lastRenewal]
      · rw [streamAliveWhenWritten_snoc, Lease.inTime_snoc, aliveIff, ← liveUntil]
        exact and_congr_right fun _ => forall_prop_of_true written
    · have skipped : writeTime? contract id ⟨source, action, target⟩ = none := by
        simp [writeTime?, written, notOpened]
      refine ⟨created, writes, ?_, ?_, ?_⟩
      · rw [writeTimes, filterMap_snoc_of_none skipped]
        exact timesEq
      · rw [liveUntilEq, if_neg written, liveUntil]
      · rw [streamAliveWhenWritten_snoc, ← aliveIff]
        exact and_iff_left fun isWritten => absurd isWritten written

theorem History.entryLogged (history : History contract trace final)
    (extended : OpenedInFull id trace) : EntryLogged contract id trace final := by
  induction history using History.induct with
  | nil start uninitialized =>
      refine ⟨fun _ => ⟨rfl, by simp [StreamAliveWhenWritten]⟩, ?_⟩
      intro stream stored
      rw [uninitialized.streams, Finmap.lookup_empty] at stored
      contradiction
  | snoc trace source action target earlier step ih =>
      rw [OpenedInFull, List.forall_mem_append, List.forall_mem_singleton] at extended
      have logged := ih extended.1
      cases sourceStored : source.state.streams.lookup id with
      | none => exact logged.opened step sourceStored extended.2
      | some older => exact logged.continued step earlier.reachable sourceStored

end Steps

end Writes

/--
The entry of a stream is alive whenever it is written, exactly when each write
comes at most the extension after the last write that renewed the entry.  This is
the case if consecutive writes are at most one ledger more than the threshold
apart.
-/
theorem stream_alive_iff {contract : Address} {trace : Trace Address} {final : System Address}
    (history : History contract trace final) {id : U64} (extended : OpenedInFull id trace) :
    (StreamAliveWhenWritten contract id trace ↔ RenewedInTime (writeTimes contract id trace)) ∧
      (((writeTimes contract id trace).IsChain fun earlier later =>
          later ≤ earlier + bumpThreshold.val + 1) →
        StreamAliveWhenWritten contract id trace) := by
  have logged := history.entryLogged extended
  cases stored : final.state.streams.lookup id with
  | none =>
      rcases logged.missing stored with ⟨noWrites, alive⟩
      rw [noWrites]
      exact ⟨iff_of_true alive trivial, fun _ => alive⟩
  | some stream =>
      rcases logged.stored stream stored with ⟨created, writes, timesEq, _, aliveIff⟩
      rw [timesEq]
      refine ⟨aliveIff, ?_⟩
      intro gaps
      exact aliveIff.mpr (Lease.inTime_of_gaps gaps)

namespace Sample

def inLedger (timestamp : U64) (sequence : ℤ) : Action Party :=
  .advance
    { timestamp := timestamp
      sequence := toU32 sequence
      minPersistentEntryTtl := 1 }

/-- A stream is topped up twice; the first top-up comes too early to renew its entry. -/
def toppingUp (first second : ℤ) : List (Action Party) :=
  [callBy .admin (.initializeContract .admin .token),
    callBy .alice (.createStream .alice .bob (units 1000) 0 (time 200)),
    inLedger (time 100) first,
    callBy .alice (.topUp 0 .alice (units 500)),
    inLedger (time 100) second,
    callBy .alice (.topUp 0 .alice (units 500))]

end Sample

/-- The theorem applies to a stream that is topped up often enough. -/
theorem stream_alive_toppingUp :
    (StreamAliveWhenWritten .contract 0 (Sample.trace (Sample.toppingUp 400000 518400)) ↔
        RenewedInTime (writeTimes .contract 0 (Sample.trace (Sample.toppingUp 400000 518400)))) ∧
      (((writeTimes .contract 0 (Sample.trace (Sample.toppingUp 400000 518400))).IsChain
          fun earlier later => later ≤ earlier + bumpThreshold.val + 1) →
        StreamAliveWhenWritten .contract 0 (Sample.trace (Sample.toppingUp 400000 518400))) :=
  stream_alive_iff (Sample.history (by decide)) (by unfold OpenedInFull; decide)

/--
Writes that follow each other well within the extension need not keep the entry
alive: the first top-up leaves it to expire, and the second comes too late.
-/
theorem stream_expires_between_writes :
    ∃ trace final,
      History Sample.Party.contract trace final ∧ OpenedInFull 0 trace ∧
        ((writeTimes .contract 0 trace).IsChain fun earlier later =>
          later ≤ earlier + bumpExtend.val) ∧
          ¬StreamAliveWhenWritten .contract 0 trace := by
  refine ⟨Sample.trace (Sample.toppingUp 400000 518401),
    Sample.final (Sample.toppingUp 400000 518401), Sample.history (by decide), ?_, ?_, ?_⟩
  · unfold OpenedInFull
    decide
  · decide
  · unfold StreamAliveWhenWritten
    decide

def Call.isQuery : Call Address → Bool
  | .query _ => true
  | _ => false

def Call.initializes : Call Address → Bool
  | .initializeContract .. => true
  | _ => false

/-- The calls that change the instance entry without extending its life. -/
def Call.paysOut : Call Address → Bool
  | .withdraw .. | .cancel .. => true
  | _ => false

/-- The ledger in which a call that changes the state returns. -/
def changeTime? (contract : Address)
    (transition : Transition (System Address) (Action Address)) : Option ℤ :=
  (returnedCall? contract transition).bind fun call =>
    if call.isQuery then none else some transition.source.ledger.sequence.val

def changeTimes (contract : Address) (trace : Trace Address) : List ℤ :=
  trace.filterMap (changeTime? contract)

/-- Whenever a call changes the initialized contract, the instance entry has not expired. -/
def InstanceAlive (contract : Address) (trace : Trace Address) : Prop :=
  ∀ transition ∈ trace, ∀ call, returnedCall? contract transition = some call →
    call.isQuery = false → call.initializes = false →
      transition.source.ledger.sequence.val ≤ transition.source.state.instanceLiveUntil

/-- A payout finds so little time left that any other change would renew the instance entry. -/
def renewalMissed (contract : Address)
    (transition : Transition (System Address) (Action Address)) : Bool :=
  (returnedCall? contract transition).any fun call =>
    call.paysOut &&
      decide (transition.source.state.instanceLiveUntil -
        transition.source.ledger.sequence.val ≤ bumpThreshold.val)

section Instance

variable {contract : Address} {env : Env Address} {before after : State Address}
  {call : Call Address} {reply : Reply Address} {source target final : System Address}
  {action : Action Address} {trace : Trace Address}

/-- Payouts leave the life of the instance entry alone, and every other change renews it. -/
theorem Effect.instanceLiveUntil_eq (effect : Effect env before call reply after)
    (changes : call.isQuery = false) :
    after.instanceLiveUntil =
      if call.paysOut then before.instanceLiveUntil
      else entryLease.renew before.instanceLiveUntil env.ledger.sequence.val := by
  cases effect with
  | query returned => contradiction
  | _ => simp [Call.paysOut, extendTtl_eq_renew]

/-- Before the contract is initialized, nothing else can change it. -/
theorem Effect.initializes_of_uninitialized (reachable : Reachable contract source)
    (effect : Effect env source.state call reply after)
    (uninitialized : source.state.admin = none) (changes : call.isQuery = false) :
    call.initializes = true := by
  have notAdmin {admin : Address} (isAdmin : source.state.admin = some admin) : False := by
    rw [uninitialized] at isAdmin
    contradiction
  have notStored {id : U64} {stream : Stream Address}
      (stored : source.state.streams.lookup id = some stream) : False := by
    rw [reachable.lookup_of_uninitialized uninitialized] at stored
    contradiction
  cases effect with
  | initializeContract fresh => rfl
  | scheduleAdminTransfer isAdmin authorized differs executeAfterEq =>
      exact (notAdmin isAdmin).elim
  | executeAdminTransfer isAdmin pending deadline matured => exact (notAdmin isAdmin).elim
  | cancelAdminTransfer isAdmin authorized pending => exact (notAdmin isAdmin).elim
  | setAdmin isAdmin authorized => exact (notAdmin isAdmin).elim
  | setSupplyCap isAdmin authorized capPos => exact (notAdmin isAdmin).elim
  | createStream checks =>
      rcases checks.initialized with ⟨admin, isAdmin⟩
      exact (notAdmin isAdmin).elim
  | createStreamBatch checks =>
      rcases checks.initialized with ⟨admin, isAdmin⟩
      exact (notAdmin isAdmin).elim
  | topUp checks => exact (notStored checks.stored).elim
  | extendStream checks => exact (notStored checks.stored).elim
  | withdraw checks => exact (notStored checks.stored).elim
  | cancel checks => exact (notStored checks.stored).elim
  | query returned => contradiction

/-- What the changes of a run say about the instance entry. -/
structure InstanceLogged (contract : Address) (trace : Trace Address) (final : System Address) :
    Prop where
  alive : InstanceAlive contract trace
  fresh : changeTimes contract trace = [] → final.state.admin = none
  left : ∀ last ∈ (changeTimes contract trace).getLast?,
    last + bumpThreshold.val < final.state.instanceLiveUntil

/-- A step that changes nothing adds nothing to the log. -/
theorem InstanceLogged.unchanged (logged : InstanceLogged contract trace source)
    (quiet : ∀ call, returnedCall? contract ⟨source, action, target⟩ = some call →
      call.isQuery = true)
    (sameAdmin : target.state.admin = source.state.admin)
    (sameLife : target.state.instanceLiveUntil = source.state.instanceLiveUntil) :
    InstanceLogged contract (trace ++ [⟨source, action, target⟩]) target := by
  have skipped : changeTime? contract ⟨source, action, target⟩ = none := by
    rw [changeTime?, Option.bind_eq_none_iff]
    intro call returned
    rw [if_pos (quiet call returned)]
  have sameTimes : changeTimes contract (trace ++ [⟨source, action, target⟩]) =
      changeTimes contract trace := filterMap_snoc_of_none skipped
  refine ⟨?_, ?_, ?_⟩
  · rw [InstanceAlive, List.forall_mem_append, List.forall_mem_singleton]
    refine ⟨logged.alive, ?_⟩
    intro call returned changes _
    rw [quiet call returned] at changes
    contradiction
  · rw [sameTimes, sameAdmin]
    exact logged.fresh
  · rw [sameTimes, sameLife]
    exact logged.left

/-- A change renews the instance entry, or finds that it need not be renewed. -/
theorem Effect.lt_instanceLiveUntil (effect : Effect env before call reply after)
    (changes : call.isQuery = false)
    (notMissed : call.paysOut = true →
      env.ledger.sequence.val + bumpThreshold.val < before.instanceLiveUntil) :
    env.ledger.sequence.val + bumpThreshold.val < after.instanceLiveUntil := by
  rw [effect.instanceLiveUntil_eq changes]
  split
  · rename_i paysOut
    exact notMissed paysOut
  · exact Lease.lt_renew

/-- A change that comes soon after the last one finds the instance entry alive. -/
theorem InstanceLogged.changed {invocation : Invocation Address}
    (logged : InstanceLogged contract trace source) (reachable : Reachable contract source)
    (outcome : invocation.outcome contract source = (.ok reply, after))
    (effect :
      Effect (invocation.env contract source.ledger) source.state invocation.call reply after)
    (changes : invocation.call.isQuery = false)
    (frequent : (changeTimes contract (trace ++
        [⟨source, .invoke invocation, { source with state := after }⟩])).IsChain
      fun earlier later => later ≤ earlier + bumpThreshold.val)
    (notMissed : renewalMissed contract
      ⟨source, .invoke invocation, { source with state := after }⟩ = false) :
    InstanceLogged contract
      (trace ++ [⟨source, .invoke invocation, { source with state := after }⟩])
      { source with state := after } := by
  have returned : returnedCall? contract
      ⟨source, .invoke invocation, { source with state := after }⟩ = some invocation.call :=
    returnedCall?_of_outcome outcome
  have time : changeTime? contract
      ⟨source, .invoke invocation, { source with state := after }⟩ =
        some source.ledger.sequence.val := by
    simp [changeTime?, returned, changes]
  have timesEq : changeTimes contract
      (trace ++ [⟨source, .invoke invocation, { source with state := after }⟩]) =
        changeTimes contract trace ++ [source.ledger.sequence.val] := filterMap_snoc_of_some time
  rw [timesEq, List.isChain_append] at frequent
  refine ⟨?_, ?_, ?_⟩
  · rw [InstanceAlive, List.forall_mem_append, List.forall_mem_singleton]
    refine ⟨logged.alive, ?_⟩
    intro call isCall _ notInitialize
    rw [returned, Option.some.injEq] at isCall
    subst call
    cases lastEq : (changeTimes contract trace).getLast? with
    | none =>
        have uninitialized := logged.fresh (List.getLast?_eq_none_iff.mp lastEq)
        rw [effect.initializes_of_uninitialized reachable uninitialized changes] at notInitialize
        contradiction
    | some last =>
        have close : source.ledger.sequence.val ≤ last + bumpThreshold.val :=
          frequent.2.2 last lastEq source.ledger.sequence.val rfl
        exact close.trans (logged.left last lastEq).le
  · intro noChange
    rw [timesEq] at noChange
    simp at noChange
  · intro last isLast
    rw [timesEq, List.getLast?_concat, Option.mem_some_iff] at isLast
    subst last
    apply effect.lt_instanceLiveUntil changes
    intro paysOut
    simp only [renewalMissed, returned, Option.any_some, paysOut, Bool.true_and,
      decide_eq_false_iff_not, not_le] at notMissed
    show source.ledger.sequence.val + bumpThreshold.val < source.state.instanceLiveUntil
    omega

theorem History.instanceLogged (history : History contract trace final)
    (frequent : (changeTimes contract trace).IsChain
      fun earlier later => later ≤ earlier + bumpThreshold.val)
    (notMissed : ∀ transition ∈ trace, renewalMissed contract transition = false) :
    InstanceLogged contract trace final := by
  induction history using History.induct with
  | nil start uninitialized =>
      refine ⟨by simp [InstanceAlive], fun _ => uninitialized.admin, ?_⟩
      intro last isLast
      simp [changeTimes] at isLast
  | snoc trace source action target earlier step ih =>
      rw [List.forall_mem_append, List.forall_mem_singleton] at notMissed
      have frequentBefore : (changeTimes contract trace).IsChain
          fun earlier later => later ≤ earlier + bumpThreshold.val := by
        rw [changeTimes, List.filterMap_append] at frequent
        exact (List.isChain_append.mp frequent).1
      have logged := ih frequentBefore notMissed.1
      cases stepEffect_of_step step with
      | advance later laterSequence =>
          exact logged.unchanged (by simp [returnedCall?]) rfl rfl
      | external noLoss => exact logged.unchanged (by simp [returnedCall?]) rfl rfl
      | failed outcome => exact logged.unchanged (by simp [returnedCall?, outcome]) rfl rfl
      | @returned invocation reply after outcome effect =>
          by_cases changes : invocation.call.isQuery = false
          · exact logged.changed earlier.reachable outcome effect changes frequent notMissed.2
          · rw [Bool.not_eq_false] at changes
            have same : after = source.state := by
              rcases invocation with ⟨authorized, transferAccepted, call⟩
              cases effect with
              | query returned => rfl
              | _ => contradiction
            subst after
            refine logged.unchanged ?_ rfl rfl
            intro call isCall
            rw [returnedCall?_of_outcome outcome, Option.some.injEq] at isCall
            exact isCall ▸ changes

end Instance

/--
If consecutive changes of a run are at most the threshold apart, and no payout of
the run finds the instance entry due for a renewal, which payouts do not make,
then the instance entry is alive at every change of the initialized contract.
-/
theorem instance_alive {contract : Address} {trace : Trace Address} {final : System Address}
    (history : History contract trace final)
    (frequent : (changeTimes contract trace).IsChain
      fun earlier later => later ≤ earlier + bumpThreshold.val)
    (notMissed : ∀ transition ∈ trace, renewalMissed contract transition = false) :
    InstanceAlive contract trace :=
  (history.instanceLogged frequent notMissed).alive

namespace Sample

def withdrawFirst : Action Party :=
  callBy .bob (.withdraw 0 .bob)

/-- A stream, and withdrawals from it every hundred thousand ledgers. -/
def withdrawingOften : List (Action Party) :=
  [callBy .admin (.initializeContract .admin .token),
    inLedger (time 100) 0,
    callBy .alice (.createStream .alice .bob (units 1000) 0 (time 1100)),
    inLedger (time 200) 100000, withdrawFirst,
    inLedger (time 300) 200000, withdrawFirst,
    inLedger (time 400) 300000, withdrawFirst,
    inLedger (time 500) 400000, withdrawFirst,
    inLedger (time 600) 500000]

/-- Before the last withdrawal there is a top-up. -/
def renewing : List (Action Party) :=
  withdrawingOften ++
    [callBy .alice (.topUp 0 .alice (units 500)), inLedger (time 700) 600000, withdrawFirst]

/-- Before the last withdrawal there is another one. -/
def onlyWithdrawing : List (Action Party) :=
  withdrawingOften ++ [withdrawFirst, inLedger (time 700) 600000]

end Sample

/-- The theorem applies to a run in which a top-up renews the entry in time. -/
theorem instance_alive_renewing : InstanceAlive .contract (Sample.trace Sample.renewing) :=
  instance_alive (Sample.history (by decide)) (by decide) (by decide)

/-- Nobody renews the instance entry in a run that consists of withdrawals. -/
theorem instance_expires_between_withdrawals :
    ∃ trace final,
      History Sample.Party.contract trace final ∧
        ((changeTimes .contract trace).IsChain fun earlier later =>
          later ≤ earlier + bumpThreshold.val) ∧
          ¬InstanceAlive .contract trace := by
  refine ⟨Sample.trace (Sample.onlyWithdrawing ++ [Sample.withdrawFirst]),
    Sample.final (Sample.onlyWithdrawing ++ [Sample.withdrawFirst]),
    Sample.history (by decide), by decide, ?_⟩
  intro alive
  have found := alive _ (Sample.transition_mem Sample.onlyWithdrawing Sample.withdrawFirst) _ rfl
    rfl rfl
  exact absurd found (by decide)

end StreamPay
