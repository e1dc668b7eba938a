import StreamPay.Records

/-!
# No call traps on its own account

The release profile turns every overflow into a panic, so each `unwrap` and each
unchecked operation of the source is a place where a call could die.  None of
them is reached: the weakest precondition of every entry point, with only the
contract errors and the refusals of others as permitted faults, follows from what
is known of reachable states.

Two views narrow a quotient to 32 bits.  They return the exact quotient, which is
at most ten thousand.
-/

namespace StreamPay

open Foundation Foundation.Computation

variable {Address : Type}

/-- The faults that are not the contract's own: its errors, and the refusals of others. -/
def Permitted : Fault → Prop
  | .error _ => True
  | .trap .authorizationFailed | .trap .transferFailed => True
  | .trap .wasmMissing | .trap .unwrapNone | .trap .arithmetic => False

@[simp]
theorem permitted_error (error : Error) : Permitted (.error error) :=
  trivial

@[simp]
theorem permitted_authorizationFailed : Permitted (.trap .authorizationFailed) :=
  trivial

@[simp]
theorem permitted_transferFailed : Permitted (.trap .transferFailed) :=
  trivial

/-- The result is a value or a permitted fault. -/
def Permits {Result : Type} (value : Except Fault Result) : Prop :=
  ∀ fault, value = .error fault → Permitted fault

section Results

variable {Result Next : Type} {value : Except Fault Result}

theorem Permits.ok {result : Result} : Permits (.ok result) := by
  intro fault failed
  contradiction

theorem Permits.bind {next : Result → Except Fault Next} (first : Permits value)
    (rest : ∀ result, value = .ok result → Permits (next result)) : Permits (value >>= next) := by
  intro fault failed
  rcases except_bind_eq_error_iff.mp failed with failed | ⟨middle, returned, failed⟩
  · exact first fault failed
  · exact rest middle returned fault failed

theorem permits_okOr {result : Option Result} {error : Error} : Permits (okOr result error) := by
  intro fault failed
  rw [(okOr_eq_error_iff.mp failed).2]
  exact permitted_error error

theorem permits_orTrap {result : Option Result} {trap : Trap}
    (defined : ∃ found, result = some found) : Permits (orTrap result trap) := by
  rcases defined with ⟨found, rfl⟩
  exact .ok

end Results

theorem basisPoints_lower : -2 ^ 127 ≤ (10000 : ℤ) := by
  omega

theorem basisPoints_upper : (10000 : ℤ) ≤ 2 ^ 127 - 1 := by
  omega

/-- The whole in basis points. -/
def basisPoints : I128 := ⟨10000, basisPoints_lower, basisPoints_upper⟩

/-- A share in basis points, computed by truncating division and narrowed to 32 bits. -/
theorem share_exact {part whole : ℤ} (partNonneg : 0 ≤ part) (wholePos : 0 < whole)
    (partLe : part ≤ whole) :
    (part * 10000).tdiv whole = released 10000 part whole ∧
      0 ≤ released 10000 part whole ∧ released 10000 part whole ≤ 10000 ∧
        (toU32 (released 10000 part whole)).val = released 10000 part whole := by
  have nonneg : 0 ≤ released 10000 part whole := released_nonneg (by omega) partNonneg wholePos
  have le : released 10000 part whole ≤ 10000 := released_le_total (by omega) wholePos partLe
  refine ⟨?_, nonneg, le, BoundedInt.wrap_val_of_mem nonneg (by omega)⟩
  rw [mul_comm]
  exact tdiv_eq_released (by omega) partNonneg

section Vesting

variable {stream : Stream Address} {now : U64}

theorem permits_vested (window : stream.start.val < stream.end.val) :
    Permits (Vesting.vested stream now) := by
  unfold Vesting.vested
  split
  · exact .ok
  · rename_i notBefore
    split
    · exact .ok
    · have afterStart : stream.start.val ≤ now.val := (not_le.mp notBefore).le
      refine (permits_orTrap (exists_elapsed afterStart)).bind fun elapsed _ => ?_
      refine (permits_orTrap (exists_duration window)).bind fun duration _ => ?_
      exact permits_okOr.bind fun numerator _ => permits_okOr

theorem permits_unvested (window : stream.start.val < stream.end.val) :
    Permits (Vesting.unvested stream now) :=
  (permits_vested window).bind fun _ _ => permits_okOr

theorem permits_withdrawable (window : stream.start.val < stream.end.val) :
    Permits (Vesting.withdrawable stream now) :=
  (permits_vested window).bind fun _ _ => permits_okOr.bind fun _ _ => .ok

theorem permits_elapsed (window : stream.start.val < stream.end.val) :
    Permits (Vesting.elapsed stream now) := by
  apply permits_orTrap
  have clamped : stream.start.val ≤ (clampToWindow stream.start stream.end now).val ∧
      (clampToWindow stream.start stream.end now).val ≤ stream.end.val := by
    unfold clampToWindow
    split
    · exact ⟨le_rfl, window.le⟩
    · rename_i notBefore
      split
      · exact ⟨window.le, le_rfl⟩
      · rename_i notAfter
        exact ⟨(not_le.mp notBefore).le, (not_le.mp notAfter).le⟩
  have endUpper := stream.end.le_upper
  have startLower := stream.start.lower_le
  exact BoundedInt.exists_checkedSub (by omega) (by omega)

/-- The elapsed part of the window in basis points, as an exact integer. -/
def Stream.progress (stream : Stream Address) (now : U64) : ℤ :=
  if now ≤ stream.start then
    0
  else if stream.end ≤ now then
    10000
  else
    released 10000 (now.val - stream.start.val) (stream.end.val - stream.start.val)

/-- The computation of the progress never fails, and narrowing its result loses nothing. -/
theorem exists_progressBps (window : stream.start.val < stream.end.val) (now : U64) :
    ∃ bps, Vesting.progressBps stream now = .ok bps ∧ bps.val = stream.progress now ∧
      bps.val ≤ 10000 := by
  by_cases before : now ≤ stream.start
  · exact ⟨0, by simp [Vesting.progressBps, before], by simp [Stream.progress, before], by simp⟩
  · by_cases after : stream.end ≤ now
    · refine ⟨⟨10000, by omega, by omega⟩, ?_, ?_, le_rfl⟩
      · simp [Vesting.progressBps, before, after]
      · simp [Stream.progress, before, after]
    · have afterStart : stream.start.val < now.val := not_le.mp before
      have beforeEnd : now.val < stream.end.val := not_le.mp after
      rcases exists_elapsed afterStart.le with ⟨elapsed, elapsedEq⟩
      rcases exists_duration window with ⟨duration, durationEq⟩
      have elapsedVal := BoundedInt.checkedSub_eq_some_iff.mp elapsedEq
      have durationVal := BoundedInt.checkedSub_eq_some_iff.mp durationEq
      have elapsedUpper := elapsed.le_upper
      rcases share_exact (show 0 ≤ elapsed.val by omega) (show 0 < duration.val by omega)
        (show elapsed.val ≤ duration.val by omega) with ⟨quotient, nonneg, le, narrowed⟩
      refine ⟨toU32 (released 10000 elapsed.val duration.val), ?_, ?_, ?_⟩
      · simp only [Vesting.progressBps, if_neg before, ge_iff_le, if_neg after,
          except_bind_eq_ok_iff, orTrap_eq_ok_iff, elapsedEq, durationEq, Option.some.injEq,
          BoundedInt.checkedMul_eq_some_iff, BoundedInt.checkedDiv_eq_some_iff, U64.toU128_val,
          exists_eq_left']
        exact ⟨⟨elapsed.val * 10000, by omega, by omega⟩, rfl,
          ⟨released 10000 elapsed.val duration.val, by omega, by omega⟩,
          ⟨by omega, quotient.symm⟩, rfl⟩
      · rw [narrowed, Stream.progress, if_neg before, if_neg after, elapsedVal, durationVal]
      · rw [narrowed]
        exact le

/-- The withdrawn part of the total in basis points, as an exact integer. -/
def Stream.withdrawnShare (stream : Stream Address) : ℤ :=
  released 10000 stream.withdrawn.val stream.total.val

end Vesting

/-- What the entry points rely on without checking it. -/
structure State.Sound (now : U64) (state : State Address) : Prop where
  tokenOfAdmin : state.admin ≠ none → state.token ≠ none
  tokenOfStream : ∀ id stream, state.streams.lookup id = some stream → state.token ≠ none
  wellFormed : ∀ id stream, state.streams.lookup id = some stream → stream.WellFormed now

theorem Reachable.sound [DecidableEq Address] {contract : Address} {system : System Address}
    (reachable : Reachable contract system) :
    system.state.Sound system.ledger.timestamp := by
  refine ⟨?_, ?_, fun id stream stored => reachable.wellFormed stored⟩
  · intro initialized noToken
    rcases Option.ne_none_iff_exists'.mp initialized with ⟨admin, isAdmin⟩
    rcases reachable.exists_token_of_initialized isAdmin with ⟨token, tokenSet⟩
    rw [noToken] at tokenSet
    contradiction
  · intro id stream stored noToken
    rcases reachable.exists_token stored with ⟨token, tokenSet⟩
    rw [noToken] at tokenSet
    contradiction

/-- The computation returns or ends with a permitted fault. -/
def Safe {Result : Type} (computation : Contract Address Result) (before : State Address) : Prop :=
  Ends computation (fun _ _ => True) Permitted before

section EntryPoints

variable {env : Env Address} {before : State Address} {Fails : Fault → Prop}

/-- A result that permits its faults can fail only in permitted ways. -/
theorem ends_liftM_of_permits {Result : Type} {value : Except Fault Result}
    {Returns : Result → State Address → Prop} (permits : Permits value) :
    Ends (liftM value : Contract Address Result) Returns Permitted before ↔
      ∀ result, value = .ok result → Returns result before := by
  rw [ends_liftM_iff]
  exact and_iff_left permits

@[simp]
theorem ends_requireInitialized_iff {Returns : Unit → State Address → Prop} :
    Ends requireInitialized Returns Fails before ↔
      (before.admin = none → Fails (.error .notInitialized)) ∧
        (before.admin ≠ none → Returns () before) := by
  rw [requireInitialized, hasAdmin, ends_bind_iff, ends_readState_iff, ends_failIf_iff]
  simp only [Option.isSome_eq_false_iff, Option.isNone_iff_eq_none, ne_eq]

@[simp]
theorem ends_getStream_iff {id : U64} {Returns : Stream Address → State Address → Prop} :
    Ends (getStream id) Returns Fails before ↔
      (∀ stream, before.streams.lookup id = some stream → Returns stream before) ∧
        (before.streams.lookup id = none → Fails (.error .streamNotFound)) := by
  rw [getStream, readStream, ends_bind_iff, ends_readState_iff, ends_okOr_iff]

theorem safe_initializeContract {admin token : Address} :
    Safe (initializeContract env admin token) before := by
  simp [Safe, initializeContract, hasAdmin, writeAdmin, writeToken, writeCounter,
    writeTotalSupply, writeSupplyCap, extendInstance]

theorem safe_scheduleAdminTransfer [DecidableEq Address] {admin newAdmin : Address} :
    Safe (scheduleAdminTransfer env admin newAdmin) before := by
  simp +contextual [Safe, scheduleAdminTransfer, writePendingAdminAction, extendInstance,
    adminTransferScheduled, publish]

theorem safe_executeAdminTransfer : Safe (executeAdminTransfer env) before := by
  simp +contextual [Safe, executeAdminTransfer, readPendingAdmin, readAdminActionExecuteAfter,
    writeAdmin, clearPendingAdminAction, extendInstance, adminTransferExecuted, publish]

theorem safe_cancelAdminTransfer [DecidableEq Address] {admin : Address} :
    Safe (cancelAdminTransfer env admin) before := by
  simp +contextual [Safe, cancelAdminTransfer, readPendingAdmin, clearPendingAdminAction,
    extendInstance, adminTransferCancelled, publish]

theorem safe_setAdmin {newAdmin : Address} : Safe (setAdmin env newAdmin) before := by
  simp +contextual [Safe, setAdmin, writeAdmin, extendInstance, adminChanged, publish]

theorem safe_setSupplyCap {newCap : I128} : Safe (setSupplyCap env newCap) before := by
  simp +contextual [Safe, setSupplyCap, readSupplyCap, writeSupplyCap, extendInstance,
    supplyCapUpdated, publish]

section Streams

variable [DecidableEq Address] {id : U64}

theorem safe_createStream {sender recipient : Address} {totalAmount : I128}
    {startTime endTime : U64} (sound : before.Sound env.ledger.timestamp) :
    Safe (createStream env sender recipient totalAmount startTime endTime) before := by
  simp +contextual [Safe, createStream, readTotalSupply, readSupplyCap, readCounter, writeStream,
    writeCounter, writeTotalSupply, extendInstance, streamCreated, publish, sound.tokenOfAdmin]

theorem safe_topUp {sender : Address} {amount : I128} (sound : before.Sound env.ledger.timestamp) :
    Safe (topUp env id sender amount) before := by
  cases found : before.streams.lookup id with
  | none => simp [Safe, topUp, found]
  | some stream =>
      have tokenSet := sound.tokenOfStream id stream found
      simp [Safe, topUp, found, tokenSet, readTotalSupply, readSupplyCap, writeStream,
        writeTotalSupply, extendInstance, streamToppedUp, publish]

theorem safe_extendStream {sender : Address} {newEnd : U64} :
    Safe (extendStream env id sender newEnd) before := by
  simp [Safe, extendStream, writeStream, extendInstance, streamExtended, publish]

theorem safe_withdraw {recipient : Address} (sound : before.Sound env.ledger.timestamp) :
    Safe (withdraw env id recipient) before := by
  cases found : before.streams.lookup id with
  | none => simp [Safe, withdraw, found]
  | some stream =>
      have tokenSet := sound.tokenOfStream id stream found
      have window := (sound.wellFormed id stream found).window
      simp [Safe, withdraw, found, tokenSet, readTotalSupply, writeStream, writeTotalSupply,
        streamWithdrawn, publish, ends_liftM_of_permits (permits_withdrawable window)]

theorem safe_cancel {caller : Address} (sound : before.Sound env.ledger.timestamp) :
    Safe (cancel env id caller) before := by
  cases found : before.streams.lookup id with
  | none => simp [Safe, cancel, found]
  | some stream =>
      have tokenSet := sound.tokenOfStream id stream found
      have window := (sound.wellFormed id stream found).window
      simp [Safe, cancel, found, tokenSet, readTotalSupply, writeStream, writeTotalSupply,
        streamCancelled, publish, ends_liftM_of_permits (permits_vested window),
        ends_liftM_of_permits (permits_unvested window)]

end Streams

section Batch

variable {requests : HostVec (StreamRequest Address)} {rest : List (StreamRequest Address)}
  {fuel : ℕ} {index : U32}

theorem validateRequests_ends {now : U64} {aggregate : I128}
    (remaining : requests.toList.drop index.val.toNat = rest) (enough : rest.length ≤ fuel) :
    Ends (validateRequests requests now fuel index aggregate) (fun _ after => after = before)
      Permitted before := by
  induction fuel generalizing index aggregate rest with
  | zero => simp [validateRequests]
  | succ fuel ih =>
      cases rest with
      | nil => simp [validateRequests, not_lt_len_of_drop_eq_nil remaining]
      | cons request rest =>
          rcases exists_next_cursor remaining with ⟨next, nextEq, _, nextRemaining⟩
          have enoughRest : rest.length ≤ fuel := by simpa using enough
          have restEnds (total : I128) :
              Ends (validateRequests requests now fuel next total) (fun _ after => after = before)
                Permitted before :=
            ih nextRemaining enoughRest
          simp [validateRequests, lt_len_of_drop_eq_cons remaining,
            get_of_drop_eq_cons remaining, nextEq, restEnds]

theorem createRequests_ends {sender : Address} {firstId id : U64} {ids : List U64}
    (remaining : requests.toList.drop index.val.toNat = rest) (enough : rest.length ≤ fuel)
    (idEq : id.val = firstId.val + index.val)
    (fits : id.val + rest.length ≤ 2 ^ 64 - 1) :
    Safe (createRequests env sender requests firstId fuel index ids) before := by
  induction fuel generalizing index id ids rest before with
  | zero => simp [Safe, createRequests]
  | succ fuel ih =>
      cases rest with
      | nil => simp [Safe, createRequests, not_lt_len_of_drop_eq_nil remaining]
      | cons request rest =>
          rcases exists_next_round remaining idEq fits with
            ⟨next, nextEq, idOf, nextRemaining, nextIdEq, nextFits⟩
          have enoughRest : rest.length ≤ fuel := by simpa using enough
          have restEnds (middle : State Address) (made : List U64) :
              Ends (createRequests env sender requests firstId fuel next made)
                (fun _ _ => True) Permitted middle :=
            ih nextRemaining enoughRest nextIdEq nextFits
          simp [Safe, createRequests, lt_len_of_drop_eq_cons remaining, writeStream,
            streamCreated, publish, get_of_drop_eq_cons remaining, nextEq, idOf, restEnds]

/-- The first loop, started at the first request. -/
theorem validateRequests_start_ends {now : U64} :
    Ends (validateRequests requests now requests.toList.length 0 0)
      (fun _ after => after = before) Permitted before :=
  validateRequests_ends (show requests.toList.drop (0 : U32).val.toNat = _ from rfl) le_rfl

/-- The second loop, started at the first request. -/
theorem createRequests_start_ends {sender : Address} {firstId : U64}
    (fits : firstId.val + requests.toList.length ≤ 2 ^ 64 - 1) :
    Safe (createRequests env sender requests firstId requests.toList.length 0 []) before := by
  have idEq : firstId.val = firstId.val + (0 : U32).val := by
    rw [u32_zero_val, add_zero]
  exact createRequests_ends (show requests.toList.drop (0 : U32).val.toNat = _ from rfl) le_rfl
    idEq fits

theorem safe_createStreamBatch [DecidableEq Address] {sender : Address}
    (sound : before.Sound env.ledger.timestamp) :
    Safe (createStreamBatch env sender requests) before := by
  have validated {Returns : I128 → State Address → Prop}
      (returns : ∀ aggregate, Returns aggregate before) :
      Ends (validateRequests requests env.ledger.timestamp requests.toList.length 0 0) Returns
        Permitted before := by
    apply validateRequests_start_ends.mono
    rintro aggregate after rfl
    exact returns aggregate
  simp only [Safe, createStreamBatch, readCounter, writeCounter, extendInstance, ends_bind_iff,
    ends_requireInitialized_iff, ends_requireAuth_iff, ends_failIf_iff, permitted_error,
    permitted_authorizationFailed, permitted_transferFailed, implies_true, true_and, and_true,
    ends_readState_iff, ends_okOr_iff, ends_readToken_iff, ends_transfer_iff, ends_modify_iff,
    ends_pure_iff]
  intro initialized authorized nonempty
  apply validated
  intro aggregate nextCounter nextCounterEq
  refine ⟨?_, fun noToken => absurd noToken (sound.tokenOfAdmin initialized)⟩
  intro token tokenSet accepted
  have fits := BoundedInt.checkedAdd_eq_some_iff.mp nextCounterEq
  rw [U32.toU64_val, HostVec.len_val] at fits
  exact createRequests_start_ends (fits ▸ nextCounter.le_upper)

end Batch

/-- A view that narrows a quotient to 32 bits returns the quotient, which is at most 10000. -/
def View.Lossless (now : U64) (state : State Address) : View → Reply Address → Prop
  | .progressBps id, reply =>
      ∃ stream bps, state.streams.lookup id = some stream ∧ reply = .u32 bps ∧
        bps.val = stream.progress now ∧ bps.val ≤ 10000
  | .percentWithdrawn id, reply =>
      ∃ stream bps, state.streams.lookup id = some stream ∧ reply = .u32 bps ∧
        bps.val = stream.withdrawnShare ∧ bps.val ≤ 10000
  | .getSummary id, reply =>
      ∃ stream summary, state.streams.lookup id = some stream ∧ reply = .summary summary ∧
        summary.progressBps.val = stream.progress now ∧ summary.progressBps.val ≤ 10000
  | _, _ => True

section Views

variable {id : U64} {now : U64} {stream : Stream Address}

theorem ends_progressBps (sound : before.Sound env.ledger.timestamp) :
    Ends (progressBps env id)
      (fun bps _ => ∃ stream, before.streams.lookup id = some stream ∧
        bps.val = stream.progress env.ledger.timestamp ∧ bps.val ≤ 10000) Permitted before := by
  rw [progressBps, ends_bind_iff, ends_getStream_iff]
  refine ⟨?_, fun _ => permitted_error _⟩
  intro stream stored
  have window := (sound.wellFormed id stream stored).window
  rcases exists_progressBps window env.ledger.timestamp with ⟨bps, bpsEq, isProgress, small⟩
  rw [bpsEq, ends_liftM_of_permits .ok]
  rintro result ⟨⟩
  exact ⟨stream, stored, isProgress, small⟩

theorem ends_percentWithdrawn (sound : before.Sound env.ledger.timestamp) :
    Ends (percentWithdrawn id)
      (fun bps _ => ∃ stream, before.streams.lookup id = some stream ∧
        bps.val = stream.withdrawnShare ∧ bps.val ≤ 10000) Permitted before := by
  rw [percentWithdrawn, ends_bind_iff, ends_getStream_iff]
  refine ⟨?_, fun _ => permitted_error _⟩
  intro stream stored
  have wellFormed := sound.wellFormed id stream stored
  have totalPos : 0 < stream.total.val := wellFormed.totalPos
  rcases share_exact wellFormed.withdrawnNonneg totalPos wellFormed.withdrawnLe with
    ⟨quotient, nonneg, small, narrowed⟩
  have notEmpty : ¬stream.total ≤ 0 := not_le.mpr totalPos
  rw [if_neg notEmpty, ends_bind_iff, ends_okOr_iff]
  refine ⟨?_, fun _ => permitted_error _⟩
  intro scaled scaledEq
  have scaledVal : scaled.val = stream.withdrawn.val * 10000 :=
    BoundedInt.checkedMul_eq_some_iff.mp scaledEq
  rw [ends_bind_iff, ends_orTrap_iff]
  constructor
  · intro bps bpsEq
    have bpsVal := (BoundedInt.checkedDiv_eq_some_iff.mp bpsEq).2
    rw [scaledVal, quotient] at bpsVal
    rw [ends_pure_iff, bpsVal, narrowed]
    exact ⟨stream, stored, rfl, small⟩
  · intro undefined
    have defined : scaled.checkedDiv stream.total =
        some ⟨released 10000 stream.withdrawn.val stream.total.val, by omega, by omega⟩ := by
      refine BoundedInt.checkedDiv_eq_some_iff.mpr ⟨by omega, ?_⟩
      rw [scaledVal, quotient]
    rw [undefined] at defined
    contradiction

theorem ends_getSummary (sound : before.Sound env.ledger.timestamp) :
    Ends (getSummary env id)
      (fun summary _ => ∃ stream, before.streams.lookup id = some stream ∧
        summary.progressBps.val = stream.progress env.ledger.timestamp ∧
          summary.progressBps.val ≤ 10000) Permitted before := by
  rw [getSummary, ends_bind_iff, ends_getStream_iff]
  refine ⟨?_, fun _ => permitted_error _⟩
  intro stream stored
  have window := (sound.wellFormed id stream stored).window
  rcases exists_progressBps window env.ledger.timestamp with ⟨bps, bpsEq, isProgress, small⟩
  simp only [ends_bind_iff, ends_liftM_of_permits (permits_vested window),
    ends_liftM_of_permits (permits_withdrawable window)]
  intro vested vestedEq withdrawable withdrawableEq
  rw [bpsEq, ends_liftM_of_permits .ok]
  rintro result ⟨⟩
  exact ⟨stream, stored, isProgress, small⟩

/-- No view traps, and no view loses digits. -/
theorem View.ends (sound : before.Sound env.ledger.timestamp) (view : View) :
    Ends (view.run env) (fun reply _ => view.Lossless env.ledger.timestamp before reply)
      Permitted before := by
  have window {id : U64} {stream : Stream Address}
      (stored : before.streams.lookup id = some stream) : stream.start.val < stream.end.val :=
    (sound.wellFormed id stream stored).window
  have computed {Result : Type} (id : U64) (value : Stream Address → Except Fault Result)
      (permits : ∀ stream, before.streams.lookup id = some stream → Permits (value stream)) :
      Safe (StreamPay.getStream id >>= fun stream =>
        (liftM (value stream) : Contract Address Result)) before := by
    rw [Safe, ends_bind_iff, ends_getStream_iff]
    refine ⟨?_, fun _ => permitted_error _⟩
    intro stream stored
    rw [ends_liftM_of_permits (permits stream stored)]
    exact fun _ _ => trivial
  cases view with
  | getAdmin => simp +contextual [View.run, StreamPay.getAdmin, View.Lossless]
  | getPendingAdmin =>
      simp [View.run, StreamPay.getPendingAdmin, readPendingAdmin, View.Lossless]
  | getAdminActionExecuteAfter =>
      simp [View.run, StreamPay.getAdminActionExecuteAfter, readAdminActionExecuteAfter,
        View.Lossless]
  | getToken => simp +contextual [View.run, StreamPay.getToken, View.Lossless, sound.tokenOfAdmin]
  | streamCounter => simp [View.run, StreamPay.streamCounter, readCounter, View.Lossless]
  | getTotalSupply => simp [View.run, StreamPay.getTotalSupply, readTotalSupply, View.Lossless]
  | getSupplyCap => simp [View.run, StreamPay.getSupplyCap, readSupplyCap, View.Lossless]
  | getStream id => simp [View.run, View.Lossless]
  | getStatus id => simp [View.run, StreamPay.getStatus, View.Lossless]
  | isActive id => simp [View.run, StreamPay.isActive, View.Lossless]
  | duration id =>
      exact ends_map_iff.mpr (computed id _ fun stream stored =>
        permits_orTrap (exists_duration (window stored)))
  | elapsed id =>
      exact ends_map_iff.mpr (computed id _ fun stream stored => permits_elapsed (window stored))
  | streamedAmount id =>
      exact ends_map_iff.mpr (computed id _ fun stream stored => permits_vested (window stored))
  | progressBps id =>
      rw [View.run, ends_map_iff]
      apply (ends_progressBps sound).mono
      rintro bps _ ⟨stream, stored, isProgress, small⟩
      exact ⟨stream, bps, stored, rfl, isProgress, small⟩
  | percentWithdrawn id =>
      rw [View.run, ends_map_iff]
      apply (ends_percentWithdrawn sound).mono
      rintro bps _ ⟨stream, stored, isShare, small⟩
      exact ⟨stream, bps, stored, rfl, isShare, small⟩
  | remainingAmount id =>
      exact ends_map_iff.mpr (computed id _ fun stream stored => permits_unvested (window stored))
  | getSummary id =>
      rw [View.run, ends_map_iff]
      apply (ends_getSummary sound).mono
      rintro summary _ ⟨stream, stored, isProgress, small⟩
      exact ⟨stream, summary, stored, rfl, isProgress, small⟩
  | withdrawableAmount id =>
      exact ends_map_iff.mpr (computed id _ fun stream stored =>
        permits_withdrawable (window stored))

end Views

/-- No call traps, and no view loses digits. -/
theorem Call.ends [DecidableEq Address] (sound : before.Sound env.ledger.timestamp)
    (call : Call Address) :
    Ends (call.run env)
      (fun reply _ => ∀ view, call = .query view →
        view.Lossless env.ledger.timestamp before reply) Permitted before := by
  have quiet {Result : Type} {computation : Contract Address Result}
      (safe : Safe computation before) (toReply : Result → Reply Address)
      (notQuery : ∀ view, call ≠ .query view) :
      Ends (toReply <$> computation)
        (fun reply _ => ∀ view, call = .query view →
          view.Lossless env.ledger.timestamp before reply) Permitted before := by
    rw [ends_map_iff]
    apply safe.mono
    intro result after _ view isQuery
    exact absurd isQuery (notQuery view)
  cases call with
  | initializeContract admin token => exact quiet safe_initializeContract _ (by simp)
  | scheduleAdminTransfer admin newAdmin => exact quiet safe_scheduleAdminTransfer _ (by simp)
  | executeAdminTransfer => exact quiet safe_executeAdminTransfer _ (by simp)
  | cancelAdminTransfer admin => exact quiet safe_cancelAdminTransfer _ (by simp)
  | setAdmin newAdmin => exact quiet safe_setAdmin _ (by simp)
  | setSupplyCap newCap => exact quiet safe_setSupplyCap _ (by simp)
  | createStream sender recipient totalAmount startTime endTime =>
      exact quiet (safe_createStream sound) _ (by simp)
  | createStreamBatch sender requests =>
      exact quiet (safe_createStreamBatch sound) _ (by simp)
  | topUp id sender amount => exact quiet (safe_topUp sound) _ (by simp)
  | extendStream id sender newEnd => exact quiet safe_extendStream _ (by simp)
  | withdraw id recipient => exact quiet (safe_withdraw sound) _ (by simp)
  | cancel id caller => exact quiet (safe_cancel sound) _ (by simp)
  | query view =>
      apply (view.ends sound).mono
      rintro reply after lossless _ ⟨⟩
      exact lossless

end EntryPoints

variable [DecidableEq Address]

/-- An invocation fails only in permitted ways, and its answer has lost no digits. -/
structure NeverTraps (contract : Address) (system : System Address)
    (invocation : Invocation Address) : Prop where
  faults : ∀ fault, (invocation.outcome contract system).1 = .error fault → Permitted fault
  lossless : ∀ view reply, invocation.call = .query view →
    (invocation.outcome contract system).1 = .ok reply →
      view.Lossless system.ledger.timestamp system.state reply

/--
In a reachable state no call of any entry point or view reaches an `unwrap` of
nothing, an unchecked operation out of range or a division by zero; only the
contract's errors, a refused authorization and a refused transfer end a call.
Narrowed quotients are the exact ones and at most 10000.
-/
theorem never_traps {contract : Address} {system : System Address}
    (reachable : Reachable contract system) (invocation : Invocation Address) :
    NeverTraps contract system invocation := by
  have ends : Ends (invocation.call.run (invocation.env contract system.ledger))
      (fun reply _ => ∀ view, invocation.call = .query view →
        view.Lossless system.ledger.timestamp system.state reply) Permitted system.state :=
    Call.ends reachable.sound invocation.call
  rcases runEq : invocation.call.run (invocation.env contract system.ledger) system.state with
    ⟨reply, after⟩ | ⟨fault, after⟩
  · have outcome : invocation.outcome contract system = (.ok reply, after) := by
      simp only [Invocation.outcome, runEq]
    constructor
    · intro fault failed
      rw [outcome] at failed
      contradiction
    · intro view other isQuery returned
      rw [outcome, Except.ok.injEq] at returned
      rw [← returned]
      exact ends.of_ok runEq view isQuery
  · have outcome : invocation.outcome contract system = (.error fault, system.state) := by
      simp only [Invocation.outcome, runEq]
    constructor
    · intro other failed
      rw [outcome, Except.error.injEq] at failed
      rw [← failed]
      exact ends.of_error runEq
    · intro view reply isQuery returned
      rw [outcome] at returned
      contradiction

/-- The theorem applies to the progress of a stream that has been withdrawn from. -/
theorem never_traps_withdrawing :
    NeverTraps .contract (Sample.final Sample.withdrawing)
      ⟨fun _ => false, fun _ _ _ _ _ => false, .query (.progressBps 0)⟩ :=
  never_traps (Sample.history (by decide)).reachable _

/-- Half of the window has elapsed. -/
example : (Vesting.progressBps
    (⟨.alice, .bob, Sample.units 1000, 0, Sample.time 100, Sample.time 200, .active⟩ :
      Stream Sample.Party) (Sample.time 150)).map BoundedInt.val = .ok 5000 := by
  rfl

end StreamPay
