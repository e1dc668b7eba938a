import StreamPay.Withdrawals

/-!
# When arithmetic fails

Amounts are bounded only by the range of their type, so the product of a total
and an elapsed time need not fit.  The arithmetic is checked, and a product out
of range is reported as `Overflow`.  This file gives the exact streams and times
for which that happens in a reachable state: the vesting computation fails inside
the window when the product is out of range, the share in basis points fails when
its product is, and nothing else that is asked of or done with a single stream
overflows.
-/

namespace StreamPay

open Foundation Foundation.Computation

variable {Address : Type} {stream : Stream Address} {now : U64}

/-- The product behind the withdrawn share in basis points is out of range. -/
def Stream.ShareOverflows (stream : Stream Address) : Prop :=
  I128.max.val < stream.withdrawn.val * 10000

theorem percentWithdrawn_of_overflow (wellFormed : stream.WellFormed now)
    (overflows : stream.ShareOverflows) :
    stream.percentWithdrawn = .error (.error .overflow) := by
  have totalPos : 0 < stream.total.val := wellFormed.totalPos
  have notEmpty : ¬stream.total ≤ 0 := not_le.mpr totalPos
  have product : stream.withdrawn.checkedMul basisPoints = none :=
    BoundedInt.checkedMul_eq_none_iff.mpr (.inr overflows)
  simp only [Stream.percentWithdrawn, if_neg notEmpty, product, okOr, bind, Except.bind]

theorem exists_percentWithdrawn (wellFormed : stream.WellFormed now)
    (fits : ¬stream.ShareOverflows) :
    ∃ bps, stream.percentWithdrawn = .ok bps ∧ 0 ≤ bps.val ∧ bps.val ≤ 10000 := by
  have totalPos : 0 < stream.total.val := wellFormed.totalPos
  have notEmpty : ¬stream.total ≤ 0 := not_le.mpr totalPos
  have withdrawnNonneg := wellFormed.withdrawnNonneg
  rcases share_exact withdrawnNonneg wellFormed.totalPos wellFormed.withdrawnLe with
    ⟨quotient, nonneg, small, narrowed⟩
  refine ⟨toU32 stream.withdrawnShare, ?_, narrowed.symm ▸ nonneg, narrowed.symm ▸ small⟩
  simp only [Stream.percentWithdrawn, if_neg notEmpty, except_bind_eq_ok_iff, okOr_eq_ok_iff,
    orTrap_eq_ok_iff, BoundedInt.checkedMul_eq_some_iff, BoundedInt.checkedDiv_eq_some_iff]
  have product : stream.withdrawn.val * 10000 ≤ 2 ^ 127 - 1 := not_lt.mp fits
  refine ⟨⟨stream.withdrawn.val * 10000, by omega, product⟩, rfl,
    ⟨stream.withdrawnShare, ?_, ?_⟩, ⟨by omega, quotient.symm⟩, rfl⟩
  · exact le_trans (by omega) nonneg
  · exact small.trans (by omega)

theorem percentWithdrawn_eq_error_iff {fault : Fault} (wellFormed : stream.WellFormed now) :
    stream.percentWithdrawn = .error fault ↔ fault = .error .overflow ∧ stream.ShareOverflows := by
  by_cases overflows : stream.ShareOverflows
  · rw [percentWithdrawn_of_overflow wellFormed overflows]
    simp [overflows, eq_comm]
  · rcases exists_percentWithdrawn wellFormed overflows with ⟨bps, bpsEq, _, _⟩
    rw [bpsEq]
    simp [overflows]

/-- A computation that starts with the vested amount, and cannot fail after it. -/
theorem bind_vested_eq_error_iff {Result : Type} {rest : I128 → Except Fault Result}
    {fault : Fault} (wellFormed : stream.WellFormed now)
    (defined : ∀ vested, Vesting.vested stream now = .ok vested → ∃ result,
      rest vested = .ok result) :
    (Vesting.vested stream now >>= rest) = .error fault ↔
      fault = .error .overflow ∧ stream.Overflows now := by
  rw [except_bind_eq_error_iff, ← vested_eq_error_iff wellFormed.totalPos wellFormed.window,
    or_iff_left]
  rintro ⟨vested, vestedEq, failed⟩
  rcases defined vested vestedEq with ⟨result, returned⟩
  rw [returned] at failed
  contradiction

/-- A vested amount lies between nothing and the total. -/
theorem vested_bounds {vested : I128} (wellFormed : stream.WellFormed now)
    (vestedEq : Vesting.vested stream now = .ok vested) :
    0 ≤ vested.val ∧ vested.val ≤ stream.total.val := by
  have totalPos := wellFormed.totalPos
  rw [((Vesting.vested_eq_ok_iff (by omega)).mp vestedEq).1]
  exact ⟨wellFormed.scheduled_nonneg, wellFormed.scheduled_le⟩

theorem unvested_eq_error_iff {fault : Fault} (wellFormed : stream.WellFormed now) :
    Vesting.unvested stream now = .error fault ↔
      fault = .error .overflow ∧ stream.Overflows now := by
  apply bind_vested_eq_error_iff wellFormed
  intro vested vestedEq
  rcases vested_bounds wellFormed vestedEq with ⟨vestedNonneg, vestedLe⟩
  have totalUpper := stream.total.le_upper
  have difference : ∃ rest, stream.total.checkedSub vested = some rest :=
    BoundedInt.exists_checkedSub (by omega) (by omega)
  rcases difference with ⟨rest, restEq⟩
  exact ⟨rest, okOr_eq_ok_iff.mpr restEq⟩

/-- What a payout subtracts is always in range. -/
theorem exists_available {vested : I128} (wellFormed : stream.WellFormed now)
    (vestedEq : Vesting.vested stream now = .ok vested) :
    ∃ available, vested.checkedSub stream.withdrawn = some available := by
  rcases vested_bounds wellFormed vestedEq with ⟨vestedNonneg, vestedLe⟩
  have withdrawnNonneg := wellFormed.withdrawnNonneg
  have withdrawnUpper := stream.withdrawn.le_upper
  have vestedUpper := vested.le_upper
  exact BoundedInt.exists_checkedSub (by omega) (by omega)

theorem withdrawable_eq_error_iff {fault : Fault} (wellFormed : stream.WellFormed now) :
    Vesting.withdrawable stream now = .error fault ↔
      fault = .error .overflow ∧ stream.Overflows now := by
  apply bind_vested_eq_error_iff wellFormed
  intro vested vestedEq
  rcases exists_available wellFormed vestedEq with ⟨available, availableEq⟩
  simp [availableEq, okOr, bind, Except.bind, pure, Except.pure]

theorem summary_eq_error_iff {fault : Fault} (wellFormed : stream.WellFormed now) :
    stream.summary now = .error fault ↔ fault = .error .overflow ∧ stream.Overflows now := by
  apply bind_vested_eq_error_iff wellFormed
  intro vested vestedEq
  cases withdrawableEq : Vesting.withdrawable stream now with
  | error fault =>
      have failed : Vesting.vested stream now = .error (.error .overflow) :=
        (vested_eq_error_iff wellFormed.totalPos wellFormed.window).mpr
          ⟨rfl, ((withdrawable_eq_error_iff wellFormed).mp withdrawableEq).2⟩
      rw [vestedEq] at failed
      contradiction
  | ok withdrawable =>
      rcases exists_progressBps wellFormed.window now with ⟨bps, bpsEq, _, _⟩
      simp [bpsEq, bind, Except.bind, pure, Except.pure]

section Payouts

variable [DecidableEq Address] {env : Env Address} {before : State Address} {id : U64}
  {recipient caller : Address}

/-- Who withdraws from what when the withdrawal overflows. -/
def WithdrawOverflows (env : Env Address) (stream : Stream Address) (recipient : Address) : Prop :=
  env.authorized recipient = true ∧ stream.recipient = recipient ∧ stream.status = .active ∧
    stream.Overflows env.ledger.timestamp

/-- Who cancels what when the cancellation overflows. -/
def CancelOverflows (env : Env Address) (stream : Stream Address) (caller : Address) : Prop :=
  env.authorized caller = true ∧ (caller = stream.sender ∨ caller = stream.recipient) ∧
    stream.status ≠ .cancelled ∧ stream.Overflows env.ledger.timestamp

theorem withdraw_ends_overflow (wellFormed : stream.WellFormed env.ledger.timestamp)
    (stored : before.streams.lookup id = some stream) :
    Ends (withdraw env id recipient) (fun _ _ => ¬WithdrawOverflows env stream recipient)
      (fun fault => fault = .error .overflow ↔ WithdrawOverflows env stream recipient)
      before := by
  by_cases overflows : WithdrawOverflows env stream recipient
  · have failed : Vesting.withdrawable stream env.ledger.timestamp = .error (.error .overflow) :=
      (withdrawable_eq_error_iff wellFormed).mpr ⟨rfl, overflows.2.2.2⟩
    simp [withdraw, stored, overflows.1, overflows.2.1, overflows.2.2.1, failed, overflows,
      ends_liftM_iff]
  · have elsewhere : env.authorized recipient = true → stream.recipient = recipient →
        ¬stream.status = .cancelled → ¬stream.status = .completed →
          (∀ amount, Vesting.withdrawable stream env.ledger.timestamp = .ok amount → ¬amount ≤ 0 →
            ∀ fault, okOr (stream.withdrawn.checkedAdd amount) .overflow = .error fault →
              ¬fault = .error .overflow) ∧
            ∀ fault, Vesting.withdrawable stream env.ledger.timestamp = .error fault →
              ¬fault = .error .overflow := by
      intro authorized isRecipient notCancelled notCompleted
      constructor
      · intro amount available _ fault undefined
        rcases exists_withdrawn_of_withdrawable wellFormed available with
          ⟨withdrawn, withdrawnEq⟩
        rw [withdrawnEq] at undefined
        contradiction
      · intro fault failed
        have tooLarge := ((withdrawable_eq_error_iff wellFormed).mp failed).2
        exact absurd ⟨authorized, isRecipient,
          status_eq_active_iff.mpr ⟨notCancelled, notCompleted⟩, tooLarge⟩ overflows
    simpa [withdraw, stored, overflows, ends_liftM_iff, readTotalSupply, writeStream,
      writeTotalSupply, streamWithdrawn, publish] using elsewhere

theorem cancel_ends_overflow (wellFormed : stream.WellFormed env.ledger.timestamp)
    (stored : before.streams.lookup id = some stream) :
    Ends (cancel env id caller) (fun _ _ => ¬CancelOverflows env stream caller)
      (fun fault => fault = .error .overflow ↔ CancelOverflows env stream caller) before := by
  by_cases overflows : CancelOverflows env stream caller
  · have failed : Vesting.vested stream env.ledger.timestamp = .error (.error .overflow) :=
      (vested_eq_error_iff wellFormed.totalPos wellFormed.window).mpr ⟨rfl, overflows.2.2.2⟩
    have isParty := or_iff_not_imp_left.mp overflows.2.1
    simpa [cancel, stored, overflows.1, overflows.2.2.1, failed, overflows, ends_liftM_iff] using
      isParty
  · have elsewhere : env.authorized caller = true →
        (¬caller = stream.sender → caller = stream.recipient) → ¬stream.status = .cancelled →
          (∀ vested : I128, Vesting.vested stream env.ledger.timestamp = .ok vested →
            (∀ paid : I128, vested.checkedSub stream.withdrawn = some paid →
              ∀ fault, Vesting.unvested stream env.ledger.timestamp = .error fault →
                ¬fault = .error .overflow) ∧
              ∀ fault, okOr (vested.checkedSub stream.withdrawn) .overflow = .error fault →
                ¬fault = .error .overflow) ∧
            ∀ fault, Vesting.vested stream env.ledger.timestamp = .error fault →
              ¬fault = .error .overflow := by
      intro authorized isParty notCancelled
      have fits : ¬stream.Overflows env.ledger.timestamp := fun tooLarge =>
        overflows ⟨authorized, or_iff_not_imp_left.mpr isParty, notCancelled, tooLarge⟩
      refine ⟨?_, ?_⟩
      · intro vested vestedEq
        constructor
        · intro paid _ fault failed
          exact absurd ((unvested_eq_error_iff wellFormed).mp failed).2 fits
        · intro fault undefined
          rcases exists_available wellFormed vestedEq with ⟨available, availableEq⟩
          rw [availableEq] at undefined
          contradiction
      · intro fault failed
        exact absurd
          ((vested_eq_error_iff wellFormed.totalPos wellFormed.window).mp failed).2 fits
    simpa [cancel, stored, overflows, ends_liftM_iff, readTotalSupply, writeStream,
      writeTotalSupply, streamCancelled, publish, -Int.reducePow] using elsewhere

end Payouts

/-- When a view of the stream overflows. -/
def View.OverflowsOn (stream : Stream Address) (now : U64) : View → Prop
  | .streamedAmount _ | .remainingAmount _ | .getSummary _ | .withdrawableAmount _ =>
      stream.Overflows now
  | .percentWithdrawn _ => stream.ShareOverflows
  | _ => False

theorem reading_eq_overflow_iff {view : View} {id : U64}
    {answer : Stream Address → Except Fault (Reply Address)}
    (wellFormed : stream.WellFormed now) (reads : view.reading now = some (id, answer)) :
    answer stream = .error (.error .overflow) ↔ view.OverflowsOn stream now := by
  have mapped {Result : Type} {value : Except Fault Result} {toReply : Result → Reply Address} :
      value.map toReply = .error (.error .overflow) ↔ value = .error (.error .overflow) := by
    cases value <;> simp [Except.map]
  cases view <;> simp only [View.reading, Option.some.injEq, Prod.mk.injEq, reduceCtorEq] at reads
  all_goals
    rcases reads with ⟨rfl, rfl⟩
    simp only [View.OverflowsOn, mapped]
  case streamedAmount => simp [vested_eq_error_iff wellFormed.totalPos wellFormed.window]
  case remainingAmount => simp [unvested_eq_error_iff wellFormed]
  case getSummary => simp [summary_eq_error_iff wellFormed]
  case withdrawableAmount => simp [withdrawable_eq_error_iff wellFormed]
  case percentWithdrawn => simp [percentWithdrawn_eq_error_iff wellFormed]
  case duration => simp [orTrap_eq_error_iff]
  case elapsed => simp [Vesting.elapsed, orTrap_eq_error_iff]
  case progressBps =>
    rcases exists_progressBps wellFormed.window now with ⟨bps, bpsEq, _, _⟩
    simp [bpsEq]
  all_goals simp

variable [DecidableEq Address] {contract : Address} {system : System Address} {id : U64}

/-- When a stored stream makes arithmetic fail, and what its withdrawn share is otherwise. -/
structure OverflowLaw (contract : Address) (system : System Address) (id : U64)
    (stream : Stream Address) : Prop where
  vested : ∀ now fault, Vesting.vested stream now = .error fault ↔
    fault = .error .overflow ∧ stream.Overflows now
  share : ¬stream.ShareOverflows →
    ∃ bps, system.ask contract (.percentWithdrawn id) = .ok (.u32 bps) ∧
      0 ≤ bps.val ∧ bps.val ≤ 10000
  views : ∀ view (answer : Stream Address → Except Fault (Reply Address)),
    view.reading system.ledger.timestamp = some (id, answer) →
      (system.ask contract view = .error (.error .overflow) ↔
        view.OverflowsOn stream system.ledger.timestamp)
  withdraw : ∀ (withdrawing : Invocation Address) (recipient : Address),
    withdrawing.call = .withdraw id recipient →
      ((withdrawing.outcome contract system).1 = .error (.error .overflow) ↔
        WithdrawOverflows (withdrawing.env contract system.ledger) stream recipient)
  cancel : ∀ (cancelling : Invocation Address) (caller : Address),
    cancelling.call = .cancel id caller →
      ((cancelling.outcome contract system).1 = .error (.error .overflow) ↔
        CancelOverflows (cancelling.env contract system.ledger) stream caller)

/--
A stored stream overflows only inside its window and only when the product of its
total and the elapsed time is out of range; the share in basis points does when
its own product is.  No other arithmetic on one stream overflows.
-/
theorem overflow_law (reachable : Reachable contract system)
    (stored : system.state.streams.lookup id = some stream) :
    OverflowLaw contract system id stream := by
  have wellFormed := reachable.wellFormed stored
  constructor
  case vested =>
    intro now fault
    exact vested_eq_error_iff wellFormed.totalPos wellFormed.window
  case share =>
    intro fits
    rcases exists_percentWithdrawn wellFormed fits with ⟨bps, bpsEq, nonneg, small⟩
    refine ⟨bps, ?_, nonneg, small⟩
    rw [ask_of_reading rfl stored, bpsEq]
    rfl
  case views =>
    intro view answer reads
    rw [ask_of_reading reads stored]
    exact reading_eq_overflow_iff wellFormed reads
  case withdraw =>
    intro withdrawing recipient isWithdraw
    apply outcome_eq_error_iff_of_ends
    rw [isWithdraw]
    exact ends_map_iff.mpr (withdraw_ends_overflow wellFormed stored)
  case cancel =>
    intro cancelling caller isCancel
    apply outcome_eq_error_iff_of_ends
    rw [isCancel]
    exact ends_map_iff.mpr (cancel_ends_overflow wellFormed stored)

/-- The theorem applies to a stream of which half has vested. -/
theorem overflow_law_halfway :
    OverflowLaw .contract (Sample.final Sample.withdrawing) 1 Sample.secondStream :=
  overflow_law (Sample.history (by decide)).reachable (by decide)

namespace Sample

/-- The first sender owns as many tokens as an amount can name, and streams them all. -/
def enormous : List (Action Party) :=
  [callBy .admin (.initializeContract .admin .token),
    .external fun _ holder => if holder = .alice then I128.max.val else 0,
    advanceTo (time 100),
    callBy .alice (.createStream .alice .bob I128.max 0 (time 200)),
    advanceTo (time 150)]

/-- After the end of the stream everything is withdrawn. -/
def enormousPaid : List (Action Party) :=
  enormous ++ [advanceTo (time 200), callBy .bob (.withdraw 0 .bob)]

def enormousStream : Stream Party :=
  ⟨.alice, .bob, I128.max, 0, time 100, time 200, .active⟩

end Sample

/--
Arithmetic does block a stream: inside the window of a stream of the largest
amount neither party can settle it and its views fail, and after its end the
withdrawn share cannot be computed.
-/
theorem overflow_blocks_enormous :
    (∃ (system : System Sample.Party) (id : U64) (stream : Stream Sample.Party)
        (withdrawing cancelling : Invocation Sample.Party),
      Reachable Sample.Party.contract system ∧
        system.state.streams.lookup id = some stream ∧ stream.status = .active ∧
          Vesting.vested stream system.ledger.timestamp = .error (.error .overflow) ∧
            withdrawing.call = .withdraw id stream.recipient ∧
              (withdrawing.outcome .contract system).1 = .error (.error .overflow) ∧
                cancelling.call = .cancel id stream.sender ∧
                  (cancelling.outcome .contract system).1 = .error (.error .overflow) ∧
                    system.ask .contract (.getSummary id) = .error (.error .overflow)) ∧
      ∃ system id stream,
        Reachable Sample.Party.contract system ∧
          system.state.streams.lookup id = some stream ∧
            system.ask .contract (.percentWithdrawn id) = .error (.error .overflow) := by
  constructor
  · exact ⟨Sample.final Sample.enormous, 0, Sample.enormousStream,
      Sample.invocationBy .bob (.withdraw 0 .bob), Sample.invocationBy .alice (.cancel 0 .alice),
      (Sample.history (by decide)).reachable, by decide, rfl, rfl, rfl, rfl, rfl, rfl, rfl⟩
  · exact ⟨Sample.final Sample.enormousPaid, 0, Sample.enormousStream.paidOut I128.max,
      (Sample.history (by decide)).reachable, by decide, rfl⟩

end StreamPay
