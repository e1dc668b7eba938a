import StreamPay.Foundation.Computation
import StreamPay.Foundation.LinearRelease
import StreamPay.Types

/-!
# Vesting

This file follows `normalize.rs` and `vesting.rs`.  Rust's unchecked `-`, `*`
and `/` panic out of range, because the release profile enables overflow
checks; here they are the checked operations with a trap where these are
undefined.
-/

namespace StreamPay

open Foundation

variable {Address : Type}

def startNow : U64 := 0

def normalizeStartTime (now startTime : U64) : U64 :=
  if startTime = startNow then now else startTime

def clampToWindow (start «end» now : U64) : U64 :=
  if now ≤ start then start else if now ≥ «end» then «end» else now

namespace Vesting

/-- The linearly vested amount of a stream. -/
def vested (stream : Stream Address) (now : U64) : Except Fault I128 :=
  if now ≤ stream.start then
    .ok 0
  else if now ≥ stream.end then
    .ok stream.total
  else do
    let elapsed ← orTrap (now.checkedSub stream.start) .arithmetic
    let duration ← orTrap (stream.end.checkedSub stream.start) .arithmetic
    let numerator ← okOr (stream.total.checkedMul (U64.toI128 elapsed)) .overflow
    okOr (numerator.checkedDiv (U64.toI128 duration)) .overflow

/-- The part of the total that has not vested yet. -/
def unvested (stream : Stream Address) (now : U64) : Except Fault I128 := do
  let vested ← vested stream now
  okOr (stream.total.checkedSub vested) .overflow

/-- The vested but not withdrawn amount, clamped at zero. -/
def withdrawable (stream : Stream Address) (now : U64) : Except Fault I128 := do
  let vested ← vested stream now
  let available ← okOr (vested.checkedSub stream.withdrawn) .overflow
  return if available > 0 then available else 0

/-- The seconds of the window that have elapsed. -/
def elapsed (stream : Stream Address) (now : U64) : Except Fault U64 :=
  orTrap ((clampToWindow stream.start stream.end now).checkedSub stream.start) .arithmetic

/-- The elapsed part of the window in basis points. -/
def progressBps (stream : Stream Address) (now : U64) : Except Fault U32 :=
  if now ≤ stream.start then
    .ok 0
  else if now ≥ stream.end then
    .ok ⟨10000, by omega, by omega⟩
  else do
    let elapsed ← orTrap (now.checkedSub stream.start) .arithmetic
    let duration ← orTrap (stream.end.checkedSub stream.start) .arithmetic
    let scaled ← orTrap ((U64.toU128 elapsed).checkedMul ⟨10000, by omega, by omega⟩) .arithmetic
    let bps ← orTrap (scaled.checkedDiv (U64.toU128 duration)) .arithmetic
    return toU32 bps.val

end Vesting

/-- The amount of the stream released by `now`, as an exact integer that cannot overflow. -/
def Stream.scheduled (stream : Stream Address) (now : U64) : ℤ :=
  if now ≤ stream.start then
    0
  else if stream.end ≤ now then
    stream.total.val
  else
    released stream.total.val (now.val - stream.start.val) (stream.end.val - stream.start.val)

namespace Vesting

/-- Inside the window the computation is one checked product and one division. -/
theorem vested_inside {stream : Stream Address} {now : U64} {amount : I128}
    (afterStart : stream.start.val < now.val) (beforeEnd : now.val < stream.end.val)
    (totalNonneg : 0 ≤ stream.total.val) :
    vested stream now = .ok amount ↔
      amount.val = released stream.total.val (now.val - stream.start.val)
          (stream.end.val - stream.start.val) ∧
        stream.total.val * (now.val - stream.start.val) ≤ 2 ^ 127 - 1 := by
  have notBefore : ¬now ≤ stream.start := by
    rw [BoundedInt.le_iff]
    omega
  have notAfter : ¬now ≥ stream.end := by
    rw [ge_iff_le, BoundedInt.le_iff]
    omega
  have product : 0 ≤ stream.total.val * (now.val - stream.start.val) :=
    Int.mul_nonneg totalNonneg (by omega)
  simp only [vested, if_neg notBefore, if_neg notAfter, Computation.except_bind_eq_ok_iff,
    orTrap_eq_ok_iff, okOr_eq_ok_iff, BoundedInt.checkedSub_eq_some_iff,
    BoundedInt.checkedMul_eq_some_iff, BoundedInt.checkedDiv_eq_some_iff, U64.toI128_val]
  constructor
  · rintro ⟨elapsed, elapsedEq, duration, durationEq, numerator, numeratorEq, _, amountEq⟩
    rw [elapsedEq] at numeratorEq
    refine ⟨?_, ?_⟩
    · rw [amountEq, numeratorEq, durationEq, tdiv_eq_released totalNonneg (by omega)]
    · rw [← numeratorEq]
      exact numerator.le_upper
  · rintro ⟨amountEq, fits⟩
    have nowUpper := now.le_upper
    have endUpper := stream.end.le_upper
    have startLower := stream.start.lower_le
    refine ⟨⟨now.val - stream.start.val, by omega, by omega⟩, rfl,
      ⟨stream.end.val - stream.start.val, by omega, by omega⟩, rfl,
      ⟨stream.total.val * (now.val - stream.start.val), by omega, fits⟩, rfl, ?_, ?_⟩
    · show stream.end.val - stream.start.val ≠ 0
      omega
    · rw [amountEq, ← tdiv_eq_released totalNonneg (by omega)]

/-- The computed amount is the scheduled one, and it fails only when the product overflows. -/
theorem vested_eq_ok_iff {stream : Stream Address} {now : U64} {amount : I128}
    (totalNonneg : 0 ≤ stream.total.val) :
    vested stream now = .ok amount ↔
      amount.val = stream.scheduled now ∧
        (stream.start.val < now.val → now.val < stream.end.val →
          stream.total.val * (now.val - stream.start.val) ≤ 2 ^ 127 - 1) := by
  by_cases before : now ≤ stream.start
  · have beforeVal : now.val ≤ stream.start.val := before
    simp only [vested, if_pos before, Stream.scheduled, Except.ok.injEq, BoundedInt.eq_iff,
      i128_zero_val]
    constructor
    · intro zero
      refine ⟨zero.symm, ?_⟩
      intro afterStart
      omega
    · rintro ⟨zero, _⟩
      exact zero.symm
  · by_cases after : stream.end ≤ now
    · have afterVal : stream.end.val ≤ now.val := after
      simp only [vested, if_neg before, ge_iff_le, if_pos after, Stream.scheduled,
        Except.ok.injEq, BoundedInt.eq_iff]
      constructor
      · intro full
        refine ⟨full.symm, ?_⟩
        intro _ beforeEnd
        omega
      · rintro ⟨full, _⟩
        exact full.symm
    · have afterStart : stream.start.val < now.val := by
        rw [BoundedInt.le_iff] at before
        omega
      have beforeEnd : now.val < stream.end.val := by
        rw [BoundedInt.le_iff] at after
        omega
      rw [vested_inside afterStart beforeEnd totalNonneg]
      simp only [Stream.scheduled, if_neg before, if_neg after]
      constructor
      · rintro ⟨amountEq, fits⟩
        exact ⟨amountEq, fun _ _ => fits⟩
      · rintro ⟨amountEq, fits⟩
        exact ⟨amountEq, fits afterStart beforeEnd⟩

/-- From its end on, a stream has vested in full. -/
theorem vested_of_end_le {stream : Stream Address} {now : U64}
    (window : stream.start.val < stream.end.val) (ended : stream.end.val ≤ now.val) :
    vested stream now = .ok stream.total := by
  have notBefore : ¬now ≤ stream.start := not_le.mpr (window.trans_le ended)
  have reached : now ≥ stream.end := ended
  simp only [vested, if_neg notBefore, if_pos reached]

/-- The withdrawable amount is what has vested beyond the withdrawals, clamped at zero. -/
theorem withdrawable_eq_ok_iff {stream : Stream Address} {now : U64} {amount : I128} :
    withdrawable stream now = .ok amount ↔
      ∃ vested available : I128,
        Vesting.vested stream now = .ok vested ∧
          available.val = vested.val - stream.withdrawn.val ∧ amount.val = max 0 available.val := by
  simp only [withdrawable, Computation.except_bind_eq_ok_iff, okOr_eq_ok_iff,
    BoundedInt.checkedSub_eq_some_iff, pure, Except.pure, Except.ok.injEq]
  have clamped (available : I128) :
      (if available > 0 then available else 0) = amount ↔ amount.val = max 0 available.val := by
    by_cases positive : available > 0
    · have availablePos : 0 < available.val := positive
      rw [if_pos positive, max_eq_right availablePos.le, BoundedInt.eq_iff, eq_comm]
    · have availableNonpos : available.val ≤ 0 := not_lt.mp positive
      rw [if_neg positive, max_eq_left availableNonpos, BoundedInt.eq_iff, eq_comm, i128_zero_val]
  constructor
  · rintro ⟨vested, vestedEq, available, availableEq, amountEq⟩
    exact ⟨vested, available, vestedEq, availableEq, (clamped available).mp amountEq⟩
  · rintro ⟨vested, available, vestedEq, availableEq, amountEq⟩
    exact ⟨vested, vestedEq, available, availableEq, (clamped available).mpr amountEq⟩

end Vesting

section Schedule

variable {stream : Stream Address} {now : U64}

theorem scheduled_of_le_start (before : now.val ≤ stream.start.val) :
    stream.scheduled now = 0 :=
  if_pos before

theorem scheduled_of_end_le (window : stream.start.val < stream.end.val)
    (after : stream.end.val ≤ now.val) : stream.scheduled now = stream.total.val := by
  have notBefore : ¬now ≤ stream.start := by
    rw [BoundedInt.le_iff]
    omega
  simp only [Stream.scheduled, if_neg notBefore]
  exact if_pos after

theorem scheduled_inside (afterStart : stream.start.val < now.val)
    (beforeEnd : now.val < stream.end.val) :
    stream.scheduled now =
      released stream.total.val (now.val - stream.start.val)
        (stream.end.val - stream.start.val) := by
  have notBefore : ¬now ≤ stream.start := by
    rw [BoundedInt.le_iff]
    omega
  have notAfter : ¬stream.end ≤ now := by
    rw [BoundedInt.le_iff]
    omega
  simp only [Stream.scheduled, if_neg notBefore, if_neg notAfter]

theorem scheduled_nonneg (totalNonneg : 0 ≤ stream.total.val) : 0 ≤ stream.scheduled now := by
  rcases lt_or_ge stream.start.val now.val with afterStart | before
  · rcases lt_or_ge now.val stream.end.val with beforeEnd | after
    · rw [scheduled_inside afterStart beforeEnd]
      exact released_nonneg totalNonneg (by omega) (by omega)
    · simp only [Stream.scheduled]
      split
      · exact le_rfl
      · rw [if_pos (show stream.end ≤ now from after)]
        exact totalNonneg
  · rw [scheduled_of_le_start before]

/-- The whole total is released exactly from the end of the window on. -/
theorem scheduled_lt_total (totalPos : 0 < stream.total.val)
    (beforeEnd : now.val < stream.end.val) :
    stream.scheduled now < stream.total.val := by
  rcases lt_or_ge stream.start.val now.val with afterStart | before
  · rw [scheduled_inside afterStart beforeEnd]
    exact released_lt_total totalPos (by omega) (by omega)
  · rw [scheduled_of_le_start before]
    exact totalPos

theorem scheduled_le_total (totalPos : 0 < stream.total.val)
    (window : stream.start.val < stream.end.val) :
    stream.scheduled now ≤ stream.total.val := by
  rcases lt_or_ge now.val stream.end.val with beforeEnd | after
  · exact (scheduled_lt_total totalPos beforeEnd).le
  · exact (scheduled_of_end_le window after).le

theorem scheduled_eq_total_iff (totalPos : 0 < stream.total.val)
    (window : stream.start.val < stream.end.val) :
    stream.scheduled now = stream.total.val ↔ stream.end.val ≤ now.val := by
  constructor
  · intro full
    by_contra notEnded
    exact (scheduled_lt_total totalPos (not_le.mp notEnded)).ne full
  · exact scheduled_of_end_le window

/-- A well-formed stream never takes back what it has released, as time passes. -/
theorem scheduled_mono_now {later : U64} (totalPos : 0 < stream.total.val)
    (window : stream.start.val < stream.end.val) (order : now.val ≤ later.val) :
    stream.scheduled now ≤ stream.scheduled later := by
  rcases le_or_gt now.val stream.start.val with before | afterStart
  · rw [scheduled_of_le_start before]
    exact scheduled_nonneg totalPos.le
  · rcases le_or_gt stream.end.val later.val with after | beforeEnd
    · rw [scheduled_of_end_le window after]
      exact scheduled_le_total totalPos window
    · rw [scheduled_inside afterStart (by omega), scheduled_inside (by omega) beforeEnd]
      apply released_mono_elapsed totalPos.le
      · omega
      · omega

/-- A larger total releases at least as much at any time. -/
theorem scheduled_mono_total {newTotal : I128} (totalPos : 0 < stream.total.val)
    (order : stream.total.val ≤ newTotal.val) :
    stream.scheduled now ≤ { stream with total := newTotal }.scheduled now := by
  rcases le_or_gt now.val stream.start.val with before | afterStart
  · rw [scheduled_of_le_start before]
    apply scheduled_nonneg
    show 0 ≤ newTotal.val
    omega
  · rcases le_or_gt stream.end.val now.val with after | beforeEnd
    · have notBefore : ¬now ≤ stream.start := not_le.mpr afterStart
      have ended : stream.end ≤ now := after
      simp only [Stream.scheduled, if_neg notBefore, if_pos ended]
      exact order
    · rw [scheduled_inside afterStart beforeEnd, scheduled_inside]
      · apply released_mono_total
        · omega
        · show 0 < stream.end.val - stream.start.val
          omega
        · exact order
      · exact afterStart
      · exact beforeEnd

/-- Two totals on one window are released in proportion, up to one unit of rounding. -/
theorem mul_scheduled_lt {scale : I128} (totalPos : 0 < stream.total.val)
    (scalePos : 0 < scale.val) (window : stream.start.val < stream.end.val) :
    scale.val * stream.scheduled now <
      stream.total.val * ({ stream with total := scale }.scheduled now + 1) := by
  rcases le_or_gt now.val stream.start.val with before | afterStart
  · have nothing : { stream with total := scale }.scheduled now = 0 := scheduled_of_le_start before
    rw [nothing, scheduled_of_le_start before]
    omega
  · rcases le_or_gt stream.end.val now.val with after | beforeEnd
    · have everything : { stream with total := scale }.scheduled now = scale.val :=
        scheduled_of_end_le window after
      rw [everything, scheduled_of_end_le window after]
      linarith
    · have inside : { stream with total := scale }.scheduled now =
          released scale.val (now.val - stream.start.val) (stream.end.val - stream.start.val) :=
        scheduled_inside afterStart beforeEnd
      rw [inside, scheduled_inside afterStart beforeEnd]
      apply mul_released_lt totalPos scalePos.le
      omega

/-- A later end never releases more at any time. -/
theorem scheduled_anti_end {newEnd : U64} (totalPos : 0 < stream.total.val)
    (window : stream.start.val < stream.end.val) (order : stream.end.val ≤ newEnd.val) :
    { stream with «end» := newEnd }.scheduled now ≤ stream.scheduled now := by
  have prolonged : stream.start.val < newEnd.val := window.trans_le order
  rcases le_or_gt now.val stream.start.val with before | afterStart
  · have nothing : { stream with «end» := newEnd }.scheduled now = 0 :=
      scheduled_of_le_start before
    rw [nothing]
    exact scheduled_nonneg totalPos.le
  · rcases le_or_gt stream.end.val now.val with after | beforeEnd
    · rw [scheduled_of_end_le window after]
      exact scheduled_le_total totalPos prolonged
    · have beforeNewEnd : now.val < newEnd.val := beforeEnd.trans_le order
      have later : { stream with «end» := newEnd }.scheduled now =
          released stream.total.val (now.val - stream.start.val)
            (newEnd.val - stream.start.val) :=
        scheduled_inside afterStart beforeNewEnd
      rw [scheduled_inside afterStart beforeEnd, later]
      apply released_anti_duration totalPos.le
      · omega
      · omega
      · omega

/-- Moving the end changes nothing before the start and after both ends. -/
theorem scheduled_of_prolonged {newEnd : U64} (window : stream.start.val < stream.end.val)
    (order : stream.end.val ≤ newEnd.val)
    (outside : now.val ≤ stream.start.val ∨ newEnd.val ≤ now.val) :
    { stream with «end» := newEnd }.scheduled now = stream.scheduled now := by
  rcases outside with before | after
  · rw [scheduled_of_le_start before]
    exact scheduled_of_le_start before
  · rw [scheduled_of_end_le window (order.trans after)]
    exact scheduled_of_end_le (window.trans_le order) after

end Schedule

section Overflow

variable {stream : Stream Address} {now : U64}

theorem exists_elapsed (afterStart : stream.start.val ≤ now.val) :
    ∃ elapsed, now.checkedSub stream.start = some elapsed := by
  have nowUpper := now.le_upper
  have startLower := stream.start.lower_le
  exact BoundedInt.exists_checkedSub (by omega) (by omega)

theorem exists_duration (window : stream.start.val < stream.end.val) :
    ∃ duration, stream.end.checkedSub stream.start = some duration := by
  have endUpper := stream.end.le_upper
  have startLower := stream.start.lower_le
  exact BoundedInt.exists_checkedSub (by omega) (by omega)

/-- The vesting computation of the stream at `now` leaves the range of its intermediate product. -/
def Stream.Overflows (stream : Stream Address) (now : U64) : Prop :=
  stream.start.val < now.val ∧ now.val < stream.end.val ∧
    2 ^ 127 - 1 < stream.total.val * (now.val - stream.start.val)

instance : Decidable (stream.Overflows now) :=
  inferInstanceAs (Decidable (_ ∧ _ ∧ _))

/-- Unless its product overflows, the computation returns the scheduled amount. -/
theorem exists_vested (totalPos : 0 < stream.total.val)
    (window : stream.start.val < stream.end.val) (fits : ¬stream.Overflows now) :
    ∃ amount, Vesting.vested stream now = .ok amount ∧ amount.val = stream.scheduled now := by
  have lower : 0 ≤ stream.scheduled now := scheduled_nonneg totalPos.le
  have upper : stream.scheduled now ≤ stream.total.val := scheduled_le_total totalPos window
  have totalUpper := stream.total.le_upper
  refine ⟨⟨stream.scheduled now, by omega, by omega⟩, ?_, rfl⟩
  refine (Vesting.vested_eq_ok_iff totalPos.le).mpr ⟨rfl, ?_⟩
  intro afterStart beforeEnd
  by_contra tooLarge
  exact fits ⟨afterStart, beforeEnd, not_le.mp tooLarge⟩

/-- The computation fails only by overflow, and exactly when its product is out of range. -/
theorem vested_eq_error_iff {fault : Fault} (totalPos : 0 < stream.total.val)
    (window : stream.start.val < stream.end.val) :
    Vesting.vested stream now = .error fault ↔
      fault = .error .overflow ∧ stream.Overflows now := by
  by_cases overflows : stream.Overflows now
  · rcases id overflows with ⟨afterStart, beforeEnd, tooLarge⟩
    have notBefore : ¬now ≤ stream.start := not_le.mpr afterStart
    have notAfter : ¬now ≥ stream.end := not_le.mpr beforeEnd
    rcases exists_elapsed afterStart.le with ⟨elapsed, elapsedEq⟩
    rcases exists_duration window with ⟨duration, durationEq⟩
    have product : stream.total.checkedMul (U64.toI128 elapsed) = none := by
      rw [BoundedInt.checkedMul_eq_none_iff, U64.toI128_val,
        BoundedInt.checkedSub_eq_some_iff.mp elapsedEq]
      exact .inr tooLarge
    have failed : Vesting.vested stream now = .error (.error .overflow) := by
      simp only [Vesting.vested, if_neg notBefore, if_neg notAfter, elapsedEq, durationEq, orTrap,
        bind, Except.bind, product, okOr]
    rw [failed, Except.error.injEq, eq_comm]
    exact (and_iff_left overflows).symm
  · rcases exists_vested totalPos window overflows with ⟨amount, vestedEq, _⟩
    rw [vestedEq]
    simp only [reduceCtorEq, false_iff]
    exact fun failed => overflows failed.2

end Overflow

end StreamPay
