import StreamPay.Safety

/-!
# The law of vesting

The vested amount of a stream is the exact schedule wherever the computation
returns at all, so every fact about it is a fact about the schedule.  This file
states the whole law for an arbitrary stream with a positive total and a
nonempty window: the bounds, the exact rounding, the monotonicity in the time,
in the total and in the end, the agreement with the progress in basis points,
and what is lost by splitting a payment over several streams.
-/

namespace StreamPay

open Foundation

variable {Address : Type} {stream : Stream Address} {now : U64}

/-- What the vested amount of a stream satisfies at one timestamp. -/
structure VestedShare (stream : Stream Address) (now : U64) (amount : I128) : Prop where
  nonneg : 0 ≤ amount.val
  le_total : amount.val ≤ stream.total.val
  lt_total : now.val < stream.end.val → amount.val < stream.total.val
  unvested : ∃ rest, Vesting.unvested stream now = .ok rest ∧
    amount.val + rest.val = stream.total.val
  floor : stream.start.val < now.val → now.val < stream.end.val →
    amount.val * (stream.end.val - stream.start.val) ≤
        stream.total.val * (now.val - stream.start.val) ∧
      stream.total.val * (now.val - stream.start.val) <
        (amount.val + 1) * (stream.end.val - stream.start.val)

theorem val_eq_scheduled {amount : I128} (vestedEq : Vesting.vested stream now = .ok amount)
    (totalNonneg : 0 ≤ stream.total.val) : amount.val = stream.scheduled now :=
  ((Vesting.vested_eq_ok_iff totalNonneg).mp vestedEq).1

/-- What has vested and what has not add up to the total. -/
theorem exists_unvested {amount : I128} (totalPos : 0 < stream.total.val)
    (window : stream.start.val < stream.end.val)
    (vestedEq : Vesting.vested stream now = .ok amount) :
    ∃ rest, Vesting.unvested stream now = .ok rest ∧
      amount.val + rest.val = stream.total.val := by
  have scheduled : amount.val = stream.scheduled now := val_eq_scheduled vestedEq totalPos.le
  have lower : 0 ≤ amount.val := scheduled ▸ scheduled_nonneg totalPos.le
  have upper : amount.val ≤ stream.total.val := scheduled ▸ scheduled_le_total totalPos window
  have totalUpper := stream.total.le_upper
  have difference : ∃ rest, stream.total.checkedSub amount = some rest :=
    BoundedInt.exists_checkedSub (by omega) (by omega)
  rcases difference with ⟨rest, restEq⟩
  refine ⟨rest, ?_, ?_⟩
  · simp [Vesting.unvested, vestedEq, restEq, okOr, bind, Except.bind]
  · have restVal := BoundedInt.checkedSub_eq_some_iff.mp restEq
    omega

theorem vestedShare_of_vested {amount : I128} (totalPos : 0 < stream.total.val)
    (window : stream.start.val < stream.end.val)
    (vestedEq : Vesting.vested stream now = .ok amount) : VestedShare stream now amount := by
  have scheduled : amount.val = stream.scheduled now := val_eq_scheduled vestedEq totalPos.le
  refine ⟨?_, ?_, ?_, exists_unvested totalPos window vestedEq, ?_⟩
  · exact scheduled ▸ scheduled_nonneg totalPos.le
  · exact scheduled ▸ scheduled_le_total totalPos window
  · intro beforeEnd
    exact scheduled ▸ scheduled_lt_total totalPos beforeEnd
  · intro afterStart beforeEnd
    have duration : 0 < stream.end.val - stream.start.val := by omega
    rw [scheduled, scheduled_inside afterStart beforeEnd]
    exact ⟨released_mul_le duration, lt_released_add_one_mul duration⟩

/-- The vesting computation over all timestamps, totals and ends of one stream. -/
structure VestingLaw (stream : Stream Address) (now : U64) : Prop where
  share : ∀ amount, Vesting.vested stream now = .ok amount → VestedShare stream now amount
  mono_now : ∀ later amount laterAmount, now.val ≤ later.val →
    Vesting.vested stream now = .ok amount → Vesting.vested stream later = .ok laterAmount →
      amount.val ≤ laterAmount.val
  mono_total : ∀ newTotal amount newAmount, stream.total.val ≤ newTotal.val →
    Vesting.vested stream now = .ok amount →
      Vesting.vested { stream with total := newTotal } now = .ok newAmount →
        amount.val ≤ newAmount.val
  anti_end : ∀ newEnd amount newAmount, stream.end.val ≤ newEnd.val →
    Vesting.vested stream now = .ok amount →
      Vesting.vested { stream with «end» := newEnd } now = .ok newAmount →
        newAmount.val ≤ amount.val
  overflow_iff : Vesting.vested stream now = .error (.error .overflow) ↔
    stream.start.val < now.val ∧ now.val < stream.end.val ∧
      I128.max.val < stream.total.val * (now.val - stream.start.val)

/--
The vested amount lies between zero and the total and reaches the total exactly
at the end, is the exact share rounded down, grows with the time and the total
and shrinks as the end moves away.  It is undefined exactly when the product of
the total and the elapsed time overflows.
-/
theorem vesting_law (totalPos : 1 ≤ stream.total.val)
    (window : stream.start.val < stream.end.val) (now : U64) : VestingLaw stream now := by
  have totalNonneg : 0 ≤ stream.total.val := by omega
  constructor
  case share =>
    intro amount vestedEq
    exact vestedShare_of_vested totalPos window vestedEq
  case mono_now =>
    intro later amount laterAmount order vestedEq laterEq
    rw [val_eq_scheduled vestedEq totalNonneg, val_eq_scheduled laterEq totalNonneg]
    exact scheduled_mono_now totalPos window order
  case mono_total =>
    intro newTotal amount newAmount order vestedEq newEq
    have newNonneg : 0 ≤ newTotal.val := totalNonneg.trans order
    rw [val_eq_scheduled vestedEq totalNonneg, val_eq_scheduled newEq newNonneg]
    exact scheduled_mono_total totalPos order
  case anti_end =>
    intro newEnd amount newAmount order vestedEq newEq
    rw [val_eq_scheduled vestedEq totalNonneg, val_eq_scheduled newEq totalNonneg]
    exact scheduled_anti_end totalPos window order
  case overflow_iff =>
    rw [vested_eq_error_iff totalPos window]
    simp [Stream.Overflows, I128.max]

namespace Sample

/-- A thousand units over the hundred seconds from 100 to 200. -/
def thousand : Stream Party :=
  ⟨.alice, .bob, units 1000, 0, time 100, time 200, .active⟩

end Sample

/-- The law holds at the middle of a window, where half of the total has vested. -/
theorem vesting_law_midpoint : VestingLaw Sample.thousand (Sample.time 150) :=
  vesting_law (by decide) (by decide) (Sample.time 150)

/-- The progress is the schedule of ten thousand units over the same window. -/
theorem progress_eq_scheduled :
    stream.progress now = { stream with total := basisPoints }.scheduled now :=
  rfl

/-- How the progress in basis points and the vested amount at one timestamp are related. -/
structure ProgressAgreement (stream : Stream Address) (now : U64) (amount : I128)
    (bps : U32) : Prop where
  mono_now : ∀ later laterBps, now.val ≤ later.val →
    Vesting.progressBps stream later = .ok laterBps → bps.val ≤ laterBps.val
  full_iff_ended : bps.val = 10000 ↔ stream.end.val ≤ now.val
  ended_iff_vested : stream.end.val ≤ now.val ↔ amount.val = stream.total.val
  progress_lt : stream.total.val * bps.val < 10000 * (amount.val + 1)
  amount_lt : 10000 * amount.val < stream.total.val * (bps.val + 1)

theorem val_eq_progress {bps : U32} (window : stream.start.val < stream.end.val)
    (computed : Vesting.progressBps stream now = .ok bps) : bps.val = stream.progress now := by
  rcases exists_progressBps window now with ⟨other, otherEq, isProgress, _⟩
  rw [otherEq, Except.ok.injEq] at computed
  rw [← computed]
  exact isProgress

/--
Wherever the vested amount is defined, so is the progress; the two are complete
at the same time and are never more than one rounding step apart on either side.
-/
theorem progress_agrees {amount : I128} (totalPos : 1 ≤ stream.total.val)
    (window : stream.start.val < stream.end.val)
    (vestedEq : Vesting.vested stream now = .ok amount) :
    ∃ bps, Vesting.progressBps stream now = .ok bps ∧
      ProgressAgreement stream now amount bps := by
  have scalePos : (0 : ℤ) < 10000 := by omega
  have scheduled : amount.val = stream.scheduled now := val_eq_scheduled vestedEq (by omega)
  rcases exists_progressBps window now with ⟨bps, bpsEq, isProgress, _⟩
  rw [progress_eq_scheduled] at isProgress
  refine ⟨bps, bpsEq, ?_⟩
  constructor
  case mono_now =>
    intro later laterBps order laterEq
    rw [isProgress, val_eq_progress window laterEq, progress_eq_scheduled]
    exact scheduled_mono_now scalePos window order
  case full_iff_ended =>
    rw [isProgress]
    exact scheduled_eq_total_iff scalePos window
  case ended_iff_vested =>
    rw [scheduled]
    exact (scheduled_eq_total_iff totalPos window).symm
  case progress_lt =>
    rw [isProgress, scheduled]
    exact mul_scheduled_lt scalePos totalPos window
  case amount_lt =>
    rw [isProgress, scheduled]
    exact mul_scheduled_lt totalPos scalePos window

/-- After a third of the window the two figures are both rounded. -/
theorem progress_agrees_third :
    ∃ bps, Vesting.progressBps Sample.thousand (Sample.time 133) = .ok bps ∧
      ProgressAgreement Sample.thousand (Sample.time 133) (Sample.units 330) bps :=
  progress_agrees (by decide) (by decide) (by rfl)

section Splitting

variable {streams : List (Stream Address)} {amounts : List I128} {whole : Stream Address}

/-- Streams with positive totals over the window of the whole stream. -/
def SharesWindow (whole : Stream Address) (streams : List (Stream Address)) : Prop :=
  ∀ part ∈ streams,
    part.start = whole.start ∧ part.end = whole.end ∧ 1 ≤ part.total.val

instance : Decidable (SharesWindow whole streams) :=
  inferInstanceAs (Decidable (∀ part ∈ streams, _ ∧ _ ∧ _))

theorem sum_vested (shared : SharesWindow whole streams)
    (parts : List.Forall₂ (fun part amount => Vesting.vested part now = .ok amount)
      streams amounts) :
    (amounts.map BoundedInt.val).sum = (streams.map fun part => part.scheduled now).sum := by
  induction parts with
  | nil => simp
  | cons first rest ih =>
      rename_i part amount streams amounts
      have positive : 1 ≤ part.total.val := (shared part List.mem_cons_self).2.2
      have scheduled : amount.val = part.scheduled now := val_eq_scheduled first (by omega)
      have others : SharesWindow whole streams := by
        intro other isPart
        exact shared other (List.mem_cons_of_mem part isPart)
      simp only [List.map_cons, List.sum_cons, scheduled, ih others]

/-- Outside the open window the parts release exactly what the whole releases. -/
theorem sum_scheduled_of_outside (shared : SharesWindow whole streams)
    (window : whole.start.val < whole.end.val)
    (summed : whole.total.val = (streams.map fun part => part.total.val).sum)
    (outside : now.val ≤ whole.start.val ∨ whole.end.val ≤ now.val) :
    (streams.map fun part => part.scheduled now).sum = whole.scheduled now := by
  rcases outside with before | after
  · have nothing : streams.map (fun part => part.scheduled now) = streams.map fun _ => (0 : ℤ) := by
      apply List.map_congr_left
      intro part isPart
      apply scheduled_of_le_start
      rw [(shared part isPart).1]
      exact before
    rw [scheduled_of_le_start before, nothing]
    simp
  · have everything : streams.map (fun part => part.scheduled now) =
        streams.map fun part => part.total.val := by
      apply List.map_congr_left
      intro part isPart
      rcases shared part isPart with ⟨sameStart, sameEnd, _⟩
      apply scheduled_of_end_le
      · rw [sameStart, sameEnd]
        exact window
      · rw [sameEnd]
        exact after
    rw [scheduled_of_end_le window after, everything, summed]

/-- Inside the window each part is rounded on its own. -/
theorem map_scheduled_inside (shared : SharesWindow whole streams)
    (afterStart : whole.start.val < now.val) (beforeEnd : now.val < whole.end.val) :
    streams.map (fun part => part.scheduled now) =
      (streams.map fun part => part.total.val).map fun total =>
        released total (now.val - whole.start.val) (whole.end.val - whole.start.val) := by
  rw [List.map_map]
  apply List.map_congr_left
  intro part isPart
  rcases shared part isPart with ⟨sameStart, sameEnd, _⟩
  have inside : part.scheduled now =
      released part.total.val (now.val - part.start.val) (part.end.val - part.start.val) := by
    apply scheduled_inside
    · rw [sameStart]
      exact afterStart
    · rw [sameEnd]
      exact beforeEnd
  rw [inside, sameStart, sameEnd]
  rfl

/-- How the amounts vested by the parts compare with the amount vested by the whole. -/
structure SplitBounds (whole : Stream Address) (streams : List (Stream Address)) (now : U64)
    (amount : I128) (amounts : List I128) : Prop where
  gainsNothing : 0 ≤ amount.val - (amounts.map BoundedInt.val).sum
  lag : amount.val - (amounts.map BoundedInt.val).sum ≤ streams.length - 1
  exactOutside : now.val ≤ whole.start.val ∨ whole.end.val ≤ now.val →
    amount.val - (amounts.map BoundedInt.val).sum = 0

/--
Streams that share one window never release more together than a single stream
of the summed total, lag it by less than one unit each, and equal it up to the
start and from the end on.
-/
theorem splitting_bounds {amount : I128} (nonempty : streams ≠ [])
    (window : whole.start.val < whole.end.val) (shared : SharesWindow whole streams)
    (summed : whole.total.val = (streams.map fun part => part.total.val).sum)
    (parts : List.Forall₂ (fun part paid => Vesting.vested part now = .ok paid) streams amounts)
    (vestedEq : Vesting.vested whole now = .ok amount) :
    SplitBounds whole streams now amount amounts := by
  have count : 1 ≤ (streams.length : ℤ) := by
    exact_mod_cast List.length_pos_iff.mpr nonempty
  have totalNonneg : 0 ≤ whole.total.val := by
    rw [summed]
    apply List.sum_nonneg
    simp only [List.mem_map, forall_exists_index, and_imp, forall_apply_eq_imp_iff₂]
    intro part isPart
    have positive : 1 ≤ part.total.val := (shared part isPart).2.2
    omega
  have paid := sum_vested shared parts
  have scheduled : amount.val = whole.scheduled now := val_eq_scheduled vestedEq totalNonneg
  by_cases outside : now.val ≤ whole.start.val ∨ whole.end.val ≤ now.val
  · have same := sum_scheduled_of_outside shared window summed outside
    constructor
    · omega
    · omega
    · intro _
      omega
  · have afterStart : whole.start.val < now.val := by omega
    have beforeEnd : now.val < whole.end.val := by omega
    have duration : 0 < whole.end.val - whole.start.val := by omega
    generalize totalsEq : streams.map (fun part => part.total.val) = totals at summed
    have sameLength : streams.length = totals.length := by simp [← totalsEq]
    have notNil : totals ≠ [] := by
      intro isNil
      rw [isNil, List.length_nil, List.length_eq_zero_iff] at sameLength
      exact nonempty sameLength
    rw [map_scheduled_inside shared afterStart beforeEnd, totalsEq] at paid
    rw [scheduled_inside afterStart beforeEnd, summed] at scheduled
    constructor
    · rw [paid, scheduled]
      exact sub_nonneg.mpr (sum_released_le duration)
    · rw [paid, scheduled, sameLength, Int.le_sub_one_iff, sub_lt_iff_lt_add']
      exact released_sum_lt duration notNil
    · intro inside
      exact absurd inside outside

namespace Sample

/-- Some units, released over the three seconds from 100 to 103. -/
def brief (total : ℕ) : Stream Party :=
  ⟨.alice, .bob, units total, 0, time 100, time 103, .active⟩

end Sample

/-- After two of three seconds, three streams of one unit lag their sum by two units. -/
theorem splitting_bounds_thirds :
    SplitBounds (Sample.brief 3) [Sample.brief 1, Sample.brief 1, Sample.brief 1]
      (Sample.time 102) (Sample.units 2) [Sample.units 0, Sample.units 0, Sample.units 0] :=
  splitting_bounds (by decide) (by decide) (by decide) (by decide)
    (.cons rfl (.cons rfl (.cons rfl .nil))) rfl

end Splitting

end StreamPay
