import StreamPay.Foundation.Accounting
import StreamPay.Supply

/-!
# How far the tracked supply falls behind

The batch creation escrows tokens without counting them.  This file computes what
that does to the tracked supply in the rest of the run: it stays behind the escrow
by exactly the sum of all batches, whatever is withdrawn, cancelled or raised in
between, until the batches together exceed what a counter can go below zero.  The
cap is therefore too generous by that sum.
-/

namespace StreamPay

open Foundation

variable {Address : Type} [DecidableEq Address]

section Runs

variable {contract : Address} {final : System Address} {trace : Trace Address}

theorem History.behindBy (history : History contract trace final)
    (bounded : tally (uncounted contract) trace ≤ 2 ^ 127) :
    final.state.BehindBy (tally (uncounted contract) trace) := by
  induction history using History.induct with
  | nil start uninitialized =>
      refine ⟨?_, ?_⟩
      · simp [State.held, State.tracked, uninitialized.streams, uninitialized.totalSupply]
      · simp [State.tracked, uninitialized.totalSupply]
  | snoc trace source action target earlier step ih =>
      have nonneg := uncounted_nonneg step
      simp only [tally_append, tally_cons, tally_nil, add_zero] at bounded ⊢
      exact step.behindBy earlier.reachable (ih (by omega)) (by omega)

theorem tally_uncounted_nonneg (history : History contract trace final)
    {part : Trace Address} (isPart : part ⊆ trace) : 0 ≤ tally (uncounted contract) part := by
  apply tally_nonneg
  intro transition transitionMem
  rcases history.of_mem (isPart transitionMem) with ⟨_, _, _, _, step, _⟩
  exact uncounted_nonneg step

/--
As long as the batches of a run sum up to at most 2^127, the tracked supply is the
escrow less this sum, and no value that an `unwrap_or` supplies is ever used.
-/
theorem tracked_eq_held_less_batches (history : History contract trace final)
    (bounded : tally (uncounted contract) trace ≤ 2 ^ 127) :
    final.state.tracked = final.state.held - tally (uncounted contract) trace ∧
      ∀ transition ∈ trace, fallbackTaken contract transition = false := by
  constructor
  · have behindEq := (history.behindBy bounded).held_eq
    omega
  · intro transition transitionMem
    rcases history.of_mem transitionMem with ⟨earlier, later, rfl, reaching, step, _⟩
    have rest : 0 ≤ tally (uncounted contract) (transition :: later) :=
      tally_uncounted_nonneg history (List.subset_append_right _ _)
    rw [tally_append] at bounded
    have boundedEarlier : tally (uncounted contract) earlier ≤ 2 ^ 127 := by omega
    exact step.no_fallback reaching.reachable (reaching.behindBy boundedEarlier)
      boundedEarlier

/--
A single stream that is created or raised is checked against a cap that is too high
by the sum of the batches before it.
-/
theorem held_le_cap_add_batches {earlier later : Trace Address}
    {transition : Transition (System Address) (Action Address)}
    (history : History contract (earlier ++ transition :: later) final)
    (bounded : tally (uncounted contract) earlier ≤ 2 ^ 127) {call : Call Address}
    (returned : returnedCall? contract transition = some call)
    (checksCap : call.checksCap = true) :
    transition.target.state.held ≤
      (transition.source.state.supplyCap.getD I128.max).val +
        tally (uncounted contract) earlier := by
  rcases history with ⟨start, uninitialized, run⟩
  rcases run.of_cons_append with ⟨before, step, _⟩
  have reaching : History contract earlier transition.source := ⟨start, uninitialized, before⟩
  rcases reaching.reachable.exists_book with ⟨book, describes⟩
  rcases exists_effect_of_returnedCall? step returned with ⟨invocation, reply, _, _, _, _, effect⟩
  exact effect.held_le_cap_add describes (reaching.behindBy bounded) checksCap

end Runs

namespace Sample

/-- Half of what a batch has opened is withdrawn, and a single stream fills the cap. -/
def drifting : List (Action Party) :=
  capped (units 1000) ++
    [fundBatch, advanceTo (time 100), callBy .bob (.withdraw 0 .bob)]

end Sample

/-- The theorem applies to a run that withdraws what was not counted. -/
theorem tracked_eq_held_less_batches_drifting :
    (Sample.final Sample.drifting).state.tracked =
        (Sample.final Sample.drifting).state.held -
          tally (uncounted .contract) (Sample.trace Sample.drifting) ∧
      ∀ transition ∈ Sample.trace Sample.drifting,
        fallbackTaken .contract transition = false :=
  tracked_eq_held_less_batches (Sample.history (by decide)) (by decide)

example : (Sample.final Sample.drifting).state.tracked = -500 := by
  decide

/-- The theorem applies to a stream that is created after half of a batch was withdrawn. -/
theorem held_le_cap_add_batches_drifting :
    (Sample.transition Sample.drifting Sample.fundOne).target.state.held ≤
      ((Sample.transition Sample.drifting Sample.fundOne).source.state.supplyCap.getD
          I128.max).val +
        tally (uncounted .contract) (Sample.trace Sample.drifting) :=
  held_le_cap_add_batches ((Sample.history (by decide)).snoc ⟨trivial, rfl⟩) (by decide) rfl rfl

end StreamPay
