import Mathlib.Algebra.BigOperators.Group.List.Basic
import Mathlib.Algebra.Order.BigOperators.Group.List
import Mathlib.Algebra.Order.Group.Int
import StreamPay.Foundation.Run

/-!
# Accounts of runs

A quantity of the state that every step changes by a known amount is, at the end
of a run, the initial quantity and the sum of the amounts; a log to which every
step appends known items is the initial log followed by the items of all steps; and
a quantity that certain steps raise bounds how many of them a run can have.  These
rules turn a law about one step into a law about runs, so that the steps can be
looked at where they occur in the run.

Amounts are summed over lists of any items: transitions, entries of a log, or
requests.
-/

namespace Foundation

universe u v w

section Tally

variable {Item : Type u} {Amount : Type w} [AddCommMonoid Amount]

/-- The sum of the amounts of the items of a list. -/
def tally (amount : Item → Amount) (items : List Item) : Amount :=
  (items.map amount).sum

variable {amount : Item → Amount}

@[simp]
theorem tally_nil : tally amount [] = 0 :=
  rfl

@[simp]
theorem tally_cons (item : Item) (rest : List Item) :
    tally amount (item :: rest) = amount item + tally amount rest := by
  simp [tally]

@[simp]
theorem tally_append (first second : List Item) :
    tally amount (first ++ second) = tally amount first + tally amount second := by
  simp [tally]

theorem tally_nonneg [PartialOrder Amount] [IsOrderedAddMonoid Amount] {items : List Item}
    (nonneg : ∀ item ∈ items, 0 ≤ amount item) : 0 ≤ tally amount items := by
  apply List.sum_nonneg
  intro value valueMem
  rcases List.mem_map.mp valueMem with ⟨item, itemMem, rfl⟩
  exact nonneg item itemMem

end Tally

namespace Run

variable {State : Type u} {Label : Type v} {step : State → Label → State → Prop}
  {start final : State} {trace : List (Transition State Label)}

/-- A measure that every transition changes by a known amount. -/
theorem measure_eq_tally {Amount : Type w} [AddCommMonoid Amount] (measure : State → Amount)
    (change : Transition State Label → Amount) (run : Run step start trace final)
    (changed : ∀ transition ∈ trace,
      measure transition.target = measure transition.source + change transition) :
    measure final = measure start + tally change trace := by
  induction run with
  | nil => simp
  | snoc earlier last ih =>
      rw [List.forall_mem_append, List.forall_mem_singleton] at changed
      rw [changed.2, ih changed.1, tally_append, tally_cons, tally_nil, add_zero, add_assoc]

/-- A measure that never falls and that counted transitions raise bounds their number. -/
theorem countP_le_measure (measure : State → ℤ) (counted : Transition State Label → Bool)
    (run : Run step start trace final)
    (raised : ∀ transition ∈ trace,
      measure transition.source + (if counted transition then 1 else 0) ≤
        measure transition.target) :
    (trace.countP counted : ℤ) ≤ measure final - measure start := by
  induction run with
  | nil => simp
  | @snoc trace source target label earlier last ih =>
      rw [List.forall_mem_append, List.forall_mem_singleton] at raised
      have fewer := ih raised.1
      have more : measure source + (if counted ⟨source, label, target⟩ then 1 else 0) ≤
          measure target := raised.2
      rw [List.countP_append, List.countP_singleton]
      push_cast
      omega

/-- A log to which every transition appends known items. -/
theorem log_eq_flatMap {Item : Type w} (log : State → List Item)
    (added : Transition State Label → List Item) (run : Run step start trace final)
    (appended : ∀ transition ∈ trace,
      log transition.target = log transition.source ++ added transition) :
    log final = log start ++ trace.flatMap added := by
  induction run with
  | nil => simp
  | snoc earlier last ih =>
      rw [List.forall_mem_append, List.forall_mem_singleton] at appended
      rw [appended.2, ih appended.1, List.flatMap_append, List.append_assoc]
      simp

end Run

end Foundation
