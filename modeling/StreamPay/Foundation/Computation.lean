import Mathlib.Tactic.Common

/-!
# Computations with state and failure

This file gives the inversion rules of the core state-and-exception monad.  A
failed computation keeps the state it had reached, so that what a program did
before failing stays visible.

The rules rewrite the outcome of a composed computation into the outcomes of
its parts.  Simplifying with them turns the statement that a program returned
into the list of checks that it passed and the state that it left.

Inversion says nothing about the ways to fail.  For these there is the weakest
precondition of a computation, with one condition on what it returns and one on
its faults.
-/

namespace Foundation

universe u

namespace Computation

variable {Fault State Result Next : Type u}

theorem bind_eq_ok_iff {first : EStateM Fault State Result}
    {rest : Result → EStateM Fault State Next} {before after : State} {result : Next} :
    (first >>= rest) before = .ok result after ↔
      ∃ middleResult middle,
        first before = .ok middleResult middle ∧ rest middleResult middle = .ok result after := by
  change EStateM.bind first rest before = _ ↔ _
  unfold EStateM.bind
  cases first before with
  | ok middleResult middle => simp
  | error fault middle => simp

/-- A step that returns hands over to the rest. -/
theorem bind_of_ok {first : EStateM Fault State Result}
    {rest : Result → EStateM Fault State Next} {before middle : State} {value : Result}
    (returned : first before = .ok value middle) :
    (first >>= rest) before = rest value middle := by
  change EStateM.bind first rest before = _
  unfold EStateM.bind
  rw [returned]

/-- A step that fails is the last one. -/
theorem bind_of_error {first : EStateM Fault State Result}
    {rest : Result → EStateM Fault State Next} {before middle : State} {fault : Fault}
    (failed : first before = .error fault middle) :
    (first >>= rest) before = .error fault middle := by
  change EStateM.bind first rest before = _
  unfold EStateM.bind
  rw [failed]

theorem pure_eq_ok_iff {value result : Result} {before after : State} :
    (pure value : EStateM Fault State Result) before = .ok result after ↔
      result = value ∧ after = before := by
  change EStateM.Result.ok value before = _ ↔ _
  simp [eq_comm]

theorem map_eq_ok_iff {function : Result → Next} {first : EStateM Fault State Result}
    {before after : State} {result : Next} :
    (function <$> first) before = .ok result after ↔
      ∃ value, first before = .ok value after ∧ result = function value := by
  change EStateM.map function first before = _ ↔ _
  unfold EStateM.map
  cases first before with
  | ok value middle =>
      constructor
      · intro returned
        cases returned
        exact ⟨value, rfl, rfl⟩
      · rintro ⟨_, returned, rfl⟩
        cases returned
        rfl
  | error fault middle => simp

theorem throw_ne_ok {fault : Fault} {result : Result} {before after : State} :
    (throw fault : EStateM Fault State Result) before ≠ .ok result after := by
  intro returned
  cases returned

theorem modify_eq_ok_iff {update : State → State} {result : PUnit} {before after : State} :
    (modify update : EStateM Fault State PUnit) before = .ok result after ↔
      after = update before := by
  change EStateM.Result.ok PUnit.unit (update before) = _ ↔ _
  simp [eq_comm]

theorem except_bind_eq_ok_iff {first : Except Fault Result} {rest : Result → Except Fault Next}
    {result : Next} :
    (first >>= rest) = .ok result ↔ ∃ middle, first = .ok middle ∧ rest middle = .ok result := by
  cases first with
  | ok middle => simp [bind, Except.bind]
  | error fault => simp [bind, Except.bind]

theorem except_bind_eq_error_iff {first : Except Fault Result}
    {rest : Result → Except Fault Next} {fault : Fault} :
    (first >>= rest) = .error fault ↔
      first = .error fault ∨ ∃ middle, first = .ok middle ∧ rest middle = .error fault := by
  cases first with
  | ok middle => simp [bind, Except.bind]
  | error other => simp [bind, Except.bind]

/-- A computation that returns leaves the state as it found it. -/
def ReadOnly (computation : EStateM Fault State Result) : Prop :=
  ∀ before result after, computation before = .ok result after → after = before

namespace ReadOnly

theorem pure (value : Result) : ReadOnly (Pure.pure value : EStateM Fault State Result) := by
  intro before result after returned
  exact (pure_eq_ok_iff.mp returned).2

theorem bind {first : EStateM Fault State Result} {rest : Result → EStateM Fault State Next}
    (firstReads : ReadOnly first) (restReads : ∀ result, ReadOnly (rest result)) :
    ReadOnly (first >>= rest) := by
  intro before result after returned
  rcases bind_eq_ok_iff.mp returned with ⟨value, middle, firstReturned, restReturned⟩
  rw [restReads value middle result after restReturned]
  exact firstReads before value middle firstReturned

theorem map {first : EStateM Fault State Result} (firstReads : ReadOnly first)
    (function : Result → Next) : ReadOnly (function <$> first) := by
  intro before result after returned
  rcases map_eq_ok_iff.mp returned with ⟨value, firstReturned, _⟩
  exact firstReads before value after firstReturned

theorem ite {condition : Prop} [Decidable condition] {first second : EStateM Fault State Result}
    (firstReads : ReadOnly first) (secondReads : ReadOnly second) :
    ReadOnly (if condition then first else second) := by
  split
  · exact firstReads
  · exact secondReads

end ReadOnly

/--
Started in `before`, the computation returns with `Returns`, or it fails with a
fault that meets `Fails`.
-/
def Ends (computation : EStateM Fault State Result) (Returns : Result → State → Prop)
    (Fails : Fault → Prop) (before : State) : Prop :=
  match computation before with
  | .ok result after => Returns result after
  | .error fault _ => Fails fault

section Ends

variable {first : EStateM Fault State Result} {rest : Result → EStateM Fault State Next}
  {Returns : Result → State → Prop} {ReturnsNext : Next → State → Prop} {Fails : Fault → Prop}
  {before after : State} {result : Result} {fault : Fault}

theorem Ends.of_ok (ends : Ends first Returns Fails before)
    (returned : first before = .ok result after) : Returns result after := by
  simpa only [Ends, returned] using ends

theorem Ends.of_error (ends : Ends first Returns Fails before)
    (failed : first before = .error fault after) : Fails fault := by
  simpa only [Ends, failed] using ends

theorem Ends.mono (ends : Ends first Returns Fails before)
    {Weaker : Result → State → Prop}
    (weaker : ∀ result after, Returns result after → Weaker result after) :
    Ends first Weaker Fails before := by
  unfold Ends at ends ⊢
  cases found : first before with
  | ok result after =>
      rw [found] at ends
      exact weaker result after ends
  | error fault after =>
      rw [found] at ends
      exact ends

theorem Ends.mono_fails (ends : Ends first Returns Fails before) {Weaker : Fault → Prop}
    (weaker : ∀ fault, Fails fault → Weaker fault) : Ends first Returns Weaker before := by
  unfold Ends at ends ⊢
  cases found : first before with
  | ok result after =>
      rw [found] at ends
      exact ends
  | error fault after =>
      rw [found] at ends
      exact weaker fault ends

@[simp]
theorem ends_bind_iff :
    Ends (first >>= rest) ReturnsNext Fails before ↔
      Ends first (fun value middle => Ends (rest value) ReturnsNext Fails middle) Fails before := by
  unfold Ends
  change (match EStateM.bind first rest before with
    | .ok result after => ReturnsNext result after
    | .error fault _ => Fails fault) ↔ _
  unfold EStateM.bind
  cases first before with
  | ok value middle => exact Iff.rfl
  | error fault middle => exact Iff.rfl

@[simp]
theorem ends_pure_iff {value : Result} :
    Ends (pure value : EStateM Fault State Result) Returns Fails before ↔
      Returns value before :=
  Iff.rfl

@[simp]
theorem ends_throw_iff :
    Ends (throw fault : EStateM Fault State Result) Returns Fails before ↔ Fails fault :=
  Iff.rfl

@[simp]
theorem ends_modify_iff {update : State → State} {Updates : PUnit → State → Prop} :
    Ends (modify update : EStateM Fault State PUnit) Updates Fails before ↔
      Updates PUnit.unit (update before) :=
  Iff.rfl

@[simp]
theorem ends_map_iff {function : Result → Next} :
    Ends (function <$> first) ReturnsNext Fails before ↔
      Ends first (fun value after => ReturnsNext (function value) after) Fails before := by
  unfold Ends
  change (match EStateM.map function first before with
    | .ok result after => ReturnsNext result after
    | .error fault _ => Fails fault) ↔ _
  unfold EStateM.map
  cases first before with
  | ok value after => exact Iff.rfl
  | error fault after => exact Iff.rfl

@[simp]
theorem ends_ite_iff {condition : Prop} [Decidable condition]
    {other : EStateM Fault State Result} :
    Ends (if condition then first else other) Returns Fails before ↔
      (condition → Ends first Returns Fails before) ∧
        (¬condition → Ends other Returns Fails before) := by
  by_cases holds : condition
  · simp [holds]
  · simp [holds]

end Ends

end Computation

end Foundation
