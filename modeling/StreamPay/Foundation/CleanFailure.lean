import StreamPay.Foundation.Computation

/-!
# Failing without a trace

A failed computation keeps the state it had reached.  A program that makes all of
its checks before its first effect reports a failed check in the state in which it
was started; it can be told from its text, step by step.  Steps that only inspect
the state may come in any number, and after them stand effects that report
nothing.
-/

namespace Foundation

universe u

namespace Computation

variable {Fault State Result Next : Type u}

/-- A computation that leaves the state as it found it, whether it returns or fails. -/
structure Inspects (computation : EStateM Fault State Result) : Prop where
  returned : ∀ before result after, computation before = .ok result after → after = before
  failed : ∀ before fault after, computation before = .error fault after → after = before

namespace Inspects

variable {first : EStateM Fault State Result} {rest : Result → EStateM Fault State Next}

theorem pure (value : Result) : Inspects (Pure.pure value : EStateM Fault State Result) := by
  constructor
  · intro before result after returned
    exact (pure_eq_ok_iff.mp returned).2
  · intro before fault after failed
    cases failed

theorem throw (fault : Fault) : Inspects (throw fault : EStateM Fault State Result) := by
  constructor
  · intro before result after returned
    cases returned
  · intro before other after failed
    cases failed
    rfl

theorem bind (firstInspects : Inspects first) (restInspects : ∀ result, Inspects (rest result)) :
    Inspects (first >>= rest) := by
  constructor
  · intro before result after returned
    rcases bind_eq_ok_iff.mp returned with ⟨value, middle, firstReturned, restReturned⟩
    rw [(restInspects value).returned middle result after restReturned]
    exact firstInspects.returned before value middle firstReturned
  · intro before fault after failed
    change EStateM.bind first rest before = _ at failed
    unfold EStateM.bind at failed
    cases found : first before with
    | ok value middle =>
        rw [found] at failed
        rw [(restInspects value).failed middle fault after failed]
        exact firstInspects.returned before value middle found
    | error other middle =>
        rw [found] at failed
        cases failed
        exact firstInspects.failed before fault after found

theorem map (firstInspects : Inspects first) (function : Result → Next) :
    Inspects (function <$> first) :=
  firstInspects.bind fun result => pure (function result)

theorem ite {condition : Prop} [Decidable condition] {second : EStateM Fault State Result}
    (firstInspects : Inspects first) (secondInspects : Inspects second) :
    Inspects (if condition then first else second) := by
  split
  · exact firstInspects
  · exact secondInspects

end Inspects

/-- Whenever the computation fails with a reported fault, the state is as it was before. -/
def FailsCleanly (Reported : Fault → Prop) (computation : EStateM Fault State Result)
    (before : State) : Prop :=
  ∀ fault after, Reported fault → computation before = .error fault after → after = before

section FailsCleanly

variable {Reported : Fault → Prop} {first : EStateM Fault State Result}
  {rest : Result → EStateM Fault State Next} {before : State}

theorem Inspects.failsCleanly (inspects : Inspects first) :
    FailsCleanly Reported first before := by
  intro fault after _ failed
  exact inspects.failed before fault after failed

/-- After an inspecting step it is the rest that has to fail cleanly. -/
theorem failsCleanly_bind_iff (inspects : Inspects first) :
    FailsCleanly Reported (first >>= rest) before ↔
      ∀ result, first before = .ok result before → FailsCleanly Reported (rest result) before := by
  have run : (first >>= rest) before = EStateM.bind first rest before := rfl
  unfold EStateM.bind at run
  unfold FailsCleanly
  rw [run]
  cases found : first before with
  | ok value middle =>
      have same : middle = before := inspects.returned before value middle found
      subst middle
      simp
  | error fault middle =>
      have same : middle = before := inspects.failed before fault middle found
      subst middle
      simp

theorem failsCleanly_map_iff {function : Result → Next} :
    FailsCleanly Reported (function <$> first) before ↔ FailsCleanly Reported first before := by
  have run : (function <$> first) before = EStateM.map function first before := rfl
  unfold EStateM.map at run
  unfold FailsCleanly
  rw [run]
  cases first before with
  | ok value after => simp
  | error fault after => simp

/-- What reports nothing fails cleanly. -/
theorem FailsCleanly.of_ends
    (ends : Ends first (fun _ _ => True) (fun fault => ¬Reported fault) before) :
    FailsCleanly Reported first before := by
  intro fault after reported failed
  exact absurd reported (ends.of_error failed)

end FailsCleanly

end Computation

end Foundation
