import StreamPay.Foundation.Computation

/-!
# Two runs of a computation

A computation does not depend on a part of the state if, started in two states
that agree on the rest, it ends twice in the same way.  This file gives the rules
by which that follows from the parts of a computation.

Two runs may drift apart when one of them ends with a fault that is excused, such
as the fault of the very check that reads the hidden part.  The rules therefore
relate two computations, whose guards may differ as long as their fault is
excused.
-/

namespace Foundation

universe u

namespace Computation

variable {Fault State Result Next : Type u} {Related : State → State → Prop}
  {Excused : Fault → Prop}

/-- Equal results in related states, or equal faults, unless a fault is excused. -/
def SameEnd (Related : State → State → Prop) (Excused : Fault → Prop) :
    EStateM.Result Fault State Result → EStateM.Result Fault State Result → Prop
  | .ok result after, .ok other otherAfter => result = other ∧ Related after otherAfter
  | .error fault _, .error other _ => fault = other ∨ Excused fault ∨ Excused other
  | .ok _ _, .error fault _ | .error fault _, .ok _ _ => Excused fault

/-- Started in related states, the two computations end alike. -/
def Alike (Related : State → State → Prop) (Excused : Fault → Prop)
    (computation other : EStateM Fault State Result) : Prop :=
  ∀ before otherBefore, Related before otherBefore →
    SameEnd Related Excused (computation before) (other otherBefore)

/-- Started in related states, the computation ends alike. -/
def Unaffected (Related : State → State → Prop) (Excused : Fault → Prop)
    (computation : EStateM Fault State Result) : Prop :=
  Alike Related Excused computation computation

theorem SameEnd.of_excused_left {fault : Fault} {after : State} (excused : Excused fault)
    (other : EStateM.Result Fault State Result) :
    SameEnd Related Excused (.error fault after) other := by
  cases other with
  | ok result otherAfter => exact excused
  | error otherFault otherAfter => exact .inr (.inl excused)

theorem SameEnd.of_excused_right {fault : Fault} {after : State} (excused : Excused fault)
    (ending : EStateM.Result Fault State Result) :
    SameEnd Related Excused ending (.error fault after) := by
  cases ending with
  | ok result otherAfter => exact excused
  | error otherFault otherAfter => exact .inr (.inr excused)

/-- Two ends that agree are equal, or one of them is excused. -/
theorem SameEnd.resolve {ending other : EStateM.Result Fault State Result}
    (same : SameEnd Related Excused ending other) :
    (∃ result after otherAfter, ending = .ok result after ∧ other = .ok result otherAfter ∧
        Related after otherAfter) ∨
      (∃ fault after otherAfter, ending = .error fault after ∧ other = .error fault otherAfter) ∨
        ∃ fault after, Excused fault ∧
          (ending = .error fault after ∨ other = .error fault after) := by
  cases ending with
  | ok result after =>
      cases other with
      | ok otherResult otherAfter =>
          rcases same with ⟨rfl, related⟩
          exact .inl ⟨result, after, otherAfter, rfl, rfl, related⟩
      | error fault otherAfter => exact .inr (.inr ⟨fault, otherAfter, same, .inr rfl⟩)
  | error fault after =>
      cases other with
      | ok otherResult otherAfter => exact .inr (.inr ⟨fault, after, same, .inl rfl⟩)
      | error otherFault otherAfter =>
          rcases same with rfl | excused | excused
          · exact .inr (.inl ⟨fault, after, otherAfter, rfl, rfl⟩)
          · exact .inr (.inr ⟨fault, after, excused, .inl rfl⟩)
          · exact .inr (.inr ⟨otherFault, otherAfter, excused, .inr rfl⟩)

theorem Alike.bind {first other : EStateM Fault State Result}
    {rest otherRest : Result → EStateM Fault State Next}
    (firstAlike : Alike Related Excused first other)
    (restAlike : ∀ result, Alike Related Excused (rest result) (otherRest result)) :
    Alike Related Excused (first >>= rest) (other >>= otherRest) := by
  intro before otherBefore related
  have same := firstAlike before otherBefore related
  change SameEnd Related Excused (EStateM.bind first rest before)
    (EStateM.bind other otherRest otherBefore)
  unfold EStateM.bind
  cases firstEnd : first before with
  | ok result middle =>
      cases otherEnd : other otherBefore with
      | ok otherResult otherMiddle =>
          rw [firstEnd, otherEnd] at same
          rcases same with ⟨rfl, middleRelated⟩
          exact restAlike result middle otherMiddle middleRelated
      | error fault otherMiddle =>
          rw [firstEnd, otherEnd] at same
          have excused : Excused fault := same
          exact SameEnd.of_excused_right excused (rest result middle)
  | error fault middle =>
      cases otherEnd : other otherBefore with
      | ok otherResult otherMiddle =>
          rw [firstEnd, otherEnd] at same
          have excused : Excused fault := same
          exact SameEnd.of_excused_left excused (otherRest otherResult otherMiddle)
      | error otherFault otherMiddle =>
          rw [firstEnd, otherEnd] at same
          exact same

/-- Checks with an excused fault may decide differently. -/
theorem alike_ite_throw_of_excused {fault : Fault} {value : Result} (excused : Excused fault)
    (condition otherCondition : Prop) [Decidable condition] [Decidable otherCondition] :
    Alike Related Excused
      (if condition then throw fault else pure value : EStateM Fault State Result)
      (if otherCondition then throw fault else pure value) := by
  intro before otherBefore related
  split
  · split
    · exact .inl rfl
    · exact excused
  · split
    · exact excused
    · exact ⟨rfl, related⟩

/-- Updates may differ in what the relation does not show. -/
theorem Alike.modify {update otherUpdate : State → State}
    (kept : ∀ before otherBefore, Related before otherBefore →
      Related (update before) (otherUpdate otherBefore)) :
    Alike Related Excused (modify update : EStateM Fault State PUnit) (modify otherUpdate) := by
  intro before otherBefore related
  exact ⟨rfl, kept before otherBefore related⟩

namespace Unaffected

theorem bind {first : EStateM Fault State Result} {rest : Result → EStateM Fault State Next}
    (firstUnaffected : Unaffected Related Excused first)
    (restUnaffected : ∀ result, Unaffected Related Excused (rest result)) :
    Unaffected Related Excused (first >>= rest) :=
  Alike.bind firstUnaffected restUnaffected

theorem pure (value : Result) :
    Unaffected Related Excused (Pure.pure value : EStateM Fault State Result) := by
  intro before otherBefore related
  exact ⟨rfl, related⟩

theorem throw (fault : Fault) :
    Unaffected Related Excused (MonadExcept.throw fault : EStateM Fault State Result) := by
  intro before otherBefore related
  exact .inl rfl

theorem modify {update : State → State}
    (kept : ∀ before otherBefore, Related before otherBefore →
      Related (update before) (update otherBefore)) :
    Unaffected Related Excused (modify update : EStateM Fault State PUnit) := by
  intro before otherBefore related
  exact ⟨rfl, kept before otherBefore related⟩

theorem ite {condition : Prop} [Decidable condition] {first second : EStateM Fault State Result}
    (firstUnaffected : Unaffected Related Excused first)
    (secondUnaffected : Unaffected Related Excused second) :
    Unaffected Related Excused (if condition then first else second) := by
  split
  · exact firstUnaffected
  · exact secondUnaffected

theorem map {first : EStateM Fault State Result}
    (firstUnaffected : Unaffected Related Excused first) (function : Result → Next) :
    Unaffected Related Excused (function <$> first) := by
  intro before otherBefore related
  have same := firstUnaffected before otherBefore related
  change SameEnd Related Excused (EStateM.map function first before)
    (EStateM.map function first otherBefore)
  unfold EStateM.map
  cases firstEnd : first before with
  | ok result middle =>
      cases otherEnd : first otherBefore with
      | ok otherResult otherMiddle =>
          rw [firstEnd, otherEnd] at same
          rcases same with ⟨rfl, middleRelated⟩
          exact ⟨rfl, middleRelated⟩
      | error fault otherMiddle =>
          rw [firstEnd, otherEnd] at same
          exact same
  | error fault middle =>
      cases otherEnd : first otherBefore with
      | ok otherResult otherMiddle =>
          rw [firstEnd, otherEnd] at same
          exact same
      | error otherFault otherMiddle =>
          rw [firstEnd, otherEnd] at same
          exact same

end Unaffected

end Computation

end Foundation
