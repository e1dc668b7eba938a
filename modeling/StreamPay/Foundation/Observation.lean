import StreamPay.Foundation.Run

/-!
# What an observer sees of an execution

Some transitions of a deterministic system show something to an observer.  A log or
a register that every transition updates by what it shows can be told from the
observations.

The observer does not notice that some labels have been left out, if the states with
and without them are related, if a label that is left out shows nothing and keeps
them related, and if every other label shows the same in related states.  Transitions
in which something went wrong may be set aside, provided that neither execution takes
one.
-/

namespace Foundation

universe u v w

section Observation

variable {State : Type u} {Label : Type v} {Observation : Type w} {next : State → Label → State}
  {observe : Transition State Label → Option Observation} {keep : Label → Bool}
  {Fine OtherFine : Transition State Label → Prop} {Related : State → State → Prop}
  {first second : State} {label : Label} {labels : List Label}

/-- The transition that a label takes. -/
def taken (next : State → Label → State) (source : State) (label : Label) :
    Transition State Label :=
  ⟨source, label, next source label⟩

/-- What is observed of an execution, in order. -/
def observations (next : State → Label → State)
    (observe : Transition State Label → Option Observation) (start : State)
    (labels : List Label) : List Observation :=
  (execute next start labels).filterMap observe

theorem observations_cons :
    observations next observe first (label :: labels) =
      (observe (taken next first label)).toList ++
        observations next observe (next first label) labels := by
  rw [observations, execute, ← taken]
  cases shown : observe (taken next first label) with
  | none => exact List.filterMap_cons_none shown
  | some seen => exact List.filterMap_cons_some shown

/-- A log to which every transition appends what it shows. -/
theorem log_eq_observations (log : State → List Observation)
    (appended : ∀ state label,
      log (next state label) = log state ++ (observe (taken next state label)).toList) :
    log (labels.foldl next first) = log first ++ observations next observe first labels := by
  induction labels generalizing first with
  | nil => exact (List.append_nil _).symm
  | cons label rest ih =>
      rw [List.foldl_cons, ih, appended, observations_cons, List.append_assoc]

/-- A register that every transition overwrites with what it shows. -/
theorem register_eq_getLast? (register : State → Option Observation)
    (overwritten : ∀ state label,
      register (next state label) = (observe (taken next state label)).or (register state)) :
    register (labels.foldl next first) =
      (observations next observe first labels).getLast?.or (register first) := by
  induction labels generalizing first with
  | nil => rfl
  | cons label rest ih =>
      rw [List.foldl_cons, ih, overwritten, observations_cons, List.getLast?_append,
        Option.or_assoc]
      cases observe (taken next first label) with
      | none => rfl
      | some seen => rfl

/-- No step shows whether the labels that are not kept have been left out before. -/
structure Unnoticed (next : State → Label → State)
    (observe : Transition State Label → Option Observation) (keep : Label → Bool)
    (Fine OtherFine : Transition State Label → Prop) (Related : State → State → Prop) : Prop where
  kept : ∀ first second label, Related first second → keep label = true →
    Fine (taken next first label) → OtherFine (taken next second label) →
      observe (taken next first label) = observe (taken next second label) ∧
        Related (next first label) (next second label)
  leftOut : ∀ first second label, Related first second → keep label = false →
    Fine (taken next first label) →
      observe (taken next first label) = none ∧ Related (next first label) second

/-- Leaving labels out keeps the observations and a related final state. -/
theorem Unnoticed.observations_eq (unnoticed : Unnoticed next observe keep Fine OtherFine Related)
    (labels : List Label) (related : Related first second)
    (fine : ∀ transition ∈ execute next first labels, Fine transition)
    (otherFine : ∀ transition ∈ execute next second (labels.filter keep), OtherFine transition) :
    observations next observe first labels =
        observations next observe second (labels.filter keep) ∧
      Related (labels.foldl next first) ((labels.filter keep).foldl next second) := by
  induction labels generalizing first second with
  | nil => exact ⟨rfl, related⟩
  | cons label rest ih =>
      rw [execute, List.forall_mem_cons] at fine
      by_cases isKept : keep label = true
      · rw [List.filter_cons_of_pos isKept] at otherFine ⊢
        rw [execute, List.forall_mem_cons] at otherFine
        rcases unnoticed.kept first second label related isKept fine.1 otherFine.1 with
          ⟨sameShown, nextRelated⟩
        rcases ih nextRelated fine.2 otherFine.2 with ⟨sameRest, finalRelated⟩
        rw [observations_cons, observations_cons, sameShown, sameRest]
        exact ⟨rfl, finalRelated⟩
      · rw [List.filter_cons_of_neg isKept] at otherFine ⊢
        rcases unnoticed.leftOut first second label related (Bool.not_eq_true _ ▸ isKept) fine.1
          with ⟨nothingShown, nextRelated⟩
        rcases ih nextRelated fine.2 otherFine with ⟨sameRest, finalRelated⟩
        rw [observations_cons, nothingShown, sameRest]
        exact ⟨rfl, finalRelated⟩

end Observation

end Foundation
