import StreamPay.Foundation.Run

/-!
# Labels that join

Two labels join into a third one if taking them one after another is allowed exactly
where the third one is, and leaves what that one leaves, up to an equivalence.  Lists
of labels then join, too: whoever takes a joined label may as well take its parts.
-/

namespace Foundation

universe u v

section Fusion

variable {State : Type u} {Label : Type v} {next : State → Label → State}
  {allowed : State → Label → Prop} {Same : State → State → Prop}
  {Joins : Label → Label → Label → Prop} {state : State} {parts : List Label} {whole : Label}

/-- Taking two labels that join is taking the joined one. -/
structure Fuses (next : State → Label → State) (allowed : State → Label → Prop)
    (Same : State → State → Prop) (Joins : Label → Label → Label → Prop) : Prop where
  equivalence : Equivalence Same
  allowed_iff : ∀ state first second whole, Joins first second whole →
    (allowed state first ∧ allowed (next state first) second ↔ allowed state whole)
  same : ∀ state first second whole, Joins first second whole → allowed state whole →
    Same (next (next state first) second) (next state whole)

/-- The labels of a list join one after another. -/
inductive JoinsAll (Joins : Label → Label → Label → Prop) : List Label → Label → Prop where
  | single (label : Label) : JoinsAll Joins [label] label
  | cons {first rest whole : Label} {parts : List Label} (later : JoinsAll Joins parts rest)
      (joins : Joins first rest whole) : JoinsAll Joins (first :: parts) whole

namespace Fuses

theorem allAllowed_iff (fuses : Fuses next allowed Same Joins)
    (joins : JoinsAll Joins parts whole) :
    AllAllowed next allowed state parts ↔ allowed state whole := by
  induction joins generalizing state with
  | single label => exact iff_of_eq (and_true _)
  | cons later joins ih => rw [AllAllowed, ih, fuses.allowed_iff _ _ _ _ joins]

/-- Where a joined label is allowed, its parts leave the same. -/
theorem same_foldl (fuses : Fuses next allowed Same Joins) (joins : JoinsAll Joins parts whole)
    (isAllowed : allowed state whole) : Same (parts.foldl next state) (next state whole) := by
  induction joins generalizing state with
  | single label => exact fuses.equivalence.refl _
  | cons later joins ih =>
      have bothAllowed := (fuses.allowed_iff _ _ _ _ joins).mpr isAllowed
      exact fuses.equivalence.trans (ih bothAllowed.2) (fuses.same _ _ _ _ joins isAllowed)

end Fuses

end Fusion

end Foundation
