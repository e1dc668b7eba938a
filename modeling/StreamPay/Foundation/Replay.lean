import StreamPay.Foundation.Run

/-!
# Replaying a log

An observer who sees only the log of a system can keep a view of it: every item
takes the view that it has to the next one.  Replaying is exact if every item fits
the view before it, and if the views describe the states of the system.  This file
states when that holds at the end of a run.
-/

namespace Foundation

universe u v w x

theorem eachFollows_append {Item : Type u} {Follows : List Item → Item → Prop}
    {first second : List Item} :
    EachFollows Follows (first ++ second) ↔
      EachFollows Follows first ∧
        EachFollows (fun earlier item => Follows (first ++ earlier) item) second := by
  induction second using List.reverseRecOn with
  | nil => simp [eachFollows_nil]
  | append_singleton second last ih =>
      rw [← List.append_assoc, eachFollows_snoc, eachFollows_snoc, ih, and_assoc]

section Replay

variable {View : Type u} {Item : Type v} {apply : View → Item → View} {Fits : View → Item → Prop}
  {view : View} {first second log : List Item}

/-- The view that a log leaves. -/
def replay (apply : View → Item → View) (view : View) (log : List Item) : View :=
  log.foldl apply view

/-- Every item of a log fits the view that the items before it leave. -/
def Replays (apply : View → Item → View) (Fits : View → Item → Prop) (view : View)
    (log : List Item) : Prop :=
  EachFollows (fun earlier item => Fits (replay apply view earlier) item) log

theorem replay_append :
    replay apply view (first ++ second) = replay apply (replay apply view first) second :=
  List.foldl_append

theorem replays_nil : Replays apply Fits view [] :=
  eachFollows_nil

theorem replays_append :
    Replays apply Fits view (first ++ second) ↔
      Replays apply Fits view first ∧ Replays apply Fits (replay apply view first) second := by
  simp only [Replays, eachFollows_append, replay_append]

theorem replays_singleton {item : Item} (fits : Fits view item) :
    Replays apply Fits view [item] := by
  rw [← List.nil_append [item]]
  exact eachFollows_snoc.mpr ⟨eachFollows_nil, fits⟩

/-- Items that fit every view and change none leave no trace. -/
theorem replays_of_ignored (fits : ∀ item ∈ log, Fits view item)
    (ignored : ∀ item ∈ log, apply view item = view) :
    Replays apply Fits view log ∧ replay apply view log = view := by
  induction log using List.reverseRecOn with
  | nil => exact ⟨replays_nil, rfl⟩
  | append_singleton log last ih =>
      rw [List.forall_mem_append, List.forall_mem_singleton] at fits ignored
      rcases ih fits.1 ignored.1 with ⟨replays, same⟩
      rw [replays_append, replay_append, same]
      exact ⟨⟨replays, replays_singleton fits.2⟩, ignored.2⟩

end Replay

end Foundation
