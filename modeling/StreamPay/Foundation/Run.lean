import Mathlib.Algebra.BigOperators.Group.List.Basic
import Mathlib.Data.List.Induction
import Mathlib.Tactic.Abel
import Mathlib.Tactic.Common

/-!
# Runs of labelled transition systems

A run is a finite chain of labelled steps together with the list of its
transitions.  Each transition records the states around the step, so properties
of histories are properties of this list.

The rules below are the only inductions over runs that later arguments need:
invariants that hold as long as every step meets a condition, and simulation by
another system.  Properties of logs that only grow are checked where an item is
appended.  Deterministic systems execute lists of labels, and what two orders of
the same labels have in common follows from what the single transitions have.
-/

namespace Foundation

universe u v w x

/-- One step of a run: its label and the states around it. -/
structure Transition (State : Type u) (Label : Type v) where
  source : State
  label : Label
  target : State

/-- Chains of steps from `start`, with the list of the transitions taken. -/
inductive Run {State : Type u} {Label : Type v} (step : State → Label → State → Prop)
    (start : State) : List (Transition State Label) → State → Prop where
  | nil : Run step start [] start
  | snoc {trace : List (Transition State Label)} {source target : State} {label : Label}
      (run : Run step start trace source) (last : step source label target) :
      Run step start (trace ++ [⟨source, label, target⟩]) target

namespace Run

variable {State : Type u} {Label : Type v} {step : State → Label → State → Prop}
  {start middle final : State} {trace suffix : List (Transition State Label)}

theorem single {label : Label} (first : step start label final) :
    Run step start [⟨start, label, final⟩] final :=
  .snoc .nil first

theorem append (run : Run step start trace middle) (rest : Run step middle suffix final) :
    Run step start (trace ++ suffix) final := by
  induction rest with
  | nil => simpa using run
  | snoc _ last ih =>
      rw [← List.append_assoc]
      exact .snoc ih last

theorem cons {label : Label} (first : step start label middle)
    (rest : Run step middle trace final) :
    Run step start (⟨start, label, middle⟩ :: trace) final :=
  (single first).append rest

/-- A run whose trace is a concatenation passes through the state between the two parts. -/
theorem of_append (run : Run step start (trace ++ suffix) final) :
    ∃ middle, Run step start trace middle ∧ Run step middle suffix final := by
  induction suffix using List.reverseRecOn generalizing final with
  | nil => exact ⟨final, by simpa using run, .nil⟩
  | append_singleton suffix last ih =>
      rw [← List.append_assoc] at run
      generalize whole : trace ++ suffix ++ [last] = steps at run
      cases run with
      | nil => simp at whole
      | snoc earlier lastStep =>
          rcases List.append_inj' whole rfl with ⟨rfl, lastEq⟩
          simp only [List.cons.injEq, and_true] at lastEq
          subst last
          rcases ih earlier with ⟨middle, before, after⟩
          exact ⟨middle, before, .snoc after lastStep⟩

/-- Every transition of a run is a step, with runs leading to it and from it. -/
theorem of_cons_append {before after : List (Transition State Label)}
    {transition : Transition State Label}
    (run : Run step start (before ++ transition :: after) final) :
    Run step start before transition.source ∧
      step transition.source transition.label transition.target ∧
        Run step transition.target after final := by
  rw [List.append_cons] at run
  rcases run.of_append with ⟨middle, reaching, leaving⟩
  generalize whole : before ++ [transition] = steps at reaching
  cases reaching with
  | nil => simp at whole
  | snoc earlier last =>
      rcases List.append_inj' whole rfl with ⟨rfl, lastEq⟩
      simp only [List.cons.injEq, and_true] at lastEq
      subst transition
      exact ⟨earlier, last, leaving⟩

theorem of_mem {transition : Transition State Label}
    (run : Run step start trace final) (transitionMem : transition ∈ trace) :
    ∃ before after, trace = before ++ transition :: after ∧
      Run step start before transition.source ∧
        step transition.source transition.label transition.target ∧
          Run step transition.target after final := by
  rcases List.append_of_mem transitionMem with ⟨before, after, rfl⟩
  exact ⟨before, after, rfl, run.of_cons_append⟩

/-- Invariants of runs all of whose steps meet a condition. -/
theorem invariant_of_forall {Invariant : State → Prop}
    (Condition : Transition State Label → Prop)
    (run : Run step start trace final) (initially : Invariant start)
    (conditions : ∀ transition ∈ trace, Condition transition)
    (preserved : ∀ source label target, Invariant source → step source label target →
      Condition ⟨source, label, target⟩ → Invariant target) :
    Invariant final := by
  induction run with
  | nil => exact initially
  | snoc _ last ih =>
      refine preserved _ _ _ (ih ?_) last (conditions _ (by simp))
      intro transition transitionMem
      exact conditions transition (by simp [transitionMem])

/--
Forward simulation: when every step of a system is matched by a run of another
one, so is every run.  The matching steps meet a condition whenever the matched
ones do.
-/
theorem simulate {Abstract : Type w} {Move : Type x}
    {move : Abstract → Move → Abstract → Prop} {Related : State → Abstract → Prop}
    (Condition : Transition State Label → Prop)
    (AbstractCondition : Transition Abstract Move → Prop)
    (run : Run step start trace final)
    {abstractStart : Abstract} (initially : Related start abstractStart)
    (conditions : ∀ transition ∈ trace, Condition transition)
    (matched : ∀ source label target abstract, Related source abstract →
      step source label target → Condition ⟨source, label, target⟩ →
        ∃ moves next, Run move abstract moves next ∧ Related target next ∧
          ∀ taken ∈ moves, AbstractCondition taken) :
    ∃ moves abstractFinal, Run move abstractStart moves abstractFinal ∧
      Related final abstractFinal ∧ ∀ taken ∈ moves, AbstractCondition taken := by
  induction run with
  | nil => exact ⟨[], abstractStart, .nil, initially, by simp⟩
  | snoc _ last ih =>
      have earlierConditions := fun transition transitionMem =>
        conditions transition (List.mem_append_left _ transitionMem)
      rcases ih earlierConditions with ⟨moves, middle, matchedRun, related, allowed⟩
      rcases matched _ _ _ middle related last (conditions _ (by simp)) with
        ⟨lastMoves, next, lastRun, nextRelated, lastAllowed⟩
      refine ⟨moves ++ lastMoves, next, matchedRun.append lastRun, nextRelated, ?_⟩
      intro taken takenMem
      rcases List.mem_append.mp takenMem with takenMem | takenMem
      · exact allowed taken takenMem
      · exact lastAllowed taken takenMem

end Run

section Logs

variable {Item : Type u}

/-- Every item of a log follows from the items before it. -/
def EachFollows (Follows : List Item → Item → Prop) (log : List Item) : Prop :=
  ∀ earlier item later, log = earlier ++ item :: later → Follows earlier item

variable {Follows : List Item → Item → Prop} {log : List Item} {last : Item}

theorem eachFollows_nil : EachFollows Follows [] := by
  intro earlier item later empty
  simp at empty

theorem eachFollows_snoc :
    EachFollows Follows (log ++ [last]) ↔ EachFollows Follows log ∧ Follows log last := by
  constructor
  · intro follows
    refine ⟨?_, follows log last [] rfl⟩
    rintro earlier item later rfl
    exact follows earlier item (later ++ [last]) (by simp)
  · rintro ⟨follows, lastFollows⟩ earlier item later whole
    rcases later.eq_nil_or_concat with rfl | ⟨between, final, rfl⟩
    · rcases List.append_inj' whole rfl with ⟨rfl, sameLast⟩
      simp only [List.cons.injEq, and_true] at sameLast
      exact sameLast ▸ lastFollows
    · rw [List.concat_eq_append, ← List.cons_append, ← List.append_assoc] at whole
      rcases List.append_inj' whole rfl with ⟨logEq, _⟩
      exact follows earlier item between logEq

variable {Value : Type v} {read : Item → Option Value} {value : Value}

theorem filterMap_snoc_of_some (found : read last = some value) :
    (log ++ [last]).filterMap read = log.filterMap read ++ [value] := by
  rw [List.filterMap_append, List.filterMap_cons_some found, List.filterMap_nil]

theorem filterMap_snoc_of_none (skipped : read last = none) :
    (log ++ [last]).filterMap read = log.filterMap read := by
  rw [List.filterMap_append, List.filterMap_cons_none skipped, List.filterMap_nil,
    List.append_nil]

end Logs

section Deterministic

variable {State : Type u} {Label : Type v}

/-- The transitions taken when the labels are executed one after another. -/
def execute (next : State → Label → State) (start : State) : List Label →
    List (Transition State Label)
  | [] => []
  | label :: labels => ⟨start, label, next start label⟩ :: execute next (next start label) labels

/-- Every label is allowed in the state in which it is executed. -/
def AllAllowed (next : State → Label → State) (allowed : State → Label → Prop)
    (start : State) : List Label → Prop
  | [] => True
  | label :: labels => allowed start label ∧ AllAllowed next allowed (next start label) labels

/-- Executing allowed labels is a run. -/
theorem run_execute {next : State → Label → State} {allowed : State → Label → Prop}
    {start : State} {labels : List Label} (ok : AllAllowed next allowed start labels) :
    Run (fun source label target => allowed source label ∧ target = next source label) start
      (execute next start labels) (labels.foldl next start) := by
  induction labels generalizing start with
  | nil => exact .nil
  | cons label labels ih => exact .cons ⟨ok.1, rfl⟩ (ih ok.2)

section Execution

variable {next : State → Label → State} {allowed : State → Label → Prop}

instance decidableAllAllowed [∀ state label, Decidable (allowed state label)] :
    ∀ start labels, Decidable (AllAllowed next allowed start labels)
  | _, [] => .isTrue trivial
  | start, label :: labels =>
      have := decidableAllAllowed (next start label) labels
      inferInstanceAs (Decidable (allowed start label ∧ AllAllowed next allowed _ labels))

theorem execute_append (start : State) (first second : List Label) :
    execute next start (first ++ second) =
      execute next start first ++ execute next (first.foldl next start) second := by
  induction first generalizing start with
  | nil => rfl
  | cons label labels ih => simp [execute, ih]

theorem execute_map_label (next : State → Label → State) (start : State)
    (labels : List Label) :
    (execute next start labels).map Transition.label = labels := by
  induction labels generalizing start with
  | nil => rfl
  | cons label labels ih => rw [execute, List.map_cons, ih]

/-- A transition of an execution starts where the labels before its own lead. -/
theorem exists_labels_of_mem_execute {start : State} {labels : List Label}
    {transition : Transition State Label} (transitionMem : transition ∈ execute next start labels) :
    ∃ earlier later, labels = earlier ++ transition.label :: later ∧
      transition.source = earlier.foldl next start ∧
        transition.target = next transition.source transition.label := by
  induction labels generalizing start with
  | nil => simp [execute] at transitionMem
  | cons label labels ih =>
      rcases List.mem_cons.mp transitionMem with rfl | transitionMem
      · exact ⟨[], labels, rfl, rfl, rfl⟩
      · rcases ih transitionMem with ⟨earlier, later, labelsEq, sourceEq, targetEq⟩
        refine ⟨label :: earlier, later, ?_, sourceEq, targetEq⟩
        rw [labelsEq, List.cons_append]

/-- A measure changes over an execution by the sum of its changes in the transitions. -/
theorem measure_foldl {Amount : Type w} [AddCommGroup Amount] (measure : State → Amount)
    (start : State) (labels : List Label) :
    measure (labels.foldl next start) =
      measure start +
        ((execute next start labels).map fun transition =>
          measure transition.target - measure transition.source).sum := by
  induction labels generalizing start with
  | nil => simp [execute]
  | cons label labels ih =>
      rw [List.foldl_cons, ih, execute, List.map_cons, List.sum_cons]
      abel

end Execution

section Reordered

variable {Value : Type w} {trace other : List (Transition State Label)}
  {value : Transition State Label → Value}

/-- Equal values of equally labelled transitions are permuted like the labels. -/
theorem perm_map_of_agree
    (perm : (trace.map Transition.label).Perm (other.map Transition.label))
    (agree : ∀ first ∈ trace, ∀ second ∈ other, first.label = second.label →
      value first = value second) :
    (trace.map value).Perm (other.map value) := by
  induction trace generalizing other with
  | nil =>
      have empty : other = [] := by simpa using perm.symm.eq_nil
      rw [empty]
  | cons first trace ih =>
      have labelMem : first.label ∈ other.map Transition.label :=
        perm.mem_iff.mp List.mem_cons_self
      rcases List.mem_map.mp labelMem with ⟨second, secondMem, sameLabel⟩
      rcases List.append_of_mem secondMem with ⟨earlier, later, rfl⟩
      have moved : (earlier ++ second :: later).Perm (second :: (earlier ++ later)) :=
        List.perm_middle
      have restPerm : (trace.map Transition.label).Perm
          ((earlier ++ later).map Transition.label) := by
        have whole := perm.trans (moved.map Transition.label)
        rw [List.map_cons, List.map_cons, sameLabel] at whole
        exact whole.cons_inv
      have sameValue : value first = value second :=
        agree first List.mem_cons_self second secondMem sameLabel.symm
      have restAgree : ∀ one ∈ trace, ∀ two ∈ earlier ++ later, one.label = two.label →
          value one = value two := by
        intro one oneMem two twoMem
        exact agree one (List.mem_cons_of_mem _ oneMem) two
          (moved.mem_iff.mpr (List.mem_cons_of_mem _ twoMem))
      rw [List.map_cons, sameValue]
      exact ((ih restPerm restAgree).cons _).trans (moved.map value).symm

/-- Executions of permuted labels end with the same measure if equal labels change it equally. -/
theorem measure_foldl_perm {Amount : Type w} [AddCommGroup Amount] (measure : State → Amount)
    {next : State → Label → State} {start : State} {labels permuted : List Label}
    (perm : labels.Perm permuted)
    (agree : ∀ first ∈ execute next start labels, ∀ second ∈ execute next start permuted,
      first.label = second.label →
        measure first.target - measure first.source =
          measure second.target - measure second.source) :
    measure (labels.foldl next start) = measure (permuted.foldl next start) := by
  have permLabels : ((execute next start labels).map Transition.label).Perm
      ((execute next start permuted).map Transition.label) := by
    rwa [execute_map_label, execute_map_label]
  rw [measure_foldl measure start labels, measure_foldl measure start permuted,
    (perm_map_of_agree permLabels agree).sum_eq]

end Reordered

end Deterministic

end Foundation
