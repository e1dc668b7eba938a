import Mathlib.Data.Finmap
import Mathlib.Algebra.BigOperators.Group.Multiset.Basic
import Mathlib.Algebra.Order.Group.Int
import Mathlib.Algebra.Order.BigOperators.Group.Multiset
import Mathlib.Tactic.Abel

/-!
# Totals over finite maps

This file defines the sum of a weight over all values stored in a finite map
and computes how it changes when one entry is written.  Every bookkeeping
argument about a shared aggregate is an instance of these two updates: writing
a fresh key adds the weight of the new value, and overwriting a key replaces
the weight of the old value by that of the new one.
-/

namespace Foundation

universe u v w

namespace FiniteMap

variable {Key : Type u} {Value : Type v} {Amount : Type w}

/-- The sum of `weight` over all values stored in `map`. -/
def total [AddCommMonoid Amount] (weight : Value → Amount) (map : Finmap fun _ : Key => Value) :
    Amount :=
  (map.entries.map fun entry => weight entry.2).sum

@[simp]
theorem total_empty [AddCommMonoid Amount] (weight : Value → Amount) :
    total weight (∅ : Finmap fun _ : Key => Value) = 0 :=
  rfl

variable [DecidableEq Key]

theorem total_insert_of_notMem [AddCommMonoid Amount] (weight : Value → Amount)
    {map : Finmap fun _ : Key => Value} {key : Key} (fresh : key ∉ map) (value : Value) :
    total weight (map.insert key value) = weight value + total weight map := by
  simp [total, Finmap.entries_insert_of_notMem fresh]

/-- Overwriting a key with a value is writing it after erasing the key. -/
theorem insert_erase (map : Finmap fun _ : Key => Value) (key : Key) (value : Value) :
    (map.erase key).insert key value = map.insert key value := by
  apply Finmap.ext_lookup
  intro other
  by_cases same : other = key
  · subst other
    simp
  · simp [Finmap.lookup_insert_of_ne _ same, Finmap.lookup_erase_ne same]

/-- Writing the value that is already stored changes nothing. -/
theorem insert_of_lookup {map : Finmap fun _ : Key => Value} {key : Key} {value : Value}
    (stored : map.lookup key = some value) : map.insert key value = map := by
  apply Finmap.ext_lookup
  intro other
  by_cases same : other = key
  · subst other
    simp [stored]
  · simp [Finmap.lookup_insert_of_ne _ same]

/-- Overwriting a stored value replaces the entry that is written and keeps the others. -/
theorem exists_lookup_insert {map : Finmap fun _ : Key => Value} {key other : Key}
    {old new value : Value} {Changed : Value → Prop} (oldStored : map.lookup other = some old)
    (stored : map.lookup key = some value) (written : other = key → old = value → Changed new)
    (elsewhere : other ≠ key → Changed value) :
    ∃ changed, (map.insert other new).lookup key = some changed ∧ Changed changed := by
  by_cases same : other = key
  · subst other
    rw [oldStored, Option.some.injEq] at stored
    exact ⟨new, Finmap.lookup_insert _, written rfl stored⟩
  · refine ⟨value, ?_, elsewhere same⟩
    rw [Finmap.lookup_insert_of_ne _ (Ne.symm same)]
    exact stored

/-- The total splits into the weight stored at a key and the rest. -/
theorem total_eq_add_erase [AddCommMonoid Amount] (weight : Value → Amount)
    {map : Finmap fun _ : Key => Value} {key : Key} {value : Value}
    (stored : map.lookup key = some value) :
    total weight map = weight value + total weight (map.erase key) := by
  rw [← total_insert_of_notMem weight Finmap.notMem_erase_self value, insert_erase,
    insert_of_lookup stored]

theorem total_insert_of_lookup [AddCommGroup Amount] (weight : Value → Amount)
    {map : Finmap fun _ : Key => Value} {key : Key} {old : Value}
    (stored : map.lookup key = some old) (new : Value) :
    total weight (map.insert key new) = total weight map - weight old + weight new := by
  rw [← insert_erase, total_insert_of_notMem weight Finmap.notMem_erase_self new,
    total_eq_add_erase weight stored]
  abel

theorem total_nonneg {weight : Value → ℤ} {map : Finmap fun _ : Key => Value}
    (nonneg : ∀ key value, map.lookup key = some value → 0 ≤ weight value) :
    0 ≤ total weight map := by
  apply Multiset.sum_nonneg
  intro amount amountMem
  simp only [Multiset.mem_map] at amountMem
  rcases amountMem with ⟨entry, entryMem, rfl⟩
  exact nonneg entry.1 entry.2 (Finmap.lookup_eq_some_iff.mpr entryMem)

theorem total_eq_zero [AddCommMonoid Amount] {weight : Value → Amount}
    {map : Finmap fun _ : Key => Value}
    (weightless : ∀ key value, map.lookup key = some value → weight value = 0) :
    total weight map = 0 := by
  apply Multiset.sum_eq_zero
  intro amount amountMem
  simp only [Multiset.mem_map] at amountMem
  rcases amountMem with ⟨entry, entryMem, rfl⟩
  exact weightless entry.1 entry.2 (Finmap.lookup_eq_some_iff.mpr entryMem)

/-- No stored value weighs more than the total when all weights are nonnegative. -/
theorem weight_le_total {weight : Value → ℤ} {map : Finmap fun _ : Key => Value}
    (nonneg : ∀ key value, map.lookup key = some value → 0 ≤ weight value)
    {key : Key} {value : Value} (stored : map.lookup key = some value) :
    weight value ≤ total weight map := by
  have rest : 0 ≤ total weight (map.erase key) := by
    apply total_nonneg
    intro other otherValue found
    by_cases same : other = key
    · subst other
      simp at found
    · exact nonneg other otherValue (by rwa [Finmap.lookup_erase_ne same] at found)
  rw [total_eq_add_erase weight stored]
  omega

end FiniteMap

end Foundation
