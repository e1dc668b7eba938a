import Mathlib.Algebra.Order.Ring.Int
import Mathlib.Tactic.Common

/-!
# Bounded integers

This file gives the fixed-width integers of a systems language as integers
carrying a proof that they lie in a closed range.  The checked operations
return no value exactly when the exact result leaves the range, and the
unchecked ones are obtained from them by whatever the host language does on
overflow.

All lemmas describe an operation through the exact integer it computes, so that
later arguments are carried out on integers and never on representations.
-/

namespace Foundation

/-- Integers of the closed range from `lower` to `upper`. -/
structure BoundedInt (lower upper : ℤ) where
  val : ℤ
  lower_le : lower ≤ val
  le_upper : val ≤ upper
deriving DecidableEq

namespace BoundedInt

variable {lower upper : ℤ}

@[ext]
theorem ext {left right : BoundedInt lower upper} (same : left.val = right.val) :
    left = right := by
  cases left
  cases right
  simpa using same

instance : LE (BoundedInt lower upper) := ⟨fun left right => left.val ≤ right.val⟩

instance : LT (BoundedInt lower upper) := ⟨fun left right => left.val < right.val⟩

instance (left right : BoundedInt lower upper) : Decidable (left ≤ right) :=
  inferInstanceAs (Decidable (left.val ≤ right.val))

instance (left right : BoundedInt lower upper) : Decidable (left < right) :=
  inferInstanceAs (Decidable (left.val < right.val))

theorem le_iff {left right : BoundedInt lower upper} : left ≤ right ↔ left.val ≤ right.val :=
  Iff.rfl

theorem lt_iff {left right : BoundedInt lower upper} : left < right ↔ left.val < right.val :=
  Iff.rfl

theorem eq_iff {left right : BoundedInt lower upper} : left = right ↔ left.val = right.val :=
  ⟨congrArg val, ext⟩

/-- The bounded integer with the given value, if the value is in range. -/
def ofInt? (value : ℤ) : Option (BoundedInt lower upper) :=
  if inRange : lower ≤ value ∧ value ≤ upper then
    some ⟨value, inRange.1, inRange.2⟩
  else
    none

/-- Addition, undefined when the sum is out of range. -/
def checkedAdd (left right : BoundedInt lower upper) : Option (BoundedInt lower upper) :=
  ofInt? (left.val + right.val)

/-- Subtraction, undefined when the difference is out of range. -/
def checkedSub (left right : BoundedInt lower upper) : Option (BoundedInt lower upper) :=
  ofInt? (left.val - right.val)

/-- Multiplication, undefined when the product is out of range. -/
def checkedMul (left right : BoundedInt lower upper) : Option (BoundedInt lower upper) :=
  ofInt? (left.val * right.val)

/-- Division truncated towards zero, undefined for a zero divisor or out of range. -/
def checkedDiv (left right : BoundedInt lower upper) : Option (BoundedInt lower upper) :=
  if right.val = 0 then none else ofInt? (left.val.tdiv right.val)

/-- The representative of a value modulo the size of the range, as a narrowing cast returns it. -/
def wrap (nonempty : lower ≤ upper) (value : ℤ) : BoundedInt lower upper :=
  have size : 0 < upper - lower + 1 := by omega
  ⟨lower + (value - lower) % (upper - lower + 1),
    by have := Int.emod_nonneg (value - lower) (Int.ne_of_gt size); omega,
    by have := Int.emod_lt_of_pos (value - lower) size; omega⟩

@[simp]
theorem ofInt?_eq_some_iff {value : ℤ} {result : BoundedInt lower upper} :
    ofInt? value = some result ↔ result.val = value := by
  have resultLower := result.lower_le
  have resultUpper := result.le_upper
  unfold ofInt?
  split
  · simp [eq_iff, eq_comm]
  · simp only [reduceCtorEq, false_iff]
    omega

theorem ofInt?_eq_none_iff {value : ℤ} :
    (ofInt? value : Option (BoundedInt lower upper)) = none ↔ value < lower ∨ upper < value := by
  unfold ofInt?
  split
  · simp only [reduceCtorEq, false_iff]
    omega
  · simp only [true_iff]
    omega

theorem checkedAdd_eq_none_iff {left right : BoundedInt lower upper} :
    left.checkedAdd right = none ↔
      left.val + right.val < lower ∨ upper < left.val + right.val :=
  ofInt?_eq_none_iff

theorem checkedMul_eq_none_iff {left right : BoundedInt lower upper} :
    left.checkedMul right = none ↔
      left.val * right.val < lower ∨ upper < left.val * right.val :=
  ofInt?_eq_none_iff

theorem checkedAdd_eq_some_iff {left right result : BoundedInt lower upper} :
    left.checkedAdd right = some result ↔ result.val = left.val + right.val :=
  ofInt?_eq_some_iff

theorem checkedSub_eq_some_iff {left right result : BoundedInt lower upper} :
    left.checkedSub right = some result ↔ result.val = left.val - right.val :=
  ofInt?_eq_some_iff

theorem checkedMul_eq_some_iff {left right result : BoundedInt lower upper} :
    left.checkedMul right = some result ↔ result.val = left.val * right.val :=
  ofInt?_eq_some_iff

theorem checkedDiv_eq_some_iff {left right result : BoundedInt lower upper} :
    left.checkedDiv right = some result ↔
      right.val ≠ 0 ∧ result.val = left.val.tdiv right.val := by
  unfold checkedDiv
  split <;> simp_all

/-- The exact sum, when it is in range, is what checked addition returns. -/
theorem exists_checkedAdd {left right : BoundedInt lower upper}
    (above : lower ≤ left.val + right.val) (below : left.val + right.val ≤ upper) :
    ∃ result, left.checkedAdd right = some result :=
  ⟨⟨left.val + right.val, above, below⟩, checkedAdd_eq_some_iff.mpr rfl⟩

/-- The exact difference, when it is in range, is what checked subtraction returns. -/
theorem exists_checkedSub {left right : BoundedInt lower upper}
    (above : lower ≤ left.val - right.val) (below : left.val - right.val ≤ upper) :
    ∃ result, left.checkedSub right = some result :=
  ⟨⟨left.val - right.val, above, below⟩, checkedSub_eq_some_iff.mpr rfl⟩

/-- A cast of a value that is already in range loses nothing. -/
theorem wrap_val_of_mem {nonempty : lower ≤ upper} {value : ℤ}
    (above : lower ≤ value) (below : value ≤ upper) :
    (wrap nonempty value).val = value := by
  simp only [wrap]
  rw [Int.emod_eq_of_lt (by omega) (by omega)]
  omega

end BoundedInt

end Foundation
