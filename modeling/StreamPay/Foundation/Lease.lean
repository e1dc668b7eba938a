import Mathlib.Data.Int.Notation
import Mathlib.Data.List.Chain
import StreamPay.Foundation.Run

/-!
# Leases renewed by use

A lease ends some time after it was last renewed.  A use renews it only when
little of it is left; a use that finds more leaves it as it is.  Hence a lease
lasts through its uses when each of them comes soon enough after the last
renewal, which may lie further back than the last use.
-/

namespace Foundation

/-- What a renewal grants, and how little has to be left for it. -/
structure Lease where
  threshold : ℤ
  extension : ℤ
  threshold_lt : threshold < extension

namespace Lease

variable (lease : Lease)

/-- The end of a lease after a use. -/
def renew (liveUntil now : ℤ) : ℤ :=
  if liveUntil - now ≤ lease.threshold then now + lease.extension else liveUntil

/-- The time of the last renewal, when the lease was granted at `first` and used since. -/
def lastRenewal (first : ℤ) (uses : List ℤ) : ℤ :=
  uses.foldl
    (fun renewed now =>
      if renewed + lease.extension - lease.threshold ≤ now then now else renewed)
    first

/-- Every use comes before the lease ends. -/
def InTime (first : ℤ) (uses : List ℤ) : Prop :=
  EachFollows (fun earlier now => now ≤ lease.lastRenewal first earlier + lease.extension) uses

variable {lease : Lease} {first liveUntil now : ℤ} {uses : List ℤ}

/-- Whether it was renewed or not, a used lease has more than the threshold left. -/
theorem lt_renew : now + lease.threshold < lease.renew liveUntil now := by
  have order := lease.threshold_lt
  unfold renew
  split
  · omega
  · omega

theorem renew_lastRenewal :
    lease.renew (lease.lastRenewal first uses + lease.extension) now =
      lease.lastRenewal first (uses ++ [now]) + lease.extension := by
  rw [lastRenewal, lastRenewal, List.foldl_append, List.foldl_cons, List.foldl_nil, renew]
  split
  · rw [if_pos (by omega)]
  · rw [if_neg (by omega)]

theorem inTime_snoc :
    lease.InTime first (uses ++ [now]) ↔
      lease.InTime first uses ∧ now ≤ lease.lastRenewal first uses + lease.extension :=
  eachFollows_snoc

/-- After the last use more than the threshold is left. -/
theorem lastUse_lt {use : ℤ} (isLast : use ∈ (first :: uses).getLast?) :
    use + lease.threshold < lease.lastRenewal first uses + lease.extension := by
  rcases uses.eq_nil_or_concat with rfl | ⟨earlier, last, rfl⟩
  · simp only [List.getLast?_singleton, Option.mem_some_iff] at isLast
    subst use
    have order := lease.threshold_lt
    show first + lease.threshold < first + lease.extension
    omega
  · rw [List.concat_eq_append] at isLast ⊢
    rw [← List.cons_append, List.getLast?_concat, Option.mem_some_iff] at isLast
    subst use
    rw [← renew_lastRenewal]
    exact lt_renew

/-- Uses that follow each other closely are in time, whichever of them renew the lease. -/
theorem inTime_of_gaps
    (gaps : (first :: uses).IsChain fun earlier later => later ≤ earlier + lease.threshold + 1) :
    lease.InTime first uses := by
  rintro earlier now later rfl
  rw [← List.cons_append, List.isChain_append] at gaps
  have lastExists : ∃ use, use ∈ (first :: earlier).getLast? := by
    rw [List.getLast?_cons]
    exact ⟨_, rfl⟩
  rcases lastExists with ⟨use, isLast⟩
  have close : now ≤ use + lease.threshold + 1 := gaps.2.2 use isLast now rfl
  have left : use + lease.threshold < lease.lastRenewal first earlier + lease.extension :=
    lastUse_lt isLast
  omega

end Lease

end Foundation
