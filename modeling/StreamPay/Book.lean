import StreamPay.Effects.Streams
import StreamPay.Foundation.Run

/-!
# The book of streams

This file says what the contract is for, without authorization, storage, events
or a token: it keeps a book in which streams are opened under consecutive ids,
raised, prolonged, paid out and closed as time passes.

A book carries the proofs that its records are well formed and that the amount
paid on every stream agrees with its record, so a book that violates them
cannot be built.  Each operation rebuilds these proofs once.
-/

namespace StreamPay

open Foundation

variable {Address : Type}

structure Stream.WellFormed (now : U64) (stream : Stream Address) : Prop where
  totalPos : 1 ≤ stream.total.val
  withdrawnNonneg : 0 ≤ stream.withdrawn.val
  withdrawnLe : stream.withdrawn.val ≤ stream.total.val
  window : stream.start.val < stream.end.val
  activeOwes : stream.status = .active → stream.withdrawn.val < stream.total.val
  completedPaid :
    stream.status = .completed →
      stream.withdrawn.val = stream.total.val ∧ stream.end.val ≤ now.val

/-- The record of a stream that may be opened. -/
structure Stream.Fresh (now : U64) (stream : Stream Address) : Prop where
  totalPos : 1 ≤ stream.total.val
  withdrawnZero : stream.withdrawn.val = 0
  window : stream.start.val < stream.end.val
  endsLater : now.val < stream.end.val
  active : stream.status = .active

def Stream.raised (stream : Stream Address) (newTotal : I128) : Stream Address :=
  { stream with total := newTotal }

def Stream.prolonged (stream : Stream Address) (newEnd : U64) : Stream Address :=
  { stream with «end» := newEnd }

section WellFormed

variable {now later : U64} {stream : Stream Address}

theorem Stream.Fresh.wellFormed (fresh : stream.Fresh now) : stream.WellFormed now := by
  have totalPos := fresh.totalPos
  have withdrawnZero := fresh.withdrawnZero
  refine ⟨totalPos, by omega, by omega, fresh.window, fun _ => by omega, ?_⟩
  intro completed
  rw [fresh.active] at completed
  contradiction

theorem Stream.WellFormed.mono (wellFormed : stream.WellFormed now)
    (order : now.val ≤ later.val) : stream.WellFormed later := by
  refine ⟨wellFormed.totalPos, wellFormed.withdrawnNonneg, wellFormed.withdrawnLe,
    wellFormed.window, wellFormed.activeOwes, ?_⟩
  intro completed
  rcases wellFormed.completedPaid completed with ⟨paid, ended⟩
  exact ⟨paid, ended.trans order⟩

theorem Stream.WellFormed.scheduled_nonneg (wellFormed : stream.WellFormed now) :
    0 ≤ stream.scheduled later := by
  have totalPos := wellFormed.totalPos
  exact StreamPay.scheduled_nonneg (by omega)

theorem Stream.WellFormed.scheduled_le (wellFormed : stream.WellFormed now) :
    stream.scheduled later ≤ stream.total.val :=
  scheduled_le_total wellFormed.totalPos wellFormed.window

theorem Stream.WellFormed.raised (wellFormed : stream.WellFormed now)
    (active : stream.status = .active) {newTotal : I128}
    (more : stream.total.val ≤ newTotal.val) : (stream.raised newTotal).WellFormed now := by
  have totalPos := wellFormed.totalPos
  have owes := wellFormed.activeOwes active
  refine ⟨?_, wellFormed.withdrawnNonneg, ?_, wellFormed.window, ?_, ?_⟩
  · show 1 ≤ newTotal.val
    omega
  · show stream.withdrawn.val ≤ newTotal.val
    omega
  · intro _
    show stream.withdrawn.val < newTotal.val
    omega
  · intro completed
    have stillActive : (stream.raised newTotal).status = .active := active
    rw [stillActive] at completed
    contradiction

theorem Stream.WellFormed.prolonged (wellFormed : stream.WellFormed now)
    (active : stream.status = .active) {newEnd : U64}
    (order : stream.end.val ≤ newEnd.val) : (stream.prolonged newEnd).WellFormed now := by
  refine ⟨wellFormed.totalPos, wellFormed.withdrawnNonneg, wellFormed.withdrawnLe,
    wellFormed.window.trans_le order, wellFormed.activeOwes, ?_⟩
  intro completed
  have stillActive : (stream.prolonged newEnd).status = .active := active
  rw [stillActive] at completed
  contradiction

/-- Paying out the whole total is possible only when the window has closed. -/
theorem Stream.WellFormed.paidOut (wellFormed : stream.WellFormed now)
    (active : stream.status = .active) {withdrawn : I128}
    (onSchedule : withdrawn.val = stream.scheduled now) :
    (stream.paidOut withdrawn).WellFormed now := by
  have totalPos := wellFormed.totalPos
  have scheduledNonneg : 0 ≤ stream.scheduled now := wellFormed.scheduled_nonneg
  have scheduledLe : stream.scheduled now ≤ stream.total.val := wellFormed.scheduled_le
  refine ⟨totalPos, ?_, ?_, wellFormed.window, ?_, ?_⟩
  · show 0 ≤ withdrawn.val
    omega
  · show withdrawn.val ≤ stream.total.val
    omega
  · intro stillActive
    by_contra notOwing
    have reached : withdrawn ≥ stream.total := not_lt.mp notOwing
    simp only [Stream.paidOut, if_pos reached, reduceCtorEq] at stillActive
  · intro completed
    have reached : stream.total.val ≤ withdrawn.val := by
      by_contra below
      have notReached : ¬withdrawn ≥ stream.total := below
      simp only [Stream.paidOut, if_neg notReached, active, reduceCtorEq] at completed
    refine ⟨?_, ?_⟩
    · show withdrawn.val = stream.total.val
      omega
    · by_contra beforeEnd
      have running : stream.scheduled now < stream.total.val :=
        scheduled_lt_total totalPos (not_le.mp beforeEnd)
      omega

theorem Stream.WellFormed.closed (wellFormed : stream.WellFormed now) {vested : I128}
    (onSchedule : vested.val = stream.scheduled now) : (stream.closed vested).WellFormed now := by
  have scheduledNonneg : 0 ≤ stream.scheduled now := wellFormed.scheduled_nonneg
  have scheduledLe : stream.scheduled now ≤ stream.total.val := wellFormed.scheduled_le
  refine ⟨wellFormed.totalPos, ?_, ?_, wellFormed.window, ?_, ?_⟩
  · show 0 ≤ vested.val
    omega
  · show vested.val ≤ stream.total.val
    omega
  · intro active
    exact absurd active (by simp [Stream.closed])
  · intro completed
    exact absurd completed (by simp [Stream.closed])

end WellFormed

/-- The books that the contract can keep; `paid` is what each recipient has received. -/
structure Book (Address : Type) where
  now : U64
  streams : Finmap fun _ : U64 => Stream Address
  nextId : U64
  paid : U64 → ℤ
  stored_iff : ∀ id, id ∈ streams ↔ id.val < nextId.val
  wellFormed : ∀ id stream, streams.lookup id = some stream → stream.WellFormed now
  paid_of_notMem : ∀ id, id ∉ streams → paid id = 0
  withdrawn_le_paid :
    ∀ id stream, streams.lookup id = some stream → stream.withdrawn.val ≤ paid id
  paid_of_open :
    ∀ id stream, streams.lookup id = some stream → stream.status ≠ .cancelled →
      paid id = stream.withdrawn.val

namespace Book

def empty (now : U64) : Book Address where
  now := now
  streams := ∅
  nextId := 0
  paid := fun _ => 0
  stored_iff id := by
    have nonneg := id.lower_le
    simp only [Finmap.notMem_empty, u64_zero_val, false_iff]
    omega
  wellFormed id stream stored := by simp at stored
  paid_of_notMem _ _ := rfl
  withdrawn_le_paid id stream stored := by simp at stored
  paid_of_open id stream stored := by simp at stored

def tick (book : Book Address) (now : U64) (order : book.now.val ≤ now.val) : Book Address where
  now := now
  streams := book.streams
  nextId := book.nextId
  paid := book.paid
  stored_iff := book.stored_iff
  wellFormed id stream stored := (book.wellFormed id stream stored).mono order
  paid_of_notMem := book.paid_of_notMem
  withdrawn_le_paid := book.withdrawn_le_paid
  paid_of_open := book.paid_of_open

theorem notMem_nextId (book : Book Address) : book.nextId ∉ book.streams := by
  rw [book.stored_iff]
  exact lt_irrefl _

theorem lookup_nextId (book : Book Address) : book.streams.lookup book.nextId = none :=
  Finmap.lookup_eq_none.mpr book.notMem_nextId

/-- Opens a stream under the next id. -/
def openStream (book : Book Address) (stream : Stream Address) (fresh : stream.Fresh book.now)
    (next : U64) (nextEq : next.val = book.nextId.val + 1) : Book Address where
  now := book.now
  streams := book.streams.insert book.nextId stream
  nextId := next
  paid := book.paid
  stored_iff id := by
    rw [Finmap.mem_insert, book.stored_iff, BoundedInt.eq_iff, nextEq]
    omega
  wellFormed id other stored := by
    by_cases same : id = book.nextId
    · subst id
      rw [Finmap.lookup_insert, Option.some.injEq] at stored
      subst other
      exact fresh.wellFormed
    · rw [Finmap.lookup_insert_of_ne _ same] at stored
      exact book.wellFormed id other stored
  paid_of_notMem id notMem := by
    rw [Finmap.mem_insert, not_or] at notMem
    exact book.paid_of_notMem id notMem.2
  withdrawn_le_paid id other stored := by
    by_cases same : id = book.nextId
    · subst id
      rw [Finmap.lookup_insert, Option.some.injEq] at stored
      subst other
      rw [fresh.withdrawnZero, book.paid_of_notMem _ book.notMem_nextId]
    · rw [Finmap.lookup_insert_of_ne _ same] at stored
      exact book.withdrawn_le_paid id other stored
  paid_of_open id other stored stillOpen := by
    by_cases same : id = book.nextId
    · subst id
      rw [Finmap.lookup_insert, Option.some.injEq] at stored
      subst other
      rw [fresh.withdrawnZero, book.paid_of_notMem _ book.notMem_nextId]
    · rw [Finmap.lookup_insert_of_ne _ same] at stored
      exact book.paid_of_open id other stored stillOpen

/-- Replaces the record under `id` while paying `amount` to its recipient. -/
def rewrite (book : Book Address) (id : U64) (new : Stream Address) (amount : ℤ)
    (mem : id ∈ book.streams) (wellFormed : new.WellFormed book.now)
    (covered : new.withdrawn.val ≤ book.paid id + amount)
    (settled : new.status ≠ .cancelled → book.paid id + amount = new.withdrawn.val) :
    Book Address where
  now := book.now
  streams := book.streams.insert id new
  nextId := book.nextId
  paid := Function.update book.paid id (book.paid id + amount)
  stored_iff other := by
    rw [Finmap.mem_insert, book.stored_iff, or_iff_right_of_imp]
    rintro rfl
    exact (book.stored_iff other).mp mem
  wellFormed other stream stored := by
    by_cases same : other = id
    · subst other
      rw [Finmap.lookup_insert, Option.some.injEq] at stored
      subst stream
      exact wellFormed
    · rw [Finmap.lookup_insert_of_ne _ same] at stored
      exact book.wellFormed other stream stored
  paid_of_notMem other notMem := by
    rw [Finmap.mem_insert, not_or] at notMem
    rw [Function.update_of_ne notMem.1]
    exact book.paid_of_notMem other notMem.2
  withdrawn_le_paid other stream stored := by
    by_cases same : other = id
    · subst other
      rw [Finmap.lookup_insert, Option.some.injEq] at stored
      subst stream
      rw [Function.update_self]
      exact covered
    · rw [Finmap.lookup_insert_of_ne _ same] at stored
      rw [Function.update_of_ne same]
      exact book.withdrawn_le_paid other stream stored
  paid_of_open other stream stored stillOpen := by
    by_cases same : other = id
    · subst other
      rw [Finmap.lookup_insert, Option.some.injEq] at stored
      subst stream
      rw [Function.update_self]
      exact settled stillOpen
    · rw [Finmap.lookup_insert_of_ne _ same] at stored
      rw [Function.update_of_ne same]
      exact book.paid_of_open other stream stored stillOpen

section Operations

variable (book : Book Address) {id : U64} {stream : Stream Address}
  (stored : book.streams.lookup id = some stream)

include stored

theorem mem_of_lookup : id ∈ book.streams :=
  Finmap.mem_of_lookup_eq_some stored

def raise (active : stream.status = .active) (newTotal : I128)
    (more : stream.total.val ≤ newTotal.val) : Book Address :=
  book.rewrite id (stream.raised newTotal) 0 (book.mem_of_lookup stored)
    ((book.wellFormed id stream stored).raised active more)
    (by rw [add_zero]; exact book.withdrawn_le_paid id stream stored)
    (fun stillOpen => by rw [add_zero]; exact book.paid_of_open id stream stored stillOpen)

def prolong (active : stream.status = .active) (newEnd : U64)
    (order : stream.end.val ≤ newEnd.val) : Book Address :=
  book.rewrite id (stream.prolonged newEnd) 0 (book.mem_of_lookup stored)
    ((book.wellFormed id stream stored).prolonged active order)
    (by rw [add_zero]; exact book.withdrawn_le_paid id stream stored)
    (fun stillOpen => by rw [add_zero]; exact book.paid_of_open id stream stored stillOpen)

theorem paid_of_active (active : stream.status = .active) :
    book.paid id = stream.withdrawn.val := by
  apply book.paid_of_open id stream stored
  rw [active]
  decide

/-- Pays the recipient up to what the schedule has released. -/
def pay (active : stream.status = .active) (withdrawn : I128)
    (onSchedule : withdrawn.val = stream.scheduled book.now) : Book Address :=
  book.rewrite id (stream.paidOut withdrawn) (withdrawn.val - stream.withdrawn.val)
    (book.mem_of_lookup stored) ((book.wellFormed id stream stored).paidOut active onSchedule)
    (by
      rw [book.paid_of_active stored active]
      show withdrawn.val ≤ stream.withdrawn.val + (withdrawn.val - stream.withdrawn.val)
      omega)
    (fun _ => by
      rw [book.paid_of_active stored active]
      show stream.withdrawn.val + (withdrawn.val - stream.withdrawn.val) = withdrawn.val
      omega)

/-- Closes a stream, paying the recipient what the schedule has released and is still owed. -/
def close (vested : I128) (onSchedule : vested.val = stream.scheduled book.now) : Book Address :=
  book.rewrite id (stream.closed vested) (max 0 (vested.val - stream.withdrawn.val))
    (book.mem_of_lookup stored) ((book.wellFormed id stream stored).closed onSchedule)
    (by
      have received := book.withdrawn_le_paid id stream stored
      show vested.val ≤ book.paid id + max 0 (vested.val - stream.withdrawn.val)
      omega)
    (fun stillOpen => absurd rfl stillOpen)

end Operations

inductive Move (Address : Type) where
  | tick (now : U64)
  | openStream (stream : Stream Address)
  | raise (id : U64) (newTotal : I128)
  | prolong (id : U64) (newEnd : U64)
  | pay (id : U64) (withdrawn : I128)
  | close (id : U64) (vested : I128)

/-- The move is about the record stored under `id`. -/
def Move.Addresses (id : U64) : Move Address → Prop
  | .tick _ | .openStream _ => False
  | .raise other _ | .prolong other _ | .pay other _ | .close other _ => other = id

inductive Step (book : Book Address) : Move Address → Book Address → Prop where
  | tick {now : U64} (order : book.now.val ≤ now.val) : Step book (.tick now) (book.tick now order)
  | openStream {stream : Stream Address} (fresh : stream.Fresh book.now) {next : U64}
      (nextEq : next.val = book.nextId.val + 1) :
      Step book (.openStream stream) (book.openStream stream fresh next nextEq)
  | raise {id : U64} {stream : Stream Address} (stored : book.streams.lookup id = some stream)
      (active : stream.status = .active) {newTotal : I128}
      (more : stream.total.val ≤ newTotal.val) :
      Step book (.raise id newTotal) (book.raise stored active newTotal more)
  | prolong {id : U64} {stream : Stream Address} (stored : book.streams.lookup id = some stream)
      (active : stream.status = .active) {newEnd : U64} (order : stream.end.val ≤ newEnd.val) :
      Step book (.prolong id newEnd) (book.prolong stored active newEnd order)
  | pay {id : U64} {stream : Stream Address} (stored : book.streams.lookup id = some stream)
      (active : stream.status = .active) {withdrawn : I128}
      (more : stream.withdrawn.val ≤ withdrawn.val)
      (onSchedule : withdrawn.val = stream.scheduled book.now) :
      Step book (.pay id withdrawn) (book.pay stored active withdrawn onSchedule)
  | close {id : U64} {stream : Stream Address} (stored : book.streams.lookup id = some stream)
      (notCancelled : stream.status ≠ .cancelled) {vested : I128}
      (onSchedule : vested.val = stream.scheduled book.now) :
      Step book (.close id vested) (book.close stored vested onSchedule)

section Records

variable {book next : Book Address} {move : Move Address} {id : U64} {stream : Stream Address}

/-- What a move can make of the record `stream` stored under `id`. -/
inductive RecordStep (book : Book Address) (id : U64) (stream : Stream Address) :
    Move Address → Stream Address → Prop where
  | untouched {move : Move Address} (elsewhere : ¬move.Addresses id) :
      RecordStep book id stream move stream
  | raised {newTotal : I128} (active : stream.status = .active)
      (more : stream.total.val ≤ newTotal.val) :
      RecordStep book id stream (.raise id newTotal) (stream.raised newTotal)
  | prolonged {newEnd : U64} (active : stream.status = .active)
      (order : stream.end.val ≤ newEnd.val) :
      RecordStep book id stream (.prolong id newEnd) (stream.prolonged newEnd)
  | paidOut {withdrawn : I128} (active : stream.status = .active)
      (onSchedule : withdrawn.val = stream.scheduled book.now) :
      RecordStep book id stream (.pay id withdrawn) (stream.paidOut withdrawn)
  | closed {vested : I128} (notCancelled : stream.status ≠ .cancelled)
      (onSchedule : vested.val = stream.scheduled book.now) :
      RecordStep book id stream (.close id vested) (stream.closed vested)

/-- Rewriting one record leaves the others alone. -/
theorem exists_record_of_rewrite {other : U64} {old new : Stream Address}
    (oldStored : book.streams.lookup other = some old)
    (rewritten : next.streams = book.streams.insert other new)
    (addressed : ∀ target, move.Addresses target → target = other)
    (changed : other = id → old = stream → RecordStep book id stream move new)
    (stored : book.streams.lookup id = some stream) :
    ∃ changed, next.streams.lookup id = some changed ∧ RecordStep book id stream move changed := by
  rw [rewritten]
  apply FiniteMap.exists_lookup_insert oldStored stored changed
  intro different
  apply RecordStep.untouched
  intro addresses
  exact different (addressed id addresses).symm

theorem Step.exists_record (step : Step book move next)
    (stored : book.streams.lookup id = some stream) :
    ∃ changed, next.streams.lookup id = some changed ∧ RecordStep book id stream move changed := by
  cases step with
  | tick order => exact ⟨stream, stored, .untouched not_false⟩
  | openStream fresh nextEq =>
      refine ⟨stream, ?_, .untouched not_false⟩
      have notNext : id ≠ book.nextId := by
        rintro rfl
        rw [book.lookup_nextId] at stored
        contradiction
      show (book.streams.insert book.nextId _).lookup id = some stream
      rw [Finmap.lookup_insert_of_ne _ notNext]
      exact stored
  | raise oldStored active more =>
      apply exists_record_of_rewrite oldStored rfl ?_ ?_ stored
      · intro target addresses
        exact Eq.symm addresses
      · rintro rfl rfl
        exact .raised active more
  | prolong oldStored active order =>
      apply exists_record_of_rewrite oldStored rfl ?_ ?_ stored
      · intro target addresses
        exact Eq.symm addresses
      · rintro rfl rfl
        exact .prolonged active order
  | pay oldStored active more onSchedule =>
      apply exists_record_of_rewrite oldStored rfl ?_ ?_ stored
      · intro target addresses
        exact Eq.symm addresses
      · rintro rfl rfl
        exact .paidOut active onSchedule
  | close oldStored notCancelled onSchedule =>
      apply exists_record_of_rewrite oldStored rfl ?_ ?_ stored
      · intro target addresses
        exact Eq.symm addresses
      · rintro rfl rfl
        exact .closed notCancelled onSchedule

theorem Step.now_le (step : Step book move next) : book.now.val ≤ next.now.val := by
  cases step with
  | tick order => exact order
  | openStream fresh nextEq => exact le_rfl
  | raise oldStored active more => exact le_rfl
  | prolong oldStored active order => exact le_rfl
  | pay oldStored active more onSchedule => exact le_rfl
  | close oldStored notCancelled onSchedule => exact le_rfl

theorem le_update_add {paid : U64 → ℤ} {other : U64} {amount : ℤ} (nonneg : 0 ≤ amount) :
    paid id ≤ Function.update paid other (paid other + amount) id := by
  by_cases same : id = other
  · subst other
    rw [Function.update_self]
    omega
  · rw [Function.update_of_ne same]

/-- What a recipient has received is never taken back. -/
theorem Step.paid_le (step : Step book move next) : book.paid id ≤ next.paid id := by
  cases step with
  | tick order => exact le_rfl
  | openStream fresh nextEq => exact le_rfl
  | raise oldStored active more => exact le_update_add le_rfl
  | prolong oldStored active order => exact le_update_add le_rfl
  | pay oldStored active more onSchedule => exact le_update_add (sub_nonneg.mpr more)
  | close oldStored notCancelled onSchedule => exact le_update_add (le_max_left _ _)

end Records

section Secured

variable {book next : Book Address} {move : Move Address} {id : U64} {amount : ℤ}

/-- A move that puts off the end of a stream while the stream is running. -/
def Postpones (id : U64) (taken : Transition (Book Address) (Move Address)) : Prop :=
  ∃ stream newEnd,
    taken.label = .prolong id newEnd ∧ taken.source.streams.lookup id = some stream ∧
      stream.start.val < taken.source.now.val ∧ taken.source.now.val < newEnd.val

/-- A move takes nothing from the schedule of a stream unless it puts off its end. -/
theorem RecordStep.scheduled_le {stream changed : Stream Address}
    (record : RecordStep book id stream move changed)
    (stored : book.streams.lookup id = some stream) (kept : ¬Postpones id ⟨book, move, next⟩) :
    stream.scheduled book.now ≤ changed.scheduled book.now := by
  have wellFormed := book.wellFormed id stream stored
  cases record with
  | untouched elsewhere => exact le_rfl
  | raised active more => exact scheduled_mono_total wellFormed.totalPos more
  | prolonged active order =>
      apply le_of_eq
      apply Eq.symm
      apply scheduled_of_prolonged wellFormed.window order
      by_contra inside
      rw [not_or, not_le, not_le] at inside
      exact kept ⟨stream, _, rfl, stored, inside.1, inside.2⟩
  | paidOut active onSchedule => exact le_rfl
  | closed notCancelled onSchedule => exact le_rfl

/-- Neither time nor a move takes back what a stream has released, unless its end is put off. -/
theorem Step.scheduled_le (step : Step book move next) {stream changed : Stream Address}
    (stored : book.streams.lookup id = some stream)
    (changedStored : next.streams.lookup id = some changed)
    (kept : ¬Postpones id ⟨book, move, next⟩) :
    stream.scheduled book.now ≤ changed.scheduled next.now := by
  rcases step.exists_record stored with ⟨found, foundStored, record⟩
  rw [changedStored, Option.some.injEq] at foundStored
  subst found
  have wellFormed := next.wellFormed id changed changedStored
  exact (record.scheduled_le stored kept).trans
    (scheduled_mono_now wellFormed.totalPos wellFormed.window step.now_le)

/-- The schedule of the stream has released `amount`. -/
def Released (id : U64) (amount : ℤ) (book : Book Address) : Prop :=
  ∃ stream, book.streams.lookup id = some stream ∧ amount ≤ stream.scheduled book.now

theorem Step.released (step : Step book move next) (released : book.Released id amount)
    (kept : ¬Postpones id ⟨book, move, next⟩) : next.Released id amount := by
  rcases released with ⟨stream, stored, enough⟩
  rcases step.exists_record stored with ⟨changed, changedStored, _⟩
  exact ⟨changed, changedStored, enough.trans (step.scheduled_le stored changedStored kept)⟩

/-- The schedule has released `amount`, and it is paid once the stream is no longer active. -/
structure Secured (id : U64) (amount : ℤ) (book : Book Address) : Prop where
  released : book.Released id amount
  paid : ∀ stream, book.streams.lookup id = some stream → stream.status ≠ .active →
    amount ≤ book.paid id

theorem Step.secured (step : Step book move next) (secured : book.Secured id amount)
    (kept : ¬Postpones id ⟨book, move, next⟩) : next.Secured id amount := by
  refine ⟨step.released secured.released kept, ?_⟩
  intro changed changedStored notActive
  rcases secured.released with ⟨stream, stored, enough⟩
  rcases step.exists_record stored with ⟨found, foundStored, record⟩
  rw [changedStored, Option.some.injEq] at foundStored
  subst found
  have withdrawnPaid := next.withdrawn_le_paid id changed changedStored
  cases record with
  | untouched elsewhere => exact (secured.paid _ stored notActive).trans step.paid_le
  | raised active more => exact absurd active notActive
  | prolonged active endOrder => exact absurd active notActive
  | paidOut active onSchedule =>
      rw [← onSchedule] at enough
      exact enough.trans withdrawnPaid
  | closed notCancelled onSchedule =>
      rw [← onSchedule] at enough
      exact enough.trans withdrawnPaid

/-- What is released stays released until the end of the stream is put off. -/
theorem Released.run {trace : List (Transition (Book Address) (Move Address))}
    (released : book.Released id amount) (run : Run Step book trace next)
    (kept : ∀ taken ∈ trace, ¬Postpones id taken) : next.Released id amount := by
  apply run.invariant_of_forall (fun taken => ¬Postpones id taken) released kept
  intro source label target held step condition
  exact step.released held condition

/-- What is secured stays secured until the end of the stream is put off. -/
theorem Secured.run {trace : List (Transition (Book Address) (Move Address))}
    (secured : book.Secured id amount) (run : Run Step book trace next)
    (kept : ∀ taken ∈ trace, ¬Postpones id taken) : next.Secured id amount := by
  apply run.invariant_of_forall (fun taken => ¬Postpones id taken) secured kept
  intro source label target held step condition
  exact step.secured held condition

end Secured

end Book

end StreamPay
