import StreamPay.Batches

/-!
# The event log tells the books

An indexer sees only the events.  This file reads the record of a stream off the
events about it: what was paid, raised and refunded are sums over the log, and the
end is the last one announced.

The reading is kept in step with the record by each of the six calls that write a
stream, so every call has one lemma that appends its event.  Everything else
publishes nothing about the stream.
-/

namespace StreamPay

open Foundation

variable {Address : Type}

namespace Event

/-- The stream that an event is about. -/
def stream? : Event Address → Option U64
  | .created id .. | .withdrawn id .. | .toppedup id .. | .extended id .. | .cancelled id .. =>
      some id
  | .adminScheduled .. | .adminTransfer .. | .adminCancelled .. | .capadmin .. | .adminSet ..
  | .upgraded .. => none

/-- The sender, the recipient and the total of a new stream. -/
def created? : Event Address → Option (Address × Address × I128)
  | .created _ sender recipient total => some (sender, recipient, total)
  | _ => none

/-- The amount and the new total of a top-up. -/
def toppedup? : Event Address → Option (I128 × I128)
  | .toppedup _ _ amount newTotal => some (amount, newTotal)
  | _ => none

/-- The old and the new end of an extension. -/
def extended? : Event Address → Option (U64 × U64)
  | .extended _ _ oldEnd newEnd => some (oldEnd, newEnd)
  | _ => none

/-- The amount of a withdrawal. -/
def withdrawn? : Event Address → Option I128
  | .withdrawn _ _ amount => some amount
  | _ => none

/-- The refund of the sender and the payment to the recipient of a cancellation. -/
def cancelled? : Event Address → Option (I128 × I128)
  | .cancelled _ _ senderRefund recipientPaid => some (senderRefund, recipientPaid)
  | _ => none

end Event

/-- The events about the stream `id`. -/
def State.eventsFor (state : State Address) (id : U64) : List (Event Address) :=
  state.events.filter fun event => event.stream? = some id

/-- The sum of announced amounts. -/
def announced (amounts : List I128) : ℤ :=
  (amounts.map BoundedInt.val).sum

@[simp]
theorem announced_nil : announced [] = 0 :=
  rfl

@[simp]
theorem announced_append (first second : List I128) :
    announced (first ++ second) = announced first + announced second := by
  simp [announced]

@[simp]
theorem announced_cons (amount : I128) (rest : List I128) :
    announced (amount :: rest) = amount.val + announced rest := by
  simp [announced]

/-- The new total of a top-up is the running total. -/
def RunningTotal (opening : I128) (earlier : List (I128 × I128)) (topUp : I128 × I128) : Prop :=
  topUp.2.val = opening.val + announced (earlier.map Prod.fst) + topUp.1.val

/-- The old end of an extension is the new end of the one before it. -/
def Chained (earlier : List (U64 × U64)) (extension : U64 × U64) : Prop :=
  ∀ previous ∈ earlier.getLast?, extension.1 = previous.2

/-- The figures of a record are those of the events about it. -/
structure LogAgrees (log : List (Event Address)) (opening : I128) (stream : Stream Address) :
    Prop where
  created : log.filterMap Event.created? = [(stream.sender, stream.recipient, opening)]
  total :
    stream.total.val = opening.val + announced ((log.filterMap Event.toppedup?).map Prod.fst)
  runningTotals : EachFollows (RunningTotal opening) (log.filterMap Event.toppedup?)
  extensions : EachFollows Chained (log.filterMap Event.extended?)
  lastEnd : ∀ extension ∈ (log.filterMap Event.extended?).getLast?, stream.end = extension.2
  withdrawn :
    stream.withdrawn.val =
      announced (log.filterMap Event.withdrawn?) +
        announced ((log.filterMap Event.cancelled?).map Prod.snd)
  notCancelled : stream.status ≠ .cancelled → log.filterMap Event.cancelled? = []
  cancelled : stream.status = .cancelled →
    ∃ senderRefund recipientPaid,
      log.filterMap Event.cancelled? = [(senderRefund, recipientPaid)] ∧
        announced (log.filterMap Event.withdrawn?) + recipientPaid.val + senderRefund.val =
          stream.total.val

section Appended

variable {log : List (Event Address)} {opening : I128} {stream : Stream Address} {id : U64}

theorem LogAgrees.opened {sender recipient : Address} {totalAmount : I128}
    {startTime endTime : U64} :
    LogAgrees [.created id sender recipient totalAmount] totalAmount
      (.opened sender recipient totalAmount startTime endTime) := by
  refine ⟨rfl, ?_, eachFollows_nil, eachFollows_nil, ?_, rfl, fun _ => rfl, ?_⟩
  · exact (add_zero _).symm
  · intro extension last
    contradiction
  · intro cancelled
    contradiction

/-- An event that announces no amount escrowed keeps the total. -/
theorem LogAgrees.keepsTotal (agrees : LogAgrees log opening stream) (event : Event Address)
    (notCreated : event.created? = none) (notToppedup : event.toppedup? = none) :
    (log ++ [event]).filterMap Event.created? = [(stream.sender, stream.recipient, opening)] ∧
      stream.total.val =
          opening.val + announced (((log ++ [event]).filterMap Event.toppedup?).map Prod.fst) ∧
        EachFollows (RunningTotal opening) ((log ++ [event]).filterMap Event.toppedup?) := by
  rw [filterMap_snoc_of_none notCreated, filterMap_snoc_of_none notToppedup]
  exact ⟨agrees.created, agrees.total, agrees.runningTotals⟩

/-- An event that announces no extension keeps the end. -/
theorem LogAgrees.keepsEnd (agrees : LogAgrees log opening stream) (event : Event Address)
    (notExtended : event.extended? = none) :
    EachFollows Chained ((log ++ [event]).filterMap Event.extended?) ∧
      ∀ extension ∈ ((log ++ [event]).filterMap Event.extended?).getLast?,
        stream.end = extension.2 := by
  rw [filterMap_snoc_of_none notExtended]
  exact ⟨agrees.extensions, agrees.lastEnd⟩

theorem LogAgrees.raised {sender : Address} {amount newTotal : I128}
    (agrees : LogAgrees log opening stream) (active : stream.status = .active)
    (newTotalEq : newTotal.val = stream.total.val + amount.val) :
    LogAgrees (log ++ [.toppedup id sender amount newTotal]) opening (stream.raised newTotal) := by
  have totalEq := agrees.total
  have topUps : (log ++ [Event.toppedup id sender amount newTotal]).filterMap Event.toppedup? =
      log.filterMap Event.toppedup? ++ [(amount, newTotal)] :=
    filterMap_snoc_of_some rfl
  rcases agrees.keepsEnd (.toppedup id sender amount newTotal) rfl with ⟨extensions, lastEnd⟩
  refine ⟨?_, ?_, ?_, extensions, lastEnd, ?_, ?_, ?_⟩
  · rw [filterMap_snoc_of_none rfl]
    exact agrees.created
  · rw [topUps, List.map_append, announced_append]
    simp only [List.map_cons, List.map_nil, announced_cons, announced_nil, Stream.raised]
    omega
  · rw [topUps, eachFollows_snoc]
    refine ⟨agrees.runningTotals, ?_⟩
    simp only [RunningTotal]
    omega
  · rw [filterMap_snoc_of_none rfl, filterMap_snoc_of_none rfl]
    exact agrees.withdrawn
  · rw [filterMap_snoc_of_none rfl]
    exact agrees.notCancelled
  · intro cancelled
    have stillActive : (stream.raised newTotal).status = .active := active
    rw [stillActive] at cancelled
    contradiction

theorem LogAgrees.prolonged {sender : Address} {newEnd : U64}
    (agrees : LogAgrees log opening stream) (active : stream.status = .active) :
    LogAgrees (log ++ [.extended id sender stream.end newEnd]) opening
      (stream.prolonged newEnd) := by
  have extensions :
      (log ++ [Event.extended id sender stream.end newEnd]).filterMap Event.extended? =
        log.filterMap Event.extended? ++ [(stream.end, newEnd)] :=
    filterMap_snoc_of_some rfl
  rcases agrees.keepsTotal (.extended id sender stream.end newEnd) rfl rfl with
    ⟨created, total, runningTotals⟩
  refine ⟨created, total, runningTotals, ?_, ?_, ?_, ?_, ?_⟩
  · rw [extensions, eachFollows_snoc]
    exact ⟨agrees.extensions, agrees.lastEnd⟩
  · rw [extensions, List.getLast?_concat]
    rintro extension ⟨⟩
    rfl
  · rw [filterMap_snoc_of_none rfl, filterMap_snoc_of_none rfl]
    exact agrees.withdrawn
  · rw [filterMap_snoc_of_none rfl]
    exact agrees.notCancelled
  · intro cancelled
    have stillActive : (stream.prolonged newEnd).status = .active := active
    rw [stillActive] at cancelled
    contradiction

theorem LogAgrees.paidOut {recipient : Address} {amount withdrawn : I128}
    (agrees : LogAgrees log opening stream) (active : stream.status = .active)
    (withdrawnEq : withdrawn.val = stream.withdrawn.val + amount.val) :
    LogAgrees (log ++ [.withdrawn id recipient amount]) opening (stream.paidOut withdrawn) := by
  have withdrawnBefore := agrees.withdrawn
  have withdrawals : (log ++ [Event.withdrawn id recipient amount]).filterMap Event.withdrawn? =
      log.filterMap Event.withdrawn? ++ [amount] :=
    filterMap_snoc_of_some rfl
  rcases agrees.keepsTotal (.withdrawn id recipient amount) rfl rfl with
    ⟨created, total, runningTotals⟩
  rcases agrees.keepsEnd (.withdrawn id recipient amount) rfl with ⟨extensions, lastEnd⟩
  refine ⟨created, total, runningTotals, extensions, lastEnd, ?_, ?_, ?_⟩
  · rw [withdrawals, filterMap_snoc_of_none rfl, announced_append]
    simp only [announced_cons, announced_nil, Stream.paidOut]
    omega
  · intro _
    rw [filterMap_snoc_of_none rfl]
    exact agrees.notCancelled (by simp [active])
  · intro cancelled
    simp only [Stream.paidOut, active] at cancelled
    split at cancelled
    · contradiction
    · contradiction

theorem LogAgrees.closed {caller : Address} {vested recipientPaid senderRefund : I128}
    (agrees : LogAgrees log opening stream) (notCancelled : stream.status ≠ .cancelled)
    (recipientPaidEq : recipientPaid.val = vested.val - stream.withdrawn.val)
    (senderRefundEq : senderRefund.val = stream.total.val - vested.val) :
    LogAgrees (log ++ [.cancelled id caller senderRefund recipientPaid]) opening
      (stream.closed vested) := by
  have noCancellation := agrees.notCancelled notCancelled
  have withdrawnBefore := agrees.withdrawn
  rw [noCancellation, List.map_nil, announced_nil, add_zero] at withdrawnBefore
  have cancellations :
      (log ++ [Event.cancelled id caller senderRefund recipientPaid]).filterMap Event.cancelled? =
        log.filterMap Event.cancelled? ++ [(senderRefund, recipientPaid)] :=
    filterMap_snoc_of_some rfl
  rw [noCancellation, List.nil_append] at cancellations
  rcases agrees.keepsTotal (.cancelled id caller senderRefund recipientPaid) rfl rfl with
    ⟨created, total, runningTotals⟩
  rcases agrees.keepsEnd (.cancelled id caller senderRefund recipientPaid) rfl with
    ⟨extensions, lastEnd⟩
  refine ⟨created, total, runningTotals, extensions, lastEnd, ?_, ?_, ?_⟩
  · rw [filterMap_snoc_of_none rfl, cancellations]
    simp only [List.map_cons, List.map_nil, announced_cons, announced_nil,
      Stream.closed]
    omega
  · intro stillOpen
    exact absurd rfl stillOpen
  · intro _
    refine ⟨senderRefund, recipientPaid, cancellations, ?_⟩
    rw [filterMap_snoc_of_none rfl]
    simp only [Stream.closed]
    omega

end Appended

/-- Only the last write of a call publishes. -/
theorem published_of_silent {before middle : State Address} {event : Event Address}
    (silent : middle.events = before.events) :
    (middle.publish event).events = before.events ++ [event] := by
  rw [State.publish_events, silent]

theorem eventsFor_of_ne {before after : State Address} {event : Event Address} {id : U64}
    (published : after.events = before.events ++ [event]) (elsewhere : event.stream? ≠ some id) :
    after.eventsFor id = before.eventsFor id := by
  simp [State.eventsFor, published, elsewhere]

theorem LogAgrees.of_published {before after : State Address} {event : Event Address} {id : U64}
    {opening : I128} {stream : Stream Address}
    (agrees : LogAgrees (before.eventsFor id ++ [event]) opening stream)
    (published : after.events = before.events ++ [event]) (about : event.stream? = some id) :
    LogAgrees (after.eventsFor id) opening stream := by
  have logged : after.eventsFor id = before.eventsFor id ++ [event] := by
    simp [State.eventsFor, published, about]
  rw [logged]
  exact agrees

/-- The first event about a stream opens its log. -/
theorem LogAgrees.of_announced {before after : State Address} {event : Event Address} {id : U64}
    {opening : I128} {stream : Stream Address} (agrees : LogAgrees [event] opening stream)
    (nothing : before.eventsFor id = [])
    (published : after.events = before.events ++ [event]) (about : event.stream? = some id) :
    LogAgrees (after.eventsFor id) opening stream := by
  apply LogAgrees.of_published ?_ published about
  rw [nothing]
  exact agrees

theorem LogAgrees.of_same {before after : State Address} {id : U64} {opening : I128}
    {stream : Stream Address} (agrees : LogAgrees (before.eventsFor id) opening stream)
    (same : after.eventsFor id = before.eventsFor id) :
    LogAgrees (after.eventsFor id) opening stream := by
  rw [same]
  exact agrees

/-- The log of a stream agrees with its record, and there is no log without a record. -/
structure State.LogKept (state : State Address) (id : U64) : Prop where
  missing : state.streams.lookup id = none → state.eventsFor id = []
  stored : ∀ stream, state.streams.lookup id = some stream →
    ∃ opening, LogAgrees (state.eventsFor id) opening stream

theorem logKept_of_missing {state : State Address} {id : U64}
    (missing : state.streams.lookup id = none) (nothing : state.eventsFor id = []) :
    state.LogKept id := by
  refine ⟨fun _ => nothing, ?_⟩
  intro stream stored
  rw [missing] at stored
  contradiction

theorem logKept_of_stored {state : State Address} {id : U64} {stream : Stream Address}
    {opening : I128} (stored : state.streams.lookup id = some stream)
    (agrees : LogAgrees (state.eventsFor id) opening stream) : state.LogKept id := by
  constructor
  · intro missing
    rw [missing] at stored
    contradiction
  · intro other otherStored
    rw [stored, Option.some.injEq] at otherStored
    exact ⟨opening, otherStored ▸ agrees⟩

theorem logKept_of_elsewhere {before after : State Address} {event : Event Address} {id : U64}
    (kept : before.LogKept id) (sameStream : after.streams.lookup id = before.streams.lookup id)
    (published : after.events = before.events ++ [event]) (elsewhere : event.stream? ≠ some id) :
    after.LogKept id := by
  have sameLog := eventsFor_of_ne published elsewhere
  constructor
  · intro missing
    rw [sameLog]
    exact kept.missing (sameStream ▸ missing)
  · intro stream stored
    rw [sameLog]
    exact kept.stored stream (sameStream ▸ stored)

/-- Rewriting one record and publishing its event keeps every log. -/
theorem logKept_of_insert {before after : State Address} {event : Event Address} {id other : U64}
    {old new : Stream Address} (kept : before.LogKept id)
    (oldStored : before.streams.lookup other = some old)
    (inserted : after.streams = before.streams.insert other new)
    (published : after.events = before.events ++ [event]) (about : event.stream? = some other)
    (changed : ∀ log opening, LogAgrees log opening old → LogAgrees (log ++ [event]) opening new) :
    after.LogKept id := by
  by_cases same : other = id
  · subst other
    rcases kept.stored old oldStored with ⟨opening, agrees⟩
    refine logKept_of_stored ?_ ((changed _ opening agrees).of_published published about)
    rw [inserted]
    exact Finmap.lookup_insert _
  · apply logKept_of_elsewhere kept ?_ published
    · rw [about, ne_eq, Option.some.injEq]
      exact same
    · rw [inserted]
      exact Finmap.lookup_insert_of_ne _ (Ne.symm same)

section Batches

variable {ledger : Ledger} {sender : Address} {state : State Address} {first id : U64}
  {requests : List (StreamRequest Address)}

/-- A batch publishes nothing about older streams. -/
theorem openAll_eventsFor_of_lt (older : id.val < first.val)
    (room : first.val + requests.length ≤ 2 ^ 64 - 1) :
    (state.openAll ledger sender first requests).eventsFor id = state.eventsFor id := by
  induction requests generalizing state first with
  | nil => rfl
  | cons request rest ih =>
      rw [List.length_cons] at room
      push_cast at room
      have nextVal : first.next.val = first.val + 1 := U64.next_val (by omega)
      have different : first ≠ id := by
        rintro rfl
        exact lt_irrefl _ older
      rw [State.openAll, ih (by omega) (by omega)]
      exact eventsFor_of_ne rfl (by simpa [Event.stream?] using different)

/-- A batch announces every stream that it opens once. -/
theorem openAll_logKept (room : first.val + requests.length ≤ 2 ^ 64 - 1)
    (missing : state.streams.lookup id = none) (nothing : state.eventsFor id = []) :
    (state.openAll ledger sender first requests).LogKept id := by
  induction requests generalizing state first with
  | nil => exact logKept_of_missing missing nothing
  | cons request rest ih =>
      rw [List.length_cons] at room
      push_cast at room
      have nextVal : first.next.val = first.val + 1 := U64.next_val (by omega)
      rw [State.openAll]
      by_cases same : id = first
      · subst first
        apply logKept_of_stored
        · rw [openAll_lookup_of_lt (by omega) (by omega), State.publish_streams,
            State.putStream_streams]
          exact Finmap.lookup_insert _
        · rw [openAll_eventsFor_of_lt (by omega) (by omega)]
          exact LogAgrees.opened.of_announced nothing rfl rfl
      · apply ih (by omega)
        · rw [State.publish_streams, State.putStream_streams,
            Finmap.lookup_insert_of_ne _ same]
          exact missing
        · rw [← nothing]
          exact eventsFor_of_ne rfl (by simpa [Event.stream?] using Ne.symm same)

end Batches

/-- A call keeps the log of every stream in step with its record. -/
theorem Effect.logKept [DecidableEq Address] {env : Env Address} {before after : State Address}
    {call : Call Address} {reply : Reply Address} {id : U64}
    (effect : Effect env before call reply after)
    (memIff : ∀ id, id ∈ before.streams ↔ id.val < (before.counter.getD 0).val)
    (kept : before.LogKept id) : after.LogKept id := by
  cases effect with
  | initializeContract fresh => exact ⟨kept.missing, kept.stored⟩
  | createStream checks =>
      by_cases same : before.counter.getD 0 = id
      · subst id
        have missing : before.streams.lookup (before.counter.getD 0) = none := by
          rw [Finmap.lookup_eq_none, memIff]
          exact lt_irrefl _
        apply logKept_of_stored (Finmap.lookup_insert _)
        exact LogAgrees.opened.of_announced (kept.missing missing)
          (published_of_silent (by simp)) rfl
      · apply logKept_of_elsewhere kept ?_ (published_of_silent (by simp))
          (by simpa [Event.stream?] using same)
        exact Finmap.lookup_insert_of_ne _ (Ne.symm same)
  | @createStreamBatch sender token requests aggregate nextCounter checks =>
      have room : (before.counter.getD 0).val + requests.toList.length ≤ 2 ^ 64 - 1 :=
        checks.nextCounterEq ▸ nextCounter.le_upper
      cases found : before.streams.lookup id with
      | none =>
          have opened : State.LogKept ((before.recordTransfer
              ⟨token, sender, env.currentContractAddress, aggregate, .funding⟩).openAll env.ledger
                sender (before.counter.getD 0) requests.toList) id :=
            openAll_logKept room found (kept.missing found)
          exact ⟨opened.missing, opened.stored⟩
      | some stream =>
          have older := (memIff id).mp (Finmap.mem_of_lookup_eq_some found)
          rcases kept.stored stream found with ⟨opening, agrees⟩
          exact logKept_of_stored ((openAll_lookup_of_lt older room).trans found)
            (agrees.of_same (openAll_eventsFor_of_lt older room))
  | topUp checks =>
      apply logKept_of_insert kept checks.stored rfl (published_of_silent (by simp)) rfl
      intro log opening agrees
      exact agrees.raised checks.active checks.newTotalEq
  | extendStream checks =>
      apply logKept_of_insert kept checks.stored rfl (published_of_silent (by simp)) rfl
      intro log opening agrees
      exact agrees.prolonged checks.active
  | withdraw checks =>
      apply logKept_of_insert kept checks.stored rfl (published_of_silent (by simp)) rfl
      intro log opening agrees
      exact agrees.paidOut checks.active checks.withdrawnEq
  | cancel checks =>
      apply logKept_of_insert kept checks.stored rfl (published_of_silent (by simp)) rfl
      intro log opening agrees
      exact agrees.closed checks.notCancelled checks.recipientPaidEq checks.senderRefundEq
  | query returned => exact kept
  | _ =>
      exact logKept_of_elsewhere kept (by simp) (published_of_silent (by simp))
        (by simp [Event.stream?])

variable [DecidableEq Address] {contract : Address}

theorem History.logKept {trace : Trace Address} {final : System Address}
    (history : History contract trace final) (id : U64) : final.state.LogKept id := by
  induction history using History.induct with
  | nil start uninitialized =>
      apply logKept_of_missing
      · rw [uninitialized.streams, Finmap.lookup_empty]
      · rw [State.eventsFor, uninitialized.events, List.filter_nil]
  | snoc trace source action target earlier step ih =>
      cases stepEffect_of_step step with
      | advance later laterSequence => exact ih
      | external noLoss => exact ⟨ih.missing, ih.stored⟩
      | failed outcome => exact ih
      | returned outcome effect => exact effect.logKept earlier.reachable.mem_iff ih

/-- What the events about a stream say about its record. -/
structure LogDetermines (log : List (Event Address)) (stream : Stream Address) : Prop where
  total : ∃ opening,
    log.filterMap Event.created? = [(stream.sender, stream.recipient, opening)] ∧
      stream.total.val =
          opening.val + announced ((log.filterMap Event.toppedup?).map Prod.fst) ∧
        EachFollows (RunningTotal opening) (log.filterMap Event.toppedup?)
  «end» : EachFollows Chained (log.filterMap Event.extended?) ∧
    ∀ extension ∈ (log.filterMap Event.extended?).getLast?, stream.end = extension.2
  withdrawn :
    stream.withdrawn.val =
      announced (log.filterMap Event.withdrawn?) +
        announced ((log.filterMap Event.cancelled?).map Prod.snd)
  cancelledOnce : (log.filterMap Event.cancelled?).length ≤ 1
  cancelled : stream.status = .cancelled ↔ (log.filterMap Event.cancelled?).length = 1
  completed : stream.status ≠ .cancelled →
    (stream.status = .completed ↔
      announced (log.filterMap Event.withdrawn?) = stream.total.val)
  conserved : ∀ cancellation ∈ log.filterMap Event.cancelled?,
    announced (log.filterMap Event.withdrawn?) + cancellation.2.val + cancellation.1.val =
      stream.total.val

omit [DecidableEq Address] in
theorem LogAgrees.determines {log : List (Event Address)} {opening : I128}
    {stream : Stream Address} {now : U64} (agrees : LogAgrees log opening stream)
    (wellFormed : stream.WellFormed now) : LogDetermines log stream := by
  have ends := And.intro agrees.extensions agrees.lastEnd
  have withdrawnEq := agrees.withdrawn
  by_cases isCancelled : stream.status = .cancelled
  · rcases agrees.cancelled isCancelled with
      ⟨senderRefund, recipientPaid, cancellations, conserved⟩
    refine ⟨⟨opening, agrees.created, agrees.total, agrees.runningTotals⟩, ends, withdrawnEq,
      ?_, ?_, ?_, ?_⟩
    · simp [cancellations]
    · simp [isCancelled, cancellations]
    · intro notCancelled
      exact absurd isCancelled notCancelled
    · rw [cancellations, List.forall_mem_singleton]
      exact conserved
  · have noCancellation := agrees.notCancelled isCancelled
    have paidEq := withdrawnEq
    rw [noCancellation, List.map_nil, announced_nil, add_zero] at paidEq
    refine ⟨⟨opening, agrees.created, agrees.total, agrees.runningTotals⟩, ends, withdrawnEq,
      ?_, ?_, ?_, ?_⟩
    · simp [noCancellation]
    · simp [isCancelled, noCancellation]
    · intro _
      rw [← paidEq]
      constructor
      · intro completed
        exact (wellFormed.completedPaid completed).1
      · intro paid
        by_contra notCompleted
        have owes := wellFormed.activeOwes (status_eq_active_iff.mpr ⟨isCancelled, notCompleted⟩)
        omega
    · simp [noCancellation]

/--
In every state of a run, the events about a stream determine its record: it was
created once; its total is the created one plus the top-ups, each of which names
the running total; the extensions form a chain that ends in its end; withdrawals
and the payment of a cancellation make up what was withdrawn; and its status says
whether it was cancelled, and otherwise whether the withdrawals reach the total.
A cancellation distributes exactly what was left.  There are no events about
streams that do not exist.
-/
theorem log_determines_record {trace : Trace Address} {final : System Address}
    (history : History contract trace final) (id : U64) :
    (final.state.streams.lookup id = none → final.state.eventsFor id = []) ∧
      ∀ stream, final.state.streams.lookup id = some stream →
        LogDetermines (final.state.eventsFor id) stream := by
  have kept := history.logKept id
  refine ⟨kept.missing, ?_⟩
  intro stream stored
  rcases kept.stored stream stored with ⟨opening, agrees⟩
  exact agrees.determines (history.reachable.wellFormed stored)

namespace Sample

/-- A stream that is raised, extended, withdrawn from and cancelled. -/
def announcing : List (Action Party) :=
  withdrawing ++
    [callBy .alice (.topUp 0 .alice (units 500)),
      callBy .alice (.extendStream 0 .alice (time 1100)), callBy .alice (.cancel 0 .alice)]

end Sample

/-- The theorem applies to a stream that is cancelled after a top-up and an extension. -/
theorem log_determines_record_announcing :
    ((Sample.final Sample.announcing).state.streams.lookup 0 = none →
        (Sample.final Sample.announcing).state.eventsFor 0 = []) ∧
      ∀ stream, (Sample.final Sample.announcing).state.streams.lookup 0 = some stream →
        LogDetermines ((Sample.final Sample.announcing).state.eventsFor 0) stream :=
  log_determines_record (Sample.history (by decide)) 0

/-- After an extension the announced payment of a cancellation can be negative. -/
example : ((Sample.final Sample.announcing).state.eventsFor 0).filterMap Event.cancelled? =
    [(Sample.units 1425, ⟨-425, by decide, by decide⟩)] := by
  decide

end StreamPay
