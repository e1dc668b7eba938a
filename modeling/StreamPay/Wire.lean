import StreamPay.EventLog
import StreamPay.Foundation.Codec

/-!
# Values of the host

What leaves the contract are values of the host: the entries of the ledger, the
topics and data of its events.  This file follows the conversions that
`contracttype` derives for `types.rs` and `DataKey`, and the tuples of `events.rs`.
An `i128` is a pair of words, a record is a map with its fields in alphabetical
order, an enumeration is its discriminant, and a key is a vector that begins with
its name.

Indexers see nothing but the published topics and data.  They lose nothing: the log
can be read back from them, and two runs that publish the same agree on all streams.
-/

namespace StreamPay

open Foundation

variable {Address : Type}

abbrev I64 := BoundedInt (-2 ^ 63) (2 ^ 63 - 1)

/-- The values that are not built from others; the only bytes are the hash of a code. -/
inductive Scalar (Address : Type) where
  | void
  | bool (value : Bool)
  | u32 (value : U32)
  | u64 (value : U64)
  | i128 (hi : I64) (lo : U64)
  | address (value : Address)
  | bytes (value : BitVec 256)
  | symbol (name : String)
deriving DecidableEq

/-- The values that the contract stores, publishes or returns. -/
inductive Val (Address : Type) where
  | scalar (value : Scalar Address)
  | vec (items : List (Scalar Address))
  | map (entries : List (String × Scalar Address))
deriving DecidableEq

/-- The high and the low word of an `i128`. -/
def I128.words : I128 ≃ I64 × U64 where
  toFun value :=
    have lower := value.lower_le
    have upper := value.le_upper
    (⟨value.val / 2 ^ 64, by omega, by omega⟩, ⟨value.val % 2 ^ 64, by omega, by omega⟩)
  invFun words :=
    have lower := words.1.lower_le
    have upper := words.1.le_upper
    have lowLower := words.2.lower_le
    have lowUpper := words.2.le_upper
    ⟨words.1.val * 2 ^ 64 + words.2.val, by omega, by omega⟩
  left_inv value := BoundedInt.ext (by simp only []; omega)
  right_inv words := by
    have lowLower := words.2.lower_le
    have lowUpper := words.2.le_upper
    refine Prod.ext (BoundedInt.ext ?_) (BoundedInt.ext ?_)
    · simp only []
      omega
    · simp only []
      omega

namespace Scalar

def boolCodec : Codec Bool (Scalar Address) where
  encode := .bool
  decode
    | .bool value => some value
    | _ => none
  decode_eq_some_iff := by
    intro raw value
    cases raw <;> simp [eq_comm]

def u32Codec : Codec U32 (Scalar Address) where
  encode := .u32
  decode
    | .u32 value => some value
    | _ => none
  decode_eq_some_iff := by
    intro raw value
    cases raw <;> simp [eq_comm]

def u64Codec : Codec U64 (Scalar Address) where
  encode := .u64
  decode
    | .u64 value => some value
    | _ => none
  decode_eq_some_iff := by
    intro raw value
    cases raw <;> simp [eq_comm]

def wordsCodec : Codec (I64 × U64) (Scalar Address) where
  encode words := .i128 words.1 words.2
  decode
    | .i128 hi lo => some (hi, lo)
    | _ => none
  decode_eq_some_iff := by
    rintro raw ⟨hi, lo⟩
    cases raw <;> simp [eq_comm]

def i128Codec : Codec I128 (Scalar Address) :=
  (Codec.ofEquiv I128.words).comp wordsCodec

def addressCodec : Codec Address (Scalar Address) where
  encode := .address
  decode
    | .address value => some value
    | _ => none
  decode_eq_some_iff := by
    intro raw value
    cases raw <;> simp [eq_comm]

def bytesCodec : Codec (BitVec 256) (Scalar Address) where
  encode := .bytes
  decode
    | .bytes value => some value
    | _ => none
  decode_eq_some_iff := by
    intro raw value
    cases raw <;> simp [eq_comm]

end Scalar

/-- The discriminants of `Status`. -/
def Status.discriminant : Status → U32
  | .active => 0
  | .cancelled => 1
  | .completed => toU32 2

def Status.codec : Codec Status (Scalar Address) :=
  (Codec.enumeration [.active, .cancelled, .completed] Status.discriminant
    (by intro status; cases status <;> decide)).comp Scalar.u32Codec

namespace Val

def scalarCodec : Codec (Scalar Address) (Val Address) where
  encode := .scalar
  decode
    | .scalar value => some value
    | _ => none
  decode_eq_some_iff := by
    intro raw value
    cases raw <;> simp [eq_comm]

def vecCodec : Codec (List (Scalar Address)) (Val Address) where
  encode := .vec
  decode
    | .vec items => some items
    | _ => none
  decode_eq_some_iff := by
    intro raw items
    cases raw <;> simp [eq_comm]

def mapCodec : Codec (List (String × Scalar Address)) (Val Address) where
  encode := .map
  decode
    | .map entries => some entries
    | _ => none
  decode_eq_some_iff := by
    intro raw entries
    cases raw <;> simp [eq_comm]

end Val

def StreamSummary.codec : Codec StreamSummary (Val Address) :=
  let fields : StreamSummary ≃ U32 × Status × I128 × I128 × I128 × I128 × Unit :=
    { toFun := fun summary =>
        (summary.progressBps, summary.status, summary.total, summary.vested, summary.withdrawable,
          summary.withdrawn, ())
      invFun := fun (progressBps, status, total, vested, withdrawable, withdrawn, _) =>
        ⟨total, vested, withdrawn, withdrawable, progressBps, status⟩
      left_inv := fun _ => rfl
      right_inv := fun _ => rfl }
  (Codec.ofEquiv fields).comp <| Codec.comp
    ((Scalar.u32Codec.field "progress_bps").cons <| (Status.codec.field "status").cons <|
      (Scalar.i128Codec.field "total").cons <| (Scalar.i128Codec.field "vested").cons <|
        (Scalar.i128Codec.field "withdrawable").cons <|
          (Scalar.i128Codec.field "withdrawn").cons .nil)
    Val.mapCodec

def Stream.codec : Codec (Stream Address) (Val Address) :=
  let fields : Stream Address ≃ U64 × Address × Address × U64 × Status × I128 × I128 × Unit :=
    { toFun := fun stream =>
        (stream.end, stream.recipient, stream.sender, stream.start, stream.status, stream.total,
          stream.withdrawn, ())
      invFun := fun («end», recipient, sender, start, status, total, withdrawn, _) =>
        ⟨sender, recipient, total, withdrawn, start, «end», status⟩
      left_inv := fun _ => rfl
      right_inv := fun _ => rfl }
  (Codec.ofEquiv fields).comp <| Codec.comp
    ((Scalar.u64Codec.field "end").cons <| (Scalar.addressCodec.field "recipient").cons <|
      (Scalar.addressCodec.field "sender").cons <| (Scalar.u64Codec.field "start").cons <|
        (Status.codec.field "status").cons <| (Scalar.i128Codec.field "total").cons <|
          (Scalar.i128Codec.field "withdrawn").cons .nil)
    Val.mapCodec

/-- What the host records of an event. -/
structure Publication (Address : Type) where
  topics : List (Scalar Address)
  data : Val Address
deriving DecidableEq

/-- `i128` values within tuples. -/
def Scalar.ofI128 (value : I128) : Scalar Address :=
  Scalar.i128Codec.encode value

/-- The topics and the data that `events.rs` publishes. -/
def Event.publication : Event Address → Publication Address
  | .adminScheduled currentAdmin pendingAdmin executeAfter =>
      ⟨[.symbol "admin_scheduled"],
        .vec [.address currentAdmin, .address pendingAdmin, .u64 executeAfter]⟩
  | .adminTransfer previousAdmin newAdmin =>
      ⟨[.symbol "admin_transfer"], .vec [.address previousAdmin, .address newAdmin]⟩
  | .adminCancelled admin => ⟨[.symbol "admin_cancelled"], .scalar (.address admin)⟩
  | .created id sender recipient total =>
      ⟨[.symbol "created", .u64 id], .vec [.address sender, .address recipient, .ofI128 total]⟩
  | .withdrawn id recipient amount =>
      ⟨[.symbol "withdrawn", .u64 id], .vec [.address recipient, .ofI128 amount]⟩
  | .toppedup id sender amount newTotal =>
      ⟨[.symbol "toppedup", .u64 id], .vec [.address sender, .ofI128 amount, .ofI128 newTotal]⟩
  | .extended id sender oldEnd newEnd =>
      ⟨[.symbol "extended", .u64 id], .vec [.address sender, .u64 oldEnd, .u64 newEnd]⟩
  | .cancelled id caller senderRefund recipientPaid =>
      ⟨[.symbol "cancelled", .u64 id],
        .vec [.address caller, .ofI128 senderRefund, .ofI128 recipientPaid]⟩
  | .capadmin admin oldCap newCap =>
      ⟨[.symbol "capadmin"], .vec [.address admin, .ofI128 oldCap, .ofI128 newCap]⟩
  | .adminSet oldAdmin newAdmin =>
      ⟨[.symbol "admin_set"], .vec [.address oldAdmin, .address newAdmin]⟩
  | .upgraded newWasmHash => ⟨[.symbol "upgraded"], .scalar (.bytes newWasmHash)⟩

inductive EventKind where
  | adminScheduled
  | adminTransfer
  | adminCancelled
  | created
  | withdrawn
  | toppedup
  | extended
  | cancelled
  | capadmin
  | adminSet
  | upgraded
deriving DecidableEq

namespace EventKind

/-- The first topic. -/
def name : EventKind → String
  | .adminScheduled => "admin_scheduled"
  | .adminTransfer => "admin_transfer"
  | .adminCancelled => "admin_cancelled"
  | .created => "created"
  | .withdrawn => "withdrawn"
  | .toppedup => "toppedup"
  | .extended => "extended"
  | .cancelled => "cancelled"
  | .capadmin => "capadmin"
  | .adminSet => "admin_set"
  | .upgraded => "upgraded"

def all : List EventKind :=
  [.adminScheduled, .adminTransfer, .adminCancelled, .created, .withdrawn, .toppedup, .extended,
    .cancelled, .capadmin, .adminSet, .upgraded]

def nameCodec : Codec EventKind String :=
  Codec.enumeration all name (by intro kind; cases kind <;> decide)

/-- The arguments of an event of a kind. -/
abbrev Fields (Address : Type) : EventKind → Type
  | .adminScheduled => Address × Address × U64 × Unit
  | .adminTransfer => Address × Address × Unit
  | .adminCancelled => Address
  | .created => U64 × Address × Address × I128 × Unit
  | .withdrawn => U64 × Address × I128 × Unit
  | .toppedup => U64 × Address × I128 × I128 × Unit
  | .extended => U64 × Address × U64 × U64 × Unit
  | .cancelled => U64 × Address × I128 × I128 × Unit
  | .capadmin => Address × I128 × I128 × Unit
  | .adminSet => Address × Address × Unit
  | .upgraded => BitVec 256

/-- An event with no topic but its name. -/
def unindexed {Content : Type} (data : Codec Content (Val Address)) :
    Codec Content (List (Scalar Address) × Val Address) :=
  let alone : Content ≃ Unit × Content :=
    { toFun := fun content => ((), content)
      invFun := Prod.snd
      left_inv := fun _ => rfl
      right_inv := fun _ => rfl }
  (Codec.ofEquiv alone).comp (Codec.nil.pair data)

/-- An event whose second topic is the id of a stream. -/
def indexed {Content : Type} (data : Codec Content (Val Address)) :
    Codec (U64 × Content) (List (Scalar Address) × Val Address) :=
  Scalar.u64Codec.single.pair data

/-- The topics after the first one, and the data. -/
def fieldsCodec : ∀ kind : EventKind,
    Codec (kind.Fields Address) (List (Scalar Address) × Val Address)
  | .adminScheduled =>
      unindexed <| Codec.comp
        (Scalar.addressCodec.cons <| Scalar.addressCodec.cons <| Scalar.u64Codec.cons .nil)
        Val.vecCodec
  | .adminTransfer =>
      unindexed <| (Scalar.addressCodec.cons <| Scalar.addressCodec.cons .nil).comp Val.vecCodec
  | .adminCancelled => unindexed <| Scalar.addressCodec.comp Val.scalarCodec
  | .created =>
      indexed <| Codec.comp
        (Scalar.addressCodec.cons <| Scalar.addressCodec.cons <| Scalar.i128Codec.cons .nil)
        Val.vecCodec
  | .withdrawn =>
      indexed <| (Scalar.addressCodec.cons <| Scalar.i128Codec.cons .nil).comp Val.vecCodec
  | .toppedup =>
      indexed <| Codec.comp
        (Scalar.addressCodec.cons <| Scalar.i128Codec.cons <| Scalar.i128Codec.cons .nil)
        Val.vecCodec
  | .extended =>
      indexed <| Codec.comp
        (Scalar.addressCodec.cons <| Scalar.u64Codec.cons <| Scalar.u64Codec.cons .nil)
        Val.vecCodec
  | .cancelled =>
      indexed <| Codec.comp
        (Scalar.addressCodec.cons <| Scalar.i128Codec.cons <| Scalar.i128Codec.cons .nil)
        Val.vecCodec
  | .capadmin =>
      unindexed <| Codec.comp
        (Scalar.addressCodec.cons <| Scalar.i128Codec.cons <| Scalar.i128Codec.cons .nil)
        Val.vecCodec
  | .adminSet =>
      unindexed <| (Scalar.addressCodec.cons <| Scalar.addressCodec.cons .nil).comp Val.vecCodec
  | .upgraded => unindexed <| Scalar.bytesCodec.comp Val.scalarCodec

end EventKind

namespace Event

/-- An event is its kind with its arguments. -/
def byKind : Event Address ≃ Σ kind : EventKind, kind.Fields Address where
  toFun
    | .adminScheduled currentAdmin pendingAdmin executeAfter =>
        ⟨.adminScheduled, currentAdmin, pendingAdmin, executeAfter, ()⟩
    | .adminTransfer previousAdmin newAdmin => ⟨.adminTransfer, previousAdmin, newAdmin, ()⟩
    | .adminCancelled admin => ⟨.adminCancelled, admin⟩
    | .created id sender recipient total => ⟨.created, id, sender, recipient, total, ()⟩
    | .withdrawn id recipient amount => ⟨.withdrawn, id, recipient, amount, ()⟩
    | .toppedup id sender amount newTotal => ⟨.toppedup, id, sender, amount, newTotal, ()⟩
    | .extended id sender oldEnd newEnd => ⟨.extended, id, sender, oldEnd, newEnd, ()⟩
    | .cancelled id caller senderRefund recipientPaid =>
        ⟨.cancelled, id, caller, senderRefund, recipientPaid, ()⟩
    | .capadmin admin oldCap newCap => ⟨.capadmin, admin, oldCap, newCap, ()⟩
    | .adminSet oldAdmin newAdmin => ⟨.adminSet, oldAdmin, newAdmin, ()⟩
    | .upgraded newWasmHash => ⟨.upgraded, newWasmHash⟩
  invFun
    | ⟨.adminScheduled, currentAdmin, pendingAdmin, executeAfter, _⟩ =>
        .adminScheduled currentAdmin pendingAdmin executeAfter
    | ⟨.adminTransfer, previousAdmin, newAdmin, _⟩ => .adminTransfer previousAdmin newAdmin
    | ⟨.adminCancelled, admin⟩ => .adminCancelled admin
    | ⟨.created, id, sender, recipient, total, _⟩ => .created id sender recipient total
    | ⟨.withdrawn, id, recipient, amount, _⟩ => .withdrawn id recipient amount
    | ⟨.toppedup, id, sender, amount, newTotal, _⟩ => .toppedup id sender amount newTotal
    | ⟨.extended, id, sender, oldEnd, newEnd, _⟩ => .extended id sender oldEnd newEnd
    | ⟨.cancelled, id, caller, senderRefund, recipientPaid, _⟩ =>
        .cancelled id caller senderRefund recipientPaid
    | ⟨.capadmin, admin, oldCap, newCap, _⟩ => .capadmin admin oldCap newCap
    | ⟨.adminSet, oldAdmin, newAdmin, _⟩ => .adminSet oldAdmin newAdmin
    | ⟨.upgraded, newWasmHash⟩ => .upgraded newWasmHash
  left_inv event := by cases event <;> rfl
  right_inv := by
    rintro ⟨kind, fields⟩
    cases kind <;> rfl

/-- The name comes first among the topics. -/
def topicsCodec :
    Codec (String × List (Scalar Address) × Val Address) (Publication Address) where
  encode raw := ⟨.symbol raw.1 :: raw.2.1, raw.2.2⟩
  decode
    | ⟨.symbol name :: topics, data⟩ => some (name, topics, data)
    | _ => none
  decode_eq_some_iff := by
    intro raw value
    constructor
    · intro decoded
      split at decoded
      · cases decoded
        rfl
      · contradiction
    · rintro rfl
      rfl

def codec : Codec (Event Address) (Publication Address) :=
  (Codec.ofEquiv byKind).comp <|
    (Codec.tagged EventKind.nameCodec EventKind.fieldsCodec).comp topicsCodec

/-- The codec writes what the contract publishes. -/
theorem codec_encode (event : Event Address) : codec.encode event = event.publication := by
  cases event <;> rfl

end Event

/-- What has been published, in order. -/
def State.published (state : State Address) : List (Publication Address) :=
  state.events.map Event.publication

/-- The published topics and data can be read back. -/
theorem published_readable (state : State Address) :
    Event.codec.list.decode state.published = some state.events := by
  rw [Codec.decode_eq_some_iff]
  exact List.map_congr_left fun event _ => Event.codec_encode event

theorem events_eq_of_published {first second : State Address}
    (same : first.published = second.published) : first.events = second.events := by
  have read := published_readable first
  rw [same, published_readable, Option.some.injEq] at read
  exact read.symm

/-- What the log says about two records is the same. -/
structure Stream.SameFigures (log : List (Event Address)) (first second : Stream Address) :
    Prop where
  sender : first.sender = second.sender
  recipient : first.recipient = second.recipient
  total : first.total = second.total
  withdrawn : first.withdrawn = second.withdrawn
  status : first.status = second.status
  «end» : log.filterMap Event.extended? ≠ [] → first.end = second.end

/-- Records with the same log have the same figures. -/
theorem LogDetermines.sameFigures {log : List (Event Address)} {first second : Stream Address}
    (determines : LogDetermines log first) (otherDetermines : LogDetermines log second) :
    first.SameFigures log second := by
  rcases determines.total with ⟨opening, created, totalEq, _⟩
  rcases otherDetermines.total with ⟨otherOpening, otherCreated, otherTotalEq, _⟩
  rw [created, List.singleton_inj, Prod.mk.injEq, Prod.mk.injEq] at otherCreated
  rcases otherCreated with ⟨sender, recipient, rfl⟩
  have total : first.total = second.total :=
    BoundedInt.ext (totalEq.trans otherTotalEq.symm)
  have withdrawn : first.withdrawn = second.withdrawn :=
    BoundedInt.ext (determines.withdrawn.trans otherDetermines.withdrawn.symm)
  have cancelled : first.status = .cancelled ↔ second.status = .cancelled :=
    determines.cancelled.trans otherDetermines.cancelled.symm
  refine ⟨sender, recipient, total, withdrawn, ?_, ?_⟩
  · have completed := determines.completed
    have otherCompleted := otherDetermines.completed
    rw [total] at completed
    cases firstStatus : first.status <;> cases secondStatus : second.status <;>
      simp_all
  · intro extended
    rcases Option.ne_none_iff_exists'.mp (mt List.getLast?_eq_none_iff.mp extended) with
      ⟨extension, last⟩
    exact (determines.end.2 extension last).trans (otherDetermines.end.2 extension last).symm

/-- A stream has been opened exactly if there are events about it. -/
theorem State.LogKept.mem_iff {state : State Address} {id : U64} (kept : state.LogKept id) :
    id ∈ state.streams ↔ state.eventsFor id ≠ [] := by
  rw [Finmap.mem_iff]
  constructor
  · rintro ⟨stream, stored⟩ nothing
    rcases kept.stored stream stored with ⟨opening, agrees⟩
    have created := agrees.created
    rw [nothing] at created
    contradiction
  · intro something
    rw [← Option.ne_none_iff_exists']
    exact mt kept.missing something

variable [DecidableEq Address]

theorem History.determines {contract : Address} {trace : Trace Address} {final : System Address}
    (history : History contract trace final) {id : U64} {stream : Stream Address}
    (stored : final.state.streams.lookup id = some stream) :
    LogDetermines (final.state.eventsFor id) stream := by
  rcases (history.logKept id).stored stream stored with ⟨opening, agrees⟩
  exact agrees.determines (history.reachable.wellFormed stored)

/--
Two runs, of whatever instances of the contract, that publish the same topics and
data have opened the same ids.  Their records agree on the parties, the total, what
has been withdrawn and the status, and if the stream has ever been extended, on its
end.
-/
theorem published_log_determines {contract other : Address} {trace otherTrace : Trace Address}
    {first second : System Address} (history : History contract trace first)
    (otherHistory : History other otherTrace second)
    (same : first.state.published = second.state.published) (id : U64) :
    (id ∈ first.state.streams ↔ id ∈ second.state.streams) ∧
      ∀ stream otherStream, first.state.streams.lookup id = some stream →
        second.state.streams.lookup id = some otherStream →
          stream.SameFigures (first.state.eventsFor id) otherStream := by
  have sameEvents : first.state.eventsFor id = second.state.eventsFor id := by
    rw [State.eventsFor, events_eq_of_published same, State.eventsFor]
  constructor
  · rw [(history.logKept id).mem_iff, (otherHistory.logKept id).mem_iff, sameEvents]
  · intro stream otherStream stored otherStored
    apply (history.determines stored).sameFigures
    rw [sameEvents]
    exact otherHistory.determines otherStored

namespace Sample

/-- After everything that is announced, a second cancellation is refused. -/
def refusedCancel : List (Action Party) :=
  announcing ++ [callBy .alice (.cancel 0 .alice)]

end Sample

/-- The theorem applies to runs that differ in a call that fails. -/
theorem published_log_determines_refusedCancel :
    (0 ∈ (Sample.final Sample.announcing).state.streams ↔
        0 ∈ (Sample.final Sample.refusedCancel).state.streams) ∧
      ∀ stream otherStream,
        (Sample.final Sample.announcing).state.streams.lookup 0 = some stream →
          (Sample.final Sample.refusedCancel).state.streams.lookup 0 = some otherStream →
            stream.SameFigures ((Sample.final Sample.announcing).state.eventsFor 0)
              otherStream :=
  published_log_determines (Sample.history (by decide)) (Sample.history (by decide)) rfl 0

/-- A negative amount has a negative high word. -/
example : (Event.cancelled 0 Sample.Party.alice (Sample.units 1425) ⟨-425, by decide, by decide⟩
      : Event Sample.Party).publication =
    ⟨[.symbol "cancelled", .u64 0],
      .vec [.address .alice, .i128 ⟨0, by decide, by decide⟩ (Sample.time 1425),
        .i128 ⟨-1, by decide, by decide⟩ (Sample.time (2 ^ 64 - 425))]⟩ := by
  decide

end StreamPay
