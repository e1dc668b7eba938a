import StreamPay.Expiry
import StreamPay.Foundation.Observation
import StreamPay.Wire

/-!
# Entries of the ledger

This file follows the layout of `storage.rs`.  The singletons lie in the instance entry
and the streams in entries of their own, all under keys derived from `DataKey`.

The entries and their lifetimes hold all that the contract knows.  Two systems with the
same entries, the same balances and the same ledger give the same to the callers of all
calls, and keep the same entries, however they have got there.  In particular what the
model records of the past influences nothing.
-/

namespace StreamPay

open Foundation

variable {Address : Type}

/-- `DataKey`. -/
inductive DataKey where
  | admin
  | token
  | counter
  | pendingAdmin
  | adminActionExecuteAfter
  | totalSupply
  | supplyCap
  | stream (id : U64)
deriving DecidableEq

def DataKey.codec : Codec DataKey (Val Address) where
  encode
    | .admin => .vec [.symbol "Admin"]
    | .token => .vec [.symbol "Token"]
    | .counter => .vec [.symbol "Counter"]
    | .pendingAdmin => .vec [.symbol "PendingAdmin"]
    | .adminActionExecuteAfter => .vec [.symbol "AdminActionExecuteAfter"]
    | .totalSupply => .vec [.symbol "TotalSupply"]
    | .supplyCap => .vec [.symbol "SupplyCap"]
    | .stream id => .vec [.symbol "Stream", .u64 id]
  decode
    | .vec [.symbol "Admin"] => some .admin
    | .vec [.symbol "Token"] => some .token
    | .vec [.symbol "Counter"] => some .counter
    | .vec [.symbol "PendingAdmin"] => some .pendingAdmin
    | .vec [.symbol "AdminActionExecuteAfter"] => some .adminActionExecuteAfter
    | .vec [.symbol "TotalSupply"] => some .totalSupply
    | .vec [.symbol "SupplyCap"] => some .supplyCap
    | .vec [.symbol "Stream", .u64 id] => some (.stream id)
    | _ => none
  decode_eq_some_iff := by
    intro raw key
    constructor
    · intro decoded
      split at decoded <;> cases decoded <;> rfl
    · rintro rfl
      cases key <;> rfl

/-- The value that is stored under a key. -/
def State.entry (state : State Address) : DataKey → Option (Val Address)
  | .admin => state.admin.map (Scalar.addressCodec.comp Val.scalarCodec).encode
  | .token => state.token.map (Scalar.addressCodec.comp Val.scalarCodec).encode
  | .counter => state.counter.map (Scalar.u64Codec.comp Val.scalarCodec).encode
  | .pendingAdmin => state.pendingAdmin.map (Scalar.addressCodec.comp Val.scalarCodec).encode
  | .adminActionExecuteAfter =>
      state.adminActionExecuteAfter.map (Scalar.u64Codec.comp Val.scalarCodec).encode
  | .totalSupply => state.totalSupply.map (Scalar.i128Codec.comp Val.scalarCodec).encode
  | .supplyCap => state.supplyCap.map (Scalar.i128Codec.comp Val.scalarCodec).encode
  | .stream id => (state.streams.lookup id).map Stream.codec.encode

/-- The ledger entry of the contract under a key of the host. -/
def State.ledgerEntry (state : State Address) (key : Val Address) : Option (Val Address) :=
  (DataKey.codec.decode key).bind state.entry

/-- The last ledger at which the value under a key can be used. -/
def State.liveUntil (state : State Address) : DataKey → Option ℤ
  | .stream id => if id ∈ state.streams then some (state.streamLiveUntil id) else none
  | _ => some state.instanceLiveUntil

def State.ledgerLiveUntil (state : State Address) (key : Val Address) : Option ℤ :=
  (DataKey.codec.decode key).bind state.liveUntil

/-- The same entries with the same lifetimes, and the same balances. -/
structure State.SameEntries (first second : State Address) : Prop where
  entry : ∀ key, first.ledgerEntry key = second.ledgerEntry key
  liveUntil : ∀ key, first.ledgerLiveUntil key = second.ledgerLiveUntil key
  balances : first.balances = second.balances

section Layout

variable {first second state : State Address}

@[simp]
theorem ledgerEntry_encode (key : DataKey) :
    state.ledgerEntry (DataKey.codec.encode key) = state.entry key := by
  rw [State.ledgerEntry, Codec.decode_encode, Option.bind_some]

@[simp]
theorem ledgerLiveUntil_encode (key : DataKey) :
    state.ledgerLiveUntil (DataKey.codec.encode key) = state.liveUntil key := by
  rw [State.ledgerLiveUntil, Codec.decode_encode, Option.bind_some]

/-- No two keys share a value, and under no other key is there one. -/
theorem State.SameEntries.at_key (same : first.SameEntries second) (key : DataKey) :
    first.entry key = second.entry key ∧ first.liveUntil key = second.liveUntil key := by
  rw [← ledgerEntry_encode, ← ledgerEntry_encode, ← ledgerLiveUntil_encode,
    ← ledgerLiveUntil_encode]
  exact ⟨same.entry _, same.liveUntil _⟩

/-- The values under the keys are the values of the storage. -/
theorem State.SameEntries.values (same : first.SameEntries second) :
    first.SameShown .values second := by
  have admin : first.admin = second.admin :=
    Option.map_injective (Codec.encode_injective _) (same.at_key .admin).1
  have token : first.token = second.token :=
    Option.map_injective (Codec.encode_injective _) (same.at_key .token).1
  have counter : first.counter = second.counter :=
    Option.map_injective (Codec.encode_injective _) (same.at_key .counter).1
  have pendingAdmin : first.pendingAdmin = second.pendingAdmin :=
    Option.map_injective (Codec.encode_injective _) (same.at_key .pendingAdmin).1
  have executeAfter : first.adminActionExecuteAfter = second.adminActionExecuteAfter :=
    Option.map_injective (Codec.encode_injective _) (same.at_key .adminActionExecuteAfter).1
  have totalSupply : first.totalSupply = second.totalSupply :=
    Option.map_injective (Codec.encode_injective _) (same.at_key .totalSupply).1
  have supplyCap : first.supplyCap = second.supplyCap :=
    Option.map_injective (Codec.encode_injective _) (same.at_key .supplyCap).1
  have streams : first.streams = second.streams := by
    apply Finmap.ext_lookup
    intro id
    exact Option.map_injective (Codec.encode_injective _) (same.at_key (.stream id)).1
  exact sameShown_of_storage admin token counter pendingAdmin executeAfter totalSupply supplyCap
    streams same.balances

end Layout

variable [DecidableEq Address]

namespace Sample

end Sample

/-- The entry of a half-withdrawn stream. -/
example : (Sample.final Sample.withdrawing).state.ledgerEntry
      (.vec [.symbol "Stream", .u64 0]) =
    some (.map [("end", .u64 (Sample.time 200)), ("recipient", .address .bob),
      ("sender", .address .alice), ("start", .u64 (Sample.time 100)), ("status", .u32 0),
      ("total", Scalar.ofI128 (Sample.units 1000)),
      ("withdrawn", Scalar.ofI128 (Sample.units 500))]) := by
  decide

end StreamPay
