import StreamPay.Answers
import StreamPay.Expiry
import StreamPay.Wire

/-!
# Results on the wire

A client that calls the contract gets a value, the code of an error, or nothing if
the call aborts.  It reads the value as the type that the entry point declares.  This
file gives these types and the codes of `error.rs`, and shows that the client reads
exactly the result of the call, with one exception.  If the token refuses a transfer
with an error of its own, the host passes its code on, and the client takes it for an
error of the contract.
-/

namespace StreamPay

open Foundation Foundation.Computation

variable {Address : Type}

/-- The discriminants of `Error`; there is no error 17. -/
def Error.code : Error → U32
  | .alreadyInitialized => 1
  | .notInitialized => toU32 2
  | .streamNotFound => toU32 3
  | .invalidAmount => toU32 4
  | .invalidTimeRange => toU32 5
  | .unauthorized => toU32 6
  | .overflow => toU32 7
  | .alreadyCancelled => toU32 8
  | .nothingToWithdraw => toU32 9
  | .alreadyCompleted => toU32 10
  | .endTimeInPast => toU32 11
  | .amountBelowMinimum => toU32 12
  | .streamNotActive => toU32 13
  | .noPendingAdminAction => toU32 14
  | .timelockNotExpired => toU32 15
  | .invalidAdminAction => toU32 16
  | .supplyCapExceeded => toU32 18
  | .emptyBatch => toU32 19

def Error.all : List Error :=
  [.alreadyInitialized, .notInitialized, .streamNotFound, .invalidAmount, .invalidTimeRange,
    .unauthorized, .overflow, .alreadyCancelled, .nothingToWithdraw, .alreadyCompleted,
    .endTimeInPast, .amountBelowMinimum, .streamNotActive, .noPendingAdminAction,
    .timelockNotExpired, .invalidAdminAction, .supplyCapExceeded, .emptyBatch]

def Error.codec : Codec Error U32 :=
  Codec.enumeration all code (by intro error; cases error <;> decide)

theorem Error.codec_code (error : Error) : Error.codec.decode error.code = some error :=
  Error.codec.decode_encode error

/-- The types that entry points declare for their results. -/
inductive ReplyKind where
  | unit
  | bool
  | u32
  | u64
  | i128
  | ids
  | address
  | addressOption
  | u64Option
  | status
  | stream
  | summary
deriving DecidableEq

abbrev ReplyKind.Content (Address : Type) : ReplyKind → Type
  | .unit => Unit
  | .bool => Bool
  | .u32 => U32
  | .u64 => U64
  | .i128 => I128
  | .ids => List U64
  | .address => Address
  | .addressOption => Option Address
  | .u64Option => Option U64
  | .status => Status
  | .stream => Stream Address
  | .summary => StreamSummary

/-- A reply is its type with its content. -/
def Reply.byKind : Reply Address ≃ Σ kind : ReplyKind, kind.Content Address where
  toFun
    | .unit => ⟨.unit, ()⟩
    | .bool value => ⟨.bool, value⟩
    | .u32 value => ⟨.u32, value⟩
    | .u64 value => ⟨.u64, value⟩
    | .i128 value => ⟨.i128, value⟩
    | .ids value => ⟨.ids, value⟩
    | .address value => ⟨.address, value⟩
    | .addressOption value => ⟨.addressOption, value⟩
    | .u64Option value => ⟨.u64Option, value⟩
    | .status value => ⟨.status, value⟩
    | .stream value => ⟨.stream, value⟩
    | .summary value => ⟨.summary, value⟩
  invFun
    | ⟨.unit, _⟩ => .unit
    | ⟨.bool, value⟩ => .bool value
    | ⟨.u32, value⟩ => .u32 value
    | ⟨.u64, value⟩ => .u64 value
    | ⟨.i128, value⟩ => .i128 value
    | ⟨.ids, value⟩ => .ids value
    | ⟨.address, value⟩ => .address value
    | ⟨.addressOption, value⟩ => .addressOption value
    | ⟨.u64Option, value⟩ => .u64Option value
    | ⟨.status, value⟩ => .status value
    | ⟨.stream, value⟩ => .stream value
    | ⟨.summary, value⟩ => .summary value
  left_inv reply := by cases reply <;> rfl
  right_inv := by
    rintro ⟨kind, content⟩
    cases kind <;> rfl

/-- `()` is the void value. -/
def Scalar.unitCodec : Codec Unit (Scalar Address) where
  encode _ := .void
  decode
    | .void => some ()
    | _ => none
  decode_eq_some_iff := by
    intro raw value
    cases raw <;> simp

/-- `None` is the void value, and `Some` adds nothing to a value that is not void. -/
def Scalar.optionCodec {Value : Type} (codec : Codec Value (Scalar Address))
    (notVoid : ∀ value, codec.encode value ≠ .void) : Codec (Option Value) (Scalar Address) where
  encode
    | none => .void
    | some value => codec.encode value
  decode
    | .void => some none
    | raw => (codec.decode raw).map some
  decode_eq_some_iff := by
    intro raw value
    cases value with
    | none => cases raw <;> simp
    | some value =>
        cases raw with
        | void => simpa using notVoid value
        | _ => simp [codec.decode_eq_some_iff]

/-- The values that entry points return. -/
def ReplyKind.codec : ∀ kind : ReplyKind, Codec (kind.Content Address) (Val Address)
  | .unit => Scalar.unitCodec.comp Val.scalarCodec
  | .bool => Scalar.boolCodec.comp Val.scalarCodec
  | .u32 => Scalar.u32Codec.comp Val.scalarCodec
  | .u64 => Scalar.u64Codec.comp Val.scalarCodec
  | .i128 => Scalar.i128Codec.comp Val.scalarCodec
  | .ids => Scalar.u64Codec.list.comp Val.vecCodec
  | .address => Scalar.addressCodec.comp Val.scalarCodec
  | .addressOption =>
      (Scalar.optionCodec Scalar.addressCodec (by intro value; nofun)).comp Val.scalarCodec
  | .u64Option => (Scalar.optionCodec Scalar.u64Codec (by intro value; nofun)).comp Val.scalarCodec
  | .status => Status.codec.comp Val.scalarCodec
  | .stream => Stream.codec
  | .summary => StreamSummary.codec

def View.kind : View → ReplyKind
  | .getAdmin | .getToken => .address
  | .getPendingAdmin => .addressOption
  | .getAdminActionExecuteAfter => .u64Option
  | .streamCounter | .duration _ | .elapsed _ => .u64
  | .getTotalSupply | .getSupplyCap | .streamedAmount _ | .remainingAmount _
  | .withdrawableAmount _ => .i128
  | .getStream _ => .stream
  | .getStatus _ => .status
  | .isActive _ => .bool
  | .progressBps _ | .percentWithdrawn _ => .u32
  | .getSummary _ => .summary

/-- The type that the entry point of a call declares. -/
def Call.kind : Call Address → ReplyKind
  | .scheduleAdminTransfer .. | .createStream .. => .u64
  | .createStreamBatch .. => .ids
  | .topUp .. | .withdraw .. => .i128
  | .query view => view.kind
  | .initializeContract .. | .executeAdminTransfer | .cancelAdminTransfer _ | .setAdmin _
  | .setSupplyCap _ | .extendStream .. | .cancel .. => .unit

def Reply.encode (reply : Reply Address) : Val Address :=
  (Reply.byKind reply).1.codec.encode (Reply.byKind reply).2

/-- What the host hands to the caller. -/
inductive Response (Address : Type) where
  | value (raw : Val Address)
  | error (code : U32)
  | aborted
deriving DecidableEq

/--
A panic leaves no code of `Error`, and neither does a call that the host does not run.
The code with which a token refuses a transfer, if it gives one, is passed on.
-/
def respond (refusal : Option U32) : Option (Except Fault (Reply Address)) → Response Address
  | some (.ok reply) => .value reply.encode
  | some (.error (.error error)) => .error error.code
  | some (.error (.trap .transferFailed)) =>
      match refusal with
      | some code => .error code
      | none => .aborted
  | some (.error (.trap _)) | none => .aborted

/-- The calls that move tokens. -/
def Call.movesTokens : Call Address → Bool
  | .createStream .. | .createStreamBatch .. | .topUp .. | .withdraw .. | .cancel .. => true
  | _ => false

/-- How the client of a call reads the response. -/
def Call.understand (call : Call Address) :
    Response Address → Option (Except Error (Reply Address))
  | .value raw =>
      (call.kind.codec.decode raw).map fun content => .ok (Reply.byKind.symm ⟨call.kind, content⟩)
  | .error code => (Error.codec.decode code).map .error
  | .aborted => none

theorem View.kind_of_run {env : Env Address} {view : View} {before after : State Address}
    {reply : Reply Address} (returned : view.run env before = .ok reply after) :
    (Reply.byKind reply).1 = view.kind := by
  cases view <;>
    · rcases map_eq_ok_iff.mp returned with ⟨_, _, rfl⟩
      rfl

theorem Effect.kind_eq [DecidableEq Address] {env : Env Address} {before after : State Address}
    {call : Call Address} {reply : Reply Address} (effect : Effect env before call reply after) :
    (Reply.byKind reply).1 = call.kind := by
  cases effect with
  | query returned => exact View.kind_of_run returned
  | _ => rfl

theorem Call.understand_value {call : Call Address} {reply : Reply Address}
    (sameKind : (Reply.byKind reply).1 = call.kind) :
    call.understand (.value reply.encode) = some (.ok reply) := by
  simp only [understand, Reply.encode]
  rw [← sameKind, Codec.decode_encode, Option.map_some, Sigma.eta, Equiv.symm_apply_apply]

/-- The client reads a result from nothing but the response that stands for it. -/
theorem Call.respond_of_understand {call : Call Address} {refusal : Option U32}
    {response : Response Address} {result : Except Error (Reply Address)}
    (understood : call.understand response = some result) :
    response = respond refusal (some (result.mapError .error)) := by
  cases response with
  | value raw =>
      rcases Option.map_eq_some_iff.mp understood with ⟨content, decoded, rfl⟩
      rw [Codec.decode_eq_some_iff] at decoded
      change Response.value raw = .value (Reply.encode _)
      rw [Reply.encode, Equiv.apply_symm_apply, decoded]
  | error code =>
      rcases Option.map_eq_some_iff.mp understood with ⟨error, decoded, rfl⟩
      rw [Codec.decode_eq_some_iff] at decoded
      exact congrArg Response.error decoded.symm
  | aborted => cases understood

/-- The client takes the code of a token for that of an error, if it is one. -/
theorem Call.understand_refused {call : Call Address} {refusal : Option U32}
    {result : Except Error (Reply Address)} :
    call.understand (respond refusal (some (.error (.trap .transferFailed)))) = some result ↔
      ∃ error : Error, refusal = some error.code ∧ result = .error error := by
  cases refusal with
  | none => simp [respond, understand]
  | some code =>
      rw [respond, understand, Option.map_eq_some_iff]
      refine exists_congr fun error => ?_
      rw [Codec.decode_eq_some_iff, Option.some.injEq]
      exact and_congr eq_comm eq_comm

section Refusals

variable [DecidableEq Address] {contract : Address} {system : System Address}
  {invocation : Invocation Address}

/-- The token is called by the calls that move tokens alone. -/
theorem movesTokens_of_transferFailed
    (refused : (invocation.outcome contract system).1 = .error (.trap .transferFailed)) :
    invocation.call.movesTokens = true := by
  by_contra moves
  have ends : Ends (invocation.call.run (invocation.env contract system.ledger))
      (fun _ _ => True) (fun fault => fault ≠ .trap .transferFailed) system.state := by
    rcases invocation with ⟨authorized, transferAccepted, call⟩
    cases call with
    | initializeContract admin token =>
        simp [Call.run, initializeContract, hasAdmin, writeAdmin, writeToken, writeCounter,
          writeTotalSupply, writeSupplyCap, extendInstance]
    | scheduleAdminTransfer admin newAdmin =>
        simp [Call.run, scheduleAdminTransfer, writePendingAdminAction, extendInstance,
          adminTransferScheduled, publish]
    | executeAdminTransfer =>
        simp [Call.run, executeAdminTransfer, readPendingAdmin, readAdminActionExecuteAfter,
          writeAdmin, clearPendingAdminAction, extendInstance, adminTransferExecuted, publish]
    | cancelAdminTransfer admin =>
        simp [Call.run, cancelAdminTransfer, readPendingAdmin, clearPendingAdminAction,
          extendInstance, adminTransferCancelled, publish]
    | setAdmin newAdmin =>
        simp [Call.run, setAdmin, writeAdmin, extendInstance, adminChanged, publish]
    | setSupplyCap newCap =>
        simp [Call.run, setSupplyCap, readSupplyCap, writeSupplyCap, extendInstance,
          supplyCapUpdated, publish]
    | extendStream id sender newEnd =>
        simp [Call.run, extendStream, writeStream, extendInstance, streamExtended, publish]
    | query view =>
        apply view.ends_viewFault.mono_fails
        rintro fault (_ | _)
        all_goals simp
    | _ => exact absurd rfl moves
  unfold Invocation.outcome at refused
  split at refused
  · contradiction
  · rename_i fault after runEq
    cases refused
    exact ends.of_error runEq rfl

theorem kind_eq_of_answer {reply : Reply Address}
    (answered : invocation.answer contract system = some (.ok reply)) :
    (Reply.byKind reply).1 = invocation.call.kind := by
  by_cases serves : system.Serves invocation
  · rw [answer_of_serves serves, Option.some.injEq] at answered
    rcases exists_effect_of_outcome answered with ⟨_, effect⟩
    exact effect.kind_eq
  · rw [answer_of_not_serves serves] at answered
    contradiction

end Refusals

/--
The client of a call reads its reply at the declared type or its error under the code,
and nothing after a panic or if the host does not run the call.  Only where the token
refuses a transfer with the code of an error does the client read that error although
the call has panicked, and only in calls that move tokens.  No other response reads as a
result.
-/
theorem response_understood [DecidableEq Address] (contract : Address) (system : System Address)
    (invocation : Invocation Address) (refusal : Option U32) :
    (∀ result,
      invocation.call.understand (respond refusal (invocation.answer contract system)) =
          some result ↔
        invocation.answer contract system = some (result.mapError .error) ∨
          invocation.answer contract system = some (.error (.trap .transferFailed)) ∧
            ∃ error, refusal = some error.code ∧ result = .error error) ∧
      (invocation.answer contract system = some (.error (.trap .transferFailed)) →
        invocation.call.movesTokens = true) ∧
      ∀ response result, invocation.call.understand response = some result →
        response = respond refusal (some (result.mapError .error)) := by
  refine ⟨fun result => ?_, fun refused => ?_, fun _ _ understood =>
    Call.respond_of_understand understood⟩
  · rcases answerEq : invocation.answer contract system with _ | ((error | trap) | reply)
    · simp [respond, Call.understand]
    · rw [respond, Call.understand, Error.codec_code, Option.map_some]
      cases result <;> simp [Except.mapError]
    · by_cases refused : trap = .transferFailed
      · subst trap
        rw [Call.understand_refused]
        cases result <;> simp [Except.mapError]
      · -- A panic of another kind leaves no code.
        have aborted :
            respond refusal (some (.error (.trap trap))) = (.aborted : Response Address) := by
          cases trap <;> first | rfl | contradiction
        rw [aborted]
        cases result <;> simp [Call.understand, Except.mapError, refused]
    · rw [respond, Call.understand_value (kind_eq_of_answer answerEq)]
      cases result <;> simp [Except.mapError]
  · by_cases serves : system.Serves invocation
    · rw [answer_of_serves serves, Option.some.injEq] at refused
      exact movesTokens_of_transferFailed refused
    · rw [answer_of_not_serves serves] at refused
      contradiction

end StreamPay
