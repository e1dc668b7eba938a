import Mathlib.Data.List.Basic
import Mathlib.Logic.Equiv.Defs
import Mathlib.Tactic.Common

/-!
# Codecs

A codec writes values into a raw format and reads them back.  It reads exactly what
it writes: what has been written is read as the same value, and whatever can be read
is what would be written.  Hence different values are written differently.

Codecs of records are put together from those of their fields.
-/

namespace Foundation

universe u v w x

/-- An encoding, and the decoding that accepts its results only. -/
structure Codec (Value : Type u) (Raw : Type v) where
  encode : Value → Raw
  decode : Raw → Option Value
  decode_eq_some_iff : ∀ {raw value}, decode raw = some value ↔ encode value = raw

namespace Codec

variable {Value : Type u} {Raw : Type v} {Other : Type w} {OtherRaw : Type x}

@[simp]
theorem decode_encode (codec : Codec Value Raw) (value : Value) :
    codec.decode (codec.encode value) = some value :=
  codec.decode_eq_some_iff.mpr rfl

theorem encode_injective (codec : Codec Value Raw) : Function.Injective codec.encode := by
  intro first second same
  have decoded := codec.decode_encode first
  rw [same, decode_encode, Option.some.injEq] at decoded
  exact decoded.symm

def ofEquiv (equiv : Value ≃ Raw) : Codec Value Raw where
  encode := equiv
  decode raw := some (equiv.symm raw)
  decode_eq_some_iff := by
    intro raw value
    rw [Option.some.injEq, Equiv.symm_apply_eq, eq_comm]

/-- Values in a format that has a format of its own. -/
def comp (inner : Codec Value Raw) (outer : Codec Raw OtherRaw) : Codec Value OtherRaw where
  encode value := outer.encode (inner.encode value)
  decode raw := (outer.decode raw).bind inner.decode
  decode_eq_some_iff := by
    intro raw value
    simp only [Option.bind_eq_some_iff, decode_eq_some_iff]
    constructor
    · rintro ⟨middle, rfl, rfl⟩
      rfl
    · rintro rfl
      exact ⟨_, rfl, rfl⟩

/-- Finitely many values, each of which is found under its code. -/
def enumeration [DecidableEq Raw] (values : List Value) (code : Value → Raw)
    (found : ∀ value, (values.find? fun other => code other = code value) = some value) :
    Codec Value Raw where
  encode := code
  decode raw := values.find? fun other => code other = raw
  decode_eq_some_iff := by
    intro raw value
    constructor
    · intro decoded
      simpa using List.find?_some decoded
    · rintro rfl
      exact found value

/-- Two values side by side. -/
def pair (first : Codec Value Raw) (second : Codec Other OtherRaw) :
    Codec (Value × Other) (Raw × OtherRaw) where
  encode values := (first.encode values.1, second.encode values.2)
  decode raws :=
    (first.decode raws.1).bind fun value => (second.decode raws.2).map (Prod.mk value)
  decode_eq_some_iff := by
    rintro ⟨raw, otherRaw⟩ ⟨value, other⟩
    simp only [Option.bind_eq_some_iff, Option.map_eq_some_iff, decode_eq_some_iff,
      Prod.mk.injEq]
    constructor
    · rintro ⟨value, encoded, other, otherEncoded, rfl, rfl⟩
      exact ⟨encoded, otherEncoded⟩
    · rintro ⟨encoded, otherEncoded⟩
      exact ⟨value, encoded, other, otherEncoded, rfl, rfl⟩

/-- Values of several kinds, each with the format of its kind. -/
def tagged {Tag : Type w} {RawTag : Type x} {Content : Tag → Type u} (tags : Codec Tag RawTag)
    (contents : ∀ tag, Codec (Content tag) Raw) : Codec (Σ tag, Content tag) (RawTag × Raw) where
  encode value := (tags.encode value.1, (contents value.1).encode value.2)
  decode raws :=
    (tags.decode raws.1).bind fun tag => ((contents tag).decode raws.2).map (Sigma.mk tag)
  decode_eq_some_iff := by
    rintro ⟨rawTag, raw⟩ ⟨tag, content⟩
    simp only [Option.bind_eq_some_iff, Option.map_eq_some_iff, decode_eq_some_iff,
      Prod.mk.injEq]
    constructor
    · rintro ⟨tag, encodedTag, content, encoded, same⟩
      cases same
      exact ⟨encodedTag, encoded⟩
    · rintro ⟨encodedTag, encoded⟩
      exact ⟨tag, encodedTag, content, encoded, rfl⟩

theorem mapM_eq_some_iff (codec : Codec Value Raw) {raws : List Raw} {values : List Value} :
    raws.mapM codec.decode = some values ↔ values.map codec.encode = raws := by
  induction raws generalizing values with
  | nil => simp [eq_comm]
  | cons raw rest ih =>
      simp only [List.mapM_cons, Option.pure_def, Option.bind_eq_bind, Option.bind_eq_some_iff,
        decode_eq_some_iff, ih, Option.some.injEq]
      constructor
      · rintro ⟨value, rfl, values, rfl, rfl⟩
        rfl
      · intro same
        rcases List.map_eq_cons_iff.mp same with ⟨value, values, rfl, encoded, encodedRest⟩
        exact ⟨value, encoded, values, encodedRest, rfl⟩

def list (codec : Codec Value Raw) : Codec (List Value) (List Raw) where
  encode values := values.map codec.encode
  decode raws := raws.mapM codec.decode
  decode_eq_some_iff := codec.mapM_eq_some_iff

/-- A value under its name. -/
def field {Name : Type w} [DecidableEq Name] (name : Name) (codec : Codec Value Raw) :
    Codec Value (Name × Raw) where
  encode value := (name, codec.encode value)
  decode entry := if name = entry.1 then codec.decode entry.2 else none
  decode_eq_some_iff := by
    rintro ⟨other, raw⟩ value
    simp only [Option.ite_none_right_eq_some, decode_eq_some_iff, Prod.mk.injEq]

/-- A list of one item. -/
def single (codec : Codec Value Raw) : Codec Value (List Raw) where
  encode value := [codec.encode value]
  decode
    | [raw] => codec.decode raw
    | _ => none
  decode_eq_some_iff := by
    rintro (_ | ⟨raw, _ | ⟨next, rest⟩⟩) value
    · simp
    · simp [decode_eq_some_iff]
    · simp

/-- The empty record. -/
def nil : Codec Unit (List Raw) where
  encode _ := []
  decode
    | [] => some ()
    | _ :: _ => none
  decode_eq_some_iff := by
    intro raws value
    cases raws <;> simp

/-- A record with one more field in front. -/
def cons (head : Codec Value Raw) (tail : Codec Other (List Raw)) :
    Codec (Value × Other) (List Raw) where
  encode record := head.encode record.1 :: tail.encode record.2
  decode
    | [] => none
    | raw :: raws => (head.decode raw).bind fun value => (tail.decode raws).map (Prod.mk value)
  decode_eq_some_iff := by
    rintro raws ⟨value, other⟩
    cases raws with
    | nil => simp
    | cons raw raws =>
        simp only [Option.bind_eq_some_iff, Option.map_eq_some_iff, decode_eq_some_iff,
          List.cons.injEq, Prod.mk.injEq]
        constructor
        · rintro ⟨value, encoded, other, encodedRest, rfl, rfl⟩
          exact ⟨encoded, encodedRest⟩
        · rintro ⟨encoded, encodedRest⟩
          exact ⟨value, encoded, other, encodedRest, rfl, rfl⟩

end Codec

end Foundation
