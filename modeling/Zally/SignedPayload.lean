import Zally.Wire.Base64
import Zally.Wire.Json

/-! The chain-neutral envelope of a signed transaction and its JSON form. -/
namespace Zally

open Wire Outcome

inductive SignedPayloadFormat where
  | pcztV1
  | pcztV2Extractable
  deriving DecidableEq

inductive AmountUnit where
  | base
  | display
  deriving DecidableEq

structure Amount where
  currency : String
  value : String
  unit : AmountUnit
  deriving DecidableEq

inductive ExpiresAt where
  | blockHeight (height : UInt32)
  | slot (number : UInt64)
  | blockNumber (number : UInt64)
  | timestampSeconds (seconds : UInt64)
  deriving DecidableEq

structure SignedPayload where
  format : SignedPayloadFormat
  bytes : List UInt8
  txId : String
  fee : Amount
  expiresAt : ExpiresAt
  metadata : Json

/-- The base64 engine in use. -/
structure Base64Engine where
  encode : List UInt8 → String
  decode : String → Except String (List UInt8)

/-- What is written as JSON is an object whose members the serializer's map keeps in an order
of its own. -/
abbrev MemberOrder := List (String × Json) → List (String × Json)

def isEmptyMetadata : Json → Bool
  | .null => true
  | .object members => members.isEmpty
  | .bool _ | .number _ | .string _ | .array _ => false

namespace SignedPayloadFormat

def variants : List (String × SignedPayloadFormat) :=
  [("pczt-v1", .pcztV1), ("pczt-v2-extractable", .pcztV2Extractable)]

def serialize : SignedPayloadFormat → Json
  | pcztV1 => .string "pczt-v1"
  | pcztV2Extractable => .string "pczt-v2-extractable"

def deserialize : Json → Except JsonError SignedPayloadFormat := Json.asVariant variants

theorem deserialize_serialize (format : SignedPayloadFormat) :
    deserialize (serialize format) = .ok format := by
  cases format <;> rfl

end SignedPayloadFormat

namespace AmountUnit

def variants : List (String × AmountUnit) := [("base", .base), ("display", .display)]

def serialize : AmountUnit → Json
  | base => .string "base"
  | display => .string "display"

def deserialize : Json → Except JsonError AmountUnit := Json.asVariant variants

theorem deserialize_serialize (unit : AmountUnit) : deserialize (serialize unit) = .ok unit := by
  cases unit <;> rfl

end AmountUnit

namespace Amount

def fields : List String := ["currency", "value", "unit"]

def members (amount : Amount) : List (String × Json) :=
  [("currency", .string amount.currency), ("value", .string amount.value),
    ("unit", amount.unit.serialize)]

def serialize (order : MemberOrder) (amount : Amount) : Json := .object (order amount.members)

def deserialize (json : Json) : Except JsonError Amount := do
  let found ← json.record fields
  let currency ← Json.field found "currency" Json.asString
  let value ← Json.field found "value" Json.asString
  let unit ← Json.field found "unit" AmountUnit.deserialize
  pure ⟨currency, value, unit⟩

theorem deserialize_serialize {order : MemberOrder}
    (keeps : ∀ members, List.Perm (order members) members) (amount : Amount) :
    deserialize (serialize order amount) = .ok amount := by
  have nodup : (amount.members.map Prod.fst).Nodup := (by decide : fields.Nodup)
  have listed : ∀ member ∈ amount.members, member.1 ∈ fields := fun member given =>
    (List.mem_map_of_mem given : member.1 ∈ amount.members.map Prod.fst)
  rw [serialize,deserialize,Json.record_of_perm nodup (keeps _) listed]
  have currency : Json.field amount.members "currency" Json.asString = .ok amount.currency := rfl
  have value : Json.field amount.members "value" Json.asString = .ok amount.value := rfl
  have unit : Json.field amount.members "unit" AmountUnit.deserialize = .ok amount.unit :=
    amount.unit.deserialize_serialize
  change (Json.field _ "currency" Json.asString >>= _) = _
  simp only [Json.field_of_perm nodup (keeps _),currency,value,unit]
  rfl

end Amount

namespace ExpiresAt

/-- The tags, each with the bound of its number and the expiry it makes. -/
def variants : List (String × Nat × (Nat → ExpiresAt)) :=
  [("block_height", 0x100000000, fun value => blockHeight (.ofNat value)),
    ("slot", 0x10000000000000000, fun value => slot (.ofNat value)),
    ("block_number", 0x10000000000000000, fun value => blockNumber (.ofNat value)),
    ("timestamp_seconds", 0x10000000000000000, fun value => timestampSeconds (.ofNat value))]

def kind : ExpiresAt → String
  | blockHeight _ => "block_height"
  | slot _ => "slot"
  | blockNumber _ => "block_number"
  | timestampSeconds _ => "timestamp_seconds"

def value : ExpiresAt → UInt64
  | blockHeight height => height.toUInt64
  | slot number => number
  | blockNumber number => number
  | timestampSeconds seconds => seconds

def fields : List String := ["kind", "value"]

def members (expiry : ExpiresAt) : List (String × Json) :=
  [("kind", .string expiry.kind), ("value", .number (.posInt expiry.value))]

def serialize (order : MemberOrder) (expiry : ExpiresAt) : Json := .object (order expiry.members)

def deserialize (json : Json) : Except JsonError ExpiresAt := do
  let found ← json.record fields
  let (bound, make) ← Json.field found "kind" (Json.asVariant variants)
  let value ← Json.field found "value" (Json.asUnsigned bound)
  pure (make value)

theorem lookup_kind (expiry : ExpiresAt) : ∃ bound make,
    variants.lookup expiry.kind = some (bound, make) ∧ expiry.value.toNat < bound ∧
      make expiry.value.toNat = expiry := by
  cases expiry with
  | blockHeight height =>
    refine ⟨_, _, rfl, ?_, ?_⟩
    · simpa [value] using height.toNat_lt
    · simp [value]
  | slot number => exact ⟨_, _, rfl, number.toNat_lt, congrArg _ UInt64.ofNat_toNat⟩
  | blockNumber number => exact ⟨_, _, rfl, number.toNat_lt, congrArg _ UInt64.ofNat_toNat⟩
  | timestampSeconds seconds => exact ⟨_, _, rfl, seconds.toNat_lt, congrArg _ UInt64.ofNat_toNat⟩

theorem deserialize_serialize {order : MemberOrder}
    (keeps : ∀ members, List.Perm (order members) members) (expiry : ExpiresAt) :
    deserialize (serialize order expiry) = .ok expiry := by
  have nodup : (expiry.members.map Prod.fst).Nodup := (by decide : fields.Nodup)
  have listed : ∀ member ∈ expiry.members, member.1 ∈ fields := fun member given =>
    (List.mem_map_of_mem given : member.1 ∈ expiry.members.map Prod.fst)
  obtain ⟨bound, make, known, fits, made⟩ := expiry.lookup_kind
  have kind : Json.field expiry.members "kind" (Json.asVariant variants) = .ok (bound, make) := by
    change Json.asVariant variants (.string expiry.kind) = _
    rw [Json.asVariant,known]
  have value : Json.field expiry.members "value" (Json.asUnsigned bound) =
      .ok expiry.value.toNat := if_pos fits
  rw [serialize,deserialize,Json.record_of_perm nodup (keeps _) listed]
  change (Json.field _ "kind" (Json.asVariant variants) >>= _) = _
  rw [Json.field_of_perm nodup (keeps _),kind]
  change (Json.field _ "value" (Json.asUnsigned bound) >>= _) = _
  rw [Json.field_of_perm nodup (keeps _),value]
  exact congrArg Except.ok made

end ExpiresAt

namespace SignedPayload

def fields : List String := ["format", "bytes", "tx_id", "fee", "expires_at", "metadata"]

def members (engine : Base64Engine) (order : MemberOrder) (payload : SignedPayload) :
    List (String × Json) :=
  [("format", payload.format.serialize), ("bytes", .string (engine.encode payload.bytes)),
    ("tx_id", .string payload.txId), ("fee", payload.fee.serialize order),
    ("expires_at", payload.expiresAt.serialize order)] ++
  if isEmptyMetadata payload.metadata then [] else [("metadata", payload.metadata)]

def serialize (engine : Base64Engine) (order : MemberOrder) (payload : SignedPayload) : Json :=
  .object (order (payload.members engine order))

/-- Base64 text. -/
def deserializeBytes (engine : Base64Engine) (json : Json) : Except JsonError (List UInt8) := do
  let text ← json.asString
  (engine.decode text).mapError .custom

def deserialize (engine : Base64Engine) (json : Json) : Except JsonError SignedPayload := do
  let found ← json.record fields
  let format ← Json.field found "format" SignedPayloadFormat.deserialize
  let bytes ← Json.field found "bytes" (deserializeBytes engine)
  let txId ← Json.field found "tx_id" Json.asString
  let fee ← Json.field found "fee" Amount.deserialize
  let expiresAt ← Json.field found "expires_at" ExpiresAt.deserialize
  -- the default of a field that is not there
  let metadata := (found.lookup "metadata").getD .null
  pure ⟨format, bytes, txId, fee, expiresAt, metadata⟩

/-- The metadata that is read back: an empty object is not written, and its default is null. -/
def restoredMetadata : Json → Json
  | .object [] => .null
  | metadata => metadata

theorem restoredMetadata_eq (metadata : Json) :
    restoredMetadata metadata = if isEmptyMetadata metadata then .null else metadata := by
  cases metadata with
  | object members => cases members <;> rfl
  | _ => rfl

theorem restoredMetadata_eq_self_iff {metadata : Json} :
    restoredMetadata metadata = metadata ↔ metadata ≠ .object [] := by
  cases metadata with
  | object members =>
    cases members with
    | nil => exact iff_of_false (fun same => (by cases same)) (fun differ => differ rfl)
    | cons member members => exact iff_of_true rfl (fun same => (by cases same))
  | _ => exact iff_of_true rfl (fun same => (by cases same))

theorem members_named (engine : Base64Engine) (order : MemberOrder) (payload : SignedPayload) :
    (payload.members engine order).map Prod.fst =
      if isEmptyMetadata payload.metadata then fields.take 5 else fields := by
  rw [members]
  split <;> rfl

theorem lookup_metadata (engine : Base64Engine) (order : MemberOrder) (payload : SignedPayload) :
    ((payload.members engine order).lookup "metadata").getD .null =
      restoredMetadata payload.metadata := by
  rw [restoredMetadata_eq,members]
  split <;> rfl

/-- The envelope is read back from its members in any order, but for metadata that was left
out. -/
theorem deserialize_serialize {engine : Base64Engine} {order : MemberOrder}
    (decodes : ∀ bytes, engine.decode (engine.encode bytes) = .ok bytes)
    (keeps : ∀ members, List.Perm (order members) members) (payload : SignedPayload) :
    deserialize engine (payload.serialize engine order) =
      .ok { payload with metadata := restoredMetadata payload.metadata } := by
  have nodup : ((payload.members engine order).map Prod.fst).Nodup := by
    rw [members_named]
    split <;> decide
  have listed : ∀ member ∈ payload.members engine order, member.1 ∈ fields := by
    intro member given
    have named := List.mem_map_of_mem (f := Prod.fst) given
    rw [members_named] at named
    split at named
    · exact List.mem_of_mem_take named
    · exact named
  have written (name : String) {α : Type} (read : Json → Except JsonError α) :=
    Json.field_of_perm nodup (keeps _) name read
  have bytes : Json.field (payload.members engine order) "bytes" (deserializeBytes engine) =
      .ok payload.bytes := by
    change deserializeBytes engine (.string (engine.encode payload.bytes)) = _
    change (engine.decode (engine.encode payload.bytes)).mapError JsonError.custom = _
    rw [decodes]
    rfl
  have format : Json.field (payload.members engine order) "format"
      SignedPayloadFormat.deserialize = .ok payload.format :=
    payload.format.deserialize_serialize
  have fee : Json.field (payload.members engine order) "fee" Amount.deserialize =
      .ok payload.fee := Amount.deserialize_serialize keeps payload.fee
  have expiresAt : Json.field (payload.members engine order) "expires_at" ExpiresAt.deserialize =
      .ok payload.expiresAt := ExpiresAt.deserialize_serialize keeps payload.expiresAt
  have txId : Json.field (payload.members engine order) "tx_id" Json.asString =
      .ok payload.txId := rfl
  rw [serialize,deserialize,Json.record_of_perm nodup (keeps _) listed]
  change (Json.field _ "format" SignedPayloadFormat.deserialize >>= _) = _
  simp only [written,format,bytes,fee,expiresAt,txId]
  change Except.ok _ = _
  rw [Json.lookup_perm nodup (keeps _),lookup_metadata]

/-- Every envelope is read back with its metadata, except that an empty object comes back as
null; it alone is not read back as it was. -/
theorem payload_reads_back {engine : Base64Engine} {order : MemberOrder}
    (decodes : ∀ bytes, engine.decode (engine.encode bytes) = .ok bytes)
    (keeps : ∀ members, List.Perm (order members) members) (payload : SignedPayload) :
    deserialize engine (payload.serialize engine order) =
        .ok { payload with metadata := restoredMetadata payload.metadata } ∧
      (deserialize engine (payload.serialize engine order) = .ok payload ↔
        payload.metadata ≠ .object []) := by
  have read := deserialize_serialize decodes keeps payload
  refine ⟨read, ?_⟩
  rw [read,Except.ok.injEq,← restoredMetadata_eq_self_iff]
  constructor
  · exact fun same => congrArg metadata same
  · intro same
    rw [same]

end SignedPayload

namespace Base64Engine

/-- The engine of an alphabet, for bytes that need no padding. -/
def unpadded (alphabet : Base64.Alphabet) : Base64Engine where
  encode := alphabet.encode
  decode text := (alphabet.decode text).elim (.error "Invalid byte") .ok

theorem unpadded_decode_iff {alphabet : Base64.Alphabet} :
    (unpadded alphabet).decode text = .ok bytes ↔ (unpadded alphabet).encode bytes = text := by
  change (alphabet.decode text).elim (Except.error "Invalid byte") .ok = .ok bytes ↔
    alphabet.encode bytes = text
  rw [← Base64.Alphabet.decode_eq_some_iff]
  cases alphabet.decode text with
  | none => exact iff_of_false (fun same => (by cases same)) (fun same => (by cases same))
  | some found => simp

end Base64Engine

namespace SignedPayload

def sample (metadata : Json) : SignedPayload :=
  ⟨.pcztV1, [0xde, 0xad, 0xbe], "abcd1234", ⟨"ZEC", "1000", .base⟩, .blockHeight 4047100, metadata⟩

theorem payload_reads_back_sample :
    deserialize (.unpadded Base64.standard)
        ((sample (.object [("zentity.final", .bool true)])).serialize
          (.unpadded Base64.standard) id) =
      .ok (sample (.object [("zentity.final", .bool true)])) :=
  (payload_reads_back (fun _ => Base64Engine.unpadded_decode_iff.mpr rfl) (fun _ => .refl _) _).1

/-- An empty object is not read back. -/
theorem emptyMetadata_not_restored :
    deserialize (.unpadded Base64.standard)
        ((sample (.object [])).serialize (.unpadded Base64.standard) id) ≠
      .ok (sample (.object [])) := by
  have read := @deserialize_serialize (.unpadded Base64.standard) id
    (fun _ => Base64Engine.unpadded_decode_iff.mpr rfl) (fun _ => .refl _) (sample (.object []))
  rw [read]
  intro same
  cases congrArg metadata (Except.ok.inj same)

end SignedPayload
end Zally
