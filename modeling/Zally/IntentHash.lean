import Zally.SignedPayload
import Zally.Wire.Text

/-! The hash that binds a payment authorization to its parsed fields, and its wire form. -/
namespace Zally

open Wire Outcome

structure IntentInput where
  chainNamespace : String
  chainReference : String
  recipientCaip10 : String
  amountValue : UInt64
  amountUnit : AmountUnit
  paymentId : String
  expiryHeight : UInt64
  deriving DecidableEq

/-- A SHA-256 digest. -/
structure IntentHash where
  digest : Vector UInt8 32
  deriving DecidableEq

inductive IntentHashError where
  | fieldTooLong (field : String) (len max : Nat)
  | unsupportedVersion
  | payloadInvalid (reason : String)
  deriving DecidableEq

namespace IntentHash

def domainSeparator : List UInt8 := utf8 "zentity.payauth.v1"

def maxFieldLen : Nat := 65535

def wirePrefix : String := "v1:sha256:"

def amountUnitByte : AmountUnit → UInt8
  | .base => 0x00
  | .display => 0x01

def checkLen (field : String) (len : Nat) : Except IntentHashError Unit :=
  if len > maxFieldLen then .error (.fieldTooLong field len maxFieldLen) else .ok ()

/-- The bytes fed to the hasher so far, with one more field behind them. -/
def writeLenPrefixed (hasher bytes : List UInt8) : List UInt8 :=
  hasher ++ beBytes 2 (UInt16.ofNat bytes.length).toNat ++ bytes

/-- All bytes fed to the hasher. -/
def hashed (input : IntentInput) : List UInt8 :=
  let hasher := domainSeparator
  let hasher := writeLenPrefixed hasher (utf8 input.chainNamespace)
  let hasher := writeLenPrefixed hasher (utf8 input.chainReference)
  let hasher := writeLenPrefixed hasher (utf8 input.recipientCaip10)
  let hasher := hasher ++ beBytes 8 input.amountValue.toNat
  let hasher := hasher ++ [amountUnitByte input.amountUnit]
  let hasher := writeLenPrefixed hasher (utf8 input.paymentId)
  hasher ++ beBytes 8 input.expiryHeight.toNat

def compute (sha256 : List UInt8 → Vector UInt8 32) (input : IntentInput) :
    Except IntentHashError IntentHash := do
  checkLen "chain_namespace" input.chainNamespace.utf8ByteSize
  checkLen "chain_reference" input.chainReference.utf8ByteSize
  checkLen "recipient_caip10" input.recipientCaip10.utf8ByteSize
  checkLen "payment_id" input.paymentId.utf8ByteSize
  pure ⟨sha256 (hashed input)⟩

/-- The text behind `start`, where it starts so. -/
def stripPrefix (start text : String) : Option String :=
  if text.toList.take start.length = start.toList then
    some (.ofList (text.toList.drop start.length))
  else none

def toWireString (engine : Base64Engine) (hash : IntentHash) : String :=
  wirePrefix ++ engine.encode hash.digest.toList

def fromWireString (engine : Base64Engine) (text : String) : Except IntentHashError IntentHash :=
  match stripPrefix wirePrefix text with
  | none => .error .unsupportedVersion
  | some encoded => do
    let raw ← (engine.decode encoded).mapError fun error =>
      .payloadInvalid s!"base64url decode failed: {error}"
    if sized : raw.toArray.size = 32 then pure ⟨⟨raw.toArray, sized⟩⟩
    else throw (.payloadInvalid s!"expected 32 bytes, got {raw.length}")

/-- The fields that are hashed behind their length, in the order they are checked. -/
def prefixedFields (input : IntentInput) : List (String × String) :=
  [("chain_namespace", input.chainNamespace), ("chain_reference", input.chainReference),
    ("recipient_caip10", input.recipientCaip10), ("payment_id", input.paymentId)]

theorem checkLen_ok_iff : checkLen field len = .ok () ↔ len ≤ maxFieldLen := by
  rw [checkLen]
  split
  · rename_i long
    exact iff_of_false (fun same => (by cases same)) (Nat.not_le.mpr long)
  · rename_i short
    exact iff_of_true rfl (Nat.not_lt.mp short)

theorem compute_ok_iff {hash : IntentHash} : compute sha256 input = .ok hash ↔
    (∀ entry ∈ prefixedFields input, entry.2.utf8ByteSize ≤ maxFieldLen) ∧
      hash = ⟨sha256 (hashed input)⟩ := by
  simp only [compute,check_bind_ok_iff,checkLen_ok_iff,prefixedFields,List.forall_mem_cons]
  constructor
  · rintro ⟨one, two, three, four, same⟩
    exact ⟨⟨one, two, three, four, by simp⟩, (Except.ok.inj same).symm⟩
  · rintro ⟨⟨one, two, three, four, -⟩, rfl⟩
    exact ⟨one, two, three, four, rfl⟩

/-- The checks of the fields, as a loop. -/
def checkFields : List (String × String) → Except IntentHashError Unit
  | [] => .ok ()
  | entry :: entries => do
    checkLen entry.1 entry.2.utf8ByteSize
    checkFields entries

theorem checkFields_of_long (long : ∃ entry ∈ entries, maxFieldLen < entry.2.utf8ByteSize) :
    ∃ entry ∈ entries, maxFieldLen < entry.2.utf8ByteSize ∧
      checkFields entries = .error (.fieldTooLong entry.1 entry.2.utf8ByteSize maxFieldLen) := by
  induction entries with
  | nil => simp at long
  | cons entry entries ih =>
    by_cases first : maxFieldLen < entry.2.utf8ByteSize
    · refine ⟨entry, List.mem_cons_self, first, ?_⟩
      rw [checkFields,checkLen,if_pos first]
      rfl
    · obtain ⟨other, member, longer⟩ := long
      have later : other ∈ entries := by
        rcases List.mem_cons.mp member with rfl | later
        · exact absurd longer first
        · exact later
      obtain ⟨named, given, size, refused⟩ := ih ⟨other, later, longer⟩
      refine ⟨named, List.mem_cons_of_mem _ given, size, ?_⟩
      rw [checkFields,checkLen,if_neg first]
      exact refused

theorem compute_eq (sha256 : List UInt8 → Vector UInt8 32) (input : IntentInput) :
    compute sha256 input = checkFields (prefixedFields input) >>= fun _ =>
      pure ⟨sha256 (hashed input)⟩ := by
  simp only [prefixedFields,checkFields,bind_assoc]
  rfl

/-- A field that is too long is named by the error, whatever else is wrong. -/
theorem compute_of_long
    (long : ∃ entry ∈ prefixedFields input, maxFieldLen < entry.2.utf8ByteSize) :
    ∃ entry ∈ prefixedFields input, maxFieldLen < entry.2.utf8ByteSize ∧
      compute sha256 input =
        .error (.fieldTooLong entry.1 entry.2.utf8ByteSize maxFieldLen) := by
  obtain ⟨entry, member, size, refused⟩ := checkFields_of_long long
  refine ⟨entry, member, size, ?_⟩
  rw [compute_eq,refused]
  rfl

section Injective

/-- What every input that is accepted promises. -/
def Accepted (input : IntentInput) : Prop :=
  ∀ entry ∈ prefixedFields input, entry.2.utf8ByteSize ≤ maxFieldLen

theorem writeLenPrefixed_eq (hasher bytes : List UInt8) :
    writeLenPrefixed hasher bytes = hasher ++ lengthPrefixed bytes := by
  rw [writeLenPrefixed,lengthPrefixed,List.append_assoc]

/-- The bytes of the fields, each behind the ones before it. -/
def fieldBytes (input : IntentInput) : List UInt8 :=
  domainSeparator ++ (lengthPrefixed (utf8 input.chainNamespace) ++
    (lengthPrefixed (utf8 input.chainReference) ++ (lengthPrefixed (utf8 input.recipientCaip10) ++
      (beBytes 8 input.amountValue.toNat ++ ([amountUnitByte input.amountUnit] ++
        (lengthPrefixed (utf8 input.paymentId) ++ beBytes 8 input.expiryHeight.toNat))))))

theorem hashed_eq (input : IntentInput) : hashed input = fieldBytes input := by
  simp only [hashed,fieldBytes,writeLenPrefixed_eq,List.append_assoc]

theorem delimits_text (get : IntentInput → String) (name : String)
    (checked : ∀ input, (name, get input) ∈ prefixedFields input) :
    Delimits (fun input => lengthPrefixed (utf8 (get input))) Accepted get := by
  have text : Delimits (fun input => lengthPrefixed (utf8 (get input))) Accepted
      (fun input => utf8 (get input)) := by
    refine (delimits_lengthPrefixed.field fun input => utf8 (get input)).mono
      fun input accepted => ?_
    rw [length_utf8]
    exact Nat.lt_succ_of_le (accepted _ (checked input))
  exact text.tells fun _ _ _ _ same => utf8_injective same

theorem delimits_uint64 (get : IntentInput → UInt64) :
    Delimits (fun input => beBytes 8 (get input).toNat) Accepted get :=
  Delimits.fixed (fun _ _ => length_beBytes 8 _) fun first second _ _ same => by
    have numbers := congrArg ofBeBytes same
    rw [ofBeBytes_beBytes (get first).toNat_lt,ofBeBytes_beBytes (get second).toNat_lt] at numbers
    exact UInt64.toNat_inj.mp numbers

theorem amountUnitByte_injective : Function.Injective amountUnitByte := by
  intro first second same
  cases first <;> cases second <;> first | rfl | cases same

/-- Inputs that are accepted differ in the bytes they feed the hasher. -/
theorem hashed_injective (first : Accepted one) (second : Accepted other)
    (same : hashed one = hashed other) : one = other := by
  have unit : Delimits (fun input : IntentInput => [amountUnitByte input.amountUnit]) Accepted
      IntentInput.amountUnit :=
    Delimits.fixed (fun _ _ => rfl) fun _ _ _ _ same =>
      amountUnitByte_injective (List.singleton_inj.mp same)
  have fields := (Delimits.const domainSeparator).seq
    ((delimits_text IntentInput.chainNamespace "chain_namespace" (by simp [prefixedFields])).seq
    ((delimits_text IntentInput.chainReference "chain_reference" (by simp [prefixedFields])).seq
    ((delimits_text IntentInput.recipientCaip10 "recipient_caip10" (by simp [prefixedFields])).seq
    ((delimits_uint64 IntentInput.amountValue).seq (unit.seq
    ((delimits_text IntentInput.paymentId "payment_id" (by simp [prefixedFields])).seq
      (delimits_uint64 IntentInput.expiryHeight)))))))
  rw [hashed_eq,hashed_eq] at same
  have tails : fieldBytes one ++ [] = fieldBytes other ++ [] := by rw [same]
  obtain ⟨agree, -⟩ := fields first second tails
  simp only [Prod.mk.injEq] at agree
  cases one
  cases other
  simp_all

end Injective

theorem stripPrefix_eq_some_iff {start text rest : String} :
    stripPrefix start text = some rest ↔ start ++ rest = text := by
  rw [stripPrefix]
  constructor
  · intro stripped
    split at stripped
    · rename_i starts
      obtain rfl := Option.some.inj stripped
      rw [← String.toList_inj,String.toList_append,String.toList_ofList,← starts,
        List.take_append_drop]
    · cases stripped
  · rintro rfl
    have starts : (start ++ rest).toList.take start.length = start.toList := by
      rw [String.toList_append,← String.length_toList,List.take_left]
    have behind : (start ++ rest).toList.drop start.length = rest.toList := by
      rw [String.toList_append,← String.length_toList,List.drop_left]
    rw [if_pos starts,behind,String.ofList_toList]

theorem fromWireString_ok_iff {engine : Base64Engine} {hash : IntentHash}
    (canonical : ∀ bytes text, engine.decode text = .ok bytes ↔ engine.encode bytes = text) :
    fromWireString engine text = .ok hash ↔ toWireString engine hash = text := by
  rw [fromWireString,toWireString,← stripPrefix_eq_some_iff]
  cases stripPrefix wirePrefix text with
  | none => exact iff_of_false (fun same => (by cases same)) (fun same => (by cases same))
  | some encoded =>
    dsimp only
    rw [bind_ok_iff,Option.some.injEq]
    constructor
    · rintro ⟨raw, decoded, sized⟩
      have encoded := (canonical _ _).mp (mapError_ok_iff.mp decoded)
      split at sized
      · obtain rfl := Except.ok.inj sized
        exact encoded.symm
      · cases sized
    · intro same
      refine ⟨hash.digest.toList, mapError_ok_iff.mpr ((canonical _ _).mpr same.symm), ?_⟩
      have sized : hash.digest.toList.toArray.size = 32 := by simp
      rw [dif_pos sized]
      obtain ⟨⟨digest, size⟩⟩ := hash
      exact congrArg Except.ok (by simp)

/-- Two inputs that are accepted share a hash only where the hash function itself collides, a
field that does not fit its length is refused, and every hash has one wire form. -/
theorem intent_bound {engine : Base64Engine}
    (canonical : ∀ bytes text, engine.decode text = .ok bytes ↔ engine.encode bytes = text)
    (sha256 : List UInt8 → Vector UInt8 32) :
    (∀ one other oneHash otherHash, compute sha256 one = .ok oneHash →
      compute sha256 other = .ok otherHash → one ≠ other →
      hashed one ≠ hashed other ∧
        (oneHash = otherHash → sha256 (hashed one) = sha256 (hashed other))) ∧
    (∀ input, (∀ entry ∈ prefixedFields input, entry.2.utf8ByteSize ≤ 65535) ∨
      ∃ entry ∈ prefixedFields input, 65535 < entry.2.utf8ByteSize ∧
        compute sha256 input = .error (.fieldTooLong entry.1 entry.2.utf8ByteSize 65535)) ∧
    (∀ hash, fromWireString engine (toWireString engine hash) = .ok hash) ∧
    ∀ text hash, fromWireString engine text = .ok hash → toWireString engine hash = text := by
  refine ⟨?_, ?_, ?_, ?_⟩
  · intro one other oneHash otherHash first second differ
    obtain ⟨oneAccepted, rfl⟩ := compute_ok_iff.mp first
    obtain ⟨otherAccepted, rfl⟩ := compute_ok_iff.mp second
    refine ⟨fun same => differ (hashed_injective oneAccepted otherAccepted same), ?_⟩
    exact fun same => congrArg digest same
  · intro input
    by_cases long : ∃ entry ∈ prefixedFields input, 65535 < entry.2.utf8ByteSize
    · exact .inr (compute_of_long long)
    · exact .inl fun entry member => Nat.not_lt.mp fun longer => long ⟨entry, member, longer⟩
  · exact fun hash => (fromWireString_ok_iff canonical).mpr rfl
  · exact fun text hash => (fromWireString_ok_iff canonical).mp

def shiftedInput (chainNamespace chainReference : String) : IntentInput :=
  ⟨chainNamespace, chainReference, "x", 0, .base, "x", 0⟩

/-- The digests of the two shifted inputs. -/
def sampleSha256 (bytes : List UInt8) : Vector UInt8 32 :=
  if bytes = hashed (shiftedInput "ab" "cd") then
    #v[0x4d, 0xf3, 0x25, 0xef, 0xc9, 0x0b, 0x92, 0xd9, 0x62, 0x4d, 0xbf,
      0x79, 0xb6, 0x1a, 0x17, 0x70, 0xc5, 0xee, 0xdb, 0xbc, 0xe0, 0xfe,
      0x7e, 0x69, 0x88, 0xa3, 0x60, 0xa9, 0x91, 0x64, 0x2e, 0x51]
  else
    #v[0xb7, 0x2d, 0xaf, 0x34, 0xbd, 0xe0, 0xd9, 0x39, 0xfa, 0x09, 0x18,
      0xf1, 0x56, 0xb9, 0xae, 0x26, 0x0f, 0x8d, 0x0f, 0x11, 0x98, 0x5a,
      0xed, 0xf7, 0x5d, 0x5d, 0x2f, 0x4d, 0xd0, 0xa7, 0xc5, 0x6d]

theorem compute_shifted (short : ∀ entry ∈ prefixedFields (shiftedInput chainNamespace
    chainReference), entry.2.utf8ByteSize ≤ maxFieldLen) :
    compute sampleSha256 (shiftedInput chainNamespace chainReference) =
      .ok ⟨sampleSha256 (hashed (shiftedInput chainNamespace chainReference))⟩ :=
  compute_ok_iff.mpr ⟨short, rfl⟩

theorem intent_bound_shifted :
    hashed (shiftedInput "ab" "cd") ≠ hashed (shiftedInput "a" "bcd") ∧
      fromWireString (.unpadded Base64.urlSafe) (toWireString (.unpadded Base64.urlSafe)
          ⟨sampleSha256 (hashed (shiftedInput "ab" "cd"))⟩) =
        .ok ⟨sampleSha256 (hashed (shiftedInput "ab" "cd"))⟩ := by
  obtain ⟨bound, -, forth, -⟩ :=
    @intent_bound (.unpadded Base64.urlSafe) (fun _ _ => Base64Engine.unpadded_decode_iff) sampleSha256
  exact ⟨(bound _ _ _ _ (compute_shifted (by decide)) (compute_shifted (by decide)) (by decide)).1,
    forth _⟩

end IntentHash
end Zally
