import Zally.Outcome
import Zally.Wallet.Spend

/-! Payment requests read from and written as ZIP-321 URIs. The address and URI crates are
parameters; a recipient's kind is guessed from the text of its address, and its network is the
one the caller names. -/
namespace Zally

open Outcome

inductive ZcashAddress.NetworkType where
  | main
  | test
  | regtest
  deriving DecidableEq

def Network.type : Network → ZcashAddress.NetworkType
  | mainnet => .main
  | testnet => .test
  | regtest _ => .regtest

inductive AddressKind where
  | sprout
  | sapling
  | unified
  | p2pkh
  | p2sh
  | tex
  deriving DecidableEq

structure ZcashAddress where
  net : ZcashAddress.NetworkType
  kind : AddressKind
  payload : List UInt8
  deriving DecidableEq

namespace ZcashAddress

/-- An address belongs to the network it names; Sprout and transparent addresses are written
the same for testnet and regtest. -/
def BelongsTo (address : ZcashAddress) (network : Network) : Prop :=
  address.net = network.type ∨
    address.net = .test ∧ network.type = .regtest ∧
      (address.kind = .sprout ∨ address.kind = .p2pkh ∨ address.kind = .p2sh)

instance (address : ZcashAddress) (network : Network) : Decidable (address.BelongsTo network) :=
  inferInstanceAs (Decidable (_ ∨ _))

/-- How the text of an address starts; Sprout addresses are not told apart by it. -/
def humanReadable : AddressKind → NetworkType → String
  | .sprout, _ => "z"
  | .sapling, .main => "zs1"
  | .sapling, .test => "ztestsapling1"
  | .sapling, .regtest => "zregtestsapling1"
  | .unified, .main => "u1"
  | .unified, .test => "utest1"
  | .unified, .regtest => "uregtest1"
  | .p2pkh, .main => "t1"
  | .p2pkh, _ => "tm"
  | .p2sh, .main => "t3"
  | .p2sh, _ => "t2"
  | .tex, .main => "tex1"
  | .tex, .test => "textest1"
  | .tex, .regtest => "texregtest1"

end ZcashAddress

/-- One payment of a URI. -/
structure Zip321Payment where
  recipientAddress : ZcashAddress
  amount : Option CheckedZatoshis
  memo : Option (List UInt8)
  label : Option String
  message : Option String
  otherParams : List (String × String)

/-- The payments of a URI by their index, ascending. -/
abbrev TransactionRequest := List (Nat × Zip321Payment)

/-- The functions of the address, memo and URI crates that are called. -/
structure Zip321 where
  encode : ZcashAddress → String
  parseAddress : String → Except String ZcashAddress
  memoOfBytes : List UInt8 → Except String Memo
  memoBytes : Memo → List UInt8
  newPayment : Zip321Payment → Except String Zip321Payment
  newRequest : List Zip321Payment → Except String TransactionRequest
  parseUri : String → Except String TransactionRequest
  writeUri : TransactionRequest → String
  /-- The number of payments a new request may have. -/
  maxPayments : Nat

/-- The kinds of address a recipient is told apart by. -/
inductive RecipientKind where
  | unified
  | sapling
  | transparent
  | tex
  deriving DecidableEq

def PaymentRecipient.kind : PaymentRecipient → RecipientKind
  | unifiedAddress _ _ => .unified
  | saplingAddress _ _ => .sapling
  | transparentAddress _ _ => .transparent
  | texAddress _ _ => .tex

/-- A Sprout address is none of the kinds a recipient may have. -/
def AddressKind.recipientKind : AddressKind → Option RecipientKind
  | sprout => none
  | sapling => some .sapling
  | unified => some .unified
  | p2pkh | p2sh => some .transparent
  | tex => some .tex

structure ParsedPayment where
  recipient : PaymentRecipient
  amount : CheckedZatoshis
  memo : Option Memo
  label : Option String
  message : Option String
  deriving DecidableEq

structure PaymentRequest where
  payments : List ParsedPayment
  network : Network
  deriving DecidableEq

namespace PaymentRequest

def startsWith (text start : String) : Bool := start.toList.isPrefixOf text.toList

def classifyRecipient (encoded : String) (network : Network) : PaymentRecipient :=
  if startsWith encoded "tex" then .texAddress encoded network
  else if startsWith encoded "u" then .unifiedAddress encoded network
  else if startsWith encoded "zs" || startsWith encoded "ztestsapling" ||
      startsWith encoded "zregtestsapling" then .saplingAddress encoded network
  else .transparentAddress encoded network

def parseFailed (result : Except String α) : Except WalletError α :=
  result.mapError .paymentRequestParseFailed

/-- A checked amount, with the text of the error where it is none. -/
def zatoshisOf (raw : UInt64) : Except String CheckedZatoshis :=
  (Zatoshis.tryFrom raw).mapError fun
    | .exceedsMaxMoney attemptedZat =>
      s!"zatoshi amount {attemptedZat} exceeds MAX_MONEY (2100000000000000 zatoshis)"

def memoFromMemoBytes (zip321 : Zip321) : Option (List UInt8) → Except String (Option Memo)
  | some bytes => some <$> zip321.memoOfBytes bytes
  | none => .ok none

def fromZip321 (zip321 : Zip321) (network : Network) (payment : Zip321Payment) :
    Except WalletError ParsedPayment := do
  let recipient := classifyRecipient (zip321.encode payment.recipientAddress) network
  let upstreamAmount ← payment.amount.elim
    (.error (.paymentRequestParseFailed "payment is missing an amount")) .ok
  let amount ← parseFailed (zatoshisOf upstreamAmount.val.raw)
  let memo ← parseFailed (memoFromMemoBytes zip321 payment.memo)
  pure ⟨recipient, amount, memo, payment.label, payment.message⟩

def fromUri (zip321 : Zip321) (uri : String) (network : Network) :
    Except WalletError PaymentRequest := do
  let request ← parseFailed (zip321.parseUri uri)
  let payments ← (request.map Prod.snd).mapM (fromZip321 zip321 network)
  pure ⟨payments, network⟩

def parsedPaymentToZip321 (zip321 : Zip321) (payment : ParsedPayment) :
    Except WalletError Zip321Payment := do
  let recipientAddress ← parseFailed (zip321.parseAddress payment.recipient.encoded)
  let amount ← parseFailed (zatoshisOf payment.amount.val.raw)
  let memo := payment.memo.map zip321.memoBytes
  parseFailed (zip321.newPayment
    ⟨recipientAddress, some amount, memo, payment.label, payment.message, []⟩)

def toUri (zip321 : Zip321) (request : PaymentRequest) : Except WalletError String := do
  let payments ← request.payments.mapM (parsedPaymentToZip321 zip321)
  let request ← parseFailed (zip321.newRequest payments)
  pure (zip321.writeUri request)

end PaymentRequest

/-- A payment without the parameters that a parsed payment does not keep. -/
def Zip321Payment.bare (payment : Zip321Payment) : Zip321Payment :=
  { payment with otherParams := [] }

def TransactionRequest.bare (request : TransactionRequest) : List Zip321Payment :=
  request.map fun entry => entry.2.bare

/-- What the payments of an accepted URI rest on: the address, memo and URI crates read back
what they write. -/
structure Zip321.Lawful (zip321 : Zip321) : Prop where
  memo : ∀ bytes parsed, zip321.memoOfBytes bytes = .ok parsed → zip321.memoBytes parsed = bytes
  address : ∀ uri request entry, zip321.parseUri uri = .ok request → entry ∈ request →
    zip321.parseAddress (zip321.encode entry.2.recipientAddress) = .ok entry.2.recipientAddress
  humanReadable : ∀ uri request entry, zip321.parseUri uri = .ok request → entry ∈ request →
    PaymentRequest.startsWith (zip321.encode entry.2.recipientAddress)
      (ZcashAddress.humanReadable entry.2.recipientAddress.kind entry.2.recipientAddress.net)
  payment : ∀ uri request entry, zip321.parseUri uri = .ok request → entry ∈ request →
    zip321.newPayment entry.2.bare = .ok entry.2.bare
  request : ∀ uri request, zip321.parseUri uri = .ok request →
    request.length ≤ zip321.maxPayments → ∃ numbered,
      zip321.newRequest (TransactionRequest.bare request) = .ok numbered ∧
      numbered.map Prod.snd = TransactionRequest.bare request ∧
      zip321.parseUri (zip321.writeUri numbered) = .ok numbered
  tooMany : ∀ uri request, zip321.parseUri uri = .ok request →
    zip321.maxPayments < request.length → ∃ error,
      zip321.newRequest (TransactionRequest.bare request) = .error error

namespace PaymentRequest

/-- What a payment of a URI is read as. -/
structure Reads (zip321 : Zip321) (network : Network) (payment : Zip321Payment)
    (parsed : ParsedPayment) : Prop where
  recipient : parsed.recipient =
    classifyRecipient (zip321.encode payment.recipientAddress) network
  amount : payment.amount = some parsed.amount
  memo : memoFromMemoBytes zip321 payment.memo = .ok parsed.memo
  label : parsed.label = payment.label
  message : parsed.message = payment.message

variable {zip321 : Zip321} {network : Network}

theorem parseFailed_ok_iff : parseFailed result = .ok value ↔ result = .ok value :=
  mapError_ok_iff

theorem zatoshisOf_checked (amount : CheckedZatoshis) : zatoshisOf amount.val.raw = .ok amount := by
  rw [zatoshisOf,Zatoshis.tryFrom_checked]
  rfl

theorem fromZip321_ok_iff :
    fromZip321 zip321 network payment = .ok parsed ↔ Reads zip321 network payment parsed := by
  simp only [fromZip321,bind_ok_iff,parseFailed_ok_iff]
  constructor
  · rintro ⟨upstream, present, amount, checked, memo, read, returned⟩
    obtain rfl := Except.ok.inj returned
    cases given : payment.amount with
    | none => rw [given] at present; cases present
    | some found =>
      rw [given] at present
      obtain rfl := Except.ok.inj present
      rw [zatoshisOf_checked] at checked
      obtain rfl := Except.ok.inj checked
      exact ⟨rfl, given, read, rfl, rfl⟩
  · intro reads
    refine ⟨parsed.amount, ?_, parsed.amount, zatoshisOf_checked _, parsed.memo, reads.memo, ?_⟩
    · rw [reads.amount]
      rfl
    · rw [← reads.recipient,← reads.label,← reads.message]
      rfl

theorem encoded_classifyRecipient (encoded : String) (network : Network) :
    (classifyRecipient encoded network).encoded = encoded := by
  unfold classifyRecipient
  split
  · rfl
  · split
    · rfl
    · split <;> rfl

theorem network_classifyRecipient (encoded : String) (network : Network) :
    (classifyRecipient encoded network).network = network := by
  unfold classifyRecipient
  split
  · rfl
  · split
    · rfl
    · split <;> rfl

theorem eq_append_of_startsWith {text start : String} (starts : startsWith text start) :
    ∃ rest, text.toList = start.toList ++ rest := by
  obtain ⟨rest, same⟩ := List.isPrefixOf_iff_prefix.mp starts
  exact ⟨rest, same.symm⟩

/-- The guess is right for every address but Sprout ones, which pass for transparent. -/
theorem kind_classifyRecipient {kind : AddressKind} {encoded : String}
    (starts : startsWith encoded (ZcashAddress.humanReadable kind net)) (network : Network) :
    kind.recipientKind = some (classifyRecipient encoded network).kind ↔ kind ≠ .sprout := by
  obtain ⟨rest, same⟩ := eq_append_of_startsWith starts
  cases kind with
  | sprout => simp [AddressKind.recipientKind]
  | _ =>
    cases net <;>
      simp [AddressKind.recipientKind,classifyRecipient,startsWith,same,
        ZcashAddress.humanReadable,PaymentRecipient.kind]

/-- What a parsed request promises: it is read back from its URI, its recipients are what their
addresses say, and the network guard of a spend lets none of another network through. -/
structure Faithful (zip321 : Zip321) (request : PaymentRequest) : Prop where
  restored : ∃ uri again, toUri zip321 request = .ok uri ∧
    fromUri zip321 uri request.network = .ok again ∧ again.payments = request.payments
  recipients : ∀ payment ∈ request.payments, ∃ address,
    zip321.parseAddress payment.recipient.encoded = .ok address ∧
      address.kind.recipientKind = some payment.recipient.kind ∧
      address.BelongsTo payment.recipient.network
  guarded : ∀ payment ∈ request.payments, ∀ wallet address,
    Spend.validateRecipientNetwork payment.recipient wallet = .ok () →
    zip321.parseAddress payment.recipient.encoded = .ok address → address.BelongsTo wallet

/-- When a URI's request is faithful under a network. -/
structure Fits (zip321 : Zip321) (network : Network) (parsed : TransactionRequest) : Prop where
  few : parsed.length ≤ zip321.maxPayments
  known : ∀ entry ∈ parsed, entry.2.recipientAddress.kind ≠ .sprout
  here : ∀ entry ∈ parsed, entry.2.recipientAddress.BelongsTo network

theorem fromUri_ok_iff : fromUri zip321 uri network = .ok request ↔
    ∃ parsed, zip321.parseUri uri = .ok parsed ∧
      List.Forall₂ (fun entry payment => Reads zip321 network entry.2 payment) parsed
        request.payments ∧ request.network = network := by
  simp only [fromUri,bind_ok_iff,parseFailed_ok_iff,mapM_ok_iff,fromZip321_ok_iff,
    List.forall₂_map_left_iff]
  constructor
  · rintro ⟨parsed, read, payments, related, returned⟩
    obtain rfl := Except.ok.inj returned
    exact ⟨parsed, read, related, rfl⟩
  · rintro ⟨parsed, read, related, rfl⟩
    exact ⟨parsed, read, request.payments, related, rfl⟩

section Accepted

variable {parsed : TransactionRequest} (lawful : zip321.Lawful)
  (read : zip321.parseUri uri = .ok parsed)

include lawful read

theorem parseAddress_of_reads (member : entry ∈ parsed)
    (reads : Reads zip321 network entry.2 payment) :
    zip321.parseAddress payment.recipient.encoded = .ok entry.2.recipientAddress := by
  rw [reads.recipient,encoded_classifyRecipient]
  exact lawful.address uri parsed entry read member

theorem parsedPaymentToZip321_of_reads (member : entry ∈ parsed)
    (reads : Reads zip321 network entry.2 payment) :
    parsedPaymentToZip321 zip321 payment = .ok entry.2.bare := by
  have memo : payment.memo.map zip321.memoBytes = entry.2.memo := by
    have bytes := reads.memo
    cases given : entry.2.memo with
    | none =>
      rw [given] at bytes
      rw [← Except.ok.inj bytes,Option.map_none]
    | some content =>
      rw [given] at bytes
      cases decoded : zip321.memoOfBytes content with
      | error error => rw [memoFromMemoBytes,decoded] at bytes; cases bytes
      | ok found =>
        rw [memoFromMemoBytes,decoded] at bytes
        rw [← Except.ok.inj bytes,Option.map_some,lawful.memo _ _ decoded]
  have written : (⟨entry.2.recipientAddress, some payment.amount, entry.2.memo, payment.label,
      payment.message, []⟩ : Zip321Payment) = entry.2.bare := by
    rw [Zip321Payment.bare,reads.label,reads.message,← reads.amount]
  rw [parsedPaymentToZip321,parseAddress_of_reads lawful read member reads,zatoshisOf_checked,memo]
  change parseFailed (zip321.newPayment _) = _
  rw [written,lawful.payment uri parsed entry read member]
  rfl

theorem toUri_of_reads (related : List.Forall₂ (fun entry payment =>
    Reads zip321 network entry.2 payment) parsed request.payments) :
    toUri zip321 request = (parseFailed (zip321.newRequest (TransactionRequest.bare parsed))) >>=
      fun numbered => pure (zip321.writeUri numbered) := by
  have within := (List.forall₂_and_left parsed request.payments).mpr ⟨fun _ => id, related⟩
  have written : request.payments.mapM (parsedPaymentToZip321 zip321) =
      .ok (TransactionRequest.bare parsed) := by
    apply mapM_ok_iff.mpr
    apply List.forall₂_map_right_iff.mpr
    exact (within.imp fun entry payment both =>
      parsedPaymentToZip321_of_reads lawful read both.1 both.2).flip
  rw [toUri,written]
  rfl

/-- A request is read back when it is not too long to be written. -/
theorem restored_iff (accepted : fromUri zip321 uri network = .ok request) :
    (∃ uri again, toUri zip321 request = .ok uri ∧
      fromUri zip321 uri request.network = .ok again ∧ again.payments = request.payments) ↔
    parsed.length ≤ zip321.maxPayments := by
  obtain ⟨found, same, related, rfl⟩ := fromUri_ok_iff.mp accepted
  obtain rfl := Except.ok.inj (read.symm.trans same)
  rw [toUri_of_reads lawful read related]
  constructor
  · rintro ⟨written, again, ran, -⟩
    by_contra many
    obtain ⟨error, refused⟩ := lawful.tooMany uri parsed read (Nat.not_le.mp many)
    rw [refused] at ran
    cases ran
  · intro few
    obtain ⟨numbered, built, payments, restored⟩ := lawful.request uri parsed read few
    refine ⟨zip321.writeUri numbered, ⟨request.payments, request.network⟩, ?_, ?_, rfl⟩
    · rw [built]
      rfl
    · apply fromUri_ok_iff.mpr
      refine ⟨numbered, restored, ?_, rfl⟩
      apply List.forall₂_map_left_iff.mp
      rw [payments]
      apply List.forall₂_map_left_iff.mpr
      exact related.imp fun entry payment reads =>
        ⟨reads.recipient, reads.amount, reads.memo, reads.label, reads.message⟩

/-- A recipient is what its address says when the address is not a Sprout one and belongs to
the network the request was parsed for. -/
theorem recipient_iff (member : entry ∈ parsed)
    (reads : Reads zip321 network entry.2 payment) :
    (∃ address, zip321.parseAddress payment.recipient.encoded = .ok address ∧
      address.kind.recipientKind = some payment.recipient.kind ∧
      address.BelongsTo payment.recipient.network) ↔
    entry.2.recipientAddress.kind ≠ .sprout ∧ entry.2.recipientAddress.BelongsTo network := by
  have known := parseAddress_of_reads lawful read member reads
  have kind := kind_classifyRecipient (lawful.humanReadable uri parsed entry read member) network
  have label : payment.recipient.network = network := by
    rw [reads.recipient,network_classifyRecipient]
  rw [label]
  constructor
  · rintro ⟨address, found, same, belongs⟩
    obtain rfl := Except.ok.inj (found.symm.trans known)
    rw [reads.recipient] at same
    exact ⟨kind.mp same, belongs⟩
  · rintro ⟨told, belongs⟩
    refine ⟨_, known, ?_, belongs⟩
    rw [reads.recipient]
    exact kind.mpr told

end Accepted

/-- A request is faithful exactly when its URI fits the network it is parsed for. -/
theorem request_faithful_iff (lawful : zip321.Lawful) (accepted : fromUri zip321 uri network = .ok request)
    (read : zip321.parseUri uri = .ok parsed) :
    Faithful zip321 request ↔ Fits zip321 network parsed := by
  have whole := restored_iff lawful read accepted
  obtain ⟨found, same, related, labelled⟩ := fromUri_ok_iff.mp accepted
  obtain rfl := Except.ok.inj (read.symm.trans same)
  have within := (List.forall₂_and_left parsed request.payments).mpr ⟨fun _ => id, related⟩
  constructor
  · intro faithful
    have each : ∀ entry ∈ parsed, entry.2.recipientAddress.kind ≠ .sprout ∧
        entry.2.recipientAddress.BelongsTo network := by
      intro entry member
      obtain ⟨payment, listed, -, reads⟩ := exists_of_forall₂ within member
      exact (recipient_iff lawful read member reads).mp (faithful.recipients payment listed)
    exact ⟨whole.mp faithful.restored, fun entry member => (each entry member).1,
      fun entry member => (each entry member).2⟩
  · intro fits
    have source (payment : ParsedPayment) (listed : payment ∈ request.payments) :
        ∃ entry ∈ parsed, Reads zip321 network entry.2 payment := by
      obtain ⟨entry, -, member, reads⟩ := exists_of_forall₂ within.flip listed
      exact ⟨entry, member, reads⟩
    refine ⟨whole.mpr fits.few, fun payment listed => ?_, ?_⟩
    · obtain ⟨entry, member, reads⟩ := source payment listed
      exact (recipient_iff lawful read member reads).mpr
        ⟨fits.known entry member, fits.here entry member⟩
    · intro payment listed wallet address passed found
      obtain ⟨entry, member, reads⟩ := source payment listed
      obtain rfl := Except.ok.inj
        (found.symm.trans (parseAddress_of_reads lawful read member reads))
      have label : payment.recipient.network = network := by
        rw [reads.recipient,network_classifyRecipient]
      rw [Spend.validateRecipientNetwork] at passed
      split at passed
      · rename_i same
        rw [← same,label]
        exact fits.here entry member
      · cases passed

def mainnetAddress : ZcashAddress :=
  ⟨.main, .sapling, [0x17, 0x87, 0x99, 0x7c, 0x30, 0xe9, 0x4f, 0x05, 0x0c, 0x63, 0x4d, 0x9d, 0xbe, 0x9b, 0x94,
    0x8e, 0x6b, 0xcc, 0xbf, 0x9f, 0xc0, 0xdc, 0xfb, 0xd4, 0xd4, 0x41, 0xe5, 0xf7, 0xd5, 0x7d,
    0xb3, 0xdb, 0x1d, 0xee, 0xbe, 0x63, 0x57, 0xdb, 0xf5, 0x60, 0x1f, 0xed, 0x34]⟩

def testnetAddress : ZcashAddress :=
  ⟨.test, .sapling, [0x79, 0x08, 0xac, 0x9a, 0x8d, 0xc0, 0x2d, 0x8f, 0xdf, 0x1e, 0x17, 0x88, 0x39, 0xc8, 0x0a,
    0x16, 0x93, 0x92, 0x4b, 0xad, 0xa6, 0x82, 0xb7, 0x7d, 0x28, 0xd9, 0x3d, 0xe6, 0xef, 0xa0,
    0x00, 0xfe, 0x54, 0x12, 0xe1, 0x1b, 0x4d, 0x42, 0x81, 0x1b, 0x84, 0xc8, 0x98]⟩

def mainnetText : String :=
  "zs1z7rejlpsa98s2rrrfkwmaxu53e4ue0ulcrw0h4x5g8jl04tak0d3mm47vdtahatqrlkngh9slya"

def testnetText : String :=
  "ztestsapling10yy2ex5dcqkclhc7z7yrnjq2z6feyjad56ptwlfgmy77dmaqqrl9gyhprdx59qgmsnyfska2kez"

def samplePayment (address : ZcashAddress) : Zip321Payment :=
  ⟨address, some ⟨⟨10000⟩, by decide⟩, none, none, some "invoice one", []⟩

def sampleUri (text : String) : String :=
  "zcash:" ++ text ++ "?amount=0.0001&message=invoice%20one"

/-- What the crates do on the URIs of two addresses without a memo. -/
def sampleZip321 : Zip321 where
  encode address := if address = mainnetAddress then mainnetText else testnetText
  parseAddress text :=
    if text = mainnetText then .ok mainnetAddress
    else if text = testnetText then .ok testnetAddress
    else .error "Not a Zcash address"
  memoOfBytes _ := .error "no memo"
  memoBytes _ := []
  newPayment := .ok
  newRequest payments :=
    if payments.length ≤ 9999 then .ok (payments.zipIdx.map Prod.swap)
    else .error "too many payments"
  parseUri uri :=
    if uri = sampleUri mainnetText then .ok [(0, samplePayment mainnetAddress)]
    else if uri = sampleUri testnetText then .ok [(0, samplePayment testnetAddress)]
    else .error "not an accepted URI"
  writeUri request :=
    match request with
    | [(0, payment)] =>
      if payment.recipientAddress = mainnetAddress then sampleUri mainnetText
      else sampleUri testnetText
    | _ => "zcash:"
  maxPayments := 9999

theorem sampleZip321_accepts (read : sampleZip321.parseUri uri = .ok request) :
    request = [(0, samplePayment mainnetAddress)] ∨
      request = [(0, samplePayment testnetAddress)] := by
  change (if uri = sampleUri mainnetText then _ else _) = _ at read
  split at read
  · exact .inl (Except.ok.inj read).symm
  · split at read
    · exact .inr (Except.ok.inj read).symm
    · cases read

theorem sampleZip321_lawful : sampleZip321.Lawful where
  memo _ _ decoded := by cases decoded
  address uri request entry read member := by
    rcases sampleZip321_accepts read with rfl | rfl <;>
      obtain rfl := List.mem_singleton.mp member <;> decide
  humanReadable uri request entry read member := by
    rcases sampleZip321_accepts read with rfl | rfl <;>
      obtain rfl := List.mem_singleton.mp member <;> decide
  payment _ _ _ _ _ := rfl
  request uri request read few := by
    rcases sampleZip321_accepts read with rfl | rfl
    · exact ⟨[(0, samplePayment mainnetAddress)], rfl, rfl, rfl⟩
    · exact ⟨[(0, samplePayment testnetAddress)], rfl, rfl, rfl⟩
  tooMany uri request read many := by
    rcases sampleZip321_accepts read with rfl | rfl <;> exact absurd many (by decide)

def sampleRequest (recipient : PaymentRecipient) : PaymentRequest :=
  ⟨[⟨recipient, ⟨⟨10000⟩, by decide⟩, none, none, some "invoice one"⟩], .mainnet⟩

theorem request_faithful_iff_mainnet :
    Faithful sampleZip321 (sampleRequest (.saplingAddress mainnetText .mainnet)) := by
  have accepted : fromUri sampleZip321 (sampleUri mainnetText) .mainnet =
      .ok (sampleRequest (.saplingAddress mainnetText .mainnet)) := rfl
  have read : sampleZip321.parseUri (sampleUri mainnetText) =
      .ok [(0, samplePayment mainnetAddress)] := rfl
  exact (request_faithful_iff sampleZip321_lawful accepted read).mpr
    ⟨by decide, by decide, by decide⟩

/-- A testnet address in a request parsed for mainnet passes the guard of a mainnet wallet. -/
theorem testnetAddress_passes_mainnet :
    fromUri sampleZip321 (sampleUri testnetText) .mainnet =
        .ok (sampleRequest (.saplingAddress testnetText .mainnet)) ∧
      Spend.validateRecipientNetwork (.saplingAddress testnetText .mainnet) .mainnet = .ok () ∧
      sampleZip321.parseAddress testnetText = .ok testnetAddress ∧
      ¬testnetAddress.BelongsTo .mainnet :=
  ⟨rfl, rfl, rfl, by decide⟩

end PaymentRequest
end Zally
