import Chainmail.HybridCipher

/-!
`src/protocol/sealed-envelope.js`: an envelope whose content, sender included,
is encrypted for the recipient. What the builder draws at random or reads off
the clock is an argument of `build`.
-/

namespace Chainmail.SealedEnvelope

open Json

def PROTOCOL_VERSION : String := "2.0.0"
def INFO_INNER : Bytes := utf8Encode "dmail-inner-v2"
def INFO_ROUTING : Bytes := utf8Encode "dmail-routing-v2"

variable {P : Packages}

def generateRoutingToken (P : Packages) (address : String) : String :=
  toHex (P.hkdf (utf8Encode address) none INFO_ROUTING 16)

section Build

structure Content where
  subject : Json
  body : Json
  attachments : List Json
  replyTo : Json
  threadId : Json

structure SealedEnvelopeBuilder (P : Packages) where
  sender : Identity P
  recipient : Option String
  recipientKey : Option Bytes
  content : Content

/-- `createSealedMessage` -/
def createSealedMessage (identity : Identity P) : SealedEnvelopeBuilder P :=
  ⟨identity, none, none, ⟨.string "", .string "", [], .null, .null⟩⟩

namespace SealedEnvelopeBuilder

def «to» (builder : SealedEnvelopeBuilder P) (address : String) (encryptionPublicKey : Bytes) :
    SealedEnvelopeBuilder P :=
  { builder with recipient := some address, recipientKey := some encryptionPublicKey }

def subject (builder : SealedEnvelopeBuilder P) (s : Json) : SealedEnvelopeBuilder P :=
  { builder with content := { builder.content with subject := s } }

def body (builder : SealedEnvelopeBuilder P) (b : Json) : SealedEnvelopeBuilder P :=
  { builder with content := { builder.content with body := b } }

def attachment (builder : SealedEnvelopeBuilder P) (a : Json) : SealedEnvelopeBuilder P :=
  { builder with
    content := { builder.content with attachments := builder.content.attachments ++ [a] } }

end SealedEnvelopeBuilder

/-- What one call of `build` draws and reads off the clock, in milliseconds. -/
structure Draws extends CipherDraws where
  now : Nat
  outerNow : Nat
  fuzz : Nat
  padding : Bytes
  fuzz_lt : fuzz < 600000
  padding_length : padding.length < 256

def encryptForRecipient (P : Packages) (draws : CipherDraws)
    (plaintext recipientPublicKey : Bytes) : Except Failure Encrypted :=
  encryptFor P INFO_INNER draws plaintext recipientPublicKey

def innerPlaintext (sender : Identity P) (recipient : String) (content : Content) (now : Nat) :
    List (String × Json) :=
  [("version", .string PROTOCOL_VERSION),
    ("from", .string sender.address),
    ("fromPublicKey", .string (toBase64 sender.publicKey)),
    ("fromEncryptionKey", .string (toBase64 sender.encryptionPublicKey)),
    ("to", .string recipient),
    ("timestamp", ofInt now),
    ("subject", content.subject),
    ("body", content.body),
    ("attachments", .array content.attachments),
    ("replyTo", content.replyTo),
    ("threadId", content.threadId)]

/-- An inner plaintext with its signature as the last field. -/
def withSignature (sender : Identity P) (plaintext : List (String × Json)) :
    List (String × Json) :=
  let innerBytes := utf8Encode (stringify (.object plaintext))
  let signature := sender.sign (P.sha256 innerBytes)
  plaintext ++ [("signature", .string (toBase64 signature))]

def outerEnvelope (P : Packages) (recipient : String) (draws : Draws) (inner : Encrypted) :
    Json :=
  .object
    [("version", .string PROTOCOL_VERSION),
      ("type", .string "sealed"),
      ("routingToken", .string (generateRoutingToken P recipient)),
      ("timestamp", ofInt (draws.outerNow + draws.fuzz - 300000)),
      ("payload", .object
        [("ephemeralKey", .string (toBase64 inner.ephemeralKey)),
          ("nonce", .string (toBase64 inner.nonce)),
          ("ciphertext", .string (toBase64 inner.ciphertext))]),
      ("padding", .string (toBase64 draws.padding))]

def SealedEnvelopeBuilder.build (builder : SealedEnvelopeBuilder P) (draws : Draws) :
    Except Failure Json :=
  match builder.recipient, builder.recipientKey with
  | some recipient, some recipientKey =>
      if recipient = "" then .error (.error "Recipient address and encryption key required")
      else do
        let plaintext := innerPlaintext builder.sender recipient builder.content draws.now
        let inner := withSignature builder.sender plaintext
        let innerEncrypted ← encryptForRecipient P draws.toCipherDraws
            (utf8Encode (stringify (.object inner))) recipientKey
        return outerEnvelope P recipient draws innerEncrypted
  | _, _ => .error (.error "Recipient address and encryption key required")

end Build

section Parse

structure Message where
  «from» : Option Json
  «to» : Option Json
  subject : Option Json
  body : Option Json
  attachments : Json
  timestamp : Option Json
  replyTo : Option Json
  threadId : Option Json
  verified : Bool
  «sealed» : Bool

def decryptPayload (identity : Identity P) (payload : Option Json) : Except Failure Bytes := do
  let ephemeralKey ← bufferFrom P (← member "ephemeralKey" payload)
  let nonce ← bufferFrom P (← member "nonce" payload)
  let ciphertext ← bufferFrom P (← member "ciphertext" payload)
  decryptWith P INFO_INNER identity.encryptionPrivateKey ⟨ephemeralKey, nonce, ciphertext⟩

/-- The inner envelope, before anything in it is checked. -/
def openInner (identity : Identity P) (envelope : Json) : Except Failure Json := do
  let type ← member "type" (some envelope)
  if isText "sealed" type then
    let decrypted ← decryptPayload identity (envelope.field "payload")
    parseOrThrow (textDecode decrypted)
  else .error (.error "Not a sealed envelope")

def ownFields : Json → List (String × Json)
  | .object fields => fields
  | _ => []

/-- What the signature is over: the inner envelope without its `signature`. -/
def innerHash (P : Packages) (inner : Json) : Bytes :=
  P.sha256 (utf8Encode (stringify (.object (without "signature" (ownFields inner)))))

def messageOf (inner : Json) : Message where
  «from» := inner.field "from"
  «to» := inner.field "to"
  subject := inner.field "subject"
  body := inner.field "body"
  attachments := orElse (inner.field "attachments") (.array [])
  timestamp := inner.field "timestamp"
  replyTo := inner.field "replyTo"
  threadId := inner.field "threadId"
  verified := true
  «sealed» := true

/-- `SealedEnvelopeParser.parse` -/
def parse (identity : Identity P) (envelope : Json) : Except Failure Message := do
  let inner ← openInner identity envelope
  let addressee ← member "to" (some inner)
  if isText identity.address addressee then
    let signatureBytes ← bufferFrom P (inner.field "signature")
    let senderPublicKey ← bufferFrom P (inner.field "fromPublicKey")
    let valid ← accepted (P.ed25519Verify signatureBytes (innerHash P inner) senderPublicKey)
    if valid then return messageOf inner
    else .error (.error "Invalid message signature")
  else .error (.error "Message not addressed to this identity")

end Parse

section Accepted

/-- The checks an inner envelope passes before its message is returned. -/
structure Accepts (identity : Identity P) (inner : Json) (signature publicKey : Bytes) : Prop where
  addressed : inner.field "to" = some (.string identity.address)
  signature_read : bufferFrom P (inner.field "signature") = .ok signature
  publicKey_read : bufferFrom P (inner.field "fromPublicKey") = .ok publicKey
  verifies : P.ed25519Verify signature (innerHash P inner) publicKey = some true

theorem member_to_iff (inner : Json) (address : String) :
    (∃ addressee, member "to" (some inner) = .ok addressee ∧ isText address addressee = true) ↔
      inner.field "to" = some (.string address) := by
  cases inner <;> simp [member, field, isText_iff]

theorem parse_ok_iff {identity : Identity P} {envelope : Json} {message : Message} :
    parse identity envelope = .ok message ↔
      ∃ inner signature publicKey, openInner identity envelope = .ok inner ∧
        Accepts identity inner signature publicKey ∧ message = messageOf inner := by
  simp only [parse, bind_ok_iff]
  constructor
  · rintro ⟨inner, opened, addressee, read, returned⟩
    split at returned
    · rename_i addressed
      simp only [bind_ok_iff, accepted_ok] at returned
      obtain ⟨signature, signed, publicKey, key, valid, verified, returned⟩ := returned
      cases valid with
      | false => cases returned
      | true =>
          have addressed := (member_to_iff inner identity.address).mp ⟨addressee, read, addressed⟩
          cases returned
          exact ⟨inner, signature, publicKey, opened, ⟨addressed, signed, key, verified⟩, rfl⟩
    · cases returned
  · rintro ⟨inner, signature, publicKey, opened, accepts, rfl⟩
    obtain ⟨addressee, read, addressed⟩ :=
      (member_to_iff inner identity.address).mpr accepts.addressed
    refine ⟨inner, opened, addressee, read, ?_⟩
    simp [addressed, accepts.signature_read, accepts.publicKey_read, accepts.verifies]
    rfl

/-- Whoever signs an inner envelope with the key it names passes the checks. -/
theorem accepts_withSignature (verifies : SignaturesVerify P) {author identity : Identity P}
    {plaintext : List (String × Json)} (unsigned : "signature" ∉ plaintext.map Prod.fst)
    (addressed : lookup "to" plaintext = some (.string identity.address))
    (keyed : lookup "fromPublicKey" plaintext = some (.string (toBase64 author.publicKey))) :
    Accepts identity (.object (withSignature author plaintext))
      (author.sign (P.sha256 (utf8Encode (stringify (.object plaintext))))) author.publicKey where
  addressed := lookup_append_of_some _ addressed
  signature_read := by
    simp only [field, withSignature, lookup_append_of_absent _ unsigned, lookup, ↓reduceIte]
    exact bufferFrom_toBase64 P _
  publicKey_read := by
    simp only [field, withSignature, lookup_append_of_some _ keyed]
    exact bufferFrom_toBase64 P _
  verifies := by
    rw [innerHash, ownFields, withSignature, without_append _ unsigned, author.publicKey_eq]
    exact verifies author.privateKey _ author.privateKey_length

end Accepted
end Chainmail.SealedEnvelope
