import Chainmail.HybridCipher
import Chainmail.ProofOfWork

/-!
`src/protocol/message.js` and the encryption it uses, `src/crypto/encryption.js`:
an envelope with readable addresses around encrypted content, signed by the key
that the sender's address encodes.
-/

namespace Chainmail.MessageEnvelope

open Json ProofOfWork

def PROTOCOL_VERSION : String := "1.0.0"
def INFO : Bytes := utf8Encode "dmail-encryption-v1"

variable {P : Packages}

section Encryption

def encryptMessage (P : Packages) (draws : CipherDraws) (plaintext recipientPublicKey : Bytes) :
    Except Failure Encrypted :=
  encryptFor P INFO draws plaintext recipientPublicKey

def decryptMessage (P : Packages) (encrypted : Encrypted) (recipientPrivateKey : Bytes) :
    Except Failure Bytes :=
  decryptWith P INFO recipientPrivateKey encrypted

def serializeEncrypted (encrypted : Encrypted) : Json :=
  .object [("ephemeralPublicKey", .string (toBase64 encrypted.ephemeralKey)),
    ("nonce", .string (toBase64 encrypted.nonce)),
    ("ciphertext", .string (toBase64 encrypted.ciphertext))]

def deserializeEncrypted (P : Packages) (serialized : Option Json) :
    Except Failure Encrypted := do
  let ephemeralPublicKey ← bufferFrom P (← member "ephemeralPublicKey" serialized)
  let nonce ← bufferFrom P (← member "nonce" serialized)
  let ciphertext ← bufferFrom P (← member "ciphertext" serialized)
  return ⟨ephemeralPublicKey, nonce, ciphertext⟩

end Encryption

/-- What the signature and the proof of work are over. -/
def hashEnvelope (P : Packages) (envelope : Json) : Bytes :=
  let data := stringify (ofFields
    [("version", envelope.field "version"),
      ("from", envelope.field "from"),
      ("to", envelope.field "to"),
      ("timestamp", envelope.field "timestamp"),
      ("encrypted", envelope.field "encrypted")])
  P.sha256 (utf8Encode data)

def getMessageId (P : Packages) (envelope : Json) : String :=
  String.ofList ((toHex (hashEnvelope P envelope)).toList.take 32)

section Build

structure MessageBuilder (P : Packages) where
  identity : Identity P
  «to» : Option String
  subject : Json
  body : Json
  attachments : List Json
  timestamp : Nat
  replyTo : Json
  threadId : Json

/-- `createMessage`, at the time `now`. -/
def createMessage (identity : Identity P) (now : Nat) : MessageBuilder P where
  identity
  «to» := none
  subject := .string ""
  body := .string ""
  attachments := []
  timestamp := now
  replyTo := .null
  threadId := .null

def plaintext (builder : MessageBuilder P) : List (String × Json) :=
  [("subject", builder.subject),
    ("body", builder.body),
    ("attachments", .array builder.attachments),
    ("replyTo", builder.replyTo),
    ("threadId", builder.threadId)]

/-- The key that was handed over, or else the one in the address. -/
def recipientKey (P : Packages) (address : String) : Option Bytes → Except Failure Bytes
  | some key => .ok key
  | none =>
      match addressToPublicKey P address with
      | .ok key => .ok key
      | .error _ => .error (.error "Recipient encryption key required")

def unsignedEnvelope (builder : MessageBuilder P) (address : String) (encrypted : Encrypted) :
    List (String × Json) :=
  [("version", .string PROTOCOL_VERSION),
    ("from", .string builder.identity.address),
    ("fromEncryptionKey", .string (toBase64 builder.identity.encryptionPublicKey)),
    ("to", .string address),
    ("timestamp", ofInt builder.timestamp),
    ("encrypted", serializeEncrypted encrypted)]

def MessageBuilder.build (builder : MessageBuilder P) (recipientEncryptionKey : Option Bytes)
    (draws : CipherDraws) : Except Failure Json :=
  match builder.to with
  | none => .error (.error "Recipient address required")
  | some address =>
      if address = "" then .error (.error "Recipient address required")
      else do
        let key ← recipientKey P address recipientEncryptionKey
        let content := utf8Encode (stringify (.object (plaintext builder)))
        let encrypted ← encryptMessage P draws content key
        let envelope := unsignedEnvelope builder address encrypted
        let envelopeHash := hashEnvelope P (.object envelope)
        let signature := builder.identity.sign envelopeHash
        let pow ← computeProofOfWork P (toHex envelopeHash) DEFAULT_DIFFICULTY
        return .object
          (envelope ++ [("signature", .string (toBase64 signature)), ("pow", pow.toJson)])

end Build

section Parse

structure Message where
  id : String
  «from» : Option Json
  «to» : Option Json
  timestamp : Option Json
  subject : Option Json
  body : Option Json
  attachments : Json
  replyTo : Option Json
  threadId : Option Json
  verified : Bool

/-- The content of an envelope whose checks have passed. -/
def openContent (identity : Identity P) (envelope : Json) : Except Failure Json := do
  let encrypted ← deserializeEncrypted P (envelope.field "encrypted")
  let plaintext ← decryptMessage P encrypted identity.encryptionPrivateKey
  parseOrThrow (textDecode plaintext)

def messageOf (P : Packages) (envelope content : Json) : Message where
  id := getMessageId P envelope
  «from» := envelope.field "from"
  «to» := envelope.field "to"
  timestamp := envelope.field "timestamp"
  subject := content.field "subject"
  body := content.field "body"
  attachments := orElse (content.field "attachments") (.array [])
  replyTo := content.field "replyTo"
  threadId := content.field "threadId"
  verified := true

/-- `MessageParser.parse` -/
def parse (identity : Identity P) (envelope : Json) : Except Failure Message := do
  let version ← member "version" (some envelope)
  let supported ← if truthy version then do
      let text ← asText version
      pure (['1', '.'].isPrefixOf text.toList)
    else pure false
  if supported then
    if isText identity.address (envelope.field "to") then
      let envelopeHash := hashEnvelope P envelope
      let proven ← verifyProofOfWork P (toHex envelopeHash) (envelope.field "pow")
      if proven then
        let sender ← asText (envelope.field "from")
        let senderPublicKey ← addressToPublicKey P sender
        let signature ← bufferFrom P (envelope.field "signature")
        let valid ← verifySignature P envelopeHash signature senderPublicKey
        if valid then
          let content ← openContent identity envelope
          -- The first field read decides whether content can be read from at all.
          let _ ← member "subject" (some content)
          return messageOf P envelope content
        else .error (.error "Invalid signature")
      else .error (.error "Invalid proof of work")
    else .error (.error "Message not addressed to this identity")
  else .error (.error "Unsupported protocol version")

end Parse
end Chainmail.MessageEnvelope
