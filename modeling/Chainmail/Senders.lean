import Chainmail.JsonRoundTrip
import Chainmail.MessageEnvelope
import Chainmail.SealedEnvelope

/-!
Where the program builds an envelope for an address: the two servers
(`src/server/secure-server.js`, `src/server/index.js`), the SMTP gateway
(`src/gateway/smtp-gateway.js`) and the command line (`src/cli/index.js`). Each
returns the envelope it hands to its node, or the error it answers with.
-/

namespace Chainmail.Senders

open Json SealedEnvelope MessageEnvelope

variable {P : Packages}

/-- A value that the program holds, its objects in the order objects list their fields. -/
abbrev Value := { value : Json // Canonical value }

def keyOrError (P : Packages) (address message : String) : Except Failure Bytes :=
  match addressToPublicKey P address with
  | .ok recipientKey => .ok recipientKey
  | .error _ => .error (.error message)

/-- The fields of a request body that may be missing. -/
def subjectOf (subject : Option Value) : Json :=
  orElse (subject.map Subtype.val) (.string "(no subject)")

def bodyOf (body : Option Value) : Json := orElse (body.map Subtype.val) (.string "")

/-- `POST /api/messages` of the secure server. -/
def postSealed (identity : Identity P) (address : String) (subject body : Option Value)
    (draws : SealedEnvelope.Draws) : Except Failure Json :=
  if address = "" then .error (.error "Recipient address required")
  else do
    let recipientKey ← keyOrError P address "Invalid recipient address"
    let builder := (((createSealedMessage identity).to address recipientKey).subject
      (subjectOf subject)).body (bodyOf body)
    builder.build draws

/-- `POST /api/messages` of the plain server. -/
def postMessage (identity : Identity P) (address : String) (subject body : Option Value)
    (now : Nat) (draws : CipherDraws) : Except Failure Json :=
  if address = "" then .error (.error "Recipient address required")
  else do
    let recipientKey ← keyOrError P address "Invalid recipient address"
    let builder := { createMessage identity now with
      «to» := some address, subject := subjectOf subject, body := bodyOf body }
    builder.build (some recipientKey) draws

/-- A text, or the fallback where it is missing or empty. -/
def textOr (text : Option String) (fallback : String) : String :=
  match text with
  | some found => if found = "" then fallback else found
  | none => fallback

/-- `forwardToDmail` of the gateway, for a mail with this subject and text. -/
def forwardToDmail (gatewayIdentity : Identity P) (mailFrom dmailAddress : String)
    (subject text : Option String) (now : Nat) (draws : CipherDraws) : Except Failure Json := do
  let recipientPublicKey ← addressToPublicKey P dmailAddress
  let builder := { createMessage gatewayIdentity now with
    «to» := some dmailAddress
    subject := .string ("[Gateway] " ++ textOr subject "(no subject)")
    body := .string ("From: " ++ mailFrom ++ "\n\n" ++ textOr text "") }
  builder.build (some recipientPublicKey) draws

/-- What the registry answers for a name: nothing, an identity, or a failed connection. -/
inductive Lookup where
  | missing
  | found (dmailAddress : String) (encryptionKey : Bytes)
  | failed

/-- Whom the command line writes to, and with which key. -/
def resolveRecipient (P : Packages) (lookupByName : String → Lookup) (recipient : String) :
    Except Failure (String × Bytes) :=
  let byAddress := do
    let key ← keyOrError P recipient "Invalid recipient address"
    return (recipient, key)
  if ADDRESS_PREFIX.toList.isPrefixOf recipient.toList then byAddress
  else
    match lookupByName recipient with
    | .found dmailAddress encryptionKey => .ok (dmailAddress, encryptionKey)
    | .missing => .error (.error ("Name '" ++ recipient ++ "' not found on blockchain."))
    | .failed => byAddress

/-- A file as a message carries it. -/
def attachment (filename : String) (data : Bytes) : Json :=
  .object [("filename", .string filename), ("data", .string (toBase64 data)),
    ("size", ofInt data.length)]

/-- The `send` command. -/
def sendCommand (identity : Identity P) (lookupByName : String → Lookup) (recipient : String)
    (subject body : String) (file : Option (String × Bytes)) (now : Nat) (draws : CipherDraws) :
    Except Failure Json := do
  let resolved ← resolveRecipient P lookupByName recipient
  let attachments := match file with
    | some (filename, data) => [attachment filename data]
    | none => []
  let builder := { createMessage identity now with
    «to» := some resolved.1, subject := .string subject, body := .string body, attachments }
  builder.build (some resolved.2) draws

end Chainmail.Senders
