import Chainmail.AuthService
import Chainmail.Mailboxes

/-!
`api/src/messages/messages.controller.ts`: the endpoints for messages, and the guard of
`api/src/auth/wallet.guard.ts`, which none of them uses. The registry is what it answers
about a recipient. A `to` in the shared storage is a text.
-/

namespace Chainmail.MessagesController

open Json SharedStorage MessagesService
open AuthService (given)
open DhtStorage (Moment RandomId MessageRecord newRecord)

variable (P : Packages)

/-- An error of the controller, with its status, or one that it does not catch. -/
inductive Thrown where
  | http (status : Nat) (message : String)
  | internal (failure : Failure)

namespace WalletGuard

/-- The token of an `Authorization` header. -/
def bearer (authorization : Option String) : Option String := do
  let header ← given authorization
  if "Bearer ".toList.isPrefixOf header.toList then some (String.ofList (header.toList.drop 7))
  else none

/-- The wallet of the session. -/
def canActivate (authorization : Option String) (now : Nat) (service : AuthService.Service) :
    Except Thrown String × AuthService.Service :=
  match bearer authorization with
  | none => (.error (.http 401 "Missing authorization header"), service)
  | some token =>
      let result := AuthService.validateSession token now service
      match result.1 with
      | none => (.error (.http 401 "Invalid or expired session"), result.2)
      | some address => (.ok address, result.2)

end WalletGuard

structure MessageResponse where
  id : Json
  sender : Json
  recipient : Json
  subject : Option Json
  body : Option Json
  timestamp : Option Json
  read : Option Json
  encrypted : Option Json

/-- A call of an endpoint, with what is drawn and what others answer meanwhile. -/
inductive Call where
  | getInbox (queryAddress type headerAddress : Option String) (fetched : List (String × Json))
      (draws : String → RandomId)
  | getMessage (id : String) (draw : RandomId)
  | sendMessage (recipient subject body : String) (senderAddress : Option String)
      (encryptionKey : Option Bytes) (draws : CipherDraws) (ids : RandomId × RandomId)
      (passage : P2PNodeService.Passage)
  | sendEncryptedMessage (recipient : String) (encrypted : Json) (routingToken : Option String)
      (id : RandomId) (passage : P2PNodeService.Passage)
  | markAsRead (id : String) (address : Option String)
  | deleteMessage (id : String)

inductive Answer where
  | messages (responses : List MessageResponse)
  | message (response : MessageResponse)
  | sent (result : SendResult)
  | success

def Answer.responses : Answer → List MessageResponse
  | .messages responses => responses
  | .message response => [response]
  | _ => []

def textField (key : String) (message : Json) : Json := orElse (message.field key) (.string "")

/-- A message whose content stays encrypted. -/
def sealedResponse (message : Json) : MessageResponse where
  id := textField "id" message
  sender := textField "from" message
  recipient := textField "to" message
  subject := none
  body := none
  timestamp := message.field "timestamp"
  read := message.field "read"
  encrypted := message.field "encrypted"

/-- A sent message, with the plaintext that is stored with it. -/
def sentResponse (message : Json) : MessageResponse :=
  { sealedResponse message with
    subject := message.field "plaintextSubject"
    body := message.field "plaintextBody"
    read := some (.bool true)
    encrypted := none }

/-- With the content, if it could be decrypted. -/
def openedResponse (message : Json) (decrypted : Option DecryptedMessage) : MessageResponse :=
  { sealedResponse message with
    subject := decrypted.bind DecryptedMessage.subject
    body := decrypted.bind DecryptedMessage.body
    encrypted := if decrypted.isSome then none else message.field "encrypted" }

/-- `readMessageIds.has(messageId)` -/
def isListed (ids : List String) : Json → Bool
  | .string id => ids.contains id
  | _ => false

/-- `msg.to || address` -/
def recipientAddress (address : String) (message : Json) : String :=
  match message.field "to" with
  | some (.string text) => if text = "" then address else text
  | _ => address

/-- Decrypts each message for its recipient. -/
def decryptAll (address : String) (readMessageIds : List String) :
    List Json → IdentityStore → List MessageResponse × IdentityStore
  | [], store => ([], store)
  | message :: rest, store =>
      let opened := decryptMessageForAddress P message (recipientAddress address message) store
      let others := decryptAll address readMessageIds rest opened.2
      ({ openedResponse message opened.1 with
          read := some (.bool (isListed readMessageIds (textField "id" message))) } :: others.1,
        others.2)

def getInbox (queryAddress type headerAddress : Option String) (fetched : List (String × Json))
    (draws : String → RandomId) (now : Moment) (service : Service) :
    Outcome Service Thrown Answer :=
  match given queryAddress <|> given headerAddress with
  | none =>
      let inbox := MessagesService.getInbox P fetched draws now service
      match inbox.result with
      | .error failure => .throws inbox.state (.internal failure)
      | .ok messages => .returns inbox.state (.messages (messages.map sealedResponse))
  | some address =>
      if type = some "sent" then
        match getSentForAddress P address draws now service with
        | .error failure => .throws service (.internal failure)
        | .ok messages => .returns service (.messages (messages.map sentResponse))
      else
        match getInboxForAddress P address draws now service with
        | .error failure => .throws service (.internal failure)
        | .ok messages =>
            let readMessageIds := getReadMessageIds address service.dhtStorage
            let decrypted := decryptAll P address readMessageIds messages service.identityStore
            .returns { service with identityStore := decrypted.2 } (.messages decrypted.1)

def getMessage (id : String) (draw : RandomId) (now : Moment) (service : Service) :
    Outcome Service Thrown Answer :=
  match MessagesService.getMessage P id draw now service with
  | none => .throws service (.http 404 "Message not found")
  | some message =>
      match decryptMessage P message service with
      | .error failure => .throws service (.internal failure)
      | .ok decrypted =>
          .returns service (.message { openedResponse message decrypted with id := .string id })

def answered (outcome : Outcome Service Failure SendResult) : Outcome Service Thrown Answer :=
  match outcome.result with
  | .error failure => .throws outcome.state (.internal failure)
  | .ok result => .returns outcome.state (.sent result)

def sendMessage (recipient subject body : String) (senderAddress : Option String)
    (encryptionKey : Option Bytes) (draws : CipherDraws) (ids : RandomId × RandomId)
    (passage : P2PNodeService.Passage) (now : Moment) (service : Service) :
    Outcome Service Thrown Answer :=
  match given senderAddress with
  | none =>
      .throws service (.http 400 "Sender address required (x-dmail-address header)")
  | some sender =>
      match encryptionKey with
      | none => .throws service (.http 400 "Recipient not found in registry")
      | some recipientKey =>
          answered (sendMessageWithSender P ⟨sender, recipient, subject, body, recipientKey, draws⟩
            ids passage now service)

def respond (call : Call) (now : Moment) (service : Service) : Outcome Service Thrown Answer :=
  match call with
  | .getInbox queryAddress type headerAddress fetched draws =>
      getInbox P queryAddress type headerAddress fetched draws now service
  | .getMessage id draw => getMessage P id draw now service
  | .sendMessage recipient subject body senderAddress encryptionKey draws ids passage =>
      sendMessage P recipient subject body senderAddress encryptionKey draws ids passage now service
  | .sendEncryptedMessage recipient encrypted routingToken id passage =>
      answered (MessagesService.sendEncryptedMessage P recipient encrypted routingToken id passage
        now service)
  | .markAsRead id address =>
      match given address with
      | some address => .returns (markAsReadForAddress address id now service) .success
      | none => .returns (MessagesService.markAsRead id now service) .success
  | .deleteMessage id => .returns (MessagesService.deleteMessage id service) .success

end Chainmail.MessagesController
