import Chainmail.DMailNode
import Chainmail.MessageEnvelope
import Chainmail.SharedStorage

/-!
`api/src/messages/messages.service.ts`: the mailboxes of the users of one server, with what
it uses of `p2p-node.service.ts`, `identity-store.service.ts` and `encryption.service.ts`.
The shared storage has been opened. What the relays store is left out, and so are log lines.
-/

namespace Chainmail.MessagesService

open Json SharedStorage
open DhtStorage (Moment RandomId MessageRecord)
open DMailNode (getMessageId)

variable (P : Packages)

namespace EncryptionService

open MessageEnvelope

def encryptJson (data : Json) (recipientPublicKey : Bytes) (draws : CipherDraws) :
    Except Failure Json := do
  let encrypted ← encryptMessage P draws (utf8Encode (stringify data)) recipientPublicKey
  return serializeEncrypted encrypted

def decryptJson (serialized : Option Json) (recipientPrivateKey : Bytes) : Except Failure Json := do
  let encrypted ← deserializeEncrypted P serialized
  let plaintext ← decryptMessage P encrypted recipientPrivateKey
  parseOrThrow (textDecode plaintext)

end EncryptionService

/-- The properties that a value is spread into. -/
def entriesOf : Json → List (String × Json)
  | .object fields => fields
  | .array items => items.zipIdx.map fun entry => (toString entry.2, entry.1)
  | .string text =>
      text.toList.zipIdx.map fun entry => (toString entry.2, .string (String.singleton entry.1))
  | _ => []

/-- `{ ...fields, ...value }` -/
def spread (fields : List (String × Json)) (value : Json) : List (String × Json) :=
  (entriesOf value).foldl (fun built entry => setField entry.1 entry.2 built) fields

namespace P2PNodeService

/-- The node of one identity, whose address it has. Its database is open once it is initialised. -/
structure Node where
  identity : Option String
  node : Bool
  db : Option (OrderedMap String Json)
  isStarted : Bool

/-- What a message meets outside of the node: the reason why the rate limiter refuses it, if
    it does, and whether it could be published. -/
structure Passage where
  refused : Option String
  published : Bool

/-- `{ ...envelope, receivedAt: Date.now(), read: false }` -/
def received (envelope : Json) (now : Moment) : Json :=
  .object (setField "read" (.bool false)
    (setField "receivedAt" (ofInt now.ms) (spread [] envelope)))

def sendMessage (envelope : Json) (passage : Passage) (now : Moment) (node : Node) :
    Outcome Node Failure String :=
  match node.identity, node.node, node.db with
  | some address, true, some db =>
      match passage.refused with
      | some reason => .throws node (.error ("Rate limited: " ++ reason))
      | none =>
          if passage.published = false then .throws node .rejected
          else
            match getMessageId P envelope with
            | .error failure => .throws node failure
            | .ok messageId =>
                let db := db.set ("sent:" ++ messageId)
                  (.object (setField "sentAt" (ofInt now.ms) (spread [] envelope)))
                let db := if isText address (envelope.field "to") then
                    db.set ("inbox:" ++ messageId) (received envelope now)
                  else db
                .returns { node with db := some db } messageId
  | _, _, _ => .throws node (.error "Node not initialized")

/-- The peers answer with these messages, each with its id. -/
def fetchStoredMessages (fetched : List (String × Json)) (now : Moment) (node : Node) : Node :=
  if node.node = false then node
  else
    { node with
      db := node.db.map fun db => fetched.foldl (fun db answer =>
        db.set ("inbox:" ++ answer.1) (received answer.2 now)) db }

/-- `messages.sort((a, b) => b.timestamp - a.timestamp)` -/
def sortNewestFirst (messages : List Json) : Except Failure (List Json) :=
  if messages.length < 2 then .ok messages
  else do
    let timed ← messages.mapM fun message => do
      let timestamp ← match message.field "timestamp" with
        | some value => toNumber value
        | none => .ok .nan
      return (timestamp, message)
    return (timed.mergeSort fun left right => !left.1.lt right.1).map Prod.snd

def getInbox (fetched : List (String × Json)) (now : Moment) (node : Node) :
    Outcome Node Failure (List Json) :=
  let node := fetchStoredMessages fetched now node
  let entries : List (String × Json) := match node.db with
    | some db => (ordered Prod.fst db.entries).filter fun entry =>
        "inbox:".toList.isPrefixOf entry.1.toList
    | none => []
  let messages := entries.map fun entry =>
    Json.object (spread [("id", .string (String.ofList (entry.1.toList.drop 6)))] entry.2)
  ⟨sortNewestFirst messages, node⟩

def getMessage (messageId : String) (node : Node) : Option Json := do
  let db ← node.db
  db.get ("inbox:" ++ messageId)

def markAsRead (messageId : String) (node : Node) : Node :=
  match node.db, getMessage messageId node with
  | some db, some message =>
      { node with
        db := some (db.set ("inbox:" ++ messageId)
          (.object (setField "read" (.bool true) (entriesOf message)))) }
  | _, _ => node

def deleteMessage (messageId : String) (node : Node) : Node :=
  { node with db := node.db.map fun db => db.delete ("inbox:" ++ messageId) }

end P2PNodeService

/-- What the service uses of an identity. -/
structure Identity where
  address : String
  encryptionPrivateKey : Bytes

/-- The identities in memory, and what the file of each address holds. -/
structure IdentityStore where
  identities : OrderedMap String Identity
  files : String → Option Identity

def IdentityStore.getIdentity (address : String) (store : IdentityStore) : Option Identity :=
  store.identities.get address <|> store.files address

/-- An identity that is read from its file stays in memory. -/
def IdentityStore.load (address : String) (store : IdentityStore) : IdentityStore :=
  match store.identities.get address, store.files address with
  | none, some identity => { store with identities := store.identities.set address identity }
  | _, _ => store

structure Service where
  currentIdentity : Option Identity
  p2pNode : P2PNodeService.Node
  identityStore : IdentityStore
  dhtStorage : Database

/-- What a user sends, with what its encryption draws. -/
structure Draft where
  sender : String
  recipient : String
  subject : String
  body : String
  recipientEncryptionKey : Bytes
  draws : CipherDraws

def Draft.message (draft : Draft) (now : Moment) : Json :=
  .object [("subject", .string draft.subject), ("body", .string draft.body),
    ("timestamp", ofInt now.ms)]

def plainEnvelope (sender recipient : String) (encrypted : Json) (now : Moment) :
    List (String × Json) :=
  [("type", .string "plain"), ("from", .string sender), ("to", .string recipient),
    ("encrypted", encrypted), ("timestamp", ofInt now.ms)]

/-- The envelope of a draft, unless it cannot be encrypted. -/
def Draft.envelope (draft : Draft) (now : Moment) : Except Failure (List (String × Json)) := do
  let encrypted ← EncryptionService.encryptJson P (draft.message now) draft.recipientEncryptionKey
    draft.draws
  return plainEnvelope draft.sender draft.recipient encrypted now

/-- The envelope as it is put in the sender's folder. -/
def Draft.sentEnvelope (draft : Draft) (envelope : List (String × Json)) : List (String × Json) :=
  envelope ++ [("plaintextSubject", .string draft.subject), ("plaintextBody", .string draft.body)]

def generateMessageId (envelope : Json) : String :=
  let data := stringify (ofFields
    [("from", envelope.field "from"),
      ("to", envelope.field "to"),
      ("encrypted", envelope.field "encrypted"),
      ("timestamp", envelope.field "timestamp")])
  String.ofList ((toHex (P.sha256 (utf8Encode data))).toList.take 32)

/-- `Buffer.from(JSON.stringify(value)).toString('base64')` -/
def encode (value : Json) : String := toBase64 (utf8Encode (stringify value))

structure SendResult where
  messageId : String
  timestamp : Nat

/-- The folder of what a user has sent. -/
def sentFolder (address : String) : String := "sent:" ++ address

/-- `ids` are drawn for the records of the recipient and of the sender. -/
def sendMessageWithSender (draft : Draft) (ids : RandomId × RandomId)
    (passage : P2PNodeService.Passage) (now : Moment) (service : Service) :
    Outcome Service Failure SendResult :=
  match draft.envelope P now with
  | .error failure => .throws service failure
  | .ok envelope =>
      if service.p2pNode.isStarted then
        let sent := P2PNodeService.sendMessage P (.object envelope) passage now service.p2pNode
        ⟨sent.result.map fun messageId => ⟨messageId, now.ms⟩,
          { service with p2pNode := sent.state }⟩
      else
        let messageId := generateMessageId P (.object envelope)
        let stored := (store P none draft.recipient (encode (.object envelope)) ids.1 now
          service.dhtStorage).andThen fun _ db =>
            store P none (sentFolder draft.sender) (encode (.object (draft.sentEnvelope envelope)))
              ids.2 now db
        ⟨stored.result.map fun _ => ⟨messageId, now.ms⟩, { service with dhtStorage := stored.state }⟩

/-- A record as a message, with what its envelope has: `{ id, ...envelope, receivedAt, read }`. -/
def storedMessage (read : Bool) (record : MessageRecord) : Except Failure Json := do
  let bytes ← bufferFrom P record.data
  let envelope ← parseOrThrow (bufferToString bytes)
  return .object (setField "read" (.bool read)
    (setField "receivedAt" record.timestamp (spread [("id", record.id)] envelope)))

/-- The messages in a folder; a record that cannot be read as one is left out. -/
def messagesIn (folder : String) (read : Bool) (draws : String → RandomId) (now : Moment)
    (service : Service) : Except Failure (List Json) := do
  let records ← getMessages folder draws now service.dhtStorage
  return records.filterMap fun record => (storedMessage P read record).toOption

def getInboxForAddress (address : String) (draws : String → RandomId) (now : Moment)
    (service : Service) : Except Failure (List Json) :=
  messagesIn P address false draws now service

/-- What was sent counts as read. -/
def getSentForAddress (address : String) (draws : String → RandomId) (now : Moment)
    (service : Service) : Except Failure (List Json) :=
  messagesIn P (sentFolder address) true draws now service

/-- What is thrown without a current identity. -/
def noIdentity : Failure := .error "No identity set"

def sendEncryptedMessage (recipient : String) (encrypted : Json) (routingToken : Option String)
    (id : RandomId) (passage : P2PNodeService.Passage) (now : Moment) (service : Service) :
    Outcome Service Failure SendResult :=
  match service.currentIdentity with
  | none => .throws service noIdentity
  | some identity =>
      let sealed := (routingToken.filter fun token => token ≠ "").isSome
      let envelope := ofFields
        [("type", some (.string (if sealed then "sealed" else "plain"))),
          ("from", some (.string identity.address)),
          ("to", some (.string recipient)),
          ("routingToken", routingToken.map .string),
          ("encrypted", some encrypted),
          ("timestamp", some (ofInt now.ms))]
      if service.p2pNode.isStarted then
        let sent := P2PNodeService.sendMessage P envelope passage now service.p2pNode
        ⟨sent.result.map fun messageId => ⟨messageId, now.ms⟩,
          { service with p2pNode := sent.state }⟩
      else
        let messageId := generateMessageId P envelope
        let stored := store P none recipient (encode envelope) id now service.dhtStorage
        ⟨stored.result.map fun _ => ⟨messageId, now.ms⟩, { service with dhtStorage := stored.state }⟩

/-- The node's inbox, once it is started, and else that of the current identity. -/
def getInbox (fetched : List (String × Json)) (draws : String → RandomId) (now : Moment)
    (service : Service) : Outcome Service Failure (List Json) :=
  if service.p2pNode.isStarted then
    let inbox := P2PNodeService.getInbox fetched now service.p2pNode
    ⟨inbox.result, { service with p2pNode := inbox.state }⟩
  else
    match service.currentIdentity with
    | none => .returns service []
    | some identity => ⟨getInboxForAddress P identity.address draws now service, service⟩

def getMessage (messageId : String) (draw : RandomId) (now : Moment) (service : Service) :
    Option Json :=
  if service.p2pNode.isStarted then P2PNodeService.getMessage messageId service.p2pNode
  else do
    let identity ← service.currentIdentity
    let record ← SharedStorage.getMessage identity.address messageId draw now service.dhtStorage
    (storedMessage P false record).toOption

/-- What the controller uses of a decrypted message. -/
structure DecryptedMessage where
  subject : Option Json
  body : Option Json

/-- The content of a message, unless the identity cannot decrypt it. -/
def decrypted (message : Json) (identity : Identity) : Option DecryptedMessage :=
  let content : Except Failure DecryptedMessage := do
    let content ← EncryptionService.decryptJson P (message.field "encrypted")
      identity.encryptionPrivateKey
    let subject ← member "subject" (some content)
    let body ← member "body" (some content)
    return ⟨subject, body⟩
  content.toOption

def decryptMessageForAddress (message : Json) (address : String) (store : IdentityStore) :
    Option DecryptedMessage × IdentityStore :=
  ((store.getIdentity address).bind (decrypted P message), store.load address)

/-- Decrypts for the current identity. -/
def decryptMessage (message : Json) (service : Service) :
    Except Failure (Option DecryptedMessage) :=
  match service.currentIdentity with
  | none => .error noIdentity
  | some identity => .ok (decrypted P message identity)

def markAsReadForAddress (address messageId : String) (now : Moment) (service : Service) : Service :=
  { service with
    dhtStorage := SharedStorage.markAsRead address messageId now service.dhtStorage
    p2pNode := if service.p2pNode.isStarted then
        P2PNodeService.markAsRead messageId service.p2pNode
      else service.p2pNode }

def markAsRead (messageId : String) (now : Moment) (service : Service) : Service :=
  match service.currentIdentity with
  | some identity => markAsReadForAddress identity.address messageId now service
  | none =>
      if service.p2pNode.isStarted then
        { service with p2pNode := P2PNodeService.markAsRead messageId service.p2pNode }
      else service

def deleteMessage (messageId : String) (service : Service) : Service :=
  if service.p2pNode.isStarted then
    { service with p2pNode := P2PNodeService.deleteMessage messageId service.p2pNode }
  else
    match service.currentIdentity with
    | some identity =>
        { service with
          dhtStorage := SharedStorage.deleteMessage identity.address messageId service.dhtStorage }
    | none => service

@[simp] theorem getIdentity_load (address other : String) (store : IdentityStore) :
    (store.load address).getIdentity other = store.getIdentity other := by
  rw [IdentityStore.load]
  split
  next identity absent found =>
    rw [IdentityStore.getIdentity, IdentityStore.getIdentity, OrderedMap.get_set]
    by_cases same : other = address
    · subst same
      simp [absent, found]
    · rw [if_neg same]
  · rfl

end Chainmail.MessagesService
