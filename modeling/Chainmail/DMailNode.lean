import Chainmail.OrderedMap
import Chainmail.Outcome
import Chainmail.ProofOfWork
import Chainmail.SealedEnvelope

/-!
The inbox of `src/network/node.js` and the ways an envelope gets into it. The
network is what a peer answers: a dialled peer either answers with a text or
does not. A stored envelope is kept apart from the fields stored with it.
Message handlers and log lines are left out.
-/

namespace Chainmail.DMailNode

open Json SealedEnvelope

variable (P : Packages)

structure InboxEntry where
  envelope : Json
  dhtReplicationCount : Option Json
  receivedAt : Nat
  read : Bool

structure SentEntry where
  envelope : Json
  sentAt : Nat

/-- The node of one identity: its address and the two ranges of its database. -/
structure Node where
  address : String
  inbox : OrderedMap String InboxEntry
  sent : OrderedMap String SentEntry

def create (address : String) : Node := ⟨address, OrderedMap.empty, OrderedMap.empty⟩

def storeMessage (node : Node) (messageId : String) (envelope : Json)
    (dhtReplicationCount : Option Json) (now : Nat) : Node :=
  { node with inbox := node.inbox.set messageId ⟨envelope, dhtReplicationCount, now, false⟩ }

/-- A byte array as `JSON.stringify` prints it: an object with the indices for names. -/
def bytesJson (bytes : Bytes) : Json :=
  .object (bytes.zipIdx.map fun entry =>
    (String.ofList (Nat.toDigits 10 entry.2), ofInt entry.1.toNat))

def payloadHash (envelope : Json) : Json :=
  let hashed (content : Json) := bytesJson (P.sha256 (utf8Encode (stringify content)))
  match present (envelope.field "payload") with
  | some payload => hashed payload
  | none =>
      match present (envelope.field "encrypted") with
      | some encrypted => hashed encrypted
      | none => .null

def getMessageId (envelope : Json) : Except Failure String := do
  let routingToken ← member "routingToken" (some envelope)
  let data := stringify (ofFields
    [("routingToken", routingToken),
      ("payloadHash", some (payloadHash P envelope)),
      ("timestamp", envelope.field "timestamp")])
  return String.ofList ((toHex (P.sha256 (utf8Encode data))).toList.take 32)

/-- Whether an envelope is addressed to the node, by routing token or by address. -/
def isForUs (address : String) (envelope : Json) : Except Failure Bool := do
  let type ← member "type" (some envelope)
  let routingToken := envelope.field "routingToken"
  return if isText "sealed" type && truthy routingToken then
      isText (generateRoutingToken P address) routingToken
    else isText address (envelope.field "to")

/-- The envelope that a gossip message brings for the node, with its id. -/
def incoming (address : String) (data : Bytes) : Except Failure (Option (String × Json)) := do
  let envelope ← parseOrThrow (textDecode data)
  let forUs ← isForUs P address envelope
  if forUs then
    let messageId ← getMessageId P envelope
    return some (messageId, envelope)
  else return none

def handleIncomingMessage (node : Node) (data : Bytes) (now : Nat) : Node :=
  match incoming P node.address data with
  | .ok (some (messageId, envelope)) => storeMessage node messageId envelope none now
  | _ => node

/-- `sendMessage` after the envelope was published. -/
def sendMessage (node : Node) (envelope : Json) (now : Nat) : Node :=
  match getMessageId P envelope with
  | .error _ => node
  | .ok messageId =>
      let node := { node with sent := node.sent.set messageId ⟨envelope, now⟩ }
      if isText node.address (envelope.field "to") then
        storeMessage node messageId envelope none now
      else node

/-- What an envelope is stored under. -/
def storageKey (envelope : Json) : Except Failure (Option Json) := do
  let type ← member "type" (some envelope)
  let routingToken := envelope.field "routingToken"
  return present (if isText "sealed" type && truthy routingToken then routingToken
    else envelope.field "to")

def storeRequest (storageKey envelope : Json) (now : Nat) : String :=
  stringify (.object
    [("action", .string "store"),
      ("record", .object
        [("recipient", storageKey),
          ("data", .string (toBase64 (utf8Encode (stringify envelope)))),
          ("timestamp", ofInt now)])])

/-- The requests to the peers, each with the time at which it is made if the peer can be dialled. -/
def storeOnRelays (envelope : Json) (connections : List (String × Option Nat)) :
    Except Failure (List (String × String)) :=
  if connections.isEmpty then .ok []
  else do
    let key ← storageKey envelope
    match key with
    | none => return []
    | some key =>
        return connections.filterMap fun connection =>
          connection.2.map fun now => (connection.1, storeRequest key envelope now)

/-- The envelope in a relay's record. -/
def decodeRecord (record : Json) : Except Failure Json := do
  let data ← member "data" (some record)
  let bytes ← bufferFrom P data
  parseOrThrow (bufferToString bytes)

/-- The envelope in a record with the id the node computes for it. -/
def identified (record : Json) : Except Failure (String × Json) := do
  let envelope ← decodeRecord P record
  let messageId ← getMessageId P envelope
  return (messageId, envelope)

/-- `for (const record of messages)`; the letters of a string are strings. -/
def iterate : Json → Except Failure (List Json)
  | .array items => .ok items
  | .string text => .ok (text.toList.map fun letter => .string (String.singleton letter))
  | _ => .error .typeError

/-- The records an answer lists, if it has a `messages` with a positive length. -/
def listed (response : Json) : Except Failure (List Json) := do
  let messages ← member "messages" (some response)
  match messages with
  | some (.object fields) =>
      match ProofOfWork.numberOf P (lookup "length" fields) with
      | some length => if 0 < length.mantissa then .error .typeError else return []
      | none => return []
  | some (.array items) => iterate (.array items)
  | some (.string text) => iterate (.string text)
  | _ => return []

/-- One turn of the loop over an answer; a record that cannot be read is skipped. -/
def storeRecord (countOf : Json → Option Json) (now : Nat) (node : Node) (record : Json) : Node :=
  match identified P record with
  | .ok (messageId, envelope) => storeMessage node messageId envelope (countOf record) now
  | .error _ => node

/-- What `fetchFromPeerDHT` asks a peer: the mail under the address and under its routing token. -/
def fetchRequest (address : String) : String :=
  stringify (.object
    [("action", .string "fetch"),
      ("recipient", .string address),
      ("routingToken", .string (generateRoutingToken P address))])

/-- The records that a DHT answer hands over; an answer with an error is thrown. -/
def recordsDHT (answer : String) : Except Failure (List Json) := do
  let response ← parseOrThrow answer
  let error ← member "error" (some response)
  if truthy error then
    let message ← spliced error
    .error (.error message)
  else listed P response

def fetchFromPeerDHT (node : Node) (answer : String) (now : Nat) : Outcome Node Failure Unit :=
  match recordsDHT P answer with
  | .error failure => .throws node failure
  | .ok records => .returns (records.foldl (storeRecord P (field "replicationCount") now) node) ()

/-- The records that a legacy answer hands over; an answer with an error has none. -/
def recordsLegacy (answer : String) : Except Failure (List Json) := do
  let response ← parseOrThrow answer
  let error ← member "error" (some response)
  if truthy error then return [] else listed P response

def fetchFromPeerLegacy (node : Node) (answer : String) (now : Nat) : Outcome Node Failure Unit :=
  match recordsLegacy P answer with
  | .error failure => .throws node failure
  | .ok records => .returns (records.foldl (storeRecord P (fun _ => none) now) node) ()

/-- A message as `fetchMessagesFromPeer` collects it. -/
structure Collected where
  id : Option Json
  envelope : Json

/-- Collects records until one cannot be read, and tells whether all could be. -/
def collectRecords (idOf : Json → Option Json) : List Json → List Collected × Bool
  | [] => ([], true)
  | record :: rest =>
      match decodeRecord P record with
      | .error _ => ([], false)
      | .ok envelope =>
          let others := collectRecords idOf rest
          (⟨idOf record, envelope⟩ :: others.1, others.2)

/-- What one protocol yields: a peer that does not answer yields nothing, and fails. -/
def collectAnswer (idOf : Json → Option Json) (answer : Option String) : List Collected × Bool :=
  let records := do
    let text ← accepted answer
    let response ← parseOrThrow text
    let messages ← member "messages" (some response)
    match present messages with
    | some value => iterate value
    | none => return []
  match records with
  | .ok records => collectRecords P idOf records
  | .error _ => ([], false)

/-- What a peer answers on the DHT protocol and on the legacy one. -/
structure PeerAnswer where
  dht : Option String
  legacy : Option String

/-- The legacy protocol is tried when the first fails, after what that collected. -/
def fetchMessagesFromPeer (answer : PeerAnswer) : List Collected :=
  let first := collectAnswer P (field "id") answer.dht
  if first.2 then first.1 else first.1 ++ (collectAnswer P (fun _ => none) answer.legacy).1

/-- `msg.id || this.getMessageId(msg.envelope)` -/
def idOf (message : Collected) : Except Failure Json :=
  match present message.id with
  | some id => .ok id
  | none => return .string (← getMessageId P message.envelope)

/-- The loop over one peer's messages; an error leaves it. -/
def takeMessages (now : Nat) : List Collected → List Json × Node → List Json × Node
  | [], held => held
  | message :: rest, (seenMessages, node) =>
      match idOf P message with
      | .error _ => (seenMessages, node)
      | .ok id =>
          if seenMessages.any (sameValue id) then takeMessages now rest (seenMessages, node)
          else
            match toText id with
            | .error _ => (id :: seenMessages, node)
            | .ok key =>
                takeMessages now rest
                  (id :: seenMessages, storeMessage node key message.envelope none now)

def fetchFromAllPeers (node : Node) (answers : List PeerAnswer) (now : Nat) : Node :=
  (answers.foldl (fun held answer => takeMessages P now (fetchMessagesFromPeer P answer) held)
    ([], node)).2

end Chainmail.DMailNode
