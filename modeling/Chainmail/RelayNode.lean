import Chainmail.DhtStorage

/-!
`src/network/relay-node.js`: a relay keeps the mail it hears of and the records
that others ask it to store, and hands both out. The rate limiter's decision and
the peers that could be dialled are inputs. Statistics are left out.
-/

namespace Chainmail.RelayNode

open Json DhtStorage

variable (P : Packages)

/-- The relay's database, and the replication requests it sent with their peers. -/
structure Relay where
  db : Database
  sent : List (String × Json)

def start : Relay := ⟨OrderedMap.empty, []⟩

/-- What the coordinator draws for its own record, and the peers it reaches. -/
structure Replication where
  draw : RandomId
  targets : List String

/-- The request that `replicateTo` sends. -/
def replicateTo (record : MessageRecord) (peerId : String) : String × Json :=
  (peerId, .object [("action", .string "store"), ("record", record.toJSON)])

namespace Coordinator

/-- `DHTCoordinator.storeWithReplication` -/
def storeWithReplication (signer : Option Signer) (recipient : Json) (data : String)
    (replication : Replication) (now : Moment) (relay : Relay) :
    Outcome Relay Failure MessageRecord :=
  let stored := store P signer recipient data replication.draw now relay.db
  match stored.result with
  | .error failure => .throws { relay with db := stored.state } failure
  | .ok record =>
      .returns ⟨stored.state, relay.sent ++ replication.targets.map (replicateTo record)⟩ record

end Coordinator

/-- Stores locally, then replicates; an error of the coordinator is only logged. -/
def storeWithReplication (signer : Option Signer) (recipient : Json) (data : Bytes)
    (draw : RandomId) (coordinator : Option Replication) (now : Moment) (relay : Relay) :
    Outcome Relay Failure MessageRecord :=
  let stored := store P signer recipient (toBase64 data) draw now relay.db
  let relay := { relay with db := stored.state }
  match stored.result with
  | .error failure => .throws relay failure
  | .ok record =>
      match coordinator with
      | none => .returns relay record
      | some replication =>
          let replicated := Coordinator.storeWithReplication P signer recipient (toBase64 data)
            replication now relay
          .returns replicated.state record

/-- What an envelope is stored under; its first letters are logged. -/
def storageKey (envelope : Json) : Except Failure (Option Json) :=
  let routingToken :=
    if isText "sealed" (envelope.field "type") then present (envelope.field "routingToken")
    else none
  match routingToken, present (envelope.field "to") with
  | some key, _ | none, some key => if canSlice (some key) then .ok (some key) else .error .typeError
  | none, none => .ok none

/-- The key under which a gossip message is to be stored, once it is let in. -/
def acceptedKey (data : Bytes) (allowed : Bool) : Except Failure (Option Json) := do
  let envelope ← parseOrThrow (textDecode data)
  -- The sender is read for the rate limiter.
  let _ ← member "from" (some envelope)
  if allowed then storageKey envelope else return none

def handleMessage (signer : Option Signer) (data : Bytes) (allowed : Bool) (draw : RandomId)
    (coordinator : Option Replication) (now : Moment) (relay : Relay) : Relay :=
  match acceptedKey data allowed with
  | .ok (some key) => (storeWithReplication P signer key data draw coordinator now relay).state
  | _ => relay

/-- The record of a store request, if it is one. -/
def requestedRecord (data : Bytes) (draw : RandomId) (now : Moment) :
    Except Failure (Option MessageRecord) := do
  let request ← parseOrThrow (textDecode data)
  let action ← member "action" (some request)
  let record := if isText "store" action then present (request.field "record") else none
  match record with
  | none => return none
  | some json =>
      let record ← MessageRecord.fromJSON json draw now
      return some record

def storeFailed : Json := .object [("error", .string "Store failed")]

def invalidRequest : Json := .object [("error", .string "Invalid request")]

/-- The relay and the reply. After the record is put, the length of its data is read. -/
def handleStoreRequest (signer : Option Signer) (data : Bytes) (draw : RandomId) (now : Moment)
    (relay : Relay) : Relay × Json :=
  match requestedRecord data draw now with
  | .error _ => (relay, storeFailed)
  | .ok none => (relay, invalidRequest)
  | .ok (some record) =>
      let stored := storeRecord P signer record now relay.db
      let reply := match stored.result with
        | .error _ => storeFailed
        | .ok record =>
            match record.data with
            | none | some .null => storeFailed
            | some _ => .object [("success", .bool true), ("id", record.id)]
      ({ relay with db := stored.state }, reply)

/-- The recipients that a fetch request asks for: by address, by routing token or both. -/
def askedFor (data : Bytes) : Except Failure (List Json) := do
  let request ← parseOrThrow (textDecode data)
  let action ← member "action" (some request)
  return if isText "fetch" action then
      (present (request.field "recipient")).toList ++
        (present (request.field "routingToken")).toList
    else []

/-- The loop over the records of one range: one that has the id of an earlier one is dropped. -/
def collect (seenIds : List Json) : List MessageRecord → List MessageRecord
  | [] => []
  | record :: rest =>
      if seenIds.any (sameValue record.id) then collect seenIds rest
      else record :: collect (record.id :: seenIds) rest

def fetchRecords (asked : List Json) (now : Moment) (db : Database) :
    Except Failure (List MessageRecord) := do
  let ranges ← asked.mapM fun recipient => getMessages recipient now db
  return collect [] ranges.flatten

def handleDHTFetchRequest (data : Bytes) (now : Moment) (relay : Relay) : Json :=
  match askedFor data with
  | .error _ => .object [("error", .string "Fetch failed")]
  | .ok [] => invalidRequest
  | .ok asked =>
      match fetchRecords asked now relay.db with
      | .error _ => .object [("error", .string "Fetch failed")]
      | .ok records => .object [("messages", .array (records.map MessageRecord.toJSON))]

inductive Event where
  | gossip (data : Bytes) (allowed : Bool) (draw : RandomId) (coordinator : Option Replication)
  | storeRequest (data : Bytes) (draw : RandomId)
  | cleanup
  | delete (recipient messageId : String)

def step (signer : Option Signer) (relay : Relay) (event : Event) (now : Moment) : Relay :=
  match event with
  | .gossip data allowed draw coordinator =>
      handleMessage P signer data allowed draw coordinator now relay
  | .storeRequest data draw => (handleStoreRequest P signer data draw now relay).1
  | .cleanup => { relay with db := cleanupExpired now relay.db }
  | .delete recipient messageId => { relay with db := deleteMessage recipient messageId relay.db }

def run (signer : Option Signer) (relay : Relay) (events : List (Event × Moment)) : Relay :=
  events.foldl (fun relay event => step P signer relay event.1 event.2) relay

end Chainmail.RelayNode
