import Chainmail.Coercion
import Chainmail.Identity
import Chainmail.OrderedMap
import Chainmail.Outcome

/-!
`src/storage/dht-storage.js`: the records a relay keeps for others. A record that
a peer sends is any JSON value, so every field may be missing or of any type.
Log lines are left out, but not the errors they raise. Finding peers is left out.
-/

namespace Chainmail.DhtStorage

open Json

variable (P : Packages)

def MESSAGE_TTL_MS : Nat := 7 * 24 * 60 * 60 * 1000

/-- What `Date.now()` returns; the clock stands after 1970. -/
structure Moment where
  ms : Nat
  positive : 0 < ms

/-- What `randomBytes(16)` draws. -/
structure RandomId where
  bytes : Bytes
  sized : bytes.length = 16

def RandomId.text (draw : RandomId) : String := toHex draw.bytes

def messageKey (recipient messageId : Option Json) : Except Failure String := do
  let recipient ← spliced recipient
  let messageId ← spliced messageId
  return recipient ++ ":" ++ messageId

structure StorageProof where
  nodeId : Option Json
  messageHash : Option Json
  timestamp : Option Json
  signature : Option Json

/-- The node that adds its own proofs: its `nodeId` and its `signFn`. -/
structure Signer where
  nodeId : String
  signFn : Bytes → Option Bytes

namespace StorageProof

def create (signer : Signer) (messageData : Bytes) (now : Moment) :
    Except Failure StorageProof := do
  let messageHash := toHex (P.sha256 messageData)
  let timestamp ← toText (ofInt now.ms)
  let proofData := signer.nodeId ++ ":" ++ messageHash ++ ":" ++ timestamp
  let signature ← accepted (signer.signFn (utf8Encode proofData))
  return ⟨some (.string signer.nodeId), some (.string messageHash), some (ofInt now.ms),
    some (.string (toHex signature))⟩

def toJSON (proof : StorageProof) : Json :=
  ofFields [("nodeId", proof.nodeId), ("messageHash", proof.messageHash),
    ("timestamp", proof.timestamp), ("signature", proof.signature)]

def fromJSON (json : Json) : Except Failure StorageProof := do
  let nodeId ← member "nodeId" (some json)
  return ⟨nodeId, json.field "messageHash", json.field "timestamp", json.field "signature"⟩

theorem fromJSON_toJSON (proof : StorageProof) : fromJSON proof.toJSON = .ok proof := by
  obtain ⟨nodeId, messageHash, timestamp, signature⟩ := proof
  cases nodeId <;> cases messageHash <;> cases timestamp <;> cases signature <;> rfl

end StorageProof

/-- A message with what is stored about it; the defaults leave no blank id, timestamp or expiry. -/
structure MessageRecord where
  id : Json
  recipient : Option Json
  data : Option Json
  timestamp : Json
  expires : Json
  storageProofs : List StorageProof
  replicationCount : Json
  hasId : truthy (some id) = true
  hasTimestamp : truthy (some timestamp) = true
  hasExpires : truthy (some expires) = true
  countOrZero : orElse (some replicationCount) (ofInt 0) = replicationCount

theorem orElse_truthy {fallback : Json} (value : Option Json)
    (filled : truthy (some fallback) = true) : truthy (some (orElse value fallback)) = true := by
  cases value with
  | none => exact filled
  | some found =>
      by_cases given : truthy (some found) = true
      · simp [orElse, given]
      · simpa [orElse, given] using filled

theorem orElse_of_truthy {value : Json} (fallback : Json) (given : truthy (some value) = true) :
    orElse (some value) fallback = value := by
  simp [orElse, given]

theorem orElse_twice (value : Option Json) (fallback : Json) :
    orElse (some (orElse value fallback)) fallback = orElse value fallback := by
  cases value with
  | none => exact ite_self fallback
  | some found =>
      by_cases given : truthy (some found) = true
      · simp [orElse, given]
      · simp [orElse, given]

theorem truthy_ofInt {value : Nat} (positive : 0 < value) : truthy (some (ofInt value)) = true := by
  obtain ⟨_, whole⟩ := Decimal.make_natural value
  have nonzero : (Decimal.make false value 0).mantissa ≠ 0 := by
    intro zero
    rw [zero, Int.zero_mul] at whole
    omega
  simp [ofInt_natCast, truthy, nonzero]

theorem RandomId.text_length (draw : RandomId) : draw.text.toList.length = 32 := by
  have doubled (bytes : Bytes) : (bytes.flatMap byteHex).length = 2 * bytes.length := by
    induction bytes with
    | nil => rfl
    | cons byte rest ih =>
        rw [List.flatMap_cons, List.length_append, ih, List.length_cons]
        simp only [byteHex, List.length_cons, List.length_nil]
        omega
  rw [text, toHex, String.toList_ofList, doubled, draw.sized]

theorem RandomId.truthy_text (draw : RandomId) : truthy (some (.string draw.text)) = true := by
  have filled : draw.text ≠ "" := by
    intro blank
    have length := draw.text_length
    rw [blank] at length
    cases length
  simp [truthy, filled]

namespace MessageRecord

/-- `new MessageRecord(options)`, the proofs given apart from the other options. -/
def construct (options : Json) (storageProofs : List StorageProof) (draw : RandomId)
    (now : Moment) : MessageRecord where
  id := orElse (options.field "id") (.string draw.text)
  recipient := options.field "recipient"
  data := options.field "data"
  timestamp := orElse (options.field "timestamp") (ofInt now.ms)
  expires := orElse (options.field "expires") (ofInt (now.ms + MESSAGE_TTL_MS : Nat))
  storageProofs := storageProofs
  replicationCount := orElse (options.field "replicationCount") (ofInt 0)
  hasId := orElse_truthy _ draw.truthy_text
  hasTimestamp := orElse_truthy _ (truthy_ofInt now.positive)
  hasExpires := orElse_truthy _ (truthy_ofInt (Nat.add_pos_left now.positive _))
  countOrZero := orElse_twice _ _

def isExpired (record : MessageRecord) (now : Moment) : Except Failure Bool := do
  let expires ← toNumber record.expires
  return expires.lt (.ofNat now.ms)

def addProof (record : MessageRecord) (proof : StorageProof) : MessageRecord :=
  let storageProofs := record.storageProofs ++ [proof]
  { record with
    storageProofs
    replicationCount := ofInt storageProofs.length
    countOrZero := by
      rw [orElse_of_truthy]
      exact truthy_ofInt (by simp [storageProofs]) }

def toJSON (record : MessageRecord) : Json :=
  ofFields [("id", some record.id), ("recipient", record.recipient), ("data", record.data),
    ("timestamp", some record.timestamp), ("expires", some record.expires),
    ("storageProofs", some (.array (record.storageProofs.map StorageProof.toJSON))),
    ("replicationCount", some record.replicationCount)]

/-- `(json.storageProofs || []).map(...)` -/
def proofsOf (json : Json) : Except Failure (List StorageProof) := do
  let storageProofs ← member "storageProofs" (some json)
  match present storageProofs with
  | none => return []
  | some (.array proofs) => proofs.mapM StorageProof.fromJSON
  | some _ => .error .typeError

def fromJSON (json : Json) (draw : RandomId) (now : Moment) : Except Failure MessageRecord := do
  let storageProofs ← proofsOf json
  return construct json storageProofs draw now

theorem proofsOf_toJSON (record : MessageRecord) :
    proofsOf record.toJSON = .ok record.storageProofs := by
  have listed : record.toJSON.field "storageProofs" =
      some (.array (record.storageProofs.map StorageProof.toJSON)) := by
    cases given : record.recipient <;> cases held : record.data <;>
      simp [toJSON, ofFields, field, lookup, given, held]
  have proofs : ∀ proofs : List StorageProof,
      (proofs.map StorageProof.toJSON).mapM StorageProof.fromJSON = .ok proofs := by
    intro proofs
    induction proofs with
    | nil => rfl
    | cons proof rest ih =>
        rw [List.map_cons]
        exact mapM_cons_ok_iff.mpr ⟨proof, rest, StorageProof.fromJSON_toJSON proof, ih, rfl⟩
  have same : member "storageProofs" (some record.toJSON) =
      .ok (record.toJSON.field "storageProofs") := rfl
  rw [proofsOf, same, listed]
  exact proofs record.storageProofs

/-- What the database prints and reads back is the record it was given. -/
theorem fromJSON_toJSON (record : MessageRecord) (draw : RandomId) (now : Moment) :
    fromJSON record.toJSON draw now = .ok record := by
  rw [fromJSON, proofsOf_toJSON]
  obtain ⟨id, recipient, data, timestamp, expires, storageProofs, count, hasId, hasTimestamp,
    hasExpires, countOrZero⟩ := record
  cases recipient <;> cases data <;>
    simp [construct, toJSON, ofFields, field, lookup, orElse_of_truthy, hasId, hasTimestamp,
      hasExpires, countOrZero]

end MessageRecord

abbrev Database := OrderedMap String MessageRecord

/-- A call of `slice` raises no error. -/
def canSlice : Option Json → Bool
  | some (.string _) | some (.array _) => true
  | _ => false

/-- The record with the node's own proof, if the node adds one. -/
def withProof (signer : Option Signer) (record : MessageRecord) (now : Moment) :
    Except Failure MessageRecord :=
  match signer with
  | none => .ok record
  | some signer => do
      let messageData ← bufferFrom P record.data
      let proof ← StorageProof.create P signer messageData now
      return record.addProof proof

/-- What a record is put under, and what is put there. -/
def entryOf (signer : Option Signer) (record : MessageRecord) (now : Moment) :
    Except Failure (String × MessageRecord) := do
  let record ← withProof P signer record now
  let key ← messageKey record.recipient (some record.id)
  return (key, record)

/-- The line about a record with its id and its count. The whole id was a part of the key,
    so its first letters can be shown if it has any. -/
def logReplicated (record : MessageRecord) : Except Failure Unit :=
  if canSlice (some record.id) then do
    let _ ← toText record.replicationCount
    return ()
  else .error .typeError

/-- The record is put before the line about it is logged. -/
def storeRecord (signer : Option Signer) (record : MessageRecord) (now : Moment) (db : Database) :
    Outcome Database Failure MessageRecord :=
  match entryOf P signer record now with
  | .error failure => .throws db failure
  | .ok (key, record) =>
      let db := db.set key record
      match logReplicated record with
      | .error failure => .throws db failure
      | .ok _ => .returns db record

/-- The record that `store` makes for a recipient. -/
def newRecord (recipient : Json) (data : String) (draw : RandomId) (now : Moment) : MessageRecord :=
  .construct (.object [("recipient", recipient), ("data", .string data),
    ("timestamp", ofInt now.ms)]) [] draw now

def store (signer : Option Signer) (recipient : Json) (data : String) (draw : RandomId)
    (now : Moment) (db : Database) : Outcome Database Failure MessageRecord :=
  match entryOf P signer (newRecord recipient data draw now) now with
  | .error failure => .throws db failure
  | .ok (key, record) =>
      let db := db.set key record
      if canSlice (some recipient) then .returns db record else .throws db .typeError

/-- The database lists its entries by the order of their keys. -/
def iterator (db : Database) : List (String × MessageRecord) :=
  db.entries.mergeSort fun left right => decide (left.1 ≤ right.1)

/-- The entries under a recipient's keys. -/
def rangeOf (recipient : String) (db : Database) : List MessageRecord :=
  ((iterator db).filter fun entry =>
    (recipient ++ ":").toList.isPrefixOf entry.1.toList).map Prod.snd

/-- Those that have not expired; the first expiry that is no number is thrown. -/
def unexpired (now : Moment) : List MessageRecord → Except Failure (List MessageRecord)
  | [] => .ok []
  | record :: rest => do
      let expired ← record.isExpired now
      let others ← unexpired now rest
      return if expired then others else record :: others

/-- `messages.sort((a, b) => a.timestamp - b.timestamp)`; a difference that is no
    number counts as none, and fewer than two records are not compared. -/
def sortByTimestamp (messages : List MessageRecord) : Except Failure (List MessageRecord) :=
  if messages.length < 2 then .ok messages
  else do
    let timed ← messages.mapM fun record => do
      let timestamp ← toNumber record.timestamp
      return (timestamp, record)
    return (timed.mergeSort fun left right => !right.1.lt left.1).map Prod.snd

def getMessages (recipient : Json) (now : Moment) (db : Database) :
    Except Failure (List MessageRecord) := do
  let recipient ← toText recipient
  let messages ← unexpired now (rangeOf recipient db)
  sortByTimestamp messages

def deleteMessage (recipient messageId : String) (db : Database) : Database :=
  db.delete (recipient ++ ":" ++ messageId)

/-- Drops what has expired, unless one expiry is no number: then nothing is dropped. -/
def cleanupExpired (now : Moment) (db : Database) : Database :=
  match db.entries.mapM fun entry => entry.2.isExpired now with
  | .error _ => db
  | .ok _ => db.keep fun _ record => record.isExpired now = .ok false

end Chainmail.DhtStorage
