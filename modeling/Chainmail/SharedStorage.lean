import Chainmail.JsText
import Chainmail.RelaySteps
import Chainmail.StableOrder
import Mathlib.Data.String.Basic

/-!
`api/src/storage/dht-storage.service.ts`: the storage that the users of one server
share. Besides the records that the relays' storage has, its database has a mark
for each message that a user has read. The service has been initialised.
-/

namespace Chainmail.SharedStorage

open Json DhtStorage

variable (P : Packages)

/-- What the database has under a key: a record, or the mark that `markAsRead` puts. -/
inductive Value where
  | record (record : MessageRecord)
  | mark (timestamp : Moment)

def Value.isRecord : Value → Bool
  | .record _ => true
  | .mark _ => false

def Value.toJSON : Value → Json
  | .record stored => stored.toJSON
  | .mark timestamp => .object [("read", .bool true), ("timestamp", ofInt timestamp.ms)]

abbrev Database := OrderedMap String Value

def messageKey (recipient messageId : String) : String := recipient ++ ":" ++ messageId

def store (signer : Option Signer) (recipient data : String) (draw : RandomId) (now : Moment)
    (db : Database) : Outcome Database Failure MessageRecord :=
  match entryOf P signer (newRecord (.string recipient) data draw now) now with
  | .error failure => .throws db failure
  | .ok (key, record) => .returns (db.set key (.record record)) record

/-- The database lists its entries by the order of their keys. -/
def iterator (db : Database) : List (String × Value) := ordered Prod.fst db.entries

/-- The entries whose keys start with a text. -/
def startingWith (start : String) (db : Database) : List (String × Value) :=
  (iterator db).filter fun entry => start.toList.isPrefixOf entry.1.toList

/-- What is read of entries and has not expired. Where a value has no id, the record
    that is read gets one that is drawn. -/
def unexpired (draws : String → RandomId) (now : Moment) :
    List (String × Value) → Except Failure (List MessageRecord)
  | [] => .ok []
  | entry :: rest => do
      let record ← MessageRecord.fromJSON entry.2.toJSON (draws entry.1) now
      let expired ← record.isExpired now
      let others ← unexpired draws now rest
      return if expired then others else record :: others

def getMessages (recipient : String) (draws : String → RandomId) (now : Moment) (db : Database) :
    Except Failure (List MessageRecord) := do
  let messages ← unexpired draws now (startingWith (recipient ++ ":") db)
  sortByTimestamp messages

/-- No record where there is none, or where it cannot be read or has expired. -/
def getMessage (recipient messageId : String) (draw : RandomId) (now : Moment) (db : Database) :
    Option MessageRecord := do
  let value ← db.get (messageKey recipient messageId)
  let record ← (MessageRecord.fromJSON value.toJSON draw now).toOption
  let expired ← (record.isExpired now).toOption
  if expired then none else some record

def deleteMessage (recipient messageId : String) (db : Database) : Database :=
  db.delete (messageKey recipient messageId)

def readKey (userAddress messageId : String) : String := "read:" ++ userAddress ++ ":" ++ messageId

def markAsRead (userAddress messageId : String) (now : Moment) (db : Database) : Database :=
  db.set (readKey userAddress messageId) (.mark now)

def isRead (userAddress messageId : String) (db : Database) : Bool :=
  db.has (readKey userAddress messageId)

def getReadMessageIds (userAddress : String) (db : Database) : List String :=
  let start := "read:" ++ userAddress ++ ":"
  ((startingWith start db).map fun entry =>
    String.ofList (entry.1.toList.drop start.toList.length)).eraseDups

/-- Drops what has expired, unless one entry cannot be read: then nothing is dropped. -/
def cleanupExpired (draws : String → RandomId) (now : Moment) (db : Database) : Database :=
  let hasExpired (key : String) (value : Value) : Except Failure Bool := do
    let record ← MessageRecord.fromJSON value.toJSON (draws key) now
    record.isExpired now
  match db.entries.mapM fun entry => hasExpired entry.1 entry.2 with
  | .error _ => db
  | .ok _ => db.keep fun key value => hasExpired key value = .ok false

structure StorageStats where
  messageCount : Nat
  totalSizeBytes : Nat
  uniqueRecipients : Nat
  avgMessagesPerRecipient : ℚ

/-- `recipientCounts` after the loop over the entries. -/
def recipientCounts (entries : List (String × Value)) : OrderedMap String Nat :=
  entries.foldl (fun counts entry =>
    let recipient := (JsText.split ':' entry.1).headD ""
    counts.set recipient ((counts.get recipient).getD 0 + 1)) OrderedMap.empty

def getStats (db : Database) : StorageStats :=
  let entries := iterator db
  let messageCount := entries.length
  let recipients := (recipientCounts entries).size
  { messageCount
    totalSizeBytes := (entries.map fun entry => JsText.length (stringify entry.2.toJSON)).sum
    uniqueRecipients := recipients
    avgMessagesPerRecipient := messageCount / (if recipients = 0 then 1 else recipients : Nat) }

section Reading
variable {draws : String → RandomId} {now : Moment} {db : Database}

theorem mem_startingWith {start key : String} {value : Value} :
    (key, value) ∈ startingWith start db ↔
      db.get key = some value ∧ start.toList <+: key.toList := by
  rw [startingWith, List.mem_filter, iterator, (ordered_perm _).mem_iff, OrderedMap.get_iff_mem,
    List.isPrefixOf_iff_prefix]

/-- What is put under a key that does not start with a text is not among what does. -/
theorem startingWith_set {start key : String} (value : Value)
    (apart : ¬ start.toList <+: key.toList) :
    startingWith start (db.set key value) = startingWith start db := by
  have members (entry : String × Value) :
      entry ∈ startingWith start (db.set key value) ↔ entry ∈ startingWith start db := by
    obtain ⟨other, found⟩ := entry
    rw [mem_startingWith, mem_startingWith]
    refine and_congr_left fun inside => ?_
    have different : other ≠ key := by
      rintro rfl
      exact apart inside
    rw [OrderedMap.get_set_of_ne _ _ different]
  have keyed (db : Database) : ((startingWith start db).map Prod.fst).Nodup :=
    (((ordered_perm db.entries).map Prod.fst).nodup_iff.mpr db.unique).sublist
      (List.filter_sublist.map Prod.fst)
  have same := (List.perm_ext_iff_of_nodup (keyed _).of_map (keyed _).of_map).mpr members
  -- Both are sorted by their keys, and no two entries of a database have one key.
  apply same.eq_of_pairwise _ ((ordered_sorted _).filter _) ((ordered_sorted _).filter _)
  rintro ⟨first, value⟩ ⟨second, other⟩ inside also before after
  obtain rfl : first = second := le_antisymm before after
  have here := (mem_startingWith.mp inside).1
  have there := (mem_startingWith.mp ((members _).mpr also)).1
  rw [Option.some.inj (here.symm.trans there)]

theorem mem_getReadMessageIds {userAddress messageId : String} :
    messageId ∈ getReadMessageIds userAddress db ↔ isRead userAddress messageId db = true := by
  rw [getReadMessageIds, List.mem_eraseDups, List.mem_map, isRead, OrderedMap.has,
    Option.isSome_iff_exists]
  have whole : (readKey userAddress messageId).toList =
      ("read:" ++ userAddress ++ ":").toList ++ messageId.toList := String.toList_append ..
  constructor
  · rintro ⟨⟨key, value⟩, inside, rfl⟩
    obtain ⟨held, rest, letters⟩ := mem_startingWith.mp inside
    have own : key = readKey userAddress (String.ofList rest) := by
      apply String.toList_injective
      simp [readKey, ← letters]
    refine ⟨value, ?_⟩
    rw [← letters, List.drop_left, ← own, held]
  · rintro ⟨value, held⟩
    refine ⟨(readKey userAddress messageId, value), mem_startingWith.mpr ⟨held, ?_⟩, ?_⟩
    · exact ⟨messageId.toList, whole.symm⟩
    · dsimp only
      rw [whole, List.drop_left, String.ofList_toList]

/-- The record that is read of an entry. -/
def asRead (draws : String → RandomId) (now : Moment) (entry : String × Value) : MessageRecord :=
  match entry.2 with
  | .record stored => stored
  | .mark timestamp => .construct (Value.mark timestamp).toJSON [] (draws entry.1) now

variable (draws now) in
theorem fromJSON_entry (entry : String × Value) :
    MessageRecord.fromJSON entry.2.toJSON (draws entry.1) now = .ok (asRead draws now entry) := by
  obtain ⟨key, value⟩ := entry
  cases value with
  | record stored => exact MessageRecord.fromJSON_toJSON stored (draws key) now
  | mark timestamp => rfl

variable (draws now) in
theorem unexpired_asRead (entries : List (String × Value)) :
    unexpired draws now entries = DhtStorage.unexpired now (entries.map (asRead draws now)) := by
  induction entries with
  | nil => rfl
  | cons entry rest ih =>
      rw [unexpired, fromJSON_entry, ok_bind, ih]
      rfl

theorem getMessage_record {recipient messageId : String} {record : MessageRecord}
    (held : db.get (messageKey recipient messageId) = some (.record record))
    (alive : record.isExpired now = .ok false) (draw : RandomId) :
    getMessage recipient messageId draw now db = some record := by
  have read : MessageRecord.fromJSON (Value.record record).toJSON draw now = .ok record :=
    MessageRecord.fromJSON_toJSON record draw now
  simp [getMessage, held, read, alive, Except.toOption]

/-- A mark is read as a record that never expires. -/
theorem mark_alive (key : String) (timestamp : Moment) :
    (asRead draws now (key, .mark timestamp)).isExpired now = .ok false := by
  have expires : (asRead draws now (key, .mark timestamp)).expires =
      ofInt (now.ms + MESSAGE_TTL_MS : Nat) := rfl
  rw [MessageRecord.isExpired, expires, toNumber_natural, ok_bind,
    JsNumber.ofNat_lt_ofNat]
  simp [pure, Except.pure]

/-- A clean-up keeps the records that have not expired, and adds none. -/
theorem cleanupExpired_get {key : String} {record : MessageRecord}
    (alive : record.isExpired now = .ok false) :
    (cleanupExpired draws now db).get key = some (.record record) ↔
      db.get key = some (.record record) := by
  rw [cleanupExpired]
  dsimp only
  split
  · rfl
  · have read := fromJSON_entry draws now (key, .record record)
    rw [OrderedMap.get_keep, Option.filter_eq_some_iff]
    constructor
    · exact And.left
    · intro held
      refine ⟨held, decide_eq_true ?_⟩
      rw [show MessageRecord.fromJSON (Value.record record).toJSON (draws key) now = _ from read,
        ok_bind]
      exact alive

theorem cleanupExpired_held {key : String} {value : Value}
    (left : (cleanupExpired draws now db).get key = some value) : db.get key = some value := by
  rw [cleanupExpired] at left
  dsimp only at left
  split at left
  · exact left
  · rw [OrderedMap.get_keep, Option.filter_eq_some_iff] at left
    exact left.1

theorem mark_timestamp (key : String) (timestamp : Moment) :
    toNumber (asRead draws now (key, .mark timestamp)).timestamp = .ok (.ofNat timestamp.ms) := by
  have timestamped : (asRead draws now (key, .mark timestamp)).timestamp = ofInt timestamp.ms := by
    simp [asRead, MessageRecord.construct, Value.toJSON, field, lookup,
      orElse_of_truthy _ (truthy_ofInt timestamp.positive)]
  rw [timestamped, toNumber_natural]

variable (draws now db) in
/-- Where all records have a time and an expiry that are numbers, a range is read. -/
theorem getMessages_ok (recipient : String)
    (records : ∀ key record, db.get key = some (.record record) →
      (∃ expired, record.isExpired now = .ok expired) ∧
        ∃ time, toNumber record.timestamp = .ok time) :
    ∃ messages, getMessages recipient draws now db = .ok messages ∧ ∀ record,
      record ∈ messages ↔ (∃ key value, db.get key = some value ∧
        (recipient ++ ":").toList <+: key.toList ∧ record = asRead draws now (key, value)) ∧
          record.isExpired now = .ok false := by
  let found := (startingWith (recipient ++ ":") db).map (asRead draws now)
  have listed (record : MessageRecord) : record ∈ found ↔ ∃ key value, db.get key = some value ∧
      (recipient ++ ":").toList <+: key.toList ∧ record = asRead draws now (key, value) := by
    simp only [found, List.mem_map, Prod.exists, mem_startingWith, and_assoc, eq_comm]
  have readable (record : MessageRecord) (member : record ∈ found) :
      (∃ expired, record.isExpired now = .ok expired) ∧
        ∃ time, toNumber record.timestamp = .ok time := by
    obtain ⟨key, value, held, _, rfl⟩ := (listed record).mp member
    cases value with
    | record stored => exact records key stored held
    | mark timestamp => exact ⟨⟨_, mark_alive key timestamp⟩, _, mark_timestamp key timestamp⟩
  obtain ⟨live, alive⟩ := DhtStorage.unexpired_ok fun record member => (readable record member).1
  obtain ⟨sorted, done, order⟩ := DhtStorage.sortByTimestamp_ok (.inr fun record member =>
    (readable record ((DhtStorage.unexpired_sublist alive).subset member)).2)
  refine ⟨sorted, ?_, fun record => ?_⟩
  · rw [getMessages, unexpired_asRead, alive, ok_bind, done]
  · rw [order.mem_iff, DhtStorage.mem_unexpired alive, listed]

end Reading

end Chainmail.SharedStorage
