import Chainmail.JsArithmetic
import Chainmail.RelayRetention
import Chainmail.Runs

/-!
How long a relay keeps a record. What a relay stores for its own mail expires
after `MESSAGE_TTL_MS`, but the records of store requests bring an expiry along,
and storing a record once more starts its time again.
-/

namespace Chainmail.Json

mutual

/-- Every number inside has at most 15 digits, which a double keeps as they are written. -/
def ShortNumbers : Json → Prop
  | .number value => value.mantissa.natAbs < 10 ^ 15 ∧ |value.exponent| ≤ 290
  | .array items => ShortItems items
  | .object fields => ShortFields fields
  | _ => True

def ShortItems : List Json → Prop
  | [] => True
  | item :: rest => ShortNumbers item ∧ ShortItems rest

def ShortFields : List (String × Json) → Prop
  | [] => True
  | (_, value) :: rest => ShortNumbers value ∧ ShortFields rest

end

end Chainmail.Json

namespace Chainmail.RelayNode

open Json DhtStorage

section Inputs

/-- An expiry that is no number but converts to one converts to a double. -/
def PlainExpiry (expires : Json) : Prop :=
  (∀ value, expires ≠ .number value) → ∀ number, toNumber expires = .ok number →
    number.rounded = number

/-- What the bytes say survives as doubles. -/
def PlainData (data : Bytes) : Prop :=
  ∀ json, parse (textDecode data) = some json → ShortNumbers json ∧
    ∀ record expires, json.field "record" = some record → record.field "expires" = some expires →
      PlainExpiry expires

def Event.Plain : Event → Prop
  | .gossip data _ _ _ => PlainData data
  | .storeRequest data _ => PlainData data
  | _ => True

/-- An event and its time. The numbers that peers send are those that the relay computes with, where
    others would be rounded, or be infinite or zero. -/
structure PlainInput where
  event : Event
  now : Moment
  plain : event.Plain

def PlainInput.input (input : PlainInput) : Event × Moment := (input.event, input.now)

end Inputs

section Claims
variable (P : Packages) (signer : Option Signer)

/-- The last event comes first. -/
def replay : List (Event × Moment) → Relay
  | [] => start
  | (event, now) :: earlier => step P signer (replay earlier) event now

/-- Some event of that time stored this data under the key. -/
def StoredAt (past : List (Event × Moment)) (key : String) (data : Option Json) (stored : Moment) :
    Prop :=
  ∃ event record, (event, stored) ∈ past ∧ (key, record) ∈ written P signer event stored ∧
    record.data = data

/-- The expiry is a number, and a clean-up at `clock` or later drops the record once
    the time since it was first stored is over. -/
def Young (past : List (Event × Moment)) (clock : Nat) (key : String) (record : MessageRecord) :
    Prop :=
  ∃ expires, toNumber record.expires = .ok expires ∧
    ∀ stored, StoredAt P signer past key record.data stored →
      expires.lt (.ofNat (max (stored.ms + MESSAGE_TTL_MS + 1) clock)) = true

/-- What the event writes does not outlast the time since it was first stored. -/
def Timely (input : Event × Moment) (earlier : List (Event × Moment)) : Prop :=
  ∀ entry ∈ written P signer input.1 input.2,
    Young P signer (input :: earlier) input.2.ms entry.1 entry.2

end Claims

section Database
variable {entries : List (String × MessageRecord)} {db : Database} {key : String}
  {record : MessageRecord} {now : Moment}

theorem putAll_get (found : (putAll entries db).get key = some record) :
    (key, record) ∈ entries ∨ db.get key = some record ∧ ∀ entry ∈ entries, entry.1 ≠ key := by
  induction entries generalizing db with
  | nil => exact .inr ⟨found, fun _ member => absurd member List.not_mem_nil⟩
  | cons entry rest ih =>
      rcases ih found with inside | ⟨held, others⟩
      · exact .inl (List.mem_cons_of_mem _ inside)
      · rw [OrderedMap.get_set] at held
        split at held
        next own =>
          cases held
          exact .inl (own ▸ List.mem_cons_self)
        next apart =>
          refine .inr ⟨held, fun other member => ?_⟩
          rcases List.mem_cons.mp member with rfl | later
          · exact Ne.symm apart
          · exact others other later

theorem putAll_some (db : Database) (there : (db.get key).isSome ∨ key ∈ entries.map Prod.fst) :
    ∃ record, (putAll entries db).get key = some record := by
  induction entries generalizing db with
  | nil =>
      rcases there with held | listed
      · exact Option.isSome_iff_exists.mp held
      · cases listed
  | cons entry rest ih =>
      apply ih
      rw [OrderedMap.get_set]
      by_cases own : key = entry.1
      · exact .inl (by rw [if_pos own]; rfl)
      · rw [if_neg own]
        exact there.imp_right fun listed => (List.mem_cons.mp listed).resolve_left own

theorem putAll_mem (db : Database) {entry : String × MessageRecord} (member : entry ∈ entries) :
    ∃ record, (entry.1, record) ∈ entries ∧ (putAll entries db).get entry.1 = some record := by
  obtain ⟨record, found⟩ := putAll_some db (.inr (List.mem_map_of_mem member))
  rcases putAll_get found with listed | ⟨_, others⟩
  · exact ⟨record, listed, found⟩
  · exact absurd rfl (others entry member)

/-- A clean-up keeps what has not expired. -/
theorem cleanupExpired_keeps (held : db.get key = some record)
    (alive : record.isExpired now ≠ .ok true) :
    (cleanupExpired now db).get key = some record := by
  rw [cleanupExpired]
  split
  · exact held
  next known =>
    obtain ⟨expired, read⟩ := mapM_ok_mem known ((OrderedMap.get_iff_mem _ _ _).mp held)
    cases expired with
    | true => exact absurd read alive
    | false => simp [OrderedMap.get_keep, held, read]

theorem cleanupExpired_held (found : (cleanupExpired now db).get key = some record) :
    db.get key = some record := by
  rw [cleanupExpired] at found
  split at found
  · exact found
  next =>
    rw [OrderedMap.get_keep, Option.filter_eq_some_iff] at found
    exact found.1

theorem deleteMessage_held {recipient messageId : String}
    (found : (deleteMessage recipient messageId db).get key = some record) :
    db.get key = some record := by
  rw [deleteMessage, OrderedMap.get_delete] at found
  split at found
  next => cases found
  next => exact found

end Database

section Steps
variable {P : Packages} {signer : Option Signer} {relay : Relay} {event : Event} {now : Moment}
  {past earlier : List (Event × Moment)} {key : String} {record : MessageRecord}

/-- What is held after an event was written by it, or was held before and not touched. -/
theorem step_held (relay : Relay) (event : Event) (now : Moment)
    (found : (step P signer relay event now).db.get key = some record) :
    (key, record) ∈ written P signer event now ∨
      relay.db.get key = some record ∧ ∀ entry ∈ written P signer event now, entry.1 ≠ key := by
  cases event with
  | gossip data allowed draw coordinator =>
      rw [step, step_gossip] at found
      exact putAll_get found
  | storeRequest data draw =>
      rw [step, step_storeRequest] at found
      exact putAll_get found
  | cleanup => exact .inr ⟨cleanupExpired_held found, fun _ member => absurd member List.not_mem_nil⟩
  | delete recipient messageId =>
      exact .inr ⟨deleteMessage_held found, fun _ member => absurd member List.not_mem_nil⟩

theorem entryOf_fields {made : MessageRecord} {entry : String × MessageRecord}
    (entered : entryOf P signer made now = .ok entry) :
    entry.2.data = made.data ∧ entry.2.expires = made.expires := by
  rcases entryOf_record entered with same | ⟨proof, same⟩
  · rw [same]
    exact ⟨rfl, rfl⟩
  · rw [same]
    exact ⟨rfl, rfl⟩

/-- What a gossip message is stored as expires `MESSAGE_TTL_MS` later. -/
theorem newRecord_expires (recipient : Json) (data : String) (draw : RandomId) (now : Moment) :
    (newRecord recipient data draw now).expires = ofInt (now.ms + MESSAGE_TTL_MS : Nat) := by
  simp [newRecord, MessageRecord.construct, field, lookup, orElse]

theorem newRecord_data (recipient : Json) (data : String) (draw : RandomId) (now : Moment) :
    (newRecord recipient data draw now).data = some (.string data) := by
  simp [newRecord, MessageRecord.construct, field, lookup]

theorem gossip_fields {data : Bytes} {allowed : Bool} {draw : RandomId}
    {coordinator : Option Replication} {entry : String × MessageRecord}
    (member : entry ∈ written P signer (.gossip data allowed draw coordinator) now) :
    entry.2.data = some (.string (toBase64 data)) ∧
      entry.2.expires = ofInt (now.ms + MESSAGE_TTL_MS : Nat) := by
  obtain ⟨key, drawn, _, made⟩ := gossip_entry member
  obtain ⟨sameData, sameExpiry⟩ := entryOf_fields made
  exact ⟨sameData.trans (newRecord_data ..), sameExpiry.trans (newRecord_expires ..)⟩

theorem storedAt_cons {input : Event × Moment} {data : Option Json} {stored : Moment}
    (known : StoredAt P signer (input :: earlier) key data stored) :
    (stored = input.2 ∧ ∃ record, (key, record) ∈ written P signer input.1 input.2 ∧
      record.data = data) ∨ StoredAt P signer earlier key data stored := by
  obtain ⟨event, record, member, wrote, same⟩ := known
  rcases List.mem_cons.mp member with rfl | older
  · exact .inl ⟨rfl, record, wrote, same⟩
  · exact .inr ⟨event, record, older, wrote, same⟩

end Steps

section Retention
variable {P : Packages} {signer : Option Signer} {input : Event × Moment}
  {past earlier : List (Event × Moment)}

def clock : List (Event × Moment) → Nat
  | [] => 0
  | input :: _ => input.2.ms

theorem isExpired_true (record : MessageRecord) (now : Moment) :
    record.isExpired now = .ok true ↔
      ∃ expires, toNumber record.expires = .ok expires ∧ expires.lt (.ofNat now.ms) = true := by
  rw [MessageRecord.isExpired, bind_ok_iff]
  constructor
  · rintro ⟨expires, read, past⟩
    exact ⟨expires, read, Except.ok.inj past⟩
  · rintro ⟨expires, read, past⟩
    exact ⟨expires, read, congrArg _ past⟩

/-- A gossip message is stored in time, if its key is a new one. -/
theorem gossip_timely {data : Bytes} {allowed : Bool} {draw : RandomId}
    {coordinator : Option Replication} {now : Moment}
    (fresh : ∀ entry ∈ written P signer (.gossip data allowed draw coordinator) now,
      ∀ stored, ¬ StoredAt P signer earlier entry.1 entry.2.data stored) :
    Timely P signer (.gossip data allowed draw coordinator, now) earlier := by
  intro entry member
  refine ⟨.ofNat (now.ms + MESSAGE_TTL_MS), ?_, fun stored known => ?_⟩
  · rw [(gossip_fields member).2, toNumber_natural]
  · rcases storedAt_cons known with ⟨rfl, _⟩ | older
    · rw [JsNumber.ofNat_lt_ofNat, decide_eq_true_eq]
      exact Nat.lt_of_lt_of_le (Nat.lt_succ_self _) (Nat.le_max_left _ _)
    · exact absurd older (fresh entry member stored)

end Retention

section Lasting

/-- A record for alice that says when it expires. -/
def lastingOptions (expires : Nat) : Json :=
  .object [("id", .string "1"), ("recipient", .string "alice"), ("data", .string "a"),
    ("expires", ofInt expires)]

def lastingRequest (expires : Nat) : Bytes :=
  utf8Encode (stringify (.object [("action", .string "store"), ("record", lastingOptions expires)]))

/-- The record is stored at the first moment of the clock. -/
def lasting (expires : Nat) : List (Event × Moment) :=
  [(.storeRequest (lastingRequest expires) sampleDraw, sampleMoment)]

end Lasting
end Chainmail.RelayNode
