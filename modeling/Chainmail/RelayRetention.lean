import Chainmail.RelaySteps
import Chainmail.JsonRoundTrip
import Chainmail.PackageAssumptions

/-!
What a relay still returns of a record it once stored. A record stays as long as
the records that peers have stored under the same key agree with it, and a fetch
returns it as long as no other record found with it has taken its id.
-/

namespace Chainmail.RelayNode

open Json DhtStorage

variable (P : Packages)

section Retention

variable {P} {signer : Option Signer} {key : String} {record : MessageRecord} {db : Database}

/-- A record that may take the place of another: the same message, kept as long. -/
structure Agrees (record other : MessageRecord) : Prop where
  id : other.id = record.id
  data : other.data = record.data
  expires : ∀ now, other.isExpired now = .ok true → record.isExpired now = .ok true

theorem Agrees.refl (record : MessageRecord) : Agrees record record := ⟨rfl, rfl, fun _ expired => expired⟩

/-- What is held under the key still is this message. -/
def Holds (key : String) (record : MessageRecord) (db : Database) : Prop :=
  ∃ held, db.get key = some held ∧ Agrees record held

theorem Holds.putAll {entries : List (String × MessageRecord)} (holds : Holds key record db)
    (agree : ∀ entry ∈ entries, entry.1 = key → Agrees record entry.2) :
    Holds key record (RelayNode.putAll entries db) := by
  induction entries generalizing db with
  | nil => exact holds
  | cons entry rest ih =>
      rw [putAll_cons]
      apply ih
      · by_cases own : entry.1 = key
        · exact ⟨entry.2, by rw [own, OrderedMap.get_set_self], agree entry List.mem_cons_self own⟩
        · obtain ⟨held, found, same⟩ := holds
          exact ⟨held, by rw [OrderedMap.get_set_of_ne _ _ (Ne.symm own), found], same⟩
      · exact fun other member => agree other (List.mem_cons_of_mem _ member)

theorem Holds.of_written {entries : List (String × MessageRecord)} (db : Database)
    (member : (key, record) ∈ entries)
    (agree : ∀ entry ∈ entries, entry.1 = key → Agrees record entry.2) :
    Holds key record (RelayNode.putAll entries db) := by
  induction entries generalizing db with
  | nil => cases member
  | cons entry rest ih =>
      have later : ∀ other ∈ rest, other.1 = key → Agrees record other.2 :=
        fun other member => agree other (List.mem_cons_of_mem _ member)
      rw [putAll_cons]
      rcases List.mem_cons.mp member with rfl | inside
      · apply Holds.putAll _ later
        exact ⟨record, OrderedMap.get_set_self _ _ _, Agrees.refl record⟩
      · exact ih _ inside later

theorem Holds.cleanup {now : Moment} (holds : Holds key record db)
    (alive : record.isExpired now ≠ .ok true) : Holds key record (cleanupExpired now db) := by
  rw [cleanupExpired]
  split
  · exact holds
  next known =>
    obtain ⟨held, found, same⟩ := holds
    have inside := (OrderedMap.get_iff_mem _ _ _).mp found
    obtain ⟨expired, read⟩ := mapM_ok_mem known inside
    cases expired with
    | true => exact absurd (same.expires now read) alive
    | false => exact ⟨held, by simp [OrderedMap.get_keep, found, read], same⟩

/-- The event deletes what is under the key. -/
def Deletes (key : String) : Event → Prop
  | .delete recipient messageId => key = recipient ++ ":" ++ messageId
  | _ => False

theorem Holds.step {relay : Relay} {event : Event} {now : Moment}
    (holds : Holds key record relay.db)
    (agree : ∀ entry ∈ written P signer event now, entry.1 = key → Agrees record entry.2)
    (undeleted : ¬ Deletes key event) (alive : record.isExpired now ≠ .ok true) :
    Holds key record (RelayNode.step P signer relay event now).db := by
  cases event with
  | gossip data allowed draw coordinator =>
      rw [RelayNode.step, step_gossip]
      exact holds.putAll agree
  | storeRequest data draw =>
      rw [RelayNode.step, step_storeRequest]
      exact holds.putAll agree
  | cleanup => exact holds.cleanup alive
  | delete recipient messageId =>
      obtain ⟨held, found, same⟩ := holds
      exact ⟨held, by rw [RelayNode.step, deleteMessage, OrderedMap.get_delete_of_ne _ undeleted, found], same⟩

theorem Holds.run {relay : Relay} (events : List (Event × Moment))
    (holds : Holds key record relay.db)
    (agree : ∀ event ∈ events, ∀ entry ∈ written P signer event.1 event.2,
      entry.1 = key → Agrees record entry.2)
    (undeleted : ∀ event ∈ events, ¬ Deletes key event.1)
    (alive : ∀ event ∈ events, record.isExpired event.2 ≠ .ok true) :
    Holds key record (RelayNode.run P signer relay events).db := by
  induction events generalizing relay with
  | nil => exact holds
  | cons event rest ih =>
      have stepped := holds.step (agree event List.mem_cons_self)
        (undeleted event List.mem_cons_self) (alive event List.mem_cons_self)
      exact ih stepped (fun other member => agree other (List.mem_cons_of_mem _ member))
        (fun other member => undeleted other (List.mem_cons_of_mem _ member))
        (fun other member => alive other (List.mem_cons_of_mem _ member))

end Retention

section Fetching

variable {now : Moment} {db : Database}

/-- An unexpired record in the range of one of the recipients asked for. -/
def Found (asked : List Json) (now : Moment) (db : Database) (record : MessageRecord) : Prop :=
  ∃ value ∈ asked, ∃ recipient, toText value = .ok recipient ∧
    record ∈ rangeOf recipient db ∧ record.isExpired now = .ok false

theorem ranges_ok {asked : List Json}
    (readable : ∀ value ∈ asked, ∃ recipient, toText value = .ok recipient ∧
      Readable recipient now db) :
    ∃ ranges : List (List MessageRecord),
      asked.mapM (fun recipient => getMessages recipient now db) = .ok ranges ∧
        ∀ record, record ∈ ranges.flatten ↔ Found asked now db record := by
  induction asked with
  | nil => exact ⟨[], rfl, by simp [Found]⟩
  | cons value rest ih =>
      obtain ⟨recipient, text, own⟩ := readable value List.mem_cons_self
      obtain ⟨messages, got, listed⟩ := getMessages_ok text own
      obtain ⟨ranges, others, found⟩ :=
        ih fun other member => readable other (List.mem_cons_of_mem _ member)
      refine ⟨messages :: ranges, ?_, fun record => ?_⟩
      · exact mapM_cons_ok_iff.mpr ⟨messages, ranges, got, others, rfl⟩
      · rw [List.flatten_cons, List.mem_append, listed, found]
        constructor
        · rintro (here | ⟨other, member, there⟩)
          · exact ⟨value, List.mem_cons_self, recipient, text, here⟩
          · exact ⟨other, List.mem_cons_of_mem _ member, there⟩
        · rintro ⟨other, member, name, named, inside⟩
          rcases List.mem_cons.mp member with rfl | later
          · rw [text] at named
            cases named
            exact .inl inside
          · exact .inr ⟨other, later, name, named, inside⟩

theorem collect_covers {records : List MessageRecord} {record : MessageRecord}
    (seenIds : List Json) (member : record ∈ records) :
    (∃ id ∈ seenIds, sameValue record.id id = true) ∨
      ∃ kept ∈ collect seenIds records, kept ∈ records ∧
        (kept = record ∨ sameValue record.id kept.id = true) := by
  induction records generalizing seenIds with
  | nil => cases member
  | cons first rest ih =>
      by_cases known : seenIds.any (sameValue first.id) = true
      · rw [collect, if_pos known]
        rcases List.mem_cons.mp member with rfl | inside
        · exact .inl (List.any_eq_true.mp known)
        · apply (ih seenIds inside).imp_right
          rintro ⟨kept, collected, later, same⟩
          exact ⟨kept, collected, List.mem_cons_of_mem _ later, same⟩
      · rw [collect, if_neg known]
        rcases List.mem_cons.mp member with rfl | inside
        · exact .inr ⟨record, List.mem_cons_self, List.mem_cons_self, .inl rfl⟩
        · rcases ih (first.id :: seenIds) inside with ⟨id, seen, same⟩ | ⟨kept, collected, later, same⟩
          · rcases List.mem_cons.mp seen with rfl | before
            · exact .inr ⟨first, List.mem_cons_self, List.mem_cons_self, .inr same⟩
            · exact .inl ⟨id, before, same⟩
          · exact .inr ⟨kept, List.mem_cons_of_mem _ collected, List.mem_cons_of_mem _ later, same⟩

theorem fetchRecords_covers {asked : List Json} {record : MessageRecord}
    (readable : ∀ value ∈ asked, ∃ recipient, toText value = .ok recipient ∧
      Readable recipient now db)
    (found : Found asked now db record) :
    ∃ records, fetchRecords asked now db = .ok records ∧ ∃ kept ∈ records,
      Found asked now db kept ∧ (kept = record ∨ sameValue record.id kept.id = true) := by
  obtain ⟨ranges, got, listed⟩ := ranges_ok readable
  rcases collect_covers [] ((listed record).mpr found) with ⟨_, none, _⟩ | ⟨kept, collected, inside, same⟩
  · cases none
  · refine ⟨_, by rw [fetchRecords, got]; rfl, kept, collected, (listed kept).mp inside, same⟩

end Fetching

/-- A fetch for these recipients reads what it finds, and finds no record that
    has the id of this one with other data. -/
structure Undisturbed (record : MessageRecord) (asked : List Json) (now : Moment) (db : Database) :
    Prop where
  readable : ∀ value ∈ asked, ∀ recipient, toText value = .ok recipient → Readable recipient now db
  sameData : ∀ other, Found asked now db other → sameValue record.id other.id = true →
    other.data = record.data

section Sample

def sampleDraw : RandomId := ⟨List.replicate 16 0, rfl⟩

def sampleMoment : Moment := ⟨1, Nat.one_pos⟩

/-- The request to store some data for alice under an id. -/
def storeOptions (id data : String) : Json :=
  .object [("id", .string id), ("recipient", .string "alice"), ("data", .string data)]

def storeFor (id data : String) : Bytes :=
  utf8Encode (stringify (.object [("action", .string "store"), ("record", storeOptions id data)]))

def sampleRecord (id data : String) : MessageRecord :=
  .construct (storeOptions id data) [] sampleDraw sampleMoment

/-- A store request is read as the record that its options make. -/
theorem requestedRecord_options {fields : List (String × Json)} (draw : RandomId) (now : Moment)
    (canonical : Canonical (.object fields)) (unproven : lookup "storageProofs" fields = none) :
    requestedRecord (utf8Encode (stringify (.object [("action", .string "store"),
        ("record", .object fields)]))) draw now =
      .ok (some (.construct (.object fields) [] draw now)) := by
  have request : Canonical (.object [("action", .string "store"), ("record", .object fields)]) :=
    canonical_object ["action", "record"] rfl (by decide) ⟨trivial, canonical, trivial⟩
  have made : MessageRecord.fromJSON (.object fields) draw now =
      .ok (.construct (.object fields) [] draw now) := by
    simp [MessageRecord.fromJSON, MessageRecord.proofsOf, unproven, present]
    rfl
  have given : present (some (Json.object fields)) = some (.object fields) := rfl
  rw [requestedRecord, parse_transmitted request]
  simp [lookup, isText, field, given, made]

theorem storeFor_requested (id data : String) :
    requestedRecord (storeFor id data) sampleDraw sampleMoment = .ok (some (sampleRecord id data)) :=
  requestedRecord_options sampleDraw sampleMoment
    (canonical_object ["id", "recipient", "data"] rfl (by decide) ⟨trivial, trivial, trivial, trivial⟩)
    rfl

theorem sampleRecord_id {id : String} (data : String) (named : id ≠ "") :
    (sampleRecord id data).id = .string id := by
  simp [sampleRecord, MessageRecord.construct, storeOptions, field, lookup, orElse, truthy, named]

theorem sampleRecord_data (id data : String) : (sampleRecord id data).data = some (.string data) := by
  simp [sampleRecord, MessageRecord.construct, storeOptions, field, lookup]

theorem sampleRecord_recipient (id data : String) :
    (sampleRecord id data).recipient = some (.string "alice") := by
  simp [sampleRecord, MessageRecord.construct, storeOptions, field, lookup]

theorem sampleRecord_alive (id data : String) :
    (sampleRecord id data).isExpired sampleMoment = .ok false := by
  have expires : (sampleRecord id data).expires = ofInt (1 + MESSAGE_TTL_MS : Nat) := by
    simp [sampleRecord, MessageRecord.construct, storeOptions, field, lookup, orElse, sampleMoment]
  rw [MessageRecord.isExpired, expires, toNumber_natural]
  rfl

theorem sampleRecord_timestamp (id data : String) :
    toNumber (sampleRecord id data).timestamp = .ok (.ofNat 1) := by
  have timestamp : (sampleRecord id data).timestamp = ofInt (1 : Nat) := by
    simp [sampleRecord, MessageRecord.construct, storeOptions, field, lookup, orElse, sampleMoment]
  rw [timestamp, toNumber_natural]

theorem storeFor_written (id data : String) (named : id ≠ "") :
    written samplePackages none (.storeRequest (storeFor id data) sampleDraw) sampleMoment =
      [("alice:" ++ id, sampleRecord id data)] := by
  have entered : entryOf samplePackages none (sampleRecord id data) sampleMoment =
      .ok ("alice:" ++ id, sampleRecord id data) := by
    simp [entryOf, withProof, messageKey, sampleRecord_id data named, sampleRecord_recipient, spliced,
      toText]
  rw [written_storeRequest (storeFor_requested id data), entered]
  rfl

/-- Two requests, one after the other, to store something for alice. -/
def stores (first second : String × String) : List (Event × Moment) :=
  [(.storeRequest (storeFor first.1 first.2) sampleDraw, sampleMoment),
    (.storeRequest (storeFor second.1 second.2) sampleDraw, sampleMoment)]

end Sample

end Chainmail.RelayNode
