import Chainmail.JsonRoundTrip
import Chainmail.MessageStore
import Chainmail.MessagesService
import Chainmail.Runs

/-!
The mailboxes that users of one server see after some sends. A send stores its message in
the shared storage or hands it to the node, but the lists of an address are read from the
shared storage alone.
-/

namespace Chainmail.Mailboxes

open Json SharedStorage MessagesService
open DhtStorage (Moment RandomId MessageRecord newRecord MESSAGE_TTL_MS)

variable (P : Packages)

/-- Between sends, the node may be initialised, started or stopped, and hear of any message:
    it may become any node. -/
inductive Event where
  | send (draft : Draft) (ids : RandomId × RandomId) (passage : P2PNodeService.Passage)
  | nodeChanges (node : P2PNodeService.Node)

def step (service : Service) (event : Event) (now : Moment) : Service :=
  match event with
  | .send draft ids passage => (sendMessageWithSender P draft ids passage now service).state
  | .nodeChanges node => { service with p2pNode := node }

def start : Service where
  currentIdentity := none
  p2pNode := ⟨none, false, none, false⟩
  identityStore := ⟨OrderedMap.empty, fun _ => none⟩
  dhtStorage := OrderedMap.empty

/-- The last event comes first. -/
def replay : List (Event × Moment) → Service
  | [] => start
  | (event, now) :: earlier => step P (replay earlier) event now

def idsOf (input : Event × Moment) : List String :=
  match input.1 with
  | .send _ ids _ => [ids.2.text, ids.1.text]
  | .nodeChanges _ => []

def noncesOf (input : Event × Moment) : List Bytes :=
  match input.1 with
  | .send draft _ _ => [draft.draws.nonce]
  | .nodeChanges _ => []

/-- All events so far, the last one first. No id and no nonce is drawn twice. -/
structure History where
  past : List (Event × Moment)
  ids : (past.flatMap idsOf).Nodup
  nonces : (past.flatMap noncesOf).Nodup

/-- The input sent a draft in an envelope, and returned. -/
def Sent (input : Event × Moment) (earlier : List (Event × Moment)) (draft : Draft)
    (envelope : List (String × Json)) : Prop :=
  ∃ ids passage result, input.1 = .send draft ids passage ∧
    draft.envelope P input.2 = .ok envelope ∧
    (sendMessageWithSender P draft ids passage input.2 (replay P earlier)).result = .ok result

/-- A listed message has all the fields of an envelope. -/
def Shows (fields : List (String × Json)) (message : Json) : Prop :=
  ∀ entry ∈ fields, message.field entry.1 = some entry.2

/-- The sender's list and the recipient's list have the message. -/
def Shown (draft : Draft) (envelope : List (String × Json)) (now : Moment) (service : Service) :
    Prop :=
  ∀ draws,
    (∃ messages, getSentForAddress P draft.sender draws now service = .ok messages ∧
      ∃ message ∈ messages, Shows (draft.sentEnvelope envelope) message) ∧
    ∃ messages, getInboxForAddress P draft.recipient draws now service = .ok messages ∧
      ∃ message ∈ messages, Shows envelope message

/-- Every message that was sent is shown to its sender and to its recipient. -/
def SameMailbox (past : List (Event × Moment)) (now : Moment) : Prop :=
  ∀ input earlier, input :: earlier <:+ past → ∀ draft envelope,
    Sent P input earlier draft envelope → Shown P draft envelope now (replay P past)

/-- A send that returned was made without a started node, and no more than seven days ago. -/
def SentLocally (now : Moment) (input : Event × Moment) (earlier : List (Event × Moment)) : Prop :=
  ∀ draft envelope, Sent P input earlier draft envelope →
    (replay P earlier).p2pNode.isStarted = false ∧ now.ms ≤ input.2.ms + MESSAGE_TTL_MS

/-- What a send puts in a folder of the shared storage. -/
structure Stored where
  folder : String
  id : RandomId
  fields : List (String × Json)
  made : Moment

namespace Stored

def key (stored : Stored) : String := messageKey stored.folder stored.id.text

def record (stored : Stored) : MessageRecord :=
  newRecord (.string stored.folder) (encode (.object stored.fields)) stored.id stored.made

/-- The message that the record is listed as. -/
def message (read : Bool) (stored : Stored) : Json :=
  .object ([("id", .string stored.id.text)] ++ stored.fields ++
    [("receivedAt", ofInt stored.made.ms), ("read", .bool read)])

end Stored

/-- What an input stores, the last first. -/
def storedBy (input : Event × Moment) (service : Service) : List Stored :=
  match input.1 with
  | .send draft ids _ =>
      match draft.envelope P input.2 with
      | .ok envelope =>
          if service.p2pNode.isStarted then []
          else [⟨sentFolder draft.sender, ids.2, draft.sentEnvelope envelope, input.2⟩,
            ⟨draft.recipient, ids.1, envelope, input.2⟩]
      | .error _ => []
  | .nodeChanges _ => []

def storedIn : List (Event × Moment) → List Stored
  | [] => []
  | input :: earlier => storedBy P input (replay P earlier) ++ storedIn earlier

/-- The database with these records, the last of them first. -/
def putAll : List Stored → Database
  | [] => OrderedMap.empty
  | stored :: earlier => (putAll earlier).set stored.key (.record stored.record)

section Storage
variable {P} {past earlier : List (Event × Moment)} {input : Event × Moment} {stored : Stored}
  {draft : Draft} {envelope : List (String × Json)}

theorem store_returns (folder data : String) (id : RandomId) (now : Moment) (db : Database) :
    store P none folder data id now db =
      .returns (db.set (messageKey folder id.text) (.record (newRecord (.string folder) data id now)))
        (newRecord (.string folder) data id now) := by
  rw [store, RelayNode.newRecord_entry]
  rfl

theorem replay_storage (past : List (Event × Moment)) :
    (replay P past).dhtStorage = putAll (storedIn P past) := by
  induction past with
  | nil => rfl
  | cons input earlier ih =>
      obtain ⟨event, now⟩ := input
      cases event with
      | nodeChanges node => exact ih
      | send draft ids passage =>
          simp only [replay, step, storedIn, storedBy, sendMessageWithSender]
          cases made : draft.envelope P now with
          | error failure => exact ih
          | ok envelope =>
              cases started : (replay P earlier).p2pNode.isStarted with
              | true => exact ih
              | false =>
                  simp only [store_returns, Outcome.returns_andThen, Outcome.returns_state, ih]
                  rfl

theorem mem_storedIn : stored ∈ storedIn P past ↔ ∃ input earlier, input :: earlier <:+ past ∧
    stored ∈ storedBy P input (replay P earlier) := by
  induction past with
  | nil => simp [storedIn]
  | cons input earlier ih =>
      rw [storedIn, List.mem_append, ih]
      constructor
      · rintro (own | ⟨other, before, suffix, inside⟩)
        · exact ⟨input, earlier, List.suffix_refl _, own⟩
        · exact ⟨other, before, suffix.trans (List.suffix_cons _ _), inside⟩
      · rintro ⟨other, before, suffix, inside⟩
        rcases List.suffix_cons_iff.mp suffix with same | old
        · cases same
          exact .inl inside
        · exact .inr ⟨other, before, old, inside⟩

theorem storedIn_ids (past : List (Event × Moment)) :
    ((storedIn P past).map fun stored => stored.id.text).Sublist (past.flatMap idsOf) := by
  induction past with
  | nil => exact List.Sublist.refl _
  | cons input earlier ih =>
      rw [storedIn, List.map_append, List.flatMap_cons]
      refine List.Sublist.append ?_ ih
      obtain ⟨event, now⟩ := input
      cases event with
      | nodeChanges node => exact List.Sublist.refl _
      | send draft ids passage =>
          rw [storedBy]
          dsimp only
          cases draft.envelope P now with
          | error failure => exact List.nil_sublist _
          | ok envelope =>
              dsimp only
              split
              · exact List.nil_sublist _
              · exact List.Sublist.refl _

/-- Keys that end in different ids are different. -/
theorem key_id {other : Stored} (same : stored.key = other.key) : stored.id.text = other.id.text := by
  have letters := congrArg String.toList same
  simp only [Stored.key, messageKey, String.toList_append] at letters
  have lengths := stored.id.text_length.trans other.id.text_length.symm
  exact String.toList_injective (List.append_inj' letters lengths).2

theorem get_putAll {all : List Stored} (distinct : (all.map fun stored => stored.id.text).Nodup)
    (key : String) (value : Value) : (putAll all).get key = some value ↔
      ∃ stored ∈ all, key = stored.key ∧ value = .record stored.record := by
  induction all with
  | nil => simp [putAll]
  | cons first rest ih =>
      obtain ⟨fresh, later⟩ := List.nodup_cons.mp distinct
      rw [putAll, OrderedMap.get_set, List.exists_mem_cons_iff]
      by_cases own : key = first.key
      · rw [if_pos own, Option.some.injEq]
        refine ⟨fun same => .inl ⟨own, same.symm⟩, ?_⟩
        rintro (⟨_, same⟩ | ⟨other, member, also, _⟩)
        · exact same.symm
        · exact absurd (List.mem_map.mpr ⟨other, member, key_id (also.symm.trans own)⟩) fresh
      · rw [if_neg own, ih later]
        exact ⟨.inr, fun either => either.resolve_left fun inside => own inside.1⟩

end Storage

section Envelopes
variable {P} {draft : Draft} {envelope : List (String × Json)} {now : Moment} {stored : Stored}
  {nonce : Bytes}

/-- The fields of an envelope around what was encrypted with a nonce, as they are stored for
    the recipient or for the sender. -/
inductive Around (nonce : Bytes) : List (String × Json) → Prop
  | plain (sender recipient : String) (encrypted : Encrypted) (now : Moment) :
      encrypted.nonce = nonce → Around nonce
        (plainEnvelope sender recipient (MessageEnvelope.serializeEncrypted encrypted) now)
  | sent (sender recipient subject body : String) (encrypted : Encrypted) (now : Moment) :
      encrypted.nonce = nonce → Around nonce
        (plainEnvelope sender recipient (MessageEnvelope.serializeEncrypted encrypted) now ++
          [("plaintextSubject", .string subject), ("plaintextBody", .string body)])

theorem envelope_made (made : draft.envelope P now = .ok envelope) :
    ∃ encrypted : Encrypted, encrypted.nonce = draft.draws.nonce ∧ envelope =
      plainEnvelope draft.sender draft.recipient (MessageEnvelope.serializeEncrypted encrypted)
        now := by
  obtain ⟨serialized, encryption, done⟩ := bind_ok_iff.mp made
  obtain ⟨encrypted, sealed, same⟩ := bind_ok_iff.mp encryption
  cases same
  cases done
  obtain ⟨shared, _, rfl⟩ := encryptFor_ok_iff.mp sealed
  exact ⟨_, rfl, rfl⟩

theorem around_storedBy {input : Event × Moment} {service : Service}
    (member : stored ∈ storedBy P input service) : ∃ draft ids passage,
      input.1 = .send draft ids passage ∧ Around draft.draws.nonce stored.fields ∧
        stored.made = input.2 ∧ service.p2pNode.isStarted = false := by
  obtain ⟨event, now⟩ := input
  cases event with
  | nodeChanges node => cases member
  | send draft ids passage =>
      refine ⟨draft, ids, passage, rfl, ?_⟩
      rw [storedBy] at member
      dsimp only at member
      cases made : draft.envelope P now with
      | error failure =>
          rw [made] at member
          cases member
      | ok envelope =>
          obtain ⟨encrypted, drawn, rfl⟩ := envelope_made made
          rw [made] at member
          dsimp only at member
          split at member
          · cases member
          next idle =>
            simp only [List.mem_cons, List.not_mem_nil, or_false] at member
            rcases member with rfl | rfl
            · exact ⟨.sent _ _ _ _ _ _ drawn, rfl, Bool.eq_false_iff.mpr idle⟩
            · exact ⟨.plain _ _ _ _ drawn, rfl, Bool.eq_false_iff.mpr idle⟩

theorem serialized_canonical (encrypted : Encrypted) :
    Canonical (MessageEnvelope.serializeEncrypted encrypted) :=
  canonical_object ["ephemeralPublicKey", "nonce", "ciphertext"] rfl (by decide)
    ⟨trivial, trivial, trivial, trivial⟩

theorem Around.canonical {fields : List (String × Json)} (around : Around nonce fields) :
    Canonical (.object fields) := by
  cases around with
  | plain sender recipient encrypted now drawn =>
      exact canonical_object ["type", "from", "to", "encrypted", "timestamp"] rfl (by decide)
        ⟨trivial, trivial, trivial, serialized_canonical encrypted, trivial, trivial⟩
  | sent sender recipient subject body encrypted now drawn =>
      exact canonical_object ["type", "from", "to", "encrypted", "timestamp", "plaintextSubject",
        "plaintextBody"] rfl (by decide)
        ⟨trivial, trivial, trivial, serialized_canonical encrypted, trivial, trivial, trivial,
          trivial⟩

theorem Around.names {fields : List (String × Json)} (around : Around nonce fields) :
    PlainNames ("id" :: (fields.map Prod.fst ++ ["receivedAt", "read"])) := by
  cases around with
  | plain sender recipient encrypted now drawn =>
      have plain : PlainNames ["id", "type", "from", "to", "encrypted", "timestamp", "receivedAt",
        "read"] := by decide
      exact plain
  | sent sender recipient subject body encrypted now drawn =>
      have plain : PlainNames ["id", "type", "from", "to", "encrypted", "timestamp",
        "plaintextSubject", "plaintextBody", "receivedAt", "read"] := by decide
      exact plain

/-- The fields of a listed message are those of the envelope, between the record's own. -/
theorem message_fields {fields : List (String × Json)} (around : Around nonce fields)
    (id receivedAt read : Json) : setField "read" read (setField "receivedAt" receivedAt
      (spread [("id", id)] (.object fields))) =
    [("id", id)] ++ fields ++ [("receivedAt", receivedAt), ("read", read)] := by
  have assigned : setField "read" read (setField "receivedAt" receivedAt
      (spread [("id", id)] (.object fields))) =
      assign ([("id", id)] ++ fields ++ [("receivedAt", receivedAt), ("read", read)]) := by
    simp [assign, List.foldl_append, spread, entriesOf, setField]
  rw [assigned]
  exact assign_plain (by simp) around.names

theorem storedMessage_record (around : Around nonce stored.fields) (read : Bool) :
    storedMessage P read stored.record = .ok (stored.message read) := by
  obtain ⟨folder, id, fields, made⟩ := stored
  have data : (Stored.record ⟨folder, id, fields, made⟩).data =
      some (.string (encode (.object fields))) := rfl
  have own : (Stored.record ⟨folder, id, fields, made⟩).id = .string id.text :=
    RelayNode.newRecord_id ..
  have timestamp : (Stored.record ⟨folder, id, fields, made⟩).timestamp = ofInt made.ms := by
    simp [Stored.record, newRecord, MessageRecord.construct, field, lookup,
      DhtStorage.orElse_of_truthy _ (DhtStorage.truthy_ofInt made.positive)]
  rw [storedMessage, data, encode, bufferFrom_toBase64, ok_bind, bufferToString_encode,
    parseOrThrow_stringify around.canonical, ok_bind, own, timestamp, message_fields around]
  rfl

theorem shows_message (around : Around nonce stored.fields) (read : Bool) :
    Shows stored.fields (stored.message read) := by
  intro entry member
  refine lookup_of_mem ?_ (List.mem_append_left _ (List.mem_append_right _ member))
  simpa using around.names.1

theorem shows_nonce {other : Bytes} {fields : List (String × Json)}
    (around : Around nonce stored.fields) (wanted : Around other fields) {read : Bool}
    (shows : Shows fields (stored.message read)) : nonce = other := by
  have encrypted {nonce : Bytes} {fields : List (String × Json)} (around : Around nonce fields) :
      ∃ encrypted : Encrypted, encrypted.nonce = nonce ∧
        ("encrypted", MessageEnvelope.serializeEncrypted encrypted) ∈ fields := by
    cases around with
    | plain sender recipient encrypted now drawn =>
        exact ⟨encrypted, drawn, by simp [plainEnvelope]⟩
    | sent sender recipient subject body encrypted now drawn =>
        exact ⟨encrypted, drawn, by simp [plainEnvelope]⟩
  obtain ⟨own, rfl, inside⟩ := encrypted around
  obtain ⟨theirs, rfl, listed⟩ := encrypted wanted
  have mine := shows_message around read _ inside
  have wanted := shows _ listed
  have same := mine.symm.trans wanted
  simp only [MessageEnvelope.serializeEncrypted, Option.some.injEq, object.injEq, List.cons.injEq,
    Prod.mk.injEq, string.injEq, true_and] at same
  exact toBase64_injective same.2.1

end Envelopes

section Reading
variable {P} {past earlier : List (Event × Moment)} {input : Event × Moment} {draft : Draft}
  {envelope : List (String × Json)} {now : Moment} {draws : String → RandomId} {message : Json}
  {folder : String} {read : Bool}

/-- A record in the folder that has not expired holds the message. -/
def Holds (P : Packages) (folder : String) (read : Bool) (now : Moment) (service : Service)
    (message : Json) : Prop :=
  ∃ key record, service.dhtStorage.get key = some (.record record) ∧
    (folder ++ ":").toList <+: key.toList ∧ record.isExpired now = .ok false ∧
      storedMessage P read record = .ok message

/-- Where all records have times that are numbers, a folder lists the messages that it holds;
    a mark is no message. -/
theorem messagesIn_holds {service : Service} (folder : String) (read : Bool)
    (draws : String → RandomId) (now : Moment)
    (records : ∀ key record, service.dhtStorage.get key = some (.record record) →
      (∃ expired, record.isExpired now = .ok expired) ∧
        ∃ time, toNumber record.timestamp = .ok time) :
    ∃ messages, messagesIn P folder read draws now service = .ok messages ∧
      ∀ message, message ∈ messages ↔ Holds P folder read now service message := by
  obtain ⟨found, listed, members⟩ := getMessages_ok draws now service.dhtStorage folder records
  refine ⟨_, by rw [messagesIn, listed]; rfl, fun message => ?_⟩
  simp only [List.mem_filterMap, members]
  constructor
  · rintro ⟨record, ⟨⟨key, value, held, inside, rfl⟩, alive⟩, shown⟩
    cases value with
    | record stored =>
        refine ⟨key, stored, held, inside, alive, ?_⟩
        have own : asRead draws now (key, .record stored) = stored := rfl
        rw [own] at shown
        exact toOption_eq_some_iff.mp shown
    | mark timestamp => cases shown
  · rintro ⟨key, record, held, inside, alive, read⟩
    refine ⟨record, ⟨⟨key, _, held, inside, rfl⟩, alive⟩, ?_⟩
    rw [read]
    rfl

/-- A folder lists what was stored under its prefix and has not expired. -/
theorem messagesIn_ok (distinct : (past.flatMap idsOf).Nodup) (folder : String) (read : Bool)
    (draws : String → RandomId) (now : Moment) :
    ∃ messages, messagesIn P folder read draws now (replay P past) = .ok messages ∧
      ∀ message, message ∈ messages ↔ ∃ stored ∈ storedIn P past,
        (folder ++ ":").toList <+: stored.key.toList ∧ now.ms ≤ stored.made.ms + MESSAGE_TTL_MS ∧
          message = stored.message read := by
  have held := get_putAll (distinct.sublist (storedIn_ids (P := P) past))
  have alive (stored : Stored) : stored.record.isExpired now =
      .ok (decide (stored.made.ms + MESSAGE_TTL_MS < now.ms)) := RelayNode.newRecord_expired ..
  have shown {stored : Stored} (member : stored ∈ storedIn P past) :
      storedMessage P read stored.record = .ok (stored.message read) := by
    obtain ⟨_, _, _, own⟩ := mem_storedIn.mp member
    obtain ⟨_, _, _, _, around, _⟩ := around_storedBy own
    exact storedMessage_record around read
  rw [← replay_storage] at held
  obtain ⟨messages, listed, members⟩ := messagesIn_holds (P := P) folder
    read draws now fun key record found => by
      obtain ⟨stored, _, _, same⟩ := (held key _).mp found
      cases same
      exact ⟨⟨_, alive stored⟩, _, RelayNode.newRecord_timestamp ..⟩
  refine ⟨messages, listed, fun message => ?_⟩
  rw [members]
  -- The storage holds just what was stored, since no id is drawn twice.
  constructor
  · rintro ⟨key, record, found, inside, living, made⟩
    obtain ⟨stored, member, rfl, same⟩ := (held _ _).mp found
    cases same
    rw [alive] at living
    rw [shown member] at made
    cases made
    exact ⟨stored, member, inside, by simpa using living, rfl⟩
  · rintro ⟨stored, member, inside, young, rfl⟩
    refine ⟨stored.key, stored.record, (held _ _).mpr ⟨stored, member, rfl, rfl⟩, inside, ?_,
      shown member⟩
    rw [alive]
    simpa using young

/-- What a send that stores locally is found by, while it has not expired. -/
theorem shown_of_local (distinct : (past.flatMap idsOf).Nodup) (suffix : input :: earlier <:+ past)
    (sent : Sent P input earlier draft envelope)
    (idle : (replay P earlier).p2pNode.isStarted = false)
    (young : now.ms ≤ input.2.ms + MESSAGE_TTL_MS) :
    Shown P draft envelope now (replay P past) := by
  obtain ⟨event, made⟩ := input
  obtain ⟨ids, passage, _, rfl, enveloped, _⟩ := sent
  have stores : storedBy P (.send draft ids passage, made) (replay P earlier) =
      [⟨sentFolder draft.sender, ids.2, draft.sentEnvelope envelope, made⟩,
        ⟨draft.recipient, ids.1, envelope, made⟩] := by
    simp only [storedBy, enveloped, idle]
    rfl
  have listed (stored : Stored) (read : Bool) (draws : String → RandomId)
      (member : stored ∈ storedBy P (.send draft ids passage, made) (replay P earlier))
      (fresh : stored.made = made) :
      ∃ messages, messagesIn P stored.folder read draws now (replay P past) = .ok messages ∧
        ∃ message ∈ messages, Shows stored.fields message := by
    obtain ⟨messages, found, members⟩ := messagesIn_ok (P := P) distinct stored.folder read draws now
    obtain ⟨_, _, _, _, around, _⟩ := around_storedBy member
    refine ⟨messages, found, stored.message read, (members _).mpr ⟨stored, ?_, ?_, ?_, rfl⟩,
      shows_message around read⟩
    · exact mem_storedIn.mpr ⟨_, _, suffix, member⟩
    · exact ⟨stored.id.text.toList, by simp [Stored.key, messageKey]⟩
    · rw [fresh]
      exact young
  intro draws
  constructor
  · exact listed ⟨sentFolder draft.sender, ids.2, draft.sentEnvelope envelope, made⟩ true draws
      (by simp [stores]) rfl
  · exact listed ⟨draft.recipient, ids.1, envelope, made⟩ false draws (by simp [stores]) rfl

/-- A message that its recipient is shown was stored by its own send: no other has its nonce. -/
theorem local_of_shown (ids : (past.flatMap idsOf).Nodup) (nonces : (past.flatMap noncesOf).Nodup)
    (suffix : input :: earlier <:+ past) (sent : Sent P input earlier draft envelope)
    (shown : Shown P draft envelope now (replay P past)) :
    (replay P earlier).p2pNode.isStarted = false ∧ now.ms ≤ input.2.ms + MESSAGE_TTL_MS := by
  obtain ⟨event, made⟩ := input
  obtain ⟨drawn, passage, _, rfl, enveloped, _⟩ := sent
  obtain ⟨encrypted, nonce, rfl⟩ := envelope_made enveloped
  obtain ⟨_, messages, found, message, member, shows⟩ := shown fun _ => drawn.1
  obtain ⟨_, again, members⟩ :=
    messagesIn_ok (P := P) ids draft.recipient false (fun _ => drawn.1) now
  cases again.symm.trans found
  obtain ⟨stored, inside, _, young, rfl⟩ := (members _).mp member
  obtain ⟨other, before, ago, stores⟩ := mem_storedIn.mp inside
  obtain ⟨theirs, _, _, named, around, time, idle⟩ := around_storedBy stores
  have same : theirs.draws.nonce = draft.draws.nonce :=
    shows_nonce around (.plain _ _ _ _ nonce) shows
  have here : draft.draws.nonce ∈ noncesOf (.send draft drawn passage, made) := List.mem_cons_self
  have there : draft.draws.nonce ∈ noncesOf other := by simp [noncesOf, named, same]
  cases drawn_once nonces suffix ago here there
  rw [time] at young
  exact ⟨idle, young⟩

end Reading

/-- At any moment, every message that was sent is in the list of its sender and in that of its
    recipient exactly when every send that returned was made while the node was not started,
    and no more than seven days ago. -/
theorem same_mailbox_iff (P : Packages) (history : History) (now : Moment) :
    SameMailbox P history.past now ↔ EachInput (SentLocally P now) history.past := by
  constructor
  · intro same input earlier suffix draft envelope sent
    exact local_of_shown history.ids history.nonces suffix sent
      (same input earlier suffix draft envelope sent)
  · intro each input earlier suffix draft envelope sent
    obtain ⟨idle, young⟩ := each input earlier suffix draft envelope sent
    exact shown_of_local history.ids suffix sent idle young

section Example

def sampleDraft : Draft :=
  ⟨"alice", "bob", "hi", "hello", [7], sampleCipherDraws⟩

def otherDraw : RandomId := ⟨List.replicate 16 9, List.length_replicate⟩

/-- `alice` sends a message to `bob` once the node is started. -/
def startedHistory : History where
  past := [(.send sampleDraft (RelayNode.sampleDraw, otherDraw) ⟨none, true⟩,
      RelayNode.sampleMoment),
    (.nodeChanges ⟨some "alice", true, some OrderedMap.empty, true⟩, RelayNode.sampleMoment)]
  ids := by decide
  nonces := by simp [noncesOf]

theorem sent_by_node_not_listed : ¬ ∀ (P : Packages) (history : History) (now : Moment),
    SameMailbox P history.past now := by
  intro claimed
  have same := claimed samplePackages startedHistory RelayNode.sampleMoment
  have enveloped : ∃ envelope, sampleDraft.envelope samplePackages RelayNode.sampleMoment =
      .ok envelope := ⟨_, rfl⟩
  obtain ⟨envelope, made⟩ := enveloped
  have sent : Sent samplePackages (.send sampleDraft (RelayNode.sampleDraw, otherDraw) ⟨none, true⟩,
      RelayNode.sampleMoment) startedHistory.past.tail sampleDraft envelope := by
    have returned : ∃ result, (sendMessageWithSender samplePackages sampleDraft
        (RelayNode.sampleDraw, otherDraw) ⟨none, true⟩ RelayNode.sampleMoment
        (replay samplePackages startedHistory.past.tail)).result = .ok result := by
      rw [sendMessageWithSender, made]
      exact ⟨_, rfl⟩
    obtain ⟨result, ok⟩ := returned
    exact ⟨_, _, result, rfl, made, ok⟩
  have idle := (local_of_shown startedHistory.ids startedHistory.nonces (List.suffix_refl _) sent
    (same _ _ (List.suffix_refl _) _ _ sent)).1
  cases idle

end Example

end Chainmail.Mailboxes
