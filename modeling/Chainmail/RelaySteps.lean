import Chainmail.RelayNode

/-!
What a relay's database gives back for a recipient, and what each event puts
into it.
-/

namespace Chainmail.DhtStorage

open Json

section Reading

variable {now : Moment} {db : Database}

theorem mem_rangeOf {recipient key : String} {record : MessageRecord}
    (held : db.get key = some record) (under : ∃ messageId, key = recipient ++ ":" ++ messageId) :
    record ∈ rangeOf recipient db := by
  obtain ⟨messageId, rfl⟩ := under
  apply List.mem_map.mpr
  refine ⟨(recipient ++ ":" ++ messageId, record), List.mem_filter.mpr ⟨?_, ?_⟩, rfl⟩
  · exact List.mem_mergeSort.mpr ((OrderedMap.get_iff_mem _ _ _).mp held)
  · have whole : (recipient ++ ":" ++ messageId).toList =
        (recipient ++ ":").toList ++ messageId.toList := String.toList_append
    rw [whole]
    exact List.isPrefixOf_iff_prefix.mpr (List.prefix_append _ _)

theorem rangeOf_held {recipient : String} {record : MessageRecord}
    (member : record ∈ rangeOf recipient db) : ∃ key, db.get key = some record := by
  obtain ⟨entry, listed, rfl⟩ := List.mem_map.mp member
  have inside := List.mem_mergeSort.mp (List.mem_filter.mp listed).1
  exact ⟨entry.1, (OrderedMap.get_iff_mem _ _ _).mpr inside⟩

theorem mem_unexpired {records live : List MessageRecord}
    (listed : unexpired now records = .ok live) (record : MessageRecord) :
    record ∈ live ↔ record ∈ records ∧ record.isExpired now = .ok false := by
  induction records generalizing live with
  | nil =>
      cases listed
      simp
  | cons first rest ih =>
      obtain ⟨expired, known, others⟩ := bind_ok_iff.mp listed
      obtain ⟨later, found, done⟩ := bind_ok_iff.mp others
      cases expired with
      | true =>
          cases done
          rw [if_pos rfl, ih found, List.mem_cons]
          constructor
          · exact fun inside => ⟨.inr inside.1, inside.2⟩
          · rintro ⟨rfl | inside, alive⟩
            · rw [known] at alive
              cases alive
            · exact ⟨inside, alive⟩
      | false =>
          cases done
          rw [if_neg Bool.false_ne_true, List.mem_cons, ih found, List.mem_cons]
          constructor
          · rintro (rfl | inside)
            · exact ⟨.inl rfl, known⟩
            · exact ⟨.inr inside.1, inside.2⟩
          · rintro ⟨rfl | inside, alive⟩
            · exact .inl rfl
            · exact .inr ⟨inside, alive⟩

theorem unexpired_sublist {records live : List MessageRecord}
    (listed : unexpired now records = .ok live) : live.Sublist records := by
  induction records generalizing live with
  | nil =>
      cases listed
      exact List.Sublist.refl _
  | cons record rest ih =>
      obtain ⟨expired, _, others⟩ := bind_ok_iff.mp listed
      obtain ⟨later, found, done⟩ := bind_ok_iff.mp others
      cases expired with
      | true =>
          cases done
          exact (ih found).cons record
      | false =>
          cases done
          exact (ih found).cons_cons record

theorem unexpired_ok {records : List MessageRecord}
    (readable : ∀ record ∈ records, ∃ expired, record.isExpired now = .ok expired) :
    ∃ live, unexpired now records = .ok live := by
  induction records with
  | nil => exact ⟨[], rfl⟩
  | cons record rest ih =>
      obtain ⟨expired, known⟩ := readable record List.mem_cons_self
      obtain ⟨others, found⟩ := ih fun other member => readable other (List.mem_cons_of_mem _ member)
      rw [unexpired, known, found]
      exact ⟨_, rfl⟩

theorem unexpired_all {records : List MessageRecord}
    (alive : ∀ record ∈ records, record.isExpired now = .ok false) :
    unexpired now records = .ok records := by
  induction records with
  | nil => rfl
  | cons record rest ih =>
      have later := ih fun other member => alive other (List.mem_cons_of_mem _ member)
      rw [unexpired, alive record List.mem_cons_self, ok_bind, later]
      rfl

/-- Fewer than two records, or all with a time that is a number. -/
def Sortable (messages : List MessageRecord) : Prop :=
  messages.length < 2 ∨ ∀ record ∈ messages, ∃ time, toNumber record.timestamp = .ok time

theorem sortByTimestamp_ok {messages : List MessageRecord} (sortable : Sortable messages) :
    ∃ sorted, sortByTimestamp messages = .ok sorted ∧ sorted.Perm messages := by
  by_cases few : messages.length < 2
  · exact ⟨messages, by simp [sortByTimestamp, few], List.Perm.refl _⟩
  · have each : ∀ record ∈ messages, ∃ pair : JsNumber × MessageRecord, (do
        let timestamp ← toNumber record.timestamp
        return (timestamp, record) : Except Failure (JsNumber × MessageRecord)) = .ok pair := by
      intro record member
      obtain ⟨time, found⟩ := sortable.resolve_left few record member
      exact ⟨(time, record), by rw [found]; rfl⟩
    obtain ⟨timed, made⟩ := mapM_ok_exists each
    have same : timed.map Prod.snd = messages := by
      refine mapM_ok_back (fun record pair own => ?_) made
      obtain ⟨time, _, paired⟩ := bind_ok_iff.mp own
      cases paired
      rfl
    refine ⟨_, by rw [sortByTimestamp, if_neg few, made]; rfl, ?_⟩
    exact ((List.mergeSort_perm _ _).map Prod.snd).trans (by rw [same])

theorem sortByTimestamp_perm {messages sorted : List MessageRecord}
    (done : sortByTimestamp messages = .ok sorted) : sorted.Perm messages := by
  have sortable : Sortable messages := by
    by_cases few : messages.length < 2
    · exact .inl few
    · refine .inr fun record member => ?_
      rw [sortByTimestamp, if_neg few] at done
      obtain ⟨timed, read, _⟩ := bind_ok_iff.mp done
      obtain ⟨pair, own⟩ := mapM_ok_mem read member
      obtain ⟨time, found, _⟩ := bind_ok_iff.mp own
      exact ⟨time, found⟩
  obtain ⟨other, again, order⟩ := sortByTimestamp_ok sortable
  cases done.symm.trans again
  exact order

/-- What is found for a recipient can be read: every expiry is a number, and the
    records are sortable by their times. -/
structure Readable (recipient : String) (now : Moment) (db : Database) : Prop where
  expiries : ∀ record ∈ rangeOf recipient db, ∃ expired, record.isExpired now = .ok expired
  times : ∀ live, unexpired now (rangeOf recipient db) = .ok live → Sortable live

theorem getMessages_ok {asked : Json} {recipient : String} (text : toText asked = .ok recipient)
    (readable : Readable recipient now db) :
    ∃ messages, getMessages asked now db = .ok messages ∧ ∀ record,
      record ∈ messages ↔ record ∈ rangeOf recipient db ∧ record.isExpired now = .ok false := by
  obtain ⟨live, found⟩ := unexpired_ok readable.expiries
  obtain ⟨sorted, done, order⟩ := sortByTimestamp_ok (readable.times live found)
  refine ⟨sorted, ?_, fun record => ?_⟩
  · rw [getMessages, text, ok_bind, found, ok_bind, done]
  · rw [order.mem_iff, mem_unexpired found]

theorem toJSON_id (record : MessageRecord) : record.toJSON.field "id" = some record.id := by
  simp [MessageRecord.toJSON, ofFields, field, lookup]

theorem toJSON_data (record : MessageRecord) : record.toJSON.field "data" = record.data := by
  cases given : record.recipient <;> cases held : record.data <;>
    simp [MessageRecord.toJSON, ofFields, field, lookup, given, held]

end Reading

end Chainmail.DhtStorage

namespace Chainmail.RelayNode

open Json DhtStorage

variable (P : Packages)

/-- What an event puts into the database, in order, and under which keys. -/
def written (signer : Option Signer) (event : Event) (now : Moment) :
    List (String × MessageRecord) :=
  match event with
  | .gossip data allowed draw coordinator =>
      match acceptedKey data allowed with
      | .ok (some key) =>
          let entryFor (draw : RandomId) :=
            (entryOf P signer (newRecord key (toBase64 data) draw now) now).toOption.toList
          entryFor draw ++
            if (entryFor draw).isEmpty then []
            else coordinator.toList.flatMap fun replication => entryFor replication.draw
      | _ => []
  | .storeRequest data draw =>
      match requestedRecord data draw now with
      | .ok (some record) => (entryOf P signer record now).toOption.toList
      | _ => []
  | _ => []

def putAll (entries : List (String × MessageRecord)) (db : Database) : Database :=
  entries.foldl (fun db entry => db.set entry.1 entry.2) db

theorem putAll_cons (entry : String × MessageRecord) (rest : List (String × MessageRecord))
    (db : Database) : putAll (entry :: rest) db = putAll rest (db.set entry.1 entry.2) := rfl

section Steps

variable {P} {signer : Option Signer} {now : Moment} {relay : Relay}

theorem store_state (recipient : Json) (data : String) (draw : RandomId) (db : Database) :
    (store P signer recipient data draw now db).state =
      putAll (entryOf P signer (newRecord recipient data draw now) now).toOption.toList db := by
  cases made : entryOf P signer (newRecord recipient data draw now) now with
  | error failure => simp [store, made, putAll, Except.toOption]
  | ok entry =>
      simp only [store, made]
      split <;> rfl

theorem storeRecord_state (record : MessageRecord) (db : Database) :
    (storeRecord P signer record now db).state =
      putAll (entryOf P signer record now).toOption.toList db := by
  cases made : entryOf P signer record now with
  | error failure => simp [storeRecord, made, putAll, Except.toOption]
  | ok entry =>
      simp only [storeRecord, made]
      split <;> rfl

theorem store_result (recipient : Json) (data : String) (draw : RandomId) (db : Database)
    (sliced : canSlice (some recipient) = true) :
    (store P signer recipient data draw now db).result =
      (entryOf P signer (newRecord recipient data draw now) now).map Prod.snd := by
  cases made : entryOf P signer (newRecord recipient data draw now) now with
  | error failure => simp [store, made, Except.map]
  | ok entry => simp [store, made, sliced, Except.map]

theorem acceptedKey_slices {data : Bytes} {allowed : Bool} {key : Json}
    (accepted : acceptedKey data allowed = .ok (some key)) : canSlice (some key) = true := by
  obtain ⟨envelope, _, checked⟩ := bind_ok_iff.mp accepted
  obtain ⟨_, _, keyed⟩ := bind_ok_iff.mp checked
  split at keyed
  next =>
    rw [storageKey] at keyed
    split at keyed
    · split at keyed
      next sliced =>
        cases keyed
        exact sliced
      next => cases keyed
    · split at keyed
      next sliced =>
        cases keyed
        exact sliced
      next => cases keyed
    · cases keyed
  next => cases keyed

theorem step_gossip (data : Bytes) (allowed : Bool) (draw : RandomId)
    (coordinator : Option Replication) :
    (handleMessage P signer data allowed draw coordinator now relay).db =
      putAll (written P signer (.gossip data allowed draw coordinator) now) relay.db := by
  delta handleMessage written
  dsimp -zeta only
  cases accepted : acceptedKey data allowed with
  | error failure => rfl
  | ok found =>
      cases found with
      | none => rfl
      | some key =>
          have sliced := acceptedKey_slices accepted
          simp only [storeWithReplication, store_state, store_result key _ _ _ sliced]
          cases made : entryOf P signer (newRecord key (toBase64 data) draw now) now with
          | error failure => simp [putAll, Except.map, Except.toOption]
          | ok entry =>
              cases coordinator with
              | none => simp [putAll, Except.map, Except.toOption]
              | some replication =>
                  simp only [Coordinator.storeWithReplication, store_state,
                    store_result key _ _ _ sliced, Except.map]
                  cases again : entryOf P signer
                      (newRecord key (toBase64 data) replication.draw now) now with
                  | error failure => simp [putAll, Except.toOption, again]
                  | ok other => simp [putAll, Except.toOption, again]

theorem step_storeRequest (data : Bytes) (draw : RandomId) :
    (handleStoreRequest P signer data draw now relay).1.db =
      putAll (written P signer (.storeRequest data draw) now) relay.db := by
  delta handleStoreRequest written
  dsimp only
  split
  next failed => simp [failed, putAll]
  next invalid => simp [invalid, putAll]
  next record requested => simp [requested, storeRecord_state]

theorem written_storeRequest {data : Bytes} {draw : RandomId} {record : MessageRecord}
    (requested : requestedRecord data draw now = .ok (some record)) :
    written P signer (.storeRequest data draw) now =
      (entryOf P signer record now).toOption.toList := by
  delta written
  dsimp only
  rw [requested]

/-- What is put is under the key of the record; a node that signs adds a proof of its own. -/
theorem entryOf_cases {record : MessageRecord} {entry : String × MessageRecord}
    (made : entryOf P signer record now = .ok entry) :
    messageKey entry.2.recipient (some entry.2.id) = .ok entry.1 ∧
      (signer = none ∧ entry.2 = record ∨
        ∃ node messageData proof, signer = some node ∧ bufferFrom P record.data = .ok messageData ∧
          StorageProof.create P node messageData now = .ok proof ∧
          entry.2 = record.addProof proof) := by
  obtain ⟨proven, added, keyed⟩ := bind_ok_iff.mp made
  obtain ⟨key, text, done⟩ := bind_ok_iff.mp keyed
  cases done
  refine ⟨text, ?_⟩
  cases signer with
  | none =>
      cases added
      exact .inl ⟨rfl, rfl⟩
  | some node =>
      obtain ⟨messageData, read, rest⟩ := bind_ok_iff.mp added
      obtain ⟨proof, created, finished⟩ := bind_ok_iff.mp rest
      cases finished
      exact .inr ⟨node, messageData, proof, rfl, read, created, rfl⟩

theorem entryOf_key {record : MessageRecord} {entry : String × MessageRecord}
    (made : entryOf P signer record now = .ok entry) :
    messageKey entry.2.recipient (some entry.2.id) = .ok entry.1 := (entryOf_cases made).1

theorem entryOf_record {record : MessageRecord} {entry : String × MessageRecord}
    (made : entryOf P signer record now = .ok entry) :
    entry.2 = record ∨ ∃ proof, entry.2 = record.addProof proof := by
  rcases (entryOf_cases made).2 with ⟨_, same⟩ | ⟨_, _, proof, _, _, _, same⟩
  · exact .inl same
  · exact .inr ⟨proof, same⟩

theorem mem_entered {record : MessageRecord} {entry : String × MessageRecord}
    (member : entry ∈ (entryOf P signer record now).toOption.toList) :
    entryOf P signer record now = .ok entry :=
  toOption_eq_some_iff.mp (Option.mem_toList.mp member)

/-- What a gossip message writes are records of its own making, one for each draw. -/
theorem gossip_entry {data : Bytes} {allowed : Bool} {draw : RandomId}
    {coordinator : Option Replication} {entry : String × MessageRecord}
    (member : entry ∈ written P signer (.gossip data allowed draw coordinator) now) :
    ∃ key drawn, acceptedKey data allowed = .ok (some key) ∧
      entryOf P signer (newRecord key (toBase64 data) drawn now) now = .ok entry := by
  delta written at member
  dsimp only at member
  split at member
  next key accepted =>
    rcases List.mem_append.mp member with first | second
    · exact ⟨key, draw, accepted, mem_entered first⟩
    · split at second
      · cases second
      · obtain ⟨replication, _, again⟩ := List.mem_flatMap.mp second
        exact ⟨key, replication.draw, accepted, mem_entered again⟩
  next => cases member

theorem request_entry {data : Bytes} {draw : RandomId} {entry : String × MessageRecord}
    (member : entry ∈ written P signer (.storeRequest data draw) now) :
    ∃ record, requestedRecord data draw now = .ok (some record) ∧
      entryOf P signer record now = .ok entry := by
  delta written at member
  dsimp only at member
  split at member
  next record requested => exact ⟨record, requested, mem_entered member⟩
  next => cases member

theorem written_entry {event : Event} {entry : String × MessageRecord}
    (member : entry ∈ written P signer event now) :
    ∃ record, entryOf P signer record now = .ok entry := by
  cases event with
  | gossip data allowed draw coordinator =>
      obtain ⟨key, drawn, _, made⟩ := gossip_entry member
      exact ⟨_, made⟩
  | storeRequest data draw =>
      obtain ⟨record, _, made⟩ := request_entry member
      exact ⟨record, made⟩
  | cleanup => cases member
  | delete recipient messageId => cases member

theorem step_putAll {relay : Relay} {event : Event} {now : Moment}
    {entry : String × MessageRecord} (member : entry ∈ written P signer event now) :
    (RelayNode.step P signer relay event now).db = putAll (written P signer event now) relay.db := by
  cases event with
  | gossip data allowed draw coordinator => exact step_gossip data allowed draw coordinator
  | storeRequest data draw => exact step_storeRequest data draw
  | cleanup => cases member
  | delete recipient messageId => cases member

end Steps

theorem handleDHTFetchRequest_records {data : Bytes} {asked : List Json} {now : Moment}
    {relay : Relay} {records : List MessageRecord} (asks : askedFor data = .ok asked)
    (someone : asked ≠ []) (fetched : fetchRecords asked now relay.db = .ok records) :
    handleDHTFetchRequest data now relay =
      .object [("messages", .array (records.map MessageRecord.toJSON))] := by
  cases asked with
  | nil => exact absurd rfl someone
  | cons first rest =>
      delta handleDHTFetchRequest
      rw [asks]
      dsimp only
      rw [fetched]

end Chainmail.RelayNode
