import Chainmail.RelaySteps
import Chainmail.JsonRoundTrip
import Chainmail.PackageAssumptions

/-!
How many records a gossip message leaves on a relay that replicates. The relay
stores it, and its coordinator stores it once more before sending it on, each
under an id of its own. A relay signs no proofs, so it stores what it hears.
-/

namespace Chainmail.RelayNode

open Json DhtStorage

variable (P : Packages)

/-- A gossip message that a replicating relay stores: its key, as a value and as text. -/
structure Heard where
  key : Json
  text : String
  data : Bytes
  draw : RandomId
  replication : Replication

def heard : Event → Option Heard
  | .gossip data allowed draw (some replication) =>
      match acceptedKey data allowed with
      | .ok (some key) =>
          (toText key).toOption.map fun text => ⟨key, text, data, draw, replication⟩
      | _ => none
  | _ => none

namespace Heard

def firstKey (heard : Heard) : String := heard.text ++ ":" ++ heard.draw.text

def secondKey (heard : Heard) : String := heard.text ++ ":" ++ heard.replication.draw.text

def record (heard : Heard) (draw : RandomId) (now : Moment) : MessageRecord :=
  newRecord heard.key (toBase64 heard.data) draw now

def records (heard : Heard) (now : Moment) : List (String × MessageRecord) :=
  [(heard.firstKey, heard.record heard.draw now),
    (heard.secondKey, heard.record heard.replication.draw now)]

end Heard

section NewRecords

theorem newRecord_id (recipient : Json) (data : String) (draw : RandomId) (now : Moment) :
    (newRecord recipient data draw now).id = .string draw.text := by
  simp [newRecord, MessageRecord.construct, field, lookup, orElse]

theorem newRecord_recipient (recipient : Json) (data : String) (draw : RandomId) (now : Moment) :
    (newRecord recipient data draw now).recipient = some recipient := by
  simp [newRecord, MessageRecord.construct, field, lookup]

theorem newRecord_expired (recipient : Json) (data : String) (draw : RandomId) (made now : Moment) :
    (newRecord recipient data draw made).isExpired now =
      .ok (decide (made.ms + MESSAGE_TTL_MS < now.ms)) := by
  have expires : (newRecord recipient data draw made).expires =
      ofInt (made.ms + MESSAGE_TTL_MS : Nat) := by
    simp [newRecord, MessageRecord.construct, field, lookup, orElse]
  rw [MessageRecord.isExpired, expires, toNumber_natural, ok_bind, JsNumber.ofNat_lt_ofNat]
  rfl

theorem newRecord_timestamp (recipient : Json) (data : String) (draw : RandomId) (now : Moment) :
    toNumber (newRecord recipient data draw now).timestamp = .ok (.ofNat now.ms) := by
  have timestamp : (newRecord recipient data draw now).timestamp = ofInt now.ms := by
    simp [newRecord, MessageRecord.construct, field, lookup,
      orElse_of_truthy _ (truthy_ofInt now.positive)]
  rw [timestamp, toNumber_natural]

theorem newRecord_entry (recipient : Json) (data : String) (draw : RandomId) (now : Moment) :
    entryOf P none (newRecord recipient data draw now) now = (toText recipient).map fun text =>
      (text ++ ":" ++ draw.text, newRecord recipient data draw now) := by
  rw [entryOf, withProof, ok_bind, messageKey, newRecord_recipient, newRecord_id]
  cases text : toText recipient with
  | error failure => simp [spliced, text, Except.map]
  | ok found => simp [spliced, text, toText, Except.map]

end NewRecords

section Written

variable {P}

theorem written_gossip (data : Bytes) (allowed : Bool) (draw : RandomId)
    (replication : Replication) (now : Moment) :
    written P none (.gossip data allowed draw (some replication)) now =
      match heard (.gossip data allowed draw (some replication)) with
      | some message => message.records now
      | none => [] := by
  delta written heard
  dsimp -zeta only
  cases accepted : acceptedKey data allowed with
  | error failure => rfl
  | ok found =>
      cases found with
      | none => rfl
      | some key =>
          cases text : toText key with
          | error failure => simp [newRecord_entry, text, Except.map, Except.toOption]
          | ok name =>
              simp [newRecord_entry, text, Except.map, Except.toOption, Heard.records,
                Heard.firstKey, Heard.secondKey, Heard.record]

theorem gossip_sent (data : Bytes) (allowed : Bool) (draw : RandomId)
    (replication : Replication) (now : Moment) (relay : Relay) {message : Heard}
    (found : heard (.gossip data allowed draw (some replication)) = some message) :
    (handleMessage P none data allowed draw (some replication) now relay).sent = relay.sent ++
      message.replication.targets.map (replicateTo (message.record message.replication.draw now)) := by
  delta heard at found
  delta handleMessage
  dsimp -zeta only at found ⊢
  cases accepted : acceptedKey data allowed with
  | error failure => simp [accepted] at found
  | ok addressed =>
      rw [accepted] at found
      cases addressed with
      | none => cases found
      | some key =>
          have sliced := acceptedKey_slices accepted
          cases text : toText key with
          | error failure => simp [text, Except.toOption] at found
          | ok name =>
              simp only [text, Except.toOption, Option.map_some, Option.some.injEq] at found
              subst found
              simp [storeWithReplication, Coordinator.storeWithReplication, store_result, sliced,
                newRecord_entry, text, Except.map, Heard.record]

end Written

section Counting

/-- The key belongs to what is found for a recipient. -/
def under (recipient key : String) : Bool := (recipient ++ ":").toList.isPrefixOf key.toList

theorem under_own (recipient messageId : String) :
    under recipient (recipient ++ ":" ++ messageId) = true := by
  have whole : (recipient ++ ":" ++ messageId).toList =
      (recipient ++ ":").toList ++ messageId.toList := String.toList_append
  rw [under, whole]
  exact List.isPrefixOf_iff_prefix.mpr (List.prefix_append _ _)

/-- Two keys that end in drawn ids are the same only with the same id. -/
theorem same_draw {first second : String} {left right : RandomId}
    (same : first ++ ":" ++ left.text = second ++ ":" ++ right.text) : left.text = right.text := by
  have letters := congrArg String.toList same
  simp only [String.toList_append] at letters
  apply String.toList_injective
  exact (List.append_inj' letters (by rw [left.text_length, right.text_length])).2

/-- What a message adds to the records found for a recipient. -/
def Heard.adds (recipient : String) (heard : Heard) : Nat :=
  (if under recipient heard.firstKey then 1 else 0) +
    if heard.secondKey ≠ heard.firstKey ∧ under recipient heard.secondKey = true then 1 else 0

def adds (recipient : String) (event : Event × Moment) : Nat :=
  match heard event.1 with
  | some message => message.adds recipient
  | none => 0

/-- Whether the event is a message that is stored for a recipient. -/
def heardFor (recipient : String) (event : Event × Moment) : Bool :=
  match heard event.1 with
  | some message => decide (message.text = recipient)
  | none => false

/-- One record for a message of the recipient's own, and none for another's. -/
def Heard.OneKey (recipient : String) (heard : Heard) : Prop :=
  if heard.text = recipient then heard.replication.draw.text = heard.draw.text
  else under recipient heard.firstKey = false ∧ under recipient heard.secondKey = false

theorem Heard.adds_iff (recipient : String) (heard : Heard) :
    heard.adds recipient = (if heard.text = recipient then 1 else 0) ↔ heard.OneKey recipient := by
  by_cases own : heard.text = recipient
  · have first : under recipient heard.firstKey = true := by
      rw [firstKey, own]
      exact under_own _ _
    have second : under recipient heard.secondKey = true := by
      rw [secondKey, own]
      exact under_own _ _
    have keys : heard.secondKey = heard.firstKey ↔
        heard.replication.draw.text = heard.draw.text := by
      constructor
      · exact same_draw
      · intro same
        rw [secondKey, firstKey, same]
    simp [adds, OneKey, own, first, second, keys]
  · by_cases first : under recipient heard.firstKey = true
    · simp [adds, OneKey, own, first]
    · by_cases same : heard.secondKey = heard.firstKey
      · simp [adds, OneKey, own, first, same]
      · simp [adds, OneKey, own, first, same]

end Counting

section Run

variable {P}

/-- The ids an event draws for what the relay itself stores. -/
def draws (event : Event) : List RandomId :=
  match heard event with
  | some message => [message.draw, message.replication.draw]
  | none => []

/-- The relay has its coordinator, and nobody stores or deletes what belongs to the
    recipient in any other way. -/
def KeepsOff (recipient : String) (now : Moment) : Event → Prop
  | .gossip _ _ _ coordinator => coordinator.isSome
  | .storeRequest data draw => ∀ entry ∈ written P none (.storeRequest data draw) now,
      under recipient entry.1 = false
  | .cleanup => True
  | .delete name messageId => under recipient (name ++ ":" ++ messageId) = false

/-- A run of a replicating relay in which drawn ids do not come up again, nothing
    expires before it is cleaned up, and a recipient's records come from gossip alone. -/
structure Replicating (recipient : String) (events : List (Event × Moment)) : Prop where
  keepsOff : ∀ event ∈ events, KeepsOff (P := P) recipient event.2 event.1
  fresh : events.Pairwise fun earlier later =>
    ∀ first ∈ draws earlier.1, ∀ second ∈ draws later.1, first.text ≠ second.text
  unexpired : ∀ event ∈ events, ∀ cleaning ∈ events, cleaning.1 = .cleanup →
    cleaning.2.ms ≤ event.2.ms + MESSAGE_TTL_MS

/-- What the database holds for a recipient after these events. -/
structure Ledger (recipient : String) (past : List (Event × Moment)) (db : Database) : Prop where
  count : db.countKeys (under recipient) = (past.map (adds recipient)).sum
  source : ∀ key record, db.get key = some record → under recipient key = true →
    ∃ event ∈ past, ∃ message, heard event.1 = some message ∧
      (key, record) ∈ message.records event.2

variable {recipient : String} {past : List (Event × Moment)} {db : Database}

theorem Ledger.start (recipient : String) : Ledger recipient [] start.db where
  count := rfl
  source := by simp [RelayNode.start]

theorem Ledger.silent (ledger : Ledger recipient past db) {event : Event × Moment}
    (unheard : heard event.1 = none) : Ledger recipient (past ++ [event]) db where
  count := by
    have nothing : adds recipient event = 0 := by simp [adds, unheard]
    simp [ledger.count, nothing]
  source := by
    intro key record found inside
    obtain ⟨event, member, rest⟩ := ledger.source key record found inside
    exact ⟨event, List.mem_append_left _ member, rest⟩

/-- A change of the database under other keys alone. -/
theorem Ledger.elsewhere (ledger : Ledger recipient past db) {after : Database}
    (count : after.countKeys (under recipient) = db.countKeys (under recipient))
    (same : ∀ key, under recipient key = true → after.get key = db.get key) :
    Ledger recipient past after where
  count := count.trans ledger.count
  source := by
    intro name held found inside
    rw [same name inside] at found
    exact ledger.source name held found inside

theorem under_ne {key other : String} (inside : under recipient key = true)
    (outside : under recipient other = false) : key ≠ other := by
  rintro rfl
  rw [outside] at inside
  cases inside

theorem Ledger.put_other (ledger : Ledger recipient past db) {key : String}
    (record : MessageRecord) (other : under recipient key = false) :
    Ledger recipient past (db.set key record) :=
  ledger.elsewhere (OrderedMap.countKeys_set_other db record other)
    fun _ inside => OrderedMap.get_set_of_ne db record (under_ne inside other)

theorem Ledger.putAll_other (ledger : Ledger recipient past db)
    {entries : List (String × MessageRecord)}
    (other : ∀ entry ∈ entries, under recipient entry.1 = false) :
    Ledger recipient past (putAll entries db) := by
  induction entries generalizing db with
  | nil => exact ledger
  | cons entry rest ih =>
      rw [putAll_cons]
      apply ih (ledger.put_other entry.2 (other entry List.mem_cons_self))
      exact fun later member => other later (List.mem_cons_of_mem _ member)

theorem Ledger.delete_other (ledger : Ledger recipient past db) {key : String}
    (other : under recipient key = false) : Ledger recipient past (db.delete key) :=
  ledger.elsewhere (OrderedMap.countKeys_delete_other db other)
    fun _ inside => OrderedMap.get_delete_of_ne db (under_ne inside other)

theorem records_expired {message : Heard} {made now : Moment} {key : String}
    {record : MessageRecord} (member : (key, record) ∈ message.records made) :
    record.isExpired now = .ok (decide (made.ms + MESSAGE_TTL_MS < now.ms)) := by
  simp only [Heard.records, List.mem_cons, Prod.mk.injEq, List.not_mem_nil, or_false] at member
  rcases member with ⟨_, rfl⟩ | ⟨_, rfl⟩ <;> exact newRecord_expired _ _ _ _ _

theorem records_timestamp {message : Heard} {made : Moment} {key : String}
    {record : MessageRecord} (member : (key, record) ∈ message.records made) :
    toNumber record.timestamp = .ok (.ofNat made.ms) := by
  simp only [Heard.records, List.mem_cons, Prod.mk.injEq, List.not_mem_nil, or_false] at member
  rcases member with ⟨_, rfl⟩ | ⟨_, rfl⟩ <;> exact newRecord_timestamp _ _ _ _

theorem Ledger.alive (ledger : Ledger recipient past db) {now : Moment}
    (unexpired : ∀ event ∈ past, now.ms ≤ event.2.ms + MESSAGE_TTL_MS) {key : String}
    {record : MessageRecord} (found : db.get key = some record)
    (inside : under recipient key = true) : record.isExpired now = .ok false := by
  obtain ⟨event, member, message, _, entry⟩ := ledger.source key record found inside
  rw [records_expired entry, decide_eq_false (Nat.not_lt.mpr (unexpired event member))]

theorem Ledger.cleanup (ledger : Ledger recipient past db) {now : Moment}
    (unexpired : ∀ event ∈ past, now.ms ≤ event.2.ms + MESSAGE_TTL_MS) :
    Ledger recipient past (cleanupExpired now db) := by
  rw [cleanupExpired]
  split
  · exact ledger
  · constructor
    · rw [OrderedMap.countKeys_keep, ledger.count]
      intro entry member inside
      have found := (OrderedMap.get_iff_mem _ _ _).mpr member
      simp [ledger.alive unexpired found inside]
    · intro key record found inside
      rw [OrderedMap.get_keep] at found
      exact ledger.source key record (Option.filter_eq_some_iff.mp found).1 inside

theorem Ledger.unused (ledger : Ledger recipient past db) {event : Event × Moment}
    (apart : ∀ earlier ∈ past, ∀ first ∈ draws earlier.1, ∀ second ∈ draws event.1,
      first.text ≠ second.text) {draw : RandomId} (drawn : draw ∈ draws event.1) {text : String}
    (inside : under recipient (text ++ ":" ++ draw.text) = true) :
    db.get (text ++ ":" ++ draw.text) = none := by
  cases found : db.get (text ++ ":" ++ draw.text) with
  | none => rfl
  | some record =>
      obtain ⟨earlier, member, message, listened, entry⟩ := ledger.source _ record found inside
      have old : message.draw ∈ draws earlier.1 ∧ message.replication.draw ∈ draws earlier.1 := by
        simp [draws, listened]
      simp only [Heard.records, List.mem_cons, Prod.mk.injEq, List.not_mem_nil, or_false] at entry
      rcases entry with ⟨same, _⟩ | ⟨same, _⟩
      · exact absurd (same_draw same).symm (apart earlier member _ old.1 draw drawn)
      · exact absurd (same_draw same).symm (apart earlier member _ old.2 draw drawn)

theorem Ledger.count_hear (ledger : Ledger recipient past db) {event : Event × Moment}
    {message : Heard} (listened : heard event.1 = some message)
    (apart : ∀ earlier ∈ past, ∀ first ∈ draws earlier.1, ∀ second ∈ draws event.1,
      first.text ≠ second.text) :
    (putAll (message.records event.2) db).countKeys (under recipient) =
      db.countKeys (under recipient) + message.adds recipient := by
  have drawn : message.draw ∈ draws event.1 ∧ message.replication.draw ∈ draws event.1 := by
    simp [draws, listened]
  have first (record : MessageRecord) : (db.set message.firstKey record).countKeys (under recipient) =
      db.countKeys (under recipient) + if under recipient message.firstKey then 1 else 0 := by
    by_cases inside : under recipient message.firstKey = true
    · exact OrderedMap.countKeys_set_fresh _ record (ledger.unused apart drawn.1 inside)
    · rw [OrderedMap.countKeys_set_other db record (Bool.not_eq_true _ ▸ inside), if_neg inside]
      rfl
  rw [Heard.records, putAll_cons, putAll_cons, Heard.adds, ← Nat.add_assoc, ← first]
  -- A message may write one key twice, and then counts once.
  by_cases same : message.secondKey = message.firstKey
  · have held : (db.set message.firstKey (message.record message.draw event.2)).get
        message.secondKey ≠ none := by
      simp [same]
    rw [if_neg (fun both => both.1 same)]
    exact OrderedMap.countKeys_set_held _ _ held
  · by_cases inside : under recipient message.secondKey = true
    · have unused : (db.set message.firstKey (message.record message.draw event.2)).get
          message.secondKey = none := by
        rw [OrderedMap.get_set_of_ne _ _ same]
        exact ledger.unused apart drawn.2 inside
      rw [if_pos ⟨same, inside⟩]
      rw [putAll, List.foldl_nil, OrderedMap.countKeys_set_fresh _ _ unused, if_pos inside, first]
    · rw [if_neg (fun both => inside both.2)]
      exact OrderedMap.countKeys_set_other _ _ (Bool.not_eq_true _ ▸ inside)

theorem get_records (message : Heard) (now : Moment) (db : Database) (key : String) :
    (putAll (message.records now) db).get key =
      if key = message.secondKey then some (message.record message.replication.draw now)
      else if key = message.firstKey then some (message.record message.draw now)
      else db.get key := by
  rw [Heard.records, putAll_cons, putAll_cons, putAll, List.foldl_nil, OrderedMap.get_set,
    OrderedMap.get_set]

theorem Ledger.hear (ledger : Ledger recipient past db) {event : Event × Moment}
    {message : Heard} (listened : heard event.1 = some message)
    (apart : ∀ earlier ∈ past, ∀ first ∈ draws earlier.1, ∀ second ∈ draws event.1,
      first.text ≠ second.text) :
    Ledger recipient (past ++ [event]) (putAll (message.records event.2) db) where
  count := by
    have own : adds recipient event = message.adds recipient := by simp [adds, listened]
    rw [ledger.count_hear listened apart, ledger.count]
    simp [own]
  source := by
    intro key record found inside
    rw [get_records] at found
    split at found
    next second =>
      cases Option.some.inj found
      exact ⟨event, by simp, message, listened, by simp [Heard.records, second]⟩
    next =>
      split at found
      next first =>
        cases Option.some.inj found
        exact ⟨event, by simp, message, listened, by simp [Heard.records, first]⟩
      next =>
        obtain ⟨earlier, member, rest⟩ := ledger.source key record found inside
        exact ⟨earlier, List.mem_append_left _ member, rest⟩

theorem Ledger.step {relay : Relay} (ledger : Ledger recipient past relay.db)
    {event : Event × Moment} (keepsOff : KeepsOff (P := P) recipient event.2 event.1)
    (apart : ∀ earlier ∈ past, ∀ first ∈ draws earlier.1, ∀ second ∈ draws event.1,
      first.text ≠ second.text)
    (unexpired : event.1 = .cleanup → ∀ earlier ∈ past,
      event.2.ms ≤ earlier.2.ms + MESSAGE_TTL_MS) :
    Ledger recipient (past ++ [event]) (RelayNode.step P none relay event.1 event.2).db := by
  obtain ⟨event, now⟩ := event
  cases event with
  | gossip data allowed draw coordinator =>
      obtain ⟨replication, rfl⟩ := Option.isSome_iff_exists.mp keepsOff
      rw [RelayNode.step, step_gossip, written_gossip]
      cases listened : heard (.gossip data allowed draw (some replication)) with
      | none => exact ledger.silent listened
      | some message => exact ledger.hear listened apart
  | storeRequest data draw =>
      rw [RelayNode.step, step_storeRequest]
      exact (ledger.silent rfl).putAll_other keepsOff
  | cleanup => exact (ledger.cleanup (unexpired rfl)).silent rfl
  | delete name messageId => exact (ledger.delete_other keepsOff).silent rfl

theorem Replicating.ledger {events : List (Event × Moment)}
    (replicating : Replicating (P := P) recipient events) {before after : List (Event × Moment)}
    (split : before ++ after = events) :
    Ledger recipient before (RelayNode.run P none RelayNode.start before).db := by
  induction before using List.reverseRecOn generalizing after with
  | nil => exact Ledger.start recipient
  | append_singleton earlier event ih =>
      have moved : earlier ++ event :: after = events := by simpa using split
      have known : ∀ other ∈ earlier ++ [event], other ∈ events := by
        intro other member
        rw [← split]
        exact List.mem_append_left _ member
      have own : event ∈ events := known event (by simp)
      have apart := replicating.fresh
      rw [← moved, List.pairwise_append] at apart
      rw [run, List.foldl_append]
      apply (ih moved).step (replicating.keepsOff event own)
      · exact fun other member => apart.2.2 other member event List.mem_cons_self
      · exact fun cleaning other member => replicating.unexpired other
          (known other (List.mem_append_left _ member)) event own cleaning

theorem Ledger.listed (ledger : Ledger recipient past db) (now : Moment)
    (unexpired : ∀ event ∈ past, now.ms ≤ event.2.ms + MESSAGE_TTL_MS) :
    ∃ messages, getMessages (.string recipient) now db = .ok messages ∧
      messages.length = (past.map (adds recipient)).sum := by
  have inRange : ∀ record ∈ rangeOf recipient db, ∃ key, db.get key = some record ∧
      under recipient key = true := by
    intro record member
    obtain ⟨entry, inside, rfl⟩ := List.mem_map.mp member
    obtain ⟨listed, own⟩ := List.mem_filter.mp inside
    exact ⟨entry.1, (OrderedMap.get_iff_mem _ _ _).mpr (List.mem_mergeSort.mp listed), own⟩
  have alive : ∀ record ∈ rangeOf recipient db, record.isExpired now = .ok false := by
    intro record member
    obtain ⟨key, found, own⟩ := inRange record member
    exact ledger.alive unexpired found own
  have sortable : Sortable (rangeOf recipient db) := by
    refine .inr fun record member => ?_
    obtain ⟨key, found, own⟩ := inRange record member
    obtain ⟨event, _, message, _, entry⟩ := ledger.source key record found own
    exact ⟨_, records_timestamp entry⟩
  obtain ⟨sorted, done, order⟩ := sortByTimestamp_ok sortable
  have size : (rangeOf recipient db).length = db.countKeys (under recipient) := by
    rw [rangeOf, List.length_map, ← List.countP_eq_length_filter, OrderedMap.countKeys,
      List.countP_map]
    exact (List.mergeSort_perm _ _).countP_eq _
  refine ⟨sorted, ?_, by rw [order.length_eq, size, ledger.count]⟩
  rw [getMessages, toText, ok_bind, unexpired_all alive, ok_bind, done]

/-- The message leaves one new record, under its recipient, and that record's id
    is in every request that went out to other nodes. -/
def LeavesOne (recipient : String) (before after : Relay) : Prop :=
  ∃ messageId, (∀ key, before.db.get key = none ∧ after.db.get key ≠ none ↔
      key = recipient ++ ":" ++ messageId) ∧
    ∃ replicas, after.sent = before.sent ++ replicas ∧ ∀ replica ∈ replicas, ∃ record,
      replica.2.field "record" = some record ∧ record.field "id" = some (.string messageId)

/-- One record for each message of the recipient's: after each of them, and counted
    at any point of the run as long as none has expired. -/
structure OneRecordEach (recipient : String) (events : List (Event × Moment)) : Prop where
  oneNew : ∀ before event after, before ++ event :: after = events →
    heardFor recipient event = true → LeavesOne recipient
      (RelayNode.run P none RelayNode.start before)
      (RelayNode.run P none RelayNode.start (before ++ [event]))
  count : ∀ before after, before ++ after = events → ∀ now : Moment,
    (∀ event ∈ before, now.ms ≤ event.2.ms + MESSAGE_TTL_MS) → ∃ messages,
      getMessages (.string recipient) now (RelayNode.run P none RelayNode.start before).db =
          .ok messages ∧
        messages.length = before.countP (heardFor recipient)

theorem Ledger.leaves_one {relay : Relay} (ledger : Ledger recipient past relay.db)
    {event : Event × Moment} {message : Heard} (listened : heard event.1 = some message)
    (apart : ∀ earlier ∈ past, ∀ first ∈ draws earlier.1, ∀ second ∈ draws event.1,
      first.text ≠ second.text)
    (own : message.text = recipient) (oneKey : message.OneKey recipient) :
    LeavesOne recipient relay (RelayNode.step P none relay event.1 event.2) := by
  obtain ⟨event, now⟩ := event
  have sameDraw : message.replication.draw.text = message.draw.text := by
    simpa [Heard.OneKey, own] using oneKey
  have sameKey : message.secondKey = message.firstKey := by
    rw [Heard.secondKey, Heard.firstKey, sameDraw]
  have drawn : message.draw ∈ draws event := by simp [draws, listened]
  have unused : relay.db.get message.firstKey = none := by
    apply ledger.unused apart drawn
    rw [own]
    exact under_own _ _
  cases event with
  | gossip data allowed draw coordinator =>
      cases coordinator with
      | none => cases listened
      | some replication =>
          refine ⟨message.draw.text, fun key => ?_, _,
            gossip_sent data allowed draw replication now relay listened, ?_⟩
          · rw [← own, RelayNode.step, step_gossip, written_gossip, listened]
            simp only [get_records, sameKey]
            -- The only key that was empty before and is not now is the one of the message.
            constructor
            · rintro ⟨absent, present⟩
              split at present
              next same => exact same
              next => exact absurd absent present
            · rintro rfl
              exact ⟨unused, by simp [Heard.firstKey]⟩
          · intro replica member
            obtain ⟨peerId, _, rfl⟩ := List.mem_map.mp member
            refine ⟨_, rfl, ?_⟩
            rw [toJSON_id, Heard.record, newRecord_id, sameDraw]
  | storeRequest data draw => cases listened
  | cleanup => cases listened
  | delete name messageId => cases listened

theorem adds_heard {event : Event × Moment} :
    adds recipient event = (if heardFor recipient event = true then 1 else 0) ↔
      ∀ message, heard event.1 = some message → message.OneKey recipient := by
  cases listened : heard event.1 with
  | none => simp [adds, heardFor, listened]
  | some message =>
      have counted := message.adds_iff recipient
      simpa [adds, heardFor, listened] using counted

theorem sum_adds {events : List (Event × Moment)}
    (each : ∀ event ∈ events,
      adds recipient event = if heardFor recipient event = true then 1 else 0) :
    (events.map (adds recipient)).sum = events.countP (heardFor recipient) := by
  induction events with
  | nil => rfl
  | cons event rest ih =>
      rw [List.map_cons, List.sum_cons, List.countP_cons, each event List.mem_cons_self,
        ih fun other member => each other (List.mem_cons_of_mem _ member), Nat.add_comm]

theorem OneRecordEach.adds_one {events : List (Event × Moment)}
    (oneEach : OneRecordEach (P := P) recipient events)
    (replicating : Replicating (P := P) recipient events) (event : Event × Moment)
    (member : event ∈ events) :
    adds recipient event = if heardFor recipient event = true then 1 else 0 := by
  have counts (before after : List (Event × Moment)) (split : before ++ after = events) :
      (before.map (adds recipient)).sum = before.countP (heardFor recipient) := by
    have early : ∀ event ∈ before, 1 ≤ event.2.ms + MESSAGE_TTL_MS :=
      fun event _ => Nat.le_add_right_of_le event.2.positive
    obtain ⟨messages, got, size⟩ := oneEach.count before after split ⟨1, Nat.one_pos⟩ early
    obtain ⟨others, gotToo, sum⟩ := (replicating.ledger split).listed ⟨1, Nat.one_pos⟩ early
    cases got.symm.trans gotToo
    exact sum.symm.trans size
  obtain ⟨before, after, rfl⟩ := List.append_of_mem member
  have earlier := counts before (event :: after) rfl
  have later := counts (before ++ [event]) after (by simp)
  rw [List.map_append, List.sum_append, List.countP_append, earlier, List.countP_singleton] at later
  simpa using Nat.add_left_cancel later

theorem one_record_each_iff (recipient : String) (events : List (Event × Moment))
    (replicating : Replicating (P := P) recipient events) :
    OneRecordEach (P := P) recipient events ↔
      ∀ event ∈ events, ∀ message, heard event.1 = some message → message.OneKey recipient := by
  constructor
  · intro oneEach event member
    exact adds_heard.mp (oneEach.adds_one replicating event member)
  · intro oneKey
    constructor
    · intro before event after split own
      have member : event ∈ events := by simp [← split]
      obtain ⟨message, listened, text⟩ : ∃ message, heard event.1 = some message ∧
          message.text = recipient := by
        cases listened : heard event.1 with
        | none => simp [heardFor, listened] at own
        | some message => exact ⟨message, rfl, by simpa [heardFor, listened] using own⟩
      have apart := replicating.fresh
      rw [← split, List.pairwise_append] at apart
      rw [run, run, List.foldl_append]
      exact (replicating.ledger split).leaves_one listened
        (fun other earlier => apart.2.2 other earlier event List.mem_cons_self) text
        (oneKey event member message listened)
    · intro before after split now unexpired
      obtain ⟨messages, got, size⟩ := (replicating.ledger split).listed now unexpired
      refine ⟨messages, got, size.trans (sum_adds fun event member => adds_heard.mpr ?_)⟩
      apply oneKey event
      rw [← split]
      exact List.mem_append_left _ member

end Run

section Sample

def mailTo (recipient : String) : Bytes :=
  utf8Encode (stringify (.object [("to", .string recipient)]))

def mail : Bytes := mailTo "alice"

def drawOf (byte : UInt8) : RandomId := ⟨List.replicate 16 byte, List.length_replicate⟩

theorem mailTo_key {recipient : String} (named : recipient ≠ "") :
    acceptedKey (mailTo recipient) true = .ok (some (.string recipient)) := by
  have canonical : Canonical (.object [("to", .string recipient)]) :=
    canonical_object ["to"] rfl (by decide) ⟨trivial, trivial⟩
  have kept : present (some (.string recipient)) = some (.string recipient) :=
    Option.filter_some_pos (by simp [truthy, named])
  rw [acceptedKey, mailTo, parse_transmitted canonical]
  change storageKey (.object [("to", .string recipient)]) = _
  have own : field "to" (.object [("to", .string recipient)]) = some (.string recipient) := rfl
  rw [storageKey, own, kept]
  rfl

/-- A message that is let in, with the ids that are drawn for its two records. -/
def gossipTo (recipient : String) (first second : UInt8) : Event :=
  .gossip (mailTo recipient) true (drawOf first) (some ⟨drawOf second, ["peer"]⟩)

theorem gossipTo_heard {recipient : String} (named : recipient ≠ "") (first second : UInt8) :
    heard (gossipTo recipient first second) = some ⟨.string recipient, recipient,
      mailTo recipient, drawOf first, ⟨drawOf second, ["peer"]⟩⟩ := by
  rw [gossipTo]
  delta heard
  dsimp only
  rw [mailTo_key named]
  rfl

theorem gossipTo_draws {recipient : String} (named : recipient ≠ "") (first second : UInt8) :
    draws (gossipTo recipient first second) = [drawOf first, drawOf second] := by
  rw [draws, gossipTo_heard named]

/-- Two messages for alice, whose ids the coordinator draws again, and one for bob. -/
def heardThrice : List (Event × Moment) :=
  [(gossipTo "alice" 0 0, ⟨1, Nat.one_pos⟩), (gossipTo "bob" 1 2, ⟨2, Nat.two_pos⟩),
    (gossipTo "alice" 3 3, ⟨3, Nat.succ_pos 2⟩)]

theorem repeated_draws_leave_one :
    OneRecordEach (P := samplePackages) "alice" heardThrice := by
  have replicating : Replicating (P := samplePackages) "alice" heardThrice := by
    constructor
    · simp [heardThrice, gossipTo, KeepsOff]
    · have alice := gossipTo_draws (show "alice" ≠ "" by decide)
      have bob := gossipTo_draws (show "bob" ≠ "" by decide)
      simp only [heardThrice, List.pairwise_cons, List.forall_mem_cons, List.not_mem_nil,
        false_implies, implies_true, List.Pairwise.nil, and_true, alice, bob]
      decide
    · simp [heardThrice, gossipTo]
  apply (one_record_each_iff "alice" _ replicating).mpr
  intro event member message listened
  simp only [heardThrice, List.mem_cons, List.not_mem_nil, or_false] at member
  rcases member with rfl | rfl | rfl
  · cases (gossipTo_heard (by decide) 0 0).symm.trans listened
    rfl
  · cases (gossipTo_heard (by decide) 1 2).symm.trans listened
    exact ⟨by decide, by decide⟩
  · cases (gossipTo_heard (by decide) 3 3).symm.trans listened
    rfl

/-- One message for alice, of which the coordinator stores its own record. -/
def heardOnce : List (Event × Moment) := [(gossipTo "alice" 0 1, ⟨1, Nat.one_pos⟩)]

/-- With an id of its own, the coordinator's record is a second one. -/
theorem heard_once_stored_twice : ¬ ∀ (recipient : String) (events : List (Event × Moment)),
    Replicating (P := samplePackages) recipient events →
      OneRecordEach (P := samplePackages) recipient events := by
  intro claimed
  have replicating : Replicating (P := samplePackages) "alice" heardOnce := by
    constructor
    · simp [heardOnce, gossipTo, KeepsOff]
    · exact List.pairwise_singleton _ _
    · simp [heardOnce, gossipTo]
  have oneEach := claimed "alice" _ replicating
  have oneKey := adds_heard.mp (oneEach.adds_one replicating _ (List.mem_singleton_self _)) _
    (gossipTo_heard (by decide) 0 1)
  have same : (drawOf 1).text = (drawOf 0).text := by simpa [Heard.OneKey] using oneKey
  exact absurd same (by decide)

end Sample

end Chainmail.RelayNode
