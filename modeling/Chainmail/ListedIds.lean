import Chainmail.InboxListing
import Chainmail.Mailboxes
import Chainmail.UserActions

/-!
The ids that listings give to messages. A listing spreads the stored value behind the id it
was stored under, so an `id` among the value's own properties is what the user sees.
-/

namespace Chainmail.ListedIds

open Json MessagesService

/-- `{ id, ...value }` -/
def listedAs (id value : Json) : Json := .object (spread [("id", id)] value)

/-- The id among the properties that a value is spread into. -/
def ownId (value : Json) : Option Json := lookup "id" (spread [] value)

/-- A value without an id of its own, or with this one. -/
def Fits (id value : Json) : Prop := ∀ own, ownId value = some own → own = id

section Spreading
variable {name : String} {fields : List (String × Json)}

theorem lookup_spread (name : String) (fields : List (String × Json)) (value : Json) :
    lookup name (spread fields value) =
      (lookup name (spread [] value)).or (lookup name fields) := by
  have folded (entries : List (String × Json)) : ∀ first second : List (String × Json),
      lookup name first = (lookup name second).or (lookup name fields) →
        lookup name (entries.foldl (fun built entry => setField entry.1 entry.2 built) first) =
          (lookup name (entries.foldl (fun built entry => setField entry.1 entry.2 built)
            second)).or (lookup name fields) := by
    induction entries with
    | nil => exact fun first second same => same
    | cons entry rest ih =>
        intro first second same
        refine ih _ _ ?_
        rw [lookup_setField, lookup_setField]
        by_cases own : entry.1 = name
        · simp [own]
        · simpa [own] using same
  exact folded (entriesOf value) fields [] rfl

theorem spread_once (plain : arrayIndex name = none) (value : Json) :
    ((spread [] value).map Prod.fst).count name ≤ 1 := by
  have folded (entries : List (String × Json)) : ∀ built : List (String × Json),
      (built.map Prod.fst).count name ≤ 1 →
        ((entries.foldl (fun built entry => setField entry.1 entry.2 built) built).map
          Prod.fst).count name ≤ 1 := by
    induction entries with
    | nil => exact fun built once => once
    | cons entry rest ih =>
        intro built once
        refine ih _ ?_
        dsimp only
        by_cases own : entry.1 = name
        · rw [own]
          exact count_setField_self plain _ once
        · rw [count_setField_ne own]
          exact once
  exact folded (entriesOf value) [] (Nat.zero_le 1)

/-- Spreading an object that has a name once keeps what it has under it. -/
theorem lookup_spread_object (once : (fields.map Prod.fst).count name ≤ 1) :
    lookup name (spread [] (.object fields)) = lookup name fields := by
  have folded : ∀ built : List (String × Json),
      lookup name (fields.foldl (fun built entry => setField entry.1 entry.2 built) built) =
        (lookup name fields).or (lookup name built) := by
    induction fields with
    | nil => exact fun built => rfl
    | cons entry rest ih =>
        intro built
        rw [List.foldl_cons, lookup]
        by_cases own : entry.1 = name
        · have absent : (rest.map Prod.fst).count name = 0 := by
            rw [List.map_cons, own, List.count_cons_self] at once
            omega
          have missing : lookup name rest = none := by
            have fresh := List.count_eq_zero.mp absent
            simpa [lookup] using lookup_append_of_absent [] fresh
          rw [ih (by omega), missing, lookup_setField, if_pos own, if_pos own]
          rfl
        · have later : (rest.map Prod.fst).count name ≤ 1 := by
            rwa [List.map_cons, List.count_cons_of_ne own] at once
          rw [ih later, lookup_setField, if_neg own, if_neg own]
  have whole := folded []
  rwa [lookup, Option.or_none] at whole

end Spreading

theorem listedAs_id (id value : Json) :
    (listedAs id value).field "id" = some ((ownId value).getD id) := by
  rw [listedAs, field, lookup_spread, ownId]
  cases lookup "id" (spread [] value) <;> rfl

theorem listedAs_id_iff (id value : Json) :
    (listedAs id value).field "id" = some id ↔ Fits id value := by
  rw [listedAs_id, Fits]
  cases ownId value <;> simp

section Shelves
variable {messages sorted : List Json} {entries : List (String × Json)}

theorem sortNewestFirst_perm (done : P2PNodeService.sortNewestFirst messages = .ok sorted) :
    sorted.Perm messages := by
  rw [P2PNodeService.sortNewestFirst] at done
  split at done
  · cases done
    exact List.Perm.refl _
  · obtain ⟨timed, read, rest⟩ := bind_ok_iff.mp done
    cases rest
    have same : timed.map Prod.snd = messages := by
      refine mapM_ok_back (fun message pair made => ?_) read
      cases given : message.field "timestamp" with
      | none =>
          rw [given] at made
          cases made
          rfl
      | some value =>
          rw [given] at made
          obtain ⟨timestamp, _, paired⟩ := bind_ok_iff.mp made
          cases paired
          rfl
    exact same ▸ (List.mergeSort_perm _ _).map Prod.snd

/-- Messages are sorted when all times that they have are numbers, or can be made ones. -/
theorem sortNewestFirst_ok (timed : ∀ message ∈ messages, ∀ value,
    message.field "timestamp" = some value → ∃ time, toNumber value = .ok time) :
    ∃ sorted, P2PNodeService.sortNewestFirst messages = .ok sorted := by
  rw [P2PNodeService.sortNewestFirst]
  split
  · exact ⟨messages, rfl⟩
  · have sorts {convert : Json → Except Failure (JsNumber × Json)}
        (order : List (JsNumber × Json) → List Json)
        (each : ∀ message ∈ messages, ∃ pair, convert message = .ok pair) :
        ∃ sorted, (messages.mapM convert >>= fun timed => pure (order timed)) = .ok sorted := by
      obtain ⟨timed, read⟩ := mapM_ok_exists each
      exact ⟨order timed, bind_ok_iff.mpr ⟨timed, read, rfl⟩⟩
    refine sorts _ fun message member => ?_
    cases given : message.field "timestamp" with
    | none => exact ⟨_, rfl⟩
    | some value =>
        obtain ⟨time, known⟩ := timed message member value given
        exact ⟨(time, message), bind_ok_iff.mpr ⟨time, known, rfl⟩⟩

/-- What a listing shows of values that are stored under ids. -/
def shelf (entries : List (String × Json)) : List Json :=
  entries.map fun entry => listedAs (.string entry.1) entry.2

/-- Where every value fits its id, no two messages have one id. -/
theorem shelf_distinct (unique : (entries.map Prod.fst).Nodup)
    (fits : ∀ entry ∈ entries, Fits (.string entry.1) entry.2) :
    ((shelf entries).map (field "id")).Nodup := by
  have named : (shelf entries).map (field "id") =
      (entries.map Prod.fst).map fun id => some (Json.string id) := by
    rw [shelf, List.map_map, List.map_map]
    refine List.map_congr_left fun entry member => ?_
    exact (listedAs_id_iff _ _).mpr (fits entry member)
  rw [named]
  refine unique.map ?_
  intro first second same
  simpa using same

end Shelves

end Chainmail.ListedIds

namespace Chainmail.DMailNode

open Json MessagesService ListedIds

variable (P : Packages)

/-- What the database has in the range of the inbox, by the order of the keys. -/
def inboxEntries (node : Node) : List (String × Json) :=
  (ordered Prod.fst node.inbox.entries).map fun entry => (entry.1, entry.2.value)

/-- Fetches from the peers that are connected, and lists what is in the database then. -/
def getInbox (node : Node) (answers : List PeerAnswer) (now : Nat) :
    Outcome Node Failure (List Json) :=
  let node := fetchFromAllPeers P node answers now
  ⟨P2PNodeService.sortNewestFirst (shelf (inboxEntries node)), node⟩

/-- The message is what an entry is listed as. -/
def Lists (node : Node) (message : Json) (key : String) (entry : InboxEntry) : Prop :=
  node.inbox.get key = some entry ∧ message = listedAs (.string key) entry.value

/-- Every listed message has the key of its entry for an id, no other has that id, and what
    is done to the id is done to that entry. -/
structure Usable (node : Node) (messages : List Json) : Prop where
  distinct : (messages.map (field "id")).Nodup
  named : ∀ message ∈ messages, ∀ key entry, Lists node message key entry →
    message.field "id" = some (.string key)
  acts : ∀ message ∈ messages, ∀ key entry, Lists node message key entry →
    ∃ id, spliced (message.field "id") = .ok id ∧ getMessage node id = some entry ∧
      markAsRead node id = putMessage node key { entry with read := true } ∧
      deleteMessage node id = { node with inbox := node.inbox.delete key }

/-- No envelope in the inbox has an `id` of its own, but the key it is under. -/
def Unforged (node : Node) : Prop :=
  ∀ key entry, node.inbox.get key = some entry → Fits (.string key) entry.envelope

section Listing
variable {P} {node : Node} {messages : List Json} {key : String} {entry : InboxEntry}

/-- What is stored with an envelope is no id. -/
theorem ownId_value (entry : InboxEntry) : ownId entry.value = ownId entry.envelope := by
  obtain ⟨envelope, count, receivedAt, read⟩ := entry
  have plain : arrayIndex "id" = none := by decide
  have once := spread_once plain envelope
  rw [ownId, ownId, InboxEntry.value]
  cases count with
  | none =>
      rw [lookup_spread_object]
      · simp [lookup_setField]
      · rw [count_setField_ne (by decide), count_setField_ne (by decide)]
        exact once
  | some count =>
      rw [lookup_spread_object]
      · simp [lookup_setField]
      · rw [count_setField_ne (by decide), count_setField_ne (by decide),
          count_setField_ne (by decide)]
        exact once

theorem mem_inbox (done : P2PNodeService.sortNewestFirst (shelf (inboxEntries node)) = .ok messages)
    (message : Json) : message ∈ messages ↔ ∃ key entry, Lists node message key entry := by
  rw [(sortNewestFirst_perm done).mem_iff, shelf, inboxEntries, List.map_map, List.mem_map]
  simp only [Function.comp_apply, (ordered_perm _).mem_iff, Prod.exists, Lists,
    OrderedMap.get_iff_mem, eq_comm (a := message)]

theorem inbox_usable_iff
    (done : P2PNodeService.sortNewestFirst (shelf (inboxEntries node)) = .ok messages) :
    Usable node messages ↔ Unforged node := by
  have listed := mem_inbox done
  constructor
  · intro usable key entry held
    have inside := (listed _).mpr ⟨key, entry, held, rfl⟩
    have named := usable.named _ inside key entry ⟨held, rfl⟩
    rwa [listedAs_id_iff, Fits, ownId_value] at named
  · intro unforged
    have fits (key : String) (entry : InboxEntry) (held : node.inbox.get key = some entry) :
        Fits (.string key) entry.value := by
      rw [Fits, ownId_value]
      exact unforged key entry held
    have named (message : Json) (key : String) (entry : InboxEntry)
        (lists : Lists node message key entry) : message.field "id" = some (.string key) := by
      rw [lists.2]
      exact (listedAs_id_iff _ _).mpr (fits key entry lists.1)
    refine ⟨?_, fun message _ => named message, fun message _ key entry lists => ?_⟩
    · have unique : ((inboxEntries node).map Prod.fst).Nodup := by
        rw [inboxEntries, List.map_map]
        exact ((ordered_perm node.inbox.entries).map Prod.fst).nodup_iff.mpr node.inbox.unique
      refine ((sortNewestFirst_perm done).map _).nodup_iff.mpr (shelf_distinct unique ?_)
      intro stored member
      obtain ⟨⟨key, entry⟩, inside, rfl⟩ := List.mem_map.mp member
      exact fits key entry ((OrderedMap.get_iff_mem _ _ _).mpr ((ordered_perm _).mem_iff.mp inside))
    · refine ⟨key, ?_, lists.1, ?_, rfl⟩
      · rw [named message key entry lists]
        rfl
      · rw [markAsRead, getMessage, lists.1]

end Listing

end Chainmail.DMailNode

namespace Chainmail.MessagesService

open Json SharedStorage ListedIds
open DhtStorage (Moment RandomId MessageRecord)

variable (P : Packages)

namespace P2PNodeService

/-- The message is what a stored value is listed as. -/
def Lists (node : Node) (message : Json) (id : String) (value : Json) : Prop :=
  getMessage id node = some value ∧ message = listedAs (.string id) value

structure Usable (node : Node) (messages : List Json) : Prop where
  distinct : (messages.map (field "id")).Nodup
  named : ∀ message ∈ messages, ∀ id value, Lists node message id value →
    message.field "id" = some (.string id)
  acts : ∀ message ∈ messages, ∀ id value, Lists node message id value →
    ∃ own, spliced (message.field "id") = .ok own ∧ getMessage own node = some value ∧
      markAsRead own node = markAsRead id node ∧ deleteMessage own node = deleteMessage id node

def Unforged (node : Node) : Prop :=
  ∀ id value, getMessage id node = some value → Fits (.string id) value

/-- What the database has in the range of the inbox, by the order of the keys. -/
def inboxEntries (node : Node) : List (String × Json) :=
  let entries : List (String × Json) := match node.db with
    | some db => (ordered Prod.fst db.entries).filter fun entry =>
        "inbox:".toList.isPrefixOf entry.1.toList
    | none => []
  entries.map fun entry => (String.ofList (entry.1.toList.drop 6), entry.2)

section Listing
variable {fetched : List (String × Json)} {now : Moment} {node : Node} {messages : List Json}

theorem getInbox_shelf (fetched : List (String × Json)) (now : Moment) (node : Node) :
    (getInbox fetched now node).result =
      sortNewestFirst (shelf (inboxEntries (getInbox fetched now node).state)) := by
  rw [getInbox, shelf, inboxEntries, List.map_map]
  rfl

theorem inbox_key {key : String} (inside : "inbox:".toList <+: key.toList) :
    "inbox:" ++ String.ofList (key.toList.drop 6) = key := by
  obtain ⟨rest, letters⟩ := inside
  apply String.toList_injective
  simp [← letters]

theorem mem_inboxEntries (node : Node) (id : String) (value : Json) :
    (id, value) ∈ inboxEntries node ↔ getMessage id node = some value := by
  rw [inboxEntries, getMessage]
  cases node.db with
  | none => simp
  | some db =>
      simp only [List.mem_map, List.mem_filter, (ordered_perm _).mem_iff, Prod.exists,
        List.isPrefixOf_iff_prefix, Prod.mk.injEq]
      constructor
      · rintro ⟨key, found, ⟨held, inside⟩, rfl, rfl⟩
        rw [inbox_key inside]
        exact (OrderedMap.get_iff_mem _ _ _).mpr held
      · intro held
        have letters : ("inbox:" ++ id).toList = "inbox:".toList ++ id.toList :=
          String.toList_append ..
        refine ⟨"inbox:" ++ id, value, ⟨(OrderedMap.get_iff_mem _ _ _).mp held, ?_⟩, ?_, rfl⟩
        · exact ⟨id.toList, letters.symm⟩
        · apply String.toList_injective
          rw [String.toList_ofList, letters]
          rfl

theorem inboxEntries_unique (node : Node) : ((inboxEntries node).map Prod.fst).Nodup := by
  rw [inboxEntries]
  cases node.db with
  | none => exact List.nodup_nil
  | some db =>
      have keys : ((ordered Prod.fst db.entries).map Prod.fst).Nodup :=
        ((ordered_perm db.entries).map Prod.fst).nodup_iff.mpr db.unique
      rw [List.map_map, List.Nodup, List.pairwise_map]
      rw [List.Nodup, List.pairwise_map] at keys
      refine (keys.sublist List.filter_sublist).imp_of_mem fun {first second} left right other => ?_
      -- Behind the same start, keys that differ leave texts that differ.
      intro same
      have start := List.isPrefixOf_iff_prefix.mp (List.mem_filter.mp left).2
      have also := List.isPrefixOf_iff_prefix.mp (List.mem_filter.mp right).2
      exact other (((inbox_key start).symm.trans (congrArg _ same)).trans (inbox_key also))

theorem node_usable_iff (done : sortNewestFirst (shelf (inboxEntries node)) = .ok messages) :
    Usable node messages ↔ Unforged node := by
  have order := sortNewestFirst_perm done
  constructor
  · intro usable id value held
    have inside : listedAs (.string id) value ∈ messages :=
      order.mem_iff.mpr (List.mem_map.mpr ⟨_, (mem_inboxEntries node id value).mpr held, rfl⟩)
    exact (listedAs_id_iff _ _).mp (usable.named _ inside id value ⟨held, rfl⟩)
  · intro unforged
    have named (message : Json) (id : String) (value : Json) (lists : Lists node message id value) :
        message.field "id" = some (.string id) := by
      rw [lists.2]
      exact (listedAs_id_iff _ _).mpr (unforged id value lists.1)
    refine ⟨?_, fun message _ => named message, fun message _ id value lists => ?_⟩
    · refine (order.map _).nodup_iff.mpr (shelf_distinct (inboxEntries_unique node) ?_)
      rintro ⟨id, value⟩ member
      exact unforged id value ((mem_inboxEntries node id value).mp member)
    · refine ⟨id, ?_, lists.1, rfl, rfl⟩
      rw [named message id value lists]
      rfl

end Listing

end P2PNodeService

/-- The envelope in a record. -/
def envelopeOf (record : MessageRecord) : Except Failure Json := do
  let bytes ← bufferFrom P record.data
  parseOrThrow (bufferToString bytes)

/-- The message is what a record is listed as in the inbox of an address. -/
structure Lists (address : String) (now : Moment) (service : Service) (message : Json)
    (key : String) (record : MessageRecord) : Prop where
  held : service.dhtStorage.get key = some (.record record)
  inside : (address ++ ":").toList <+: key.toList
  alive : record.isExpired now = .ok false
  shown : storedMessage P false record = .ok message

/-- Every listed message has the id of its record and no other has it. Asked for that id, the
    service returns the message, deletes the record, and marks it as read. -/
structure Usable (address : String) (now : Moment) (service : Service) (messages : List Json) :
    Prop where
  distinct : (messages.map (field "id")).Nodup
  named : ∀ message ∈ messages, ∀ key record, Lists P address now service message key record →
    message.field "id" = some record.id
  acts : ∀ message ∈ messages, ∀ key record, Lists P address now service message key record →
    ∃ id, spliced (message.field "id") = .ok id ∧
      (∀ draw, getMessage P id draw now service = some message) ∧
      deleteMessage id service = { service with dhtStorage := service.dhtStorage.delete key } ∧
      markAsRead id now service =
        { service with dhtStorage := service.dhtStorage.set ("read:" ++ key) (.mark now) }

/-- A record is under the address of the current identity and its id. -/
def UnderCurrent (service : Service) (key : String) (record : MessageRecord) : Prop :=
  ∃ identity id, service.currentIdentity = some identity ∧ toText record.id = .ok id ∧
    key = messageKey identity.address id

/-- The node is not running, and in the range of an address every record is under the current
    identity and its id, which its envelope does not replace. -/
def Unforged (address : String) (now : Moment) (service : Service) : Prop :=
  ∀ key record envelope, service.dhtStorage.get key = some (.record record) →
    (address ++ ":").toList <+: key.toList → record.isExpired now = .ok false →
      envelopeOf P record = .ok envelope →
        service.p2pNode.isStarted = false ∧ Fits record.id envelope ∧
          UnderCurrent service key record

section Listing
variable {P} {address : String} {draws : String → RandomId} {now : Moment} {service : Service}
  {messages : List Json} {message : Json} {key : String} {record : MessageRecord} {read : Bool}

theorem storedMessage_id (shown : storedMessage P read record = .ok message) :
    ∃ envelope, envelopeOf P record = .ok envelope ∧
      message.field "id" = some ((ownId envelope).getD record.id) := by
  obtain ⟨bytes, decoded, rest⟩ := bind_ok_iff.mp shown
  obtain ⟨envelope, parsed, made⟩ := bind_ok_iff.mp rest
  cases made
  refine ⟨envelope, bind_ok_iff.mpr ⟨bytes, decoded, parsed⟩, ?_⟩
  rw [field, lookup_setField, if_neg (by decide), lookup_setField, if_neg (by decide)]
  exact listedAs_id record.id envelope

theorem storedMessage_of_envelope {envelope : Json} (found : envelopeOf P record = .ok envelope)
    (read : Bool) : ∃ message, storedMessage P read record = .ok message := by
  obtain ⟨bytes, decoded, parsed⟩ := bind_ok_iff.mp found
  exact ⟨_, bind_ok_iff.mpr ⟨bytes, decoded, bind_ok_iff.mpr ⟨envelope, parsed, rfl⟩⟩⟩

/-- A mark is listed as no message. -/
theorem mark_unlisted (key : String) (timestamp : Moment) :
    ¬ storedMessage P read (asRead draws now (key, .mark timestamp)) = .ok message := by
  intro shown
  cases shown

/-- What is read for a list: the records of the range that have not expired, in some order. -/
theorem getMessages_live {recipient : String} {db : Database} {records : List MessageRecord}
    (found : getMessages recipient draws now db = .ok records) : ∃ live,
      DhtStorage.unexpired now ((startingWith (recipient ++ ":") db).map (asRead draws now)) =
        .ok live ∧ records.Perm live := by
  obtain ⟨live, alive, sorted⟩ := bind_ok_iff.mp found
  rw [unexpired_asRead] at alive
  exact ⟨live, alive, DhtStorage.sortByTimestamp_perm sorted⟩

theorem mem_mailbox (listed : getInboxForAddress P address draws now service = .ok messages)
    (message : Json) :
    message ∈ messages ↔ ∃ key record, Lists P address now service message key record := by
  obtain ⟨records, found, rest⟩ := bind_ok_iff.mp listed
  cases rest
  obtain ⟨live, alive, order⟩ := getMessages_live found
  simp only [List.mem_filterMap, order.mem_iff, DhtStorage.mem_unexpired alive, List.mem_map,
    Prod.exists, mem_startingWith]
  constructor
  · rintro ⟨record, ⟨⟨key, value, ⟨held, inside⟩, rfl⟩, living⟩, shown⟩
    have read := toOption_eq_some_iff.mp shown
    cases value with
    | record stored => exact ⟨key, stored, held, inside, living, read⟩
    | mark timestamp => exact absurd read (mark_unlisted key timestamp)
  · rintro ⟨key, record, lists⟩
    refine ⟨record, ⟨⟨key, .record record, ⟨lists.held, lists.inside⟩, rfl⟩, lists.alive⟩, ?_⟩
    rw [lists.shown]
    rfl

theorem Lists.id_of_unforged (unforged : Unforged P address now service)
    (lists : Lists P address now service message key record) :
    message.field "id" = some record.id ∧ service.p2pNode.isStarted = false ∧
      UnderCurrent service key record := by
  obtain ⟨envelope, found, named⟩ := storedMessage_id lists.shown
  obtain ⟨idle, fits, current⟩ :=
    unforged key record envelope lists.held lists.inside lists.alive found
  refine ⟨?_, idle, current⟩
  rw [named]
  cases own : ownId envelope with
  | none => rfl
  | some id => rw [Option.getD_some, fits id own]

/-- Two records that are both listed are listed under different ids. -/
def Apart (P : Packages) (now : Moment) (first second : MessageRecord) : Prop :=
  first.isExpired now = .ok false → second.isExpired now = .ok false →
    ∀ left right, storedMessage P false first = .ok left → storedMessage P false second = .ok right →
      left.field "id" ≠ right.field "id"

theorem Apart.symm {first second : MessageRecord} (apart : Apart P now first second) :
    Apart P now second first :=
  fun living also left right one two => (apart also living right left two one).symm

/-- Records that are listed under one id have one key. -/
theorem Unforged.key_eq (unforged : Unforged P address now service) {other : String}
    {next : MessageRecord} {left right : Json} (one : Lists P address now service left key record)
    (two : Lists P address now service right other next) (same : left.field "id" = right.field "id") :
    key = other := by
  obtain ⟨named, _, identity, id, current, text, rfl⟩ := one.id_of_unforged unforged
  obtain ⟨namedAlso, _, owner, idAlso, currentAlso, textAlso, rfl⟩ :=
    two.id_of_unforged unforged
  rw [named, namedAlso, Option.some.injEq] at same
  rw [same, textAlso, Except.ok.injEq] at text
  rw [currentAlso, Option.some.injEq] at current
  rw [text, current]

theorem Unforged.apart (unforged : Unforged P address now service) :
    ((startingWith (address ++ ":") service.dhtStorage).map (asRead draws now)).Pairwise
      (Apart P now) := by
  have keys : ((startingWith (address ++ ":") service.dhtStorage).map Prod.fst).Nodup :=
    (((ordered_perm service.dhtStorage.entries).map Prod.fst).nodup_iff.mpr
      service.dhtStorage.unique).sublist (List.filter_sublist.map Prod.fst)
  rw [List.Nodup, List.pairwise_map] at keys
  rw [List.pairwise_map]
  refine keys.imp_of_mem ?_
  rintro ⟨key, value⟩ ⟨other, found⟩ here there different living also left right first second same
  obtain ⟨held, inside⟩ := mem_startingWith.mp here
  obtain ⟨kept, within⟩ := mem_startingWith.mp there
  cases value with
  | mark timestamp => exact mark_unlisted key timestamp first
  | record record =>
      cases found with
      | mark timestamp => exact mark_unlisted other timestamp second
      | record next =>
          exact different (unforged.key_eq ⟨held, inside, living, first⟩
            ⟨kept, within, also, second⟩ same)

theorem mailbox_distinct (unforged : Unforged P address now service)
    (listed : getInboxForAddress P address draws now service = .ok messages) :
    (messages.map (field "id")).Nodup := by
  obtain ⟨records, found, rest⟩ := bind_ok_iff.mp listed
  cases rest
  obtain ⟨live, alive, order⟩ := getMessages_live found
  have apart : records.Pairwise (Apart P now) :=
    order.symm.pairwise (unforged.apart.sublist (DhtStorage.unexpired_sublist alive)) Apart.symm
  have living (record : MessageRecord) (member : record ∈ records) :
      record.isExpired now = .ok false :=
    ((DhtStorage.mem_unexpired alive record).mp (order.mem_iff.mp member)).2
  rw [List.Nodup, List.pairwise_map, List.pairwise_filterMap]
  refine apart.imp_of_mem fun {first second} here there apart left one right two => ?_
  exact apart (living first here) (living second there) left right (toOption_eq_some_iff.mp one)
    (toOption_eq_some_iff.mp two)

/-- A deletion that drops a value was made without a running node, under the current identity. -/
theorem deleteMessage_drops {id : String} {value : Value}
    (held : service.dhtStorage.get key = some value)
    (dropped : (deleteMessage id service).dhtStorage.get key = none) :
    service.p2pNode.isStarted = false ∧ ∃ identity, service.currentIdentity = some identity ∧
      key = messageKey identity.address id := by
  rw [deleteMessage] at dropped
  cases running : service.p2pNode.isStarted with
  | true =>
      rw [running, if_pos rfl, held] at dropped
      cases dropped
  | false =>
      rw [running, if_neg Bool.false_ne_true] at dropped
      cases current : service.currentIdentity with
      | none =>
          rw [current] at dropped
          cases held.symm.trans dropped
      | some identity =>
          refine ⟨rfl, identity, rfl, ?_⟩
          rw [current] at dropped
          -- A deletion of another key would leave this one.
          by_contra other
          cases held.symm.trans ((OrderedMap.get_delete_of_ne _ other).symm.trans dropped)

/-- What the service does with an id, while its node is not running. -/
theorem acts_of_current {identity : Identity} {id : String}
    (idle : service.p2pNode.isStarted = false) (current : service.currentIdentity = some identity)
    (lists : Lists P address now service message (messageKey identity.address id) record) :
    (∀ draw, getMessage P id draw now service = some message) ∧
      deleteMessage id service = { service with
        dhtStorage := service.dhtStorage.delete (messageKey identity.address id) } ∧
      markAsRead id now service = { service with
        dhtStorage := service.dhtStorage.set ("read:" ++ messageKey identity.address id)
          (.mark now) } := by
  refine ⟨fun draw => ?_, ?_, ?_⟩
  · simp [getMessage, idle, current, getMessage_record lists.held lists.alive draw, lists.shown,
      Except.toOption]
  · simp [deleteMessage, idle, current, SharedStorage.deleteMessage]
  · simp [markAsRead, current, markAsReadForAddress, idle, SharedStorage.markAsRead, readKey,
      messageKey, String.append_assoc]

theorem mailbox_usable_iff
    (listed : getInboxForAddress P address draws now service = .ok messages) :
    Usable P address now service messages ↔ Unforged P address now service := by
  constructor
  · intro usable key record envelope held inside alive found
    obtain ⟨message, shown⟩ := storedMessage_of_envelope found false
    have lists : Lists P address now service message key record := ⟨held, inside, alive, shown⟩
    have member := (mem_mailbox listed message).mpr ⟨key, record, lists⟩
    have named := usable.named message member key record lists
    obtain ⟨id, text, _, deleted, _⟩ := usable.acts message member key record lists
    have dropped : (deleteMessage id service).dhtStorage.get key = none := by
      rw [deleted]
      exact OrderedMap.get_delete_self _ _
    obtain ⟨idle, identity, current, rfl⟩ := deleteMessage_drops held dropped
    refine ⟨idle, ?_, identity, id, current, by rwa [named] at text, rfl⟩
    obtain ⟨other, again, own⟩ := storedMessage_id shown
    cases again.symm.trans found
    rw [own, Option.some.injEq] at named
    intro id forged
    rwa [forged] at named
  · intro unforged
    refine ⟨mailbox_distinct unforged listed, fun message _ key record lists =>
      (lists.id_of_unforged unforged).1, fun message _ key record lists => ?_⟩
    obtain ⟨named, idle, identity, id, current, text, rfl⟩ := lists.id_of_unforged unforged
    exact ⟨id, by rwa [named], acts_of_current idle current lists⟩

end Listing

end Chainmail.MessagesService

namespace Chainmail.ListedIds

open Json MessagesService
open DhtStorage (Moment RandomId)

/-- What a listing returns is usable exactly when no envelope that was stored has an `id` of its
    own, but the one it is stored under. Of the shared storage, also every listed record must be
    stored under the current identity and its own id, and the node must not be running. -/
theorem listed_ids_usable_iff (P : Packages) :
    (∀ (node : DMailNode.Node) (answers : List DMailNode.PeerAnswer) (now : Nat)
        (messages : List Json),
      (DMailNode.getInbox P node answers now).result = .ok messages →
        (DMailNode.Usable (DMailNode.getInbox P node answers now).state messages ↔
          DMailNode.Unforged (DMailNode.getInbox P node answers now).state)) ∧
    (∀ (service : Service) (address : String) (draws : String → RandomId) (now : Moment)
        (messages : List Json),
      getInboxForAddress P address draws now service = .ok messages →
        (MessagesService.Usable P address now service messages ↔
          MessagesService.Unforged P address now service)) ∧
    ∀ (node : P2PNodeService.Node) (fetched : List (String × Json)) (now : Moment)
        (messages : List Json),
      (P2PNodeService.getInbox fetched now node).result = .ok messages →
        (P2PNodeService.Usable (P2PNodeService.getInbox fetched now node).state messages ↔
          P2PNodeService.Unforged (P2PNodeService.getInbox fetched now node).state) := by
  refine ⟨fun node answers now messages listed => DMailNode.inbox_usable_iff listed,
    fun service address draws now messages listed => mailbox_usable_iff listed,
    fun node fetched now messages listed => ?_⟩
  rw [P2PNodeService.getInbox_shelf] at listed
  exact P2PNodeService.node_usable_iff listed

section Example

/-- An entry of the inbox, with an envelope that has these fields. -/
def filed (node : DMailNode.Node) (key : String) (fields : List (String × Json)) : DMailNode.Node :=
  DMailNode.storeMessage node key (.object fields) none 5

def plainInbox : DMailNode.Node := filed (DMailNode.create "bob") "one" []

/-- The second envelope has the key of the first for an `id`. -/
def forgedInbox : DMailNode.Node := filed plainInbox "two" [("id", .string "one")]

variable (node : DMailNode.Node) in
theorem untimed_listed (untimed : ∀ entry ∈ node.inbox.entries,
      (listedAs (.string entry.1) entry.2.value).field "timestamp" = none) :
    ∃ messages, (DMailNode.getInbox samplePackages node [] 6).result = .ok messages := by
  refine sortNewestFirst_ok fun message member value given => ?_
  rw [shelf, DMailNode.inboxEntries, List.map_map] at member
  obtain ⟨entry, inside, rfl⟩ := List.mem_map.mp member
  cases (untimed entry ((ordered_perm _).mem_iff.mp inside)).symm.trans given

def bobsRecord : DhtStorage.MessageRecord :=
  DhtStorage.newRecord (.string "bob") (encode (.object [])) RelayNode.sampleDraw
    RelayNode.sampleMoment

/-- `bob` is logged in, and has one message in the shared storage. -/
def bobsMailbox : Service where
  currentIdentity := some ⟨"bob", []⟩
  p2pNode := ⟨none, false, none, false⟩
  identityStore := ⟨OrderedMap.empty, fun _ => none⟩
  dhtStorage := OrderedMap.empty.set (SharedStorage.messageKey "bob" RelayNode.sampleDraw.text)
    (.record bobsRecord)

theorem bobsMailbox_get {key : String} {value : SharedStorage.Value}
    (held : bobsMailbox.dhtStorage.get key = some value) :
    key = SharedStorage.messageKey "bob" RelayNode.sampleDraw.text ∧ value = .record bobsRecord := by
  rw [bobsMailbox, OrderedMap.get_set] at held
  split at held
  next own => exact ⟨own, (Option.some.inj held).symm⟩
  · cases held

theorem bobsRecord_envelope : envelopeOf samplePackages bobsRecord = .ok (.object []) := by
  have canonical : Canonical (.object []) := canonical_object [] rfl (by decide) trivial
  rw [envelopeOf, bobsRecord, RelayNode.newRecord_data, encode, bufferFrom_toBase64, ok_bind,
    bufferToString_encode, parseOrThrow_stringify canonical]

theorem bobsMailbox_lists : ∃ messages, getInboxForAddress samplePackages "bob"
    (fun _ => RelayNode.sampleDraw) RelayNode.sampleMoment bobsMailbox = .ok messages ∧
      messages ≠ [] := by
  have alive : bobsRecord.isExpired RelayNode.sampleMoment = .ok false := by
    rw [bobsRecord, RelayNode.newRecord_expired]
    simp
  obtain ⟨messages, listed, members⟩ := @Mailboxes.messagesIn_holds samplePackages
    bobsMailbox "bob" false (fun _ => RelayNode.sampleDraw) RelayNode.sampleMoment
    fun key record held => by
      obtain ⟨_, same⟩ := bobsMailbox_get held
      cases same
      exact ⟨⟨false, alive⟩, _, RelayNode.newRecord_timestamp ..⟩
  obtain ⟨message, shown⟩ := storedMessage_of_envelope bobsRecord_envelope false
  refine ⟨messages, listed, List.ne_nil_of_mem ((members message).mpr ⟨_, bobsRecord,
    OrderedMap.get_set_self _ _ _, ?_, alive, shown⟩)⟩
  exact ⟨RelayNode.sampleDraw.text.toList, by simp [SharedStorage.messageKey]⟩

/-- In the inbox of a node, and in that of `bob`. -/
theorem plain_ids_usable :
    (∃ messages, (DMailNode.getInbox samplePackages plainInbox [] 6).result = .ok messages ∧
      DMailNode.Usable plainInbox messages) ∧
    ∃ messages, getInboxForAddress samplePackages "bob" (fun _ => RelayNode.sampleDraw)
        RelayNode.sampleMoment bobsMailbox = .ok messages ∧ messages ≠ [] ∧
      MessagesService.Usable samplePackages "bob" RelayNode.sampleMoment bobsMailbox messages := by
  constructor
  · obtain ⟨messages, listed⟩ := untimed_listed plainInbox (List.forall_mem_singleton.mpr rfl)
    refine ⟨messages, listed, ((listed_ids_usable_iff samplePackages).1 _ [] 6 _ listed).mpr ?_⟩
    intro key entry held own forged
    obtain ⟨rfl, rfl⟩ := List.mem_singleton.mp ((OrderedMap.get_iff_mem _ _ _).mp held)
    cases forged
  · obtain ⟨messages, listed, some⟩ := bobsMailbox_lists
    refine ⟨messages, listed, some,
      ((listed_ids_usable_iff samplePackages).2.1 _ _ _ _ _ listed).mpr ?_⟩
    intro key record envelope held _ _ found
    obtain ⟨rfl, same⟩ := bobsMailbox_get held
    cases same
    cases found.symm.trans bobsRecord_envelope
    refine ⟨rfl, fun own forged => ?_, ⟨"bob", []⟩, RelayNode.sampleDraw.text, rfl, ?_, rfl⟩
    · cases forged
    · rw [bobsRecord, RelayNode.newRecord_id]
      rfl

theorem forged_id_listed : ¬ ∀ (P : Packages) (node : DMailNode.Node)
    (answers : List DMailNode.PeerAnswer) (now : Nat) (messages : List Json),
    (DMailNode.getInbox P node answers now).result = .ok messages →
      DMailNode.Usable (DMailNode.getInbox P node answers now).state messages := by
  intro claimed
  obtain ⟨messages, listed⟩ := untimed_listed forgedInbox
    (List.forall_mem_cons.mpr ⟨rfl, List.forall_mem_singleton.mpr rfl⟩)
  have unforged := (DMailNode.inbox_usable_iff listed).mp (claimed _ _ _ _ _ listed)
  have same := unforged "two" _ rfl (.string "one") rfl
  simp at same

end Example

end Chainmail.ListedIds
