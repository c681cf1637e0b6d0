import Chainmail.JsText
import Chainmail.RelayExpiry

/-!
`handleFetchRequest` of `src/network/relay-node.js`, the fetch of older clients: what
is stored for an address is handed out, and deleted once the answer is sent. Other
events of the relay come between these steps.
-/

namespace Chainmail.LegacyFetch

open Json DhtStorage RelayNode

/-- What `getStoredMessages` makes of a record. -/
structure StoredMessage where
  key : String
  recipient : Option Json
  data : Option Json
  timestamp : Json
  expires : Json
  replicationCount : Json

def storedMessage (record : MessageRecord) : Except Failure StoredMessage := do
  let key ← messageKey record.recipient (some record.id)
  return ⟨key, record.recipient, record.data, record.timestamp, record.expires,
    record.replicationCount⟩

def getStoredMessages (recipient : Json) (now : Moment) (db : Database) :
    Except Failure (List StoredMessage) := do
  let records ← getMessages recipient now db
  records.mapM storedMessage

/-- `const [recipient, messageId] = key.split(':')`, as it is spliced into a key again. -/
def splitKey (key : String) : String × String :=
  match key.toList.splitOn ':' with
  | recipient :: messageId :: _ => (.ofList recipient, .ofList messageId)
  | [recipient] => (.ofList recipient, "undefined")
  | [] => ("undefined", "undefined")

def deleteStoredMessage (key : String) (db : Database) : Database :=
  deleteMessage (splitKey key).1 (splitKey key).2 db

/-- The key that `deleteStoredMessage` deletes. -/
def deletedKey (key : String) : String := (splitKey key).1 ++ ":" ++ (splitKey key).2

def StoredMessage.delivered (message : StoredMessage) : Json :=
  ofFields [("data", message.data), ("timestamp", some message.timestamp)]

def response (messages : List StoredMessage) : Json :=
  .object [("messages", .array (messages.map StoredMessage.delivered))]

def noAddress : Json := .object [("error", .string "No address provided")]

def fetchFailed : Json := .object [("error", .string "Fetch failed")]

/-- The handler of one request. It is done when no deletion is pending. -/
inductive Handler where
  | waiting
  | refused (reply : Json)
  | sending (messages : List StoredMessage)
  | deleting (messages pending : List StoredMessage)

namespace Handler

def messages : Handler → List StoredMessage
  | .sending messages | .deleting messages _ => messages
  | _ => []

def pending : Handler → List StoredMessage
  | .sending messages => messages
  | .deleting _ pending => pending
  | _ => []

/-- What was sent to the client. -/
def reply : Handler → Option Json
  | .refused reply => some reply
  | .deleting messages _ => some (response messages)
  | _ => none

end Handler

/-- The address of the request; a blank one counts as none. -/
def addressOf (data : Bytes) : Except Failure (Option Json) := do
  let request ← parseOrThrow (textDecode data)
  let address ← member "address" (some request)
  return present address

/-- The handler up to where it sends its answer. The first letters of the address are logged. -/
def handleFetchRequest (data : Bytes) (now : Moment) (db : Database) : Handler :=
  match addressOf data with
  | .error _ => .refused fetchFailed
  | .ok none => .refused noAddress
  | .ok (some address) =>
      match getStoredMessages address now db with
      | .error _ => .refused fetchFailed
      | .ok messages =>
          if canSlice (some address) then .sending messages else .refused fetchFailed

/-- The relay with the handler, what the handler has taken out of the store, and the
    keys that it has deleted. -/
structure Fetching where
  relay : Relay
  handler : Handler
  removed : List (String × MessageRecord)
  deleted : List String

inductive Event where
  | relay (event : RelayNode.Event)
  | fetch (data : Bytes)
  | sent
  | broken
  | deleteNext

section Run
variable (P : Packages) (signer : Option Signer)

def step (fetching : Fetching) (event : Event) (now : Moment) : Fetching :=
  match event, fetching.handler with
  | .relay event, _ => { fetching with relay := RelayNode.step P signer fetching.relay event now }
  | .fetch data, .waiting =>
      { fetching with handler := handleFetchRequest data now fetching.relay.db }
  | .sent, .sending messages => { fetching with handler := .deleting messages messages }
  | .broken, .sending _ => { fetching with handler := .refused fetchFailed }
  | .deleteNext, .deleting messages (message :: pending) =>
      let target := deletedKey message.key
      { relay.db := deleteStoredMessage message.key fetching.relay.db
        relay.sent := fetching.relay.sent
        handler := .deleting messages pending
        removed := fetching.removed ++
          (fetching.relay.db.get target).toList.map fun record => (target, record)
        deleted := fetching.deleted ++ [target] }
  | _, _ => fetching

/-- The last event comes first. -/
def replay : List (Event × Moment) → Fetching
  | [] => ⟨RelayNode.start, .waiting, [], []⟩
  | (event, now) :: earlier => step P signer (replay earlier) event now

/-- All that the handler took out of the store is in the response with the same data,
    and all that is in the response is deleted or still to be. -/
structure DeliversExactly (fetching : Fetching) : Prop where
  delivered : ∀ removal ∈ fetching.removed, ∃ message ∈ fetching.handler.messages,
    message.key = removal.1 ∧ message.delivered.field "data" = removal.2.data
  removes : ∀ message ∈ fetching.handler.messages,
    message ∈ fetching.handler.pending ∨ message.key ∈ fetching.deleted

/-- Neither the recipient nor the id has a colon of its own. -/
def Plain (key : String) : Prop := key.toList.count ':' = 1

/-- The record whose turn it is to be deleted has a plain key, and what is under it
    has the data that was read. -/
def Faithful (fetching : Fetching) (event : Event) : Prop :=
  match event, fetching.handler with
  | .deleteNext, .deleting _ (message :: _) =>
      Plain message.key ∧ ∀ record, fetching.relay.db.get message.key = some record →
        record.data = message.data
  | _, _ => True

/-- What is stored has plain keys, and never other data than what is there to be
    deleted under the same key. -/
def Undisturbed (fetching : Fetching) (event : Event) (now : Moment) : Prop :=
  match event with
  | .relay event =>
      ∀ entry ∈ written P signer event now, Plain entry.1 ∧
        ∀ message ∈ fetching.handler.pending,
          message.key = entry.1 → entry.2.data = message.data
  | _ => True

end Run

section Keys

theorem deletedKey_plain (key : String) : Plain (deletedKey key) := by
  have free := JsText.splitOn_free ':' key.toList
  rw [Plain, deletedKey, splitKey]
  split
  next recipient messageId rest parts =>
    rw [parts] at free
    simp [free recipient (by simp), free messageId (by simp)]
  next recipient parts =>
    rw [parts] at free
    simp [free recipient (by simp)]
  next parts => exact absurd parts (List.splitOn_ne_nil ':' _)

theorem deletedKey_of_plain {key : String} (plain : Plain key) : deletedKey key = key := by
  have length := JsText.splitOn_length ':' key.toList
  have whole : [':'].intercalate (key.toList.splitOn ':') = key.toList :=
    List.intercalate_splitOn ':'
  rw [plain] at length
  rw [deletedKey, splitKey]
  split
  next recipient messageId rest parts =>
    rw [parts] at length whole
    cases rest with
    | nil =>
        apply String.toList_injective
        rw [← whole]
        simp [List.intercalate]
    | cons => simp at length
  next recipient parts =>
    rw [parts] at length
    cases length
  next parts => exact absurd parts (List.splitOn_ne_nil ':' _)

end Keys

section Reading
variable {now : Moment} {db : Database}

/-- The key of a record, spliced again. -/
def keyOf (record : MessageRecord) : Except Failure String :=
  messageKey record.recipient (some record.id)

/-- Every record is under the key that it gives itself. -/
def Keyed (db : Database) : Prop :=
  ∀ key record, db.get key = some record →
    keyOf record = .ok key

theorem storedMessage_key (record : MessageRecord) :
    keyOf record = (Except.map StoredMessage.key ∘ storedMessage) record := by
  rw [keyOf, Function.comp_apply, storedMessage]
  cases messageKey record.recipient (some record.id) with
  | error failure => rfl
  | ok key => rfl

theorem rangeOf_distinct (recipient : String) (keyed : Keyed db) :
    ((rangeOf recipient db).map keyOf).Nodup := by
  have listed : ((iterator db).filter fun entry =>
      (recipient ++ ":").toList.isPrefixOf entry.1.toList).Sublist (iterator db) :=
    List.filter_sublist
  have order : ((iterator db).map Prod.fst).Perm (db.entries.map Prod.fst) :=
    (List.mergeSort_perm _ _).map Prod.fst
  have unique := (order.nodup_iff.mpr db.unique).sublist (listed.map Prod.fst)
  have same : (rangeOf recipient db).map keyOf =
      (((iterator db).filter fun entry =>
        (recipient ++ ":").toList.isPrefixOf entry.1.toList).map Prod.fst).map Except.ok := by
    rw [rangeOf, List.map_map, List.map_map]
    apply List.map_congr_left
    intro entry member
    have inside := List.mem_mergeSort.mp (listed.subset member)
    exact keyed entry.1 entry.2 ((OrderedMap.get_iff_mem _ _ _).mpr inside)
  rw [same]
  exact unique.map fun _ _ => Except.ok.inj

/-- What is handed out comes from the store, each record once. -/
theorem getStoredMessages_spec {address : Json} {messages : List StoredMessage}
    (keyed : Keyed db) (read : getStoredMessages address now db = .ok messages) :
    (messages.map StoredMessage.key).Nodup ∧ ∀ message ∈ messages, ∃ record,
      db.get message.key = some record ∧ record.data = message.data := by
  obtain ⟨records, got, made⟩ := bind_ok_iff.mp read
  obtain ⟨recipient, _, listed⟩ := bind_ok_iff.mp got
  obtain ⟨live, alive, sorted⟩ := bind_ok_iff.mp listed
  have order := sortByTimestamp_perm sorted
  have part := unexpired_sublist alive
  have each := mapM_ok_map made
  constructor
  · have keys : records.map keyOf = (messages.map StoredMessage.key).map Except.ok := by
      rw [funext storedMessage_key, ← List.map_map, each, List.map_map, List.map_map]
      rfl
    have unique := (rangeOf_distinct recipient keyed).sublist (part.map keyOf)
    have once := ((order.map keyOf).nodup_iff.mpr unique)
    rw [keys] at once
    exact once.of_map _
  · intro message member
    have inside : Except.ok message ∈ records.map storedMessage :=
      each ▸ List.mem_map_of_mem member
    obtain ⟨record, from_record, stored⟩ := List.mem_map.mp inside
    obtain ⟨key, held⟩ := rangeOf_held (part.subset (order.mem_iff.mp from_record))
    obtain ⟨spliced, text, done⟩ := bind_ok_iff.mp stored
    cases done
    cases text.symm.trans (keyed key record held)
    exact ⟨record, held, rfl⟩

end Reading

section Invariant
variable {P : Packages} {signer : Option Signer} {fetching : Fetching} {now : Moment}

structure Sound (fetching : Fetching) : Prop where
  keyed : Keyed fetching.relay.db
  distinct : (fetching.handler.messages.map StoredMessage.key).Nodup
  onward : fetching.handler.pending <:+ fetching.handler.messages
  plain : ∀ key ∈ fetching.deleted, Plain key
  untouched : (∀ messages pending, fetching.handler ≠ .deleting messages pending) →
    fetching.removed = []

theorem keyed_step {relay : Relay} (event : RelayNode.Event) (keyed : Keyed relay.db) :
    Keyed (RelayNode.step P signer relay event now).db := by
  intro key record found
  rcases RelayNode.step_held relay event now found with wrote | ⟨before, _⟩
  · obtain ⟨made, entered⟩ := written_entry wrote
    exact entryOf_key entered
  · exact keyed key record before

/-- The handler answers with an error, or it sends what it has read. -/
theorem handleFetchRequest_spec (data : Bytes) (now : Moment) (db : Database) :
    (∃ reply, handleFetchRequest data now db = .refused reply) ∨
      ∃ address messages, getStoredMessages address now db = .ok messages ∧
        handleFetchRequest data now db = .sending messages := by
  delta handleFetchRequest
  cases addressOf data with
  | error failure => exact .inl ⟨_, rfl⟩
  | ok asked =>
      cases asked with
      | none => exact .inl ⟨_, rfl⟩
      | some address =>
          dsimp only
          cases read : getStoredMessages address now db with
          | error failure => exact .inl ⟨_, rfl⟩
          | ok messages =>
              dsimp only
              by_cases sliced : canSlice (some address) = true
              · exact .inr ⟨address, messages, read, if_pos sliced⟩
              · exact .inl ⟨_, if_neg sliced⟩

theorem sound_fetch {relay : Relay} {removed : List (String × MessageRecord)}
    {deleted : List String} (data : Bytes) (sound : Sound ⟨relay, .waiting, removed, deleted⟩) :
    Sound ⟨relay, handleFetchRequest data now relay.db, removed, deleted⟩ := by
  have empty : removed = [] := sound.untouched fun _ _ same => by cases same
  rcases handleFetchRequest_spec data now relay.db with
    ⟨reply, refused⟩ | ⟨address, messages, read, sends⟩
  · rw [refused]
    exact ⟨sound.keyed, List.nodup_nil, List.suffix_refl _, sound.plain, fun _ => empty⟩
  · rw [sends]
    exact ⟨sound.keyed, (getStoredMessages_spec sound.keyed read).1, List.suffix_refl _,
      sound.plain, fun _ => empty⟩

theorem sound_step (event : Event) (sound : Sound fetching) :
    Sound (step P signer fetching event now) := by
  obtain ⟨relay, handler, removed, deleted⟩ := fetching
  cases event with
  | relay event => exact { sound with keyed := keyed_step event sound.keyed }
  | fetch data =>
      cases handler with
      | waiting => exact sound_fetch data sound
      | refused | sending | deleting => exact sound
  | sent =>
      cases handler with
      | sending messages =>
          exact { sound with untouched := fun idle => absurd rfl (idle messages messages) }
      | waiting | refused | deleting => exact sound
  | broken =>
      cases handler with
      | sending messages =>
          have empty : removed = [] := sound.untouched fun _ _ same => by cases same
          exact ⟨sound.keyed, List.nodup_nil, List.suffix_refl _, sound.plain, fun _ => empty⟩
      | waiting | refused | deleting => exact sound
  | deleteNext =>
      cases handler with
      | deleting messages pending =>
          cases pending with
          -- Nothing is left to delete: the handler is done.
          | nil => exact sound
          | cons message pending =>
              refine ⟨fun key record found => ?_, sound.distinct, ?_, ?_, ?_⟩
              · exact sound.keyed key record (deleteMessage_held found)
              · exact (List.suffix_cons message pending).trans sound.onward
              · intro key member
                rcases List.mem_append.mp member with before | new
                · exact sound.plain key before
                · rw [List.mem_singleton.mp new]
                  exact deletedKey_plain message.key
              · exact fun idle => absurd rfl (idle messages pending)
      | waiting | refused | sending => exact sound

theorem sound_replay (past : List (Event × Moment)) : Sound (replay P signer past) := by
  induction past with
  | nil =>
      refine ⟨?_, List.nodup_nil, List.suffix_refl _, ?_, fun _ => rfl⟩
      · intro key record held
        cases held
      · exact fun _ member => absurd member List.not_mem_nil
  | cons input earlier ih => exact sound_step input.1 ih

theorem delivered_data (message : StoredMessage) :
    message.delivered.field "data" = message.data := by
  cases held : message.data <;> simp [StoredMessage.delivered, ofFields, field, lookup, held]

/-- While nothing is removed and all is still to be, the response is matched. -/
theorem delivers_untouched (empty : fetching.removed = [])
    (whole : fetching.handler.pending = fetching.handler.messages) : DeliversExactly fetching := by
  refine ⟨fun removal member => ?_, fun message member => .inl (whole ▸ member)⟩
  rw [empty] at member
  cases member

/-- What a deletion takes out is what the store held under the key that it deletes. -/
theorem mem_removed {removed : List (String × MessageRecord)} {target : String} {db : Database}
    {removal : String × MessageRecord} :
    removal ∈ removed ++ (db.get target).toList.map (fun record => (target, record)) ↔
      removal ∈ removed ∨ removal.1 = target ∧ db.get target = some removal.2 := by
  obtain ⟨key, record⟩ := removal
  cases held : db.get target with
  | none => simp
  | some found => simp [eq_comm]

theorem step_delete {relay : Relay} {removed : List (String × MessageRecord)}
    {deleted : List String} {messages pending : List StoredMessage} {message : StoredMessage} :
    step P signer ⟨relay, .deleting messages (message :: pending), removed, deleted⟩
        .deleteNext now =
      ⟨⟨deleteStoredMessage message.key relay.db, relay.sent⟩, .deleting messages pending,
        removed ++ (relay.db.get (deletedKey message.key)).toList.map
          fun record => (deletedKey message.key, record),
        deleted ++ [deletedKey message.key]⟩ := rfl

theorem delivers_delete {relay : Relay} {removed : List (String × MessageRecord)}
    {deleted : List String} {messages pending : List StoredMessage} {message : StoredMessage}
    (sound : Sound ⟨relay, .deleting messages (message :: pending), removed, deleted⟩)
    (before : DeliversExactly ⟨relay, .deleting messages (message :: pending), removed, deleted⟩) :
    DeliversExactly
        (step P signer ⟨relay, .deleting messages (message :: pending), removed, deleted⟩
          .deleteNext now) ↔
      Plain message.key ∧ ∀ record, relay.db.get message.key = some record →
        record.data = message.data := by
  rw [step_delete]
  have listed : message ∈ messages := sound.onward.subset List.mem_cons_self
  have once : message.key ∉ pending.map StoredMessage.key :=
    (List.nodup_cons.mp (sound.distinct.sublist (sound.onward.sublist.map _))).1
  constructor
  · intro after
    -- Every key that was deleted is plain, so only a plain key can have been.
    have plain : Plain message.key := by
      rcases after.removes message listed with later | done
      · exact absurd (List.mem_map_of_mem later) once
      · rcases List.mem_append.mp done with old | new
        · exact sound.plain _ old
        · rw [List.mem_singleton.mp new]
          exact deletedKey_plain message.key
    refine ⟨plain, fun record held => ?_⟩
    have target := deletedKey_of_plain plain
    have taken : relay.db.get (deletedKey message.key) = some record := by
      rw [target, held]
    obtain ⟨other, sent, sameKey, sameData⟩ :=
      after.delivered (deletedKey message.key, record) (mem_removed.mpr (.inr ⟨rfl, taken⟩))
    rw [target] at sameKey
    -- No two records of a response have the same key.
    have same : other = message := List.inj_on_of_nodup_map sound.distinct sent listed sameKey
    rw [← sameData, delivered_data, same]
  · rintro ⟨plain, same⟩
    have target := deletedKey_of_plain plain
    constructor
    · intro removal member
      rcases mem_removed.mp member with old | ⟨own, held⟩
      · exact before.delivered removal old
      · rw [target] at own held
        have data : message.delivered.field "data" = removal.2.data := by
          rw [delivered_data, same removal.2 held]
        exact ⟨message, listed, own.symm, data⟩
    · intro other sent
      rcases before.removes other sent with waits | done
      · rcases List.mem_cons.mp waits with rfl | later
        · exact .inr (List.mem_append_right _ (by simp [target]))
        · exact .inl later
      · exact .inr (List.mem_append_left _ done)

theorem delivers_step (event : Event) (sound : Sound fetching) (before : DeliversExactly fetching) :
    DeliversExactly (step P signer fetching event now) ↔ Faithful fetching event := by
  obtain ⟨relay, handler, removed, deleted⟩ := fetching
  cases event with
  | relay event => exact iff_of_true ⟨before.delivered, before.removes⟩ trivial
  | fetch data =>
      cases handler with
      | waiting =>
          have empty : removed = [] := sound.untouched fun _ _ same => by cases same
          refine iff_of_true (delivers_untouched empty ?_) trivial
          change (handleFetchRequest data now relay.db).pending =
            (handleFetchRequest data now relay.db).messages
          rcases handleFetchRequest_spec data now relay.db with
            ⟨reply, refused⟩ | ⟨address, messages, _, sends⟩
          · rw [refused]
            rfl
          · rw [sends]
            rfl
      | refused | sending | deleting => exact iff_of_true before trivial
  | sent =>
      cases handler with
      | sending messages => exact iff_of_true ⟨before.delivered, before.removes⟩ trivial
      | waiting | refused | deleting => exact iff_of_true before trivial
  -- When the stream breaks nothing has been deleted yet.
  | broken =>
      cases handler with
      | sending messages =>
          have empty : removed = [] := sound.untouched fun _ _ same => by cases same
          exact iff_of_true (delivers_untouched empty rfl) trivial
      | waiting | refused | deleting => exact iff_of_true before trivial
  | deleteNext =>
      cases handler with
      | deleting messages pending =>
          cases pending with
          | nil => exact iff_of_true before trivial
          | cons message pending => exact delivers_delete sound before
      | waiting | refused | sending => exact iff_of_true before trivial

/-- What is to be deleted has a plain key, and what is under it has the data that
    was read. -/
structure Guarded (fetching : Fetching) : Prop where
  plain : ∀ key record, fetching.relay.db.get key = some record → Plain key
  pending : ∀ message ∈ fetching.handler.pending, Plain message.key ∧ ∀ record,
    fetching.relay.db.get message.key = some record → record.data = message.data

theorem Guarded.faithful (event : Event) (guarded : Guarded fetching) : Faithful fetching event := by
  obtain ⟨relay, handler, removed, deleted⟩ := fetching
  cases event with
  | deleteNext =>
      cases handler with
      | deleting messages pending =>
          cases pending with
          | nil => trivial
          | cons message pending => exact guarded.pending message List.mem_cons_self
      | waiting | refused | sending => trivial
  | relay | fetch | sent | broken => trivial

theorem guarded_step (event : Event) (sound : Sound fetching) (guarded : Guarded fetching)
    (undisturbed : Undisturbed P signer fetching event now) :
    Guarded (step P signer fetching event now) := by
  obtain ⟨relay, handler, removed, deleted⟩ := fetching
  cases event with
  | relay event =>
      constructor
      · intro key record found
        rcases RelayNode.step_held relay event now found with wrote | ⟨held, _⟩
        · exact (undisturbed _ wrote).1
        · exact guarded.plain key record held
      · intro message member
        refine ⟨(guarded.pending message member).1, fun record found => ?_⟩
        rcases RelayNode.step_held relay event now found with wrote | ⟨held, _⟩
        · exact (undisturbed _ wrote).2 message member rfl
        · exact (guarded.pending message member).2 record held
  | fetch data =>
      cases handler with
      | waiting =>
          refine ⟨guarded.plain, ?_⟩
          change ∀ message ∈ (handleFetchRequest data now relay.db).pending, _
          rcases handleFetchRequest_spec data now relay.db with
            ⟨reply, refused⟩ | ⟨address, messages, read, sends⟩
          · rw [refused]
            exact fun message member => absurd member List.not_mem_nil
          · rw [sends]
            intro message member
            -- At the moment of the read, the store has what is handed out.
            obtain ⟨record, held, same⟩ := (getStoredMessages_spec sound.keyed read).2 message member
            refine ⟨guarded.plain message.key record held, fun other found => ?_⟩
            cases held.symm.trans found
            exact same
      | refused | sending | deleting => exact guarded
  | sent =>
      cases handler with
      | sending messages => exact ⟨guarded.plain, guarded.pending⟩
      | waiting | refused | deleting => exact guarded
  | broken =>
      cases handler with
      | sending messages =>
          exact ⟨guarded.plain, fun message member => absurd member List.not_mem_nil⟩
      | waiting | refused | deleting => exact guarded
  | deleteNext =>
      cases handler with
      | deleting messages pending =>
          cases pending with
          | nil => exact guarded
          | cons message pending =>
              rw [step_delete]
              constructor
              · exact fun key record found => guarded.plain key record (deleteMessage_held found)
              · intro other member
                obtain ⟨plain, same⟩ := guarded.pending other (List.mem_cons_of_mem _ member)
                exact ⟨plain, fun record found => same record (deleteMessage_held found)⟩
      | waiting | refused | sending => exact guarded

theorem guarded_replay {past : List (Event × Moment)}
    (undisturbed : EachInput (fun input earlier =>
      Undisturbed P signer (replay P signer earlier) input.1 input.2) past) :
    Guarded (replay P signer past) := by
  induction past with
  | nil =>
      constructor
      · intro key record held
        cases held
      · exact fun message member => absurd member List.not_mem_nil
  | cons input earlier ih =>
      obtain ⟨now, before⟩ := eachInput_cons.mp undisturbed
      exact guarded_step input.1 (sound_replay earlier) (ih before) now

end Invariant

/-- In every run, the handler removes what it delivers at every moment exactly when what
    it deletes is each time what it read. That is so in every run in which nothing that
    is stored has a colon in its recipient or id, or replaces what is to be deleted. -/
theorem delivers_exactly_iff (P : Packages) (signer : Option Signer)
    (past : List (Event × Moment)) :
    (Always (fun past => DeliversExactly (replay P signer past)) past ↔
      EachInput (fun input earlier => Faithful (replay P signer earlier) input.1) past) ∧
    (EachInput (fun input earlier =>
        Undisturbed P signer (replay P signer earlier) input.1 input.2) past →
      Always (fun past => DeliversExactly (replay P signer past)) past) := by
  have exactly : Always (fun past => DeliversExactly (replay P signer past)) past ↔
      EachInput (fun input earlier => Faithful (replay P signer earlier) input.1) past := by
    have free : EachInput (fun _ _ => True) past := fun _ _ _ => trivial
    refine always_iff_each free (delivers_untouched rfl rfl) fun input earlier _ before => ?_
    exact delivers_step input.1 (sound_replay earlier) before
  refine ⟨exactly, fun undisturbed => exactly.mpr fun input earlier suffix => ?_⟩
  have earlierOnes := undisturbed.suffix ((List.suffix_cons input earlier).trans suffix)
  exact (guarded_replay earlierOnes).faithful input.1

section Sample

/-- Two records for alice, one with a colon in its id. -/
def colliding : List (Event × Moment) :=
  [(.relay (.storeRequest (storeFor "a:b" "y") sampleDraw), sampleMoment),
    (.relay (.storeRequest (storeFor "a" "x") sampleDraw), sampleMoment)]

def fetchRequest : Bytes := utf8Encode (stringify (.object [("address", .string "alice:a")]))

/-- The second record is fetched under the first one's key. -/
def collidingFetch : List (Event × Moment) :=
  (.deleteNext, sampleMoment) :: (.sent, sampleMoment) :: (.fetch fetchRequest, sampleMoment) ::
    colliding

def sampleMessage : StoredMessage :=
  ⟨"alice:a:b", some (.string "alice"), some (.string "y"),
    (sampleRecord "a:b" "y").timestamp, (sampleRecord "a:b" "y").expires,
    (sampleRecord "a:b" "y").replicationCount⟩

def collidingDb : Database :=
  (OrderedMap.empty.set "alice:a" (sampleRecord "a" "x")).set "alice:a:b" (sampleRecord "a:b" "y")

theorem replay_relay (P : Packages) (signer : Option Signer) (event : RelayNode.Event)
    (now : Moment) (earlier : List (Event × Moment)) :
    replay P signer ((.relay event, now) :: earlier) =
      { replay P signer earlier with
        relay := RelayNode.step P signer (replay P signer earlier).relay event now } := rfl

theorem colliding_db : (replay samplePackages none colliding).relay.db = collidingDb := by
  rw [colliding, replay_relay, replay_relay]
  dsimp only
  rw [RelayNode.step, step_storeRequest, storeFor_written _ _ (by decide), RelayNode.step,
    step_storeRequest, storeFor_written _ _ (by decide)]
  have start : (replay samplePackages none []).relay.db = OrderedMap.empty := rfl
  simp [putAll, start, collidingDb]

theorem colliding_waits : replay samplePackages none colliding =
    ⟨(replay samplePackages none colliding).relay, .waiting, [], []⟩ := by
  rw [colliding, replay_relay, replay_relay, replay]

theorem fetchRequest_asks : addressOf fetchRequest = .ok (some (.string "alice:a")) := by
  have request : Canonical (.object [("address", .string "alice:a")]) :=
    canonical_object ["address"] rfl (by decide) ⟨trivial, trivial⟩
  rw [addressOf, fetchRequest, parse_transmitted request]
  rfl

theorem colliding_range : rangeOf "alice:a" collidingDb = [sampleRecord "a:b" "y"] := by
  have entries : collidingDb.entries =
      [("alice:a", sampleRecord "a" "x"), ("alice:a:b", sampleRecord "a:b" "y")] := rfl
  simp [rangeOf, iterator, entries, List.mergeSort, List.MergeSort.Internal.splitInTwo]

theorem fetchRequest_reads : handleFetchRequest fetchRequest sampleMoment collidingDb =
    .sending [sampleMessage] := by
  have found : getMessages (.string "alice:a") sampleMoment collidingDb =
      .ok [sampleRecord "a:b" "y"] := by
    simp [getMessages, toText, colliding_range, unexpired, sampleRecord_alive, sortByTimestamp]
  have message : storedMessage (sampleRecord "a:b" "y") = .ok sampleMessage := by
    simp [storedMessage, messageKey, sampleRecord_id "y", sampleRecord_recipient, sampleRecord_data,
      spliced, toText, sampleMessage]
  delta handleFetchRequest
  rw [fetchRequest_asks]
  dsimp only
  rw [getStoredMessages, found, ok_bind, List.mapM_cons, message]
  exact if_pos rfl

/-- A fetch that no other event comes between. -/
theorem fetch_run {relay : Relay} {message : StoredMessage} {data : Bytes} {now : Moment}
    (reads : handleFetchRequest data now relay.db = .sending [message]) :
    step samplePackages none (step samplePackages none (step samplePackages none
        ⟨relay, .waiting, [], []⟩ (.fetch data) now) .sent now) .deleteNext now =
      ⟨⟨deleteStoredMessage message.key relay.db, relay.sent⟩, .deleting [message] [],
        (relay.db.get (deletedKey message.key)).toList.map
          fun record => (deletedKey message.key, record),
        [deletedKey message.key]⟩ := by
  have fetched : step samplePackages none ⟨relay, .waiting, [], []⟩ (.fetch data) now =
      ⟨relay, .sending [message], [], []⟩ := by
    rw [← reads]
    rfl
  rw [fetched]
  rfl

theorem collidingFetch_replay : ∃ sent, replay samplePackages none collidingFetch =
    ⟨⟨collidingDb.delete "alice:a", sent⟩, .deleting [sampleMessage] [],
      [("alice:a", sampleRecord "a" "x")], ["alice:a"]⟩ := by
  have deleted : deletedKey sampleMessage.key = "alice:a" := by
    simp [sampleMessage, deletedKey, splitKey, List.splitOn_cons_eq_if_modifyHead]
  have reads : handleFetchRequest fetchRequest sampleMoment
      (replay samplePackages none colliding).relay.db = .sending [sampleMessage] := by
    rw [colliding_db, fetchRequest_reads]
  have taken : collidingDb.get "alice:a" = some (sampleRecord "a" "x") := rfl
  refine ⟨(replay samplePackages none colliding).relay.sent, ?_⟩
  rw [collidingFetch, replay, replay, replay, colliding_waits, fetch_run reads, colliding_db,
    deleteStoredMessage, deleteMessage, ← deletedKey, deleted, taken]
  rfl

theorem colliding_keys :
    (replay samplePackages none collidingFetch).removed = [("alice:a", sampleRecord "a" "x")] ∧
      (replay samplePackages none collidingFetch).handler.reply = some (response [sampleMessage]) ∧
      (replay samplePackages none collidingFetch).relay.db.get "alice:a:b" =
        some (sampleRecord "a:b" "y") ∧
      ¬ DeliversExactly (replay samplePackages none collidingFetch) := by
  obtain ⟨sent, state⟩ := collidingFetch_replay
  rw [state]
  refine ⟨rfl, rfl, rfl, fun exactly => ?_⟩
  obtain ⟨message, listed, key, _⟩ := exactly.delivered _ (List.mem_singleton_self _)
  rw [List.mem_singleton.mp listed] at key
  exact absurd key (by decide)

end Sample
end Chainmail.LegacyFetch
