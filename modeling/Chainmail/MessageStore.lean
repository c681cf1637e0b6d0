import Chainmail.LegacyFetch
import Chainmail.RelayReplication
import Chainmail.StableOrder

/-!
The store as a map from recipients and ids to records. The store has one range of keys,
which join the two by a colon, and a recipient's messages are what is under its prefix.
-/

namespace Chainmail.MessageStore

open Json DhtStorage

variable (P : Packages) (signer : Option Signer)

/-- A record with texts for its recipient and id, and with times that are numbers. -/
structure Typed (record : MessageRecord) (recipient messageId : String) : Prop where
  recipient : record.recipient = some (.string recipient)
  id : record.id = .string messageId
  timestamp : ∃ value, toNumber record.timestamp = .ok (.finite value)
  expires : ∃ value, toNumber record.expires = .ok (.finite value)

structure TypedRecord where
  record : MessageRecord
  recipient : String
  messageId : String
  typed : Typed record recipient messageId

inductive Event where
  | store (recipient data : String) (draw : RandomId)
  | storeRecord (typed : TypedRecord)
  | deleteMessage (recipient messageId : String)
  | cleanupExpired

def step (db : Database) (event : Event) (now : Moment) : Database :=
  match event with
  | .store recipient data draw => (store P signer (.string recipient) data draw now db).state
  | .storeRecord typed => (storeRecord P signer typed.record now db).state
  | .deleteMessage recipient messageId => deleteMessage recipient messageId db
  | .cleanupExpired => cleanupExpired now db

/-- The last event comes first. -/
def replay : List (Event × Moment) → Database
  | [] => OrderedMap.empty
  | (event, now) :: earlier => step P signer (replay earlier) event now

/-- What an event says about a recipient and an id: the record that they have now, or none. -/
def change (event : Event) (now : Moment) : Option ((String × String) × Option MessageRecord) :=
  let put (recipient messageId : String) (record : MessageRecord) :=
    (entryOf P signer record now).toOption.map fun entry =>
      ((recipient, messageId), some entry.2)
  match event with
  | .store recipient data draw =>
      put recipient draw.text (newRecord (.string recipient) data draw now)
  | .storeRecord typed => put typed.recipient typed.messageId typed.record
  | .deleteMessage recipient messageId => some ((recipient, messageId), none)
  | .cleanupExpired => none

/-- The record that was stored last for a recipient under an id, if it was not deleted. -/
def kept : List (Event × Moment) → String × String → Option MessageRecord
  | [], _ => none
  | (event, now) :: earlier, wanted =>
      match change P signer event now with
      | some (own, record) => if own = wanted then record else kept earlier wanted
      | none => kept earlier wanted

/-- The timestamp, as a number. -/
def timeOf (record : MessageRecord) : ℚ :=
  match toNumber record.timestamp with
  | .ok (.finite value) => value
  | _ => 0

/-- At any time from now on, each recipient gets what is kept for it and has not expired,
    each record once and in the order of their timestamps. -/
def Exact (past : List (Event × Moment)) : Prop :=
  ∀ now : Moment, (∀ input ∈ past, input.2.ms ≤ now.ms) → ∀ recipient, ∃ messages,
    getMessages (.string recipient) now (replay P signer past) = .ok messages ∧
    messages.Nodup ∧ messages.Pairwise (fun left right => timeOf left ≤ timeOf right) ∧
    ∀ record, record ∈ messages ↔
      (∃ messageId, kept P signer past (recipient, messageId) = some record) ∧
        record.isExpired now = .ok false

/-- There is no colon but the one between them. -/
def Plain (pair : String × String) : Prop := ':' ∉ pair.1.toList ∧ ':' ∉ pair.2.toList

/-- What is stored has no colon in its recipient and none in its id, unless it has expired. -/
def StoresPlain (event : Event) (now : Moment) : Prop :=
  ∀ pair record, change P signer event now = some (pair, some record) →
    record.isExpired now ≠ .ok true → Plain pair

/-- A history of the store, in which the clock does not go back. -/
structure History where
  past : List (Event × Moment)
  timed : EachInput (fun input earlier => ∀ old ∈ earlier, old.2.ms ≤ input.2.ms) past

/-- The key of a recipient and an id. -/
def keyOf (pair : String × String) : String := pair.1 ++ ":" ++ pair.2

section Keys
variable {pair other : String × String}

theorem keyOf_count (pair : String × String) :
    (keyOf pair).toList.count ':' = pair.1.toList.count ':' + pair.2.toList.count ':' + 1 := by
  have letters : (keyOf pair).toList = pair.1.toList ++ ':' :: pair.2.toList := by
    simp [keyOf]
  rw [letters, List.count_append, List.count_cons_self]
  omega

theorem plain_iff (pair : String × String) : Plain pair ↔ (keyOf pair).toList.count ':' = 1 := by
  rw [keyOf_count, Plain, ← List.count_eq_zero, ← List.count_eq_zero]
  omega

theorem Plain.unique (plain : Plain pair) (same : keyOf pair = keyOf other) : pair = other := by
  have also : Plain other := by
    rw [plain_iff, ← same, ← plain_iff]
    exact plain
  have parts : JsText.split ':' (keyOf pair) = JsText.split ':' (keyOf other) := by rw [same]
  have split {pair : String × String} (plain : Plain pair) :
      JsText.split ':' (keyOf pair) = [pair.1, pair.2] := by
    rw [← JsText.split_of_free plain.2]
    exact JsText.split_append plain.1 pair.2
  rw [split plain, split also] at parts
  simp only [List.cons.injEq, and_true] at parts
  exact Prod.ext parts.1 parts.2

/-- A pair with a second colon has its key under the prefix of another recipient. -/
theorem foreign_prefix (colons : ¬ Plain pair) :
    ∃ recipient messageId, recipient ≠ pair.1 ∧ keyOf pair = keyOf (recipient, messageId) := by
  obtain ⟨recipient, messageId⟩ := pair
  by_cases first : ':' ∈ recipient.toList
  · obtain ⟨before, after, letters⟩ := List.append_of_mem first
    have whole : recipient = String.ofList before ++ ":" ++ String.ofList after := by
      apply String.toList_injective
      simp [letters]
    refine ⟨String.ofList before, String.ofList after ++ ":" ++ messageId, ?_, ?_⟩
    · intro same
      have length := congrArg (fun text => text.toList.length) (same.trans whole)
      simp at length
    · rw [keyOf, keyOf]
      dsimp only
      rw [whole]
      simp [String.append_assoc]
  · have second : ':' ∈ messageId.toList := by
      by_contra free
      exact colons ⟨first, free⟩
    obtain ⟨before, after, letters⟩ := List.append_of_mem second
    have whole : messageId = String.ofList before ++ ":" ++ String.ofList after := by
      apply String.toList_injective
      simp [letters]
    refine ⟨recipient ++ ":" ++ String.ofList before, String.ofList after, ?_, ?_⟩
    · intro same
      have length := congrArg (fun text => text.toList.length) same
      simp at length
    · rw [keyOf, keyOf]
      dsimp only
      rw [whole]
      simp [String.append_assoc]

end Keys

section Steps
variable {P signer} {event : Event} {now : Moment} {earlier past : List (Event × Moment)}
  {record : MessageRecord} {recipient messageId : String}

theorem Typed.key (typed : Typed record recipient messageId) :
    messageKey record.recipient (some record.id) = .ok (keyOf (recipient, messageId)) := by
  rw [typed.recipient, typed.id]
  rfl

theorem Typed.unique {other own : String} (typed : Typed record recipient messageId)
    (again : Typed record other own) : recipient = other ∧ messageId = own := by
  have recipients := typed.recipient.symm.trans again.recipient
  have ids := typed.id.symm.trans again.id
  simp only [Option.some.injEq, string.injEq] at recipients ids
  exact ⟨recipients, ids⟩

theorem Typed.isExpired (typed : Typed record recipient messageId) (now : Moment) :
    ∃ expired, record.isExpired now = .ok expired := by
  obtain ⟨value, read⟩ := typed.expires
  exact ⟨_, by rw [MessageRecord.isExpired, read]; rfl⟩

theorem expired_later {later : Moment} (onward : now.ms ≤ later.ms)
    (expired : record.isExpired now = .ok true) : record.isExpired later = .ok true := by
  obtain ⟨expires, read, past⟩ := (RelayNode.isExpired_true record now).mp expired
  exact (RelayNode.isExpired_true record later).mpr
    ⟨expires, read, JsNumber.lt_ofNat_mono onward past⟩

theorem newRecord_typed (recipient data : String) (draw : RandomId) (now : Moment) :
    Typed (newRecord (.string recipient) data draw now) recipient draw.text where
  recipient := RelayNode.newRecord_recipient ..
  id := RelayNode.newRecord_id ..
  timestamp := ⟨_, RelayNode.newRecord_timestamp ..⟩
  expires := by
    refine ⟨(now.ms + MESSAGE_TTL_MS : Nat), ?_⟩
    rw [RelayNode.newRecord_expires, toNumber_natural]
    rfl

/-- A proof that is added changes none of these fields. -/
theorem entryOf_typed {entry : String × MessageRecord} (typed : Typed record recipient messageId)
    (made : entryOf P signer record now = .ok entry) :
    entry.1 = keyOf (recipient, messageId) ∧ Typed entry.2 recipient messageId := by
  have same : Typed entry.2 recipient messageId := by
    rcases RelayNode.entryOf_record made with alike | ⟨proof, alike⟩
    · rw [alike]
      exact typed
    · rw [alike]
      exact ⟨typed.recipient, typed.id, typed.timestamp, typed.expires⟩
  have text := RelayNode.entryOf_key made
  exact ⟨Except.ok.inj (text.symm.trans same.key), same⟩

/-- What an event does to the database. -/
inductive Change (db after : Database) (event : Event) (now : Moment)
    (said : Option ((String × String) × Option MessageRecord)) : Prop
  | put (pair : String × String) (record : MessageRecord) :
      said = some (pair, some record) → Typed record pair.1 pair.2 →
      after = db.set (keyOf pair) record → Change db after event now said
  | deleted (pair : String × String) :
      said = some (pair, none) → after = db.delete (keyOf pair) → Change db after event now said
  | cleaned :
      said = none → after = cleanupExpired now db → Change db after event now said
  | same : said = none → after = db → Change db after event now said

theorem putOne_change {made : MessageRecord} (typed : Typed made recipient messageId)
    (db : Database) (event : Event) :
    Change db (RelayNode.putAll (entryOf P signer made now).toOption.toList db) event now
      ((entryOf P signer made now).toOption.map fun entry =>
        ((recipient, messageId), some entry.2)) := by
  cases entered : entryOf P signer made now with
  | error failure => exact .same rfl rfl
  | ok entry =>
      obtain ⟨key, own⟩ := entryOf_typed typed entered
      refine .put (recipient, messageId) entry.2 rfl own ?_
      rw [← key]
      rfl

variable (P signer) in
theorem step_change (db : Database) (event : Event) (now : Moment) :
    Change db (step P signer db event now) event now (change P signer event now) := by
  cases event with
  | store recipient data draw =>
      rw [step, RelayNode.store_state]
      exact putOne_change (newRecord_typed recipient data draw now) db _
  | storeRecord typed =>
      rw [step, RelayNode.storeRecord_state]
      exact putOne_change typed.typed db _
  | deleteMessage recipient messageId => exact .deleted (recipient, messageId) rfl rfl
  | cleanupExpired => exact .cleaned rfl rfl

theorem kept_typed {pair : String × String} (held : kept P signer past pair = some record) :
    Typed record pair.1 pair.2 := by
  induction past with
  | nil => cases held
  | cons input earlier ih =>
      obtain ⟨event, now⟩ := input
      rw [kept] at held
      cases step_change P signer OrderedMap.empty event now with
      | put own stored told typed _ =>
          rw [told] at held
          dsimp only at held
          split at held
          next same =>
            cases held
            exact same ▸ typed
          next => exact ih held
      | deleted own told _ =>
          rw [told] at held
          dsimp only at held
          split at held
          · cases held
          · exact ih held
      | cleaned told _ =>
          rw [told] at held
          exact ih held
      | same told _ =>
          rw [told] at held
          exact ih held

end Steps

section Agreement
variable {P signer} {event : Event} {now : Moment} {earlier past : List (Event × Moment)}
  {record : MessageRecord} {pair : String × String} {db after : Database}

/-- Expired at every time from now on. -/
def Dead (past : List (Event × Moment)) (record : MessageRecord) : Prop :=
  ∀ now : Moment, (∀ input ∈ past, input.2.ms ≤ now.ms) → record.isExpired now = .ok true

theorem Dead.later (input : Event × Moment) (dead : Dead past record) :
    Dead (input :: past) record :=
  fun now late => dead now fun old member => late old (List.mem_cons_of_mem _ member)

theorem dead_of_expired (event : Event) (past : List (Event × Moment))
    (expired : record.isExpired now = .ok true) : Dead ((event, now) :: past) record :=
  fun _ late => expired_later (late (event, now) List.mem_cons_self) expired

/-- The key is that of a pair, for which the record is kept unless it has expired. -/
def Backed (P : Packages) (signer : Option Signer) (past : List (Event × Moment)) (key : String)
    (record : MessageRecord) : Prop :=
  ∃ pair, key = keyOf pair ∧ Typed record pair.1 pair.2 ∧
    (Dead past record ∨ Plain pair ∧ kept P signer past pair = some record)

theorem Backed.later {key : String} {input : Event × Moment}
    (backed : Backed P signer past key record)
    (same : ∀ pair, key = keyOf pair → kept P signer (input :: past) pair = kept P signer past pair) :
    Backed P signer (input :: past) key record := by
  obtain ⟨pair, named, typed, state⟩ := backed
  refine ⟨pair, named, typed, state.imp (Dead.later _) fun inside => ⟨inside.1, ?_⟩⟩
  rw [same pair named, inside.2]

/-- The store has what is kept, under plain keys, but for what has expired. -/
structure Agrees (P : Packages) (signer : Option Signer) (past : List (Event × Moment))
    (db : Database) : Prop where
  stored : ∀ key record, db.get key = some record → Backed P signer past key record
  present : ∀ pair record, kept P signer past pair = some record →
    Dead past record ∨ Plain pair ∧ db.get (keyOf pair) = some record

/-- An event that tells of one pair leaves what is kept for the others. -/
theorem kept_other {told : Option MessageRecord} {other : String × String}
    (change_eq : change P signer event now = some (pair, told)) (apart : pair ≠ other) :
    kept P signer ((event, now) :: past) other = kept P signer past other := by
  simp [kept, change_eq, apart]

theorem kept_silent (change_eq : change P signer event now = none) (pair : String × String) :
    kept P signer ((event, now) :: past) pair = kept P signer past pair := by
  simp [kept, change_eq]

/-- What is stored under another key than the pair's stays backed. -/
theorem Agrees.stored_elsewhere {told : Option MessageRecord} (agrees : Agrees P signer past db)
    (change_eq : change P signer event now = some (pair, told)) {key : String}
    (apart : key ≠ keyOf pair) (held : db.get key = some record) :
    Backed P signer ((event, now) :: past) key record := by
  refine (agrees.stored key record held).later fun other named => kept_other change_eq ?_
  rintro rfl
  exact apart named

/-- What is kept for another pair stays present in a database that differs at the pair's key. -/
theorem Agrees.present_elsewhere {told : Option MessageRecord} (agrees : Agrees P signer past db)
    (change_eq : change P signer event now = some (pair, told))
    (same : ∀ key, key ≠ keyOf pair → after.get key = db.get key) {other : String × String}
    (apart : pair ≠ other) (held : kept P signer ((event, now) :: past) other = some record) :
    Dead ((event, now) :: past) record ∨ Plain other ∧ after.get (keyOf other) = some record := by
  rw [kept_other change_eq apart] at held
  refine (agrees.present other record held).imp (Dead.later _) fun inside => ⟨inside.1, ?_⟩
  rw [same _ fun key => apart (inside.1.unique key).symm, inside.2]

theorem Agrees.put {record : MessageRecord} (agrees : Agrees P signer past db)
    (told : change P signer event now = some (pair, some record))
    (typed : Typed record pair.1 pair.2)
    (plain : record.isExpired now ≠ .ok true → Plain pair) :
    Agrees P signer ((event, now) :: past) (db.set (keyOf pair) record) := by
  have own : kept P signer ((event, now) :: past) pair = some record := by
    simp [kept, told]
  have fresh : Dead ((event, now) :: past) record ∨ Plain pair := by
    by_cases expired : record.isExpired now = .ok true
    · exact .inl (dead_of_expired event past expired)
    · exact .inr (plain expired)
  constructor
  · intro key found held
    rw [OrderedMap.get_set] at held
    split at held
    next same =>
      cases held
      exact ⟨pair, same, typed, fresh.imp_right fun plain => ⟨plain, own⟩⟩
    next apart => exact agrees.stored_elsewhere told apart held
  · intro other found held
    by_cases same : pair = other
    · subst same
      cases own.symm.trans held
      exact fresh.imp_right fun plain => ⟨plain, OrderedMap.get_set_self _ _ _⟩
    · exact agrees.present_elsewhere told (fun _ apart => OrderedMap.get_set_of_ne _ _ apart) same held

theorem Agrees.deleted (agrees : Agrees P signer past db)
    (told : change P signer event now = some (pair, none)) :
    Agrees P signer ((event, now) :: past) (db.delete (keyOf pair)) := by
  constructor
  · intro key found held
    rw [OrderedMap.get_delete] at held
    split at held
    · cases held
    next apart => exact agrees.stored_elsewhere told apart held
  · intro other found held
    by_cases same : pair = other
    · simp [kept, told, same] at held
    · exact agrees.present_elsewhere told (fun _ apart => OrderedMap.get_delete_of_ne _ apart) same held

theorem Agrees.cleaned (agrees : Agrees P signer past db)
    (told : change P signer event now = none) :
    Agrees P signer ((event, now) :: past) (cleanupExpired now db) := by
  constructor
  · intro key found held
    exact (agrees.stored key found (RelayNode.cleanupExpired_held held)).later
      fun other _ => kept_silent told other
  · intro pair found held
    rw [kept_silent told] at held
    by_cases expired : found.isExpired now = .ok true
    · exact .inl (dead_of_expired event past expired)
    · exact (agrees.present pair found held).imp (Dead.later _) fun inside =>
        ⟨inside.1, RelayNode.cleanupExpired_keeps inside.2 expired⟩

theorem Agrees.same (agrees : Agrees P signer past db)
    (told : change P signer event now = none) : Agrees P signer ((event, now) :: past) db := by
  constructor
  · intro key found held
    exact (agrees.stored key found held).later fun other _ => kept_silent told other
  · intro pair found held
    rw [kept_silent told] at held
    exact (agrees.present pair found held).imp_left (Dead.later _)

theorem agrees_replay
    (plain : EachInput (fun input _ => StoresPlain P signer input.1 input.2) past) :
    Agrees P signer past (replay P signer past) := by
  induction past with
  | nil =>
      constructor
      · intro key record held
        cases held
      · intro pair record held
        cases held
  | cons input earlier ih =>
      obtain ⟨event, now⟩ := input
      obtain ⟨own, before⟩ := eachInput_cons.mp plain
      have agrees := ih before
      rw [replay]
      cases step_change P signer (replay P signer earlier) event now with
      | put pair record told typed after =>
          rw [after]
          exact agrees.put told typed (own pair record told)
      | deleted pair told after =>
          rw [after]
          exact agrees.deleted told
      | cleaned told after =>
          rw [after]
          exact agrees.cleaned told
      | same told after =>
          rw [after]
          exact agrees.same told

end Agreement

section Reading
variable {now : Moment} {db : Database} {messages : List MessageRecord} {recipient : String}

theorem rangeOf_under {record : MessageRecord} (member : record ∈ rangeOf recipient db) :
    ∃ rest, db.get (keyOf (recipient, rest)) = some record := by
  obtain ⟨entry, listed, rfl⟩ := List.mem_map.mp member
  obtain ⟨inside, under⟩ := List.mem_filter.mp listed
  obtain ⟨rest, letters⟩ := List.isPrefixOf_iff_prefix.mp under
  have key : entry.1 = keyOf (recipient, String.ofList rest) := by
    apply String.toList_injective
    simp [keyOf, ← letters]
  refine ⟨String.ofList rest, ?_⟩
  rw [← key]
  exact (OrderedMap.get_iff_mem _ _ _).mpr (List.mem_mergeSort.mp inside)

/-- Where all timestamps are numbers, the messages are sorted by them. -/
theorem sortByTimestamp_ordered
    (timed : ∀ record ∈ messages, ∃ value, toNumber record.timestamp = .ok (.finite value)) :
    sortByTimestamp messages = .ok (ordered timeOf messages) := by
  have time : ∀ record ∈ messages, toNumber record.timestamp = .ok (.finite (timeOf record)) := by
    intro record member
    obtain ⟨value, read⟩ := timed record member
    rw [timeOf, read]
  -- The source compares nothing in a list of fewer than two.
  by_cases few : messages.length < 2
  · rw [sortByTimestamp, if_pos few]
    cases messages with
    | nil => rw [ordered, List.mergeSort_nil]
    | cons record rest =>
        have none : rest = [] := List.length_eq_zero_iff.mp (by simpa using few)
        rw [none, ordered, List.mergeSort_singleton]
  · let pair (record : MessageRecord) := (JsNumber.finite (timeOf record), record)
    have pairs : (messages.mapM fun record => do
        let timestamp ← toNumber record.timestamp
        return (timestamp, record) : Except Failure _) = .ok (messages.map pair) := by
      apply mapM_of_ok
      intro record member
      rw [time record member]
      rfl
    have comparison : ∀ left ∈ messages.map pair, ∀ right ∈ messages.map pair,
        (!right.1.lt left.1) = decide (timeOf left.2 ≤ timeOf right.2) := by
      intro left first right second
      obtain ⟨earlier, _, rfl⟩ := List.mem_map.mp first
      obtain ⟨later, _, rfl⟩ := List.mem_map.mp second
      simp [pair, JsNumber.lt, ← not_lt]
    have sorted : ((messages.map pair).mergeSort fun left right => !right.1.lt left.1).map Prod.snd =
        ordered timeOf messages := by
      rw [List.map_mergeSort (s := fun left right => decide (timeOf left ≤ timeOf right)) comparison]
      simp [pair, ordered, Function.comp_def]
    rw [sortByTimestamp, if_neg few, pairs, ← sorted]
    rfl

theorem unexpired_read (now : Moment) (readable : ∀ record ∈ rangeOf recipient db, ∃ expired,
      record.isExpired now = .ok expired)
    (timed : ∀ record ∈ rangeOf recipient db, ∃ value,
      toNumber record.timestamp = .ok (.finite value)) :
    ∃ live, unexpired now (rangeOf recipient db) = .ok live ∧
      getMessages (.string recipient) now db = .ok (ordered timeOf live) := by
  obtain ⟨live, found⟩ := unexpired_ok readable
  have sorted := sortByTimestamp_ordered fun record member =>
    timed record ((unexpired_sublist found).subset member)
  refine ⟨live, found, ?_⟩
  rw [getMessages, toText, ok_bind, found, ok_bind, sorted]

variable {P : Packages} {signer : Option Signer} {past : List (Event × Moment)}

theorem exact_of_agrees (agrees : Agrees P signer past (replay P signer past)) :
    Exact P signer past := by
  intro now late recipient
  have inside {record : MessageRecord}
      (member : record ∈ rangeOf recipient (replay P signer past)) :
      ∃ rest pair, keyOf (recipient, rest) = keyOf pair ∧ Typed record pair.1 pair.2 ∧
        (Dead past record ∨ Plain pair ∧ kept P signer past pair = some record) := by
    obtain ⟨rest, held⟩ := rangeOf_under member
    obtain ⟨pair, same, typed, state⟩ := agrees.stored _ record held
    exact ⟨rest, pair, same, typed, state⟩
  obtain ⟨live, found, read⟩ := unexpired_read now
    (fun record member => by
      obtain ⟨_, _, _, typed, _⟩ := inside member
      exact typed.isExpired now)
    (fun record member => by
      obtain ⟨_, _, _, typed, _⟩ := inside member
      exact typed.timestamp)
  -- A record tells the key it is under, so none is returned twice.
  have keyed : LegacyFetch.Keyed (replay P signer past) := by
    intro key record held
    obtain ⟨pair, rfl, typed, _⟩ := agrees.stored key record held
    exact typed.key
  have once : live.Nodup :=
    ((LegacyFetch.rangeOf_distinct recipient keyed).sublist
      ((unexpired_sublist found).map _)).of_map _
  refine ⟨_, read, (ordered_perm live).nodup_iff.mpr once, ordered_sorted live, fun record => ?_⟩
  rw [(ordered_perm live).mem_iff, mem_unexpired found]
  constructor
  · rintro ⟨member, alive⟩
    obtain ⟨rest, pair, same, _, state⟩ := inside member
    rcases state with dead | ⟨plain, held⟩
    · rw [dead now late] at alive
      cases alive
    · -- A plain key is under the prefix of its own recipient only.
      rw [plain.unique same.symm] at held
      exact ⟨⟨rest, held⟩, alive⟩
  · rintro ⟨⟨messageId, held⟩, alive⟩
    rcases agrees.present _ record held with dead | ⟨_, stored⟩
    · rw [dead now late] at alive
      cases alive
    · exact ⟨mem_rangeOf stored ⟨messageId, rfl⟩, alive⟩

/-- What is stored with a second colon is returned for another recipient. -/
theorem exact_plain {event : Event} {earlier : List (Event × Moment)}
    (late : ∀ old ∈ earlier, old.2.ms ≤ now.ms)
    (exactly : Exact P signer ((event, now) :: earlier)) : StoresPlain P signer event now := by
  intro pair record told alive
  by_contra colons
  have typed : Typed record pair.1 pair.2 := by
    have own : kept P signer ((event, now) :: earlier) pair = some record := by
      simp [kept, told]
    exact kept_typed own
  have living : record.isExpired now = .ok false := by
    obtain ⟨expired, known⟩ := typed.isExpired now
    cases expired with
    | true => exact absurd known alive
    | false => exact known
  have stored : (replay P signer ((event, now) :: earlier)).get (keyOf pair) = some record := by
    rw [replay]
    cases step_change P signer (replay P signer earlier) event now with
    | put own other same _ after =>
        cases told.symm.trans same
        rw [after, OrderedMap.get_set_self]
    | deleted own same _ => cases told.symm.trans same
    | cleaned same _ => cases told.symm.trans same
    | same same _ => cases told.symm.trans same
  -- Its key is also one of another recipient, whose range it is in.
  obtain ⟨recipient, messageId, foreign, key⟩ := foreign_prefix colons
  obtain ⟨messages, read, _, _, members⟩ := exactly now
    (List.forall_mem_cons.mpr ⟨Nat.le_refl _, late⟩) recipient
  obtain ⟨_, text, listed⟩ := bind_ok_iff.mp read
  cases text
  obtain ⟨live, found, sorted⟩ := bind_ok_iff.mp listed
  have returned : record ∈ messages := by
    rw [(sortByTimestamp_perm sorted).mem_iff, mem_unexpired found]
    exact ⟨mem_rangeOf stored ⟨messageId, key⟩, living⟩
  obtain ⟨⟨own, held⟩, _⟩ := (members record).mp returned
  exact foreign (kept_typed held |>.unique typed).1

end Reading

/-- In every history, the store is an exact map at every moment exactly when nothing with a
    second colon in its key is stored before it has expired. -/
theorem exact_store_iff (P : Packages) (signer : Option Signer) (history : History) :
    Always (Exact P signer) history.past ↔
      EachInput (fun input _ => StoresPlain P signer input.1 input.2) history.past := by
  constructor
  · intro exactly input earlier suffix
    exact exact_plain (history.timed input earlier suffix) (exactly _ suffix)
  · intro plain earlier suffix
    exact exact_of_agrees (agrees_replay (plain.suffix suffix))

/-- A message for a recipient with a colon, which `alice` is the beginning of. -/
def foreignMessage : History where
  past := [(.store "alice:x" "aGk=" RelayNode.sampleDraw, RelayNode.sampleMoment)]
  timed := by simp [eachInput_cons, eachInput_nil]

theorem foreign_message_returned :
    ¬ ∀ (P : Packages) (signer : Option Signer) (history : History),
      Always (Exact P signer) history.past := by
  intro claimed
  have exactly := claimed samplePackages none foreignMessage _ (List.suffix_refl _)
  have plain := exact_plain (fun _ member => absurd member List.not_mem_nil) exactly
  have told : change samplePackages none
      (.store "alice:x" "aGk=" RelayNode.sampleDraw) RelayNode.sampleMoment =
        some (("alice:x", RelayNode.sampleDraw.text), some (newRecord (.string "alice:x") "aGk="
          RelayNode.sampleDraw RelayNode.sampleMoment)) := by
    simp [change, RelayNode.newRecord_entry, toText, Except.map, Except.toOption]
  have single := (plain _ _ told (by
    rw [RelayNode.newRecord_expired]
    simp)).1
  exact single (by decide)

end Chainmail.MessageStore
