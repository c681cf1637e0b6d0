import Chainmail.Inbox
import Chainmail.Runs

/-!
What the user of `src/network/node.js` does to the messages in the inbox, among
the deliveries. Every delivery ends in calls of `storeMessage`, and every call
waits for the database, so the steps of a run are single writes; `markAsRead`
writes back an entry that it read at an earlier step.
-/

namespace Chainmail.DMailNode

open Json

variable {P : Packages}

def getMessage (node : Node) (messageId : String) : Option InboxEntry := node.inbox.get messageId

def putMessage (node : Node) (messageId : String) (msg : InboxEntry) : Node :=
  { node with inbox := node.inbox.set messageId msg }

def deleteMessage (node : Node) (messageId : String) : Node :=
  { node with inbox := node.inbox.delete messageId }

/-- `markAsRead` with nothing between its read and its write. -/
def markAsRead (node : Node) (messageId : String) : Node :=
  match getMessage node messageId with
  | none => node
  | some msg => putMessage node messageId { msg with read := true }

inductive Action where
  | store (messageId : String) (envelope : Json) (dhtReplicationCount : Option Json) (now : Nat)
  | readToMark (messageId : String)
  | writeMark (turn : Nat)
  | delete (messageId : String)

/-- The node and the `markAsRead` calls that have read a message and not written it yet. -/
structure Desk where
  node : Node
  marking : List (String × InboxEntry)

def act (desk : Desk) : Action → Desk
  | .store messageId envelope count now =>
      { desk with node := storeMessage desk.node messageId envelope count now }
  | .readToMark messageId =>
      match getMessage desk.node messageId with
      | none => desk
      | some msg => { desk with marking := desk.marking ++ [(messageId, msg)] }
  | .writeMark turn =>
      match desk.marking[turn]? with
      | none => desk
      | some (messageId, msg) =>
          ⟨putMessage desk.node messageId { msg with read := true }, desk.marking.eraseIdx turn⟩
  | .delete messageId => { desk with node := deleteMessage desk.node messageId }

theorem markAsRead_acts (node : Node) (messageId : String) :
    act (act ⟨node, []⟩ (.readToMark messageId)) (.writeMark 0) =
      ⟨markAsRead node messageId, []⟩ := by
  simp only [act, markAsRead]
  cases getMessage node messageId <;> rfl

/-- The last action comes first. -/
def replay (address : String) : List Action → Desk
  | [] => ⟨create address, []⟩
  | action :: earlier => act (replay address earlier) action

section Claims
variable (address : String)

/-- The entry under a key, after these actions. -/
def entryAt (past : List Action) (key : String) : Option InboxEntry :=
  getMessage (replay address past).node key

def Holds (past : List Action) (key : String) (envelope : Json) : Prop :=
  ∃ entry, entryAt address past key = some entry ∧ entry.envelope = envelope

/-- The action writes a read mark to the message. -/
def Marks (action : Action) (earlier : List Action) (messageId : String) : Prop :=
  ∃ turn msg, action = .writeMark turn ∧
    (replay address earlier).marking[turn]? = some (messageId, msg)

/-- The user deleted the envelope at some time, and it was not under this key then. -/
def Gone (past : List Action) (key : String) (envelope : Json) : Prop :=
  ∃ messageId earlier, .delete messageId :: earlier <:+ past ∧
    Holds address earlier messageId envelope ∧
    ¬ Holds address (.delete messageId :: earlier) key envelope

/-- What was marked stays read until it is deleted, and what was deleted is nowhere
    that it was not right after. -/
structure Remembers (past : List Action) : Prop where
  read : ∀ later action earlier messageId, past = later ++ action :: earlier →
    Marks address action earlier messageId → .delete messageId ∉ later →
      ∃ entry, entryAt address past messageId = some entry ∧ entry.read = true
  deleted : ∀ key envelope, Gone address past key envelope → ¬ Holds address past key envelope

/-- A delivery leaves read messages alone, and neither it nor a late `markAsRead`
    brings a deleted envelope back. -/
def Respects (action : Action) (earlier : List Action) : Prop :=
  match action with
  | .store messageId envelope _ _ =>
      (∀ entry, entryAt address earlier messageId = some entry → entry.read = false) ∧
        ¬ Gone address earlier messageId envelope
  | .writeMark turn => ∀ messageId msg, (replay address earlier).marking[turn]? =
      some (messageId, msg) → ¬ Gone address earlier messageId msg.envelope
  | _ => True

end Claims

section Steps
variable {address : String} {earlier : List Action} {key : String}

theorem entryAt_store (messageId : String) (envelope : Json) (count : Option Json) (now : Nat) :
    entryAt address (.store messageId envelope count now :: earlier) key =
      if key = messageId then some ⟨envelope, count, now, false⟩
      else entryAt address earlier key := by
  simp only [entryAt, replay, act, storeMessage, getMessage, OrderedMap.get_set]

theorem entryAt_readToMark (messageId : String) :
    entryAt address (.readToMark messageId :: earlier) key = entryAt address earlier key := by
  simp only [entryAt, replay, act]
  split <;> rfl

theorem entryAt_writeMark {turn : Nat} {messageId : String} {msg : InboxEntry}
    (pending : (replay address earlier).marking[turn]? = some (messageId, msg)) :
    entryAt address (.writeMark turn :: earlier) key =
      if key = messageId then some { msg with read := true } else entryAt address earlier key := by
  simp only [entryAt, replay, act, pending, putMessage, getMessage, OrderedMap.get_set]

theorem entryAt_writeMark_none {turn : Nat}
    (pending : (replay address earlier).marking[turn]? = none) :
    entryAt address (.writeMark turn :: earlier) key = entryAt address earlier key := by
  simp only [entryAt, replay, act, pending]

theorem entryAt_delete (messageId : String) :
    entryAt address (.delete messageId :: earlier) key =
      if key = messageId then none else entryAt address earlier key := by
  simp only [entryAt, replay, act, deleteMessage, getMessage, OrderedMap.get_delete]

/-- An action writes an entry under a key or leaves the key as it was or empty. -/
theorem entryAt_cons (address : String) (earlier : List Action) (key : String) (action : Action) :
    entryAt address (action :: earlier) key = entryAt address earlier key ∨
      (action = .delete key ∧ entryAt address (action :: earlier) key = none) ∨
      (∃ envelope count now, action = .store key envelope count now ∧
        entryAt address (action :: earlier) key = some ⟨envelope, count, now, false⟩) ∨
      ∃ turn msg, action = .writeMark turn ∧
        (replay address earlier).marking[turn]? = some (key, msg) ∧
        entryAt address (action :: earlier) key = some { msg with read := true } := by
  cases action with
  | store messageId envelope count now =>
      rw [entryAt_store]
      by_cases own : key = messageId
      · subst own
        exact .inr (.inr (.inl ⟨envelope, count, now, rfl, if_pos rfl⟩))
      · exact .inl (if_neg own)
  | readToMark messageId => exact .inl (entryAt_readToMark messageId)
  -- The mark is written over the entry as it was read, which may have gone since.
  | writeMark turn =>
      cases pending : (replay address earlier).marking[turn]? with
      | none => exact .inl (entryAt_writeMark_none pending)
      | some marked =>
          obtain ⟨messageId, msg⟩ := marked
          rw [entryAt_writeMark pending]
          by_cases own : key = messageId
          · subst own
            exact .inr (.inr (.inr ⟨turn, msg, rfl, pending, if_pos rfl⟩))
          · exact .inl (if_neg own)
  | delete messageId =>
      rw [entryAt_delete]
      by_cases own : key = messageId
      · subst own
        exact .inr (.inl ⟨rfl, if_pos rfl⟩)
      · exact .inl (if_neg own)

/-- A read entry was marked, and not deleted since. -/
theorem read_marked {past : List Action} {entry : InboxEntry}
    (held : entryAt address past key = some entry) (read : entry.read = true) :
    ∃ later action earlier, past = later ++ action :: earlier ∧
      Marks address action earlier key ∧ .delete key ∉ later := by
  induction past generalizing entry with
  | nil => cases held
  | cons action earlier ih =>
      rcases entryAt_cons address earlier key action with
        same | ⟨_, empty⟩ | ⟨envelope, count, now, _, stored⟩ | ⟨turn, msg, marks, pending, _⟩
      · obtain ⟨later, marking, before, rfl, marks, undeleted⟩ := ih (same ▸ held) read
        refine ⟨action :: later, marking, before, rfl, marks, ?_⟩
        -- A deletion now would have left nothing under the key.
        rintro (_ | ⟨_, inside⟩)
        · rw [entryAt_delete, if_pos rfl] at held
          cases held
        · exact undeleted inside
      · cases empty.symm.trans held
      · cases stored.symm.trans held
        cases read
      · exact ⟨[], action, earlier, rfl, ⟨turn, msg, marks, pending⟩, List.not_mem_nil⟩

theorem gone_cons {action : Action} {envelope : Json}
    (gone : Gone address (action :: earlier) key envelope) :
    ¬ Holds address (action :: earlier) key envelope ∨ Gone address earlier key envelope := by
  obtain ⟨messageId, before, suffix, held, absent⟩ := gone
  rcases List.suffix_cons_iff.mp suffix with now | older
  · exact .inl (now ▸ absent)
  · exact .inr ⟨messageId, before, older, held, absent⟩

theorem gone_later {action : Action} {envelope : Json} (gone : Gone address earlier key envelope) :
    Gone address (action :: earlier) key envelope := by
  obtain ⟨messageId, before, suffix, held, absent⟩ := gone
  exact ⟨messageId, before, suffix.trans (List.suffix_cons _ _), held, absent⟩

theorem respects_of_remembers {action : Action} (remembers : Remembers address (action :: earlier)) :
    Respects address action earlier := by
  cases action with
  | store messageId envelope count now =>
      have stored : entryAt address (.store messageId envelope count now :: earlier) messageId =
          some ⟨envelope, count, now, false⟩ := by rw [entryAt_store, if_pos rfl]
      constructor
      · intro entry held
        by_contra read
        -- What is read was marked before, and the store has made it unread again.
        obtain ⟨later, action, before, same, marks, undeleted⟩ :=
          read_marked held (Bool.not_eq_false _ ▸ read)
        obtain ⟨kept, now, still⟩ := remembers.read (_ :: later) action before messageId
          (congrArg _ same) marks (by simpa using undeleted)
        cases stored.symm.trans now
        cases still
      · exact fun gone => remembers.deleted _ _ (gone_later gone) ⟨_, stored, rfl⟩
  | readToMark messageId => trivial
  | writeMark turn =>
      intro messageId msg pending gone
      have written : entryAt address (.writeMark turn :: earlier) messageId =
          some { msg with read := true } := by rw [entryAt_writeMark pending, if_pos rfl]
      exact remembers.deleted _ _ (gone_later gone) ⟨_, written, rfl⟩
  | delete messageId => trivial

theorem remembers_of_respects {action : Action} (remembers : Remembers address earlier)
    (respects : Respects address action earlier) : Remembers address (action :: earlier) where
  read later marking before messageId same marks undeleted := by
    cases later with
    | nil =>
        cases same
        obtain ⟨turn, msg, rfl, pending⟩ := marks
        exact ⟨_, by rw [entryAt_writeMark pending, if_pos rfl], rfl⟩
    | cons latest later =>
        cases same
        rw [List.mem_cons, not_or] at undeleted
        -- It was read before this action; only a delivery can undo that.
        obtain ⟨entry, held, read⟩ := remembers.read later marking before messageId rfl marks undeleted.2
        rcases entryAt_cons address _ messageId action with
          same | ⟨deletes, _⟩ | ⟨envelope, count, now, rfl, _⟩ | ⟨turn, msg, _, _, written⟩
        · exact ⟨entry, same.trans held, read⟩
        · exact absurd deletes.symm undeleted.1
        · rw [respects.1 entry held] at read
          cases read
        · exact ⟨_, written, rfl⟩
  deleted key envelope gone holds := by
    rcases gone_cons gone with absent | older
    · exact absent holds
    · obtain ⟨entry, held, same⟩ := holds
      rcases entryAt_cons address earlier key action with
        unchanged | ⟨_, empty⟩ | ⟨other, count, now, rfl, stored⟩ | ⟨turn, msg, rfl, pending, written⟩
      · exact remembers.deleted key envelope older ⟨entry, unchanged.symm.trans held, same⟩
      · cases empty.symm.trans held
      · cases stored.symm.trans held
        obtain rfl : other = envelope := same
        exact respects.2 older
      · cases written.symm.trans held
        obtain rfl : msg.envelope = envelope := same
        exact respects key msg pending older

end Steps

/-- In every run, what the user did to the messages stands at every moment exactly
    when no step stores over a read message or brings a deleted envelope back. -/
theorem user_actions_stand_iff (address : String) (past : List Action) :
    Always (Remembers address) past ↔ EachInput (Respects address) past := by
  have free : EachInput (fun _ _ => True) past := fun _ _ _ => trivial
  refine always_iff_each free ?_ ?_
  · constructor
    · intro later action earlier messageId same
      cases later <;> cases same
    · rintro key envelope ⟨messageId, earlier, suffix, _⟩
      simp at suffix
  · exact fun _ _ _ remembers => ⟨respects_of_remembers, remembers_of_respects remembers⟩

section Deliveries
variable {allowed wider : List Delivery} {node middle after : Node}

/-- `after` comes from `node` by storing some of the deliveries. -/
def Stored (allowed : List Delivery) (node after : Node) : Prop :=
  ∃ actions : List Action,
    (∀ action ∈ actions, ∃ delivery ∈ allowed, ∃ count now,
      action = .store delivery.key delivery.envelope count now) ∧
    ∀ marking, actions.foldl act ⟨node, marking⟩ = ⟨after, marking⟩

theorem Stored.refl : Stored allowed node node :=
  ⟨[], fun _ member => absurd member List.not_mem_nil, fun _ => rfl⟩

theorem Stored.trans (first : Stored allowed node middle) (second : Stored allowed middle after) :
    Stored allowed node after := by
  obtain ⟨earlier, each, reached⟩ := first
  obtain ⟨later, others, ended⟩ := second
  refine ⟨earlier ++ later, fun action member => ?_, fun marking => ?_⟩
  · rcases List.mem_append.mp member with old | new
    · exact each action old
    · exact others action new
  · rw [List.foldl_append, reached, ended]

theorem Stored.store {delivery : Delivery} (count : Option Json) (now : Nat)
    (listed : delivery ∈ allowed) :
    Stored allowed node (storeMessage node delivery.key delivery.envelope count now) := by
  refine ⟨[.store delivery.key delivery.envelope count now], fun action member => ?_, fun _ => rfl⟩
  exact ⟨delivery, listed, count, now, List.mem_singleton.mp member⟩

theorem Stored.mono (stored : Stored allowed node after) (inside : allowed ⊆ wider) :
    Stored wider node after := by
  obtain ⟨actions, each, reached⟩ := stored
  refine ⟨actions, fun action member => ?_, reached⟩
  obtain ⟨delivery, listed, made⟩ := each action member
  exact ⟨delivery, inside listed, made⟩

theorem stored_records (countOf : Json → Option Json) (now : Nat) (records : List Json)
    (listed : records.filterMap (recordDelivery P) ⊆ allowed) :
    Stored allowed node (records.foldl (storeRecord P countOf now) node) := by
  induction records generalizing node with
  | nil => exact .refl
  | cons record rest ih =>
      rw [List.foldl_cons]
      cases found : identified P record with
      | error failure =>
          have silent : recordDelivery P record = none := by
            simp [recordDelivery, found, Except.toOption]
          rw [List.filterMap_cons_none silent] at listed
          simpa only [storeRecord, found] using ih listed
      | ok pair =>
          have spoken : recordDelivery P record = some ⟨pair.1, pair.2⟩ := by
            simp [recordDelivery, found, Except.toOption]
          rw [List.filterMap_cons_some spoken] at listed
          obtain ⟨here, others⟩ := List.cons_subset.mp listed
          simp only [storeRecord, found]
          exact (Stored.store (countOf record) now here).trans (ih others)

theorem stored_messages (now : Nat) (messages : List Collected) (held : List Json × Node)
    (listed : messages.filterMap (fun message => (messageDelivery P message).toOption) ⊆ allowed) :
    Stored allowed held.2 (takeMessages P now messages held).2 := by
  induction messages generalizing held with
  | nil => exact .refl
  | cons message rest ih =>
      obtain ⟨seenMessages, node⟩ := held
      have later : rest.filterMap (fun message => (messageDelivery P message).toOption) ⊆ allowed :=
        fun _ member => listed ((List.sublist_cons_self message rest).filterMap _ |>.mem member)
      rw [takeMessages]
      cases identifiedAs : idOf P message with
      | error failure => exact .refl
      | ok id =>
          simp only
          split
          · exact ih (seenMessages, node) later
          · cases shown : toText id with
            | error failure => exact .refl
            | ok key =>
                have spoken : (messageDelivery P message).toOption = some ⟨key, message.envelope⟩ := by
                  simp [messageDelivery, identifiedAs, shown, Except.toOption, pure, Except.pure]
                have here := listed (List.mem_filterMap.mpr ⟨message, List.mem_cons_self, spoken⟩)
                exact (Stored.store none now here).trans (ih (_, storeMessage ..) later)

theorem stored_answers (now : Nat) (answers : List PeerAnswer) (held : List Json × Node)
    (listed : answers.flatMap (answerDeliveries P) ⊆ allowed) :
    Stored allowed held.2 (answers.foldl (fun held answer =>
      takeMessages P now (fetchMessagesFromPeer P answer) held) held).2 := by
  induction answers generalizing held with
  | nil => exact .refl
  | cons answer rest ih =>
      rw [List.flatMap_cons] at listed
      obtain ⟨here, later⟩ := List.append_subset.mp listed
      rw [List.foldl_cons]
      exact (stored_messages now _ held here).trans (ih _ later)

/-- Every delivery does to the inbox what some `store` actions do. -/
theorem step_stores (event : Event) (node : Node) :
    ∃ before, before.inbox = node.inbox ∧
      Stored (deliveries P node.address event) before (step P node event) := by
  cases event with
  | gossip data now =>
      refine ⟨node, rfl, ?_⟩
      delta step handleIncomingMessage deliveries
      dsimp only
      cases found : incoming P node.address data with
      | error failure => exact .refl
      | ok delivery =>
          cases delivery with
          | none => exact .refl
          | some message => exact .store none now List.mem_cons_self
  | send envelope now =>
      delta step deliveries
      dsimp only [sendMessage]
      cases found : getMessageId P envelope with
      | error failure => exact ⟨node, rfl, .refl⟩
      | ok messageId =>
          refine ⟨{ node with sent := node.sent.set messageId ⟨envelope, now⟩ }, rfl, ?_⟩
          simp only
          split
          · exact .store none now List.mem_cons_self
          · exact .refl
  -- What a peer answers is stored record by record, until one cannot be read.
  | fetchDHT answer now =>
      refine ⟨node, rfl, ?_⟩
      delta step fetchFromPeerDHT deliveries
      dsimp only
      cases recordsDHT P answer with
      | error failure => exact .refl
      | ok records => exact stored_records _ now records (List.Subset.refl _)
  | fetchLegacy answer now =>
      refine ⟨node, rfl, ?_⟩
      delta step fetchFromPeerLegacy deliveries
      dsimp only
      cases recordsLegacy P answer with
      | error failure => exact .refl
      | ok records => exact stored_records _ now records (List.Subset.refl _)
  | fetchAll answers now =>
      exact ⟨node, rfl, stored_answers now answers ([], node) (List.Subset.refl _)⟩

end Deliveries

section Again

def noteStored (now : Nat) : Action := .store noteId note none now

/-- The note comes, is marked as read and comes once more. -/
def readAndHeardAgain : List Action :=
  [noteStored 2, .writeMark 0, .readToMark noteId, noteStored 1]

/-- The note comes, is deleted and comes once more. -/
def deletedAndHeardAgain : List Action := [noteStored 2, .delete noteId, noteStored 1]

theorem note_stored (node : Node) (now : Nat) (alice : node.address = "alice") :
    handleIncomingMessage samplePackages node (utf8Encode (stringify note)) now =
      storeMessage node noteId note none now := by
  delta handleIncomingMessage
  rw [alice, note_incoming]

theorem readAndHeardAgain_read :
    entryAt "alice" readAndHeardAgain noteId = some ⟨note, none, 2, false⟩ ∧
      Marks "alice" (.writeMark 0) [.readToMark noteId, noteStored 1] noteId := by
  constructor
  · rw [readAndHeardAgain, noteStored, entryAt_store, if_pos rfl]
  · refine ⟨0, ⟨note, none, 1, false⟩, rfl, ?_⟩
    simp [replay, act, noteStored, storeMessage, getMessage]

/-- Each time the note comes again, it is unread again, or there again. -/
theorem note_heard_again :
    ¬ Remembers "alice" readAndHeardAgain ∧ ¬ Remembers "alice" deletedAndHeardAgain ∧
    ∀ node : Node, node.address = "alice" →
      getMessage (handleIncomingMessage samplePackages (markAsRead node noteId)
        (utf8Encode (stringify note)) 2) noteId = some ⟨note, none, 2, false⟩ ∧
      getMessage (handleIncomingMessage samplePackages (deleteMessage node noteId)
        (utf8Encode (stringify note)) 2) noteId = some ⟨note, none, 2, false⟩ := by
  refine ⟨fun remembers => ?_, fun remembers => ?_, fun node alice => ⟨?_, ?_⟩⟩
  · obtain ⟨entry, held, read⟩ := remembers.read [noteStored 2] (.writeMark 0)
      [.readToMark noteId, noteStored 1] noteId rfl readAndHeardAgain_read.2 (by simp [noteStored])
    cases readAndHeardAgain_read.1.symm.trans held
    cases read
  · have held : Holds "alice" [noteStored 1] noteId note :=
      ⟨_, by rw [noteStored, entryAt_store, if_pos rfl], rfl⟩
    have deleted : ¬ Holds "alice" [.delete noteId, noteStored 1] noteId note := by
      rintro ⟨entry, found, _⟩
      rw [entryAt_delete, if_pos rfl] at found
      cases found
    have again : Holds "alice" deletedAndHeardAgain noteId note :=
      ⟨_, by rw [deletedAndHeardAgain, noteStored, entryAt_store, if_pos rfl], rfl⟩
    exact remembers.deleted noteId note
      ⟨noteId, [noteStored 1], List.suffix_cons _ _, held, deleted⟩ again
  · rw [note_stored _ _ (by unfold markAsRead; split <;> exact alice), getMessage, storeMessage,
      OrderedMap.get_set_self]
  · rw [note_stored (deleteMessage node noteId) _ alice, getMessage, storeMessage, OrderedMap.get_set_self]

end Again
end Chainmail.DMailNode
