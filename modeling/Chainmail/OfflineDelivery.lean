import Chainmail.EnvelopeRoundTrips
import Chainmail.HexBuffers
import Chainmail.MessageStore
import Chainmail.RelayAnswers
import Chainmail.RoutingKeys

/-!
Mail for somebody who is offline. A node of `src/network/node.js` publishes a sealed envelope and
posts it to the relays it is connected to. A relay of `src/network/relay-node.js` keeps what it
hears or is sent, and sends copies to others, and the recipient's node asks one of them once it
is back.
-/

namespace Chainmail.OfflineDelivery

open Json DhtStorage RelayNode DMailNode
open RecordHops (Hop Kept chain chain_keeps chain_willing signingHop
  withProof_kept withProof_sendable withProof_willing)
open SealedEnvelope (generateRoutingToken)
open Senders (greeting)

section Claims
variable (P : Packages) (signer : Option Signer)

/-- What is published of an envelope. -/
def published (envelope : Json) : Bytes := utf8Encode (stringify envelope)

/-- What a relay answers to the fetch request of an address. -/
def answer (address : String) (now : Moment) (relay : Relay) : String :=
  stringify (handleDHTFetchRequest (utf8Encode (fetchRequest P address)) now relay)

/-- The record that a relay makes of an envelope, which has the time of its sender. -/
def recordOf (address : String) (envelope : Json) (drawn : RandomId) (sentAt made : Moment) :
    MessageRecord :=
  .construct (.object [("recipient", .string (generateRoutingToken P address)),
    ("data", .string (toBase64 (published envelope))), ("timestamp", ofInt sentAt.ms)]) [] drawn
    made

/-- How a relay comes by the envelope: it hears of it, or its sender posts it, or it is sent the
    record of a node that came by it at that time, after any number of hops. -/
inductive Arrives (address : String) (envelope : Json) (drawn : RandomId) (made : Moment) :
    RelayNode.Event → Moment → Prop
  | heard (coordinator : Option Replication) : Arrives address envelope drawn made
      (.gossip (published envelope) true drawn coordinator) made
  | posted (connections : List (String × Option Nat)) (sent : List (String × String))
      (peer text : String) (posts : storeOnRelays envelope connections = .ok sent)
      (member : (peer, text) ∈ sent)
      (after1970 : ∀ connection ∈ connections, connection.2 ≠ some 0) :
      Arrives address envelope drawn made (.storeRequest (utf8Encode text) drawn) made
  | copied (sentAt : Moment) (other : Option Signer) (first last : MessageRecord)
      (hops : List Hop) (draw : RandomId) (now : Moment)
      (stored : withProof P other (recordOf P address envelope drawn sentAt made) made = .ok first)
      (passed : chain P first hops = some last) :
      Arrives address envelope drawn made (.storeRequest (RecordHops.storeRequest last) draw) now

/-- A record of other mail: it has an id of its own, its times are read as numbers, and it does
    not bring another envelope under the id of this one. -/
structure Foreign (drawn messageId : String) (envelope : Json) (record : MessageRecord) :
    Prop where
  id : spliced (some record.id) ≠ .ok drawn
  timestamp : ∃ time, toNumber record.timestamp = .ok time
  expires : ∃ time, toNumber record.expires = .ok time
  genuine : ∀ other, identified P record.toJSON = .ok (messageId, other) → other = envelope

/-- A relay's history around the event that brings it an envelope, up to a fetch. The record of
    the envelope was made with this id and at this time. -/
structure Wait where
  drawn : RandomId
  made : Moment
  before : List (RelayNode.Event × Moment)
  event : RelayNode.Event
  stored : Moment
  later : List (RelayNode.Event × Moment)
  now : Moment

/-- The last event comes first. -/
def Wait.past (wait : Wait) : List (RelayNode.Event × Moment) :=
  wait.later ++ (wait.event, wait.stored) :: wait.before

/-- The week is not over, nobody deletes the envelope, and what else is stored is other mail. -/
structure Wait.Undisturbed (wait : Wait) (address messageId : String) (envelope : Json) :
    Prop where
  inTime : ∀ time ∈ wait.now :: wait.later.map Prod.snd, time.ms ≤ wait.made.ms + MESSAGE_TTL_MS
  undeleted : ∀ input ∈ wait.later,
    ¬ Deletes (generateRoutingToken P address ++ ":" ++ wait.drawn.text) input.1
  foreign : ∀ input ∈ wait.later ++ wait.before, ∀ entry ∈ written P signer input.1 input.2,
    Foreign P wait.drawn.text messageId envelope entry.2

/-- A record that is made of the envelope at that time, under some id. -/
def Copy (address : String) (envelope : Json) (made : Moment) (record : MessageRecord) : Prop :=
  ∃ drawn sentAt, Kept (recordOf P address envelope drawn sentAt made) record

/-- The event stores the envelope under the token of the address and that id, and stores nothing
    but copies of it. -/
structure Stores (address : String) (envelope : Json) (drawn : RandomId) (made : Moment)
    (event : RelayNode.Event) (now : Moment) : Prop where
  kept : ∃ record, (generateRoutingToken P address ++ ":" ++ drawn.text, record) ∈
    written P signer event now
  copies : ∀ entry ∈ written P signer event now, Copy P address envelope made entry.2

end Claims

variable {P : Packages} {signer : Option Signer}

section Names

theorem toHex_plain (bytes : Bytes) : ':' ∉ (toHex bytes).toList := by
  have digit : ∀ value : Fin 16, ':' ≠ Nat.digitChar value := by decide
  rw [toHex, String.toList_ofList, List.mem_flatMap]
  rintro ⟨byte, _, letter⟩
  have small : byte.toNat < 256 := byte.toNat_lt
  rcases List.mem_cons.mp letter with high | rest
  · exact digit ⟨byte.toNat / 16, by omega⟩ high
  · exact digit ⟨byte.toNat % 16, by omega⟩ (List.mem_singleton.mp rest)

theorem toHex_nonempty {bytes : Bytes} (some : 0 < bytes.length) : toHex bytes ≠ "" := by
  intro blank
  have letters := congrArg String.toList blank
  cases bytes with
  | nil => cases some
  | cons byte rest => simp [toHex, byteHex] at letters

/-- A record under a key of two hexadecimal texts has the second for its id. -/
theorem id_of_key {record : MessageRecord} {token drawn : Bytes}
    (keyed : messageKey record.recipient (some record.id) =
      .ok (toHex token ++ ":" ++ toHex drawn)) : spliced (some record.id) = .ok (toHex drawn) := by
  obtain ⟨recipient, _, rest⟩ := bind_ok_iff.mp keyed
  obtain ⟨messageId, text, made⟩ := bind_ok_iff.mp rest
  have same : MessageStore.keyOf (toHex token, toHex drawn) =
      MessageStore.keyOf (recipient, messageId) := (Except.ok.inj made).symm
  have plain : MessageStore.Plain (toHex token, toHex drawn) :=
    ⟨toHex_plain token, toHex_plain drawn⟩
  have own : toHex drawn = messageId := congrArg Prod.snd (plain.unique same)
  rw [text, own]

end Names

section Storing

theorem entryOf_kept {record : MessageRecord} {entry : String × MessageRecord} {now : Moment}
    (entered : entryOf P signer record now = .ok entry) : Kept record entry.2 := by
  obtain ⟨kept, proved, rest⟩ := bind_ok_iff.mp entered
  obtain ⟨key, _, made⟩ := bind_ok_iff.mp rest
  cases made
  exact withProof_kept proved

variable {address : String} {envelope : Json} {drawn : RandomId} {sentAt made now : Moment}
  {record : MessageRecord}

theorem recordOf_recipient : (recordOf P address envelope drawn sentAt made).recipient =
    some (.string (generateRoutingToken P address)) := by
  simp [recordOf, MessageRecord.construct, field, lookup]

theorem recordOf_id : (recordOf P address envelope drawn sentAt made).id = .string drawn.text := by
  simp [recordOf, MessageRecord.construct, field, lookup, orElse]

theorem recordOf_data : (recordOf P address envelope drawn sentAt made).data =
    some (.string (toBase64 (published envelope))) := by
  simp [recordOf, MessageRecord.construct, field, lookup]

theorem recordOf_timestamp : (recordOf P address envelope drawn sentAt made).timestamp =
    ofInt sentAt.ms := by
  simp [recordOf, MessageRecord.construct, field, lookup,
    orElse_of_truthy _ (truthy_ofInt sentAt.positive)]

theorem recordOf_expires : (recordOf P address envelope drawn sentAt made).expires =
    ofInt (made.ms + MESSAGE_TTL_MS : Nat) := by
  simp [recordOf, MessageRecord.construct, field, lookup, orElse]

theorem recordOf_sendable (P : Packages) (address : String) (envelope : Json) (drawn : RandomId)
    (sentAt made : Moment) :
    RecordHops.Sendable (recordOf P address envelope drawn sentAt made) where
  id := ⟨_, recordOf_id⟩
  recipient := ⟨_, recordOf_recipient, trivial, _, rfl⟩
  data := ⟨_, recordOf_data⟩
  timestamp := by
    rw [recordOf_timestamp]
    exact canonical_natural sentAt.ms
  expires := by
    rw [recordOf_expires]
    exact canonical_natural _
  storageProofs proof member := by cases member
  replicationCount := ⟨0, by simp [recordOf, MessageRecord.construct, field, lookup, orElse]⟩

theorem recordOf_key (kept : Kept (recordOf P address envelope drawn sentAt made) record) :
    messageKey record.recipient (some record.id) =
      .ok (generateRoutingToken P address ++ ":" ++ drawn.text) := by
  rw [kept.recipient, kept.id, recordOf_recipient, recordOf_id]
  rfl

/-- A node whose signer signs stores a copy under its key. -/
theorem copy_entered (kept : Kept (recordOf P address envelope drawn sentAt made) record)
    (sendable : RecordHops.Sendable record) (now : Moment)
    (willing : ∀ one ∈ signer, ∀ bytes, (one.signFn bytes).isSome) : ∃ after,
    entryOf P signer record now =
      .ok (generateRoutingToken P address ++ ":" ++ drawn.text, after) := by
  obtain ⟨after, proved⟩ := withProof_willing (P := P) sendable now willing
  refine ⟨after, ?_⟩
  rw [entryOf, proved, ok_bind, recordOf_key (kept.trans (withProof_kept proved))]
  rfl

theorem gossip_stores
    (accepted : acceptedKey (published envelope) true =
      .ok (some (.string (generateRoutingToken P address))))
    (willing : ∀ one ∈ signer, ∀ bytes, (one.signFn bytes).isSome)
    (coordinator : Option Replication) :
    Stores P signer address envelope drawn made
      (.gossip (published envelope) true drawn coordinator) made where
  kept := by
    obtain ⟨record, entered⟩ := copy_entered (.refl _)
      (recordOf_sendable P address envelope drawn made made) made willing
    rw [recordOf] at entered
    refine ⟨record, ?_⟩
    delta written
    dsimp only
    rw [accepted]
    exact List.mem_append_left _ (by rw [newRecord, entered]; exact List.mem_cons_self)
  copies entry wrote := by
    obtain ⟨key, other, named, entered⟩ := gossip_entry wrote
    cases accepted.symm.trans named
    exact ⟨other, made, entryOf_kept entered⟩

/-- A store request for a copy stores it. -/
theorem request_stores {data : Bytes} {draw : RandomId}
    (requested : requestedRecord data draw now = .ok (some record))
    (kept : Kept (recordOf P address envelope drawn sentAt made) record)
    (sendable : RecordHops.Sendable record)
    (willing : ∀ one ∈ signer, ∀ bytes, (one.signFn bytes).isSome) :
    Stores P signer address envelope drawn made (.storeRequest data draw) now where
  kept := by
    obtain ⟨after, entered⟩ := copy_entered kept sendable now willing
    refine ⟨after, ?_⟩
    rw [written_storeRequest requested, entered]
    exact List.mem_cons_self
  copies entry wrote := by
    obtain ⟨other, again, entered⟩ := request_entry wrote
    cases requested.symm.trans again
    exact ⟨drawn, sentAt, kept.trans (entryOf_kept entered)⟩

theorem posts_text {connections : List (String × Option Nat)} {sent : List (String × String)}
    {peer text : String} {key : Json} (keyed : DMailNode.storageKey envelope = .ok (some key))
    (posts : storeOnRelays envelope connections = .ok sent) (member : (peer, text) ∈ sent)
    (after1970 : ∀ connection ∈ connections, connection.2 ≠ some 0) :
    ∃ sentAt : Moment, text = DMailNode.storeRequest key envelope sentAt.ms := by
  obtain ⟨connection, inside, now, dialled, made⟩ := storeOnRelays_key keyed posts _ member
  have positive : 0 < now := by
    apply Nat.pos_of_ne_zero
    rintro rfl
    exact after1970 connection inside dialled
  exact ⟨⟨now, positive⟩, made⟩

/-- What a sender posts is read as the record that is made of it. -/
theorem posted_requested (draw : RandomId) :
    requestedRecord (utf8Encode (DMailNode.storeRequest
        (.string (generateRoutingToken P address)) envelope sentAt.ms)) draw made =
      .ok (some (recordOf P address envelope draw sentAt made)) := by
  have options : Canonical (.object [("recipient", .string (generateRoutingToken P address)),
      ("data", .string (toBase64 (published envelope))), ("timestamp", ofInt sentAt.ms)]) :=
    canonical_object ["recipient", "data", "timestamp"] rfl (by decide)
      ⟨trivial, trivial, canonical_natural sentAt.ms, trivial⟩
  exact requestedRecord_options draw made options rfl

/-- However the envelope arrives, it is stored. -/
theorem Arrives.stores {event : RelayNode.Event}
    (arrives : Arrives P address envelope drawn made event now)
    (accepted : acceptedKey (published envelope) true =
      .ok (some (.string (generateRoutingToken P address))))
    (keyed : DMailNode.storageKey envelope =
      .ok (some (.string (generateRoutingToken P address))))
    (willing : ∀ one ∈ signer, ∀ bytes, (one.signFn bytes).isSome) :
    Stores P signer address envelope drawn made event now := by
  cases arrives with
  | heard coordinator => exact gossip_stores accepted willing coordinator
  | posted connections sent peer text posts member after1970 =>
      obtain ⟨sentAt, rfl⟩ := posts_text keyed posts member after1970
      exact request_stores (posted_requested drawn) (.refl _)
        (recordOf_sendable P address envelope drawn sentAt made) willing
  | copied sentAt other first last hops draw now stored passed =>
      have sendable := withProof_sendable (recordOf_sendable ..) stored
      obtain ⟨lastSendable, kept⟩ := chain_keeps hops sendable passed
      exact request_stores (lastSendable.requested draw now)
        ((withProof_kept stored).trans kept) lastSendable willing

end Storing

section Copies
variable {address : String} {envelope : Json} {made : Moment} {record other : MessageRecord}

theorem Copy.data (copy : Copy P address envelope made record) :
    record.data = some (.string (toBase64 (published envelope))) := by
  obtain ⟨drawn, sentAt, kept⟩ := copy
  rw [kept.data, recordOf_data]

theorem Copy.timestamp (copy : Copy P address envelope made record) :
    ∃ time, toNumber record.timestamp = .ok time := by
  obtain ⟨drawn, sentAt, kept⟩ := copy
  exact ⟨_, by rw [kept.timestamp, recordOf_timestamp, toNumber_natural]⟩

theorem Copy.isExpired (copy : Copy P address envelope made record) (now : Moment) :
    record.isExpired now = .ok (decide (made.ms + MESSAGE_TTL_MS < now.ms)) := by
  obtain ⟨drawn, sentAt, kept⟩ := copy
  rw [MessageRecord.isExpired, kept.expires, recordOf_expires, toNumber_natural, ok_bind,
    JsNumber.ofNat_lt_ofNat]
  rfl

/-- The id of a copy is the second half of its key. -/
theorem Copy.id {drawn : RandomId} (copy : Copy P address envelope made record)
    (keyed : messageKey record.recipient (some record.id) =
      .ok (generateRoutingToken P address ++ ":" ++ drawn.text)) :
    record.id = .string drawn.text := by
  obtain ⟨own, sentAt, kept⟩ := copy
  have id : record.id = .string own.text := kept.id.trans recordOf_id
  have text : spliced (some record.id) = .ok drawn.text := id_of_key keyed
  rw [id] at text ⊢
  exact congrArg _ (Except.ok.inj text)

/-- A copy under the same key may take the place of another. -/
theorem Copy.agrees {drawn : RandomId} (copy : Copy P address envelope made record)
    (keyed : messageKey record.recipient (some record.id) =
      .ok (generateRoutingToken P address ++ ":" ++ drawn.text))
    (again : Copy P address envelope made other)
    (sameKey : messageKey other.recipient (some other.id) =
      .ok (generateRoutingToken P address ++ ":" ++ drawn.text)) : Agrees record other where
  id := (again.id sameKey).trans (copy.id keyed).symm
  data := again.data.trans copy.data.symm
  expires now expired := by rwa [copy.isExpired, ← again.isExpired]

end Copies

section Waiting

/-- What is held under a key stays through the events that leave it alone. -/
theorem holds_through {key : String} {record : MessageRecord}
    {past : List (RelayNode.Event × Moment)} (later : List (RelayNode.Event × Moment))
    (holds : Holds key record (replay P signer past).db)
    (agree : ∀ input ∈ later, ∀ entry ∈ written P signer input.1 input.2, entry.1 = key →
      Agrees record entry.2)
    (undeleted : ∀ input ∈ later, ¬ Deletes key input.1)
    (alive : ∀ input ∈ later, record.isExpired input.2 ≠ .ok true) :
    Holds key record (replay P signer (later ++ past)).db := by
  induction later with
  | nil => exact holds
  | cons input rest ih =>
      have before := ih (fun other member => agree other (List.mem_cons_of_mem _ member))
        (fun other member => undeleted other (List.mem_cons_of_mem _ member))
        (fun other member => alive other (List.mem_cons_of_mem _ member))
      exact before.step (agree input List.mem_cons_self) (undeleted input List.mem_cons_self)
        (alive input List.mem_cons_self)

theorem written_key {event : RelayNode.Event} {now : Moment} {entry : String × MessageRecord}
    (wrote : entry ∈ written P signer event now) :
    messageKey entry.2.recipient (some entry.2.id) = .ok entry.1 := by
  obtain ⟨_, entered⟩ := written_entry wrote
  exact entryOf_key entered

variable {wait : Wait} {address messageId : String} {envelope : Json}

theorem Wait.holds (undisturbed : wait.Undisturbed P signer address messageId envelope)
    (stores : Stores P signer address envelope wait.drawn wait.made wait.event wait.stored) :
    ∃ record, record.id = .string wait.drawn.text ∧
      record.isExpired wait.now = .ok false ∧
      Holds (generateRoutingToken P address ++ ":" ++ wait.drawn.text) record
        (replay P signer wait.past).db := by
  obtain ⟨record, wrote⟩ := stores.kept
  have copy := stores.copies _ wrote
  have alive {time : Moment} (inTime : time.ms ≤ wait.made.ms + MESSAGE_TTL_MS) :
      record.isExpired time = .ok false := by
    rw [copy.isExpired]
    exact congrArg _ (decide_eq_false (by omega))
  refine ⟨record, copy.id (written_key wrote),
    alive (undisturbed.inTime _ List.mem_cons_self), ?_⟩
  have stored : Holds (generateRoutingToken P address ++ ":" ++ wait.drawn.text) record
      (replay P signer ((wait.event, wait.stored) :: wait.before)).db := by
    rw [replay, step_putAll wrote]
    refine Holds.of_written _ wrote fun entry member own => ?_
    exact copy.agrees (written_key wrote) (stores.copies _ member) (own ▸ written_key member)
  apply holds_through wait.later stored
  -- What others store is under keys of their own.
  · intro input member entry written own
    have keyed := written_key written
    rw [own] at keyed
    exact absurd (id_of_key keyed)
      (undisturbed.foreign input (List.mem_append_left _ member) entry written).id
  · exact undisturbed.undeleted
  · intro input member
    rw [alive (undisturbed.inTime input.2
      (List.mem_cons_of_mem _ (List.mem_map_of_mem member)))]
    simp

/-- What the relay has is other mail or a copy of the envelope. -/
theorem Wait.held (undisturbed : wait.Undisturbed P signer address messageId envelope)
    (stores : Stores P signer address envelope wait.drawn wait.made wait.event wait.stored)
    {key : String} {record : MessageRecord}
    (held : (replay P signer wait.past).db.get key = some record) :
    Foreign P wait.drawn.text messageId envelope record ∨
      Copy P address envelope wait.made record := by
  obtain ⟨input, member, wrote⟩ := held_written held
  rcases List.mem_append.mp member with after | rest
  · exact .inl (undisturbed.foreign input (List.mem_append_left _ after) _ wrote)
  · rcases List.mem_cons.mp rest with rfl | earlier
    · exact .inr (stores.copies _ wrote)
    · exact .inl (undisturbed.foreign input (List.mem_append_right _ earlier) _ wrote)

theorem Wait.readable (undisturbed : wait.Undisturbed P signer address messageId envelope)
    (stores : Stores P signer address envelope wait.drawn wait.made wait.event wait.stored)
    (recipient : String) (now : Moment) :
    Readable recipient now (replay P signer wait.past).db where
  expiries record member := by
    obtain ⟨key, held⟩ := rangeOf_held member
    rcases Wait.held undisturbed stores held with other | copy
    · obtain ⟨expires, read⟩ := other.expires
      exact ⟨_, by rw [MessageRecord.isExpired, read]; rfl⟩
    · exact ⟨_, copy.isExpired now⟩
  times live listed := by
    refine .inr fun record member => ?_
    obtain ⟨key, held⟩ := rangeOf_held ((unexpired_sublist listed).subset member)
    rcases Wait.held undisturbed stores held with other | copy
    · exact other.timestamp
    · exact copy.timestamp

end Waiting

section Fetching

/-- The envelope is in the inbox since then, unread. -/
def Delivered (messageId : String) (envelope : Json) (receivedAt : Nat) (node : Node) : Prop :=
  ∃ count : Option Json, node.inbox.get messageId = some ⟨envelope, count, receivedAt, false⟩ ∧
    ∀ value ∈ count, Canonical value

variable {messageId : String} {envelope : Json} {receivedAt : Nat} {node : Node}
  {countOf : Json → Option Json}

theorem storeRecord_delivers {record : Json}
    (counted : ∀ value ∈ countOf record, Canonical value)
    (identifies : identified P record = .ok (messageId, envelope)) :
    Delivered messageId envelope receivedAt (storeRecord P countOf receivedAt node record) := by
  rw [DMailNode.storeRecord, identifies]
  exact ⟨_, OrderedMap.get_set_self _ _ _, counted⟩

theorem Delivered.storeRecord {record : Json}
    (delivered : Delivered messageId envelope receivedAt node)
    (counted : ∀ value ∈ countOf record, Canonical value)
    (genuine : ∀ other, identified P record = .ok (messageId, other) → other = envelope) :
    Delivered messageId envelope receivedAt
      (DMailNode.storeRecord P countOf receivedAt node record) := by
  cases identifies : identified P record with
  | error failure =>
      rw [DMailNode.storeRecord, identifies]
      exact delivered
  | ok found =>
      obtain ⟨id, other⟩ := found
      by_cases own : id = messageId
      · subst own
        obtain rfl := genuine other identifies
        exact storeRecord_delivers counted identifies
      · obtain ⟨count, held, printed⟩ := delivered
        refine ⟨count, ?_, printed⟩
        rw [DMailNode.storeRecord, identifies]
        exact (OrderedMap.get_set_of_ne _ _ (Ne.symm own)).trans held

/-- The loop over an answer leaves the envelope in the inbox, if one record of the answer brings
    it and no record brings another one under its id. -/
theorem records_deliver {records : List Json}
    (counted : ∀ record ∈ records, ∀ value ∈ countOf record, Canonical value)
    (genuine : ∀ record ∈ records, ∀ other, identified P record = .ok (messageId, other) →
      other = envelope)
    (there : Delivered messageId envelope receivedAt node ∨
      ∃ record ∈ records, identified P record = .ok (messageId, envelope)) :
    Delivered messageId envelope receivedAt
      (records.foldl (storeRecord P countOf receivedAt) node) := by
  induction records generalizing node with
  | nil =>
      rcases there with delivered | ⟨record, none, _⟩
      · exact delivered
      · cases none
  | cons first rest ih =>
      apply ih (fun record member => counted record (List.mem_cons_of_mem _ member))
        (fun record member => genuine record (List.mem_cons_of_mem _ member))
      have own := counted first List.mem_cons_self
      rcases there with delivered | ⟨record, member, identifies⟩
      · exact .inl (delivered.storeRecord own (genuine first List.mem_cons_self))
      · rcases List.mem_cons.mp member with rfl | inside
        · exact .inl (storeRecord_delivers own identifies)
        · exact .inr ⟨record, inside, identifies⟩

theorem identified_published {record : MessageRecord}
    (brought : record.data = some (.string (toBase64 (published envelope))))
    (canonical : Canonical envelope) (named : getMessageId P envelope = .ok messageId) :
    identified P record.toJSON = .ok (messageId, envelope) := by
  have data : member "data" (some record.toJSON) = .ok record.data :=
    congrArg Except.ok (toJSON_data record)
  simp only [identified, decodeRecord, data, ok_bind, brought, bufferFrom_toBase64, published,
    bufferToString_encode, parseOrThrow_stringify canonical, named]
  rfl

/-- An answer that lists records is read as it was made. -/
theorem recordsDHT_answer {messages : List Json}
    (canonical : Canonical (.object [("messages", .array messages)])) :
    recordsDHT P (stringify (.object [("messages", .array messages)])) = .ok messages := by
  rw [recordsDHT, parseOrThrow_stringify canonical]
  simp [lookup, truthy, listed, iterate]

variable {wait : Wait} {address : String}

/-- Whatever record of the answer has the envelope's id brings the envelope. -/
theorem Wait.genuine (undisturbed : wait.Undisturbed P signer address messageId envelope)
    (stores : Stores P signer address envelope wait.drawn wait.made wait.event wait.stored)
    (canonical : Canonical envelope) (named : getMessageId P envelope = .ok messageId)
    {key : String} {record : MessageRecord}
    (held : (replay P signer wait.past).db.get key = some record) (other : Json)
    (identifies : identified P record.toJSON = .ok (messageId, other)) : other = envelope := by
  rcases Wait.held undisturbed stores held with foreign | copy
  · exact foreign.genuine other identifies
  · have own := identified_published copy.data canonical named
    cases own.symm.trans identifies
    rfl

/-- The fetch finds a record that brings the envelope. -/
theorem Wait.fetched (undisturbed : wait.Undisturbed P signer address messageId envelope)
    (stores : Stores P signer address envelope wait.drawn wait.made wait.event wait.stored)
    (nonempty : generateRoutingToken P address ≠ "") : ∃ records,
    fetchRecords (askedKeys P address) wait.now (replay P signer wait.past).db = .ok records ∧
      ∃ found ∈ records, found.data = some (.string (toBase64 (published envelope))) := by
  obtain ⟨record, named, unexpired, held, inDb, same⟩ := Wait.holds undisturbed stores
  have ranged : held ∈ rangeOf (generateRoutingToken P address) (replay P signer wait.past).db :=
    mem_rangeOf inDb ⟨_, rfl⟩
  have alive : held.isExpired wait.now = .ok false := by
    obtain ⟨expired, read⟩ := (Wait.readable undisturbed stores _ wait.now).expiries held ranged
    cases expired with
    | false => exact read
    | true => cases unexpired.symm.trans (same.expires _ read)
  have readable : ∀ value ∈ askedKeys P address, ∃ recipient, toText value = .ok recipient ∧
      Readable recipient wait.now (replay P signer wait.past).db := by
    intro value member
    rcases (mem_askedKeys.mp member).2 with rfl | rfl
    · exact ⟨_, rfl, Wait.readable undisturbed stores _ _⟩
    · exact ⟨_, rfl, Wait.readable undisturbed stores _ _⟩
  have asked := mem_askedKeys.mpr ⟨(truthy_string _).mpr nonempty, .inr rfl⟩
  obtain ⟨records, fetched, found, collected, _, foundFor⟩ :=
    fetchRecords_covers readable ⟨_, asked, _, rfl, ranged, alive⟩
  refine ⟨records, fetched, found, collected, ?_⟩
  have id : found.id = .string wait.drawn.text := by
    have own : found.id = held.id := by
      rcases foundFor with rfl | sameId
      · rfl
      · exact (sameValue_eq sameId).symm
    rw [own, same.id, named]
  -- Other mail has other ids, so this record is a copy too.
  obtain ⟨key, there⟩ := fetched_held fetched found collected
  rcases Wait.held undisturbed stores there with foreign | copy
  · exact absurd (by rw [id]; rfl) foreign.id
  · exact copy.data

theorem Wait.delivers (undisturbed : wait.Undisturbed P signer address messageId envelope)
    (stores : Stores P signer address envelope wait.drawn wait.made wait.event wait.stored)
    (canonical : Canonical envelope) (named : getMessageId P envelope = .ok messageId)
    (nonempty : generateRoutingToken P address ≠ "") (node : Node) (receivedAt : Nat) : ∃ after,
    fetchFromPeerDHT P node (answer P address wait.now (replay P signer wait.past)) receivedAt =
        .returns after () ∧
      Delivered messageId envelope receivedAt after := by
  obtain ⟨records, fetched, found, collected, brings⟩ := Wait.fetched undisturbed stores nonempty
  have asked : askedKeys P address ≠ [] := List.ne_nil_of_mem
    (mem_askedKeys.mpr ⟨(truthy_string _).mpr nonempty, .inr rfl⟩)
  have answered := handleDHTFetchRequest_records (fetchRequest_asks address) asked fetched
  have whole := answer_canonical answered
  have read : recordsDHT P (answer P address wait.now (replay P signer wait.past)) =
      .ok (records.map MessageRecord.toJSON) := by
    rw [answer, answered]
    exact recordsDHT_answer whole
  have delivered : Delivered messageId envelope receivedAt ((records.map MessageRecord.toJSON).foldl
      (DMailNode.storeRecord P (field "replicationCount") receivedAt) node) := by
    apply records_deliver
    · intro json member value held
      exact field_canonical (canonicalItems_iff.mp whole.2.1 json member) held
    · intro json member other identifies
      obtain ⟨one, inside, rfl⟩ := List.mem_map.mp member
      obtain ⟨key, held⟩ := fetched_held fetched one inside
      exact Wait.genuine undisturbed stores canonical named held other identifies
    · exact .inr ⟨_, List.mem_map_of_mem collected, identified_published brings canonical named⟩
  refine ⟨_, ?_, delivered⟩
  rw [fetchFromPeerDHT, read]

end Fetching

section Delivery
open SealedEnvelope (Draws Reads build_written outerFields outerFields_storable parse_own
  sampleDraws)
open Senders (Value)

/-- A routing token has sixteen bytes. -/
def TokenLength (P : Packages) : Prop := ∀ ikm info, (P.hkdf ikm none info 16).length = 16

theorem token_nonempty (sized : TokenLength P) (address : String) :
    generateRoutingToken P address ≠ "" :=
  toHex_nonempty (by rw [sized]; decide)

/-- A sealed envelope goes under the token of its recipient, with its sender and with relays. -/
theorem sealed_keyed (sized : TokenLength P) (recipient : String) (draws : Draws)
    (inner : Encrypted) :
    acceptedKey (published (.object (outerFields P recipient draws inner))) true =
        .ok (some (.string (generateRoutingToken P recipient))) ∧
      DMailNode.storageKey (.object (outerFields P recipient draws inner)) =
        .ok (some (.string (generateRoutingToken P recipient))) := by
  have canonical := (outerFields_storable (P := P) recipient draws inner).canonical
  have nonempty := (truthy_string _).mpr (token_nonempty sized recipient)
  have byToken : ByToken (.object (outerFields P recipient draws inner)) := ⟨rfl, nonempty⟩
  have route : present (routeOf (.object (outerFields P recipient draws inner))) =
      some (.string (generateRoutingToken P recipient)) := by
    refine present_eq_some.mpr ⟨?_, nonempty⟩
    rw [routeOf, if_pos byToken]
    rfl
  refine ⟨(acceptedKey_text_iff (parse_transmitted canonical)).mpr route, ?_⟩
  rw [storageKey_object, route]

/-- What the inbox shows of a sealed envelope is parsed as the envelope. -/
theorem parse_shown (recipient : Identity P) {address : String} {draws : Draws} {inner : Encrypted}
    {count : Option Json} (counted : ∀ value ∈ count, Canonical value) (receivedAt : Nat)
    (read : Bool) (listedAs : Option String) : ∃ shown,
    InboxEntry.shown listedAs
        ⟨.object (outerFields P address draws inner), count, receivedAt, read⟩ = .ok shown ∧
      SealedEnvelope.parse recipient shown =
        SealedEnvelope.parse recipient (.object (outerFields P address draws inner)) := by
  obtain ⟨listed, shown, same⟩ := shown_fields ⟨_, count, receivedAt, read⟩
    (outerFields_storable (P := P) address draws inner) rfl counted listedAs
  refine ⟨_, shown, SealedEnvelope.parse_congr recipient ?_ ?_⟩
  · exact same "type"
      (by simp [outerFields, SealedEnvelope.outerEnvelope, SealedEnvelope.ownFields])
  · exact same "payload"
      (by simp [outerFields, SealedEnvelope.outerEnvelope, SealedEnvelope.ownFields])

/-- Mail for somebody who is offline waits a week with any relay that hears of it, has it posted
    by the sender or is sent a copy, whatever other mail the relay gets before and after: the next
    fetch puts it into the inbox, where its recipient reads what was written. -/
theorem mail_waits (signer : Option Signer) (reliable : Reliable P) (sized : TokenLength P)
    (willing : ∀ one ∈ signer, ∀ bytes, (one.signFn bytes).isSome)
    (sender recipient : Identity P) (subject body : Value) (attachments : List Value)
    (draws : Draws) : ∃ envelope messageId,
    (SealedEnvelope.written sender recipient subject body attachments).build draws =
        .ok envelope ∧
      getMessageId P envelope = .ok messageId ∧
      ∀ wait : Wait,
        Arrives P recipient.address envelope wait.drawn wait.made wait.event wait.stored →
        wait.Undisturbed P signer recipient.address messageId envelope →
        ∀ (node : Node) (receivedAt : Nat), ∃ after entry,
          fetchFromPeerDHT P node
              (answer P recipient.address wait.now (replay P signer wait.past)) receivedAt =
            .returns after () ∧
            after.inbox.get messageId = some entry ∧
            entry.receivedAt = receivedAt ∧ entry.read = false ∧
            ∀ listedAs : Option String, ∃ shown message, entry.shown listedAs = .ok shown ∧
              SealedEnvelope.parse recipient shown = .ok message ∧
              Reads sender recipient subject body attachments message := by
  obtain ⟨encrypted, encryption, built⟩ := build_written reliable.commutes reliable.sized sender
    recipient subject body attachments draws
  have canonical := (outerFields_storable (P := P) recipient.address draws encrypted).canonical
  obtain ⟨accepted, keyed⟩ := sealed_keyed sized recipient.address draws encrypted
  refine ⟨_, _, built, rfl, fun wait arrives undisturbed node receivedAt => ?_⟩
  obtain ⟨after, fetched, count, held, counted⟩ := Wait.delivers undisturbed
    (arrives.stores accepted keyed willing) canonical rfl (token_nonempty sized recipient.address) node
    receivedAt
  refine ⟨after, _, fetched, held, rfl, rfl, fun listedAs => ?_⟩
  obtain ⟨shown, listed, same⟩ := parse_shown recipient counted receivedAt false listedAs
  obtain ⟨message, parsed, reads⟩ := parse_own reliable encryption
  exact ⟨shown, message, listed, same.trans parsed, reads⟩

/-- Before the envelope, the relay is sent a record that brings none; after it, it cleans up. -/
def sampleWait (event : RelayNode.Event) : Wait where
  drawn := sampleDraw
  made := sampleMoment
  before := [(.storeRequest (storeFor "1" "a") sampleDraw, sampleMoment)]
  event := event
  stored := sampleMoment
  later := [(.cleanup, sampleMoment)]
  now := sampleMoment

theorem sampleRecord_foreign (messageId : String) (envelope : Json) :
    Foreign samplePackages sampleDraw.text messageId envelope (sampleRecord "1" "a") where
  id := by
    rw [sampleRecord_id "a" (by decide)]
    intro same
    exact absurd (Except.ok.inj same) (by decide)
  timestamp := ⟨_, sampleRecord_timestamp "1" "a"⟩
  expires := by
    obtain ⟨expires, read, _⟩ := bind_ok_iff.mp (sampleRecord_alive "1" "a")
    exact ⟨expires, read⟩
  genuine other identifies := by
    obtain ⟨_, decoded, _⟩ := bind_ok_iff.mp identifies
    obtain ⟨data, held, rest⟩ := bind_ok_iff.mp decoded
    have own : data = some (.string "a") :=
      (Except.ok.inj held).symm.trans ((toJSON_data _).trans (sampleRecord_data "1" "a"))
    subst own
    cases rest

theorem sampleWait_undisturbed (event : RelayNode.Event) (address messageId : String)
    (envelope : Json) :
    (sampleWait event).Undisturbed samplePackages none address messageId envelope where
  inTime time member := by
    have own : time = sampleMoment := by simpa [sampleWait] using member
    rw [own]
    exact Nat.le_add_right sampleMoment.ms MESSAGE_TTL_MS
  undeleted input member := by
    obtain rfl := List.mem_singleton.mp member
    exact id
  foreign input member entry wrote := by
    rcases List.mem_cons.mp member with rfl | before
    · cases wrote
    · obtain rfl := List.mem_singleton.mp before
      rw [storeFor_written "1" "a" (by decide)] at wrote
      rw [List.mem_singleton.mp wrote]
      exact sampleRecord_foreign messageId envelope

/-- Alice writes to Bob while he is away, and he asks a relay that was sent a signed copy. -/
theorem note_waits : ∃ envelope messageId last,
    (SealedEnvelope.written (sampleIdentity 1) (sampleIdentity 2) greeting greeting
        [greeting]).build sampleDraws = .ok envelope ∧
      getMessageId samplePackages envelope = .ok messageId ∧
      chain samplePackages (recordOf samplePackages (sampleIdentity 2).address envelope sampleDraw
        sampleMoment sampleMoment) [signingHop] = some last ∧
      ∃ after entry,
        fetchFromPeerDHT samplePackages (create (sampleIdentity 2).address)
            (answer samplePackages (sampleIdentity 2).address sampleMoment
              (replay samplePackages none
                (sampleWait (.storeRequest (RecordHops.storeRequest last) sampleDraw)).past))
            1 = .returns after () ∧
          after.inbox.get messageId = some entry ∧
          ∃ shown message, entry.shown none = .ok shown ∧
            SealedEnvelope.parse (sampleIdentity 2) shown = .ok message ∧
            Reads (sampleIdentity 1) (sampleIdentity 2) greeting greeting [greeting] message := by
  obtain ⟨envelope, messageId, built, named, waits⟩ := mail_waits none sample_reliable
    (fun ikm _ => fit_length 16 ikm) (fun _ none => by cases none) (sampleIdentity 1)
    (sampleIdentity 2) greeting greeting [greeting] sampleDraws
  obtain ⟨last, passed⟩ := chain_willing [signingHop]
    (recordOf_sendable samplePackages (sampleIdentity 2).address envelope sampleDraw sampleMoment
      sampleMoment)
    (by
      intro hop member
      obtain rfl := List.mem_singleton.mp member
      rintro signer ⟨⟩ bytes
      rfl)
  let wait := sampleWait (.storeRequest (RecordHops.storeRequest last) sampleDraw)
  have arrives : Arrives samplePackages (sampleIdentity 2).address envelope wait.drawn wait.made
      wait.event wait.stored := .copied sampleMoment none _ last [signingHop] sampleDraw
      sampleMoment rfl passed
  obtain ⟨after, entry, fetched, held, _, _, reads⟩ := waits wait arrives
    (sampleWait_undisturbed _ _ _ _) (create (sampleIdentity 2).address) 1
  exact ⟨envelope, messageId, last, built, named, passed, after, entry, fetched, held, reads none⟩

end Delivery

end Chainmail.OfflineDelivery
