import Chainmail.DMailNode
import Chainmail.JsonRoundTrip

/-!
What the inbox holds after any mix of deliveries. Four paths store an envelope
under the id computed from it; fetching from all peers stores it under the id
that a relay gave its record.
-/

namespace Chainmail.DMailNode

open Json

variable (P : Packages)

inductive Event where
  | gossip (data : Bytes) (now : Nat)
  | send (envelope : Json) (now : Nat)
  | fetchDHT (answer : String) (now : Nat)
  | fetchLegacy (answer : String) (now : Nat)
  | fetchAll (answers : List PeerAnswer) (now : Nat)

def step (node : Node) : Event → Node
  | .gossip data now => handleIncomingMessage P node data now
  | .send envelope now => sendMessage P node envelope now
  | .fetchDHT answer now => (fetchFromPeerDHT P node answer now).state
  | .fetchLegacy answer now => (fetchFromPeerLegacy P node answer now).state
  | .fetchAll answers now => fetchFromAllPeers P node answers now

def run (node : Node) (events : List Event) : Node := events.foldl (step P) node

/-- An envelope that reaches the node, and the key its path stores it under. -/
structure Delivery where
  key : String
  envelope : Json

def recordDelivery (record : Json) : Option Delivery :=
  (identified P record).toOption.map fun found => ⟨found.1, found.2⟩

def messageDelivery (message : Collected) : Except Failure Delivery := do
  let id ← idOf P message
  let key ← toText id
  return ⟨key, message.envelope⟩

def answerDeliveries (answer : PeerAnswer) : List Delivery :=
  (fetchMessagesFromPeer P answer).filterMap fun message => (messageDelivery P message).toOption

/-- The envelopes an event brings to the node of an address. -/
def deliveries (address : String) : Event → List Delivery
  | .gossip data _ =>
      match incoming P address data with
      | .ok (some (messageId, envelope)) => [⟨messageId, envelope⟩]
      | _ => []
  | .send envelope _ =>
      match getMessageId P envelope with
      | .ok messageId =>
          if isText address (envelope.field "to") then [⟨messageId, envelope⟩] else []
      | .error _ => []
  | .fetchDHT answer _ =>
      ((recordsDHT P answer).toOption.getD []).filterMap (recordDelivery P)
  | .fetchLegacy answer _ =>
      ((recordsLegacy P answer).toOption.getD []).filterMap (recordDelivery P)
  | .fetchAll answers _ => answers.flatMap (answerDeliveries P)

def Addressed (address : String) (envelope : Json) : Prop := isForUs P address envelope = .ok true

/-- Every addressed envelope that was delivered is held by exactly one entry. -/
def HoldsEachOnce (address : String) (node : Node) (delivered : List Delivery) : Prop :=
  ∀ delivery ∈ delivered, Addressed P address delivery.envelope →
    ∃! key, ∃ entry, node.inbox.get key = some entry ∧ entry.envelope = delivery.envelope

/-- The keys tell the envelopes apart: an addressed envelope always comes under
    one key, and no other envelope comes under that key. -/
structure KeysTell (address : String) (all : List Delivery) : Prop where
  one_key : ∀ first ∈ all, ∀ second ∈ all, Addressed P address first.envelope →
    first.envelope = second.envelope → first.key = second.key
  one_envelope : ∀ first ∈ all, ∀ second ∈ all, Addressed P address first.envelope →
    first.key = second.key → first.envelope = second.envelope

/-- Every message that fetching from all peers collects has a key. -/
def Keyed : Event → Prop
  | .fetchAll answers _ => ∀ answer ∈ answers, ∀ message ∈ fetchMessagesFromPeer P answer,
      ∃ delivery, messageDelivery P message = .ok delivery
  | _ => True

/-- The inbox after these deliveries: it holds the addressed ones, each under
    its key, and nothing that was not delivered. -/
structure Filed (address : String) (node : Node) (past : List Delivery) : Prop where
  held : ∀ delivery ∈ past, Addressed P address delivery.envelope →
    ∃ entry, node.inbox.get delivery.key = some entry ∧ entry.envelope = delivery.envelope
  known : ∀ key entry, node.inbox.get key = some entry → ⟨key, entry.envelope⟩ ∈ past

section Ownership

variable {P} {node : Node} {now : Nat}

theorem handleIncomingMessage_address (data : Bytes) :
    (handleIncomingMessage P node data now).address = node.address := by
  delta handleIncomingMessage
  cases incoming P node.address data with
  | error failure => rfl
  | ok delivery => cases delivery <;> rfl

theorem handleIncomingMessage_stores {data : Bytes} {id : String} {envelope : Json}
    (received : incoming P node.address data = .ok (some (id, envelope))) (now : Nat) :
    handleIncomingMessage P node data now = storeMessage node id envelope none now := by
  delta handleIncomingMessage
  rw [received]

theorem sendMessage_address (envelope : Json) :
    (sendMessage P node envelope now).address = node.address := by
  rw [sendMessage]
  split
  · rfl
  · simp only
    split <;> rfl

theorem storeRecords_address (countOf : Json → Option Json) (records : List Json) :
    (records.foldl (storeRecord P countOf now) node).address = node.address := by
  induction records generalizing node with
  | nil => rfl
  | cons record rest ih =>
      rw [List.foldl_cons, ih, storeRecord]
      split <;> rfl

theorem takeMessages_address (messages : List Collected) (held : List Json × Node) :
    (takeMessages P now messages held).2.address = held.2.address := by
  induction messages generalizing held with
  | nil => rfl
  | cons message rest ih =>
      rw [takeMessages]
      split
      · rfl
      · split
        · rw [ih]
        · split
          · rfl
          · rw [ih]
            rfl

theorem fetchFromAllPeers_address (answers : List PeerAnswer) :
    (fetchFromAllPeers P node answers now).address = node.address := by
  suffices general : ∀ held : List Json × Node,
      (answers.foldl (fun held answer =>
        takeMessages P now (fetchMessagesFromPeer P answer) held) held).2.address =
        held.2.address from general ([], node)
  induction answers with
  | nil => exact fun _ => rfl
  | cons answer rest ih =>
      intro held
      rw [List.foldl_cons, ih, takeMessages_address]

theorem step_address (event : Event) : (step P node event).address = node.address := by
  cases event with
  | gossip data now => exact handleIncomingMessage_address data
  | send envelope now => exact sendMessage_address envelope
  | fetchDHT answer now =>
      rw [step, fetchFromPeerDHT]
      split
      · rfl
      · exact storeRecords_address _ _
  | fetchLegacy answer now =>
      rw [step, fetchFromPeerLegacy]
      split
      · rfl
      · exact storeRecords_address _ _
  | fetchAll answers now => exact fetchFromAllPeers_address answers

end Ownership

section Filing

variable {P} {address : String} {node : Node} {past all : List Delivery}

theorem Filed.once (filed : Filed P address node past) (tells : KeysTell P address all)
    (inside : past ⊆ all) : HoldsEachOnce P address node past := by
  intro delivery member addressed
  refine ⟨delivery.key, filed.held delivery member addressed, ?_⟩
  rintro other ⟨entry, found, same⟩
  have known := filed.known other entry found
  exact (tells.one_key delivery (inside member) _ (inside known) addressed same.symm).symm

theorem Filed.store (filed : Filed P address node past) (tells : KeysTell P address all)
    (inside : past ⊆ all) {delivery : Delivery} (listed : delivery ∈ all)
    (count : Option Json) (now : Nat) :
    Filed P address (storeMessage node delivery.key delivery.envelope count now)
      (past ++ [delivery]) where
  held := by
    intro earlier member addressed
    rcases List.mem_append.mp member with old | new
    · by_cases same : earlier.key = delivery.key
      · have equal := tells.one_envelope earlier (inside old) delivery listed addressed same
        refine ⟨⟨delivery.envelope, count, now, false⟩, ?_, equal.symm⟩
        rw [same]
        exact OrderedMap.get_set_self _ _ _
      · have kept := filed.held earlier old addressed
        simpa [storeMessage, OrderedMap.get_set_of_ne _ _ same] using kept
    · rw [List.mem_singleton.mp new]
      exact ⟨_, OrderedMap.get_set_self _ _ _, rfl⟩
  known := by
    intro key entry found
    rw [storeMessage, OrderedMap.get_set] at found
    split at found
    · rename_i own
      rw [← Option.some.inj found, own]
      exact List.mem_append_right _ List.mem_cons_self
    · exact List.mem_append_left _ (filed.known key entry found)

theorem Filed.skip (filed : Filed P address node past) (tells : KeysTell P address all)
    (inside : past ⊆ all) {delivery earlier : Delivery} (listed : delivery ∈ all)
    (old : earlier ∈ past) (same : delivery.key = earlier.key) :
    Filed P address node (past ++ [delivery]) where
  held := by
    intro found member addressed
    rcases List.mem_append.mp member with before | new
    · exact filed.held found before addressed
    · rw [List.mem_singleton.mp new] at addressed ⊢
      have equal := tells.one_envelope delivery listed earlier (inside old) addressed same
      rw [equal] at addressed ⊢
      rw [same]
      exact filed.held earlier old addressed
  known key entry found := List.mem_append_left _ (filed.known key entry found)

theorem Filed.storeRecords {countOf : Json → Option Json} {now : Nat} (records : List Json)
    (filed : Filed P address node past) (tells : KeysTell P address all) (inside : past ⊆ all)
    (listed : records.filterMap (recordDelivery P) ⊆ all) :
    Filed P address (records.foldl (storeRecord P countOf now) node)
      (past ++ records.filterMap (recordDelivery P)) := by
  induction records generalizing node past with
  | nil => simpa using filed
  | cons record rest ih =>
      cases found : identified P record with
      | error failure =>
          have silent : recordDelivery P record = none := by simp [recordDelivery, found, Except.toOption]
          rw [List.filterMap_cons, silent] at listed ⊢
          simpa [storeRecord, found] using ih filed inside listed
      | ok pair =>
          have spoken : recordDelivery P record = some ⟨pair.1, pair.2⟩ := by
            simp [recordDelivery, found, Except.toOption]
          rw [List.filterMap_cons, spoken] at listed ⊢
          have here := listed List.mem_cons_self
          have stored := filed.store tells inside here (countOf record) now
          have grown : past ++ [⟨pair.1, pair.2⟩] ⊆ all :=
            List.append_subset.mpr ⟨inside, List.cons_subset.mpr ⟨here, List.nil_subset _⟩⟩
          have later := ih stored grown fun _ member => listed (List.mem_cons_of_mem _ member)
          simpa [storeRecord, found] using later

/-- Every id that was seen stands for a delivery under its text. -/
def Seen (seenMessages : List Json) (past : List Delivery) : Prop :=
  ∀ id ∈ seenMessages, ∃ delivery ∈ past, toText id = .ok delivery.key

theorem Filed.takeMessages {now : Nat} (messages : List Collected) {seenMessages : List Json}
    (filed : Filed P address node past) (seen : Seen seenMessages past)
    (tells : KeysTell P address all) (inside : past ⊆ all)
    (keyed : ∀ message ∈ messages, ∃ delivery, messageDelivery P message = .ok delivery)
    (listed : messages.filterMap (fun message => (messageDelivery P message).toOption) ⊆ all) :
    Filed P address (DMailNode.takeMessages P now messages (seenMessages, node)).2
        (past ++ messages.filterMap fun message => (messageDelivery P message).toOption) ∧
      Seen (DMailNode.takeMessages P now messages (seenMessages, node)).1
        (past ++ messages.filterMap fun message => (messageDelivery P message).toOption) := by
  induction messages generalizing node past seenMessages with
  | nil => simpa [DMailNode.takeMessages] using ⟨filed, seen⟩
  | cons message rest ih =>
      obtain ⟨delivery, made⟩ := keyed message List.mem_cons_self
      obtain ⟨id, identifiedAs, text⟩ := bind_ok_iff.mp made
      obtain ⟨key, shown, built⟩ := bind_ok_iff.mp text
      cases built
      have spoken : (messageDelivery P message).toOption = some ⟨key, message.envelope⟩ := by
        rw [made]
        rfl
      rw [List.filterMap_cons, spoken] at listed ⊢
      have here := listed List.mem_cons_self
      have grown : past ++ [⟨key, message.envelope⟩] ⊆ all :=
        List.append_subset.mpr ⟨inside, List.cons_subset.mpr ⟨here, List.nil_subset _⟩⟩
      have laterKeyed : ∀ other ∈ rest, ∃ found, messageDelivery P other = .ok found :=
        fun other member => keyed other (List.mem_cons_of_mem _ member)
      have laterListed : rest.filterMap (fun other => (messageDelivery P other).toOption) ⊆ all :=
        fun _ member => listed (List.mem_cons_of_mem _ member)
      have wider : Seen seenMessages (past ++ [⟨key, message.envelope⟩]) := by
        intro old member
        obtain ⟨found, before, same⟩ := seen old member
        exact ⟨found, List.mem_append_left _ before, same⟩
      -- An id seen before stands for an earlier delivery under the same key, which is kept.
      by_cases known : seenMessages.any (sameValue id) = true
      · obtain ⟨old, member, same⟩ := List.any_eq_true.mp known
        obtain ⟨earlier, before, earlierText⟩ := seen old member
        rw [← sameValue_eq same, shown] at earlierText
        have skipped := filed.skip tells inside here before (Except.ok.inj earlierText)
        have later := ih skipped wider grown laterKeyed laterListed
        simpa [DMailNode.takeMessages, identifiedAs, known] using later
      · have stored := filed.store tells inside here none now
        have marked : Seen (id :: seenMessages) (past ++ [⟨key, message.envelope⟩]) := by
          intro old member
          rcases List.mem_cons.mp member with rfl | before
          · exact ⟨_, List.mem_append_right _ List.mem_cons_self, shown⟩
          · exact wider old before
        have later := ih stored marked grown laterKeyed laterListed
        simpa [DMailNode.takeMessages, identifiedAs, known, shown] using later

theorem Filed.fetchFromAllPeers {now : Nat} (answers : List PeerAnswer)
    (filed : Filed P address node past) (tells : KeysTell P address all)
    (keyed : Keyed P (.fetchAll answers now))
    (inside : past ++ answers.flatMap (answerDeliveries P) ⊆ all) :
    Filed P address (DMailNode.fetchFromAllPeers P node answers now)
      (past ++ answers.flatMap (answerDeliveries P)) := by
  suffices general : ∀ held : List Json × Node, Filed P address held.2 past → Seen held.1 past →
      Filed P address
        (answers.foldl (fun held answer =>
          DMailNode.takeMessages P now (fetchMessagesFromPeer P answer) held) held).2
        (past ++ answers.flatMap (answerDeliveries P)) from
    general ([], node) filed (fun _ member => absurd member List.not_mem_nil)
  clear filed
  induction answers generalizing past with
  | nil =>
      intro held filed _
      simpa using filed
  | cons answer rest ih =>
      intro held filed seen
      rw [List.flatMap_cons, ← List.append_assoc] at inside ⊢
      obtain ⟨first, _⟩ := List.append_subset.mp inside
      obtain ⟨before, here⟩ := List.append_subset.mp first
      have fetched := keyed answer List.mem_cons_self
      obtain ⟨taken, marked⟩ :=
        filed.takeMessages (fetchMessagesFromPeer P answer) seen tells before fetched here
      exact ih (fun other member => keyed other (List.mem_cons_of_mem _ member)) inside _
        taken marked

theorem Filed.gossip (filed : Filed P address node past) (tells : KeysTell P address all)
    (own : node.address = address) {data : Bytes} {now : Nat}
    (inside : past ++ deliveries P address (.gossip data now) ⊆ all) :
    Filed P address (handleIncomingMessage P node data now)
      (past ++ deliveries P address (.gossip data now)) := by
  subst own
  delta handleIncomingMessage
  delta deliveries at inside ⊢
  dsimp only at inside ⊢
  cases found : incoming P node.address data with
  | error failure => simpa [found] using filed
  | ok delivery =>
      cases delivery with
      | none => simpa [found] using filed
      | some message =>
          rw [found] at inside
          obtain ⟨before, here⟩ := List.append_subset.mp inside
          exact filed.store tells before (here List.mem_cons_self) none now

theorem Filed.send (filed : Filed P address node past) (tells : KeysTell P address all)
    (own : node.address = address) {envelope : Json} {now : Nat}
    (inside : past ++ deliveries P address (.send envelope now) ⊆ all) :
    Filed P address (sendMessage P node envelope now)
      (past ++ deliveries P address (.send envelope now)) := by
  subst own
  rw [sendMessage]
  delta deliveries at inside ⊢
  dsimp only at inside ⊢
  cases found : getMessageId P envelope with
  | error failure => simpa [found] using filed
  | ok messageId =>
      have noted : Filed P node.address
          { node with sent := node.sent.set messageId ⟨envelope, now⟩ } past :=
        ⟨filed.held, filed.known⟩
      by_cases toSelf : isText node.address (envelope.field "to") = true
      · simp only [found, if_pos toSelf] at inside ⊢
        obtain ⟨before, here⟩ := List.append_subset.mp inside
        exact noted.store tells before (here List.mem_cons_self) none now
      · simpa [found, toSelf] using noted

theorem Filed.step (filed : Filed P address node past) (tells : KeysTell P address all)
    (own : node.address = address) (event : Event) (keyed : Keyed P event)
    (inside : past ++ deliveries P address event ⊆ all) :
    Filed P address (DMailNode.step P node event) (past ++ deliveries P address event) := by
  obtain ⟨before, here⟩ := List.append_subset.mp inside
  cases event with
  | gossip data now => exact filed.gossip tells own inside
  | send envelope now => exact filed.send tells own inside
  | fetchDHT answer now =>
      delta deliveries at here ⊢
      dsimp only at here ⊢
      rw [DMailNode.step, fetchFromPeerDHT]
      cases found : recordsDHT P answer with
      | error failure => simpa [found, Except.toOption, Outcome.state] using filed
      | ok records =>
          rw [found] at here
          exact filed.storeRecords records tells before here
  | fetchLegacy answer now =>
      delta deliveries at here ⊢
      dsimp only at here ⊢
      rw [DMailNode.step, fetchFromPeerLegacy]
      cases found : recordsLegacy P answer with
      | error failure => simpa [found, Except.toOption, Outcome.state] using filed
      | ok records =>
          rw [found] at here
          exact filed.storeRecords records tells before here
  | fetchAll answers now => exact filed.fetchFromAllPeers answers tells keyed inside

theorem Filed.run (events : List Event) (filed : Filed P address node past)
    (tells : KeysTell P address all) (own : node.address = address)
    (keyed : ∀ event ∈ events, Keyed P event)
    (inside : past ++ events.flatMap (deliveries P address) ⊆ all) :
    Filed P address (DMailNode.run P node events)
      (past ++ events.flatMap (deliveries P address)) := by
  induction events generalizing node past with
  | nil => simpa [DMailNode.run] using filed
  | cons event rest ih =>
      rw [List.flatMap_cons, ← List.append_assoc] at inside ⊢
      have first := (List.append_subset.mp inside).1
      have stepped := filed.step tells own event (keyed event List.mem_cons_self) first
      exact ih stepped ((step_address event).trans own)
        (fun other member => keyed other (List.mem_cons_of_mem _ member)) inside

theorem Filed.create (address : String) : Filed P address (DMailNode.create address) [] where
  held := by simp
  known key entry found := by simp [DMailNode.create] at found

end Filing

section Relayed

def note : Json := .object [("to", .string "alice"), ("payload", .string "hello")]

def noteId : String :=
  String.ofList ((toHex (samplePackages.sha256 (utf8Encode (stringify (ofFields
    [("routingToken", none), ("payloadHash", some (payloadHash samplePackages note)),
      ("timestamp", none)]))))).toList.take 32)

theorem note_canonical : Canonical note :=
  canonical_object ["to", "payload"] rfl (by decide) ⟨trivial, trivial, trivial⟩

theorem note_id : getMessageId samplePackages note = .ok noteId := rfl

theorem note_addressed : isForUs samplePackages "alice" note = .ok true := by
  simp [isForUs, note, field, lookup, isText]

theorem decodeRecord_stored {envelope : Json} (canonical : Canonical envelope) (id : Json) :
    decodeRecord P (.object [("id", id),
      ("data", .string (toBase64 (utf8Encode (stringify envelope))))]) = .ok envelope := by
  simp [decodeRecord, lookup, parseOrThrow_stringify canonical]

/-- An envelope comes in as it was sent. -/
theorem incoming_transmitted {address id : String} {fields : List (String × Json)}
    (canonical : Canonical (.object fields))
    (addressed : isForUs samplePackages address (.object fields) = .ok true)
    (named : getMessageId samplePackages (.object fields) = .ok id) :
    incoming samplePackages address (utf8Encode (stringify (.object fields))) =
      .ok (some (id, .object fields)) := by
  rw [incoming, parse_transmitted canonical, ok_bind, addressed, ok_bind, if_pos rfl, named]
  rfl

theorem note_incoming : incoming samplePackages "alice" (utf8Encode (stringify note)) =
    .ok (some (noteId, note)) :=
  incoming_transmitted note_canonical note_addressed note_id

theorem note_idOf {id : String} (named : id ≠ "") :
    idOf samplePackages ⟨some (.string id), note⟩ = .ok (.string id) := by
  have filled : truthy (some (.string id)) = true := by simp [truthy, named]
  simp [idOf, present, Option.filter, filled]

theorem note_delivery {id : String} (named : id ≠ "") :
    messageDelivery samplePackages ⟨some (.string id), note⟩ = .ok ⟨id, note⟩ := by
  rw [messageDelivery, note_idOf named]
  rfl

end Relayed

end Chainmail.DMailNode
