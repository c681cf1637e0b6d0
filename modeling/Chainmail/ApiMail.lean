import Chainmail.ApiServer

/-!
Mail between the users of one API server, from the request that sends a message to the one that
lists it for its recipient, whatever is asked of the server in between. The message is encrypted
for whoever the registry names, and decrypted with the identity of the address it is sent to.
-/

namespace Chainmail.ApiServer

open Json SharedStorage MessagesService MessagesController
open ApiLogin (IdentityService.generate)
open ApiLogin.IdentityStoreService (PlainAddresses fileAt_plain)
open AuthService (given)
open DhtStorage (Moment RandomId MESSAGE_TTL_MS)
open MailDisclosure (Sound)
open Mailboxes (Stored)
open RegistryService (Registration NameKept lookupLocalByAddress)

variable {P : Packages} {bech32 : String → Bytes → String} {DMAIL_DIR : List String}

section Storage
variable {service : Service} {now : Moment}

/-- The call deletes the message under the key, or puts a mark there. -/
def Touches (key : String) (service : Service) : Call → Prop
  | .markAsRead id address =>
      ∃ user, (given address <|> service.currentIdentity.map MessagesService.Identity.address) =
        some user ∧ readKey user id = key
  | .deleteMessage id =>
      service.p2pNode.isStarted = false ∧
        ∃ identity, service.currentIdentity = some identity ∧ messageKey identity.address id = key
  | _ => False

/-- Keys of records with different ids are different. -/
theorem messageKey_apart {folder other : String} {id drawn : RandomId}
    (apart : id.text ≠ drawn.text) : messageKey folder id.text ≠ messageKey other drawn.text :=
  fun same => apart (Mailboxes.key_id
    (show Stored.key ⟨folder, id, [], ⟨1, Nat.one_pos⟩⟩ =
      Stored.key ⟨other, drawn, [], ⟨1, Nat.one_pos⟩⟩ from same))

theorem get_stored {folder other data : String} {id drawn : RandomId}
    (apart : id.text ≠ drawn.text) (db : Database) :
    (SharedStorage.store P none other data drawn now db).state.get (messageKey folder id.text) =
      db.get (messageKey folder id.text) := by
  rw [Mailboxes.store_returns, Outcome.returns_state,
    OrderedMap.get_set_of_ne _ _ (messageKey_apart apart)]

/-- What a call neither draws the id of nor touches stays under its key. -/
theorem respond_get {folder : String} {id : RandomId} (call : Call)
    (fresh : id.text ∉ drawn call) (spared : ¬ Touches (messageKey folder id.text) service call) :
    (respond P call now service).state.dhtStorage.get (messageKey folder id.text) =
      service.dhtStorage.get (messageKey folder id.text) := by
  cases call with
  | getInbox queryAddress type headerAddress fetched draws =>
      rw [respond, MailDisclosure.getInbox_storage]
  | getMessage wanted draw =>
      rw [respond, MessagesController.getMessage]
      split
      · rfl
      · split <;> rfl
  | sendMessage recipient subject body senderAddress encryptionKey draws ids passage =>
      simp only [drawn, List.mem_cons, List.not_mem_nil, or_false, not_or] at fresh
      rw [respond, MessagesController.sendMessage]
      split
      · rfl
      · split
        · rfl
        · rw [MailDisclosure.answered_state, sendMessageWithSender]
          split
          · rfl
          · split
            · rfl
            · dsimp only
              rw [Mailboxes.store_returns, Outcome.returns_andThen, get_stored fresh.1,
                OrderedMap.get_set_of_ne _ _ (messageKey_apart fresh.2)]
  | sendEncryptedMessage recipient encrypted routingToken drawn passage =>
      have apart : id.text ≠ drawn.text := fun same => fresh (List.mem_singleton.mpr same)
      rw [respond, MailDisclosure.answered_state, MessagesService.sendEncryptedMessage]
      split
      · rfl
      · dsimp only
        split
        · rfl
        · exact get_stored (P := P) apart _
  | markAsRead wanted address =>
      have kept (user : String) (named : (given address <|> service.currentIdentity.map
          MessagesService.Identity.address) = some user) :
          (SharedStorage.markAsRead user wanted now service.dhtStorage).get
            (messageKey folder id.text) = service.dhtStorage.get (messageKey folder id.text) :=
        OrderedMap.get_set_of_ne _ _ fun same => spared ⟨user, named, same.symm⟩
      rw [respond]
      split
      next user named => exact kept user (by rw [named]; rfl)
      next anonymous =>
        rw [MessagesService.markAsRead, Outcome.returns_state]
        split
        next identity current => exact kept identity.address (by rw [anonymous, current]; rfl)
        next => split <;> rfl
  | deleteMessage wanted =>
      rw [respond, MessagesService.deleteMessage, Outcome.returns_state]
      split
      · rfl
      next idle =>
        split
        next identity current =>
          exact OrderedMap.get_delete_of_ne _ fun same =>
            spared ⟨Bool.eq_false_iff.mpr idle, identity, current, same.symm⟩
        next => rfl

end Storage

section Sending

/-- A request that sends a message. The key is looked up when it is handled. -/
structure Sending where
  recipient : String
  subject : String
  body : String
  senderAddress : Option String
  draws : CipherDraws
  ids : RandomId × RandomId
  passage : P2PNodeService.Passage
  contract : Option DMailRegistry.State
  made : Moment

namespace Sending
variable (sending : Sending)

def call : Call :=
  .sendMessage sending.recipient sending.subject sending.body sending.senderAddress none
    sending.draws sending.ids sending.passage

def input : Input := (.request sending.call sending.contract, sending.made)

def content : List (String × Json) :=
  [("subject", .string sending.subject), ("body", .string sending.body),
    ("timestamp", ofInt sending.made.ms)]

def envelope (sender : String) (encrypted : Encrypted) : List (String × Json) :=
  plainEnvelope sender sending.recipient (MessageEnvelope.serializeEncrypted encrypted) sending.made

/-- What is stored for the recipient. -/
def inbox (sender : String) (encrypted : Encrypted) : Stored :=
  ⟨sending.recipient, sending.ids.1, sending.envelope sender encrypted, sending.made⟩

/-- What is stored for the sender, with the plaintext. -/
def copy (sender : String) (encrypted : Encrypted) : Stored :=
  ⟨sentFolder sender, sending.ids.2, sending.envelope sender encrypted ++
    [("plaintextSubject", .string sending.subject), ("plaintextBody", .string sending.body)],
    sending.made⟩

end Sending

variable {sending : Sending} {service : Service}

variable (service) in
/-- A send that is answered stores its message twice, encrypted with the key it was given. -/
theorem Sending.stores {encryptionKey : Option Bytes} {answer : Answer}
    (answered : (respond P (.sendMessage sending.recipient sending.subject sending.body
      sending.senderAddress encryptionKey sending.draws sending.ids sending.passage) sending.made
      service).result = .ok answer)
    (idle : service.p2pNode.isStarted = false) (apart : sending.ids.1.text ≠ sending.ids.2.text) :
    ∃ sender key encrypted, given sending.senderAddress = some sender ∧
      encryptionKey = some key ∧
      MessageEnvelope.encryptMessage P sending.draws
        (utf8Encode (stringify (.object sending.content))) key = .ok encrypted ∧
      ∀ stored ∈ [sending.inbox sender encrypted, sending.copy sender encrypted],
        (respond P (.sendMessage sending.recipient sending.subject sending.body
          sending.senderAddress encryptionKey sending.draws sending.ids sending.passage)
          sending.made service).state.dhtStorage.get stored.key = some (.record stored.record) := by
  rw [respond, MessagesController.sendMessage] at answered ⊢
  cases named : given sending.senderAddress with
  | none =>
      rw [named] at answered
      cases answered
  | some sender =>
      cases encryptionKey with
      | none =>
          rw [named] at answered
          cases answered
      | some key =>
          simp only [named] at answered ⊢
          rw [sendMessageWithSender] at answered ⊢
          cases made : Draft.envelope P ⟨sender, sending.recipient, sending.subject, sending.body,
              key, sending.draws⟩ sending.made with
          | error failure =>
              rw [made] at answered
              cases answered
          | ok envelope =>
              obtain ⟨serialized, encryption, done⟩ := bind_ok_iff.mp made
              obtain ⟨encrypted, sealed, same⟩ := bind_ok_iff.mp encryption
              cases same
              cases done
              refine ⟨sender, key, encrypted, rfl, rfl, sealed, fun stored member => ?_⟩
              rw [MailDisclosure.answered_state]
              simp only [idle, Bool.false_eq_true, ↓reduceIte]
              rw [Mailboxes.store_returns, Outcome.returns_andThen, Mailboxes.store_returns,
                Outcome.returns_state]
              rcases List.mem_cons.mp member with rfl | last
              · rw [OrderedMap.get_set_of_ne]
                · exact OrderedMap.get_set_self _ _ _
                · exact messageKey_apart apart
              · obtain rfl := List.mem_singleton.mp last
                exact OrderedMap.get_set_self _ _ _

/-- The holder of a key decrypts the message exactly when the key serves it as well as the one
    that the message was encrypted with. -/
theorem Sending.decrypted_iff (reliable : Reliable P) {encryptionKey : Bytes}
    {encrypted : Encrypted} (sealed : MessageEnvelope.encryptMessage P sending.draws
      (utf8Encode (stringify (.object sending.content))) encryptionKey = .ok encrypted)
    (identity : MessagesService.Identity) (sized : identity.encryptionPrivateKey.length = 32)
    {message : Json}
    (field : message.field "encrypted" = some (MessageEnvelope.serializeEncrypted encrypted))
    (opened : DecryptedMessage) :
    decrypted P message identity = some opened ↔
      opened = ⟨some (.string sending.subject), some (.string sending.body)⟩ ∧
        KeysAgree P MessageEnvelope.INFO sending.draws encryptionKey
          (P.x25519PublicKey identity.encryptionPrivateKey) := by
  have canonical : Canonical (.object sending.content) :=
    canonical_object ["subject", "body", "timestamp"] rfl (by decide)
      ⟨trivial, trivial, canonical_natural _, trivial⟩
  have read : MessageEnvelope.deserializeEncrypted P
      (some (MessageEnvelope.serializeEncrypted encrypted)) = .ok encrypted := by
    simp [MessageEnvelope.deserializeEncrypted, MessageEnvelope.serializeEncrypted, lookup]
  have opens (content : Json) : EncryptionService.decryptJson P (message.field "encrypted")
      identity.encryptionPrivateKey = .ok content ↔ content = .object sending.content ∧
        KeysAgree P MessageEnvelope.INFO sending.draws encryptionKey
          (P.x25519PublicKey identity.encryptionPrivateKey) := by
    rw [EncryptionService.decryptJson, field, read, ok_bind]
    exact read_decrypted_iff canonical (decryptWith_ok_iff reliable.commutes reliable.roundTrips
      reliable.commits sized sealed) content
  simp only [decrypted, toOption_eq_some_iff, bind_ok_iff, opens]
  constructor
  · rintro ⟨_, ⟨rfl, agree⟩, subject, first, body, second, made⟩
    cases first
    cases second
    cases made
    exact ⟨rfl, agree⟩
  · rintro ⟨rfl, agree⟩
    exact ⟨_, ⟨rfl, agree⟩, _, rfl, _, rfl, rfl⟩

end Sending

section Registry
variable {calls : List Registration} {dmailAddress : String}
  {entry : RegistryService.RegisteredIdentity}

theorem named_registered {name : String}
    (known : (RegistryService.replay calls).localRegistry.get name = some entry) :
    ∃ call ∈ calls, call.identity = entry := by
  induction calls with
  | nil => cases known
  | cons call earlier ih =>
      rw [RegistryService.replay, RegistryService.registerLocal, OrderedMap.get_set] at known
      split at known
      · exact ⟨call, List.mem_cons_self, Option.some.inj known⟩
      · obtain ⟨found, member, same⟩ := ih known
        exact ⟨found, List.mem_cons_of_mem _ member, same⟩

/-- What is found for an address was registered, and so was the address. -/
theorem local_registered
    (known : lookupLocalByAddress dmailAddress (RegistryService.replay calls) = some entry) :
    (∃ call ∈ calls, call.dmailAddress = dmailAddress) ∧ ∃ call ∈ calls, call.identity = entry := by
  rw [lookupLocalByAddress] at known
  split at known
  · cases known
  next name named =>
    split at known
    · cases known
    · obtain ⟨call, later, latest, address, _⟩ := RegistryService.latest_of_name named
      obtain ⟨earlier, split⟩ := latest.made
      exact ⟨⟨call, by simp [split], address⟩, named_registered known⟩

/-- The key that is found for an address is that of an identity on the disk: of the one with this
    address just when nobody has taken its name. -/
theorem Backed.found {accounts : ApiLogin.Server} {identities : List ApiLogin.Identity}
    (backed : Backed accounts identities calls)
    (known : lookupLocalByAddress dmailAddress accounts.registry = some entry) :
    ∃ own other, heldBy (accounts.files dmailAddress) = some own ∧ own ∈ identities ∧
      other ∈ identities ∧
      RegistryService.fromHex entry.encryptionKey.toList = other.encryptionPublicKey ∧
      (other = own ↔ NameKept calls dmailAddress) := by
  rw [backed.registry] at known
  obtain ⟨⟨first, registered, address⟩, call, member, rfl⟩ := local_registered known
  obtain ⟨own, held, _⟩ := backed.registered first registered
  obtain ⟨other, found, key⟩ := backed.registered call member
  rw [address] at held
  have ownAddress := backed.files _ own held
  have otherAddress := backed.files _ other found
  refine ⟨own, other, held, ownAddress.1, otherAddress.1, ?_, ?_⟩
  · rw [Registration.identity, key, toHex, String.toList_ofList, fromHex_flatMap]
  · rw [← RegistryService.local_own_iff known, Registration.identity]
    constructor
    · rintro rfl
      exact otherAddress.2.symm.trans ownAddress.2
    · intro (same : call.dmailAddress = dmailAddress)
      rw [same, held] at found
      exact (Option.some.inj found).symm

/-- The identity on the disk under a plain address is the one that mail to it is opened with. -/
theorem Backed.reader {server : Server} {identities : List ApiLogin.Identity}
    (backed : Backed server.accounts identities calls) (plain : '/' ∉ dmailAddress.toList)
    {identity : ApiLogin.Identity}
    (held : heldBy (server.accounts.files dmailAddress) = some identity) :
    (service DMAIL_DIR server).identityStore.getIdentity dmailAddress =
      some (ApiServer.reader identity) := by
  rw [MessagesService.IdentityStore.getIdentity, service]
  simp only [OrderedMap.get_mapValues, fileAt_plain plain, held, Option.map_some]
  cases known : server.accounts.identities.get dmailAddress with
  | none => rfl
  | some other =>
      cases held.symm.trans (backed.memory dmailAddress other plain known)
      rfl

end Registry

section Reading
variable {past later earlier : List Input}

/-- The records in the shared storage are the service's own. -/
theorem storage_sound (past : List Input) :
    Sound (replay P bech32 DMAIL_DIR past).dhtStorage := by
  induction past with
  | nil =>
      intro key record held
      cases held
  | cons input earlier ih =>
      obtain ⟨event, now⟩ := input
      cases event with
      | request call contract => exact MailDisclosure.respond_sound ih _
      | cleanupExpired draws =>
          intro key record held
          exact ih key record (cleanupExpired_held held)
      | _ => exact ih

theorem keyed_drawn (contract : Option DMailRegistry.State) (registry : RegistryService.Registry)
    (call : Call) : drawn (keyed contract registry call) = drawn call := by
  cases call <;> rfl

theorem keyed_touches (contract : Option DMailRegistry.State) (registry : RegistryService.Registry)
    (key : String) (service : Service) (call : Call) :
    Touches key service (keyed contract registry call) ↔ Touches key service call := by
  cases call <;> rfl

/-- The input deletes or marks nothing under the key of what was stored then, and drops nothing
    that is more than a week old. -/
structure Spares (DMAIL_DIR : List String) (key : String) (made : Moment) (input : Input)
    (server : Server) : Prop where
  untouched : ∀ call contract, input.1 = .request call contract →
    ¬ Touches key (service DMAIL_DIR server) call
  young : ∀ draws, input.1 = .cleanupExpired draws → input.2.ms ≤ made.ms + MESSAGE_TTL_MS

theorem stored_alive (stored : Stored) {now : Moment}
    (young : now.ms ≤ stored.made.ms + MESSAGE_TTL_MS) :
    stored.record.isExpired now = .ok false := by
  rw [Stored.record, RelayNode.newRecord_expired]
  exact congrArg Except.ok (decide_eq_false (Nat.not_lt.mpr young))

theorem step_get {server : Server} {stored : Stored} (input : Input)
    (fresh : stored.id.text ∉ idsOf input)
    (spared : Spares DMAIL_DIR stored.key stored.made input server)
    (held : server.dhtStorage.get stored.key = some (.record stored.record)) :
    (step P bech32 DMAIL_DIR server input.1 input.2).dhtStorage.get stored.key =
      some (.record stored.record) := by
  obtain ⟨event, now⟩ := input
  cases event with
  | request call contract =>
      have untouched := mt (keyed_touches contract server.accounts.registry _ _ call).mp
        (spared.untouched call contract rfl)
      refine (respond_get _ ?_ untouched).trans held
      rw [keyed_drawn]
      exact fresh
  | cleanupExpired draws =>
      exact (cleanupExpired_get (stored_alive stored (spared.young draws rfl))).mpr held
  | _ => exact held

/-- What was stored stays, as long as it is spared. -/
theorem replay_get {stored : Stored} (later : List Input)
    (fresh : stored.id.text ∉ later.flatMap idsOf)
    (spared : EachInput (fun input between => Spares DMAIL_DIR stored.key stored.made input
      (replay P bech32 DMAIL_DIR (between ++ earlier))) later)
    (held : (replay P bech32 DMAIL_DIR earlier).dhtStorage.get stored.key =
      some (.record stored.record)) :
    (replay P bech32 DMAIL_DIR (later ++ earlier)).dhtStorage.get stored.key =
      some (.record stored.record) := by
  induction later with
  | nil => exact held
  | cons input rest ih =>
      rw [List.flatMap_cons, List.mem_append, not_or] at fresh
      obtain ⟨now, before⟩ := eachInput_cons.mp spared
      exact step_get input fresh.1 now (ih fresh.2 before)

theorem storedMessage_listed {service : Service} (sound : Sound service.dhtStorage)
    (stored : Stored) {nonce : Bytes} (around : Mailboxes.Around nonce stored.fields)
    (held : service.dhtStorage.get stored.key = some (.record stored.record)) {now : Moment}
    (young : now.ms ≤ stored.made.ms + MESSAGE_TTL_MS) (read : Bool) (draws : String → RandomId) :
    ∃ messages, messagesIn P stored.folder read draws now service = .ok messages ∧
      stored.message read ∈ messages := by
  obtain ⟨messages, listed, members⟩ :=
    Mailboxes.messagesIn_holds (P := P) stored.folder read draws now (sound.timed now)
  refine ⟨messages, listed, (members _).mpr ⟨stored.key, stored.record, held, ?_, ?_,
    Mailboxes.storedMessage_record around read⟩⟩
  · exact ⟨stored.id.text.toList, by simp [Stored.key, messageKey]⟩
  · exact stored_alive stored young

end Reading

section Lists

/-- A request for the list of an address. -/
structure Listing where
  queryAddress : Option String
  type : Option String
  headerAddress : Option String
  fetched : List (String × Json)
  draws : String → RandomId
  contract : Option DMailRegistry.State
  now : Moment

namespace Listing

def address (listing : Listing) : Option String :=
  given listing.queryAddress <|> given listing.headerAddress

variable (P DMAIL_DIR) in
def answer (listing : Listing) (server : Server) : Except Thrown Answer :=
  (request P DMAIL_DIR (.getInbox listing.queryAddress listing.type listing.headerAddress
    listing.fetched listing.draws) listing.contract listing.now server).result

end Listing

/-- The response is about this message. -/
structure Heads (sending : Sending) (sender : String) (id : RandomId)
    (response : MessageResponse) : Prop where
  id : response.id = .string id.text
  sender : response.sender = .string sender
  recipient : response.recipient = .string sending.recipient
  timestamp : response.timestamp = some (ofInt sending.made.ms)

/-- It has the content of the message. -/
structure Opened (sending : Sending) (response : MessageResponse) : Prop where
  subject : response.subject = some (.string sending.subject)
  body : response.body = some (.string sending.body)
  encrypted : response.encrypted = none

variable {sending : Sending} {sender : String} {encrypted : Encrypted} {server : Server}

theorem textField_string {key text : String} {message : Json}
    (field : message.field key = some (.string text)) : textField key message = .string text := by
  rw [textField, field]
  by_cases named : text = ""
  · subst named
    rfl
  · exact DhtStorage.orElse_of_truthy _ (by simpa [truthy] using named)

theorem given_nonempty {address : Option String} {text : String}
    (named : given address = some text) : text ≠ "" := by
  simpa using (Option.filter_eq_some_iff.mp named).2

variable (sending sender encrypted) in
/-- What the fields of the message become in a response. -/
theorem Sending.heads {stored : Stored}
    (member : stored ∈ [sending.inbox sender encrypted, sending.copy sender encrypted])
    (read : Bool) : Heads sending sender stored.id (sealedResponse (stored.message read)) := by
  have fields : (stored.message read).field "id" = some (.string stored.id.text) ∧
      (stored.message read).field "from" = some (.string sender) ∧
      (stored.message read).field "to" = some (.string sending.recipient) ∧
      (stored.message read).field "timestamp" = some (ofInt sending.made.ms) := by
    rcases List.mem_cons.mp member with rfl | last
    · simp [Stored.message, Sending.inbox, Sending.envelope, plainEnvelope, Json.field, lookup]
    · obtain rfl := List.mem_singleton.mp last
      simp [Stored.message, Sending.copy, Sending.envelope, plainEnvelope, Json.field, lookup]
  obtain ⟨id, sender, recipient, timestamp⟩ := fields
  exact ⟨textField_string id, textField_string sender, textField_string recipient, timestamp⟩

/-- The list of the recipient has the message, opened for the identity of its address. -/
theorem Sending.inbox_listed {listing : Listing} (sound : Sound server.dhtStorage)
    (asked : listing.address = some sending.recipient) (plainType : listing.type ≠ some "sent")
    (young : listing.now.ms ≤ sending.made.ms + MESSAGE_TTL_MS)
    (held : server.dhtStorage.get (sending.inbox sender encrypted).key =
      some (.record (sending.inbox sender encrypted).record))
    {identity : MessagesService.Identity}
    (known : (service DMAIL_DIR server).identityStore.getIdentity sending.recipient =
      some identity) :
    ∃ responses, listing.answer P DMAIL_DIR server = .ok (.messages responses) ∧
      ∃ response ∈ responses, response =
        { openedResponse ((sending.inbox sender encrypted).message false)
            (decrypted P ((sending.inbox sender encrypted).message false) identity) with
          read := some (.bool (isListed (getReadMessageIds sending.recipient server.dhtStorage)
            (.string sending.ids.1.text))) } := by
  obtain ⟨messages, listed, member⟩ := storedMessage_listed (P := P)
    (show Sound (service DMAIL_DIR server).dhtStorage from sound) (sending.inbox sender encrypted)
    (.plain sender sending.recipient encrypted sending.made rfl) held young false listing.draws
  have addressed : ((sending.inbox sender encrypted).message false).field "to" =
      some (.string sending.recipient) := by
    simp [Stored.message, Sending.inbox, Sending.envelope, plainEnvelope, Json.field, lookup]
  have id : textField "id" ((sending.inbox sender encrypted).message false) =
      .string sending.ids.1.text :=
    (sending.heads sender encrypted List.mem_cons_self false).id
  have nonempty : sending.recipient ≠ "" := by
    rw [Listing.address] at asked
    cases first : given listing.queryAddress with
    | some text =>
        rw [first] at asked
        cases asked
        exact given_nonempty first
    | none =>
        rw [first] at asked
        exact given_nonempty asked
  have addressee : recipientAddress sending.recipient
      ((sending.inbox sender encrypted).message false) = sending.recipient := by
    rw [recipientAddress, addressed]
    simp [nonempty]
  refine ⟨(decryptAll P sending.recipient (getReadMessageIds sending.recipient server.dhtStorage)
    messages (service DMAIL_DIR server).identityStore).1, ?_, _, ?_, rfl⟩
  · have wanted : (given listing.queryAddress <|> given listing.headerAddress) =
        some sending.recipient := asked
    have found : getInboxForAddress P sending.recipient listing.draws listing.now
        (service DMAIL_DIR server) = .ok messages := listed
    simp only [Listing.answer, request, keyed, respond, MessagesController.getInbox, wanted,
      if_neg plainType, found]
    rfl
  · rw [MailDisclosure.decryptAll_fst]
    refine List.mem_map.mpr ⟨_, member, ?_⟩
    rw [addressee, known, id]
    rfl

/-- The list of what the sender has sent has the message, with its plaintext. -/
theorem Sending.copy_listed {listing : Listing} (sound : Sound server.dhtStorage)
    (asked : listing.address = some sender) (sentType : listing.type = some "sent")
    (young : listing.now.ms ≤ sending.made.ms + MESSAGE_TTL_MS)
    (held : server.dhtStorage.get (sending.copy sender encrypted).key =
      some (.record (sending.copy sender encrypted).record)) :
    ∃ responses, listing.answer P DMAIL_DIR server = .ok (.messages responses) ∧
      ∃ response ∈ responses, Heads sending sender sending.ids.2 response ∧
        Opened sending response := by
  obtain ⟨messages, listed, member⟩ := storedMessage_listed (P := P)
    (show Sound (service DMAIL_DIR server).dhtStorage from sound) (sending.copy sender encrypted)
    (.sent sender sending.recipient sending.subject sending.body encrypted sending.made rfl) held
    young true listing.draws
  refine ⟨messages.map sentResponse, ?_,
    sentResponse ((sending.copy sender encrypted).message true), List.mem_map_of_mem member, ?_, ?_⟩
  · have wanted : (given listing.queryAddress <|> given listing.headerAddress) = some sender :=
      asked
    have found : getSentForAddress P sender listing.draws listing.now
        (service DMAIL_DIR server) = .ok messages := listed
    simp only [Listing.answer, request, keyed, respond, MessagesController.getInbox, wanted,
      if_pos sentType, found]
    rfl
  · have heads := sending.heads sender encrypted
      (List.mem_cons_of_mem (sending.inbox sender encrypted) List.mem_cons_self) true
    exact ⟨heads.id, heads.sender, heads.recipient, heads.timestamp⟩
  · constructor
    · simp [sentResponse, Stored.message, Sending.copy, Sending.envelope, plainEnvelope, Json.field,
        lookup]
    · simp [sentResponse, Stored.message, Sending.copy, Sending.envelope, plainEnvelope, Json.field,
        lookup]
    · rfl

end Lists

section Delivery
variable {past later earlier : List Input}

theorem generated_key {identity : ApiLogin.Identity}
    (member : identity ∈ past.flatMap (generated P bech32)) :
    identity.encryptionPublicKey = P.x25519PublicKey identity.encryptionPrivateKey := by
  obtain ⟨⟨event, now⟩, _, made⟩ := List.mem_flatMap.mp member
  cases event with
  | createIdentity name draws disk =>
      obtain rfl := List.mem_singleton.mp made
      rfl
  | _ => cases made

/-- One of the server's identities opens what was encrypted for another just when it is the same. -/
theorem History.agree_iff (reliable : Reliable P) (separate : KeysSeparate P)
    (history : History P bech32 DMAIL_DIR) {own other : ApiLogin.Identity}
    (ownMade : own ∈ history.past.flatMap (generated P bech32))
    (otherMade : other ∈ history.past.flatMap (generated P bech32)) (info : Bytes)
    (draws : CipherDraws) :
    KeysAgree P info draws other.encryptionPublicKey (P.x25519PublicKey own.encryptionPrivateKey) ↔
      other = own := by
  rw [generated_key otherMade]
  constructor
  · intro agree
    have same := keysAgree_unique separate (history.sized other otherMade)
      (history.sized own ownMade) agree
    rw [← generated_key otherMade, ← generated_key ownMade] at same
    exact List.inj_on_of_nodup_map history.publicKeys otherMade ownMade same
  · rintro rfl
    obtain ⟨shared, agreed, _⟩ := reliable.commutes draws.ephemeralPrivate
      other.encryptionPrivateKey draws.ephemeralPrivate_length (history.sized other otherMade)
    exact ⟨shared, shared, agreed, agreed, rfl⟩

/-- The ids that a send draws for its two records are different, and drawn by no later input. -/
theorem Sending.ids_fresh {sending : Sending}
    (ids : ((later ++ sending.input :: earlier).flatMap idsOf).Nodup) :
    sending.ids.1.text ≠ sending.ids.2.text ∧
      ∀ text ∈ [sending.ids.2.text, sending.ids.1.text], text ∉ later.flatMap idsOf := by
  rw [List.flatMap_append, List.flatMap_cons] at ids
  obtain ⟨_, nodup, apart⟩ := List.nodup_append.mp ids
  have drawnHere : idsOf sending.input = [sending.ids.2.text, sending.ids.1.text] := rfl
  rw [drawnHere] at nodup apart
  constructor
  · intro same
    exact (List.nodup_cons.mp (List.nodup_append.mp nodup).1).1 (List.mem_singleton.mpr same.symm)
  · intro text member drawn
    exact apart text drawn text (List.mem_append_left _ member) rfl

/-- The recipient's copy is opened with an identity that the message was encrypted for, and with
    no other. -/
theorem Sending.inbox_opened (reliable : Reliable P) {sending : Sending} (sender : String)
    {encryptionKey : Bytes} {encrypted : Encrypted}
    (sealed : MessageEnvelope.encryptMessage P sending.draws
      (utf8Encode (stringify (.object sending.content))) encryptionKey = .ok encrypted)
    {identity : MessagesService.Identity} (sized : identity.encryptionPrivateKey.length = 32)
    {own : Prop} (agree : KeysAgree P MessageEnvelope.INFO sending.draws encryptionKey
      (P.x25519PublicKey identity.encryptionPrivateKey) ↔ own) :
    (own → decrypted P ((sending.inbox sender encrypted).message false) identity =
        some ⟨some (.string sending.subject), some (.string sending.body)⟩) ∧
      (¬ own → decrypted P ((sending.inbox sender encrypted).message false) identity = none) := by
  have field : ((sending.inbox sender encrypted).message false).field "encrypted" =
      some (MessageEnvelope.serializeEncrypted encrypted) := by
    simp [Stored.message, Sending.inbox, Sending.envelope, plainEnvelope, Json.field, lookup]
  have opens := Sending.decrypted_iff reliable sealed identity sized field
  constructor
  · intro mine
    exact (opens _).mpr ⟨rfl, agree.mpr mine⟩
  · intro foreign
    cases opened : decrypted P ((sending.inbox sender encrypted).message false) identity with
    | none => rfl
    | some content => exact absurd (agree.mp ((opens content).mp opened).2) foreign

/-- In every history, a message that the API took for an address that is registered with it, while
    no node was running, is listed for a week under that address as long as nobody deletes it or
    puts a mark in its place: across restarts and clean-ups, and with its content exactly when
    nobody had taken the name of the address before it was sent. The sender's own list has the
    content anyway. -/
theorem sent_mail_read (reliable : Reliable P) (separate : KeysSeparate P)
    (plain : PlainAddresses bech32) (history : History P bech32 DMAIL_DIR) {sending : Sending}
    (split : history.past = later ++ sending.input :: earlier) {answer : Answer}
    (answered : (request P DMAIL_DIR sending.call sending.contract sending.made
      (replay P bech32 DMAIL_DIR earlier)).result = .ok answer)
    (idle : (replay P bech32 DMAIL_DIR earlier).p2pNode.isStarted = false)
    {entry : RegistryService.RegisteredIdentity}
    (here : lookupLocalByAddress sending.recipient
      (replay P bech32 DMAIL_DIR earlier).accounts.registry = some entry) :
    ∃ sender, given sending.senderAddress = some sender ∧
      ∀ listing : Listing, listing.now.ms ≤ sending.made.ms + MESSAGE_TTL_MS →
        (EachInput (fun input between => Spares DMAIL_DIR
            (messageKey sending.recipient sending.ids.1.text) sending.made input
            (replay P bech32 DMAIL_DIR (between ++ sending.input :: earlier))) later →
          listing.address = some sending.recipient → listing.type ≠ some "sent" →
          ∃ responses, listing.answer P DMAIL_DIR (replay P bech32 DMAIL_DIR history.past) =
              .ok (.messages responses) ∧
            ∃ response ∈ responses, Heads sending sender sending.ids.1 response ∧
              response.read = some (.bool (isRead sending.recipient sending.ids.1.text
                (replay P bech32 DMAIL_DIR history.past).dhtStorage)) ∧
              (NameKept (registrations P bech32 DMAIL_DIR earlier) sending.recipient →
                Opened sending response) ∧
              (¬ NameKept (registrations P bech32 DMAIL_DIR earlier) sending.recipient →
                response.subject = none ∧ response.body = none)) ∧
        (EachInput (fun input between => Spares DMAIL_DIR
            (messageKey (sentFolder sender) sending.ids.2.text) sending.made input
            (replay P bech32 DMAIL_DIR (between ++ sending.input :: earlier))) later →
          listing.address = some sender → listing.type = some "sent" →
          ∃ responses, listing.answer P DMAIL_DIR (replay P bech32 DMAIL_DIR history.past) =
              .ok (.messages responses) ∧
            ∃ response ∈ responses, Heads sending sender sending.ids.2 response ∧
              Opened sending response) := by
  obtain ⟨orderly, ids⟩ := And.intro history.orderly history.ids
  rw [split] at orderly ids
  obtain ⟨different, fresh⟩ := Sending.ids_fresh ids
  -- What the registry answers is the key of one of the identities on the disk.
  have before : Orderly P bech32 DMAIL_DIR earlier :=
    Orderly.earlier (later ++ [sending.input]) (by rw [List.append_assoc]; exact orderly)
  have backed := backed_replay plain before
  obtain ⟨own, other, held, ownMade, otherMade, key, same_iff⟩ := backed.found here
  have made {identity : ApiLogin.Identity}
      (member : identity ∈ earlier.flatMap (generated P bech32)) :
      identity ∈ history.past.flatMap (generated P bech32) := by
    rw [split, List.flatMap_append, List.flatMap_cons]
    exact List.mem_append_right _ (List.mem_append_right _ member)
  have found : RegistryService.lookupByAddress sending.contract sending.recipient
      (replay P bech32 DMAIL_DIR earlier).accounts.registry = some entry := by
    rw [RegistryService.lookupByAddress, here]
  obtain ⟨sender, encryptionKey, encrypted, named, keyed, sealed, stored⟩ :=
    Sending.stores (P := P) (service DMAIL_DIR (replay P bech32 DMAIL_DIR earlier)) answered idle
      different
  rw [found, Option.map_some, key] at keyed
  obtain rfl := Option.some.inj keyed
  have kept (record : Stored)
      (member : record ∈ [sending.inbox sender encrypted, sending.copy sender encrypted])
      (own : record.id.text ∈ [sending.ids.2.text, sending.ids.1.text])
      (spared : EachInput (fun input between => Spares DMAIL_DIR record.key record.made input
        (replay P bech32 DMAIL_DIR (between ++ sending.input :: earlier))) later) :
      (replay P bech32 DMAIL_DIR history.past).dhtStorage.get record.key =
        some (.record record.record) := by
    rw [split]
    exact replay_get later (fresh _ own) spared (stored record member)
  refine ⟨sender, named, fun listing young => ⟨?_, ?_⟩⟩
  · intro spared asked plainType
    have record := kept (sending.inbox sender encrypted) List.mem_cons_self
      (List.mem_cons_of_mem _ List.mem_cons_self) spared
    -- The identity of the address is still on the disk, so the message is opened with it.
    have heldNow := held_kept plain (later ++ [sending.input])
      (by rw [List.append_assoc]; exact orderly) held
    rw [List.append_assoc, List.singleton_append, ← split] at heldNow
    have nowBacked := backed_replay plain history.orderly
    have address := (nowBacked.files _ own heldNow).2
    have plainAddress : '/' ∉ sending.recipient.toList := address ▸ generated_plain plain ownMade
    obtain ⟨responses, listed, _, member, rfl⟩ := Sending.inbox_listed (P := P)
      (storage_sound history.past) asked plainType young record
      (nowBacked.reader plainAddress heldNow)
    have heads := sending.heads sender encrypted List.mem_cons_self false
    have agree : KeysAgree P MessageEnvelope.INFO sending.draws other.encryptionPublicKey
        (P.x25519PublicKey (ApiServer.reader own).encryptionPrivateKey) ↔ _ :=
      (history.agree_iff reliable separate (made ownMade) (made otherMade) _ _).trans same_iff
    obtain ⟨opened, closed⟩ := Sending.inbox_opened reliable sender sealed
      (history.sized own (made ownMade)) agree
    refine ⟨responses, listed, _, member, ⟨heads.id, heads.sender, heads.recipient,
      heads.timestamp⟩, congrArg (fun read => some (Json.bool read)) ?_, fun nameKept => ?_,
      fun nameTaken => ?_⟩
    · rw [Bool.eq_iff_iff, isListed, List.contains_iff_mem, mem_getReadMessageIds]
    · rw [opened nameKept]
      exact ⟨rfl, rfl, rfl⟩
    · rw [closed nameTaken]
      exact ⟨rfl, rfl⟩
  · intro spared asked sentType
    have record := kept (sending.copy sender encrypted)
      (List.mem_cons_of_mem _ List.mem_cons_self) List.mem_cons_self spared
    exact Sending.copy_listed (storage_sound history.past) asked sentType young record

/-! `bob` is created, gets a message, and reads it after a restart. -/

def bobCreated : Input :=
  (.createIdentity (some "bob") ⟨List.replicate 32 1, List.replicate 32 2, List.replicate 32 3⟩
    ⟨true, .done, .done⟩, RelayNode.sampleMoment)

def bobAddress : String :=
  ApiLogin.IdentityService.deriveAddress samplePackages ApiLogin.sampleBech32
    (List.replicate 32 1)

def toBob : Sending where
  recipient := bobAddress
  subject := "hi"
  body := "hello"
  senderAddress := some "alice"
  draws := sampleCipherDraws
  ids := (RelayNode.sampleDraw, Mailboxes.otherDraw)
  passage := ⟨none, true⟩
  contract := none
  made := RelayNode.sampleMoment

def bobRestarts : Input :=
  (.restarts [bobAddress ++ ".json"] .untouched, RelayNode.sampleMoment)

def bobLists : Listing where
  queryAddress := some bobAddress
  type := none
  headerAddress := none
  fetched := []
  draws := fun _ => RelayNode.sampleDraw
  contract := none
  now := RelayNode.sampleMoment

theorem bob_orderly : Orderly samplePackages ApiLogin.sampleBech32
    ApiLogin.IdentityStoreService.sampleDirectory [toBob.input, bobCreated] where
  addresses := List.nodup_singleton _
  listed := by
    refine eachInput_cons.mpr ⟨?_, eachInput_cons.mpr ⟨?_, eachInput_nil⟩⟩
    · intro listing copy same
      cases same
    · intro listing copy same
      cases same

def bobHistory : History samplePackages ApiLogin.sampleBech32
    ApiLogin.IdentityStoreService.sampleDirectory where
  past := [bobRestarts, toBob.input, bobCreated]
  orderly :=
    { addresses := List.nodup_singleton _
      listed := by
        refine eachInput_cons.mpr ⟨fun listing copy same address stored held => ?_,
          bob_orderly.listed⟩
        cases same
        obtain ⟨member, own⟩ := (backed_replay ApiLogin.IdentityStoreService.sampleBech32_plain
          bob_orderly).files address stored.identity (heldBy_iff.mpr ⟨stored, held, rfl⟩)
        rw [← own, List.mem_singleton.mp member]
        exact List.mem_cons_self }
  ids := by decide
  publicKeys := List.nodup_singleton _
  sized := by
    intro identity member
    obtain rfl := List.mem_singleton.mp member
    rfl

theorem bob_reads_mail : ∃ responses,
    bobLists.answer samplePackages ApiLogin.IdentityStoreService.sampleDirectory
        (replay samplePackages ApiLogin.sampleBech32
          ApiLogin.IdentityStoreService.sampleDirectory bobHistory.past) =
      .ok (.messages responses) ∧
    ∃ response ∈ responses, Opened toBob response := by
  have answered : ∃ answer, (request samplePackages ApiLogin.IdentityStoreService.sampleDirectory
      toBob.call toBob.contract toBob.made (replay samplePackages ApiLogin.sampleBech32
        ApiLogin.IdentityStoreService.sampleDirectory [bobCreated])).result = .ok answer := ⟨_, rfl⟩
  have spared : EachInput (fun input between => Spares
      ApiLogin.IdentityStoreService.sampleDirectory (messageKey bobAddress toBob.ids.1.text)
      toBob.made input (replay samplePackages ApiLogin.sampleBech32
        ApiLogin.IdentityStoreService.sampleDirectory (between ++ [toBob.input, bobCreated])))
      [bobRestarts] := by
    refine eachInput_cons.mpr ⟨⟨?_, ?_⟩, eachInput_nil⟩
    · intro call contract same
      cases same
    · intro draws same
      cases same
  obtain ⟨answer, answered⟩ := answered
  obtain ⟨_, _, listed⟩ := sent_mail_read sample_reliable sample_separate
    ApiLogin.IdentityStoreService.sampleBech32_plain bobHistory
    (show bobHistory.past = [bobRestarts] ++ toBob.input :: [bobCreated] from rfl) answered rfl rfl
  obtain ⟨responses, found, response, member, _, _, opened, _⟩ := (listed bobLists (by decide)).1
    spared rfl (by decide)
  refine ⟨responses, found, response, member, opened ?_⟩
  intro call later latest named other inside
  obtain ⟨first, made⟩ := latest.made
  have length : (registrations samplePackages ApiLogin.sampleBech32
      ApiLogin.IdentityStoreService.sampleDirectory [bobCreated]).length = 1 := rfl
  have nonempty := List.length_pos_of_mem inside
  rw [made, List.length_append, List.length_cons] at length
  omega

end Delivery

end Chainmail.ApiServer
