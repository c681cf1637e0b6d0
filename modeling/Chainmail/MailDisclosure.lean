import Chainmail.MessagesController

/-!
Who gets the plaintext of mail. The endpoints for messages answer any request: they decrypt
for whoever names an address, whether the request has a session or not.
-/

namespace Chainmail.MailDisclosure

open Json SharedStorage MessagesService MessagesController
open AuthService (given)
open Mailboxes (Holds messagesIn_holds)
open DhtStorage (Moment RandomId MessageRecord newRecord)

variable (P : Packages) (E : Ethers)

structure Server where
  auth : AuthService.Service
  messages : Service

/-- Besides requests for messages: those of the login, those that set the current identity,
    and whatever happens to the identities, to their files and to the node. -/
inductive Event where
  | request (authorization : Option String) (call : Call)
  | login (event : AuthService.Event)
  | setIdentity (identity : MessagesService.Identity)
  | identitiesChange (store : IdentityStore)
  | nodeChanges (node : P2PNodeService.Node)

def step (server : Server) (event : Event) (now : Moment) : Server :=
  match event with
  | .request _ call => { server with messages := (respond P call now server.messages).state }
  | .login event => { server with auth := AuthService.step E server.auth ⟨now.ms, event⟩ }
  | .setIdentity identity =>
      { server with messages := { server.messages with currentIdentity := some identity } }
  | .identitiesChange store =>
      { server with messages := { server.messages with identityStore := store } }
  | .nodeChanges node => { server with messages := { server.messages with p2pNode := node } }

/-- The last event comes first. -/
def replay : List (Event × Moment) → Server
  | [] => ⟨AuthService.start, Mailboxes.start⟩
  | (event, now) :: earlier => step P E (replay earlier) event now

/-- The request has the token of a session that is valid now. -/
def Authorized (authorization : Option String) (now : Moment) (server : Server) : Prop :=
  ∃ address, (WalletGuard.canActivate authorization now.ms server.auth).1 = .ok address

/-- The answer has the subject or the body of a message. -/
def Discloses (outcome : Outcome Service Thrown Answer) : Prop :=
  ∃ answer, outcome.result = .ok answer ∧ ∃ response ∈ answer.responses,
    response.subject ≠ none ∨ response.body ≠ none

/-- What is disclosed is disclosed to the holder of a session. -/
def Guarded (input : Event × Moment) (earlier : List (Event × Moment)) : Prop :=
  ∀ authorization call, input.1 = .request authorization call →
    Discloses (respond P call input.2 (replay P E earlier).messages) →
      Authorized authorization input.2 (replay P E earlier)

/-- There is an identity, and it decrypts a subject or a body of the message. -/
def Opens (identity : Option MessagesService.Identity) (message : Json) : Prop :=
  ∃ content, identity.bind (decrypted P message) = some content ∧
    (content.subject ≠ none ∨ content.body ≠ none)

/-- The server can read a message that the call asks for: one that was stored with its
    plaintext, or one that it has the identity for. -/
def Readable (call : Call) (now : Moment) (service : Service) : Prop :=
  match call with
  | .getInbox queryAddress type headerAddress _ _ =>
      ∃ address, (given queryAddress <|> given headerAddress) = some address ∧
        if type = some "sent" then
          ∃ message, Holds P (sentFolder address) true now service message ∧
            (message.field "plaintextSubject" ≠ none ∨ message.field "plaintextBody" ≠ none)
        else
          ∃ message, Holds P address false now service message ∧
            Opens P (service.identityStore.getIdentity (recipientAddress address message)) message
  | .getMessage id draw =>
      ∃ message, MessagesService.getMessage P id draw now service = some message ∧
        Opens P service.currentIdentity message
  | _ => False

/-- The request has a valid session, or asks for nothing that the server can read. -/
def Harmless (input : Event × Moment) (earlier : List (Event × Moment)) : Prop :=
  ∀ authorization call, input.1 = .request authorization call →
    Authorized authorization input.2 (replay P E earlier) ∨
      ¬ Readable P call input.2 (replay P E earlier).messages

/-- All records are the service's own. -/
def Sound (db : Database) : Prop :=
  ∀ key record, db.get key = some (.record record) →
    ∃ folder data id made, record = newRecord (.string folder) data id made

section Storage
variable {P E} {db : Database} {service : Service} {now : Moment}

theorem Sound.set_record (sound : Sound db) (key folder data : String) (id : RandomId)
    (now : Moment) : Sound (db.set key (.record (newRecord (.string folder) data id now))) := by
  intro other record held
  rw [OrderedMap.get_set] at held
  split at held
  · cases held
    exact ⟨folder, data, id, now, rfl⟩
  · exact sound other record held

theorem Sound.set_mark (sound : Sound db) (key : String) (now : Moment) :
    Sound (db.set key (.mark now)) := by
  intro other record held
  rw [OrderedMap.get_set] at held
  split at held
  · cases held
  · exact sound other record held

theorem Sound.delete (sound : Sound db) (key : String) : Sound (db.delete key) := by
  intro other record held
  rw [OrderedMap.get_delete] at held
  split at held
  · cases held
  · exact sound other record held

theorem send_sound (sound : Sound service.dhtStorage) (draft : Draft) (ids : RandomId × RandomId)
    (passage : P2PNodeService.Passage) (now : Moment) :
    Sound (sendMessageWithSender P draft ids passage now service).state.dhtStorage := by
  rw [sendMessageWithSender]
  split
  · exact sound
  · split
    · exact sound
    · rw [Mailboxes.store_returns, Outcome.returns_andThen, Mailboxes.store_returns]
      exact (sound.set_record _ _ _ _ _).set_record _ _ _ _ _

theorem sendEncrypted_sound (sound : Sound service.dhtStorage) (recipient : String)
    (encrypted : Json) (routingToken : Option String) (id : RandomId)
    (passage : P2PNodeService.Passage) (now : Moment) :
    Sound (sendEncryptedMessage P recipient encrypted routingToken id passage now
      service).state.dhtStorage := by
  rw [sendEncryptedMessage]
  split
  · exact sound
  · dsimp only
    split
    · exact sound
    · rw [Mailboxes.store_returns]
      exact sound.set_record _ _ _ _ _

theorem answered_state (outcome : Outcome Service Failure SendResult) :
    (answered outcome).state = outcome.state := by
  rw [answered]
  split <;> rfl

theorem getInbox_storage (queryAddress type headerAddress : Option String)
    (fetched : List (String × Json)) (draws : String → RandomId) :
    (MessagesController.getInbox P queryAddress type headerAddress fetched draws now
      service).state.dhtStorage = service.dhtStorage := by
  rw [MessagesController.getInbox]
  split
  · have inbox : (MessagesService.getInbox P fetched draws now service).state.dhtStorage =
        service.dhtStorage := by
      rw [MessagesService.getInbox]
      split
      · rfl
      · split <;> rfl
    dsimp only
    split
    · exact inbox
    · exact inbox
  · split
    · split <;> rfl
    · split <;> rfl

theorem respond_sound (sound : Sound service.dhtStorage) (call : Call) :
    Sound (respond P call now service).state.dhtStorage := by
  cases call with
  | getInbox queryAddress type headerAddress fetched draws =>
      rw [respond, getInbox_storage]
      exact sound
  | getMessage id draw =>
      rw [respond, MessagesController.getMessage]
      split
      · exact sound
      · split
        · exact sound
        · exact sound
  | sendMessage recipient subject body senderAddress encryptionKey draws ids passage =>
      rw [respond, sendMessage]
      split
      · exact sound
      · split
        · exact sound
        · rw [answered_state]
          exact send_sound sound _ ids passage now
  | sendEncryptedMessage recipient encrypted routingToken id passage =>
      rw [respond, answered_state]
      exact sendEncrypted_sound sound recipient encrypted routingToken id passage now
  -- A mark is an entry of its own, for the address given or for the identity in use.
  | markAsRead id address =>
      rw [respond]
      split
      · exact sound.set_mark _ now
      · rw [MessagesService.markAsRead, Outcome.returns_state]
        split
        · exact sound.set_mark _ now
        · split
          · exact sound
          · exact sound
  | deleteMessage id =>
      rw [respond, MessagesService.deleteMessage, Outcome.returns_state]
      split
      · exact sound
      · split
        · exact sound.delete _
        · exact sound

theorem replay_sound (past : List (Event × Moment)) :
    Sound (replay P E past).messages.dhtStorage := by
  induction past with
  | nil =>
      intro key record held
      cases held
  | cons input earlier ih =>
      obtain ⟨event, now⟩ := input
      cases event with
      | request authorization call => exact respond_sound ih call
      | login event => exact ih
      | setIdentity identity => exact ih
      | identitiesChange store => exact ih
      | nodeChanges node => exact ih

end Storage

section Reading
variable {P} {service : Service} {now : Moment}

theorem Sound.timed (sound : Sound service.dhtStorage) (now : Moment) (key : String)
    (record : MessageRecord) (held : service.dhtStorage.get key = some (.record record)) :
    (∃ expired, record.isExpired now = .ok expired) ∧
      ∃ time, toNumber record.timestamp = .ok time := by
  obtain ⟨_, _, _, _, rfl⟩ := sound key record held
  exact ⟨⟨_, RelayNode.newRecord_expired ..⟩, _, RelayNode.newRecord_timestamp ..⟩

theorem decryptAll_fst (address : String) (ids : List String) (messages : List Json)
    (store : IdentityStore) : (decryptAll P address ids messages store).1 =
      messages.map fun message =>
        { openedResponse message
            ((store.getIdentity (recipientAddress address message)).bind (decrypted P message)) with
          read := some (.bool (isListed ids (textField "id" message))) } := by
  induction messages generalizing store with
  | nil => rfl
  | cons message rest ih =>
      simp only [decryptAll, decryptMessageForAddress, ih, getIdentity_load]
      rfl

theorem opens_iff (identity : Option MessagesService.Identity) (message : Json) :
    (identity.bind (decrypted P message)).bind DecryptedMessage.subject ≠ none ∨
      (identity.bind (decrypted P message)).bind DecryptedMessage.body ≠ none ↔
        Opens P identity message := by
  rw [Opens]
  cases identity.bind (decrypted P message) with
  | none => simp
  | some content => simp

@[simp] theorem discloses_returns (answer : Answer) : Discloses (.returns service answer) ↔
    ∃ response ∈ answer.responses, response.subject ≠ none ∨ response.body ≠ none := by
  simp [Discloses]

@[simp] theorem discloses_throws (thrown : Thrown) : ¬ Discloses (.throws service thrown) := by
  simp [Discloses]

theorem getInbox_discloses (sound : Sound service.dhtStorage)
    (queryAddress type headerAddress : Option String) (fetched : List (String × Json))
    (draws : String → RandomId) :
    Discloses (MessagesController.getInbox P queryAddress type headerAddress fetched draws now
      service) ↔ Readable P (.getInbox queryAddress type headerAddress fetched draws) now service := by
  rw [MessagesController.getInbox, Readable]
  cases wanted : (given queryAddress <|> given headerAddress) with
  | none =>
      refine iff_of_false ?_ (by simp)
      dsimp only
      split
      · exact discloses_throws _
      · simp [Answer.responses, sealedResponse]
  | some address =>
      simp only [Option.some.injEq, exists_eq_left']
      by_cases sent : type = some "sent"
      · obtain ⟨messages, listed, members⟩ :=
          messagesIn_holds (P := P) (sentFolder address) true draws now (sound.timed now)
        rw [if_pos sent, if_pos sent, getSentForAddress, listed]
        simp [Answer.responses, sentResponse, members]
      · obtain ⟨messages, listed, members⟩ :=
          messagesIn_holds (P := P) address false draws now (sound.timed now)
        rw [if_neg sent, if_neg sent, getInboxForAddress, listed]
        simp only [discloses_returns, Answer.responses, decryptAll_fst, List.mem_map,
          exists_exists_and_eq_and, members, openedResponse, opens_iff]

theorem getMessage_discloses (id : String) (draw : RandomId) :
    Discloses (MessagesController.getMessage P id draw now service) ↔
      Readable P (.getMessage id draw) now service := by
  rw [MessagesController.getMessage, Readable]
  cases found : MessagesService.getMessage P id draw now service with
  | none => simp
  | some message =>
      simp only [Option.some.injEq, exists_eq_left', ← opens_iff]
      cases current : service.currentIdentity with
      | none => simp [decryptMessage, current]
      | some identity => simp [decryptMessage, current, Answer.responses, openedResponse]

/-- What a send answers has no plaintext. -/
theorem answered_closed (outcome : Outcome Service Failure SendResult) :
    ¬ Discloses (answered outcome) := by
  rw [answered]
  split
  · exact discloses_throws _
  · simp [Answer.responses]

/-- An endpoint discloses something just when it is asked for what the server can read. -/
theorem discloses_iff (sound : Sound service.dhtStorage) (call : Call) :
    Discloses (respond P call now service) ↔ Readable P call now service := by
  cases call with
  | getInbox queryAddress type headerAddress fetched draws =>
      exact getInbox_discloses sound queryAddress type headerAddress fetched draws
  | getMessage id draw => exact getMessage_discloses id draw
  | sendMessage recipient subject body senderAddress encryptionKey draws ids passage =>
      refine iff_of_false ?_ id
      rw [respond, sendMessage]
      split
      · exact discloses_throws _
      · split
        · exact discloses_throws _
        · exact answered_closed _
  | sendEncryptedMessage recipient encrypted routingToken id passage =>
      exact iff_of_false (answered_closed _) not_false
  | markAsRead id address =>
      refine iff_of_false ?_ not_false
      rw [respond]
      split
      · simp [Answer.responses]
      · simp [Answer.responses]
  | deleteMessage id => exact iff_of_false (by simp [respond, Answer.responses]) not_false

end Reading

/-- In every history, only holders of a session are told the plaintext of mail exactly when
    every request without one asks for nothing that the server can read. -/
theorem plaintext_guarded_iff (past : List (Event × Moment)) :
    EachInput (Guarded P E) past ↔ EachInput (Harmless P E) past := by
  refine forall_congr' fun input => forall_congr' fun earlier => forall_congr' fun suffix =>
    forall_congr' fun authorization => forall_congr' fun call => forall_congr' fun named => ?_
  rw [discloses_iff (replay_sound earlier)]
  by_cases authorized : Authorized authorization input.2 (replay P E earlier)
  · simp [authorized]
  · simp [authorized]

section Example

/-- Anyone asks for what `alice` has sent. -/
def curious : Call := .getInbox (some "alice") (some "sent") none [] fun _ => RelayNode.sampleDraw

/-- `alice` sends a message, and then someone asks without a token. -/
def curiousHistory : List (Event × Moment) :=
  [(.request none curious, RelayNode.sampleMoment),
    (.request none (.sendMessage "bob" "hi" "hello" (some "alice") (some [7]) sampleCipherDraws
      (RelayNode.sampleDraw, Mailboxes.otherDraw) ⟨none, true⟩), RelayNode.sampleMoment)]

theorem sent_mail_told_to_anyone : ¬ ∀ (P : Packages) (E : Ethers) (past : List (Event × Moment)),
    EachInput (Guarded P E) past := by
  intro claimed
  -- Nobody logs in here, so any wallet will do.
  let wallet : Ethers := ⟨fun _ => none, fun _ _ => none⟩
  let server := replay samplePackages wallet curiousHistory.tail
  obtain ⟨envelope, made⟩ : ∃ envelope,
      Mailboxes.sampleDraft.envelope samplePackages RelayNode.sampleMoment = .ok envelope := ⟨_, rfl⟩
  obtain ⟨encrypted, drawn, rfl⟩ := Mailboxes.envelope_made made
  let stored : Mailboxes.Stored := ⟨sentFolder "alice", Mailboxes.otherDraw,
    Mailboxes.sampleDraft.sentEnvelope (plainEnvelope "alice" "bob"
      (MessageEnvelope.serializeEncrypted encrypted) RelayNode.sampleMoment), RelayNode.sampleMoment⟩
  have held : server.messages.dhtStorage.get stored.key = some (.record stored.record) := by
    have send : server.messages.dhtStorage = (sendMessageWithSender samplePackages
        Mailboxes.sampleDraft (RelayNode.sampleDraw, Mailboxes.otherDraw) ⟨none, true⟩
        RelayNode.sampleMoment Mailboxes.start).state.dhtStorage := by
      simp only [server, curiousHistory, List.tail_cons, replay, step, respond, sendMessage]
      exact congrArg Service.dhtStorage (answered_state _)
    rw [send, sendMessageWithSender, made]
    exact OrderedMap.get_set_self _ _ _
  have readable : Readable samplePackages curious RelayNode.sampleMoment server.messages := by
    refine ⟨"alice", rfl, stored.message true, ⟨stored.key, stored.record, held, ?_, ?_, ?_⟩, ?_⟩
    · exact ⟨stored.id.text.toList, by simp [stored, Mailboxes.Stored.key, messageKey]⟩
    · exact RelayNode.newRecord_expired ..
    · exact Mailboxes.storedMessage_record (.sent _ _ _ _ _ _ drawn) true
    · exact .inl (by simp [Mailboxes.Stored.message, stored, Draft.sentEnvelope, plainEnvelope,
        field, lookup])
  have told := claimed samplePackages wallet curiousHistory _ _ (List.suffix_refl _) none
    curious rfl ((discloses_iff (replay_sound _) _).mpr readable)
  obtain ⟨address, active⟩ := told
  cases active

end Example

end Chainmail.MailDisclosure
