import Chainmail.MailDisclosure

/-!
The id that a send returns. Without a started node the service computes one from the envelope,
while the shared storage files the message under an id that it draws.
-/

namespace Chainmail.ReturnedIds

open Json SharedStorage MessagesService
open MailDisclosure (Event replay Sound)
open Mailboxes (Stored Shows)
open DhtStorage (Moment RandomId MessageRecord newRecord MESSAGE_TTL_MS)

variable (P : Packages)

/-- Until the message expires, the recipient's list shows it under the returned id, the storage
    gets it by that id, and a deletion of that id removes it. -/
structure Served (stored : Stored) (result : SendResult) (service : Service) : Prop where
  appears : ∀ draws moment, moment.ms ≤ stored.made.ms + MESSAGE_TTL_MS →
    ∃ messages, getInboxForAddress P stored.folder draws moment service = .ok messages ∧
      ∃ message ∈ messages, storedMessage P false stored.record = .ok message ∧
        Shows stored.fields message ∧ message.field "id" = some (.string result.messageId)
  got : ∀ draw moment, moment.ms ≤ stored.made.ms + MESSAGE_TTL_MS →
    SharedStorage.getMessage stored.folder result.messageId draw moment service.dhtStorage =
      some stored.record
  removed : (SharedStorage.deleteMessage stored.folder result.messageId service.dhtStorage).get
    stored.key = none

/-- What a local send stores for the recipient, and then for the sender. -/
def forRecipient (draft : Draft) (ids : RandomId × RandomId) (envelope : List (String × Json))
    (now : Moment) : Stored :=
  ⟨draft.recipient, ids.1, envelope, now⟩

def forSender (draft : Draft) (ids : RandomId × RandomId) (envelope : List (String × Json))
    (now : Moment) : Stored :=
  ⟨sentFolder draft.sender, ids.2, draft.sentEnvelope envelope, now⟩

/-- The id that was drawn for the recipient's record is the one computed from the envelope, and
    the sender's copy is put elsewhere. -/
def Drawn (draft : Draft) (ids : RandomId × RandomId) (envelope : List (String × Json)) : Prop :=
  ids.1.text = generateMessageId P (.object envelope) ∧
    messageKey draft.recipient ids.1.text ≠ messageKey (sentFolder draft.sender) ids.2.text

section Sending
variable {P} {draft : Draft} {ids : RandomId × RandomId} {passage : P2PNodeService.Passage}
  {now : Moment} {service : Service} {envelope : List (String × Json)} {result : SendResult}

theorem send_local (idle : service.p2pNode.isStarted = false)
    (made : draft.envelope P now = .ok envelope) :
    sendMessageWithSender P draft ids passage now service =
      .returns { service with
          dhtStorage := (service.dhtStorage.set (forRecipient draft ids envelope now).key
            (.record (forRecipient draft ids envelope now).record)).set
            (forSender draft ids envelope now).key
            (.record (forSender draft ids envelope now).record) }
        ⟨generateMessageId P (.object envelope), now.ms⟩ := by
  rw [sendMessageWithSender, made]
  simp only [idle, Bool.false_eq_true, ↓reduceIte, Mailboxes.store_returns,
    Outcome.returns_andThen]
  rfl

theorem encode_injective {left right : Json} (first : Canonical left) (second : Canonical right)
    (same : encode left = encode right) : left = right := by
  have texts := congrArg bufferToString (toBase64_injective same)
  rw [bufferToString_encode, bufferToString_encode] at texts
  have parsed := parse_stringify left first
  rw [texts, parse_stringify right second] at parsed
  exact (Option.some.inj parsed).symm

/-- The sender's copy, which has the plaintext, is another record than the recipient's. -/
theorem copies_differ (made : draft.envelope P now = .ok envelope) :
    (forRecipient draft ids envelope now).record ≠ (forSender draft ids envelope now).record := by
  intro same
  have data : encode (.object envelope) = encode (.object (draft.sentEnvelope envelope)) := by
    have held := congrArg MessageRecord.data same
    exact Json.string.inj (Option.some.inj held)
  obtain ⟨encrypted, nonce, rfl⟩ := Mailboxes.envelope_made made
  have plain := (Mailboxes.Around.plain draft.sender draft.recipient encrypted now nonce).canonical
  have sent := (Mailboxes.Around.sent draft.sender draft.recipient draft.subject draft.body encrypted
    now nonce).canonical
  have fields := Json.object.inj (encode_injective plain sent data)
  simp at fields

theorem message_id (stored : Stored) (read : Bool) :
    (stored.message read).field "id" = some (.string stored.id.text) := by
  simp [Stored.message, field, lookup]

/-- Where the recipient's record is held under its key, the id that it has serves. -/
theorem served_of_held {stored : Stored} {nonce : Bytes} (sound : Sound service.dhtStorage)
    (around : Mailboxes.Around nonce stored.fields)
    (held : service.dhtStorage.get stored.key = some (.record stored.record))
    (own : stored.id.text = result.messageId) : Served P stored result service := by
  have listed : storedMessage P false stored.record = .ok (stored.message false) :=
    Mailboxes.storedMessage_record around false
  have alive (moment : Moment) (young : moment.ms ≤ stored.made.ms + MESSAGE_TTL_MS) :
      stored.record.isExpired moment = .ok false := by
    rw [Stored.record, RelayNode.newRecord_expired]
    simpa using young
  refine ⟨fun draws moment young => ?_, fun draw moment young => ?_, ?_⟩
  · obtain ⟨messages, found, members⟩ := Mailboxes.messagesIn_holds (P := P) stored.folder false
      draws moment (sound.timed moment)
    refine ⟨messages, found, stored.message false, ?_, listed,
      Mailboxes.shows_message around false, own ▸ message_id stored false⟩
    refine (members _).mpr ⟨_, _, held, ?_, alive moment young, listed⟩
    exact ⟨stored.id.text.toList, (String.toList_append ..).symm⟩
  · rw [← own]
    exact getMessage_record held (alive moment young) draw
  · rw [← own]
    exact OrderedMap.get_delete_self _ _

theorem served_iff (sound : Sound service.dhtStorage) (idle : service.p2pNode.isStarted = false)
    (made : draft.envelope P now = .ok envelope)
    (returned : (sendMessageWithSender P draft ids passage now service).result = .ok result) :
    Served P (forRecipient draft ids envelope now) result
        (sendMessageWithSender P draft ids passage now service).state ↔
      Drawn P draft ids envelope := by
  have after := MailDisclosure.send_sound (P := P) sound draft ids passage now
  obtain ⟨encrypted, nonce, plain⟩ := Mailboxes.envelope_made made
  have around : Mailboxes.Around draft.draws.nonce envelope := plain ▸ .plain _ _ _ _ nonce
  rw [send_local idle made, Outcome.returns_state] at after ⊢
  rw [send_local idle made] at returned
  cases returned
  constructor
  · intro served
    obtain ⟨messages, _, message, _, shown, _, named⟩ := served.appears (fun _ => ids.1) now
      (Nat.le_add_right _ _)
    have listed : storedMessage P false (forRecipient draft ids envelope now).record =
        .ok ((forRecipient draft ids envelope now).message false) :=
      Mailboxes.storedMessage_record around false
    cases listed.symm.trans shown
    have own : ids.1.text = generateMessageId P (.object envelope) := by
      simpa [forRecipient] using (message_id _ false).symm.trans named
    refine ⟨own, fun same => ?_⟩
    -- The storage would get the sender's copy.
    have copied : ((service.dhtStorage.set (forRecipient draft ids envelope now).key
        (.record (forRecipient draft ids envelope now).record)).set
        (forSender draft ids envelope now).key
        (.record (forSender draft ids envelope now).record)).get
          (messageKey draft.recipient ids.1.text) =
        some (.record (forSender draft ids envelope now).record) := by
      rw [same]
      exact OrderedMap.get_set_self _ _ _
    have alive : (forSender draft ids envelope now).record.isExpired now = .ok false := by
      rw [Stored.record, RelayNode.newRecord_expired]
      simp [forSender]
    have got := served.got ids.1 now (Nat.le_add_right _ _)
    rw [← own] at got
    exact copies_differ made (Option.some.inj (got.symm.trans (getMessage_record copied alive ids.1)))
  · rintro ⟨own, apart⟩
    refine served_of_held after around ?_ own
    exact (OrderedMap.get_set_of_ne _ _ apart).trans (OrderedMap.get_set_self _ _ _)

end Sending

/-- After any history, the id that a local send returns serves for its message exactly when the
    storage happened to draw the id that the service computes from the envelope. -/
theorem returned_id_serves_iff (P : Packages) (E : Ethers) (past : List (Event × Moment))
    (draft : Draft) (ids : RandomId × RandomId) (passage : P2PNodeService.Passage) (now : Moment)
    (envelope : List (String × Json)) (result : SendResult)
    (idle : (replay P E past).messages.p2pNode.isStarted = false)
    (made : draft.envelope P now = .ok envelope)
    (returned : (sendMessageWithSender P draft ids passage now
      (replay P E past).messages).result = .ok result) :
    Served P (forRecipient draft ids envelope now) result
        (sendMessageWithSender P draft ids passage now (replay P E past).messages).state ↔
      Drawn P draft ids envelope :=
  served_iff (MailDisclosure.replay_sound past) idle made returned

section Example

open Mailboxes (sampleDraft otherDraw)
open RelayNode (sampleDraw sampleMoment)

/-- Nobody logs in here, so any wallet will do. -/
def anyWallet : Ethers := ⟨fun _ => none, fun _ _ => none⟩

def sampleEnvelope : List (String × Json) :=
  (sampleDraft.envelope samplePackages sampleMoment).toOption.getD []

/-- The bytes that the sample hash of the envelope starts with. -/
def luckyDraw : RandomId :=
  ⟨[0, 0, 0, 0x7b, 0x22, 0x66, 0x72, 0x6f, 0x6d, 0x22, 0x3a, 0x22, 0x61, 0x6c, 0x69, 0x63], rfl⟩

theorem sample_made : sampleDraft.envelope samplePackages sampleMoment = .ok sampleEnvelope := rfl

theorem sample_computed :
    generateMessageId samplePackages (.object sampleEnvelope) = luckyDraw.text := by
  rw [generateMessageId, stringify, utf8Encode_ofList]
  decide +kernel

theorem lucky_id_serves : Served samplePackages
    (forRecipient sampleDraft (luckyDraw, otherDraw) sampleEnvelope sampleMoment)
    ⟨luckyDraw.text, 1⟩ (sendMessageWithSender samplePackages sampleDraft (luckyDraw, otherDraw)
      ⟨none, true⟩ sampleMoment Mailboxes.start).state := by
  refine (returned_id_serves_iff samplePackages anyWallet [] sampleDraft (luckyDraw, otherDraw)
    ⟨none, true⟩ sampleMoment sampleEnvelope _ rfl sample_made ?_).mpr ⟨sample_computed.symm, by decide +kernel⟩
  rw [send_local rfl sample_made, sample_computed]
  rfl

theorem returned_id_unknown : ¬ ∀ (P : Packages) (E : Ethers) (past : List (Event × Moment))
    (draft : Draft) (ids : RandomId × RandomId) (passage : P2PNodeService.Passage) (now : Moment)
    (envelope : List (String × Json)) (result : SendResult),
    (replay P E past).messages.p2pNode.isStarted = false →
    draft.envelope P now = .ok envelope →
    (sendMessageWithSender P draft ids passage now
      (replay P E past).messages).result = .ok result →
    Served P (forRecipient draft ids envelope now) result
      (sendMessageWithSender P draft ids passage now (replay P E past).messages).state := by
  intro claimed
  have idle : (replay samplePackages anyWallet []).messages.p2pNode.isStarted = false := rfl
  have returned : (sendMessageWithSender samplePackages sampleDraft (sampleDraw, otherDraw)
      ⟨none, true⟩ sampleMoment (replay samplePackages anyWallet []).messages).result =
        .ok ⟨generateMessageId samplePackages (.object sampleEnvelope), 1⟩ := by
    rw [send_local idle sample_made]
    rfl
  have served := claimed _ _ _ _ _ _ _ _ _ idle sample_made returned
  have drawn := ((served_iff (MailDisclosure.replay_sound []) idle sample_made returned).mp served).1
  rw [sample_computed] at drawn
  revert drawn
  decide +kernel

end Example

end Chainmail.ReturnedIds
