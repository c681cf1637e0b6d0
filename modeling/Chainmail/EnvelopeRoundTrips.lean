import Chainmail.Addressee
import Chainmail.InboxListing

/-!
What was written is what is read. Between the builder and the parser of either
format an envelope is printed, sent, parsed, stored with more fields and listed.
-/

namespace Chainmail.SealedEnvelope

open Json Senders

variable {P : Packages}

section Transport

/-- The parser reads nothing of the outer envelope but its type and its payload. -/
theorem parse_congr (identity : Identity P) {fields other : List (String × Json)}
    (sameType : lookup "type" fields = lookup "type" other)
    (samePayload : lookup "payload" fields = lookup "payload" other) :
    parse identity (.object fields) = parse identity (.object other) := by
  simp only [parse, openInner, member_object, field, sameType, samePayload]

def outerFields (P : Packages) (recipient : String) (draws : Draws) (inner : Encrypted) :
    List (String × Json) :=
  ownFields (outerEnvelope P recipient draws inner)

theorem outerFields_storable (recipient : String) (draws : Draws) (inner : Encrypted) :
    DMailNode.Storable (outerFields P recipient draws inner) where
  names := by
    have plain : PlainNames ["id", "version", "type", "routingToken", "timestamp", "payload",
      "padding", "dhtReplicationCount", "receivedAt", "read"] := by decide
    exact plain
  values := by
    refine ⟨trivial, trivial, trivial, trivial, ?_, trivial, trivial⟩
    exact canonical_object ["ephemeralKey", "nonce", "ciphertext"] rfl (by decide)
      ⟨trivial, trivial, trivial, trivial⟩

end Transport

section Written

/-- A message with these contents, as its builder's methods make it. -/
def written (sender recipient : Identity P) (subject body : Value) (attachments : List Value) :
    SealedEnvelopeBuilder P :=
  attachments.foldl (fun builder a => builder.attachment a.val)
    (((createSealedMessage sender).to recipient.address recipient.encryptionPublicKey).subject
      subject.val |>.body body.val)

def contentOf (subject body : Value) (attachments : List Value) : Content :=
  ⟨subject.val, body.val, attachments.map Subtype.val, .null, .null⟩

theorem foldl_attachment (builder : SealedEnvelopeBuilder P) (attachments : List Value) :
    attachments.foldl (fun builder a => builder.attachment a.val) builder =
      { builder with content := { builder.content with
        attachments := builder.content.attachments ++ attachments.map Subtype.val } } := by
  induction attachments generalizing builder with
  | nil => simp
  | cons first rest ih =>
      rw [List.foldl_cons, ih]
      simp [SealedEnvelopeBuilder.attachment]

theorem written_eq (sender recipient : Identity P) (subject body : Value)
    (attachments : List Value) : written sender recipient subject body attachments =
      ⟨sender, some recipient.address, some recipient.encryptionPublicKey,
        contentOf subject body attachments⟩ := by
  rw [written, foldl_attachment]
  rfl

theorem values_canonical (values : List Value) : CanonicalItems (values.map Subtype.val) :=
  canonicalItems_map fun value _ => value.property

theorem value_canonical (given : Option Value) : ∀ value ∈ given.map Subtype.val, Canonical value := by
  intro value held
  obtain ⟨found, _, rfl⟩ := Option.mem_map.mp held
  exact found.property

theorem contentOf_printable (subject body : Value) (attachments : List Value) :
    (contentOf subject body attachments).Printable :=
  ⟨subject.property, body.property, values_canonical attachments, trivial, trivial⟩

end Written

section RoundTrip

/-- The message says what the builder was given, and counts as verified. -/
structure Reads (sender recipient : Identity P) (subject body : Value) (attachments : List Value)
    (message : Message) : Prop where
  «from» : message.from = some (.string sender.address)
  «to» : message.to = some (.string recipient.address)
  subject : message.subject = some subject.val
  body : message.body = some body.val
  attachments : message.attachments = .array (attachments.map Subtype.val)
  verified : message.verified = true

variable {sender recipient : Identity P} {subject body : Value} {attachments : List Value}
  {draws : Draws} {encrypted : Encrypted}

theorem build_written (commutes : AgreementCommutes P) (sized : Sha256Length P)
    (sender recipient : Identity P) (subject body : Value) (attachments : List Value)
    (draws : Draws) : ∃ encrypted,
    encryptForRecipient P draws.toCipherDraws (utf8Encode (stringify (.object
      (withSignature sender (innerPlaintext sender recipient.address
        (contentOf subject body attachments) draws.now))))) recipient.encryptionPublicKey =
      .ok encrypted ∧
    (written sender recipient subject body attachments).build draws =
      .ok (.object (outerFields P recipient.address draws encrypted)) := by
  obtain ⟨encrypted, encryption⟩ := encryptFor_own commutes
    (encryptionPrivateKey_length sized recipient) INFO_INNER _ draws.toCipherDraws
  refine ⟨encrypted, encryption, ?_⟩
  rw [written_eq]
  simp only [SealedEnvelopeBuilder.build, if_neg (address_nonempty recipient)]
  rw [encryptForRecipient, Identity.encryptionPublicKey, encryption]
  rfl

theorem parse_own (reliable : Reliable P)
    (encryption : encryptForRecipient P draws.toCipherDraws (utf8Encode (stringify (.object
      (withSignature sender (innerPlaintext sender recipient.address
        (contentOf subject body attachments) draws.now))))) recipient.encryptionPublicKey =
      .ok encrypted) : ∃ message,
    parse recipient (.object (outerFields P recipient.address draws encrypted)) = .ok message ∧
      Reads sender recipient subject body attachments message := by
  have canonical := inner_canonical sender recipient.address
    (contentOf_printable subject body attachments) draws.now
  have opened := openInner_own recipient.address reliable.commutes reliable.roundTrips
    reliable.sized canonical encryption
  obtain ⟨signature, accepts⟩ := inner_accepted reliable.verifies sender recipient
    (contentOf subject body attachments) draws.now
  exact ⟨_, parse_ok_iff.mpr ⟨_, _, _, opened, accepts, rfl⟩, rfl, rfl, rfl, rfl, rfl, rfl⟩

theorem parse_other (reliable : Reliable P) (separate : KeysSeparate P) {other : Identity P}
    (different : other.encryptionPublicKey ≠ recipient.encryptionPublicKey)
    (encryption : encryptForRecipient P draws.toCipherDraws (utf8Encode (stringify (.object
      (withSignature sender (innerPlaintext sender recipient.address
        (contentOf subject body attachments) draws.now))))) recipient.encryptionPublicKey =
      .ok encrypted) : ∃ failure,
    parse other (.object (outerFields P recipient.address draws encrypted)) = .error failure := by
  cases parsed : parse other (.object (outerFields P recipient.address draws encrypted)) with
  | error failure => exact ⟨failure, rfl⟩
  | ok message =>
      obtain ⟨inner, _, _, opened, _, _⟩ := parse_ok_iff.mp parsed
      have agree := ((openInner_ok_iff recipient.address other reliable.commutes
        reliable.roundTrips reliable.commits reliable.sized
        (inner_canonical sender recipient.address (contentOf_printable subject body attachments)
          draws.now)
        encryption inner).mp opened).2
      have same := keysAgree_unique separate (encryptionPrivateKey_length reliable.sized recipient)
        (encryptionPrivateKey_length reliable.sized other) agree
      exact absurd same.symm different

/-- A sealed envelope reaches the inbox as it was built, and from there its recipient reads
    what was written, and nobody with another encryption key reads anything. -/
theorem sealed_round_trip (reliable : Reliable P) (separate : KeysSeparate P)
    (sender recipient : Identity P) (subject body : Value) (attachments : List Value)
    (draws : Draws) : ∃ envelope,
    (written sender recipient subject body attachments).build draws = .ok envelope ∧
      parseOrThrow (textDecode (utf8Encode (stringify envelope))) = .ok envelope ∧
      ∀ (count : Option Value) (receivedAt : Nat) (read : Bool) (messageId : Option String),
        ∃ shown, DMailNode.InboxEntry.shown messageId
            ⟨envelope, count.map Subtype.val, receivedAt, read⟩ = .ok shown ∧
          (∃ message, parse recipient shown = .ok message ∧
            Reads sender recipient subject body attachments message) ∧
          ∀ other : Identity P, other.encryptionPublicKey ≠ recipient.encryptionPublicKey →
            ∃ failure, parse other shown = .error failure := by
  obtain ⟨encrypted, encryption, built⟩ := build_written reliable.commutes reliable.sized sender
    recipient subject body attachments draws
  have storable := outerFields_storable (P := P) recipient.address draws encrypted
  refine ⟨_, built, parse_transmitted storable.canonical, fun count receivedAt read messageId => ?_⟩
  obtain ⟨listed, shown, same⟩ := DMailNode.shown_fields
    ⟨_, count.map Subtype.val, receivedAt, read⟩ storable rfl (value_canonical count) messageId
  have parses (identity : Identity P) : parse identity (.object listed) =
      parse identity (.object (outerFields P recipient.address draws encrypted)) := by
    apply parse_congr
    · exact same "type" (by simp [outerFields, outerEnvelope, ownFields])
    · exact same "payload" (by simp [outerFields, outerEnvelope, ownFields])
  refine ⟨_, shown, ?_, fun other different => ?_⟩
  · rw [parses]
    exact parse_own reliable encryption
  · rw [parses]
    exact parse_other reliable separate different encryption

/-- Alice writes to Bob, with an attachment. -/
theorem sealed_note_read : ∃ envelope,
    (written (sampleIdentity 1) (sampleIdentity 2) greeting greeting [greeting]).build sampleDraws =
        .ok envelope ∧
      parseOrThrow (textDecode (utf8Encode (stringify envelope))) = .ok envelope ∧
      ∀ (count : Option Value) (receivedAt : Nat) (read : Bool) (messageId : Option String),
        ∃ shown, DMailNode.InboxEntry.shown messageId
            ⟨envelope, count.map Subtype.val, receivedAt, read⟩ = .ok shown ∧
          (∃ message, parse (sampleIdentity 2) shown = .ok message ∧
            Reads (sampleIdentity 1) (sampleIdentity 2) greeting greeting [greeting] message) ∧
          ∀ other : Identity samplePackages,
            other.encryptionPublicKey ≠ (sampleIdentity 2).encryptionPublicKey →
              ∃ failure, parse other shown = .error failure :=
  sealed_round_trip sample_reliable sample_separate (sampleIdentity 1) (sampleIdentity 2) greeting
    greeting [greeting] sampleDraws

end RoundTrip

end Chainmail.SealedEnvelope

namespace Chainmail.MessageEnvelope

open Json Senders ProofOfWork

variable {P : Packages}

section Transport

/-- The fields of an envelope that its parser reads. -/
def parsedFields : List String :=
  ["version", "from", "to", "timestamp", "encrypted", "signature", "pow"]

theorem hashEnvelope_congr {fields other : List (String × Json)}
    (same : ∀ key ∈ parsedFields, lookup key fields = lookup key other) :
    hashEnvelope P (.object fields) = hashEnvelope P (.object other) := by
  simp only [hashEnvelope, field]
  rw [same "version" (by decide), same "from" (by decide), same "to" (by decide),
    same "timestamp" (by decide), same "encrypted" (by decide)]

theorem parse_congr (identity : Identity P) {fields other : List (String × Json)}
    (same : ∀ key ∈ parsedFields, lookup key fields = lookup key other) :
    parse identity (.object fields) = parse identity (.object other) := by
  have hash := hashEnvelope_congr (P := P) same
  have opened : openContent identity (.object fields) = openContent identity (.object other) := by
    simp only [openContent, field]
    rw [same "encrypted" (by decide)]
  have read (content : Json) : messageOf P (.object fields) content =
      messageOf P (.object other) content := by
    simp only [messageOf, getMessageId, hash, field]
    rw [same "from" (by decide), same "to" (by decide), same "timestamp" (by decide)]
  simp only [parse, member_object, hash, opened, read, field]
  rw [same "version" (by decide), same "from" (by decide), same "to" (by decide),
    same "pow" (by decide), same "signature" (by decide)]
  rfl

def builtFields (builder : MessageBuilder P) (address : String) (encrypted : Encrypted)
    (pow : Proof) : List (String × Json) :=
  SealedEnvelope.ownFields (builtEnvelope builder address encrypted pow)

theorem builtFields_storable (builder : MessageBuilder P) (address : String)
    (encrypted : Encrypted) (pow : Proof) :
    DMailNode.Storable (builtFields builder address encrypted pow) where
  names := by
    have plain : PlainNames ["id", "version", "from", "fromEncryptionKey", "to", "timestamp",
      "encrypted", "signature", "pow", "dhtReplicationCount", "receivedAt", "read"] := by decide
    exact plain
  values := by
    refine ⟨trivial, trivial, trivial, trivial, trivial, ?_, trivial, ?_, trivial⟩
    · exact canonical_object ["ephemeralPublicKey", "nonce", "ciphertext"] rfl (by decide)
        ⟨trivial, trivial, trivial, trivial⟩
    · exact canonical_object ["nonce", "hash", "difficulty"] rfl (by decide)
        ⟨trivial, trivial, trivial, trivial⟩

end Transport

section RoundTrip

/-- A message with these contents, to somebody. -/
def written (sender recipient : Identity P) (timestamp : Nat) (subject body : Value)
    (attachments : List Value) (replyTo threadId : Value) : MessageBuilder P :=
  { createMessage sender timestamp with
    «to» := some recipient.address
    subject := subject.val
    body := body.val
    attachments := attachments.map Subtype.val
    replyTo := replyTo.val
    threadId := threadId.val }

theorem written_canonical (sender recipient : Identity P) (timestamp : Nat) (subject body : Value)
    (attachments : List Value) (replyTo threadId : Value) : Canonical (.object (plaintext
      (written sender recipient timestamp subject body attachments replyTo threadId))) := by
  apply canonical_object ["subject", "body", "attachments", "replyTo", "threadId"] rfl
  · decide +kernel
  · exact ⟨subject.property, body.property, SealedEnvelope.values_canonical attachments,
      replyTo.property, threadId.property, trivial⟩

/-- The message says what the builder was given. -/
structure Reads (builder : MessageBuilder P) (message : Message) : Prop where
  «from» : message.from = some (.string builder.identity.address)
  «to» : message.to = builder.to.map .string
  timestamp : message.timestamp = some (ofInt builder.timestamp)
  subject : message.subject = some builder.subject
  body : message.body = some builder.body
  attachments : message.attachments = .array builder.attachments
  replyTo : message.replyTo = some builder.replyTo
  threadId : message.threadId = some builder.threadId

theorem parse_own (reliable : Reliable P) {builder : MessageBuilder P} {recipient : Identity P}
    {draws : CipherDraws} {encrypted : Encrypted} {pow : Proof}
    (addressed : builder.to = some recipient.address)
    (canonical : Canonical (.object (plaintext builder)))
    (encryption : encryptMessage P draws (utf8Encode (stringify (.object (plaintext builder))))
      recipient.encryptionPublicKey = .ok encrypted)
    (found : computeProofOfWork P
      (toHex (hashEnvelope P (.object (unsignedEnvelope builder recipient.address encrypted))))
      DEFAULT_DIFFICULTY = .ok pow) : ∃ message,
    parse recipient (builtEnvelope builder recipient.address encrypted pow) = .ok message ∧
      Reads builder message := by
  obtain ⟨shared, agreed, _⟩ := encryptFor_ok_iff.mp encryption
  have opened : openContent recipient (builtEnvelope builder recipient.address encrypted pow) =
      .ok (.object (plaintext builder)) := by
    apply (openContent_ok_iff reliable.commutes reliable.roundTrips reliable.commits
      reliable.sized recipient pow recipient.address canonical encryption _).mpr
    exact ⟨rfl, shared, shared, agreed, agreed, rfl⟩
  refine ⟨messageOf P (builtEnvelope builder recipient.address encrypted pow)
    (.object (plaintext builder)), ?_, ?_⟩
  · rw [parse_builtEnvelope reliable.base58 reliable.verifies found, opened, ok_bind]
    rfl
  · exact ⟨rfl, by rw [addressed]; rfl, rfl, rfl, rfl, rfl, rfl, rfl⟩

/-- A message reaches the inbox as it was built, and from there its recipient reads what
    was written. -/
theorem message_round_trip (reliable : Reliable P) (sender recipient : Identity P)
    (timestamp : Nat) (subject body : Value) (attachments : List Value) (replyTo threadId : Value)
    (draws : CipherDraws) (envelope : Json)
    (built : (written sender recipient timestamp subject body attachments replyTo threadId).build
      (some recipient.encryptionPublicKey) draws = .ok envelope) :
    parseOrThrow (textDecode (utf8Encode (stringify envelope))) = .ok envelope ∧
      ∀ (count : Option Value) (receivedAt : Nat) (read : Bool) (messageId : Option String),
        ∃ shown, DMailNode.InboxEntry.shown messageId
            ⟨envelope, count.map Subtype.val, receivedAt, read⟩ = .ok shown ∧
          ∃ message, parse recipient shown = .ok message ∧
            Reads (written sender recipient timestamp subject body attachments replyTo threadId)
              message := by
  obtain ⟨encrypted, pow, encryption, found, rfl⟩ := build_ok rfl built
  have storable := builtFields_storable (written sender recipient timestamp subject body
    attachments replyTo threadId) recipient.address encrypted pow
  refine ⟨parse_transmitted storable.canonical, fun count receivedAt read messageId => ?_⟩
  obtain ⟨listed, shown, same⟩ := DMailNode.shown_fields
    ⟨_, count.map Subtype.val, receivedAt, read⟩ storable rfl (SealedEnvelope.value_canonical count) messageId
  have parses : parse recipient (.object listed) = parse recipient (.object (builtFields
      (written sender recipient timestamp subject body attachments replyTo threadId)
      recipient.address encrypted pow)) := by
    refine parse_congr recipient fun key read => same key ?_
    have named : parsedFields ⊆ ["version", "from", "fromEncryptionKey", "to", "timestamp",
      "encrypted", "signature", "pow"] := by decide
    exact named read
  refine ⟨_, shown, ?_⟩
  rw [parses]
  exact parse_own reliable rfl (written_canonical ..) encryption found

theorem plain_note_read : ∃ envelope,
    (written (sampleIdentity 1) (sampleIdentity 2) 1000 greeting greeting [greeting] greeting
        greeting).build (some (sampleIdentity 2).encryptionPublicKey) sampleCipherDraws =
      .ok envelope ∧
      parseOrThrow (textDecode (utf8Encode (stringify envelope))) = .ok envelope ∧
      ∀ (count : Option Value) (receivedAt : Nat) (read : Bool) (messageId : Option String),
        ∃ shown, DMailNode.InboxEntry.shown messageId
            ⟨envelope, count.map Subtype.val, receivedAt, read⟩ = .ok shown ∧
          ∃ message, parse (sampleIdentity 2) shown = .ok message ∧
            Reads (written (sampleIdentity 1) (sampleIdentity 2) 1000 greeting greeting [greeting]
              greeting greeting) message := by
  have nonempty := address_nonempty (sampleIdentity 2)
  obtain ⟨envelope, built⟩ := message_built (show (written (sampleIdentity 1)
    (sampleIdentity 2) 1000 greeting greeting [greeting] greeting greeting).to = _ from rfl)
    nonempty _ sampleCipherDraws
  exact ⟨envelope, built, message_round_trip sample_reliable _ _ 1000 greeting greeting [greeting]
    greeting greeting sampleCipherDraws envelope built⟩

end RoundTrip

end Chainmail.MessageEnvelope
