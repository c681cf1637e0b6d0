import Chainmail.MessageOpening
import Chainmail.SealedOpening
import Chainmail.Senders

/-!
Who can open what the program sends. Every path encrypts for the signing key
that the address encodes, and every parser decrypts with the key pair derived
from a hash, so the addressee opens an envelope only where the two coincide.
-/

namespace Chainmail.Senders

open Json

variable {P : Packages}

section Sealed

open SealedEnvelope

variable {sender recipient : Identity P} {key : Bytes} {subject body : Json}

def plainContent (subject body : Json) : Content := ⟨subject, body, [], .null, .null⟩

theorem plainContent_printable (subjectCanonical : Canonical subject)
    (bodyCanonical : Canonical body) : (plainContent subject body).Printable :=
  ⟨subjectCanonical, bodyCanonical, trivial, trivial, trivial⟩

/-- The recipient's parser reads a sealed envelope's subject and body back. -/
def OpensSealed (recipient : Identity P) (envelope subject body : Json) : Prop :=
  ∃ message, SealedEnvelope.parse recipient envelope = .ok message ∧
    message.subject = some subject ∧ message.body = some body

theorem opensSealed_iff (reliable : Reliable P) {draws : SealedEnvelope.Draws} {envelope : Json}
    (subjectCanonical : Canonical subject) (bodyCanonical : Canonical body)
    (built : SealedEnvelopeBuilder.build ⟨sender, some recipient.address, some key,
      plainContent subject body⟩ draws = .ok envelope) :
    OpensSealed recipient envelope subject body ↔
      KeysAgree P INFO_INNER draws.toCipherDraws key recipient.encryptionPublicKey := by
  simp only [SealedEnvelopeBuilder.build] at built
  split at built
  · cases built
  · obtain ⟨encrypted, encryption, made⟩ := bind_ok_iff.mp built
    cases made
    have opening := openInner_ok_iff recipient.address recipient reliable.commutes
      reliable.roundTrips reliable.commits reliable.sized
      (inner_canonical sender recipient.address
        (plainContent_printable subjectCanonical bodyCanonical) draws.now) encryption
    constructor
    · rintro ⟨message, parsed, _, _⟩
      obtain ⟨inner, _, _, opened, _, _⟩ := parse_ok_iff.mp parsed
      exact ((opening inner).mp opened).2
    · intro agree
      obtain ⟨signature, accepts⟩ := inner_accepted reliable.verifies sender recipient
        (plainContent subject body) draws.now
      have opened := (opening _).mpr ⟨rfl, agree⟩
      exact ⟨_, parse_ok_iff.mpr ⟨_, _, _, opened, accepts, rfl⟩, rfl, rfl⟩

end Sealed

section Plain

open MessageEnvelope

/-- The recipient's parser reads a message's subject and body back. -/
def OpensMessage (recipient : Identity P) (envelope subject body : Json) : Prop :=
  ∃ message, MessageEnvelope.parse recipient envelope = .ok message ∧
    message.subject = some subject ∧ message.body = some body

theorem opensMessage_iff (reliable : Reliable P) {builder : MessageBuilder P}
    {recipient : Identity P} {key : Bytes} {draws : CipherDraws} {envelope : Json}
    (addressed : builder.to = some recipient.address)
    (canonical : Canonical (.object (plaintext builder)))
    (built : builder.build (some key) draws = .ok envelope) :
    OpensMessage recipient envelope builder.subject builder.body ↔
      KeysAgree P INFO draws key recipient.encryptionPublicKey := by
  obtain ⟨encrypted, pow, encryption, found, rfl⟩ := build_ok addressed built
  have opening := openContent_ok_iff reliable.commutes reliable.roundTrips reliable.commits
    reliable.sized recipient pow recipient.address canonical encryption
  have parsing := parse_builtEnvelope reliable.base58 reliable.verifies found
  simp only [OpensMessage, parsing, bind_ok_iff]
  constructor
  · rintro ⟨message, ⟨content, opened, _⟩, _⟩
    exact ((opening content).mp opened).2
  · intro agree
    have opened := (opening _).mpr ⟨rfl, agree⟩
    exact ⟨_, ⟨_, opened, _, rfl, rfl⟩, rfl, rfl⟩

end Plain

section Paths

open SealedEnvelope MessageEnvelope

/-- The path that builds an envelope, with what the path is given and draws. -/
inductive Mail where
  | secureServer (subject body : Option Value) (draws : SealedEnvelope.Draws)
  | server (subject body : Option Value) (now : Nat) (draws : CipherDraws)
  | gateway (mailFrom : String) (subject text : Option String) (now : Nat) (draws : CipherDraws)
  | cli (lookupByName : String → Lookup) (subject body : String)
      (file : Option (String × Bytes)) (now : Nat) (draws : CipherDraws)

namespace Mail

def envelope (sender : Identity P) (address : String) : Mail → Except Failure Json
  | secureServer subject body draws => postSealed sender address subject body draws
  | server subject body now draws => postMessage sender address subject body now draws
  | gateway mailFrom subject text now draws =>
      forwardToDmail sender mailFrom address subject text now draws
  | cli lookupByName subject body file now draws =>
      sendCommand sender lookupByName address subject body file now draws

/-- The subject that the envelope is built with. -/
def subject : Mail → Json
  | secureServer subject _ _ => subjectOf subject
  | server subject _ _ _ => subjectOf subject
  | gateway _ subject _ _ _ => .string ("[Gateway] " ++ textOr subject "(no subject)")
  | cli _ subject _ _ _ _ => .string subject

def body : Mail → Json
  | secureServer _ body _ => bodyOf body
  | server _ body _ _ => bodyOf body
  | gateway mailFrom _ text _ _ => .string ("From: " ++ mailFrom ++ "\n\n" ++ textOr text "")
  | cli _ _ body _ _ _ => .string body

def info : Mail → Bytes
  | secureServer _ _ _ => INFO_INNER
  | _ => INFO

def draws : Mail → CipherDraws
  | secureServer _ _ draws => draws.toCipherDraws
  | server _ _ _ draws => draws
  | gateway _ _ _ _ draws => draws
  | cli _ _ _ _ _ draws => draws

/-- The recipient's own parser reads the mail's subject and body back. -/
def OpenedBy (recipient : Identity P) (envelope : Json) (mail : Mail) : Prop :=
  match mail with
  | secureServer _ _ _ => OpensSealed recipient envelope mail.subject mail.body
  | _ => OpensMessage recipient envelope mail.subject mail.body

end Mail

theorem orElse_canonical (value : Option Value) {fallback : Json} (canonical : Canonical fallback) :
    Canonical (orElse (value.map Subtype.val) fallback) := by
  cases value with
  | none => exact canonical
  | some found =>
      simp only [Option.map_some, orElse]
      split
      · exact found.property
      · exact canonical

theorem keyOrError_address (base58 : Base58RoundTrips P) (recipient : Identity P)
    (message : String) : keyOrError P recipient.address message = .ok recipient.publicKey := by
  rw [keyOrError, addressToPublicKey_address base58]

theorem address_prefix (recipient : Identity P) :
    ADDRESS_PREFIX.toList.isPrefixOf recipient.address.toList = true := by
  simp [Identity.address, addressOf, ADDRESS_PREFIX]

theorem address_nonempty (recipient : Identity P) : recipient.address ≠ "" := by
  intro empty
  have start := address_prefix recipient
  rw [empty] at start
  exact absurd start (by decide)

theorem plaintext_canonical {builder : MessageBuilder P} (subject : Canonical builder.subject)
    (body : Canonical builder.body) (attachments : CanonicalItems builder.attachments)
    (replyTo : builder.replyTo = .null) (threadId : builder.threadId = .null) :
    Canonical (.object (plaintext builder)) := by
  apply canonical_object ["subject", "body", "attachments", "replyTo", "threadId"] rfl
  · decide +kernel
  · rw [plaintext, replyTo, threadId]
    exact ⟨subject, body, attachments, trivial, trivial, trivial⟩

theorem attachment_canonical (filename : String) (data : Bytes) :
    Canonical (attachment filename data) := by
  apply canonical_object ["filename", "data", "size"] rfl
  · decide +kernel
  · exact ⟨trivial, trivial, trivial, trivial⟩

section Opened

variable (reliable : Reliable P) {sender recipient : Identity P} {envelope : Json}
include reliable

theorem postSealed_opened_iff {subject body : Option Value} {draws : SealedEnvelope.Draws}
    (sent : postSealed sender recipient.address subject body draws = .ok envelope) :
    OpensSealed recipient envelope (subjectOf subject) (bodyOf body) ↔
      KeysAgree P INFO_INNER draws.toCipherDraws recipient.publicKey
        recipient.encryptionPublicKey := by
  have key := keyOrError_address reliable.base58 recipient "Invalid recipient address"
  simp only [postSealed, address_nonempty, key, ok_bind, ↓reduceIte] at sent
  exact opensSealed_iff reliable (orElse_canonical subject trivial)
    (orElse_canonical body trivial) sent

theorem postMessage_opened_iff {subject body : Option Value} {now : Nat} {draws : CipherDraws}
    (sent : postMessage sender recipient.address subject body now draws = .ok envelope) :
    OpensMessage recipient envelope (subjectOf subject) (bodyOf body) ↔
      KeysAgree P INFO draws recipient.publicKey recipient.encryptionPublicKey := by
  have key := keyOrError_address reliable.base58 recipient "Invalid recipient address"
  simp only [postMessage, address_nonempty, key, ok_bind, ↓reduceIte] at sent
  apply opensMessage_iff reliable rfl ?_ sent
  exact plaintext_canonical (orElse_canonical subject trivial) (orElse_canonical body trivial)
    trivial rfl rfl

theorem forwardToDmail_opened_iff {mailFrom : String} {subject text : Option String} {now : Nat}
    {draws : CipherDraws}
    (sent : forwardToDmail sender mailFrom recipient.address subject text now draws =
      .ok envelope) :
    OpensMessage recipient envelope (.string ("[Gateway] " ++ textOr subject "(no subject)"))
        (.string ("From: " ++ mailFrom ++ "\n\n" ++ textOr text "")) ↔
      KeysAgree P INFO draws recipient.publicKey recipient.encryptionPublicKey := by
  have key := addressToPublicKey_address reliable.base58 recipient
  simp only [forwardToDmail, key, ok_bind] at sent
  apply opensMessage_iff reliable rfl ?_ sent
  exact plaintext_canonical trivial trivial trivial rfl rfl

theorem sendCommand_opened_iff {lookupByName : String → Lookup} {subject body : String}
    {file : Option (String × Bytes)} {now : Nat} {draws : CipherDraws}
    (sent : sendCommand sender lookupByName recipient.address subject body file now draws =
      .ok envelope) :
    OpensMessage recipient envelope (.string subject) (.string body) ↔
      KeysAgree P INFO draws recipient.publicKey recipient.encryptionPublicKey := by
  have key := keyOrError_address reliable.base58 recipient "Invalid recipient address"
  simp only [sendCommand, resolveRecipient, address_prefix, key, ok_bind, pure_bind,
    ↓reduceIte] at sent
  apply opensMessage_iff reliable rfl ?_ sent
  refine plaintext_canonical ?_ ?_ ?_ rfl rfl
  · exact trivial
  · exact trivial
  · cases file with
    | none => exact trivial
    | some file => exact ⟨attachment_canonical file.1 file.2, trivial⟩

end Opened

/-- The addressee opens what any of the paths sends it exactly when the drawn
    key derives the same cipher key with the signing key in the address as with
    the addressee's encryption key. -/
theorem addressee_opens_iff_keys_agree (reliable : Reliable P) (mail : Mail)
    (sender recipient : Identity P) (envelope : Json)
    (sent : mail.envelope sender recipient.address = .ok envelope) :
    mail.OpenedBy recipient envelope ↔
      KeysAgree P mail.info mail.draws recipient.publicKey recipient.encryptionPublicKey := by
  cases mail with
  | secureServer subject body draws => exact postSealed_opened_iff reliable sent
  | server subject body now draws => exact postMessage_opened_iff reliable sent
  | gateway mailFrom subject text now draws => exact forwardToDmail_opened_iff reliable sent
  | cli lookupByName subject body file now draws => exact sendCommand_opened_iff reliable sent

end Paths

/-! Alice writes to Bob, whose signing key is not his encryption key. -/

section Sample

open SealedEnvelope MessageEnvelope

def greeting : Value := ⟨.string "hello", trivial⟩

def sealedGreeting : Mail := .secureServer (some greeting) (some greeting) sampleDraws

def plainGreeting : Mail := .server (some greeting) (some greeting) 1000 sampleCipherDraws

theorem sealed_built {builder : SealedEnvelopeBuilder samplePackages} {address : String}
    {key : Bytes} (addressed : builder.recipient = some address)
    (keyed : builder.recipientKey = some key) (nonempty : address ≠ "")
    (draws : SealedEnvelope.Draws) : ∃ envelope, builder.build draws = .ok envelope := by
  obtain ⟨encrypted, encryption⟩ := sample_encrypts INFO_INNER draws.toCipherDraws
    (utf8Encode (stringify (.object (withSignature builder.sender
      (innerPlaintext builder.sender address builder.content draws.now))))) key
  refine ⟨outerEnvelope samplePackages address draws encrypted, ?_⟩
  simp only [SealedEnvelopeBuilder.build, addressed, keyed, nonempty, ↓reduceIte,
    encryptForRecipient, encryption, ok_bind]
  rfl

theorem message_built {builder : MessageBuilder samplePackages} {address : String}
    (addressed : builder.to = some address) (nonempty : address ≠ "") (key : Bytes)
    (draws : CipherDraws) : ∃ envelope, builder.build (some key) draws = .ok envelope := by
  obtain ⟨encrypted, encryption⟩ := sample_encrypts INFO draws
    (utf8Encode (stringify (.object (plaintext builder)))) key
  obtain ⟨pow, found⟩ := ProofOfWork.sample_computes (toHex (hashEnvelope samplePackages
    (.object (unsignedEnvelope builder address encrypted))))
  refine ⟨builtEnvelope builder address encrypted pow, ?_⟩
  simp only [MessageBuilder.build, addressed, nonempty, ↓reduceIte, recipientKey, encryptMessage,
    encryption, found, ok_bind]
  rfl

theorem sealedGreeting_sent : ∃ envelope,
    sealedGreeting.envelope (sampleIdentity 1) (sampleIdentity 2).address = .ok envelope := by
  have key := keyOrError_address sample_base58 (sampleIdentity 2) "Invalid recipient address"
  have nonempty := address_nonempty (sampleIdentity 2)
  simp only [sealedGreeting, Mail.envelope, postSealed, nonempty, key, ok_bind, ↓reduceIte]
  exact sealed_built rfl rfl nonempty sampleDraws

theorem plainGreeting_sent : ∃ envelope,
    plainGreeting.envelope (sampleIdentity 1) (sampleIdentity 2).address = .ok envelope := by
  have key := keyOrError_address sample_base58 (sampleIdentity 2) "Invalid recipient address"
  have nonempty := address_nonempty (sampleIdentity 2)
  simp only [plainGreeting, Mail.envelope, postMessage, nonempty, key, ok_bind, ↓reduceIte]
  exact message_built rfl nonempty _ sampleCipherDraws

theorem bob_keys_disagree (info : Bytes) : ¬ KeysAgree samplePackages info sampleCipherDraws
    (sampleIdentity 2).publicKey (sampleIdentity 2).encryptionPublicKey := by
  rintro ⟨shared, other, first, second, same⟩
  cases first
  cases second
  revert same
  simp only [cipherKey, samplePackages]
  decide +kernel

theorem greetings_stay_closed :
    (∃ envelope,
      sealedGreeting.envelope (sampleIdentity 1) (sampleIdentity 2).address = .ok envelope ∧
        ¬ sealedGreeting.OpenedBy (sampleIdentity 2) envelope) ∧
      ∃ envelope,
        plainGreeting.envelope (sampleIdentity 1) (sampleIdentity 2).address = .ok envelope ∧
          ¬ plainGreeting.OpenedBy (sampleIdentity 2) envelope := by
  obtain ⟨first, sealedSent⟩ := sealedGreeting_sent
  obtain ⟨second, plainSent⟩ := plainGreeting_sent
  refine ⟨⟨first, sealedSent, ?_⟩, second, plainSent, ?_⟩
  · intro opened
    exact bob_keys_disagree _ ((postSealed_opened_iff sample_reliable sealedSent).mp opened)
  · intro opened
    exact bob_keys_disagree _ ((postMessage_opened_iff sample_reliable plainSent).mp opened)

theorem greeting_opens_iff_keys_agree : ∃ envelope,
    plainGreeting.envelope (sampleIdentity 1) (sampleIdentity 2).address = .ok envelope ∧
      (plainGreeting.OpenedBy (sampleIdentity 2) envelope ↔
        KeysAgree samplePackages plainGreeting.info plainGreeting.draws
          (sampleIdentity 2).publicKey (sampleIdentity 2).encryptionPublicKey) := by
  obtain ⟨envelope, sent⟩ := plainGreeting_sent
  exact ⟨envelope, sent, addressee_opens_iff_keys_agree sample_reliable plainGreeting _ _ _ sent⟩

end Sample

end Chainmail.Senders
