import Chainmail.EnvelopeRoundTrips
import Chainmail.NameOwnership
import Chainmail.RegistryClient
import Chainmail.RoutingKeys

/-!
Mail to a registered name. `dmail send` looks the name up on the chain, and encrypts with the key
it finds there instead of the one in an address. Nobody but the wallet that registered the name
can come between.
-/

namespace Chainmail.BlockchainRegistry

open Json Solidity DMailRegistry MessageEnvelope Senders
open RegistryService (fromHex wordHex)

variable {P : Packages}

section Names
variable {name dmailAddress : Bytes} {encryptionKey : Bytes32}

/-- The name is registered for this address, with this key. -/
structure Leads (name dmailAddress : Bytes) (encryptionKey : Bytes32) (state : State) : Prop where
  «exists» : (state.identities name).exists = true
  dmailAddress : (state.identities name).dmailAddress = dmailAddress
  encryptionKey : (state.identities name).encryptionKey = encryptionKey

theorem Leads.apply {past : List Transaction}
    (leads : Leads name dmailAddress encryptionKey (replay past))
    (tx : Transaction) (unchanged : tx.sender = (replay past).nameOwner name →
      ∀ signing encryption, tx.call ≠ .updateKeys name signing encryption) :
    Leads name dmailAddress encryptionKey (replay (tx :: past)) := by
  have kept := kept_apply tx leads.exists
  refine ⟨kept.exists, kept.dmailAddress.trans leads.dmailAddress, ?_⟩
  rcases ownerSetsKeys_apply tx past name leads.exists with ⟨_, same⟩ | ⟨own, called⟩
  · exact same.trans leads.encryptionKey
  · exact absurd called (unchanged own _ _)

/-- Others cannot lead the name anywhere else. -/
theorem Leads.replay {past : List Transaction}
    (leads : Leads name dmailAddress encryptionKey (replay past)) (later : List Transaction)
    (unchanged : ∀ tx ∈ later, tx.sender = (DMailRegistry.replay past).nameOwner name →
      ∀ signing encryption, tx.call ≠ .updateKeys name signing encryption) :
    Leads name dmailAddress encryptionKey (DMailRegistry.replay (later ++ past)) := by
  induction later with
  | nil => exact leads
  | cons tx rest ih =>
      have before := ih fun other member => unchanged other (List.mem_cons_of_mem _ member)
      have owner := (kept_replay rest past leads.exists).owner
      exact before.apply tx (owner ▸ unchanged tx List.mem_cons_self)

/-- A registration that goes through leads the name to what it was made with. -/
theorem registered_leads {signingKey : Bytes32} {tx : Transaction} {earlier : List Transaction}
    (called : tx.call = .register name signingKey encryptionKey dmailAddress)
    (succeeds : ∃ after, execute (replay earlier) tx = .ok after) :
    Leads name dmailAddress encryptionKey (replay (tx :: earlier)) ∧
      (replay (tx :: earlier)).nameOwner name = tx.sender := by
  obtain ⟨after, executed⟩ := succeeds
  have done : register name signingKey encryptionKey dmailAddress tx.sender tx.now
      (replay earlier) = .ok after := by
    rw [execute, called] at executed
    exact executed
  obtain ⟨_, rfl⟩ := register_cases done
  rw [replay, DMailRegistry.apply, executed]
  constructor
  · constructor <;> simp only [Function.update_self]
  · simp only [Function.update_self]

theorem Leads.lookupByName {state : State} {name dmailAddress : String}
    (leads : Leads (utf8Encode name) (utf8Encode dmailAddress) encryptionKey state) :
    ∃ found, lookupByName (some state) name = some found ∧ found.dmailAddress = dmailAddress ∧
      found.encryptionKey = encryptionKey := by
  let identity := state.identities (utf8Encode name)
  have known : getIdentity (utf8Encode name) state = .ok identity := by
    simp [getIdentity, leads.exists, identity]
  refine ⟨⟨name, identity.signingKey, identity.encryptionKey, dmailAddress,
    identity.registeredAt⟩, ?_, rfl, leads.encryptionKey⟩
  simp only [DMailRegistry.lookupByName, Option.bind_eq_bind, Option.bind_some, known,
    identity, leads.dmailAddress, utf8Decode_encode]

end Names

section Mail

/-- A message as the command line writes it. -/
def typed (sender recipient : Chainmail.Identity P) (subject body : String)
    (file : Option (String × Bytes)) (now : Nat) : MessageBuilder P :=
  { createMessage sender now with
    «to» := some recipient.address
    subject := .string subject
    body := .string body
    attachments := match file with
      | some (filename, data) => [attachment filename data]
      | none => [] }

theorem typed_canonical (sender recipient : Chainmail.Identity P) (subject body : String)
    (file : Option (String × Bytes)) (now : Nat) :
    Canonical (.object (plaintext (typed sender recipient subject body file now))) := by
  refine plaintext_canonical trivial trivial ?_ rfl rfl
  cases file with
  | none => exact trivial
  | some file => exact ⟨attachment_canonical file.1 file.2, trivial⟩

/-- A name that no address starts like is looked up. -/
theorem sendCommand_named {state : State} {sender recipient : Chainmail.Identity P}
    {name subject body : String} {file : Option (String × Bytes)} {now : Nat} {draws : CipherDraws}
    (plain : ADDRESS_PREFIX.toList.isPrefixOf name.toList = false)
    (led : lookup (some state) name = .found recipient.address recipient.encryptionPublicKey) :
    sendCommand sender (lookup (some state)) name subject body file now draws =
      (typed sender recipient subject body file now).build (some recipient.encryptionPublicKey)
        draws := by
  simp only [sendCommand, resolveRecipient, plain, Bool.false_eq_true, ↓reduceIte, led, ok_bind]
  rfl

theorem builtEnvelope_forUs (builder : MessageBuilder P) (address : String)
    (encrypted : Encrypted) (pow : ProofOfWork.Proof) :
    DMailNode.isForUs P address (builtEnvelope builder address encrypted pow) = .ok true := by
  have untyped : (builtEnvelope builder address encrypted pow).field "type" = none := rfl
  have addressed : (builtEnvelope builder address encrypted pow).field "to" =
      some (.string address) := rfl
  have byAddress : ¬ DMailNode.ByToken (builtEnvelope builder address encrypted pow) := by
    rw [DMailNode.ByToken, untyped]
    rintro ⟨sealedType, _⟩
    cases sealedType
  rw [DMailNode.isForUs_iff, DMailNode.routeOf, DMailNode.ownRoute, if_neg byAddress,
    if_neg byAddress, addressed]

theorem builtEnvelope_incoming (builder : MessageBuilder P) (address : String)
    (encrypted : Encrypted) (pow : ProofOfWork.Proof) : ∃ messageId,
    DMailNode.incoming P address
        (utf8Encode (stringify (builtEnvelope builder address encrypted pow))) =
      .ok (some (messageId, builtEnvelope builder address encrypted pow)) := by
  have parsed : parseOrThrow (textDecode (utf8Encode (stringify
      (builtEnvelope builder address encrypted pow)))) =
      .ok (builtEnvelope builder address encrypted pow) :=
    parse_transmitted (builtFields_storable builder address encrypted pow).canonical
  rw [DMailNode.incoming, parsed, ok_bind, builtEnvelope_forUs, ok_bind]
  exact ⟨_, rfl⟩

/-- The recipient's node takes a message that was built for the recipient, and reads it. -/
theorem typed_read (reliable : Reliable P) {sender recipient : Chainmail.Identity P}
    {subject body : String} {file : Option (String × Bytes)} {now : Nat} {draws : CipherDraws}
    {envelope : Json} (built : (typed sender recipient subject body file now).build
      (some recipient.encryptionPublicKey) draws = .ok envelope) :
    (∃ messageId, DMailNode.incoming P recipient.address (utf8Encode (stringify envelope)) =
        .ok (some (messageId, envelope))) ∧
      ∃ message, parse recipient envelope = .ok message ∧
        Reads (typed sender recipient subject body file now) message := by
  obtain ⟨encrypted, pow, encryption, found, rfl⟩ := build_ok rfl built
  constructor
  · exact builtEnvelope_incoming _ recipient.address encrypted pow
  · exact parse_own reliable rfl (typed_canonical ..) encryption found

section Registered
variable {recipient : Chainmail.Identity P} {name : String} {later earlier : List Transaction}
  {tx : Transaction}

/-- What the chain knows under the name is what the identity was registered with. -/
theorem registered_found (registers : registerIdentity name recipient = some tx.call)
    (succeeds : ∃ after, execute (replay earlier) tx = .ok after)
    (unchanged : ∀ other ∈ later, other.sender = tx.sender → ∀ signingKey encryptionKey,
      other.call ≠ .updateKeys (utf8Encode name) signingKey encryptionKey) :
    ∃ found, lookupByName (some (replay (later ++ tx :: earlier))) name = some found ∧
      found.dmailAddress = recipient.address ∧
      fromHex (wordHex found.encryptionKey).toList = recipient.encryptionPublicKey := by
  simp only [registerIdentity, Option.bind_eq_bind, Option.bind_eq_some_iff] at registers
  obtain ⟨signingKey, _, encryptionKey, encoded, made⟩ := registers
  obtain ⟨leads, owner⟩ := registered_leads (Option.some.inj made).symm succeeds
  obtain ⟨found, known, address, key⟩ := (leads.replay later (owner ▸ unchanged)).lookupByName
  exact ⟨found, known, address, by rw [key, fromHex_wordHex encoded]⟩

theorem lookup_found {contract : Option State} {found : Found}
    (known : lookupByName contract name = some found)
    (address : found.dmailAddress = recipient.address)
    (key : fromHex (wordHex found.encryptionKey).toList = recipient.encryptionPublicKey) :
    lookup contract name = .found recipient.address recipient.encryptionPublicKey := by
  rw [lookup, known]
  dsimp only
  rw [address, key]

end Registered

/-- Whoever writes to a name writes to the identity that was registered under it, whatever else is
    done on the chain, unless the wallet that registered the name gives it other keys. -/
theorem named_mail_read (reliable : Reliable P) (recipient : Chainmail.Identity P) (name : String)
    (plain : ADDRESS_PREFIX.toList.isPrefixOf name.toList = false)
    (later earlier : List Transaction) (tx : Transaction)
    (registers : registerIdentity name recipient = some tx.call)
    (succeeds : ∃ after, execute (replay earlier) tx = .ok after)
    (unchanged : ∀ other ∈ later, other.sender = tx.sender → ∀ signingKey encryptionKey,
      other.call ≠ .updateKeys (utf8Encode name) signingKey encryptionKey) :
    resolveAddress (some (replay (later ++ tx :: earlier))) name = .ok recipient.address ∧
      ∀ (sender : Chainmail.Identity P) (subject body : String) (file : Option (String × Bytes))
        (now : Nat) (draws : CipherDraws) (envelope : Json),
        sendCommand sender (lookup (some (replay (later ++ tx :: earlier)))) name subject body file
            now draws = .ok envelope →
          (∃ messageId, DMailNode.incoming P recipient.address (utf8Encode (stringify envelope)) =
              .ok (some (messageId, envelope))) ∧
            ∃ message, parse recipient envelope = .ok message ∧
              Reads (typed sender recipient subject body file now) message := by
  obtain ⟨found, known, address, key⟩ := registered_found registers succeeds unchanged
  constructor
  · simp only [resolveAddress, plain, Bool.false_eq_true, ↓reduceIte, known, address]
  · intro sender subject body file now draws envelope sent
    rw [sendCommand_named plain (lookup_found known address key)] at sent
    exact typed_read reliable sent

end Mail

/-! Bob registers his name, and somebody else tries to put other keys there. -/

section Sample

def bob : Chainmail.Identity samplePackages := sampleIdentity 2

def takeover : Transaction := ⟨9, 2, .updateKeys (utf8Encode "bob") 0 0⟩

theorem bob_registers : ∃ signingKey encryptionKey,
    registerIdentity "bob" bob =
      some (.register (utf8Encode "bob") signingKey encryptionKey (utf8Encode bob.address)) := by
  have signs : bob.publicKey.length = 32 := by decide +kernel
  have encrypts : bob.encryptionPublicKey.length = 32 := by decide +kernel
  refine ⟨⟨wordValue bob.publicKey, wordValue_lt signs⟩,
    ⟨wordValue bob.encryptionPublicKey, wordValue_lt encrypts⟩, ?_⟩
  simp [registerIdentity, bytes32, signs, encrypts]

theorem note_to_bob : ∃ (registration : Call) (envelope : Json),
    registerIdentity "bob" bob = some registration ∧
      resolveAddress (some (replay [takeover, ⟨7, 1, registration⟩])) "bob" = .ok bob.address ∧
      sendCommand (sampleIdentity 1) (lookup (some (replay [takeover, ⟨7, 1, registration⟩])))
          "bob" "hello" "again" none 1000 sampleCipherDraws = .ok envelope ∧
      ∃ message, parse bob envelope = .ok message ∧
        message.subject = some (.string "hello") ∧ message.body = some (.string "again") := by
  obtain ⟨signingKey, encryptionKey, registers⟩ := bob_registers
  have starts : startsWith (utf8Encode bob.address) addressStart = true := by decide +kernel
  have named : (utf8Encode "bob").length = 3 := by decide +kernel
  have plain : ADDRESS_PREFIX.toList.isPrefixOf "bob".toList = false := by decide +kernel
  let tx : Transaction := ⟨7, 1, .register (utf8Encode "bob") signingKey encryptionKey
    (utf8Encode bob.address)⟩
  have succeeds : ∃ after, execute (replay []) tx = .ok after :=
    ⟨_, by simp [tx, execute, register, named, starts, replay, deployed]; rfl⟩
  have foreign : (9 : Address) ≠ 7 := by decide
  have unchanged : ∀ other ∈ [takeover], other.sender = tx.sender → ∀ signing encryption,
      other.call ≠ .updateKeys (utf8Encode "bob") signing encryption := by
    intro other member own
    obtain rfl := List.mem_singleton.mp member
    exact absurd own foreign
  obtain ⟨found, known, address, key⟩ := registered_found registers succeeds unchanged
  obtain ⟨envelope, built⟩ := message_built
    (show (typed (sampleIdentity 1) bob "hello" "again" none 1000).to = _ from rfl)
    (address_nonempty bob) bob.encryptionPublicKey sampleCipherDraws
  rw [← sendCommand_named plain (lookup_found known address key)] at built
  obtain ⟨resolved, read⟩ := named_mail_read sample_reliable bob "bob" plain [takeover] [] tx
    registers succeeds unchanged
  obtain ⟨_, message, parsed, reads⟩ := read _ _ _ _ _ _ envelope built
  exact ⟨_, envelope, registers, resolved, built, message, parsed, reads.subject, reads.body⟩

end Sample

end Chainmail.BlockchainRegistry
