import Chainmail.JsonRoundTrip
import Chainmail.MessageEnvelope

/-!
Opening a built message. Its checks pass for its addressee, so what is left is
whether the two ends derive the same cipher key.
-/

namespace Chainmail.MessageEnvelope

open Json ProofOfWork

variable {P : Packages}

/-- The envelope that `build` returns, by what it encrypted and the proof it found. -/
def builtEnvelope (builder : MessageBuilder P) (address : String) (encrypted : Encrypted)
    (pow : Proof) : Json :=
  let envelope := unsignedEnvelope builder address encrypted
  let signature := builder.identity.sign (hashEnvelope P (.object envelope))
  .object (envelope ++ [("signature", .string (toBase64 signature)), ("pow", pow.toJson)])

/-- The envelope as `build` signs it, with any proof of work. -/
def signedEnvelope (builder : MessageBuilder P) (address : String) (encrypted : Encrypted)
    (pow : Json) : Json :=
  let envelope := unsignedEnvelope builder address encrypted
  let signature := builder.identity.sign (hashEnvelope P (.object envelope))
  .object (envelope ++ [("signature", .string (toBase64 signature)), ("pow", pow)])

theorem build_ok {builder : MessageBuilder P} {address : String} {key : Bytes} {draws : CipherDraws}
    {envelope : Json} (addressed : builder.to = some address)
    (built : builder.build (some key) draws = .ok envelope) :
    ∃ encrypted pow,
      encryptMessage P draws (utf8Encode (stringify (.object (plaintext builder)))) key =
        .ok encrypted ∧
      computeProofOfWork P
        (toHex (hashEnvelope P (.object (unsignedEnvelope builder address encrypted))))
        DEFAULT_DIFFICULTY = .ok pow ∧
      envelope = builtEnvelope builder address encrypted pow := by
  simp only [MessageBuilder.build, addressed] at built
  split at built
  · cases built
  · simp only [recipientKey, ok_bind, bind_ok_iff] at built
    obtain ⟨encrypted, encryption, pow, found, made⟩ := built
    cases made
    exact ⟨encrypted, pow, encryption, found, rfl⟩

theorem hashEnvelope_signedEnvelope (builder : MessageBuilder P) (address : String)
    (encrypted : Encrypted) (pow : Json) :
    hashEnvelope P (signedEnvelope builder address encrypted pow) =
      hashEnvelope P (.object (unsignedEnvelope builder address encrypted)) := by
  simp [hashEnvelope, signedEnvelope, unsignedEnvelope, field, lookup]

/-- Every check of the parser passes for the addressee, once the proof of work does. -/
theorem parse_signedEnvelope (base58 : Base58RoundTrips P) (verifies : SignaturesVerify P)
    {builder : MessageBuilder P} {recipient : Identity P} {encrypted : Encrypted} {pow : Json}
    (proven : verifyProofOfWork P (toHex (hashEnvelope P
      (.object (unsignedEnvelope builder recipient.address encrypted)))) (some pow) = .ok true) :
    parse recipient (signedEnvelope builder recipient.address encrypted pow) = (do
      let content ←
        openContent recipient (signedEnvelope builder recipient.address encrypted pow)
      let _ ← member "subject" (some content)
      return messageOf P (signedEnvelope builder recipient.address encrypted pow) content) := by
  have hash := hashEnvelope_signedEnvelope builder recipient.address encrypted pow
  have key := addressToPublicKey_address base58 builder.identity
  have signed : verifySignature P
      (hashEnvelope P (.object (unsignedEnvelope builder recipient.address encrypted)))
      (builder.identity.sign
        (hashEnvelope P (.object (unsignedEnvelope builder recipient.address encrypted))))
      builder.identity.publicKey = .ok true := by
    rw [verifySignature, accepted_ok, builder.identity.publicKey_eq]
    exact verifies _ _ builder.identity.privateKey_length
  -- What the parser reads of the envelope, field by field.
  have version : (signedEnvelope builder recipient.address encrypted pow).field "version" =
      some (.string PROTOCOL_VERSION) := by
    simp [signedEnvelope, unsignedEnvelope, field, lookup]
  have sender : (signedEnvelope builder recipient.address encrypted pow).field "from" =
      some (.string builder.identity.address) := by
    simp [signedEnvelope, unsignedEnvelope, field, lookup]
  have addressee : (signedEnvelope builder recipient.address encrypted pow).field "to" =
      some (.string recipient.address) := by
    simp [signedEnvelope, unsignedEnvelope, field, lookup]
  have signature : (signedEnvelope builder recipient.address encrypted pow).field "signature" =
      some (.string (toBase64 (builder.identity.sign
        (hashEnvelope P (.object (unsignedEnvelope builder recipient.address encrypted)))))) := by
    simp [signedEnvelope, unsignedEnvelope, field, lookup]
  have proof : (signedEnvelope builder recipient.address encrypted pow).field "pow" =
      some pow := by
    simp [signedEnvelope, unsignedEnvelope, field, lookup]
  have read : member "version" (some (signedEnvelope builder recipient.address encrypted pow)) =
      .ok (some (.string PROTOCOL_VERSION)) := version ▸ rfl
  have supported : truthy (some (.string PROTOCOL_VERSION)) = true ∧
      ['1', '.'].isPrefixOf PROTOCOL_VERSION.toList = true := by decide
  simp only [parse, read, ok_bind, supported, asText_string, addressee, sender, isText_self, hash,
    proof, proven, key, signature, bufferFrom_toBase64, signed, ↓reduceIte, pure_bind]

theorem openContent_signedEnvelope (recipient : Identity P) (builder : MessageBuilder P)
    (address : String) (encrypted : Encrypted) (pow : Json) :
    openContent recipient (signedEnvelope builder address encrypted pow) = (do
      let decrypted ← decryptWith P INFO recipient.encryptionPrivateKey encrypted
      parseOrThrow (textDecode decrypted)) := by
  have content : (signedEnvelope builder address encrypted pow).field "encrypted" =
      some (serializeEncrypted encrypted) := by
    simp [signedEnvelope, unsignedEnvelope, field, lookup]
  have read : deserializeEncrypted P (some (serializeEncrypted encrypted)) = .ok encrypted := by
    simp [deserializeEncrypted, serializeEncrypted, lookup]
  simp only [openContent, content, read, ok_bind, decryptMessage]

theorem parse_builtEnvelope (base58 : Base58RoundTrips P) (verifies : SignaturesVerify P)
    {builder : MessageBuilder P} {recipient : Identity P} {encrypted : Encrypted} {pow : Proof}
    (found : computeProofOfWork P (toHex (hashEnvelope P
      (.object (unsignedEnvelope builder recipient.address encrypted)))) DEFAULT_DIFFICULTY =
        .ok pow) :
    parse recipient (builtEnvelope builder recipient.address encrypted pow) = (do
      let content ←
        openContent recipient (builtEnvelope builder recipient.address encrypted pow)
      let _ ← member "subject" (some content)
      return messageOf P (builtEnvelope builder recipient.address encrypted pow) content) :=
  parse_signedEnvelope base58 verifies (verify_compute found)

theorem openContent_ok_iff (commutes : AgreementCommutes P) (roundTrips : ChachaRoundTrips P)
    (commits : ChachaCommits P) (sized : Sha256Length P) (recipient : Identity P)
    {builder : MessageBuilder P} {draws : CipherDraws} (pow : Proof) {key : Bytes}
    {encrypted : Encrypted} (address : String)
    (canonical : Canonical (.object (plaintext builder)))
    (encryption : encryptMessage P draws
      (utf8Encode (stringify (.object (plaintext builder)))) key = .ok encrypted)
    (content : Json) :
    openContent recipient (builtEnvelope builder address encrypted pow) = .ok content ↔
      content = .object (plaintext builder) ∧
        KeysAgree P INFO draws key recipient.encryptionPublicKey := by
  have length := encryptionPrivateKey_length sized recipient
  have opened := openContent_signedEnvelope recipient builder address encrypted pow.toJson
  rw [show builtEnvelope builder address encrypted pow =
    signedEnvelope builder address encrypted pow.toJson from rfl, opened]
  exact read_decrypted_iff canonical
    (decryptWith_ok_iff commutes roundTrips commits length encryption) content

/-- What an envelope shows to a parser that returns its message. -/
structure Passes (identity : Identity P) (envelope content : Json) : Prop where
  addressed : envelope.field "to" = some (.string identity.address)
  proven : verifyProofOfWork P (toHex (hashEnvelope P envelope)) (envelope.field "pow") = .ok true
  signed : ∃ signature publicKey, bufferFrom P (envelope.field "signature") = .ok signature ∧
    P.ed25519Verify signature (hashEnvelope P envelope) publicKey = some true
  opened : openContent identity envelope = .ok content

theorem passes_of_parse {identity : Identity P} {envelope : Json} {message : Message}
    (parsed : parse identity envelope = .ok message) : ∃ content, Passes identity envelope content := by
  obtain ⟨version, _, later⟩ := bind_ok_iff.mp parsed
  extract_lets envelopeHash checks at later
  have checked (supported : Bool) (passed : checks supported = .ok message) :
      ∃ content, Passes identity envelope content := by
    simp only [checks] at passed
    split at passed
    · split at passed
      · rename_i addressed
        obtain ⟨proven, verified, rest⟩ := bind_ok_iff.mp passed
        cases proven with
        | false => cases rest
        | true =>
            obtain ⟨sender, _, rest⟩ := bind_ok_iff.mp rest
            obtain ⟨publicKey, _, rest⟩ := bind_ok_iff.mp rest
            obtain ⟨signature, read, rest⟩ := bind_ok_iff.mp rest
            obtain ⟨valid, signed, rest⟩ := bind_ok_iff.mp rest
            cases valid with
            | false => cases rest
            | true =>
                obtain ⟨content, opened, _⟩ := bind_ok_iff.mp rest
                exact ⟨content, (isText_iff _ _).mp addressed, verified,
                  ⟨signature, publicKey, read, accepted_ok.mp signed⟩, opened⟩
      · cases passed
    · cases passed
  -- The prefix of a version is taken only where there is one.
  split at later
  · obtain ⟨text, _, later⟩ := bind_ok_iff.mp later
    exact checked _ later
  · exact checked false later

end Chainmail.MessageEnvelope
