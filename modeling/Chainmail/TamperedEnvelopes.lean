import Chainmail.EnvelopeRoundTrips

/-!
What the signature of a plain envelope holds together. It is over five of the six
fields that are built before it; the sender's encryption key is not among them.
-/

namespace Chainmail.Json

section Literals

theorem lookup_absent {key : String} {fields : List (String × Json)}
    (absent : key ∉ fields.map Prod.fst) : lookup key fields = none := by
  have alone := lookup_append_of_absent [] absent
  rwa [List.append_nil] at alone

/-- The fields of an object literal that are not `undefined`. -/
def defined (fields : List (String × Option Json)) : List (String × Json) :=
  fields.filterMap fun entry => entry.2.map fun value => (entry.1, value)

theorem defined_names (fields : List (String × Option Json)) :
    ((defined fields).map Prod.fst).Sublist (fields.map Prod.fst) := by
  induction fields with
  | nil => exact .refl _
  | cons entry rest ih =>
      obtain ⟨name, value⟩ := entry
      cases value with
      | none => exact ih.cons _
      | some value => exact ih.cons_cons _

/-- A literal with distinct names has each of its fields. -/
theorem lookup_defined {key : String} {value : Option Json} {fields : List (String × Option Json)}
    (distinct : (fields.map Prod.fst).Nodup) (inside : (key, value) ∈ fields) :
    lookup key (defined fields) = value := by
  induction fields with
  | nil => cases inside
  | cons entry rest ih =>
      obtain ⟨fresh, later⟩ := List.nodup_cons.mp distinct
      rcases List.mem_cons.mp inside with rfl | behind
      · cases value with
        | none => exact lookup_absent fun member => fresh ((defined_names rest).subset member)
        | some value => simp [defined, lookup]
      · have other : entry.1 ≠ key := by
          rintro rfl
          exact fresh (List.mem_map.mpr ⟨_, behind, rfl⟩)
        obtain ⟨name, first⟩ := entry
        cases first with
        | none => exact ih later behind
        | some first => simpa [defined, lookup, other] using ih later behind

theorem defined_canonical {fields : List (String × Option Json)}
    (values : ∀ entry ∈ fields, ∀ value ∈ entry.2, Canonical value) :
    CanonicalFields (defined fields) := by
  induction fields with
  | nil => trivial
  | cons entry rest ih =>
      have later := ih fun other member => values other (List.mem_cons_of_mem _ member)
      obtain ⟨name, first⟩ := entry
      cases first with
      | none => exact later
      | some first => exact ⟨values _ List.mem_cons_self first rfl, later⟩

theorem canonical_lookup {key : String} {value : Json} {fields : List (String × Json)}
    (canonical : CanonicalFields fields) (found : lookup key fields = some value) :
    Canonical value := by
  induction fields with
  | nil => cases found
  | cons entry rest ih =>
      by_cases own : entry.1 = key
      · obtain rfl : entry.2 = value := by simpa [lookup, own] using found
        exact canonical.1
      · exact ih canonical.2 (by simpa [lookup, own] using found)

theorem canonical_field {key : String} {value found : Json} (canonical : Canonical value)
    (read : value.field key = some found) : Canonical found := by
  cases value with
  | object fields => exact canonical_lookup canonical.2 read
  | _ => cases read

end Literals

end Chainmail.Json

namespace Chainmail.MessageEnvelope

open Json Senders ProofOfWork

variable {P : Packages}

section Signed

/-- The fields that the signature is over. -/
def signedFields : List String := ["version", "from", "to", "timestamp", "encrypted"]

def signedPart (envelope : Json) : List (String × Json) :=
  defined (signedFields.map fun key => (key, envelope.field key))

theorem hashEnvelope_eq (envelope : Json) :
    hashEnvelope P envelope = P.sha256 (utf8Encode (stringify (.object (signedPart envelope)))) := rfl

theorem signedPart_canonical {envelope : Json} (canonical : Canonical envelope) :
    Canonical (.object (signedPart envelope)) := by
  have names : PlainNames signedFields := by decide
  refine canonical_object _ rfl (DMailNode.plainNames_sublist names (defined_names _)) ?_
  refine defined_canonical fun entry member value held => ?_
  obtain ⟨key, _, rfl⟩ := List.mem_map.mp member
  exact canonical_field canonical held

theorem lookup_signedPart {envelope : Json} {key : String} (covered : key ∈ signedFields) :
    lookup key (signedPart envelope) = envelope.field key := by
  refine lookup_defined ?_ (List.mem_map.mpr ⟨key, covered, rfl⟩)
  exact (show signedFields.Nodup by decide)

/-- Whoever signs the same bytes signs the same five fields. -/
theorem signed_same {envelope other : Json} (canonical : Canonical envelope)
    (otherCanonical : Canonical other)
    (same : utf8Encode (stringify (.object (signedPart envelope))) =
      utf8Encode (stringify (.object (signedPart other)))) :
    ∀ key ∈ signedFields, envelope.field key = other.field key := by
  intro key covered
  have read := parse_transmitted (signedPart_canonical canonical)
  rw [same, parse_transmitted (signedPart_canonical otherCanonical)] at read
  have fields : signedPart other = signedPart envelope := Json.object.inj (Except.ok.inj read)
  rw [← lookup_signedPart covered, ← lookup_signedPart covered, fields]

end Signed

section Tampered

/-- A signature is over one text only, whoever made it. -/
def SignaturesBind (P : Packages) : Prop :=
  ∀ message other privateKey otherPrivate : Bytes, message.length = 32 → other.length = 32 →
    privateKey.length = 32 → otherPrivate.length = 32 →
    P.ed25519Sign message privateKey = P.ed25519Sign other otherPrivate → message = other

/-- The two texts are told apart by their hashes. -/
def NoCollision (P : Packages) (text other : Bytes) : Prop :=
  P.sha256 text = P.sha256 other → text = other

/-- Some of these fields is not the same in both. -/
def DifferIn (names : List String) (envelope other : Json) : Prop :=
  ∃ key ∈ names, envelope.field key ≠ other.field key

variable {builder : MessageBuilder P} {address : String} {given : Option Bytes} {key : Bytes}
  {draws : CipherDraws} {envelope : Json}

theorem build_cases (addressed : builder.to = some address)
    (keyed : recipientKey P address given = .ok key)
    (built : builder.build given draws = .ok envelope) :
    ∃ encrypted pow,
      encryptMessage P draws (utf8Encode (stringify (.object (plaintext builder)))) key =
        .ok encrypted ∧
      computeProofOfWork P
        (toHex (hashEnvelope P (.object (unsignedEnvelope builder address encrypted))))
        DEFAULT_DIFFICULTY = .ok pow ∧
      envelope = builtEnvelope builder address encrypted pow := by
  apply build_ok addressed
  rw [← built]
  have handed : recipientKey P address (some key) = .ok key := rfl
  simp only [MessageBuilder.build, addressed, keyed, handed]

/-- A parser that takes an envelope with the signature of another finds the same fields signed. -/
theorem signed_fields_kept (reliable : Reliable P) (unforgeable : SignaturesUnforgeable P)
    (binds : SignaturesBind P) {sender identity : Identity P} {envelope tampered content : Json}
    (canonical : Canonical envelope) (otherCanonical : Canonical tampered)
    (signature : envelope.field "signature" =
      some (.string (toBase64 (sender.sign (hashEnvelope P envelope)))))
    (carries : tampered.field "signature" = envelope.field "signature")
    (distinct : NoCollision P (utf8Encode (stringify (.object (signedPart tampered))))
      (utf8Encode (stringify (.object (signedPart envelope)))))
    (passes : Passes identity tampered content) :
    ∀ key ∈ signedFields, tampered.field key = envelope.field key := by
  obtain ⟨read, publicKey, found, verified⟩ := passes.signed
  rw [carries, signature, bufferFrom_toBase64] at found
  obtain rfl := Except.ok.inj found
  obtain ⟨privateKey, length, _, made⟩ := unforgeable _ _ _ verified
  have hash : hashEnvelope P tampered = hashEnvelope P envelope :=
    binds _ _ _ _ (reliable.sized _) (reliable.sized _) length sender.privateKey_length made
  rw [hashEnvelope_eq, hashEnvelope_eq] at hash
  exact signed_same otherCanonical canonical (distinct hash)

theorem pow_present {messageHash : String} {pow : Option Json}
    (proven : verifyProofOfWork P messageHash pow = .ok true) : ∃ given, pow = some given := by
  cases pow with
  | none => cases proven
  | some given => exact ⟨given, rfl⟩

/-- Only the proof of work is read where it stands. -/
theorem signedEnvelope_field {name : String} (apart : "pow" ≠ name) (encrypted : Encrypted)
    (pow given : Json) : (signedEnvelope builder address encrypted pow).field name =
      (signedEnvelope builder address encrypted given).field name := by
  have behind (fields : List (String × Json)) (signature : Json) :
      lookup name (fields ++ [("signature", signature), ("pow", pow)]) =
        lookup name (fields ++ [("signature", signature), ("pow", given)]) := by
    induction fields with
    | nil => simp [lookup, apart]
    | cons entry rest ih => simp only [List.cons_append, lookup, ih]
  exact behind _ _

/-- With the signed fields and the signature as they were built, the rest is not looked at. -/
theorem parse_same_signed {identity : Identity P} {encrypted : Encrypted} {pow : Proof}
    {tampered given : Json}
    (same : ∀ name ∈ signedFields,
      tampered.field name = (builtEnvelope builder address encrypted pow).field name)
    (carries : tampered.field "signature" =
      (builtEnvelope builder address encrypted pow).field "signature")
    (proof : tampered.field "pow" = some given) :
    parse identity tampered = parse identity (signedEnvelope builder address encrypted given) := by
  cases tampered with
  | object fields =>
      refine parse_congr identity fun name read => ?_
      have kinds : name ∈ signedFields ∧ "pow" ≠ name ∨ name = "signature" ∨ name = "pow" := by
        revert name
        decide
      rcases kinds with ⟨covered, apart⟩ | rfl | rfl
      · exact (same name covered).trans (signedEnvelope_field apart encrypted pow.toJson given)
      · exact carries.trans (signedEnvelope_field (by decide) encrypted pow.toJson given)
      · rw [show lookup "pow" fields = some given from proof]
        simp [unsignedEnvelope, lookup]
  | _ => cases proof

theorem opens_iff_keys_agree (address : String) (reliable : Reliable P) {identity : Identity P}
    {encrypted : Encrypted} (pow : Proof) (given : Json)
    (canonical : Canonical (.object (plaintext builder)))
    (encryption : encryptMessage P draws (utf8Encode (stringify (.object (plaintext builder)))) key =
      .ok encrypted) (content : Json) :
    openContent identity (signedEnvelope builder address encrypted given) = .ok content ↔
      content = .object (plaintext builder) ∧
        KeysAgree P INFO draws key identity.encryptionPublicKey := by
  rw [openContent_signedEnvelope, ← openContent_signedEnvelope _ builder address _ pow.toJson]
  exact openContent_ok_iff reliable.commutes reliable.roundTrips reliable.commits reliable.sized
    identity pow address canonical encryption content

theorem hashEnvelope_builtEnvelope (encrypted : Encrypted) (pow : Proof) (given : Json) :
    hashEnvelope P (signedEnvelope builder address encrypted given) =
      hashEnvelope P (builtEnvelope builder address encrypted pow) := by
  rw [hashEnvelope_signedEnvelope]
  exact (hashEnvelope_signedEnvelope builder address encrypted pow.toJson).symm

/-- With its own signature an envelope is parsed by its addressee, if the proof of work is good and
    both ends derive one cipher key. -/
theorem parse_signedEnvelope_ok_iff (reliable : Reliable P) {identity : Identity P}
    {encrypted : Encrypted} (pow : Proof) (given : Json)
    (canonical : Canonical (.object (plaintext builder)))
    (encryption : encryptMessage P draws (utf8Encode (stringify (.object (plaintext builder)))) key =
      .ok encrypted) :
    (∃ message, parse identity (signedEnvelope builder address encrypted given) = .ok message) ↔
      address = identity.address ∧
        verifyProofOfWork P
          (toHex (hashEnvelope P (builtEnvelope builder address encrypted pow))) (some given) =
            .ok true ∧
        KeysAgree P INFO draws key identity.encryptionPublicKey := by
  have hash : hashEnvelope P (signedEnvelope builder address encrypted given) =
      hashEnvelope P (builtEnvelope builder address encrypted pow) :=
    hashEnvelope_builtEnvelope encrypted pow given
  constructor
  -- What the parser checked is read back; the signature is the envelope's own either way.
  · rintro ⟨message, parsed⟩
    obtain ⟨content, passes⟩ := passes_of_parse parsed
    have named : (signedEnvelope builder address encrypted given).field "to" =
        some (.string address) := by
      simp [signedEnvelope, unsignedEnvelope, field, lookup]
    have kept : (signedEnvelope builder address encrypted given).field "pow" = some given := by
      simp [signedEnvelope, unsignedEnvelope, field, lookup]
    have proven := passes.proven
    rw [hash, kept] at proven
    have opened := (opens_iff_keys_agree address reliable pow given canonical encryption content).mp
      passes.opened
    exact ⟨Json.string.inj (Option.some.inj (named.symm.trans passes.addressed)), proven, opened.2⟩
  · rintro ⟨rfl, proven, agree⟩
    rw [← hash, hashEnvelope_signedEnvelope] at proven
    have opened := (opens_iff_keys_agree identity.address reliable pow given canonical encryption
      _).mpr ⟨rfl, agree⟩
    rw [parse_signedEnvelope reliable.base58 reliable.verifies proven, opened]
    exact ⟨_, rfl⟩

/-- The fields that are built before the signature. -/
def builtBefore : List String :=
  ["version", "from", "fromEncryptionKey", "to", "timestamp", "encrypted"]

/-- The sender's encryption key was exchanged, and nothing else that is built before the signature. -/
def KeyExchanged (tampered envelope : Json) : Prop :=
  DifferIn ["fromEncryptionKey"] tampered envelope ∧ ¬ DifferIn signedFields tampered envelope

theorem differ_split {tampered envelope : Json} :
    DifferIn builtBefore tampered envelope ↔
      DifferIn signedFields tampered envelope ∨ KeyExchanged tampered envelope := by
  have split : DifferIn builtBefore tampered envelope ↔
      DifferIn signedFields tampered envelope ∨ DifferIn ["fromEncryptionKey"] tampered envelope := by
    simp only [DifferIn, builtBefore, signedFields, List.mem_cons, List.not_mem_nil, or_false,
      exists_eq_or_imp, exists_eq_left]
    tauto
  rw [split, KeyExchanged]
  tauto

theorem same_of_not_differ {names : List String} {tampered envelope : Json}
    (same : ¬ DifferIn names tampered envelope) :
    ∀ name ∈ names, tampered.field name = envelope.field name := by
  intro name inside
  by_contra different
  exact same ⟨name, inside, different⟩

/-- Whoever parses an envelope that was changed under its signature is told so exactly
    when, with only the sender's encryption key exchanged, the envelope is not for the
    parser, lacks a proof of work or does not open. -/
theorem tampering_detected_iff (reliable : Reliable P) (unforgeable : SignaturesUnforgeable P)
    (binds : SignaturesBind P) (canonical : Canonical (.object (plaintext builder)))
    (addressed : builder.to = some address) (keyed : recipientKey P address given = .ok key)
    (built : builder.build given draws = .ok envelope) (tampered : Value)
    (carries : tampered.val.field "signature" = envelope.field "signature")
    (distinct : NoCollision P (utf8Encode (stringify (.object (signedPart tampered.val))))
      (utf8Encode (stringify (.object (signedPart envelope)))))
    (identity : Identity P) :
    (DifferIn builtBefore tampered.val envelope →
        ∃ failure, parse identity tampered.val = .error failure) ↔
      (KeyExchanged tampered.val envelope →
        address ≠ identity.address ∨
          verifyProofOfWork P (toHex (hashEnvelope P envelope)) (tampered.val.field "pow") ≠
            .ok true ∨
          ¬ KeysAgree P INFO draws key identity.encryptionPublicKey) := by
  obtain ⟨encrypted, pow, encryption, found, rfl⟩ := build_cases addressed keyed built
  have whole : Canonical (builtEnvelope builder address encrypted pow) :=
    (builtFields_storable builder address encrypted pow).canonical
  have signature : (builtEnvelope builder address encrypted pow).field "signature" =
      some (.string (toBase64 (builder.identity.sign
        (hashEnvelope P (builtEnvelope builder address encrypted pow))))) := by
    rw [← hashEnvelope_builtEnvelope encrypted pow .null, hashEnvelope_signedEnvelope]
    simp [builtEnvelope, unsignedEnvelope, field, lookup]
  constructor
  · intro detected exchanged
    have same := same_of_not_differ exchanged.2
    obtain ⟨failure, refused⟩ := detected (differ_split.mpr (.inr exchanged))
    by_contra sound
    simp only [not_or, not_not] at sound
    obtain ⟨own, proven, agree⟩ := sound
    obtain ⟨given, proof⟩ := pow_present proven
    rw [proof] at proven
    obtain ⟨message, parsed⟩ := (parse_signedEnvelope_ok_iff reliable pow given canonical
      encryption).mpr ⟨own, proven, agree⟩
    rw [parse_same_signed same carries proof, parsed] at refused
    cases refused
  · intro missed differs
    cases parsed : parse identity tampered.val with
    | error failure => exact ⟨failure, rfl⟩
    | ok message =>
        exfalso
        obtain ⟨_, passes⟩ := passes_of_parse parsed
        have same := signed_fields_kept reliable unforgeable binds whole tampered.property signature
          carries distinct passes
        have unchanged : ¬ DifferIn signedFields tampered.val
            (builtEnvelope builder address encrypted pow) := by
          rintro ⟨name, inside, different⟩
          exact different (same name inside)
        -- Nothing but the key is left to differ, and then the envelope parses as it was built.
        obtain ⟨given, proof⟩ := pow_present passes.proven
        rw [parse_same_signed same carries proof] at parsed
        obtain ⟨own, proven, agree⟩ := (parse_signedEnvelope_ok_iff reliable pow given canonical
          encryption).mp ⟨message, parsed⟩
        rw [proof] at missed
        rcases missed ((differ_split.mp differs).resolve_left unchanged) with away | bare | closed
        · exact away own
        · exact bare proven
        · exact closed agree

end Tampered

/-! Mallory passes Alice's greeting on to Bob with a key of her own for the reply. -/

section Sample

theorem sample_binds : SignaturesBind samplePackages := by
  intro message other privateKey otherPrivate length otherLength first second same
  have fitted := (List.append_inj same (first.trans second.symm)).2
  simpa [fit, length, otherLength] using fitted

def exchangeKey (key : String) (fields : List (String × Json)) : List (String × Json) :=
  fields.map fun entry =>
    (entry.1, if entry.1 = "fromEncryptionKey" then .string key else entry.2)

theorem exchangeKey_names (key : String) (fields : List (String × Json)) :
    (exchangeKey key fields).map Prod.fst = fields.map Prod.fst := by
  simp [exchangeKey, Function.comp_def]

theorem lookup_exchangeKey {name : String} (key : String) (apart : name ≠ "fromEncryptionKey")
    (fields : List (String × Json)) : lookup name (exchangeKey key fields) = lookup name fields := by
  induction fields with
  | nil => rfl
  | cons entry rest ih =>
      by_cases own : entry.1 = name
      · have kept : entry.1 ≠ "fromEncryptionKey" := own ▸ apart
        simp [exchangeKey, lookup, own, apart]
      · simpa [exchangeKey, lookup, own] using ih

theorem exchangeKey_canonical (key : String) {fields : List (String × Json)}
    (values : CanonicalFields fields) : CanonicalFields (exchangeKey key fields) := by
  induction fields with
  | nil => trivial
  | cons entry rest ih =>
      refine ⟨?_, ih values.2⟩
      by_cases exchanged : entry.1 = "fromEncryptionKey"
      · simp only [exchanged, ↓reduceIte]
        trivial
      · simpa only [exchanged, ↓reduceIte] using values.1

def aliceToBob : MessageBuilder samplePackages :=
  written (sampleIdentity 1) (sampleIdentity 2) 1000 greeting greeting [] ⟨.null, trivial⟩
    ⟨.null, trivial⟩

def malloryKey : String := toBase64 (sampleIdentity 3).encryptionPublicKey

theorem exchanged_value (encrypted : Encrypted) (pow : Proof) : Canonical (.object (exchangeKey malloryKey
    (builtFields aliceToBob (sampleIdentity 2).address encrypted pow))) := by
  have storable := builtFields_storable aliceToBob (sampleIdentity 2).address encrypted pow
  refine canonical_object _ (exchangeKey_names _ _) ?_ (exchangeKey_canonical _ storable.values)
  exact DMailNode.plainNames_sublist storable.names (.cons _ (List.sublist_append_left _ _))

def malloryPasses (encrypted : Encrypted) (pow : Proof) : Value :=
  ⟨_, exchanged_value encrypted pow⟩

theorem malloryPasses_field {name : String} (apart : name ≠ "fromEncryptionKey")
    (encrypted : Encrypted) (pow : Proof) : (malloryPasses encrypted pow).val.field name =
      (builtEnvelope aliceToBob (sampleIdentity 2).address encrypted pow).field name :=
  lookup_exchangeKey malloryKey apart _

theorem aliceToBob_built : ∃ encrypted pow,
    encryptMessage samplePackages sampleCipherDraws
        (utf8Encode (stringify (.object (plaintext aliceToBob))))
        (sampleIdentity 2).encryptionPublicKey = .ok encrypted ∧
      computeProofOfWork samplePackages (toHex (hashEnvelope samplePackages
        (.object (unsignedEnvelope aliceToBob (sampleIdentity 2).address encrypted))))
        DEFAULT_DIFFICULTY = .ok pow ∧
      aliceToBob.build (some (sampleIdentity 2).encryptionPublicKey) sampleCipherDraws =
        .ok (builtEnvelope aliceToBob (sampleIdentity 2).address encrypted pow) := by
  obtain ⟨envelope, built⟩ := message_built (show aliceToBob.to = _ from rfl)
    (address_nonempty (sampleIdentity 2)) (sampleIdentity 2).encryptionPublicKey sampleCipherDraws
  obtain ⟨encrypted, pow, encryption, found, rfl⟩ := build_ok rfl built
  exact ⟨encrypted, pow, encryption, found, built⟩

/-- Bob's parser takes the envelope with the exchanged key. -/
theorem exchanged_key_accepted : ∃ envelope,
    aliceToBob.build (some (sampleIdentity 2).encryptionPublicKey) sampleCipherDraws = .ok envelope ∧
      ∃ tampered : Value, tampered.val.field "signature" = envelope.field "signature" ∧
        DifferIn builtBefore tampered.val envelope ∧
        ∃ message, parse (sampleIdentity 2) tampered.val = .ok message := by
  obtain ⟨encrypted, pow, encryption, found, built⟩ := aliceToBob_built
  refine ⟨_, built, malloryPasses encrypted pow, malloryPasses_field (by decide) encrypted pow,
    ⟨"fromEncryptionKey", by decide, ?_⟩, ?_⟩
  · have own : (builtEnvelope aliceToBob (sampleIdentity 2).address encrypted pow).field
        "fromEncryptionKey" = some (.string (toBase64 (sampleIdentity 1).encryptionPublicKey)) := by
      simp [builtEnvelope, unsignedEnvelope, field, lookup, aliceToBob, written, createMessage]
    have given : (malloryPasses encrypted pow).val.field "fromEncryptionKey" =
        some (.string malloryKey) := by
      simp [malloryPasses, exchangeKey, builtFields, SealedEnvelope.ownFields, builtEnvelope,
        unsignedEnvelope, field, lookup]
    rw [own, given]
    intro same
    exact absurd (Json.string.inj (Option.some.inj same)) (by decide +kernel)
  · obtain ⟨message, parsed, _⟩ := parse_own sample_reliable rfl (written_canonical ..) encryption
      found
    refine ⟨message, Eq.trans ?_ parsed⟩
    refine parse_congr _ fun name read => malloryPasses_field ?_ encrypted pow
    rintro rfl
    revert read
    decide

theorem exchanged_key_detected_iff : ∃ envelope,
    aliceToBob.build (some (sampleIdentity 2).encryptionPublicKey) sampleCipherDraws = .ok envelope ∧
      ∃ tampered : Value,
        ((DifferIn builtBefore tampered.val envelope →
            ∃ failure, parse (sampleIdentity 2) tampered.val = .error failure) ↔
          (KeyExchanged tampered.val envelope →
            (sampleIdentity 2).address ≠ (sampleIdentity 2).address ∨
              verifyProofOfWork samplePackages (toHex (hashEnvelope samplePackages envelope))
                (tampered.val.field "pow") ≠ .ok true ∨
              ¬ KeysAgree samplePackages INFO sampleCipherDraws
                (sampleIdentity 2).encryptionPublicKey (sampleIdentity 2).encryptionPublicKey)) := by
  obtain ⟨encrypted, pow, encryption, found, built⟩ := aliceToBob_built
  refine ⟨_, built, malloryPasses encrypted pow, ?_⟩
  have signed : signedPart (malloryPasses encrypted pow).val =
      signedPart (builtEnvelope aliceToBob (sampleIdentity 2).address encrypted pow) := by
    refine congrArg defined (List.map_congr_left fun name covered => ?_)
    rw [malloryPasses_field _ encrypted pow]
    rintro rfl
    revert covered
    decide
  exact tampering_detected_iff sample_reliable sample_unforgeable sample_binds
    (written_canonical ..) rfl rfl built (malloryPasses encrypted pow)
    (malloryPasses_field (by decide) encrypted pow) (fun _ => by rw [signed]) (sampleIdentity 2)

end Sample

end Chainmail.MessageEnvelope
