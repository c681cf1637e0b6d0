import Chainmail.MessageOpening

/-!
How much work an accepted message carries. The parser checks the proof against
the difficulty that the proof itself names, so the work is the builder's just
when that difficulty is the builder's or more.
-/

namespace Chainmail.MessageEnvelope

open Json ProofOfWork

def claimedNonce (envelope : Json) : Option Json := (envelope.field "pow").bind (field "nonce")

def claimedDifficulty (envelope : Json) : Option Json :=
  (envelope.field "pow").bind (field "difficulty")

/-- The hash over the nonce is as small as the builder has to make it. -/
def CarriesWork (P : Packages) (envelope : Json) : Prop :=
  ∃ nonce, spliced (claimedNonce envelope) = .ok nonce ∧
    hashValue (nonceHash P (toHex (hashEnvelope P envelope)) nonce) <
      2 ^ (256 - DEFAULT_DIFFICULTY)

/-- What the difficulty leaves of 256, where it leaves a whole number, is no more than the
    builder's does. -/
def AtLeastDefault (P : Packages) (difficulty : Option Json) : Prop :=
  ∀ exponent, bigInt (exponentOf P difficulty) = some exponent →
    exponent ≤ 256 - DEFAULT_DIFFICULTY

variable {P : Packages}

theorem verify_true {messageHash : String} {proof : Option Json}
    (proven : verifyProofOfWork P messageHash proof = .ok true) :
    ∃ exponent nonce, bigInt (exponentOf P (proof.bind (field "difficulty"))) = some exponent ∧
      spliced (proof.bind (field "nonce")) = .ok nonce ∧
        hashValue (nonceHash P messageHash nonce) < shiftOne exponent := by
  obtain ⟨nonce, readNonce, later⟩ := bind_ok_iff.mp proven
  obtain ⟨difficulty, readDifficulty, later⟩ := bind_ok_iff.mp later
  obtain ⟨target, aimed, later⟩ := bind_ok_iff.mp later
  obtain ⟨text, shown, small⟩ := bind_ok_iff.mp later
  have properties : nonce = proof.bind (field "nonce") ∧
      difficulty = proof.bind (field "difficulty") := by
    cases proof with
    | none => cases readNonce
    | some given =>
        cases given <;> first
          | cases readNonce; done
          | exact ⟨(Except.ok.inj readNonce).symm, (Except.ok.inj readDifficulty).symm⟩
  rw [← properties.1, ← properties.2]
  rw [targetOf] at aimed
  split at aimed
  next exponent whole =>
    cases aimed
    exact ⟨exponent, text, whole, shown, of_decide_eq_true (Except.ok.inj small)⟩
  next => cases aimed

theorem shiftOne_le {exponent : Int} (enough : exponent ≤ 256 - DEFAULT_DIFFICULTY) :
    shiftOne exponent ≤ 2 ^ (256 - DEFAULT_DIFFICULTY) := by
  rw [shiftOne]
  split
  · apply Nat.pow_le_pow_right (by decide)
    have bound : DEFAULT_DIFFICULTY = 18 := rfl
    omega
  · exact Nat.zero_le _

theorem carriesWork_of_difficulty {identity : Identity P} {envelope : Json} {message : Message}
    (parsed : parse identity envelope = .ok message)
    (enough : AtLeastDefault P (claimedDifficulty envelope)) : CarriesWork P envelope := by
  obtain ⟨_, passes⟩ := passes_of_parse parsed
  obtain ⟨exponent, nonce, whole, shown, small⟩ := verify_true passes.proven
  exact ⟨nonce, shown, Nat.lt_of_lt_of_le small (shiftOne_le (enough exponent whole))⟩

section Gap

/-- A hash that is one too large for the builder. -/
def gapHash : Bytes := [0, 0, 0x40] ++ List.replicate 29 0

theorem hashValue_gapHash : hashValue gapHash = 2 ^ (256 - DEFAULT_DIFFICULTY) := by
  decide +kernel

/-- The sample packages with a hash function that returns nothing else, and any way
    to make numbers of values that are not. -/
def gapPackages (numberFromOther : Json → Option Decimal) : Packages :=
  { samplePackages with sha256 := fun _ => gapHash, numberFromOther := numberFromOther }

variable (numberFromOther : Json → Option Decimal)

def gapIdentity : Identity (gapPackages numberFromOther) :=
  .fromPrivateKey (List.replicate 32 1) List.length_replicate

def gapBuilder : MessageBuilder (gapPackages numberFromOther) :=
  createMessage (gapIdentity numberFromOther) 0

def claimedProof (difficulty : Json) : Json :=
  .object [("nonce", .string "0"), ("difficulty", difficulty)]

theorem gap_verifies {difficulty : Json} {exponent : Int} (messageHash : String)
    (whole : bigInt (exponentOf (gapPackages numberFromOther) (some difficulty)) = some exponent)
    (more : 256 - (DEFAULT_DIFFICULTY : Int) < exponent) :
    verifyProofOfWork (gapPackages numberFromOther) messageHash (some (claimedProof difficulty)) =
      .ok true := by
  have hash : hashValue (nonceHash (gapPackages numberFromOther) messageHash "0") =
      2 ^ (256 - DEFAULT_DIFFICULTY) := hashValue_gapHash
  have small : 2 ^ (256 - DEFAULT_DIFFICULTY) < shiftOne exponent := by
    have bound : DEFAULT_DIFFICULTY = 18 := rfl
    rw [shiftOne, if_pos (by omega)]
    apply Nat.pow_lt_pow_right (by decide)
    omega
  have target : targetOf (gapPackages numberFromOther) (some difficulty) =
      .ok (shiftOne exponent) := by
    rw [targetOf, whole]
  simp [verifyProofOfWork, claimedProof, lookup, target, spliced, toText, hash, small]

theorem gap_accepted {difficulty : Json} {exponent : Int}
    (whole : bigInt (exponentOf (gapPackages numberFromOther) (some difficulty)) = some exponent)
    (more : 256 - (DEFAULT_DIFFICULTY : Int) < exponent) :
    ∃ envelope message, parse (gapIdentity numberFromOther) envelope = .ok message ∧
      claimedDifficulty envelope = some difficulty ∧
        ¬ CarriesWork (gapPackages numberFromOther) envelope := by
  have commutes : AgreementCommutes (gapPackages numberFromOther) := sample_commutes
  have roundTrips : ChachaRoundTrips (gapPackages numberFromOther) := sample_roundtrips
  obtain ⟨encrypted, encryption⟩ : ∃ encrypted,
      encryptFor (gapPackages numberFromOther) INFO sampleCipherDraws
        (utf8Encode (stringify (.object (plaintext (gapBuilder numberFromOther)))))
        (gapIdentity numberFromOther).encryptionPublicKey = .ok encrypted :=
    sample_encrypts INFO sampleCipherDraws _ _
  have canonical : Canonical (.object (plaintext (gapBuilder numberFromOther))) :=
    canonical_object ["subject", "body", "attachments", "replyTo", "threadId"] rfl (by decide)
      ⟨trivial, trivial, trivial, trivial, trivial, trivial⟩
  have length : (gapIdentity numberFromOther).encryptionPrivateKey.length = 32 :=
    encryptionPrivateKey_length (fun _ => rfl) _
  have opened : decryptWith (gapPackages numberFromOther) INFO
      (gapIdentity numberFromOther).encryptionPrivateKey encrypted =
      .ok (utf8Encode (stringify (.object (plaintext (gapBuilder numberFromOther))))) :=
    decryptWith_own commutes roundTrips length encryption
  have base58 : Base58RoundTrips (gapPackages numberFromOther) :=
    ⟨sample_base58.decode_encode, sample_base58.encode_head⟩
  have verifies : SignaturesVerify (gapPackages numberFromOther) := sample_verifies
  have subject : member "subject" (some (.object (plaintext (gapBuilder numberFromOther)))) =
      .ok (lookup "subject" (plaintext (gapBuilder numberFromOther))) := rfl
  have proven : verifyProofOfWork (gapPackages numberFromOther)
      (toHex (hashEnvelope (gapPackages numberFromOther) (.object (unsignedEnvelope
        (gapBuilder numberFromOther) (gapIdentity numberFromOther).address encrypted))))
      (some (claimedProof difficulty)) = .ok true :=
    gap_verifies numberFromOther _ whole more
  -- The envelope passes every check, the one of its work included.
  have parsed := parse_signedEnvelope base58 verifies proven
  rw [openContent_signedEnvelope, opened, ok_bind, parse_transmitted canonical, ok_bind,
    subject, ok_bind] at parsed
  refine ⟨_, _, parsed, ?_, ?_⟩
  · simp [claimedDifficulty, signedEnvelope, unsignedEnvelope, claimedProof, field, lookup]
  -- Every hash is the same number here, just as large as the default target.
  · rintro ⟨nonce, _, small⟩
    have hash : hashValue (nonceHash (gapPackages numberFromOther)
        (toHex (hashEnvelope (gapPackages numberFromOther)
          (signedEnvelope (gapBuilder numberFromOther) (gapIdentity numberFromOther).address
            encrypted (claimedProof difficulty)))) nonce) = 2 ^ (256 - DEFAULT_DIFFICULTY) :=
      hashValue_gapHash
    rw [hash] at small
    exact Nat.lt_irrefl _ small

end Gap

theorem numberOf_congr {P Q : Packages} (same : Q.numberFromOther = P.numberFromOther) :
    numberOf Q = numberOf P := by
  funext value
  cases value with
  | none => rfl
  | some given => cases given <;> simp [numberOf, same]

theorem exponentOf_congr {P Q : Packages} (same : Q.numberFromOther = P.numberFromOther) :
    exponentOf Q = exponentOf P := by
  funext value
  rw [exponentOf, exponentOf, numberOf_congr same]

/-- Whatever the packages are that make the same numbers: of the messages that claim a
    difficulty, all that are accepted carry the builder's work just when the
    difficulty is at least the builder's, as the check computes with it. -/
theorem accepted_work_iff (P : Packages) (difficulty : Option Json) :
    (∀ Q : Packages, Q.numberFromOther = P.numberFromOther → ∀ (identity : Identity Q)
      (envelope : Json) (message : Message), parse identity envelope = .ok message →
        claimedDifficulty envelope = difficulty → CarriesWork Q envelope) ↔
      AtLeastDefault P difficulty := by
  constructor
  · intro carries exponent whole
    by_contra more
    cases difficulty with
    | none => cases whole
    | some given =>
        have same : exponentOf (gapPackages P.numberFromOther) = exponentOf P :=
          exponentOf_congr rfl
        rw [← same] at whole
        obtain ⟨envelope, message, parsed, claimed, idle⟩ :=
          gap_accepted P.numberFromOther whole (Int.not_le.mp more)
        exact idle (carries (gapPackages P.numberFromOther) rfl _ envelope message parsed claimed)
  · intro enough Q same identity envelope message parsed claimed
    apply carriesWork_of_difficulty parsed
    rw [claimed, AtLeastDefault, exponentOf_congr same]
    exact enough

/-- What is left of 256 is rounded, and such a difficulty with it to none. -/
example : ¬ AtLeastDefault samplePackages (some (.number (.make false 1 (-17)))) := by
  intro enough
  exact absurd (enough 256 (by decide +kernel)) (by decide)

/-- A proof that claims no difficulty at all is enough. -/
theorem idle_message_accepted : ¬ ∀ (P : Packages) (identity : Identity P) (envelope : Json)
    (message : Message), parse identity envelope = .ok message → CarriesWork P envelope := by
  intro carries
  have whole : bigInt (exponentOf (gapPackages fun _ => none) (some (.number 0))) = some 256 := by
    decide +kernel
  obtain ⟨envelope, message, parsed, _, idle⟩ := gap_accepted (fun _ => none) whole (by decide)
  exact idle (carries _ _ envelope message parsed)

end Chainmail.MessageEnvelope
