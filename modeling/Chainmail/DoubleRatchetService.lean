import Chainmail.DoubleRatchet

/-!
`src/api/src/crypto/double-ratchet.service.ts`, the ratchet of the API. Its
state has the fields of `DoubleRatchetState`, and its key derivations and the
body of its skipping loop are those of `src/crypto/double-ratchet.js` line by
line, so these are used from there. A header carries its key as text.
-/

namespace Chainmail.DoubleRatchetService

open DoubleRatchet (Primitives Thrown KeyPair SkipKey State kdfRK kdfCK generateKeyPair skipLoop
  MAX_SKIP)

variable {Secret : Type}

abbrev RatchetState := State
abbrev Call (Secret Result : Type) := Outcome (RatchetState Secret) Thrown Result

structure MessageHeader where
  dhPublicKey : String
  previousCounter : JsNumber
  messageNumber : JsNumber
deriving DecidableEq

structure EncryptedRatchetMessage where
  header : MessageHeader
  nonce : String
  ciphertext : String
deriving DecidableEq

def createState : RatchetState Secret :=
  { DHs := none, DHr := none, RK := none, CKs := none, CKr := none
    Ns := 0, Nr := 0, PN := 0, MKSKIPPED := OrderedMap.empty }

section Functions
variable (P : Primitives Secret)

def initAsInitiator (sharedSecret : Secret) (remotePublicKey draw : Bytes)
    (state : RatchetState Secret) : Call Secret Unit :=
  let state := { state with DHs := some (generateKeyPair P draw), DHr := some remotePublicKey }
  match P.getSharedSecret draw remotePublicKey with
  | none => .throws state .badPoint
  | some dhResult =>
      let keys := kdfRK P sharedSecret dhResult
      .returns { state with
        RK := some keys.rootKey, CKs := some keys.chainKey, CKr := none
        Ns := 0, Nr := 0, PN := 0 } ()

def initAsResponder (sharedSecret : Secret) (ourKeyPair : KeyPair)
    (state : RatchetState Secret) : Call Secret Unit :=
  .returns { state with
    DHs := some ourKeyPair, DHr := none, RK := some sharedSecret
    CKs := none, CKr := none, Ns := 0, Nr := 0, PN := 0 } ()

-- Without associated data the cipher is called as with an empty array.
def encrypt (plaintext nonce : Bytes) (state : RatchetState Secret) :
    Call Secret EncryptedRatchetMessage :=
  match state.CKs, state.DHs with
  | some current, some pair =>
      let keys := kdfCK P current
      .returns { state with CKs := some keys.chainKey, Ns := state.Ns + 1 }
        { header :=
            { dhPublicKey := toBase64 pair.publicKey
              previousCounter := .ofNat state.PN
              messageNumber := .ofNat state.Ns }
          nonce := toBase64 nonce
          ciphertext := toBase64 (P.cipherEncrypt keys.messageKey nonce [] plaintext) }
  | _, _ => .throws state (.error "Session not initialized for sending")

def skipMessageKeys (bound : JsNumber) (state : RatchetState Secret) : Call Secret Unit :=
  if (JsNumber.ofNat (state.Nr + MAX_SKIP)).lt bound then
    .throws state (.error "Too many skipped messages")
  else if state.CKr.isSome && state.DHr.isSome then skipLoop P bound MAX_SKIP state
  else .returns state ()

def dhRatchet (theirPublicKey draw : Bytes) (state : RatchetState Secret) : Call Secret Unit :=
  let state := { state with PN := state.Ns, Ns := 0, Nr := 0, DHr := some theirPublicKey }
  match state.DHs, state.RK with
  | some ours, some root =>
      match P.getSharedSecret ours.privateKey theirPublicKey with
      | none => .throws state .badPoint
      | some dhResult1 =>
          let first := kdfRK P root dhResult1
          let state := { state with
            RK := some first.rootKey, CKr := some first.chainKey
            DHs := some (generateKeyPair P draw) }
          match P.getSharedSecret draw theirPublicKey with
          | none => .throws state .badPoint
          | some dhResult2 =>
              let second := kdfRK P first.rootKey dhResult2
              .returns { state with
                RK := some second.rootKey, CKs := some second.chainKey } ()
  | _, _ => .throws state (.error "Invalid state for DH ratchet")

/-- `!state.DHr || !this.arraysEqual(headerPubKey, state.DHr)` -/
def ratchetNeeded (headerPubKey : Bytes) (state : RatchetState Secret) : Bool :=
  match state.DHr with
  | none => true
  | some remote => headerPubKey ≠ remote

def takeChainKey (state : RatchetState Secret) : Call Secret Secret :=
  match state.CKr with
  | none => .throws state (.error "No receiving chain key")
  | some current =>
      let keys := kdfCK P current
      .returns { state with CKr := some keys.chainKey, Nr := state.Nr + 1 } keys.messageKey

def turnChain (header : MessageHeader) (draw : Bytes) (state : RatchetState Secret) :
    Call Secret Unit :=
  let headerPubKey := fromBase64 header.dhPublicKey
  if ratchetNeeded headerPubKey state then
    (skipMessageKeys P header.previousCounter state).andThen fun _ state =>
      dhRatchet P headerPubKey draw state
  else .returns state ()

def chainKeyFor (header : MessageHeader) (draw : Bytes) (state : RatchetState Secret) :
    Call Secret Secret :=
  (turnChain P header draw state).andThen fun _ state =>
    (skipMessageKeys P header.messageNumber state).andThen fun _ state => takeChainKey P state

/-- `decrypt` up to the cipher. The slot is looked up by the text as it was sent;
    a text with a colon in it names no stored slot, spliced or kept apart. -/
def receiveKey (header : MessageHeader) (draw : Bytes) (state : RatchetState Secret) :
    Call Secret Secret :=
  let wanted := SkipKey.mk header.dhPublicKey header.messageNumber
  match state.MKSKIPPED.get wanted with
  | some messageKey =>
      .returns { state with MKSKIPPED := state.MKSKIPPED.delete wanted } messageKey
  | none => chainKeyFor P header draw state

def decrypt (message : EncryptedRatchetMessage) (draw : Bytes) (state : RatchetState Secret) :
    Call Secret Bytes :=
  (receiveKey P message.header draw state).andThen fun messageKey state =>
    match P.cipherDecrypt messageKey (fromBase64 message.nonce) [] (fromBase64 message.ciphertext) with
    | none => .throws state .badTag
    | some plaintext => .returns state plaintext

end Functions
end Chainmail.DoubleRatchetService
