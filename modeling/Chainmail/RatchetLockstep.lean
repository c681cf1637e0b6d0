import Chainmail.DoubleRatchetService
import Chainmail.SkippedStorage

/-!
The two ratchets side by side, fed with the same operations and draws. They
differ in one place that matters: the session looks a skipped key up under the
key it decoded from the header, the service under the text it was sent.
-/

namespace Chainmail.DoubleRatchetService

open DoubleRatchet (Primitives KeyPair SkipKey State skipKey)

inductive Operation (Secret : Type) where
  | initAsInitiator (sharedSecret : Secret) (remotePublicKey draw : Bytes)
  | initAsResponder (sharedSecret : Secret) (ourKeyPair : KeyPair)
  | encrypt (plaintext nonce : Bytes)
  | decrypt (message : EncryptedRatchetMessage) (draw : Bytes)

inductive Output where
  | done
  | sealed (message : EncryptedRatchetMessage)
  | opened (plaintext : Bytes)
deriving DecidableEq

variable {Secret : Type}

/-- `MessageHeader.deserialize` of the session's own header class. -/
def received (header : MessageHeader) : DoubleRatchet.MessageHeader :=
  ⟨fromBase64 header.dhPublicKey, header.previousCounter, header.messageNumber⟩

/-- A message of the session with its header serialized. -/
def written (sent : DoubleRatchet.Encrypted) : EncryptedRatchetMessage :=
  { header :=
      { dhPublicKey := toBase64 sent.header.dhPublicKey
        previousCounter := sent.header.previousCounter
        messageNumber := sent.header.messageNumber }
    nonce := sent.nonce
    ciphertext := sent.ciphertext }

section Steps
variable (P : Primitives Secret)

def sessionStep (operation : Operation Secret) (state : State Secret) : Call Secret Output :=
  match operation with
  | .initAsInitiator sharedSecret remotePublicKey draw =>
      (DoubleRatchet.initAsInitiator P sharedSecret remotePublicKey draw state).andThen
        fun _ state => .returns state .done
  | .initAsResponder sharedSecret ourKeyPair =>
      (DoubleRatchet.initAsResponder sharedSecret ourKeyPair state).andThen
        fun _ state => .returns state .done
  | .encrypt plaintext nonce =>
      (DoubleRatchet.encrypt P plaintext [] nonce state).andThen
        fun sent state => .returns state (.sealed (written sent))
  | .decrypt message draw =>
      (DoubleRatchet.decrypt P (received message.header) message.nonce message.ciphertext [] draw
        state).andThen fun plaintext state => .returns state (.opened plaintext)

def serviceStep (operation : Operation Secret) (state : RatchetState Secret) :
    Call Secret Output :=
  match operation with
  | .initAsInitiator sharedSecret remotePublicKey draw =>
      (initAsInitiator P sharedSecret remotePublicKey draw state).andThen
        fun _ state => .returns state .done
  | .initAsResponder sharedSecret ourKeyPair =>
      (initAsResponder sharedSecret ourKeyPair state).andThen fun _ state => .returns state .done
  | .encrypt plaintext nonce =>
      (encrypt P plaintext nonce state).andThen fun message state => .returns state (.sealed message)
  | .decrypt message draw =>
      (decrypt P message draw state).andThen fun plaintext state => .returns state (.opened plaintext)

def sessionState (past : List (Operation Secret)) : State Secret :=
  past.foldr (fun operation state => (sessionStep P operation state).state) DoubleRatchet.newState

def serviceState (past : List (Operation Secret)) : RatchetState Secret :=
  past.foldr (fun operation state => (serviceStep P operation state).state) createState

/-- The last operation left both in one state, and failed or returned alike. -/
def Lockstep : List (Operation Secret) → Prop
  | [] => sessionState P [] = serviceState P []
  | operation :: earlier =>
      Outcome.Agrees (sessionStep P operation (sessionState P earlier))
        (serviceStep P operation (serviceState P earlier))

/-- The header's text is the encoding of the key it decodes to, or no message
    key is stored for that key and number. -/
def FindsSameSlot (state : State Secret) : Operation Secret → Prop
  | .decrypt message _ =>
      toBase64 (fromBase64 message.header.dhPublicKey) = message.header.dhPublicKey ∨
        state.MKSKIPPED.get
          (skipKey (fromBase64 message.header.dhPublicKey) message.header.messageNumber) = none
  | _ => True

end Steps

/-- What every state of a session has, whatever was called before. -/
structure Orderly (state : State Secret) : Prop where
  attributed : DoubleRatchet.Attributed state
  paired : state.CKs ≠ none → state.DHs ≠ none
  encoded : ∀ slot, state.MKSKIPPED.get slot ≠ none → ∃ key, slot.dhPublicKey = toBase64 key

section Agreement
variable {P : Primitives Secret}

theorem skipMessageKeys_same (bound : JsNumber) {state : State Secret} (orderly : Orderly state) :
    DoubleRatchet.skipMessageKeys P bound state = skipMessageKeys P bound state := by
  have guarded : (state.CKr.isSome && state.DHr.isSome) = state.CKr.isSome := by
    cases chain : state.CKr with
    | none => rfl
    | some current =>
        obtain ⟨remote, known⟩ := orderly.attributed.known chain
        simp [known]
  simp only [DoubleRatchet.skipMessageKeys, skipMessageKeys, guarded]

theorem dhRatchet_agrees (theirs draw : Bytes) (state : State Secret) :
    Outcome.Agrees (DoubleRatchet.dhRatchet P theirs draw state) (dhRatchet P theirs draw state) := by
  cases held : state.DHs with
  | none => simpa only [DoubleRatchet.dhRatchet, dhRatchet, held] using .of_throws
  | some ours =>
      cases rooted : state.RK with
      | none =>
          cases agreed : P.getSharedSecret ours.privateKey theirs <;>
            simpa only [DoubleRatchet.dhRatchet, dhRatchet, held, rooted, agreed] using .of_throws
      | some root =>
          simpa only [DoubleRatchet.dhRatchet, dhRatchet, held, rooted] using .refl _

theorem takeChainKey_agrees (state : State Secret) :
    Outcome.Agrees (DoubleRatchet.takeChainKey P state) (takeChainKey P state) := by
  cases chain : state.CKr with
  | none => simpa only [DoubleRatchet.takeChainKey, takeChainKey, chain] using .of_throws
  | some current => simpa only [DoubleRatchet.takeChainKey, takeChainKey, chain] using .refl _

theorem Orderly.skipOne {state : State Secret} (orderly : Orderly state) :
    Orderly (DoubleRatchet.skipOne P state).state where
  attributed := orderly.attributed.skipOne
  paired := by
    have paired := orderly.paired
    cases chain : state.CKr <;> cases known : state.DHr <;>
      simpa [DoubleRatchet.skipOne, chain, known] using paired
  encoded := by
    cases chain : state.CKr with
    | none => simpa [DoubleRatchet.skipOne, chain] using orderly.encoded
    | some current =>
        cases known : state.DHr with
        | none => simpa [DoubleRatchet.skipOne, chain, known] using orderly.encoded
        | some remote =>
            intro slot held
            simp only [DoubleRatchet.skipOne, chain, known, Outcome.returns_state,
              OrderedMap.get_set] at held
            split at held
            · exact ⟨remote, by simp [*, skipKey]⟩
            · exact orderly.encoded slot held

theorem Orderly.dhRatchet {state : State Secret} (orderly : Orderly state) (theirs draw : Bytes) :
    Orderly (DoubleRatchet.dhRatchet P theirs draw state).state := by
  have attributed := DoubleRatchet.dhRatchet_attributed (P := P) theirs draw state
  rcases DoubleRatchet.dhRatchet_cases P theirs draw state with
    ⟨root, shared1, shared2, _, equal⟩ | ⟨error, equal⟩ | ⟨root, shared1, _, equal⟩
  · rw [equal] at attributed ⊢
    exact ⟨attributed, fun _ => Option.some_ne_none _, orderly.encoded⟩
  · rw [equal] at attributed ⊢
    exact ⟨attributed, orderly.paired, orderly.encoded⟩
  · rw [equal] at attributed ⊢
    exact ⟨attributed, fun _ => Option.some_ne_none _, orderly.encoded⟩

theorem Orderly.takeChainKey {state : State Secret} (orderly : Orderly state) :
    Orderly (DoubleRatchet.takeChainKey P state).state := by
  have attributed := orderly.attributed.takeChainKey (P := P)
  cases chain : state.CKr with
  | none => simpa [DoubleRatchet.takeChainKey, chain] using orderly
  | some current =>
      rw [DoubleRatchet.takeChainKey_eq P state current chain] at attributed ⊢
      exact ⟨attributed, orderly.paired, orderly.encoded⟩

theorem Orderly.delete {state : State Secret} (orderly : Orderly state) (slot : SkipKey) :
    Orderly { state with MKSKIPPED := state.MKSKIPPED.delete slot } where
  attributed := orderly.attributed
  paired := orderly.paired
  encoded := by
    intro other held
    rw [OrderedMap.get_delete] at held
    split at held
    · exact absurd rfl held
    · exact orderly.encoded other held

theorem Orderly.decrypt {state : State Secret} (orderly : Orderly state)
    (header : DoubleRatchet.MessageHeader) (nonceB64 ciphertextB64 : String)
    (associatedData draw : Bytes) :
    Orderly (DoubleRatchet.decrypt P header nonceB64 ciphertextB64 associatedData draw state).state := by
  rw [DoubleRatchet.decrypt_state]
  exact DoubleRatchet.receiveKey_keeps P Orderly header draw (fun _ kept => kept.skipOne)
    (fun _ kept => kept.dhRatchet header.dhPublicKey draw) (fun _ kept => kept.takeChainKey)
    (fun _ slot kept => kept.delete slot) state orderly

theorem Orderly.sessionStep {state : State Secret} (orderly : Orderly state)
    (operation : Operation Secret) : Orderly (sessionStep P operation state).state := by
  cases operation with
  | initAsInitiator sharedSecret remotePublicKey draw =>
      rw [DoubleRatchetService.sessionStep, Outcome.andThen_returns_state]
      cases agreed : P.getSharedSecret draw remotePublicKey <;>
        simp only [DoubleRatchet.initAsInitiator, agreed] <;>
        exact ⟨fun _ => Option.some_ne_none _, fun _ => Option.some_ne_none _, orderly.encoded⟩
  | initAsResponder sharedSecret ourKeyPair =>
      exact ⟨fun chained => absurd rfl chained, fun sending => absurd rfl sending, orderly.encoded⟩
  | encrypt plaintext nonce =>
      rw [DoubleRatchetService.sessionStep, Outcome.andThen_returns_state]
      cases sending : state.CKs with
      | none => simpa [DoubleRatchet.encrypt, sending] using orderly
      | some current =>
          cases held : state.DHs with
          | none => exact absurd held (orderly.paired (by simp [sending]))
          | some pair =>
              simp only [DoubleRatchet.encrypt, sending, held]
              exact ⟨orderly.attributed, fun _ => Option.some_ne_none pair, orderly.encoded⟩
  | decrypt message draw =>
      rw [DoubleRatchetService.sessionStep, Outcome.andThen_returns_state]
      exact orderly.decrypt _ _ _ _ _

theorem sessionState_orderly (past : List (Operation Secret)) : Orderly (sessionState P past) := by
  induction past with
  | nil =>
      exact ⟨fun chained => absurd rfl chained, fun sending => absurd rfl sending,
        fun _ held => absurd rfl held⟩
  | cons operation earlier ih => exact ih.sessionStep operation

theorem encrypt_agrees (plaintext nonce : Bytes) {state : State Secret} (orderly : Orderly state) :
    Outcome.Agrees (sessionStep P (.encrypt plaintext nonce) state)
      (serviceStep P (.encrypt plaintext nonce) state) := by
  cases sending : state.CKs with
  | none =>
      simpa only [sessionStep, serviceStep, DoubleRatchet.encrypt, encrypt, sending,
        Outcome.throws_andThen] using .of_throws
  | some current =>
      cases held : state.DHs with
      | none => exact absurd held (orderly.paired (by simp [sending]))
      | some pair =>
          simpa only [sessionStep, serviceStep, DoubleRatchet.encrypt, encrypt, sending, held,
            Outcome.returns_andThen, written] using .refl _

theorem chainKeyFor_agrees (header : MessageHeader) (draw : Bytes) {state : State Secret}
    (orderly : Orderly state) :
    Outcome.Agrees (DoubleRatchet.chainKeyFor P (received header) draw state)
      (chainKeyFor P header draw state) := by
  have skips : ∀ bound before, Orderly before →
      Orderly (DoubleRatchet.skipMessageKeys P bound before).state :=
    DoubleRatchet.skipMessageKeys_keeps P Orderly fun _ kept => kept.skipOne
  have turn : Outcome.Agrees (DoubleRatchet.turnChain P (received header) draw state)
      (turnChain P header draw state) := by
    have sameTest : DoubleRatchet.ratchetNeeded state (received header) =
        ratchetNeeded (fromBase64 header.dhPublicKey) state := rfl
    rw [DoubleRatchet.turnChain, turnChain, sameTest]
    split
    · rw [received, skipMessageKeys_same _ orderly]
      exact (Outcome.Agrees.refl _).andThen fun _ _ => dhRatchet_agrees _ _ _
    · exact .refl _
  have turnedOrderly : Orderly (turnChain P header draw state).state := by
    rw [← turn.state, DoubleRatchet.turnChain]
    split
    · exact Outcome.andThen_keeps Orderly (skips _ _ orderly)
        fun _ _ => (skips _ _ orderly).dhRatchet _ _
    · exact orderly
  refine turn.andThen fun _ _ => ?_
  rw [received, skipMessageKeys_same _ turnedOrderly]
  exact (Outcome.Agrees.refl _).andThen fun _ _ => takeChainKey_agrees _

theorem skipOne_keeps_slot (slot : SkipKey) (state : State Secret)
    (held : state.MKSKIPPED.get slot ≠ none) :
    (DoubleRatchet.skipOne P state).state.MKSKIPPED.get slot ≠ none := by
  cases chain : state.CKr with
  | none => simpa [DoubleRatchet.skipOne, chain] using held
  | some current =>
      cases known : state.DHr with
      | none => simpa [DoubleRatchet.skipOne, chain, known] using held
      | some remote =>
          simp only [DoubleRatchet.skipOne, chain, known, Outcome.returns_state, OrderedMap.get_set]
          split
          · exact Option.some_ne_none _
          · exact held

theorem decrypt_state (message : EncryptedRatchetMessage) (draw : Bytes) (state : State Secret) :
    (decrypt P message draw state).state = (receiveKey P message.header draw state).state := by
  cases selected : (receiveKey P message.header draw state).result with
  | error error => rw [decrypt, Outcome.andThen_of_error _ selected, Outcome.throws_state]
  | ok messageKey =>
      rw [decrypt, Outcome.andThen_of_ok _ selected]
      cases P.cipherDecrypt messageKey (fromBase64 message.nonce) []
        (fromBase64 message.ciphertext) <;> rfl

-- Every stored slot is named by an encoding, so another text names no slot at all.
theorem unencoded_missing {state : State Secret} (orderly : Orderly state) {text : String}
    (number : JsNumber) (other : toBase64 (fromBase64 text) ≠ text) :
    state.MKSKIPPED.get ⟨text, number⟩ = none := by
  by_contra held
  obtain ⟨key, named⟩ := orderly.encoded _ held
  have text_eq : text = toBase64 key := named
  exact other (by rw [text_eq, fromBase64_toBase64])

theorem receiveKey_agrees {header : MessageHeader} (draw : Bytes) {state : State Secret}
    (orderly : Orderly state)
    (same : toBase64 (fromBase64 header.dhPublicKey) = header.dhPublicKey ∨
      state.MKSKIPPED.get (skipKey (fromBase64 header.dhPublicKey) header.messageNumber) = none) :
    Outcome.Agrees (DoubleRatchet.receiveKey P (received header) draw state)
      (receiveKey P header draw state) := by
  by_cases canonical : toBase64 (fromBase64 header.dhPublicKey) = header.dhPublicKey
  · have slot : SkipKey.mk header.dhPublicKey header.messageNumber =
        skipKey (received header).dhPublicKey (received header).messageNumber := by
      rw [received, skipKey, canonical]
    rw [receiveKey, slot]
    cases found : state.MKSKIPPED.get
        (skipKey (received header).dhPublicKey (received header).messageNumber) with
    | some stored =>
        rw [DoubleRatchet.receiveKey_stored P _ draw state stored found]
        exact .refl _
    | none =>
        rw [DoubleRatchet.receiveKey_missing P _ draw state found]
        exact chainKeyFor_agrees header draw orderly
  · have missing := same.resolve_left canonical
    rw [DoubleRatchet.receiveKey_missing P (received header) draw state missing, receiveKey,
      unencoded_missing orderly header.messageNumber canonical]
    exact chainKeyFor_agrees header draw orderly

theorem step_agrees {operation : Operation Secret} {state : State Secret} (orderly : Orderly state)
    (same : FindsSameSlot state operation) :
    Outcome.Agrees (sessionStep P operation state) (serviceStep P operation state) := by
  cases operation with
  | initAsInitiator => exact .refl _
  | initAsResponder => exact .refl _
  | encrypt plaintext nonce => exact encrypt_agrees plaintext nonce orderly
  | decrypt message draw =>
      refine Outcome.Agrees.andThen ?_ fun _ _ => .refl _
      exact (receiveKey_agrees draw orderly same).andThen fun _ _ => .refl _

/-- The session spends the stored key; the service, going on along its chain,
    leaves it in the store. -/
theorem step_diverges {message : EncryptedRatchetMessage} {draw : Bytes} {state : State Secret}
    (orderly : Orderly state) (other : ¬ FindsSameSlot state (.decrypt message draw)) :
    (sessionStep P (.decrypt message draw) state).state ≠
      (serviceStep P (.decrypt message draw) state).state := by
  obtain ⟨unequal, filled⟩ := not_or.mp other
  have missing := unencoded_missing orderly message.header.messageNumber unequal
  obtain ⟨stored, found⟩ := Option.ne_none_iff_exists'.mp filled
  have spent : (sessionStep P (.decrypt message draw) state).state.MKSKIPPED.get
      (skipKey (fromBase64 message.header.dhPublicKey) message.header.messageNumber) = none := by
    rw [sessionStep, Outcome.andThen_returns_state, DoubleRatchet.decrypt_state,
      DoubleRatchet.receiveKey_stored P (received message.header) draw state stored found]
    exact OrderedMap.get_delete_self _ _
  have kept : (serviceStep P (.decrypt message draw) state).state.MKSKIPPED.get
      (skipKey (fromBase64 message.header.dhPublicKey) message.header.messageNumber) ≠ none := by
    have service : (serviceStep P (.decrypt message draw) state).state =
        (DoubleRatchet.chainKeyFor P (received message.header) draw state).state := by
      rw [serviceStep, Outcome.andThen_returns_state, decrypt_state, receiveKey, missing,
        (chainKeyFor_agrees message.header draw orderly).state]
    rw [service]
    exact DoubleRatchet.chainKeyFor_keeps P (fun after => after.MKSKIPPED.get
      (skipKey (fromBase64 message.header.dhPublicKey) message.header.messageNumber) ≠ none) _ draw
      (skipOne_keeps_slot _) (fun _ held => by rwa [DoubleRatchet.dhRatchet_store])
      (fun _ held => by rwa [DoubleRatchet.takeChainKey_store]) state filled
  intro same
  exact kept (same ▸ spent)

/-- In every run the two ratchets stay in lockstep exactly as long as no header
    names a stored key by another text than its encoding. -/
theorem lockstep_iff (P : Primitives Secret) (past : List (Operation Secret)) :
    Always (Lockstep P) past ↔
      EachInput (fun operation earlier => FindsSameSlot (sessionState P earlier) operation) past := by
  have unordered : EachInput (fun _ _ => True) past := fun _ _ _ => trivial
  refine always_iff_each unordered rfl fun operation earlier _ together => ?_
  have orderly := sessionState_orderly (P := P) earlier
  have sameState : sessionState P earlier = serviceState P earlier := by
    cases earlier with
    | nil => rfl
    | cons last before => exact together.state
  rw [Lockstep, ← sameState]
  constructor
  · intro agrees
    by_contra other
    cases operation with
    | decrypt message draw => exact step_diverges orderly other agrees.state
    | _ => exact other trivial
  · exact step_agrees orderly

end Agreement

/-! Of two letters the second arrives first, and the first one's header lost the
padding of its key on the way. The session opens it and the service does not. -/

def remoteStart : State Bytes :=
  (DoubleRatchet.initAsInitiator DoubleRatchet.framedPrimitives [9] (List.replicate 32 2)
    (List.replicate 32 5) DoubleRatchet.newState).state

def letter (plaintext : Bytes) (sender : State Bytes) : Option EncryptedRatchetMessage :=
  (DoubleRatchet.encrypt DoubleRatchet.framedPrimitives plaintext [] (List.replicate 12 1)
    sender).result.toOption.map written

def remoteNext : State Bytes :=
  (DoubleRatchet.encrypt DoubleRatchet.framedPrimitives [104, 105] [] (List.replicate 12 1)
    remoteStart).state

def unpadded (message : EncryptedRatchetMessage) : EncryptedRatchetMessage :=
  { message with header := { message.header with
      dhPublicKey := String.ofList (message.header.dhPublicKey.toList.filter (· ≠ '=')) } }

def lateLetter : Operation Bytes :=
  .decrypt (unpadded ((letter [104, 105] remoteStart).get (by decide +kernel))) []

def earlyLetter : List (Operation Bytes) :=
  [.decrypt ((letter [111] remoteNext).get (by decide +kernel)) (List.replicate 32 7),
    .initAsResponder [9] ⟨List.replicate 32 2, List.replicate 32 2⟩]

theorem unpadded_key_diverges :
    (sessionStep DoubleRatchet.framedPrimitives lateLetter
      (sessionState DoubleRatchet.framedPrimitives earlyLetter)).result =
        .ok (.opened [104, 105]) ∧
    (serviceStep DoubleRatchet.framedPrimitives lateLetter
      (serviceState DoubleRatchet.framedPrimitives earlyLetter)).result = .error .badTag ∧
    ¬ Lockstep DoubleRatchet.framedPrimitives (lateLetter :: earlyLetter) := by
  have apart : (sessionStep DoubleRatchet.framedPrimitives lateLetter
      (sessionState DoubleRatchet.framedPrimitives earlyLetter)).result =
        .ok (.opened [104, 105]) ∧
      (serviceStep DoubleRatchet.framedPrimitives lateLetter
        (serviceState DoubleRatchet.framedPrimitives earlyLetter)).result = .error .badTag := by
    decide +kernel
  obtain ⟨opens, refused⟩ := apart
  refine ⟨opens, refused, fun together => ?_⟩
  have result := together.result
  rw [opens, refused] at result
  cases result

end Chainmail.DoubleRatchetService
