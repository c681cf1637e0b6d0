import Chainmail.RatchetLockstep
import Chainmail.SessionJson

/-!
Sessions that are stored and restored at any moment of a run, of either ratchet.
A run keeps them restorable as long as it puts no empty key into them: into the
remote key by a call or by the header of a letter, or into the root key.
-/

namespace Chainmail.SessionManager

open DoubleRatchet (Primitives Thrown KeyPair MessageHeader Call SkipKey State skipKey
  kdfRK kdfCK Near newState)
open DoubleRatchetService (Orderly received serviceStep serviceState)

inductive Operation where
  | initAsInitiator (sharedSecret remotePublicKey draw : Bytes)
  | initAsResponder (sharedSecret : Bytes) (ourKeyPair : KeyPair)
  | encrypt (plaintext associatedData nonce : Bytes)
  | decrypt (header : MessageHeader) (nonceB64 ciphertextB64 : String)
      (associatedData draw : Bytes)

inductive Answer where
  | ready
  | sealed (message : DoubleRatchet.Encrypted)
  | opened (plaintext : Bytes)
deriving DecidableEq

def operate (P : Primitives Bytes) (operation : Operation) (state : State Bytes) :
    Call Bytes Answer :=
  match operation with
  | .initAsInitiator sharedSecret remotePublicKey draw =>
      (DoubleRatchet.initAsInitiator P sharedSecret remotePublicKey draw state).andThen
        fun _ state => .returns state .ready
  | .initAsResponder sharedSecret ourKeyPair =>
      (DoubleRatchet.initAsResponder sharedSecret ourKeyPair state).andThen
        fun _ state => .returns state .ready
  | .encrypt plaintext associatedData nonce =>
      (DoubleRatchet.encrypt P plaintext associatedData nonce state).andThen
        fun message state => .returns state (.sealed message)
  | .decrypt header nonceB64 ciphertextB64 associatedData draw =>
      (DoubleRatchet.decrypt P header nonceB64 ciphertextB64 associatedData draw state).andThen
        fun plaintext state => .returns state (.opened plaintext)

def stateAfter (P : Primitives Bytes) (past : List Operation) : State Bytes :=
  past.foldr (fun operation state => (operate P operation state).state) newState

section Survival
variable {Input Reply : Type} (step : Input → State Bytes → Call Bytes Reply)

/-- The results of a sequence of calls, the first one first. -/
def answers : List Input → State Bytes → List (Except Thrown Reply)
  | [], _ => []
  | input :: later, state => (step input state).result :: answers later (step input state).state

/-- The state comes back from storage as it was, and no later call can tell. -/
def Survives (state : State Bytes) : Prop :=
  ∃ restored, restore state = some restored ∧ restored = state ∧
    ∀ later, answers step later restored = answers step later state

variable {step}

theorem Survives.filled {state : State Bytes} (survives : Survives step state) : Filled state := by
  obtain ⟨_, back, rfl, _⟩ := survives
  exact filled_of_restore back

theorem Survives.of_filled {state : State Bytes} (keyed : Keyed state.MKSKIPPED)
    (filled : Filled state) : Survives step state :=
  ⟨state, restore_of_filled keyed filled, rfl, fun _ => rfl⟩

end Survival

/-- The packages' HKDF yields as many bytes as it is asked for. -/
structure HkdfLength (P : Primitives Bytes) : Prop where
  one : ∀ ikm salt info, (P.hkdf ikm salt info).length = 32
  both : ∀ ikm salt info,
    (P.hkdf64 ikm salt info).1.length = 32 ∧ (P.hkdf64 ikm salt info).2.length = 32

/-- The header has a key, or is refused before that key is written. -/
def NamesKey (header : MessageHeader) (state : State Bytes) : Prop :=
  header.dhPublicKey = [] → ¬ Near state.Nr header.previousCounter

/-- What is handed to the operation is not empty where the session keeps it. -/
def Supplied (operation : Operation) (state : State Bytes) : Prop :=
  match operation with
  | .initAsInitiator _ remotePublicKey _ => remotePublicKey ≠ []
  | .initAsResponder sharedSecret _ => sharedSecret ≠ []
  | .encrypt _ _ _ => True
  | .decrypt header _ _ _ _ => NamesKey header state

/-- `Supplied`, of the operations of the service. -/
def ServiceSupplied (operation : DoubleRatchetService.Operation Bytes) (state : State Bytes) : Prop :=
  match operation with
  | .initAsInitiator _ remotePublicKey _ => remotePublicKey ≠ []
  | .initAsResponder sharedSecret _ => sharedSecret ≠ []
  | .encrypt _ _ => True
  | .decrypt message _ => NamesKey (received message.header) state

/-- What a run that was supplied at every step has made of its session. -/
structure Sound (state : State Bytes) : Prop where
  orderly : Orderly state
  filled : Filled state
  named : ∀ slot, state.MKSKIPPED.get slot ≠ none →
    ∃ remote number, remote ≠ [] ∧ slot = skipKey remote (.ofNat number)

theorem Sound.keyed {state : State Bytes} (sound : Sound state) : Keyed state.MKSKIPPED := by
  intro slot held
  obtain ⟨remote, number, _, same⟩ := sound.named slot held
  exact ⟨remote, number, same⟩

theorem newState_sound : Sound newState where
  orderly := DoubleRatchetService.sessionState_orderly (P := DoubleRatchet.framedPrimitives) []
  filled := ⟨nofun, nofun, nofun, nofun⟩
  named _ held := absurd rfl held

section Writes
variable {P : Primitives Bytes} {state : State Bytes}

theorem filled_of_length {bytes : Bytes} (length : bytes.length = 32) : some bytes ≠ some [] := by
  rintro ⟨⟩
  cases length

theorem chainKey_filled (kdf : HkdfLength P) (chainKey : Bytes) :
    some (kdfCK P chainKey).chainKey ≠ some [] :=
  filled_of_length (kdf.one chainKey none DoubleRatchet.INFO_CHAIN_KEY)

theorem rootStep_filled (kdf : HkdfLength P) (root shared : Bytes) :
    some (kdfRK P root shared).rootKey ≠ some [] ∧
      some (kdfRK P root shared).chainKey ≠ some [] := by
  obtain ⟨first, second⟩ := kdf.both shared (some root) DoubleRatchet.INFO_ROOT_KEY
  exact ⟨filled_of_length first, filled_of_length second⟩

theorem Sound.skipOne (kdf : HkdfLength P) (sound : Sound state) :
    Sound (DoubleRatchet.skipOne P state).state := by
  refine ⟨sound.orderly.skipOne, ?_, ?_⟩
  · obtain ⟨remote, root, sending, receiving⟩ := sound.filled
    cases chain : state.CKr with
    | none => simpa [DoubleRatchet.skipOne, chain] using sound.filled
    | some current =>
        have filled := chainKey_filled kdf current
        cases known : state.DHr <;> rw [known] at remote <;>
          simp only [DoubleRatchet.skipOne, chain, known] <;>
          exact ⟨remote, root, sending, filled⟩
  · cases chain : state.CKr with
    | none => simpa [DoubleRatchet.skipOne, chain] using sound.named
    | some current =>
        cases known : state.DHr with
        | none => simpa [DoubleRatchet.skipOne, chain, known] using sound.named
        | some remote =>
            intro slot held
            simp only [DoubleRatchet.skipOne, chain, known, Outcome.returns_state,
              OrderedMap.get_set] at held
            split at held
            · rename_i same
              exact ⟨remote, state.Nr, fun empty => sound.filled.remote (by rw [known, empty]), same⟩
            · exact sound.named slot held

theorem Sound.dhRatchet (kdf : HkdfLength P) (sound : Sound state) {theirs : Bytes}
    (key : theirs ≠ []) (draw : Bytes) :
    Sound (DoubleRatchet.dhRatchet P theirs draw state).state := by
  have orderly := sound.orderly.dhRatchet (P := P) theirs draw
  have remote : some theirs ≠ some [] := by simpa using key
  rcases DoubleRatchet.dhRatchet_cases P theirs draw state with
    ⟨root, shared1, shared2, _, equal⟩ | ⟨error, equal⟩ | ⟨root, shared1, _, equal⟩
  · rw [equal] at orderly ⊢
    have first := rootStep_filled kdf root shared1
    have second := rootStep_filled kdf (kdfRK P root shared1).rootKey shared2
    exact ⟨orderly, ⟨remote, second.1, second.2, first.2⟩, sound.named⟩
  · rw [equal] at orderly ⊢
    exact ⟨orderly, ⟨remote, sound.filled.root, sound.filled.sending, sound.filled.receiving⟩,
      sound.named⟩
  · rw [equal] at orderly ⊢
    have first := rootStep_filled kdf root shared1
    exact ⟨orderly, ⟨remote, first.1, sound.filled.sending, first.2⟩, sound.named⟩

theorem Sound.takeChainKey (kdf : HkdfLength P) (sound : Sound state) :
    Sound (DoubleRatchet.takeChainKey P state).state := by
  have orderly := sound.orderly.takeChainKey (P := P)
  cases chain : state.CKr with
  | none => simpa [DoubleRatchet.takeChainKey, chain] using sound
  | some current =>
      rw [DoubleRatchet.takeChainKey_eq P state current chain] at orderly ⊢
      exact ⟨orderly, ⟨sound.filled.remote, sound.filled.root, sound.filled.sending,
        chainKey_filled kdf current⟩, sound.named⟩

theorem Sound.delete (sound : Sound state) (slot : SkipKey) :
    Sound { state with MKSKIPPED := state.MKSKIPPED.delete slot } where
  orderly := sound.orderly.delete slot
  filled := ⟨sound.filled.remote, sound.filled.root, sound.filled.sending, sound.filled.receiving⟩
  named other held := by
    rw [OrderedMap.get_delete] at held
    split at held
    · exact absurd rfl held
    · exact sound.named other held

end Writes

section Letters
variable {P : Primitives Bytes} {state : State Bytes}

theorem Sound.needed (sound : Sound state) {header : MessageHeader}
    (keyless : header.dhPublicKey = []) : DoubleRatchet.ratchetNeeded state header = true := by
  by_contra settled
  rw [Bool.not_eq_true] at settled
  have known := DoubleRatchet.ratchetNeeded_false settled
  rw [keyless] at known
  exact sound.filled.remote known

/-- A letter on the chain: it leaves the session sound as long as its header names a key. -/
theorem Sound.chainKeyFor (kdf : HkdfLength P) (sound : Sound state) (header : MessageHeader)
    (draw : Bytes) (names : NamesKey header state) :
    Sound (DoubleRatchet.chainKeyFor P header draw state).state := by
  by_cases keyless : header.dhPublicKey = []
  · rw [DoubleRatchet.chainKeyFor_turning P header draw state (sound.needed keyless),
      DoubleRatchet.skipMessageKeys_far P header.previousCounter state (names keyless)]
    exact sound
  · exact DoubleRatchet.chainKeyFor_keeps P Sound header draw (fun _ kept => kept.skipOne kdf)
      (fun _ kept => kept.dhRatchet kdf keyless draw) (fun _ kept => kept.takeChainKey kdf)
      state sound

theorem Sound.namesKey (sound : Sound state) {header : MessageHeader} {draw : Bytes}
    (filled : Filled (DoubleRatchet.chainKeyFor P header draw state).state) :
    NamesKey header state := by
  intro keyless near
  have runs : DoubleRatchet.SkipRuns state header.previousCounter := by
    refine ⟨near, fun chained unknown => ?_⟩
    exact absurd unknown (sound.orderly.attributed (Option.isSome_iff_ne_none.mp chained))
  have written := DoubleRatchet.turning_remote P header draw state (sound.needed keyless) runs
  rw [keyless] at written
  exact filled.remote written

/-- A stored key is looked up under its own encoding, so its header names a key. -/
theorem Sound.namesKey_stored (sound : Sound state) {slot : SkipKey} {header : MessageHeader}
    (held : state.MKSKIPPED.get slot ≠ none)
    (decoded : header.dhPublicKey = fromBase64 slot.dhPublicKey) : NamesKey header state := by
  intro keyless
  obtain ⟨remote, number, key, rfl⟩ := sound.named slot held
  rw [keyless, skipKey, fromBase64_toBase64] at decoded
  exact absurd decoded.symm key

/-- The state after a letter, in which one of a stored key and the chain gave the key. -/
theorem Sound.received (kdf : HkdfLength P) (sound : Sound state) {header : MessageHeader}
    {draw : Bytes} {after : State Bytes}
    (taken : (∃ slot, state.MKSKIPPED.get slot ≠ none ∧
        header.dhPublicKey = fromBase64 slot.dhPublicKey ∧
        after = { state with MKSKIPPED := state.MKSKIPPED.delete slot }) ∨
      after = (DoubleRatchet.chainKeyFor P header draw state).state) :
    (NamesKey header state → Sound after) ∧ (Filled after → NamesKey header state) := by
  rcases taken with ⟨slot, held, decoded, rfl⟩ | rfl
  · exact ⟨fun _ => sound.delete slot, fun _ => sound.namesKey_stored held decoded⟩
  · exact ⟨sound.chainKeyFor kdf header draw, sound.namesKey⟩

theorem session_takes (header : MessageHeader) (nonceB64 ciphertextB64 : String)
    (associatedData draw : Bytes) (state : State Bytes) :
    (∃ slot, state.MKSKIPPED.get slot ≠ none ∧
        header.dhPublicKey = fromBase64 slot.dhPublicKey ∧
        (DoubleRatchet.decrypt P header nonceB64 ciphertextB64 associatedData draw state).state =
          { state with MKSKIPPED := state.MKSKIPPED.delete slot }) ∨
      (DoubleRatchet.decrypt P header nonceB64 ciphertextB64 associatedData draw state).state =
        (DoubleRatchet.chainKeyFor P header draw state).state := by
  rw [DoubleRatchet.decrypt_state]
  cases found : state.MKSKIPPED.get (skipKey header.dhPublicKey header.messageNumber) with
  | some stored =>
      have decoded := (fromBase64_toBase64 header.dhPublicKey).symm
      refine Or.inl ⟨skipKey header.dhPublicKey header.messageNumber, by simp [found], decoded, ?_⟩
      rw [DoubleRatchet.receiveKey_stored P header draw state stored found]
      rfl
  | none =>
      right
      rw [DoubleRatchet.receiveKey_missing P header draw state found]

theorem service_takes (message : DoubleRatchetService.EncryptedRatchetMessage) (draw : Bytes)
    {state : State Bytes} (orderly : Orderly state) :
    (∃ slot, state.MKSKIPPED.get slot ≠ none ∧
        (received message.header).dhPublicKey = fromBase64 slot.dhPublicKey ∧
        (DoubleRatchetService.decrypt P message draw state).state =
          { state with MKSKIPPED := state.MKSKIPPED.delete slot }) ∨
      (DoubleRatchetService.decrypt P message draw state).state =
        (DoubleRatchet.chainKeyFor P (received message.header) draw state).state := by
  rw [DoubleRatchetService.decrypt_state]
  cases found : state.MKSKIPPED.get
      ⟨message.header.dhPublicKey, message.header.messageNumber⟩ with
  | some stored =>
      refine Or.inl ⟨⟨message.header.dhPublicKey, message.header.messageNumber⟩, by simp [found],
        rfl, ?_⟩
      simp [DoubleRatchetService.receiveKey, found]
  | none =>
      right
      rw [(DoubleRatchetService.chainKeyFor_agrees message.header draw orderly).state]
      simp [DoubleRatchetService.receiveKey, found]

end Letters

section Runs
variable {P : Primitives Bytes} {state : State Bytes}

theorem initAsInitiator_remote (sharedSecret remotePublicKey draw : Bytes) (state : State Bytes) :
    (DoubleRatchet.initAsInitiator P sharedSecret remotePublicKey draw state).state.DHr =
      some remotePublicKey := by
  cases agreed : P.getSharedSecret draw remotePublicKey <;>
    simp [DoubleRatchet.initAsInitiator, agreed]

theorem Sound.initAsInitiator (kdf : HkdfLength P) (sound : Sound state)
    (sharedSecret remotePublicKey draw : Bytes) :
    let after := (DoubleRatchet.initAsInitiator P sharedSecret remotePublicKey draw state).state
    (remotePublicKey ≠ [] → Sound after) ∧ (Filled after → remotePublicKey ≠ []) := by
  have orderly := sound.orderly.sessionStep (P := P)
    (.initAsInitiator sharedSecret remotePublicKey draw)
  rw [DoubleRatchetService.sessionStep, Outcome.andThen_returns_state] at orderly
  refine ⟨fun key => ?_, ?_⟩
  · have remote : some remotePublicKey ≠ some [] := by simpa using key
    cases agreed : P.getSharedSecret draw remotePublicKey with
    | none =>
        simp only [DoubleRatchet.initAsInitiator, agreed] at orderly ⊢
        exact ⟨orderly, ⟨remote, sound.filled.root, sound.filled.sending, sound.filled.receiving⟩,
          sound.named⟩
    | some shared =>
        have step := rootStep_filled kdf sharedSecret shared
        simp only [DoubleRatchet.initAsInitiator, agreed] at orderly ⊢
        exact ⟨orderly, ⟨remote, step.1, step.2, (Option.some_ne_none []).symm⟩, sound.named⟩
  · rintro filled rfl
    exact filled.remote (initAsInitiator_remote sharedSecret [] draw state)

theorem Sound.initAsResponder (sound : Sound state) (sharedSecret : Bytes) (ourKeyPair : KeyPair) :
    let after := (DoubleRatchet.initAsResponder sharedSecret ourKeyPair state).state
    (sharedSecret ≠ [] → Sound after) ∧ (Filled after → sharedSecret ≠ []) := by
  refine ⟨fun key => ⟨?_, ?_, sound.named⟩, ?_⟩
  · exact ⟨fun chained => absurd rfl chained, fun sending => absurd rfl sending,
      sound.orderly.encoded⟩
  · exact ⟨nofun, fun empty => key (Option.some.inj empty), nofun, nofun⟩
  · rintro filled rfl
    exact filled.root rfl

theorem Sound.encrypt (kdf : HkdfLength P) (sound : Sound state)
    (plaintext associatedData nonce : Bytes) :
    Sound (DoubleRatchet.encrypt P plaintext associatedData nonce state).state := by
  obtain ⟨⟨attributed, paired, encoded⟩, ⟨remote, root, sending, receiving⟩, named⟩ := sound
  cases chain : state.CKs with
  | none => simpa [DoubleRatchet.encrypt, chain] using
      ⟨⟨attributed, paired, encoded⟩, ⟨remote, root, sending, receiving⟩, named⟩
  | some current =>
      have filled := chainKey_filled kdf current
      cases held : state.DHs with
      | none => exact absurd held (paired (by simp [chain]))
      | some pair =>
          simp only [DoubleRatchet.encrypt, chain, held]
          exact ⟨⟨attributed, fun _ => Option.some_ne_none pair, encoded⟩,
            ⟨remote, root, filled, receiving⟩, named⟩

/-- An operation leaves a sound session sound exactly when it is supplied. -/
theorem Sound.operate (kdf : HkdfLength P) (sound : Sound state) (operation : Operation) :
    let after := (SessionManager.operate P operation state).state
    (Supplied operation state → Sound after) ∧ (Filled after → Supplied operation state) := by
  cases operation with
  | initAsInitiator sharedSecret remotePublicKey draw =>
      rw [SessionManager.operate, Outcome.andThen_returns_state]
      exact sound.initAsInitiator kdf sharedSecret remotePublicKey draw
  | initAsResponder sharedSecret ourKeyPair => exact sound.initAsResponder sharedSecret ourKeyPair
  | encrypt plaintext associatedData nonce =>
      rw [SessionManager.operate, Outcome.andThen_returns_state]
      exact ⟨fun _ => sound.encrypt kdf plaintext associatedData nonce, fun _ => trivial⟩
  | decrypt header nonceB64 ciphertextB64 associatedData draw =>
      rw [SessionManager.operate, Outcome.andThen_returns_state]
      exact sound.received kdf (session_takes header nonceB64 ciphertextB64 associatedData draw state)

theorem Sound.serviceStep (kdf : HkdfLength P) (sound : Sound state)
    (operation : DoubleRatchetService.Operation Bytes) :
    let after := (DoubleRatchetService.serviceStep P operation state).state
    (ServiceSupplied operation state → Sound after) ∧
      (Filled after → ServiceSupplied operation state) := by
  cases operation with
  | initAsInitiator sharedSecret remotePublicKey draw =>
      rw [DoubleRatchetService.serviceStep, Outcome.andThen_returns_state]
      exact sound.initAsInitiator kdf sharedSecret remotePublicKey draw
  | initAsResponder sharedSecret ourKeyPair => exact sound.initAsResponder sharedSecret ourKeyPair
  | encrypt plaintext nonce =>
      rw [← (DoubleRatchetService.encrypt_agrees plaintext nonce sound.orderly).state,
        DoubleRatchetService.sessionStep, Outcome.andThen_returns_state]
      exact ⟨fun _ => sound.encrypt kdf plaintext [] nonce, fun _ => trivial⟩
  | decrypt message draw =>
      rw [DoubleRatchetService.serviceStep, Outcome.andThen_returns_state]
      exact sound.received kdf (service_takes message draw sound.orderly)

theorem encrypt_header {plaintext associatedData nonce : Bytes} {sent : DoubleRatchet.Encrypted}
    (returned : (DoubleRatchet.encrypt P plaintext associatedData nonce state).result = .ok sent) :
    ∃ publicKey, sent.header = ⟨publicKey, .ofNat state.PN, .ofNat state.Ns⟩ := by
  cases chain : state.CKs with
  | none => simp [DoubleRatchet.encrypt, chain] at returned
  | some current =>
      cases held : state.DHs with
      | none => simp [DoubleRatchet.encrypt, chain, held] at returned
      | some pair =>
          simp only [DoubleRatchet.encrypt, chain, held, Outcome.returns_result,
            Except.ok.injEq] at returned
          exact ⟨pair.publicKey, by rw [← returned]⟩

/-- In every run of either ratchet the session survives storage at every moment
    exactly as long as no operation puts an empty key into it, and headers
    survive always. -/
theorem sessions_survive_iff (P : Primitives Bytes) (kdf : HkdfLength P) :
    (∀ past, Always (fun earlier => Survives (operate P) (stateAfter P earlier)) past ↔
      EachInput (fun operation earlier => Supplied operation (stateAfter P earlier)) past) ∧
    (∀ past, Always (fun earlier => Survives (serviceStep P) (serviceState P earlier)) past ↔
      EachInput (fun operation earlier => ServiceSupplied operation (serviceState P earlier)) past) ∧
    (∀ header, deserializeHeader (serializeHeader header) = header) ∧
    ∀ plaintext associatedData nonce state sent,
      (DoubleRatchet.encrypt P plaintext associatedData nonce state).result = .ok sent →
        restoreHeader sent.header = some sent.header := by
  refine ⟨fun past => ?_, fun past => ?_, deserializeHeader_serialize, ?_⟩
  · exact always_foldr_iff newState_sound (fun _ sound => .of_filled sound.keyed sound.filled)
      (fun operation _ sound => (sound.operate kdf operation).1)
      (fun operation _ sound survives => (sound.operate kdf operation).2 survives.filled) past
  · exact always_foldr_iff newState_sound (fun _ sound => .of_filled sound.keyed sound.filled)
      (fun operation _ sound => (sound.serviceStep kdf operation).1)
      (fun operation _ sound survives => (sound.serviceStep kdf operation).2 survives.filled) past
  · intro plaintext associatedData nonce state sent returned
    obtain ⟨publicKey, header⟩ := encrypt_header returned
    rw [header, restoreHeader_eq]

end Runs

section Sample

/-- The framed packages with HKDF cut to length, and a curve that rejects keys of another length. -/
def sizedPrimitives : Primitives Bytes :=
  { DoubleRatchet.framedPrimitives with
    getSharedSecret := fun privateKey publicKey =>
      if publicKey.length = 32 then some (List.zipWith (· + ·) privateKey publicKey) else none
    hkdf := fun ikm _ info =>
      List.takeD 32 ((if info = DoubleRatchet.INFO_CHAIN_KEY then 1 else 2) :: ikm) 0
    hkdf64 := fun ikm salt _ =>
      (List.takeD 32 (3 :: (salt.getD [] ++ ikm)) 0, List.takeD 32 (4 :: (salt.getD [] ++ ikm)) 0) }

theorem sized_kdf : HkdfLength sizedPrimitives where
  one _ _ _ := List.takeD_length _ _ _
  both _ _ _ := ⟨List.takeD_length _ _ _, List.takeD_length _ _ _⟩

def firstKey : Bytes := List.replicate 32 7

/-- A responder receives the third letter of the initiator first and answers it. -/
def outOfOrder : List Operation :=
  [.encrypt [1] [] (List.replicate 12 0),
    .decrypt ⟨firstKey, .ofNat 0, .ofNat 2⟩ "" "" [] (List.replicate 32 9),
    .initAsResponder (List.replicate 32 5) ⟨List.replicate 32 6, List.replicate 32 6⟩]

theorem outOfOrder_survives :
    (stateAfter sizedPrimitives outOfOrder).MKSKIPPED.size = 2 ∧
      Always (fun earlier => Survives (operate sizedPrimitives) (stateAfter sizedPrimitives earlier))
        outOfOrder := by
  refine ⟨by decide +kernel, ((sessions_survive_iff sizedPrimitives sized_kdf).1 outOfOrder).mpr ?_⟩
  simp [outOfOrder, eachInput_cons, eachInput_nil, Supplied, NamesKey, firstKey]

def keylessLetter : Operation := .decrypt ⟨[], .ofNat 0, .ofNat 0⟩ "" "" [] (List.replicate 32 9)

/-- An initiator gets a letter whose header has an empty key. -/
def keylessReceived : List Operation :=
  [keylessLetter, .initAsInitiator (List.replicate 32 5) firstKey (List.replicate 32 6)]

theorem keyless_letter_lost :
    ∃ restored, restore (stateAfter sizedPrimitives keylessReceived) = some restored ∧
      restored.DHr = none ∧ (stateAfter sizedPrimitives keylessReceived).DHr = some [] ∧
      answers (operate sizedPrimitives) [keylessLetter] restored ≠
        answers (operate sizedPrimitives) [keylessLetter]
          (stateAfter sizedPrimitives keylessReceived) := by
  have keyed : Keyed (stateAfter sizedPrimitives keylessReceived).MKSKIPPED := by
    have empty : (stateAfter sizedPrimitives keylessReceived).MKSKIPPED = OrderedMap.empty := rfl
    intro slot held
    exact absurd (by rw [empty]; rfl) held
  refine ⟨_, restore_eq keyed, rfl, rfl, ?_⟩
  decide +kernel

end Sample
end Chainmail.SessionManager
