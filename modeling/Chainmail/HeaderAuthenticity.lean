import Chainmail.RatchetAtomicity
import Chainmail.RatchetReplay
import Chainmail.RatchetDelivery

/-!
What the tag of a message says about its header. The cipher authenticates the
associated data of the caller and not the header, so a header is checked only
through the key it leads to: any other header that leads there opens the message.
-/

namespace Chainmail.DoubleRatchet

variable {Secret : Type} (P : Primitives Secret)

/-- The session, followed as far as `header` counts, arrives at the chain key `chain`. -/
inductive LeadsTo (header : MessageHeader) (draw : Bytes) (state : State Secret)
    (chain : Secret) : Prop
  | stored
      (held : state.MKSKIPPED.get (skipKey header.dhPublicKey header.messageNumber) =
        some (kdfCK P chain).messageKey)
  | current (receiving : Secret)
      (missing : state.MKSKIPPED.get (skipKey header.dhPublicKey header.messageNumber) = none)
      (known : state.DHr = some header.dhPublicKey)
      (near : Near state.Nr header.messageNumber) (held : state.CKr = some receiving)
      (arrives : advance P (JsNumber.turns state.Nr header.messageNumber) receiving = chain)
  | opened (root shared1 shared2 : Secret)
      (missing : state.MKSKIPPED.get (skipKey header.dhPublicKey header.messageNumber) = none)
      (unknown : state.DHr ≠ some header.dhPublicKey)
      (runs : SkipRuns state header.previousCounter) (near : Near 0 header.messageNumber)
      (able : CanTurn P header.dhPublicKey draw root shared1 shared2 state)
      (arrives : advance P (JsNumber.turns 0 header.messageNumber)
        (kdfRK P root shared1).chainKey = chain)

/-- `altered` leads to the message that was sent with `header`, as far as the two
    headers and the counters of the session tell. -/
inductive ReadsAlike (altered header : MessageHeader) (state : State Secret) : Prop
  | stored
      (filled : state.MKSKIPPED.get (skipKey header.dhPublicKey header.messageNumber) ≠ none)
      (sameKey : altered.dhPublicKey = header.dhPublicKey)
      (sameNumber : altered.messageNumber = header.messageNumber)
  | current (known : state.DHr = some header.dhPublicKey)
      (sameKey : altered.dhPublicKey = header.dhPublicKey)
      (counted : .ofNat (state.Nr + JsNumber.turns state.Nr altered.messageNumber) =
        header.messageNumber)
  | opened (pair : KeyPair) (root shared expected : Secret) (held : state.DHs = some pair)
      (rooted : state.RK = some root)
      (agreed : P.getSharedSecret pair.privateKey altered.dhPublicKey = some shared)
      (meant : P.getSharedSecret pair.privateKey header.dhPublicKey = some expected)
      (sameChain : (kdfRK P root shared).chainKey = (kdfRK P root expected).chainKey)
      (counted : .ofNat (JsNumber.turns 0 altered.messageNumber) = header.messageNumber)

section Leading
variable {P}

theorem receiveKey_leadsTo (free : FreeKdf P) (header : MessageHeader) (draw : Bytes)
    (state : State Secret) (chain : Secret) :
    (receiveKey P header draw state).result = .ok (kdfCK P chain).messageKey ↔
      LeadsTo P header draw state chain := by
  -- A message key determines the chain key that it comes from, so a key is compared by its chain.
  have sameChain : ∀ steps start, messageKeyAt P start steps = (kdfCK P chain).messageKey ↔
      advance P steps start = chain :=
    fun steps start => ⟨fun same => free.messageKey_inj _ _ same, fun same => by
      rw [messageKeyAt, same]⟩
  -- As in the source: a stored key first, then the current chain, then a turn of the ratchet.
  cases found : state.MKSKIPPED.get (skipKey header.dhPublicKey header.messageNumber) with
  | some stored =>
      rw [receiveKey_stored P header draw state stored found, Outcome.returns_result,
        Except.ok.injEq]
      constructor
      · rintro rfl
        exact .stored found
      · rintro (held | ⟨_, missing, _⟩ | ⟨_, _, _, missing, _⟩)
        · exact Option.some.inj (found.symm.trans held)
        · exact absurd (found.symm.trans missing) (Option.some_ne_none _)
        · exact absurd (found.symm.trans missing) (Option.some_ne_none _)
  | none =>
      have unstored {key : Secret}
          (held : state.MKSKIPPED.get (skipKey header.dhPublicKey header.messageNumber) =
            some key) : False := absurd (held.symm.trans found) (Option.some_ne_none _)
      rw [receiveKey_missing P header draw state found]
      cases needed : ratchetNeeded state header with
      | false =>
          have known := ratchetNeeded_false needed
          simp only [settled_key_iff P header draw state _ needed, sameChain]
          constructor
          · rintro ⟨near, receiving, held, arrives⟩
            exact .current receiving found known near held arrives
          · rintro (held | ⟨receiving, _, _, near, held, arrives⟩ | ⟨_, _, _, _, unknown, _⟩)
            · exact (unstored held).elim
            · exact ⟨near, receiving, held, arrives⟩
            · exact absurd known unknown
      | true =>
          have unknown := ratchetNeeded_true needed
          simp only [turning_key_iff P header draw state _ needed, sameChain]
          constructor
          · rintro ⟨runs, near, root, shared1, shared2, able, arrives⟩
            exact .opened root shared1 shared2 found unknown runs near able arrives
          · rintro (held | ⟨_, _, known, _⟩ | ⟨root, shared1, shared2, _, _, runs, near, able, arrives⟩)
            · exact (unstored held).elim
            · exact absurd known unknown
            · exact ⟨runs, near, root, shared1, shared2, able, arrives⟩

/-- An honest ciphertext opens under exactly the headers that lead to its key. -/
theorem decrypt_leadsTo (roundTrips : CipherRoundTrips P) (commits : CipherCommits P)
    (free : FreeKdf P) (header : MessageHeader) (draw : Bytes) (state : State Secret)
    (chain : Secret) (nonce associatedData plaintext opened : Bytes) (sized : nonce.length = 12) :
    (decrypt P header (toBase64 nonce) (toBase64 (P.cipherEncrypt
      (kdfCK P chain).messageKey nonce associatedData plaintext)) associatedData draw state).result =
        .ok opened ↔ LeadsTo P header draw state chain ∧ opened = plaintext := by
  rw [← receiveKey_leadsTo free]
  simp only [decrypt, Outcome.andThen_ok_iff, fromBase64_toBase64]
  constructor
  · rintro ⟨messageKey, selected, returned⟩
    cases text : P.cipherDecrypt messageKey nonce associatedData
        (P.cipherEncrypt (kdfCK P chain).messageKey nonce associatedData plaintext) with
    | none => simp [text] at returned
    | some plain =>
        obtain rfl := commits _ _ _ _ _ _ _ _ text
        rw [roundTrips _ _ _ _ sized] at returned
        exact ⟨selected, (Except.ok.inj returned).symm⟩
  · rintro ⟨selected, rfl⟩
    exact ⟨_, selected, by rw [roundTrips _ _ _ _ sized]; rfl⟩

end Leading

section Runs
variable {P} {epochs : Epochs Secret} {top level epoch number : Nat} {generated : List Bytes}
  {state : State Secret}

/-- Where a session that follows the schedule keeps the key of a message it awaits. -/
inductive Located (P : Primitives Secret) (epochs : Epochs Secret) (level : Nat)
    (state : State Secret) (epoch number : Nat) : Prop
  | held (covers : Covers P epochs state.MKSKIPPED epoch number)
  | current (remote : state.DHr = some (epochs.pair epoch).publicKey)
      (receiving : state.CKr = some (advance P state.Nr (epochs.chain epoch)))
      (ahead : state.Nr ≤ number)
  | ahead (shared : Secret) (pair : state.DHs = some (epochs.pair level))
      (root : state.RK = some (epochs.root level))
      (agreed : P.getSharedSecret (epochs.pair level).privateKey (epochs.pair epoch).publicKey =
        some shared)
      (chain : epochs.chain epoch = (kdfRK P (epochs.root level) shared).chainKey)

theorem carried_located {writer : Nat} {message : Message}
    (wired : Wired P epochs (max level writer) generated)
    (close : writer ≤ level + 1) (follows : Follows P epochs level state)
    (carried : Carried P epochs level writer state message epoch number) :
    Located P epochs level state epoch number := by
  have written := carried.written
  have parity := carried.parity
  have sent := carried.sent
  by_cases opening : epoch = level + 1
  · subst opening
    obtain ⟨shared, agreed, _, chain⟩ := wired.agreed level (by omega)
    exact .ahead shared follows.pair follows.root agreed chain
  · by_cases current : epoch + 1 = level
    · subst current
      by_cases passed : number < state.Nr
      · exact .held (carried.awaits (Nat.lt_succ_self epoch) fun _ => passed)
      · have started : epoch ≠ 0 := by
          rintro rfl
          rw [wired.silent] at sent
          exact absurd sent (Nat.not_lt_zero number)
        obtain ⟨before, rfl⟩ := Nat.exists_eq_succ_of_ne_zero started
        exact .current follows.remote follows.receiving (by omega)
    · exact .held (carried.awaits (by omega) fun same => absurd same current)

theorem advance_start_inj (free : FreeKdf P) {start : Secret}
    (rooted : ∃ steps root shared, start = advance P steps (kdfRK P root shared).chainKey)
    {m n : Nat} (same : advance P m start = advance P n start) : m = n := by
  obtain ⟨steps, root, shared, rfl⟩ := rooted
  rw [advance_add, advance_add] at same
  exact Nat.add_right_cancel (rootChains_meet free _ _ same).1

theorem stored_not_ahead {used : List Secret} (unspent : Unspent P used state) {slot : SkipKey}
    {receiving : Secret} (held : state.CKr = some receiving) (steps : Nat) :
    state.MKSKIPPED.get slot ≠ some (messageKeyAt P receiving steps) :=
  fun found => unspent.chainAhead receiving held steps
    (List.mem_append_right _ (List.mem_map.mpr
      ⟨_, (OrderedMap.get_iff_mem _ _ _).mp found, rfl⟩))

theorem stored_not_rooted {used : List Secret} (unspent : Unspent P used state) {slot : SkipKey}
    {root : Secret} (rooted : state.RK = some root) (shared : Secret) (steps : Nat) :
    state.MKSKIPPED.get slot ≠ some (messageKeyAt P (kdfRK P root shared).chainKey steps) :=
  fun found => unspent.rootAhead root rooted root .refl shared steps
    (List.mem_append_right _ (List.mem_map.mpr
      ⟨_, (OrderedMap.get_iff_mem _ _ _).mp found, rfl⟩))

/-- A header that leads to a message the session awaits reads like the header
    of that message. -/
theorem leadsTo_readsAlike (free : FreeKdf P) {used : List Secret} (unspent : Unspent P used state)
    (located : Located P epochs level state epoch number) {altered : MessageHeader} {draw : Bytes}
    (leads : LeadsTo P altered draw state (advance P number (epochs.chain epoch))) :
    ReadsAlike P altered (epochs.header epoch number) state := by
  have storeDistinct : state.MKSKIPPED.values.Nodup := (List.nodup_append'.mp unspent.distinct).2.1
  -- Where the message is awaited, against where the altered header looks for a key. Only equal
  -- places can meet: no key of one place is a key of another.
  cases located with
  | held covers =>
      cases leads with
      | stored held =>
          have sameSlot := OrderedMap.key_of_distinct_values storeDistinct held covers
          obtain ⟨sameKey, sameNumber⟩ := (skipKey_inj _ _ _ _).mp sameSlot
          refine .stored ?_ sameKey sameNumber
          show state.MKSKIPPED.get (epochs.slot epoch number) ≠ none
          rw [covers]
          exact Option.some_ne_none _
      | current receiving _ _ _ held arrives =>
          have covered : state.MKSKIPPED.get (epochs.slot epoch number) = some (messageKeyAt P
              receiving (JsNumber.turns state.Nr altered.messageNumber)) := by
            rw [messageKeyAt, arrives]
            exact covers
          exact absurd covered (stored_not_ahead unspent held _)
      | opened root shared1 _ _ _ _ _ able arrives =>
          have covered : state.MKSKIPPED.get (epochs.slot epoch number) = some (messageKeyAt P
              (kdfRK P root shared1).chainKey (JsNumber.turns 0 altered.messageNumber)) := by
            rw [messageKeyAt, arrives]
            exact covers
          exact absurd covered (stored_not_rooted unspent able.rooted _ _)
  | current remote receiving ahead =>
      have reached : advance P number (epochs.chain epoch) =
          advance P (number - state.Nr) (advance P state.Nr (epochs.chain epoch)) := by
        rw [advance_add, Nat.sub_add_cancel ahead]
      rw [reached] at leads
      cases leads with
      | stored held => exact absurd held (stored_not_ahead unspent receiving _)
      | current again _ known _ held arrives =>
          obtain rfl := Option.some.inj (receiving.symm.trans held)
          have counted := advance_start_inj free (unspent.rooted _ receiving) arrives
          refine .current remote (Option.some.inj (known.symm.trans remote)) ?_
          rw [counted, Nat.add_sub_cancel' ahead]
          rfl
      | opened root shared1 _ _ _ _ _ able arrives =>
          exact absurd arrives (unspent.apart root able.rooted root .refl _ receiving shared1 _ _)
  | ahead shared pair root agreed chain =>
      rw [chain] at leads
      cases leads with
      | stored held => exact absurd held (stored_not_rooted unspent root shared number)
      | current receiving _ _ _ held arrives =>
          exact absurd arrives.symm
            (unspent.apart _ root _ .refl receiving held shared number _)
      | opened again shared1 _ _ _ _ _ able arrives =>
          obtain ⟨⟨ours, held, agreedNow⟩, rooted, _⟩ := able
          obtain rfl := Option.some.inj (pair.symm.trans held)
          obtain rfl := Option.some.inj (root.symm.trans rooted)
          obtain ⟨counted, sameChain⟩ := rootChains_meet free _ _ arrives
          refine .opened _ _ shared1 shared pair root agreedNow agreed sameChain ?_
          rw [counted]
          rfl

theorem paired_unspent {net : Network Secret} (start : Paired P net) (party : Party) :
    ∃ used, Unspent P used (net.session party) := by
  obtain ⟨sharedSecret, ourKeyPair, draw, _⟩ := start
  cases party with
  | initiator => exact ⟨[], started_unspent (.initiator sharedSecret ourKeyPair.publicKey draw)⟩
  | responder => exact ⟨[], started_unspent (.responder sharedSecret ourKeyPair)⟩

theorem step_unspent (free : FreeKdf P) (before after : Network Secret) (step : Step P before after)
    (unspent : ∀ party, ∃ used, Unspent P used (before.session party)) (party : Party) :
    ∃ used, Unspent P used (after.session party) := by
  cases step with
  | send sender plaintext associatedData nonce _ =>
      by_cases same : party = sender
      · subst same
        obtain ⟨used, kept⟩ := unspent party
        exact ⟨used, by simpa [Network.send] using kept.encrypt plaintext associatedData nonce⟩
      · simpa [Network.send, same] using unspent party
  | lose => exact unspent party
  | deliver _ _ message draw _ _ _ =>
      by_cases same : party = message.recipient
      · subst same
        obtain ⟨used, kept⟩ := unspent message.recipient
        have received := kept.receiveKey free message.sent.header draw
        refine ⟨(handedKey P message.sent.header draw
          (before.session message.recipient)).toList ++ used, ?_⟩
        simpa [Network.deliver, decrypt_state] using received
      · simpa [Network.deliver, same] using unspent party

theorem encrypt_sealed {sender after : State Secret} {chain : Secret} {sent : Encrypted}
    {plaintext associatedData nonce : Bytes} (held : sender.CKs = some chain)
    (sends : encrypt P plaintext associatedData nonce sender = .returns after sent) :
    sent.nonce = toBase64 nonce ∧ sent.ciphertext =
      toBase64 (P.cipherEncrypt (kdfCK P chain).messageKey nonce associatedData plaintext) := by
  cases pair : sender.DHs with
  | none =>
      have result := congrArg Outcome.result sends
      simp [encrypt, held, pair] at result
  | some ours =>
      have result := congrArg Outcome.result sends
      simp only [encrypt, held, pair, Outcome.returns_result, Except.ok.injEq] at result
      rw [← result]
      exact ⟨rfl, rfl⟩

/-- Whatever the two states, a message opens under the headers that lead to its
    key and under no other. While two sessions exchange each other's messages,
    such a header names the chain and the number of the message it opens. -/
theorem altered_header_opens (commutes : X25519Commutes P) (roundTrips : CipherRoundTrips P)
    (commits : CipherCommits P) (free : FreeKdf P) :
    (∀ (sender after receiver : State Secret) (chain : Secret) (sent : Encrypted)
      (plaintext associatedData nonce : Bytes), nonce.length = 12 → sender.CKs = some chain →
      encrypt P plaintext associatedData nonce sender = .returns after sent →
      ∀ (altered : MessageHeader) (draw opened : Bytes),
        (decrypt P altered sent.nonce sent.ciphertext associatedData draw receiver).result =
          .ok opened ↔ LeadsTo P altered draw receiver chain ∧ opened = plaintext) ∧
    (∀ net : Network Secret, Reachable (Paired P) (Step P) net → ∀ message ∈ net.inFlight,
      ∀ (altered : MessageHeader) (draw opened : Bytes),
        (decrypt P altered message.sent.nonce message.sent.ciphertext message.associatedData draw
          (net.session message.recipient)).result = .ok opened →
        ReadsAlike P altered message.sent.header (net.session message.recipient)) := by
  constructor
  · intro sender after receiver chain sent plaintext associatedData nonce sized held sends altered
      draw opened
    obtain ⟨sentNonce, sentText⟩ := encrypt_sealed held sends
    rw [sentNonce, sentText]
    exact decrypt_leadsTo roundTrips commits free altered draw receiver chain nonce associatedData
      plaintext opened sized
  · intro net reached message member altered draw opened opens
    -- Both invariants are taken over the whole run: where the parties stand, and what is unspent.
    obtain ⟨epochs, level, synchronised⟩ : ∃ epochs level, Synchronised P epochs level net :=
      reached.invariant (fun _ start => synchronised_paired commutes start)
        fun before after kept step => step_synchronised commutes roundTrips before after step kept
    have unspent : ∀ party, ∃ used, Unspent P used (net.session party) :=
      reached.invariant (fun _ start => paired_unspent start)
        fun before after kept step => step_unspent free before after step kept
    obtain ⟨epoch, number, carried⟩ := synchronised.carried message member
    obtain ⟨used, spare⟩ := unspent message.recipient
    have located := carried_located (synchronised.wired message.recipient)
      (synchronised.level_le message.recipient).1 (synchronised.follows message.recipient) carried
    obtain ⟨nonce, sized, sentNonce, sentText⟩ := carried.sealed
    rw [sentNonce, sentText] at opens
    have leads := ((decrypt_leadsTo roundTrips commits free altered draw _ _ nonce _ _ opened
      sized).mp opens).1
    rw [carried.header]
    exact leadsTo_readsAlike free spare located leads

end Runs

/-! The first letter has arrived. The second one opens under a header that
repeats the number of the first and counts a previous chain that never was. -/

def firstArrived : Network Bytes :=
  twoInFlight.deliver framedPrimitives firstLetter (List.replicate 32 7) [secondLetter]

def misnumbered : MessageHeader :=
  { secondLetter.sent.header with previousCounter := .ofNat 5, messageNumber := .ofNat 0 }

theorem firstArrived_reachable :
    Reachable (Paired framedPrimitives) (Step framedPrimitives) firstArrived := by
  have sent : Reachable (Paired framedPrimitives) (Step framedPrimitives) twoInFlight :=
    .next (.next (.start (.setup [9] _ _ rfl rfl rfl (by decide)))
      (.send _ .initiator [104, 105] [] letterNonce rfl)) (.send _ .initiator [111] [] letterNonce rfl)
  refine .next sent (.deliver twoInFlight [] [secondLetter] firstLetter
    (List.replicate 32 7) rfl ?_ ?_)
  · intro _
    show Near _ _ ∧ Near _ _
    decide +kernel
  · decide +kernel

theorem misnumbered_decrypted :
    (decrypt framedPrimitives misnumbered secondLetter.sent.nonce secondLetter.sent.ciphertext
      secondLetter.associatedData [] (firstArrived.session secondLetter.recipient)).result =
        .ok secondLetter.plaintext := by
  decide +kernel

theorem misnumbered_opens :
    Reachable (Paired framedPrimitives) (Step framedPrimitives) firstArrived ∧
    secondLetter ∈ firstArrived.inFlight ∧
    misnumbered.previousCounter ≠ secondLetter.sent.header.previousCounter ∧
    misnumbered.messageNumber ≠ secondLetter.sent.header.messageNumber ∧
    (decrypt framedPrimitives misnumbered secondLetter.sent.nonce secondLetter.sent.ciphertext
      secondLetter.associatedData [] (firstArrived.session secondLetter.recipient)).result =
        .ok secondLetter.plaintext :=
  ⟨firstArrived_reachable, List.mem_cons_self, by decide +kernel, by decide +kernel,
    misnumbered_decrypted⟩

def afterOne : State Bytes :=
  (encrypt framedPrimitives [104, 105] [] letterNonce
    ((Network.paired framedPrimitives [9] ⟨List.replicate 32 2, List.replicate 32 2⟩
      (List.replicate 32 5)).session .initiator)).state

def secondChain : Bytes := afterOne.CKs.get (by decide +kernel)

theorem misnumbered_reads_alike :
    LeadsTo framedPrimitives misnumbered [] (firstArrived.session .responder) secondChain ∧
    ReadsAlike framedPrimitives misnumbered secondLetter.sent.header
      (firstArrived.session secondLetter.recipient) := by
  obtain ⟨anywhere, exchanged⟩ :=
    altered_header_opens framed_commutes framed_roundtrips framed_commits framed_free
  constructor
  · exact ((anywhere afterOne _ (firstArrived.session .responder) secondChain secondLetter.sent
      [111] [] letterNonce rfl (Option.some_get _).symm rfl misnumbered [] secondLetter.plaintext).mp
      misnumbered_decrypted).1
  · exact exchanged firstArrived firstArrived_reachable secondLetter List.mem_cons_self misnumbered []
      secondLetter.plaintext misnumbered_decrypted

end Chainmail.DoubleRatchet
