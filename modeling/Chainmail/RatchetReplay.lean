import Chainmail.RatchetAssumptions

/-!
No message key serves two `decrypt` calls. The invariant says of the keys given
out and the keys in store that they differ from each other, from every key the
receiving chain will still yield, and from every key of a chain that the root
key or any of its descendants can start.
-/

namespace Chainmail.DoubleRatchet

variable {Secret : Type} {P : Primitives Secret}

def Derives (P : Primitives Secret) (root next : Secret) : Prop :=
  ∃ shared, next = (kdfRK P root shared).rootKey

/-- The message keys a session has handed to the cipher or holds for later. -/
def taken (used : List Secret) (state : State Secret) : List Secret :=
  used ++ state.MKSKIPPED.values

structure Unspent (P : Primitives Secret) (used : List Secret) (state : State Secret) : Prop where
  distinct : (taken used state).Nodup
  rooted : ∀ current, state.CKr = some current → ∃ steps root shared,
    current = advance P steps (kdfRK P root shared).chainKey
  chainAhead : ∀ current, state.CKr = some current → ∀ number,
    messageKeyAt P current number ∉ taken used state
  rootAhead : ∀ root, state.RK = some root → ∀ later, Relation.ReflTransGen (Derives P) root later →
    ∀ shared number, messageKeyAt P (kdfRK P later shared).chainKey number ∉ taken used state
  apart : ∀ root, state.RK = some root → ∀ later, Relation.ReflTransGen (Derives P) root later →
    ∀ current, state.CKr = some current → ∀ shared m n,
      advance P m (kdfRK P later shared).chainKey ≠ advance P n current

-- Chains that a root key starts meet only where they are one chain, at one number.
theorem rootChains_meet (free : FreeKdf P) {r s d e : Secret} (m n : Nat)
    (same : advance P m (kdfRK P r d).chainKey = advance P n (kdfRK P s e).chainKey) :
    m = n ∧ (kdfRK P r d).chainKey = (kdfRK P s e).chainKey := by
  induction m generalizing n with
  | zero =>
      cases n with
      | zero => exact ⟨rfl, same⟩
      | succ n =>
          rw [advance_succ, advance_zero] at same
          exact absurd same.symm (free.chain_ne_rootChain _ _ _)
  | succ m ih =>
      cases n with
      | zero =>
          rw [advance_succ, advance_zero] at same
          exact absurd same (free.chain_ne_rootChain _ _ _)
      | succ n =>
          rw [advance_succ, advance_succ] at same
          obtain ⟨equal, chain⟩ := ih n (free.chainKey_inj _ _ same)
          exact ⟨by rw [equal], chain⟩

-- A chain never returns to where it started, since it started at a root's output.
theorem rooted_advance_ne (free : FreeKdf P) (steps more : Nat) (root shared : Secret) :
    advance P (more + 1) (advance P steps (kdfRK P root shared).chainKey) ≠
      advance P steps (kdfRK P root shared).chainKey := by
  intro cycle
  rw [advance_add] at cycle
  have counted := (rootChains_meet free _ _ cycle).1
  omega

-- Chains of different root keys have no chain key in common.
theorem chains_apart (free : FreeKdf P) (m n : Nat) (r s d e : Secret) (different : r ≠ s) :
    advance P m (kdfRK P r d).chainKey ≠ advance P n (kdfRK P s e).chainKey :=
  fun same => different (free.rootChain_inj _ _ _ _ (rootChains_meet free m n same).2)

theorem messageKeyAt_ne (free : FreeKdf P) (a b : Secret) (m n : Nat)
    (different : advance P m a ≠ advance P n b) : messageKeyAt P a m ≠ messageKeyAt P b n :=
  fun same => different (free.messageKey_inj _ _ same)

/-- The current chain gives one key away: to the cipher or to the store. -/
theorem Unspent.issue (free : FreeKdf P) {used usedAfter : List Secret}
    {before after : State Secret} {current : Secret} (unspent : Unspent P used before)
    (chain : before.CKr = some current) (root : after.RK = before.RK)
    (next : after.CKr = some (kdfCK P current).chainKey)
    (distinct : (taken usedAfter after).Nodup)
    (covered : ∀ key ∈ taken usedAfter after,
      key = (kdfCK P current).messageKey ∨ key ∈ taken used before) :
    Unspent P usedAfter after where
  distinct := distinct
  rooted := by
    intro chainKey held
    obtain ⟨steps, origin, shared, start⟩ := unspent.rooted current chain
    obtain rfl : (kdfCK P current).chainKey = chainKey := Option.some.inj (next.symm.trans held)
    exact ⟨steps + 1, origin, shared, by rw [advance_succ, ← start]⟩
  chainAhead := by
    intro chainKey held number member
    obtain rfl : (kdfCK P current).chainKey = chainKey := Option.some.inj (next.symm.trans held)
    rcases covered _ member with given | earlier
    -- The key given away is the first of its chain, and later keys differ from it.
    · obtain ⟨steps, origin, shared, start⟩ := unspent.rooted current chain
      refine messageKeyAt_ne free (kdfCK P current).chainKey current number 0 ?_ given
      rw [advance_next, advance_zero, start]
      exact rooted_advance_ne free steps number origin shared
    · refine unspent.chainAhead current chain (number + 1) ?_
      simpa only [messageKeyAt, advance_next] using earlier
  rootAhead := by
    intro origin held later path shared number member
    rw [root] at held
    rcases covered _ member with given | earlier
    · exact messageKeyAt_ne free _ current number 0
        (unspent.apart origin held later path current chain shared number 0) given
    · exact unspent.rootAhead origin held later path shared number earlier
  apart := by
    intro origin held later path chainKey heldChain shared m n
    rw [root] at held
    obtain rfl : (kdfCK P current).chainKey = chainKey :=
      Option.some.inj (next.symm.trans heldChain)
    rw [advance_next]
    exact unspent.apart origin held later path current chain shared m (n + 1)

-- Handing a stored key to the cipher takes it out of the store.
theorem Unspent.rearrange {used usedAfter : List Secret} {before after : State Secret}
    (unspent : Unspent P used before) (root : after.RK = before.RK)
    (chain : after.CKr = before.CKr) (moved : (taken used before).Perm (taken usedAfter after)) :
    Unspent P usedAfter after where
  distinct := moved.nodup_iff.mp unspent.distinct
  rooted := by rw [chain]; exact unspent.rooted
  chainAhead := by
    intro current held number member
    rw [chain] at held
    exact unspent.chainAhead current held number (moved.mem_iff.mpr member)
  rootAhead := by
    intro origin held later path shared number member
    rw [root] at held
    exact unspent.rootAhead origin held later path shared number (moved.mem_iff.mpr member)
  apart := by rw [root, chain]; exact unspent.apart

theorem Unspent.turn (free : FreeKdf P) {used : List Secret} {before after : State Secret}
    {origin shared renewed : Secret} (unspent : Unspent P used before)
    (rooted : before.RK = some origin) (root : after.RK = some renewed)
    (derived : Relation.TransGen (Derives P) origin renewed)
    (chain : after.CKr = some (kdfRK P origin shared).chainKey)
    (store : after.MKSKIPPED = before.MKSKIPPED) : Unspent P used after where
  distinct := by simpa only [taken, store] using unspent.distinct
  rooted := by
    intro current held
    exact ⟨0, origin, shared, Option.some.inj (held.symm.trans chain)⟩
  chainAhead := by
    intro current held number
    obtain rfl := Option.some.inj (chain.symm.trans held)
    simpa only [taken, store] using
      unspent.rootAhead origin rooted origin .refl shared number
  rootAhead := by
    intro now held later path fresh number
    obtain rfl := Option.some.inj (root.symm.trans held)
    simpa only [taken, store] using
      unspent.rootAhead origin rooted later (derived.to_reflTransGen.trans path) fresh number
  apart := by
    intro now held later path current heldChain fresh m n
    obtain rfl := Option.some.inj (root.symm.trans held)
    obtain rfl := Option.some.inj (chain.symm.trans heldChain)
    refine chains_apart free m n later origin fresh shared ?_
    rintro rfl
    exact free.root_acyclic _ (derived.trans_left path)

theorem Unspent.takeChainKey (free : FreeKdf P) {used : List Secret} {state : State Secret}
    {current : Secret} (unspent : Unspent P used state) (chain : state.CKr = some current) :
    Unspent P ((kdfCK P current).messageKey :: used) (takeChainKey P state).state := by
  have fresh := unspent.chainAhead current chain 0
  rw [takeChainKey_eq P state current chain]
  refine unspent.issue free chain rfl rfl (List.nodup_cons.mpr ⟨fresh, unspent.distinct⟩) ?_
  intro key member
  exact List.mem_cons.mp member

theorem Unspent.skipOne (free : FreeKdf P) {used : List Secret} (state : State Secret)
    (unspent : Unspent P used state) : Unspent P used (skipOne P state).state := by
  cases chain : state.CKr with
  | none => simpa [DoubleRatchet.skipOne, chain] using unspent
  | some current =>
      cases known : state.DHr with
      | none =>
          simp only [DoubleRatchet.skipOne, chain, known, Outcome.throws_state]
          exact unspent.issue free chain rfl rfl unspent.distinct fun _ member => Or.inr member
      | some remote =>
          have fresh : (kdfCK P current).messageKey ∉ taken used state :=
            unspent.chainAhead current chain 0
          obtain ⟨usedDistinct, storeDistinct, separate⟩ := List.nodup_append'.mp unspent.distinct
          have freshStore : (kdfCK P current).messageKey ∉ state.MKSKIPPED.values :=
            fun member => fresh (List.mem_append_right _ member)
          rw [skipOne_eq P state current remote chain known]
          refine unspent.issue free chain rfl rfl ?_ ?_
          · refine List.nodup_append'.mpr
              ⟨usedDistinct, OrderedMap.values_set_nodup storeDistinct freshStore, ?_⟩
            intro key spent stored
            rcases OrderedMap.mem_values_set stored with given | earlier
            · exact fresh (List.mem_append_left _ (given ▸ spent))
            · exact separate spent earlier
          · intro key member
            rcases List.mem_append.mp member with spent | stored
            · exact Or.inr (List.mem_append_left _ spent)
            · exact (OrderedMap.mem_values_set stored).imp_right (List.mem_append_right _)

theorem Unspent.skipMessageKeys (free : FreeKdf P) {used : List Secret} {state : State Secret}
    (unspent : Unspent P used state) (bound : JsNumber) :
    Unspent P used (skipMessageKeys P bound state).state :=
  skipMessageKeys_keeps P (Unspent P used) (Unspent.skipOne free) bound state unspent

theorem Unspent.dhRatchet (free : FreeKdf P) {used : List Secret} {state : State Secret}
    (unspent : Unspent P used state) (theirs draw : Bytes) :
    Unspent P used (dhRatchet P theirs draw state).state := by
  rcases dhRatchet_cases P theirs draw state with
    ⟨root, shared1, shared2, ready, equal⟩ | ⟨error, equal⟩ | ⟨root, shared1, rooted, equal⟩
  · rw [equal]
    refine unspent.turn free ready.rooted rfl ?_ rfl rfl
    exact .tail (.single ⟨shared1, rfl⟩) ⟨shared2, rfl⟩
  · rw [equal]
    exact unspent.rearrange rfl rfl (List.Perm.refl _)
  · rw [equal]
    exact unspent.turn free rooted rfl (.single ⟨shared1, rfl⟩) rfl rfl

theorem Unspent.turnChain (free : FreeKdf P) {used : List Secret} {state : State Secret}
    (unspent : Unspent P used state) (header : MessageHeader) (draw : Bytes) :
    Unspent P used (turnChain P header draw state).state := by
  unfold DoubleRatchet.turnChain
  split
  · exact Outcome.andThen_keeps (Unspent P used) (unspent.skipMessageKeys free _)
      fun _ _ => (unspent.skipMessageKeys free _).dhRatchet free _ _
  · exact unspent

theorem Unspent.chainKeyFor (free : FreeKdf P) {used : List Secret} {state : State Secret}
    (unspent : Unspent P used state) (header : MessageHeader) (draw : Bytes) :
    Unspent P ((chainKeyFor P header draw state).result.toOption.toList ++ used)
      (chainKeyFor P header draw state).state := by
  have turned := unspent.turnChain free header draw
  have skipped := turned.skipMessageKeys free header.messageNumber
  unfold DoubleRatchet.chainKeyFor
  cases first : (DoubleRatchet.turnChain P header draw state).result with
  | error error => simpa [Outcome.andThen_of_error _ first, Except.toOption] using turned
  | ok _ =>
      rw [Outcome.andThen_of_ok _ first]
      cases second : (DoubleRatchet.skipMessageKeys P header.messageNumber
          (DoubleRatchet.turnChain P header draw state).state).result with
      | error error => simpa [Outcome.andThen_of_error _ second, Except.toOption] using skipped
      | ok _ =>
          rw [Outcome.andThen_of_ok _ second]
          cases chain : (DoubleRatchet.skipMessageKeys P header.messageNumber
              (DoubleRatchet.turnChain P header draw state).state).state.CKr with
          | none => simpa [DoubleRatchet.takeChainKey, chain, Except.toOption] using skipped
          | some current =>
              have issued := skipped.takeChainKey free chain
              rw [takeChainKey_eq P _ current chain] at issued ⊢
              simpa [Except.toOption] using issued

/-- The message key a call hands to the cipher. -/
def handedKey (P : Primitives Secret) (header : MessageHeader) (draw : Bytes)
    (state : State Secret) : Option Secret :=
  (receiveKey P header draw state).result.toOption

theorem Unspent.receiveKey (free : FreeKdf P) {used : List Secret} {state : State Secret}
    (unspent : Unspent P used state) (header : MessageHeader) (draw : Bytes) :
    Unspent P ((handedKey P header draw state).toList ++ used)
      (receiveKey P header draw state).state := by
  unfold handedKey
  cases found : state.MKSKIPPED.get (skipKey header.dhPublicKey header.messageNumber) with
  | none =>
      rw [receiveKey_missing P header draw state found]
      exact unspent.chainKeyFor free header draw
  | some stored =>
      rw [receiveKey_stored P header draw state stored found]
      have out := (OrderedMap.values_delete_perm found).append_left used
      exact unspent.rearrange rfl rfl (out.trans List.perm_middle)

inductive Action where
  | send (plaintext associatedData nonce : Bytes)
  | receive (header : MessageHeader) (nonceB64 ciphertextB64 : String)
      (associatedData draw : Bytes)

/-- One `decrypt` call: the key it used, the ciphertext it was given and what it returned. -/
structure Attempt (Secret : Type) where
  key : Option Secret
  ciphertext : Bytes
  result : Except Thrown Bytes

def attempts (P : Primitives Secret) : List Action → State Secret → List (Attempt Secret)
  | [], _ => []
  | .send plaintext associatedData nonce :: rest, state =>
      attempts P rest (encrypt P plaintext associatedData nonce state).state
  | .receive header nonceB64 ciphertextB64 associatedData draw :: rest, state =>
      { key := handedKey P header draw state
        ciphertext := fromBase64 ciphertextB64
        result := (decrypt P header nonceB64 ciphertextB64 associatedData draw state).result } ::
      attempts P rest (decrypt P header nonceB64 ciphertextB64 associatedData draw state).state

/-- A session as its two constructors leave it. -/
inductive Started (P : Primitives Secret) : State Secret → Prop
  | initiator (sharedSecret : Secret) (remotePublicKey draw : Bytes) :
      Started P (initAsInitiator P sharedSecret remotePublicKey draw newState).state
  | responder (sharedSecret : Secret) (ourKeyPair : KeyPair) :
      Started P (initAsResponder sharedSecret ourKeyPair newState).state

theorem started_blank {state : State Secret} (started : Started P state) :
    state.CKr = none ∧ state.MKSKIPPED = OrderedMap.empty := by
  cases started with
  | initiator sharedSecret remotePublicKey draw =>
      cases agreed : P.getSharedSecret draw remotePublicKey <;>
        simp [initAsInitiator, agreed, newState]
  | responder sharedSecret ourKeyPair => exact ⟨rfl, rfl⟩

theorem started_unspent {state : State Secret} (started : Started P state) :
    Unspent P [] state := by
  obtain ⟨unchained, empty⟩ := started_blank started
  have none : taken [] state = [] := by simp [taken, empty, OrderedMap.values, OrderedMap.empty]
  constructor <;> simp [none, unchained]

theorem Unspent.encrypt {used : List Secret} {state : State Secret}
    (unspent : Unspent P used state) (plaintext associatedData nonce : Bytes) :
    Unspent P used (encrypt P plaintext associatedData nonce state).state := by
  cases sending : state.CKs with
  | none => simpa [DoubleRatchet.encrypt, sending] using unspent
  | some current =>
      cases held : state.DHs <;>
        exact unspent.rearrange (by simp [DoubleRatchet.encrypt, sending, held])
          (by simp [DoubleRatchet.encrypt, sending, held])
          (by simp [DoubleRatchet.encrypt, sending, held, taken])

theorem attempts_keys_nodup (free : FreeKdf P) (actions : List Action) {used : List Secret}
    {state : State Secret} (unspent : Unspent P used state) :
    ((attempts P actions state).filterMap Attempt.key ++ used).Nodup := by
  induction actions generalizing used state with
  | nil => exact (List.nodup_append.mp unspent.distinct).1
  | cons action rest ih =>
      cases action with
      | send plaintext associatedData nonce =>
          exact ih (unspent.encrypt plaintext associatedData nonce)
      | receive header nonceB64 ciphertextB64 associatedData draw =>
          have received := unspent.receiveKey free header draw
          rw [← decrypt_state P header nonceB64 ciphertextB64 associatedData draw] at received
          have later := ih received
          simp only [attempts]
          cases handed : handedKey P header draw state with
          | none => simpa [handed] using later
          | some key =>
              simp only [handed, Option.toList_some, List.singleton_append] at later
              simpa [handed] using (List.perm_middle.nodup_iff.mp later)

/-- An attempt that opened the text an honest party sealed. -/
def opened (sealed : Bytes) (attempt : Attempt Secret) : Bool :=
  attempt.result.isOk && attempt.ciphertext == sealed

theorem opened_key (commits : CipherCommits P) (key : Secret)
    (nonce associatedData plaintext : Bytes) (actions : List Action) (state : State Secret)
    (attempt : Attempt Secret) (member : attempt ∈ attempts P actions state)
    (success : opened (P.cipherEncrypt key nonce associatedData plaintext) attempt = true) :
    attempt.key = some key := by
  induction actions generalizing state with
  | nil => simp [attempts] at member
  | cons action rest ih =>
      cases action with
      | send other otherData otherNonce => exact ih _ member
      | receive header nonceB64 ciphertextB64 otherData draw =>
          rcases List.mem_cons.mp member with here | later
          · subst attempt
            simp only [opened, Bool.and_eq_true, beq_iff_eq] at success
            obtain ⟨returned, given⟩ := success
            cases selected : (receiveKey P header draw state).result with
            | error error =>
                simp [decrypt, Outcome.andThen_of_error _ selected, Except.isOk, Except.toBool]
                  at returned
            | ok messageKey =>
                rw [decrypt, Outcome.andThen_of_ok _ selected, given] at returned
                -- A ciphertext that opens commits to its key.
                cases text : P.cipherDecrypt messageKey (fromBase64 nonceB64) otherData
                    (P.cipherEncrypt key nonce associatedData plaintext) with
                | none => simp [text, Except.isOk, Except.toBool] at returned
                | some plain =>
                    simp [handedKey, selected, Except.toOption,
                      commits _ _ _ _ _ _ _ _ text]
          · exact ih _ later

theorem countP_le_count_filterMap {α β : Type} [BEq β] [LawfulBEq β] (hits : α → Bool)
    (project : α → Option β) (wanted : β) (items : List α)
    (projected : ∀ item ∈ items, hits item = true → project item = some wanted) :
    items.countP hits ≤ (items.filterMap project).count wanted := by
  induction items with
  | nil => simp
  | cons item rest ih =>
      have tail := ih fun other member => projected other (List.mem_cons_of_mem _ member)
      by_cases hit : hits item = true
      · rw [List.countP_cons_of_pos hit, List.filterMap_cons_some (projected item (by simp) hit),
          List.count_cons_self]
        omega
      · rw [List.countP_cons_of_neg hit]
        cases place : project item with
        | none => rwa [List.filterMap_cons_none place]
        | some other =>
            rw [List.filterMap_cons_some place, List.count_cons]
            omega

/-- Over any run of a session, with any calls in between, no message key is
    handed to the cipher twice and no honest ciphertext is opened twice. -/
theorem message_keys_used_once (free : FreeKdf P) (commits : CipherCommits P)
    (state : State Secret) (started : Started P state) (actions : List Action) :
    ((attempts P actions state).filterMap Attempt.key).Nodup ∧
      ∀ key nonce associatedData plaintext, (attempts P actions state).countP
        (opened (P.cipherEncrypt key nonce associatedData plaintext)) ≤ 1 := by
  classical
  have unique : ((attempts P actions state).filterMap Attempt.key).Nodup := by
    simpa using attempts_keys_nodup free actions (started_unspent started)
  refine ⟨unique, ?_⟩
  intro key nonce associatedData plaintext
  calc (attempts P actions state).countP
        (opened (P.cipherEncrypt key nonce associatedData plaintext))
      ≤ ((attempts P actions state).filterMap Attempt.key).count key :=
        countP_le_count_filterMap _ _ key _ fun attempt member success =>
          opened_key commits key nonce associatedData plaintext actions state attempt member success
    _ ≤ 1 := List.nodup_iff_count_le_one.mp unique key

/-! The initiator's first message, delivered twice. -/

def firstSealed : Except Thrown Encrypted :=
  (encrypt framedPrimitives [104, 105] [] (List.replicate 12 1)
    (initAsInitiator framedPrimitives [9] (List.replicate 32 2) (List.replicate 32 5)
      newState).state).result

def deliveredTwice : List Action :=
  match firstSealed with
  | .error _ => []
  | .ok sent => List.replicate 2
      (.receive sent.header sent.nonce sent.ciphertext [] (List.replicate 32 6))

def freshResponder : State Bytes :=
  (initAsResponder [9] ⟨List.replicate 32 2, List.replicate 32 2⟩ newState).state

theorem second_copy_refused :
    (attempts framedPrimitives deliveredTwice freshResponder).map Attempt.result =
      [.ok [104, 105], .error .badTag] ∧
    ((attempts framedPrimitives deliveredTwice freshResponder).filterMap Attempt.key).Nodup ∧
      ∀ key nonce associatedData plaintext,
        (attempts framedPrimitives deliveredTwice freshResponder).countP
          (opened (framedPrimitives.cipherEncrypt key nonce associatedData plaintext)) ≤ 1 :=
  ⟨by decide +kernel, message_keys_used_once framed_free framed_commits freshResponder
    (.responder [9] _) deliveredTwice⟩

end Chainmail.DoubleRatchet
