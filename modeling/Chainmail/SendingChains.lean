import Chainmail.RatchetReceive
import Chainmail.SkippedStorage

/-!
The sending chains of any number of sessions. A chain starts from an agreement
that no other chain started from, and every message key it gives up stays
behind it, so no two sessions and no two calls of one ever seal under one key.
-/

namespace Chainmail.DoubleRatchet

variable {Secret Place Other : Type} {P : Primitives Secret}

/-- `used` has been sealed under, `agreed` has started chains, and `chain` is
    where each session stands. -/
structure Separate (P : Primitives Secret) (agreed used : List Secret)
    (chain : Place → Option Secret) : Prop where
  distinct : used.Nodup
  spent : ∀ key ∈ used, ∃ root shared number, shared ∈ agreed ∧
    key = messageKeyAt P (kdfRK P root shared).chainKey number
  rooted : ∀ place current, chain place = some current → ∃ root shared steps, shared ∈ agreed ∧
    current = advance P steps (kdfRK P root shared).chainKey
  ahead : ∀ place current, chain place = some current → ∀ number,
    messageKeyAt P current number ∉ used
  apart : ∀ one other, one ≠ other → ∀ a b, chain one = some a → chain other = some b →
    ∀ m n, messageKeyAt P a m ≠ messageKeyAt P b n

theorem separate_start (chain : Place → Option Secret) (idle : ∀ place, chain place = none) :
    Separate P [] [] chain where
  distinct := List.nodup_nil
  spent := by simp
  rooted place current held := absurd (held.symm.trans (idle place)) (Option.some_ne_none _)
  ahead := by simp
  apart one _ _ _ _ held := absurd (held.symm.trans (idle one)) (Option.some_ne_none _)

section Moves
variable {agreed used : List Secret} {chain : Place → Option Secret}

/-- Sessions may go away, or be found in another place. -/
theorem Separate.move (separate : Separate P agreed used chain) {moved : Other → Option Secret}
    (source : Other → Place)
    (origin : ∀ place current, moved place = some current → chain (source place) = some current)
    (injective : ∀ one other, moved one ≠ none → moved other ≠ none →
      source one = source other → one = other) : Separate P agreed used moved where
  distinct := separate.distinct
  spent := separate.spent
  rooted place current held := separate.rooted _ current (origin place current held)
  ahead place current held := separate.ahead _ current (origin place current held)
  apart := by
    intro one other different a b here there
    refine separate.apart (source one) (source other) ?_ a b (origin one a here) (origin other b there)
    intro same
    exact different (injective one other (by simp [here]) (by simp [there]) same)

variable [DecidableEq Place]

theorem update_cases {place other : Place} {moved current : Secret}
    (held : Function.update chain place (some moved) other = some current) :
    other = place ∧ moved = current ∨ other ≠ place ∧ chain other = some current := by
  by_cases same : other = place
  · subst same
    rw [Function.update_self, Option.some.injEq] at held
    exact .inl ⟨rfl, held⟩
  · rw [Function.update_of_ne same] at held
    exact .inr ⟨same, held⟩

/-- A chain that is replaced has to be apart only from those that stay. -/
theorem Separate.apart_update (separate : Separate P agreed used chain) {place : Place}
    {moved : Secret} (unlike : ∀ other current, other ≠ place → chain other = some current → ∀ m n,
      messageKeyAt P moved m ≠ messageKeyAt P current n) :
    ∀ one other, one ≠ other → ∀ a b, Function.update chain place (some moved) one = some a →
      Function.update chain place (some moved) other = some b →
        ∀ m n, messageKeyAt P a m ≠ messageKeyAt P b n := by
  intro one other different a b here there m n
  rcases update_cases here with ⟨rfl, rfl⟩ | ⟨_, first⟩
  · rcases update_cases there with ⟨rfl, _⟩ | ⟨_, second⟩
    · exact absurd rfl different
    · exact unlike other b different.symm second m n
  · rcases update_cases there with ⟨rfl, rfl⟩ | ⟨_, second⟩
    · exact (unlike one a different first n m).symm
    · exact separate.apart one other different a b first second m n

-- One session seals a message and moves one step along its chain.
theorem Separate.spend (free : FreeKdf P) (separate : Separate P agreed used chain) {place : Place}
    {current : Secret} (held : chain place = some current) :
    Separate P agreed ((kdfCK P current).messageKey :: used)
      (Function.update chain place (some (kdfCK P current).chainKey)) := by
  obtain ⟨root, shared, steps, known, start⟩ := separate.rooted place current held
  -- The chain that moved on gives the keys that it gave before, one step later.
  have next : ∀ number, messageKeyAt P (kdfCK P current).chainKey number =
      messageKeyAt P current (number + 1) := fun number => by
    simp only [messageKeyAt, advance_next]
  constructor
  case distinct =>
    exact List.nodup_cons.mpr ⟨separate.ahead place current held 0, separate.distinct⟩
  case spent =>
    intro key member
    rcases List.mem_cons.mp member with rfl | earlier
    · refine ⟨root, shared, steps, known, ?_⟩
      have given : (kdfCK P current).messageKey = messageKeyAt P current 0 := rfl
      rw [given, start, messageKey_advance, Nat.zero_add]
    · exact separate.spent key earlier
  case rooted =>
    intro other chainKey stands
    rcases update_cases stands with ⟨rfl, rfl⟩ | ⟨_, stays⟩
    · exact ⟨root, shared, steps + 1, known, by rw [start, ← advance_succ]⟩
    · exact separate.rooted other chainKey stays
  case ahead =>
    intro other chainKey stands number member
    rcases update_cases stands with ⟨rfl, rfl⟩ | ⟨different, stays⟩
    · rw [next] at member
      rcases List.mem_cons.mp member with given | earlier
      · refine messageKeyAt_ne free current current (number + 1) 0 ?_ given
        rw [start]
        exact rooted_advance_ne free steps number root shared
      · exact separate.ahead other current held (number + 1) earlier
    · rcases List.mem_cons.mp member with given | earlier
      · exact separate.apart other place different chainKey current stays held number 0 given
      · exact separate.ahead other chainKey stays number earlier
  case apart =>
    refine separate.apart_update fun other chainKey different stays m n => ?_
    rw [next]
    exact separate.apart place other different.symm current chainKey held stays (m + 1) n

omit [DecidableEq Place] in
-- A chain may also move on without sealing anything.
theorem Separate.unseal {key : Secret} (separate : Separate P agreed (key :: used) chain) :
    Separate P agreed used chain where
  distinct := (List.nodup_cons.mp separate.distinct).2
  spent key member := separate.spent key (List.mem_cons_of_mem _ member)
  rooted := separate.rooted
  ahead place current held number member :=
    separate.ahead place current held number (List.mem_cons_of_mem _ member)
  apart := separate.apart

-- A chain that starts from a new agreement gives no key that any other chain gives.
theorem fresh_chain_apart (free : FreeKdf P) (binds : AgreementBinds P) {shared known : Secret}
    (fresh : shared ∉ agreed) (old : known ∈ agreed) (root origin : Secret) (m n : Nat) :
    messageKeyAt P (kdfRK P root shared).chainKey m ≠
      messageKeyAt P (kdfRK P origin known).chainKey n := by
  refine messageKeyAt_ne free _ _ m n fun same => ?_
  have agreement := binds _ _ _ _ (rootChains_meet free m n same).2
  exact fresh (agreement ▸ old)

/-- One session begins a new sending chain. -/
theorem Separate.start (free : FreeKdf P) (binds : AgreementBinds P)
    (separate : Separate P agreed used chain) (place : Place) (root : Secret) {shared : Secret}
    (fresh : shared ∉ agreed) : Separate P (shared :: agreed) used
      (Function.update chain place (some (kdfRK P root shared).chainKey)) := by
  have unlike : ∀ other current, chain other = some current → ∀ m n,
      messageKeyAt P (kdfRK P root shared).chainKey m ≠ messageKeyAt P current n := by
    intro other current held m n
    obtain ⟨origin, known, steps, old, rfl⟩ := separate.rooted other current held
    rw [messageKey_advance]
    exact fresh_chain_apart free binds fresh old root origin m (n + steps)
  constructor
  case distinct => exact separate.distinct
  case spent =>
    intro key member
    obtain ⟨origin, known, number, old, place⟩ := separate.spent key member
    exact ⟨origin, known, number, List.mem_cons_of_mem _ old, place⟩
  case rooted =>
    intro other current held
    rcases update_cases held with ⟨rfl, rfl⟩ | ⟨_, stays⟩
    · exact ⟨root, shared, 0, List.mem_cons_self, rfl⟩
    · obtain ⟨origin, known, steps, old, place⟩ := separate.rooted other current stays
      exact ⟨origin, known, steps, List.mem_cons_of_mem _ old, place⟩
  case ahead =>
    intro other current held number member
    rcases update_cases held with ⟨rfl, rfl⟩ | ⟨_, stays⟩
    · obtain ⟨origin, known, again, old, place⟩ := separate.spent _ member
      exact fresh_chain_apart free binds fresh old root origin number again place
    · exact separate.ahead other current stays number member
  case apart => exact separate.apart_update fun other current _ stays => unlike other current stays

end Moves

section Receiving

/-- The agreement from which a `decrypt` call starts a new sending chain. -/
def startedFrom (P : Primitives Secret) (header : MessageHeader) (draw : Bytes)
    (state : State Secret) : Option Secret :=
  if Ratchets header state = true ∧ SkipRuns state header.previousCounter ∧
      turnCompletes P header.dhPublicKey draw state = true then
    P.getSharedSecret draw header.dhPublicKey
  else none

theorem skipMessageKeys_sending (bound : JsNumber) (state : State Secret) :
    (skipMessageKeys P bound state).state.CKs = state.CKs := by
  refine skipMessageKeys_keeps P (fun after => after.CKs = state.CKs) (fun after same => ?_)
    bound state rfl
  cases chain : after.CKr <;> cases known : after.DHr <;> simpa [skipOne, chain, known] using same

theorem chainTail_sending (bound : JsNumber) (state : State Secret) :
    ((skipMessageKeys P bound state).andThen fun _ state =>
      takeChainKey P state).state.CKs = state.CKs := by
  refine Outcome.andThen_keeps (fun after : State Secret => after.CKs = state.CKs)
    (skipMessageKeys_sending bound state) fun _ _ => ?_
  cases chain : (skipMessageKeys P bound state).state.CKr <;>
    simpa [takeChainKey, chain] using skipMessageKeys_sending bound state

theorem turning_sending (header : MessageHeader) (draw : Bytes) {state : State Secret}
    (missing : state.MKSKIPPED.get (skipKey header.dhPublicKey header.messageNumber) = none)
    (needed : ratchetNeeded state header = true) :
    (startedFrom P header draw state = none ∧
      (chainKeyFor P header draw state).state.CKs = state.CKs) ∨
    ∃ root shared, startedFrom P header draw state = some shared ∧
      (chainKeyFor P header draw state).state.CKs = some (kdfRK P root shared).chainKey := by
  have ratchets : Ratchets header state = true := by simp [Ratchets, missing, needed]
  have closing := skipMessageKeys_sending (P := P) header.previousCounter state
  rw [chainKeyFor_turning P header draw state needed, startedFrom]
  -- Only a turn that completes starts a sending chain; one that stops leaves the old one.
  by_cases runs : SkipRuns state header.previousCounter
  · have returned := (skipMessageKeys_ok_iff P header.previousCounter state).mpr runs
    have completes := canTurn_iff (P := P) header.dhPublicKey draw
      (skipMessageKeys P header.previousCounter state).state
    rw [turnCompletes_skip] at completes
    rw [Outcome.andThen_of_ok _ returned]
    rcases dhRatchet_cases P header.dhPublicKey draw
      (skipMessageKeys P header.previousCounter state).state with
      ⟨root, shared1, shared2, able, equal⟩ | ⟨error, equal⟩ | ⟨root, shared1, _, equal⟩
    · refine Or.inr ⟨(kdfRK P root shared1).rootKey, shared2, ?_, ?_⟩
      · rw [if_pos ⟨ratchets, runs, completes.mpr ⟨root, shared1, shared2, able⟩⟩]
        exact able.fresh
      · rw [equal, Outcome.returns_andThen, chainTail_sending]
        rfl
    · have stopped := dhRatchet_stops equal
      rw [turnCompletes_skip] at stopped
      exact Or.inl ⟨by simp [stopped], by rw [equal, Outcome.throws_andThen]; exact closing⟩
    · have stopped := dhRatchet_stops equal
      rw [turnCompletes_skip] at stopped
      exact Or.inl ⟨by simp [stopped], by rw [equal, Outcome.throws_andThen]; exact closing⟩
  · obtain ⟨error, failed⟩ : ∃ error,
        (skipMessageKeys P header.previousCounter state).result = .error error := by
      cases result : (skipMessageKeys P header.previousCounter state).result with
      | ok _ => exact absurd ((skipMessageKeys_ok_iff P _ state).mp result) runs
      | error error => exact ⟨error, rfl⟩
    rw [Outcome.andThen_of_error _ failed, Outcome.throws_andThen]
    exact Or.inl ⟨by simp [runs], closing⟩

/-- A receiving call leaves the sending chain, or starts a new one. -/
theorem decrypt_sending (header : MessageHeader) (nonceB64 ciphertextB64 : String)
    (associatedData draw : Bytes) (state : State Secret) :
    (startedFrom P header draw state = none ∧
      (decrypt P header nonceB64 ciphertextB64 associatedData draw state).state.CKs = state.CKs) ∨
    ∃ root shared, startedFrom P header draw state = some shared ∧
      (decrypt P header nonceB64 ciphertextB64 associatedData draw state).state.CKs =
        some (kdfRK P root shared).chainKey := by
  rw [decrypt_state]
  cases found : state.MKSKIPPED.get (skipKey header.dhPublicKey header.messageNumber) with
  | some stored =>
      rw [receiveKey_stored P header draw state stored found]
      exact Or.inl ⟨by simp [startedFrom, Ratchets, found], rfl⟩
  | none =>
      rw [receiveKey_missing P header draw state found]
      cases needed : ratchetNeeded state header with
      | true => exact turning_sending header draw found needed
      | false =>
          rw [chainKeyFor_settled P header draw state needed]
          exact Or.inl ⟨by simp [startedFrom, Ratchets, needed], chainTail_sending _ _⟩

end Receiving
end Chainmail.DoubleRatchet
