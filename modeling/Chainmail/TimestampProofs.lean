import Chainmail.NameOwnership

/-!
Timestamps of messages. Two calls write them, both behind the check that the hash
has none yet; block times are positive, so what is written first stays.
-/

namespace Chainmail.DMailRegistry

open Chainmail.Solidity

/-- The proof that a transaction writes when it goes through. -/
def proofOf (tx : Transaction) : Option MessageProof :=
  match tx.call with
  | .timestampMessage messageHash senderDmail recipientDmail =>
      some ⟨messageHash, tx.sender, senderDmail, recipientDmail, [], tx.now⟩
  | .timestampAndStore messageHash senderDmail recipientDmail ipfsCid =>
      some ⟨messageHash, tx.sender, senderDmail, recipientDmail, ipfsCid, tx.now⟩
  | _ => none

/-- The transaction goes through and writes the proof. -/
def Timestamps (proof : MessageProof) (tx : Transaction) (earlier : List Transaction) : Prop :=
  proofOf tx = some proof ∧ ∃ after, execute (replay earlier) tx = .ok after

/-- All transactions so far, the last one first, in blocks with positive times. -/
structure Timeline where
  past : List Transaction
  positive : EachInput (fun tx _ => 0 < tx.now) past

/-- What a timestamp that was given once means for the state it led to. -/
structure Permanent (past : List Transaction) : Prop where
  fixed : ∀ later tx earlier proof, past = later ++ tx :: earlier → Timestamps proof tx earlier →
    getMessageProof proof.messageHash (replay past) = proof ∧ proof.timestamp = tx.now
  refused : ∀ later tx earlier proof, past = later ++ tx :: earlier → Timestamps proof tx earlier →
    ∀ next other, proofOf next = some other → other.messageHash = proof.messageHash →
      execute (replay past) next = .error .MessageAlreadyTimestamped
  verified : ∀ messageHash beforeTime,
    verifyMessageTime messageHash beforeTime (replay past) = true ↔
      ∃ later tx earlier proof, past = later ++ tx :: earlier ∧ Timestamps proof tx earlier ∧
        proof.messageHash = messageHash ∧ tx.now ≤ beforeTime
  lasting : ∀ later earlier messageHash beforeTime laterTime, past = later ++ earlier →
    verifyMessageTime messageHash beforeTime (replay earlier) = true → beforeTime ≤ laterTime →
      verifyMessageTime messageHash laterTime (replay past) = true

theorem proofOf_timestamp {tx : Transaction} {proof : MessageProof}
    (written : proofOf tx = some proof) : proof.timestamp = tx.now := by
  obtain ⟨sender, now, call⟩ := tx
  cases call <;> cases written <;> rfl

theorem execute_timestamp {tx : Transaction} {proof : MessageProof}
    (written : proofOf tx = some proof) (state : State) :
    execute state tx =
      if (state.messageProofs proof.messageHash).timestamp ≠ 0 then
        .error .MessageAlreadyTimestamped
      else .ok { state with
        messageProofs := Function.update state.messageProofs proof.messageHash proof } := by
  obtain ⟨sender, now, call⟩ := tx
  cases call <;> cases written <;> rfl

theorem verifyMessageTime_iff (messageHash : Bytes32) (beforeTime : Nat) (state : State) :
    verifyMessageTime messageHash beforeTime state = true ↔
      (state.messageProofs messageHash).timestamp ≠ 0 ∧
        (state.messageProofs messageHash).timestamp ≤ beforeTime := by
  rw [verifyMessageTime, Bool.and_eq_true, decide_eq_true_iff, decide_eq_true_iff]

-- A transaction writes its proof over a blank one, or leaves all proofs alone.
theorem proofs_apply (tx : Transaction) (earlier : List Transaction) :
    (∃ proof, Timestamps proof tx earlier ∧
      ((replay earlier).messageProofs proof.messageHash).timestamp = 0 ∧
      (replay (tx :: earlier)).messageProofs =
        Function.update (replay earlier).messageProofs proof.messageHash proof) ∨
    (replay (tx :: earlier)).messageProofs = (replay earlier).messageProofs := by
  rw [replay, apply]
  cases written : proofOf tx with
  | some proof =>
      have executed := execute_timestamp written (replay earlier)
      by_cases blank : ((replay earlier).messageProofs proof.messageHash).timestamp = 0
      · rw [if_neg (not_not.mpr blank)] at executed
        exact .inl ⟨proof, ⟨written, _, executed⟩, blank, by rw [executed]⟩
      · rw [if_pos blank] at executed
        exact .inr (by rw [executed])
  -- Registrations and key updates touch no proof.
  | none =>
      right
      cases done : execute (replay earlier) tx with
      | error reverted => rfl
      | ok after =>
          obtain ⟨sender, now, call⟩ := tx
          cases call with
          | register name signingKey encryptionKey dmailAddress =>
              rw [(register_cases done).2]
          | updateKeys name signingKey encryptionKey =>
              rw [(updateKeys_cases done).2.2]
          | timestampMessage messageHash senderDmail recipientDmail => cases written
          | timestampAndStore messageHash senderDmail recipientDmail ipfsCid => cases written

theorem proof_kept (tx : Transaction) (earlier : List Transaction) {messageHash : Bytes32}
    (stamped : ((replay earlier).messageProofs messageHash).timestamp ≠ 0) :
    (replay (tx :: earlier)).messageProofs messageHash =
      (replay earlier).messageProofs messageHash := by
  rcases proofs_apply tx earlier with ⟨proof, _, blank, written⟩ | same
  · have other : messageHash ≠ proof.messageHash := by
      rintro rfl
      exact stamped blank
    rw [written, Function.update_of_ne other]
  · rw [same]

theorem proof_stays (later earlier : List Transaction) {messageHash : Bytes32}
    (stamped : ((replay earlier).messageProofs messageHash).timestamp ≠ 0) :
    (replay (later ++ earlier)).messageProofs messageHash =
      (replay earlier).messageProofs messageHash := by
  induction later with
  | nil => rfl
  | cons tx rest ih =>
      rw [List.cons_append, proof_kept tx (rest ++ earlier) (by rw [ih]; exact stamped), ih]

theorem proof_written {tx : Transaction} {earlier : List Transaction} {proof : MessageProof}
    (stamps : Timestamps proof tx earlier) :
    (replay (tx :: earlier)).messageProofs proof.messageHash = proof := by
  obtain ⟨written, after, executed⟩ := stamps
  have spec := execute_timestamp written (replay earlier)
  rw [executed] at spec
  split at spec
  · cases spec
  · rw [replay, apply, executed, Except.ok.inj spec]
    exact Function.update_self _ _ _

-- Every proof with a timestamp was written by a transaction of the past.
theorem proof_has_writer {past : List Transaction} {messageHash : Bytes32}
    (stamped : ((replay past).messageProofs messageHash).timestamp ≠ 0) :
    ∃ later tx earlier proof, past = later ++ tx :: earlier ∧ Timestamps proof tx earlier ∧
      proof.messageHash = messageHash ∧ (replay past).messageProofs messageHash = proof := by
  induction past with
  | nil => exact absurd rfl stamped
  | cons tx earlier ih =>
      have before (kept : (replay (tx :: earlier)).messageProofs messageHash =
          (replay earlier).messageProofs messageHash) :
          ∃ later writer first proof, tx :: earlier = later ++ writer :: first ∧
            Timestamps proof writer first ∧ proof.messageHash = messageHash ∧
            (replay (tx :: earlier)).messageProofs messageHash = proof := by
        rw [kept] at stamped ⊢
        obtain ⟨later, writer, first, proof, rfl, stamps, hash, held⟩ := ih stamped
        exact ⟨tx :: later, writer, first, proof, rfl, stamps, hash, held⟩
      rcases proofs_apply tx earlier with ⟨proof, stamps, _, written⟩ | same
      · by_cases own : messageHash = proof.messageHash
        · exact ⟨[], tx, earlier, proof, rfl, stamps, own.symm, by rw [own]; exact proof_written stamps⟩
        · exact before (by rw [written, Function.update_of_ne own])
      · exact before (by rw [same])

/-- In every run, the first timestamp of a hash is there for good, and a message
    verifies for the times from its timestamp on and for no others. -/
theorem timestamps_permanent (timeline : Timeline) : Permanent timeline.past := by
  obtain ⟨past, positive⟩ := timeline
  have stamped {later : List Transaction} {tx : Transaction} {earlier : List Transaction}
      {proof : MessageProof} (split : past = later ++ tx :: earlier)
      (stamps : Timestamps proof tx earlier) :
      (replay past).messageProofs proof.messageHash = proof ∧ proof.timestamp ≠ 0 := by
    have written := proof_written stamps
    have nonzero : proof.timestamp ≠ 0 := by
      rw [proofOf_timestamp stamps.1]
      exact Nat.ne_of_gt (positive tx earlier (split ▸ List.suffix_append _ _))
    refine ⟨?_, nonzero⟩
    rw [split, proof_stays later (tx :: earlier) (by rw [written]; exact nonzero), written]
  constructor
  case fixed =>
    intro later tx earlier proof split stamps
    exact ⟨(stamped split stamps).1, proofOf_timestamp stamps.1⟩
  case refused =>
    intro later tx earlier proof split stamps next other written same
    -- A block's time is positive, so a proof that was written is not blank.
    obtain ⟨held, nonzero⟩ := stamped split stamps
    rw [execute_timestamp written, same, held, if_pos nonzero]
  case verified =>
    intro messageHash beforeTime
    rw [verifyMessageTime_iff]
    constructor
    · rintro ⟨nonzero, inTime⟩
      obtain ⟨later, tx, earlier, proof, split, stamps, hash, held⟩ := proof_has_writer nonzero
      rw [held, proofOf_timestamp stamps.1] at inTime
      exact ⟨later, tx, earlier, proof, split, stamps, hash, inTime⟩
    · rintro ⟨later, tx, earlier, proof, split, stamps, rfl, inTime⟩
      obtain ⟨held, nonzero⟩ := stamped split stamps
      rw [held]
      exact ⟨nonzero, by rw [proofOf_timestamp stamps.1]; exact inTime⟩
  case lasting =>
    intro later earlier messageHash beforeTime laterTime split verified longer
    rw [verifyMessageTime_iff] at verified ⊢
    rw [split, proof_stays later earlier verified.1]
    exact ⟨verified.1, verified.2.trans longer⟩

section Example

/-- One hash is timestamped twice, by two wallets, and another one in between. -/
def stamped : Timeline where
  past := [⟨2, 30, .timestampAndStore 7 [98] [97] [1]⟩, ⟨1, 20, .timestampMessage 8 [97] [98]⟩,
    ⟨1, 10, .timestampMessage 7 [97] [98]⟩]
  positive := by simp [eachInput_cons, eachInput_nil]

theorem first_timestamp_stays :
    getMessageProof 7 (replay stamped.past) = ⟨7, 1, [97], [98], [], 10⟩ ∧
      execute (replay stamped.past) ⟨2, 40, .timestampMessage 7 [98] [97]⟩ =
        .error .MessageAlreadyTimestamped ∧
      verifyMessageTime 7 10 (replay stamped.past) = true := by
  have permanent := timestamps_permanent stamped
  have first : Timestamps ⟨7, 1, [97], [98], [], 10⟩ ⟨1, 10, .timestampMessage 7 [97] [98]⟩ [] :=
    ⟨rfl, _, rfl⟩
  have split := (List.take_append_drop 2 stamped.past).symm
  refine ⟨(permanent.fixed _ _ _ _ split first).1, ?_, ?_⟩
  · exact permanent.refused _ _ _ _ split first _ _ rfl rfl
  · exact (permanent.verified 7 10).mpr ⟨_, _, _, _, split, first, rfl, le_refl _⟩

end Example

end Chainmail.DMailRegistry
