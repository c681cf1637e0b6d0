import Chainmail.GuardedRoutes

/-!
For whom a handler behind the middleware acts. The session that the middleware attaches goes
back to a login in which the wallet signed a challenge of the server, and the identity that the
handler finds under the token is the one of that login.
-/

namespace Chainmail.GuardedRoutes

open WalletLogin

variable {P : Packages} (E : Ethers)

/-- The request answers a challenge that the server handed out no longer ago than challenges
    last, signed by the wallet that it names. -/
def Answers (request : Request) (time : Nat) (past : List Input) : Prop :=
  ∃ between draw issued first recovered,
    past = between ++ ⟨.other (.challenge draw), issued⟩ :: first ∧
      toHex draw = request.nonce ∧ time ≤ issued + NONCE_EXPIRY ∧
      E.verifyMessage (CHALLENGE_MESSAGE ++ request.nonce) request.signature = some recovered ∧
      lower recovered = lower request.walletAddress

/-- The token was drawn in a login that got this session and this identity, and it was not
    logged out since. -/
def SignedIn (token : String) (session : Session) (identity : WalletIdentity P)
    (past : List Input) : Prop :=
  ∃ later request draw time earlier,
    past = later ++ ⟨.other (.login request draw), time⟩ :: earlier ∧ toHex draw = token ∧
      WalletIdentity.fromSignature E request.signature request.walletAddress = some identity ∧
      session = ⟨lower request.walletAddress, identity.address, time + SESSION_DURATION, time⟩ ∧
      Answers E request time earlier ∧ ∀ after ∈ later, after.event ≠ .other (.logout token)

variable {E}

section Logins
variable {server : Server P} {past earlier : List Input} {input : Input} {now : Nat}
  {request : Request} {draw : Bytes} {nonce : String} {record : NonceRecord} {entry : Login P}

theorem verifyNonce_ok (valid : (verifyNonce server nonce now).result = .ok ()) :
    ∃ record, server.nonces.get nonce = some record ∧ now ≤ record.expires := by
  unfold verifyNonce at valid
  cases found : server.nonces.get nonce with
  | none => simp [found] at valid
  | some record =>
      refine ⟨record, rfl, ?_⟩
      by_contra expired
      simp [found, Nat.lt_of_not_le expired] at valid

/-- What a login that goes through has been checked for. -/
theorem login_checked (success : (login E server request draw now).result = .ok entry) :
    entry.request = request ∧ entry.token = toHex draw ∧
      WalletIdentity.fromSignature E request.signature request.walletAddress =
        some entry.identity ∧
      ∃ record recovered, server.nonces.get request.nonce = some record ∧ now ≤ record.expires ∧
        E.verifyMessage (CHALLENGE_MESSAGE ++ request.nonce) request.signature = some recovered ∧
        lower recovered = lower request.walletAddress := by
  unfold login at success
  split at success
  · cases success
  · obtain ⟨recovered, authenticated, derived⟩ := (Outcome.andThen_ok_iff _ _ _).mp success
    obtain ⟨_, verified, matched⟩ := (Outcome.andThen_ok_iff _ _ _).mp authenticated
    obtain ⟨record, found, timely⟩ := verifyNonce_ok verified
    split at derived
    · cases derived
    · rename_i identity seeded
      cases derived
      split at matched
      · cases matched
      · rename_i signer signed
        split at matched
        · rename_i own
          cases matched
          exact ⟨rfl, rfl, seeded, record, recovered, found, timely, signed, own⟩
        · cases matched

/-- What a login keeps of the nonces it keeps with the times at which they expire. -/
theorem NonceEffect.expires {before after : OrderedMap String NonceRecord} {other : String}
    (effect : NonceEffect before after other) (found : after.get nonce = some record) :
    ∃ old, before.get nonce = some old ∧ old.expires = record.expires := by
  cases effect with
  | same unchanged => exact ⟨record, unchanged ▸ found, rfl⟩
  | deleted removed =>
      rw [removed, OrderedMap.get_delete] at found
      split at found
      · cases found
      · exact ⟨record, found, rfl⟩
  | used old present marked =>
      rw [marked, OrderedMap.get_set] at found
      split at found
      · rename_i own
        cases found
        exact ⟨old, own ▸ present, rfl⟩
      · exact ⟨record, found, rfl⟩

theorem validateSession_rest (token : String) (server : Server P) (now : Nat) :
    (validateSession server token now).state.nonces = server.nonces ∧
      (validateSession server token now).state.identities = server.identities := by
  unfold validateSession
  split
  · exact ⟨rfl, rfl⟩
  · split
    · exact ⟨rfl, rfl⟩
    · split <;> exact ⟨rfl, rfl⟩

theorem nonce_origin
    (found : (replay P E (input :: earlier)).server.auth.nonces.get nonce = some record) :
    (∃ draw, input.event = .other (.challenge draw) ∧ toHex draw = nonce ∧
        record.expires = input.now + NONCE_EXPIRY) ∨
      ∃ old, (replay P E earlier).server.auth.nonces.get nonce = some old ∧
        old.expires = record.expires := by
  have validated (token : String) (server : Server P) :=
    (validateSession_rest token server input.now).1
  obtain ⟨event, now⟩ := input
  rw [replay, step] at found
  cases event with
  | api ip path authorization =>
      right
      rcases guard_auth ip path authorization now (replay P E earlier) with same | ⟨token, looked⟩
      · exact ⟨record, by simpa only [same] using found, rfl⟩
      · exact ⟨record, by simpa only [looked, validated] using found, rfl⟩
  | other event =>
      cases event with
      | challenge draw =>
          simp only [SecureServer.step, generateNonce, OrderedMap.get_keep,
            Option.filter_eq_some_iff, OrderedMap.get_set] at found
          obtain ⟨found, _⟩ := found
          split at found
          · rename_i own
            cases found
            exact .inl ⟨draw, rfl, own.symm, rfl⟩
          · exact .inr ⟨record, found, rfl⟩
      | login request draw =>
          exact .inr (NonceEffect.expires (login_effect _ request draw now) found)
      | nonceTimer expired =>
          have effect : NonceEffect (replay P E earlier).server.auth.nonces
              (forgetNonce (replay P E earlier).server.auth expired).nonces expired := .deleted rfl
          exact .inr (NonceEffect.expires effect found)
      | request token =>
          simp only [SecureServer.step, validated] at found
          exact .inr ⟨record, found, rfl⟩
      | connect token =>
          cases token with
          | none => exact .inr ⟨record, found, rfl⟩
          | some token =>
              refine .inr ⟨record, ?_, rfl⟩
              simp only [SecureServer.step, SecureServer.connect] at found
              split at found <;> simpa only [validated] using found
      | closed socket =>
          refine .inr ⟨record, ?_, rfl⟩
          simp only [SecureServer.step, SecureServer.closed] at found
          split at found <;> exact found
      | nodeStarted token =>
          refine .inr ⟨record, ?_, rfl⟩
          simp only [SecureServer.step, SecureServer.nodeStarted] at found
          split at found <;> exact found
      | logout token => exact .inr ⟨record, found, rfl⟩
      | sweep => exact .inr ⟨record, found, rfl⟩
      | closing socket => exact .inr ⟨record, found, rfl⟩
      | message callback id timestamp => exact .inr ⟨record, found, rfl⟩
      | peerInterval token peerCount => exact .inr ⟨record, found, rfl⟩
      | nodeStopped token => exact .inr ⟨record, found, rfl⟩

theorem nonce_issued
    (found : (replay P E past).server.auth.nonces.get nonce = some record) :
    ∃ between draw issued first, past = between ++ ⟨.other (.challenge draw), issued⟩ :: first ∧
      toHex draw = nonce ∧ record.expires = issued + NONCE_EXPIRY := by
  induction past generalizing record with
  | nil => cases found
  | cons input earlier ih =>
      rcases nonce_origin found with ⟨draw, event, own, expires⟩ | ⟨old, held, same⟩
      · obtain ⟨_, issued⟩ := input
        cases event
        exact ⟨[], draw, issued, earlier, rfl, own, expires⟩
      · obtain ⟨between, draw, issued, first, rfl, own, expires⟩ := ih held
        exact ⟨input :: between, draw, issued, first, rfl, own, same ▸ expires⟩

/-- Only a login changes the identities. -/
theorem identities_kept (other : ∀ request draw, input.event ≠ .other (.login request draw)) :
    (replay P E (input :: earlier)).server.auth.identities =
      (replay P E earlier).server.auth.identities := by
  have validated (token : String) (server : Server P) :=
    (validateSession_rest token server input.now).2
  obtain ⟨event, now⟩ := input
  rw [replay, step]
  cases event with
  | api ip path authorization =>
      dsimp only
      rcases guard_auth ip path authorization now (replay P E earlier) with same | ⟨token, looked⟩
      · rw [same]
      · rw [looked, validated]
  | other event =>
      cases event with
      | login request draw => exact absurd rfl (other request draw)
      | request token => exact validated token _
      | connect token =>
          cases token with
          | none => rfl
          | some token =>
              simp only [SecureServer.step, SecureServer.connect]
              split <;> exact validated token _
      | closed socket =>
          simp only [SecureServer.step, SecureServer.closed]
          split <;> rfl
      | nodeStarted token =>
          simp only [SecureServer.step, SecureServer.nodeStarted]
          split <;> rfl
      | challenge draw => rfl
      | nonceTimer nonce => rfl
      | logout token => rfl
      | sweep => rfl
      | closing socket => rfl
      | message callback id timestamp => rfl
      | peerInterval token peerCount => rfl
      | nodeStopped token => rfl

end Logins

section Runs
variable {past earlier : List Input} {input : Input} {token : String} {session : Session}
  {identity : WalletIdentity P}

theorem SignedIn.later (signedIn : SignedIn E token session identity earlier)
    (stays : input.event ≠ .other (.logout token)) :
    SignedIn E token session identity (input :: earlier) := by
  obtain ⟨later, request, draw, time, first, rfl, own, derived, made, answers, before⟩ := signedIn
  refine ⟨input :: later, request, draw, time, first, rfl, own, derived, made, answers, ?_⟩
  exact List.forall_mem_cons.mpr ⟨stays, before⟩

/-- The session of a token and the identity under it come from one login. -/
theorem ledger_signedIn (found : ledger P E past token = some session) :
    ∃ identity, (replay P E past).server.auth.identities.get token = some identity ∧
      SignedIn E token session identity past := by
  induction past generalizing session with
  | nil => cases found
  | cons input earlier ih =>
      have kept (same : ledger P E earlier token = some session)
          (stays : input.event ≠ .other (.logout token))
          (held : ∀ identity, (replay P E earlier).server.auth.identities.get token =
            some identity → (replay P E (input :: earlier)).server.auth.identities.get token =
              some identity) :
          ∃ identity, (replay P E (input :: earlier)).server.auth.identities.get token =
            some identity ∧ SignedIn E token session identity (input :: earlier) := by
        obtain ⟨identity, present, signedIn⟩ := ih same
        exact ⟨identity, held identity present, signedIn.later stays⟩
      have quiet (other : ∀ request draw, input.event ≠ .other (.login request draw))
          (same : ledger P E earlier token = some session)
          (stays : input.event ≠ .other (.logout token)) :=
        kept same stays fun identity present => by rw [identities_kept other, present]
      obtain ⟨event, now⟩ := input
      cases event with
      | api ip path authorization => exact quiet (by simp) found (by simp)
      | other event =>
          cases event with
          | login request draw =>
              rcases login_makes (E := E) (replay P E earlier).server.auth request draw now with
                ⟨refusal, failed, _, same⟩ | ⟨entry, success, _, made⟩
              · simp only [ledger, failed] at found
                refine kept found (by simp) fun identity present => ?_
                simp only [replay, step, SecureServer.step, same, present]
              · simp only [ledger, success] at found
                by_cases own : token = entry.token
                · subst own
                  rw [Function.update_self] at found
                  cases found
                  obtain ⟨asked, drawn, derived, record, recovered, held, timely, signed, named⟩ :=
                    login_checked success
                  obtain ⟨between, nonceDraw, issued, first, same, handed, expires⟩ :=
                    nonce_issued held
                  refine ⟨entry.identity, ?_, [], request, draw, now, earlier, rfl, drawn.symm,
                    derived, by rw [sessionOf, asked], ?_, by simp⟩
                  · simp only [replay, step, SecureServer.step, made, OrderedMap.get_set_self]
                  · exact ⟨between, nonceDraw, issued, first, recovered, same, handed,
                      expires ▸ timely, signed, named⟩
                · rw [Function.update_of_ne own] at found
                  refine kept found (by simp) fun identity present => ?_
                  simp only [replay, step, SecureServer.step, made,
                    OrderedMap.get_set_of_ne _ _ own, present]
          | logout ended =>
              simp only [ledger] at found
              by_cases own : token = ended
              · subst own
                simp at found
              · rw [Function.update_of_ne own] at found
                refine quiet (by simp) found fun same => own ?_
                cases same
                rfl
          | _ => exact quiet (by simp) found (by simp)

/-- In every run, whoever gets to a handler behind the middleware bears a token that was drawn
    for a wallet's login within the last day: the wallet signed a challenge of the server no
    longer than challenges last after it was handed out, and the handler finds the identity of
    that signature, with the session's address, under the token. -/
theorem handler_authentic (E : Ethers) (history : History) {ip path : String}
    {authorization : Option String} {now : Nat} {earlier : List Input}
    (reached : ⟨.api ip path authorization, now⟩ :: earlier <:+ history.past)
    (closed : isPublic path = false) {token : String} {session : Session}
    (through : (guard ip path authorization now (replay P E earlier)).1 = .next token session) :
    ∃ identity, (replay P E earlier).server.auth.identities.get token = some identity ∧
      session.dmailAddress = identity.address ∧ now ≤ session.createdAt + SESSION_DURATION ∧
      SignedIn E token session identity earlier := by
  obtain ⟨order, timed⟩ := eachInput_cons.mp (history.timed.suffix reached)
  obtain ⟨_, _, validated⟩ := (next_iff closed).mp through
  obtain ⟨_, held, timely⟩ := validateSession_ok_iff.mp validated
  have found := (sessions_covered timed order).sound token session held
  obtain ⟨identity, present, signedIn⟩ := ledger_signedIn found
  refine ⟨identity, present, ?_, ?_, signedIn⟩
  all_goals
    obtain ⟨_, _, _, _, _, _, _, _, rfl, _⟩ := signedIn
  · rfl
  · exact timely

theorem sample_handler_authentic : ∃ session identity,
    (replay samplePackages sampleEthers sampleVisit).server.auth.identities.get (toHex [2]) =
        some identity ∧
      session.dmailAddress = identity.address ∧ 3 ≤ session.createdAt + SESSION_DURATION ∧
      SignedIn sampleEthers (toHex [2]) session identity sampleVisit := by
  have valid : (validateSession (replay samplePackages sampleEthers sampleVisit).server.auth
      (toHex [2]) 3).result.toOption.isSome = true := by
    decide +kernel
  cases checked : (validateSession (replay samplePackages sampleEthers sampleVisit).server.auth
      (toHex [2]) 3).result with
  | error refusal =>
      rw [checked] at valid
      cases valid
  | ok session =>
      have through : (guard "10.0.0.1" "/identity" (some ("Bearer " ++ toHex [2])) 3
          (replay samplePackages sampleEthers sampleVisit)).1 = .next (toHex [2]) session :=
        (next_iff Route.identity.guarded).mpr ⟨by decide +kernel, rfl, checked⟩
      exact ⟨session, handler_authentic sampleEthers sampleHistory (List.suffix_refl _)
        Route.identity.guarded through⟩

end Runs

end Chainmail.GuardedRoutes
