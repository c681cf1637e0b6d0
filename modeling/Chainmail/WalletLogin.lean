import Chainmail.OrderedMap
import Chainmail.Outcome
import Chainmail.WalletIdentity

/-!
`src/server/auth.js` and the login of `src/server/secure-server.js`: a wallet
signs a challenge, and the same signature authenticates it and seeds its
identity. Times are in milliseconds. An address is lowered letter by letter,
which is all that `toLowerCase` does to one. Running nodes and rate
limiting are left out.
-/

namespace Chainmail.WalletLogin

variable {P : Packages} (E : Ethers)

def SESSION_DURATION : Nat := 24 * 60 * 60 * 1000
def NONCE_EXPIRY : Nat := 5 * 60 * 1000
def CHALLENGE_MESSAGE : String := "Sign this message to authenticate with dMail.\n\nNonce: "

structure NonceRecord where
  expires : Nat
  used : Bool

structure Session where
  walletAddress : String
  dmailAddress : String
  expires : Nat
  createdAt : Nat

structure Server (P : Packages) where
  nonces : OrderedMap String NonceRecord
  sessions : OrderedMap String Session
  identities : OrderedMap String (WalletIdentity P)

def started : Server P := ⟨OrderedMap.empty, OrderedMap.empty, OrderedMap.empty⟩

/-- How a login is turned down, with the text of the answer. -/
inductive Refusal where
  | badRequest (error : String)
  | unauthorized (error : String)
  | failed (error : String)

abbrev Call (P : Packages) (Result : Type) := Outcome (Server P) Refusal Result

def lower (text : String) : String := String.ofList (text.toList.map Char.toLower)

/-- `generateNonce`, which also drops the expired nonces. -/
def generateNonce (server : Server P) (draw : Bytes) (now : Nat) : Server P :=
  let nonces := server.nonces.set (toHex draw) ⟨now + NONCE_EXPIRY, false⟩
  { server with nonces := nonces.keep fun _ record => !decide (record.expires < now) }

def verifyNonce (server : Server P) (nonce : String) (now : Nat) : Call P Unit :=
  match server.nonces.get nonce with
  | none => .throws server (.unauthorized "Invalid nonce")
  | some record =>
      if record.expires < now then
        .throws { server with nonces := server.nonces.delete nonce } (.unauthorized "Nonce expired")
      else if record.used then .throws server (.unauthorized "Nonce already used")
      else .returns server ()

def consumeNonce (server : Server P) (nonce : String) : Server P :=
  match server.nonces.get nonce with
  | none => server
  | some record => { server with nonces := server.nonces.set nonce { record with used := true } }

def authenticateWallet (server : Server P) (signature walletAddress nonce : String) (now : Nat) :
    Call P String :=
  (verifyNonce server nonce now).andThen fun _ server =>
    match E.verifyMessage (CHALLENGE_MESSAGE ++ nonce) signature with
    | none => .throws server (.unauthorized "Invalid signature format")
    | some recoveredAddress =>
        if lower recoveredAddress = lower walletAddress then
          .returns (consumeNonce server nonce) recoveredAddress
        else .throws server (.unauthorized "Signature does not match wallet address")

def createSession (server : Server P) (walletAddress dmailAddress token : String) (now : Nat) :
    Server P :=
  { server with
    sessions := server.sessions.set token
      ⟨lower walletAddress, dmailAddress, now + SESSION_DURATION, now⟩ }

/-- An expired session is dropped when it is looked at. -/
def validateSession (server : Server P) (token : String) (now : Nat) : Call P Session :=
  if token = "" then .throws server (.unauthorized "No session token provided")
  else
    match server.sessions.get token with
    | none => .throws server (.unauthorized "Invalid session token")
    | some session =>
        if session.expires < now then
          .throws { server with sessions := server.sessions.delete token }
            (.unauthorized "Session expired")
        else .returns server session

/-- The body of a login request; a missing field is empty. -/
structure Request where
  signature : String
  walletAddress : String
  nonce : String

/-- A login that went through, and the identity its session has. -/
structure Login (P : Packages) where
  request : Request
  token : String
  identity : WalletIdentity P

/-- `POST /api/auth/login` -/
def login (server : Server P) (request : Request) (draw : Bytes) (now : Nat) : Call P (Login P) :=
  if request.signature = "" ∨ request.walletAddress = "" ∨ request.nonce = "" then
    .throws server (.badRequest "Missing signature, walletAddress, or nonce")
  else
    (authenticateWallet E server request.signature request.walletAddress request.nonce now).andThen
      fun _ server =>
        match WalletIdentity.fromSignature E request.signature request.walletAddress with
        | none => .throws server (.failed "Authentication failed")
        | some identity =>
            let token := toHex draw
            let server := createSession server request.walletAddress identity.address token now
            .returns { server with identities := server.identities.set token identity }
              ⟨request, token, identity⟩

/-- What happens to the server. The timer that a used nonce starts may delete it
    at any later time, and sessions are swept or deleted. -/
inductive Event where
  | challenge (draw : Bytes) (now : Nat)
  | login (request : Request) (draw : Bytes) (now : Nat)
  | nonceTimer (nonce : String)
  | logout (token : String)
  | sweep (now : Nat)

def forgetNonce (server : Server P) (nonce : String) : Server P :=
  { server with nonces := server.nonces.delete nonce }

def destroySession (server : Server P) (token : String) : Server P :=
  { server with sessions := server.sessions.delete token }

def sweepSessions (server : Server P) (now : Nat) : Server P :=
  { server with sessions := server.sessions.keep fun _ session => !decide (session.expires < now) }

/-- The server after an event, and the login that went through in it. -/
def step (server : Server P) : Event → Server P × Option (Login P)
  | .challenge draw now => (generateNonce server draw now, none)
  | .login request draw now =>
      let outcome := login E server request draw now
      (outcome.state, outcome.result.toOption)
  | .nonceTimer nonce => (forgetNonce server nonce, none)
  | .logout token => (destroySession server token, none)
  | .sweep now => (sweepSessions server now, none)

/-- The logins that go through in a run, in order. -/
def logins (server : Server P) : List Event → List (Login P)
  | [] => []
  | event :: rest =>
      let after := step E server event
      after.2.toList ++ logins after.1 rest

/-- The nonce that an event hands out. -/
def issued : Event → Option String
  | .challenge draw _ => some (toHex draw)
  | _ => none

section Nonces

/-- A nonce that no login can use: gone, or marked as used. -/
def Spent (server : Server P) (nonce : String) : Prop :=
  ∀ record, server.nonces.get nonce = some record → record.used = true

variable {E}

theorem verifyNonce_cases (server : Server P) (nonce : String) (now : Nat) :
    (∃ refusal, verifyNonce server nonce now = .throws server refusal) ∨
      (∃ refusal, verifyNonce server nonce now =
        .throws { server with nonces := server.nonces.delete nonce } refusal) ∨
      ∃ record, server.nonces.get nonce = some record ∧ record.used = false ∧
        verifyNonce server nonce now = .returns server () := by
  unfold verifyNonce
  cases found : server.nonces.get nonce with
  | none => exact Or.inl ⟨_, rfl⟩
  | some record =>
      by_cases expired : record.expires < now
      · simp only [expired, ↓reduceIte]
        exact Or.inr (Or.inl ⟨_, rfl⟩)
      · cases used : record.used with
        | false =>
            simp only [expired, used, ↓reduceIte, Bool.false_eq_true]
            exact Or.inr (Or.inr ⟨record, rfl, used, trivial⟩)
        | true =>
            simp only [expired, used, ↓reduceIte]
            exact Or.inl ⟨_, rfl⟩

/-- What a login leaves of the nonces: it can only delete or use up its own. -/
inductive NonceEffect (before after : OrderedMap String NonceRecord) (nonce : String) : Prop
  | same : after = before → NonceEffect before after nonce
  | deleted : after = before.delete nonce → NonceEffect before after nonce
  | used (record : NonceRecord) : before.get nonce = some record →
      after = before.set nonce { record with used := true } → NonceEffect before after nonce

theorem authenticateWallet_effect (server : Server P) (signature walletAddress nonce : String)
    (now : Nat) : NonceEffect server.nonces
      (authenticateWallet E server signature walletAddress nonce now).state.nonces nonce := by
  rcases verifyNonce_cases server nonce now with
    ⟨refusal, checked⟩ | ⟨refusal, checked⟩ | ⟨record, found, _, checked⟩
  · exact .same (by simp [authenticateWallet, checked])
  · exact .deleted (by simp [authenticateWallet, checked])
  · simp only [authenticateWallet, checked, Outcome.returns_andThen]
    split
    · exact .same rfl
    · split
      · exact .used record found (by simp [consumeNonce, found])
      · exact .same rfl

theorem login_effect (server : Server P) (request : Request) (draw : Bytes) (now : Nat) :
    NonceEffect server.nonces (login E server request draw now).state.nonces request.nonce := by
  have authenticated := authenticateWallet_effect (E := E) server request.signature
    request.walletAddress request.nonce now
  unfold login
  split
  · exact .same rfl
  · apply Outcome.andThen_keeps 
      (fun state : Server P => NonceEffect server.nonces state.nonces request.nonce) authenticated
    intro _ _
    split
    · exact authenticated
    · exact authenticated

theorem authenticateWallet_ok {server : Server P} {signature walletAddress nonce recovered : String}
    {now : Nat}
    (success : (authenticateWallet E server signature walletAddress nonce now).result =
      .ok recovered) :
    ∃ record, server.nonces.get nonce = some record ∧ record.used = false ∧
      (authenticateWallet E server signature walletAddress nonce now).state.nonces =
        server.nonces.set nonce { record with used := true } := by
  rcases verifyNonce_cases server nonce now with
    ⟨refusal, checked⟩ | ⟨refusal, checked⟩ | ⟨record, found, unused, checked⟩
  · simp [authenticateWallet, checked] at success
  · simp [authenticateWallet, checked] at success
  · refine ⟨record, found, unused, ?_⟩
    simp only [authenticateWallet, checked, Outcome.returns_andThen] at success ⊢
    split at success
    · cases success
    · rename_i verified
      split at success
      · rename_i own
        simp [own, consumeNonce, found]
      · cases success

/-- A login that goes through has used up a nonce that was still unused. -/
theorem login_ok {server : Server P} {request : Request} {draw : Bytes} {now : Nat}
    {entry : Login P} (success : (login E server request draw now).result = .ok entry) :
    entry.request = request ∧
      WalletIdentity.fromSignature E request.signature request.walletAddress =
        some entry.identity ∧
      ∃ record, server.nonces.get request.nonce = some record ∧ record.used = false ∧
        (login E server request draw now).state.nonces =
          server.nonces.set request.nonce { record with used := true } := by
  unfold login at success ⊢
  split at success
  · cases success
  · rename_i present
    rw [if_neg present]
    obtain ⟨recovered, authenticated, derived⟩ := (Outcome.andThen_ok_iff _ _ _).mp success
    obtain ⟨record, found, unused, marked⟩ := authenticateWallet_ok authenticated
    rw [Outcome.andThen_of_ok _ authenticated]
    split at derived
    · cases derived
    · rename_i identity seeded
      cases derived
      refine ⟨rfl, seeded, record, found, unused, ?_⟩
      simpa [seeded, createSession] using marked

theorem NonceEffect.spent {before after : Server P} {nonce other : String}
    (effect : NonceEffect before.nonces after.nonces nonce) (spent : Spent before other) :
    Spent after other := by
  intro record found
  cases effect with
  | same unchanged => exact spent record (unchanged ▸ found)
  | deleted removed =>
      rw [removed, OrderedMap.get_delete] at found
      split at found
      · cases found
      · exact spent record found
  | used old present marked =>
      rw [marked, OrderedMap.get_set] at found
      split at found
      · rw [← Option.some.inj found]
      · exact spent record found

theorem NonceEffect.has {before after : Server P} {nonce other : String} {record : NonceRecord}
    (effect : NonceEffect before.nonces after.nonces nonce)
    (found : after.nonces.get other = some record) : ∃ old, before.nonces.get other = some old := by
  cases effect with
  | same unchanged => exact ⟨record, unchanged ▸ found⟩
  | deleted removed =>
      rw [removed, OrderedMap.get_delete] at found
      split at found
      · cases found
      · exact ⟨record, found⟩
  | used old present marked =>
      rw [marked, OrderedMap.get_set] at found
      split at found
      · rename_i own
        exact ⟨old, own ▸ present⟩
      · exact ⟨record, found⟩

/-- Only the challenge that hands a nonce out makes it usable. -/
theorem step_spent {server : Server P} {event : Event} {nonce : String} (spent : Spent server nonce)
    (other : issued event ≠ some nonce) : Spent (step E server event).1 nonce := by
  cases event with
  | challenge draw now =>
      intro record found
      have different : nonce ≠ toHex draw := fun same => other (by rw [same]; rfl)
      simp only [step, generateNonce, OrderedMap.get_keep, Option.filter_eq_some_iff,
        OrderedMap.get_set_of_ne _ _ different] at found
      exact spent record found.1
  | login request draw now => exact (login_effect server request draw now).spent spent
  | nonceTimer expired =>
      have effect : NonceEffect server.nonces (forgetNonce server expired).nonces expired :=
        .deleted rfl
      exact effect.spent spent
  | logout token => exact spent
  | sweep now => exact spent

theorem step_has {server : Server P} {event : Event} {nonce : String} {record : NonceRecord}
    (found : (step E server event).1.nonces.get nonce = some record) :
    issued event = some nonce ∨ ∃ old, server.nonces.get nonce = some old := by
  cases event with
  | challenge draw now =>
      simp only [step, generateNonce, OrderedMap.get_keep, Option.filter_eq_some_iff,
        OrderedMap.get_set] at found
      split at found
      · rename_i own
        exact Or.inl (by rw [own]; rfl)
      · exact Or.inr ⟨record, found.1⟩
  | login request draw now => exact Or.inr ((login_effect server request draw now).has found)
  | nonceTimer expired =>
      have effect : NonceEffect server.nonces (forgetNonce server expired).nonces expired :=
        .deleted rfl
      exact Or.inr (effect.has found)
  | logout token => exact Or.inr ⟨record, found⟩
  | sweep now => exact Or.inr ⟨record, found⟩

theorem step_login {server : Server P} {event : Event} {entry : Login P}
    (success : (step E server event).2 = some entry) :
    issued event = none ∧
      WalletIdentity.fromSignature E entry.request.signature entry.request.walletAddress =
        some entry.identity ∧
      (∃ record, server.nonces.get entry.request.nonce = some record ∧ record.used = false) ∧
      Spent (step E server event).1 entry.request.nonce := by
  cases event with
  | login request draw now =>
      have returned : (login E server request draw now).result = .ok entry := by
        cases result : (login E server request draw now).result with
        | ok value => simpa [step, result, Except.toOption] using success
        | error refusal => simp [step, result, Except.toOption] at success
      obtain ⟨rfl, derived, record, found, unused, marked⟩ := login_ok returned
      refine ⟨rfl, derived, ⟨record, found, unused⟩, ?_⟩
      intro after present
      simp only [step, marked, OrderedMap.get_set_self] at present
      rw [← Option.some.inj present]
  | challenge draw now => cases success
  | nonceTimer expired => cases success
  | logout token => cases success
  | sweep now => cases success

end Nonces
end Chainmail.WalletLogin
