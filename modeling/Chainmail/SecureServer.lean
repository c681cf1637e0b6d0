import Chainmail.JsonAccess
import Chainmail.LoginIdentity
import Chainmail.Runs

/-!
The sockets of `src/server/secure-server.js`: who gets what the nodes of the sessions
report. A session of `auth.js` ends by itself, while sockets and nodes are kept in maps
of their own under the same token, and the callbacks of a node hold the token of the
session that started it. The first message to a socket and the other answers are left out.
-/

namespace Chainmail.SecureServer

open Json WalletLogin

variable {P : Packages} (E : Ethers)

/-- An accepted socket, with the token that its handlers hold, while its `readyState` is 1. -/
structure Socket where
  token : String
  isOpen : Bool

/-- The sessions of `auth.js` with their identities, the node of each session, the tokens
    that message callbacks hold, and the sockets, of which `wsClients` has the latest. -/
structure State (P : Packages) where
  auth : Server P
  nodes : OrderedMap String Bool
  callbacks : List String
  sockets : List Socket
  wsClients : OrderedMap String Nat

def initial : State P := ⟨started, OrderedMap.empty, [], [], OrderedMap.empty⟩

def isOpen (state : State P) (socket : Nat) : Bool :=
  (state.sockets[socket]?.map Socket.isOpen).getD false

structure Delivery where
  token : String
  socket : Nat
  message : Json

def broadcast (type : String) (data : Json) (sessionToken : Option String) (now : Nat)
    (state : State P) : List Delivery :=
  let message := .object [("type", .string type), ("data", data), ("timestamp", ofInt now)]
  let clients := state.wsClients.entries.filter fun client =>
    isOpen state client.2 && (sessionToken.all fun token => token = "" ∨ client.1 = token)
  clients.map fun client => ⟨client.1, client.2, message⟩

/-- The handler of a new socket. -/
def connect (token : Option String) (now : Nat) (state : State P) : State P :=
  match token with
  | none => state
  | some token =>
      let validation := validateSession state.auth token now
      let state := { state with auth := validation.state }
      match validation.result with
      | .error _ => state
      | .ok _ =>
          { state with
            sockets := state.sockets ++ [⟨token, true⟩]
            wsClients := state.wsClients.set token state.sockets.length }

/-- The socket has begun to close. -/
def closing (socket : Nat) (state : State P) : State P :=
  { state with sockets := state.sockets.modify socket fun held => { held with isOpen := false } }

/-- Its `close` handler deletes whatever socket is there under its token. -/
def closed (socket : Nat) (state : State P) : State P :=
  match state.sockets[socket]? with
  | none => state
  | some held => { closing socket state with wsClients := state.wsClients.delete held.token }

def nodeStarted (token : String) (state : State P) : State P :=
  if (state.auth.identities.get token).isNone then state
  else { state with
    nodes := state.nodes.set token true
    callbacks := state.callbacks ++ [token] }

def nodeStopped (token : String) (state : State P) : State P :=
  { state with nodes := state.nodes.set token false }

/-- What happens to the server. A request runs the middleware with its token. Starting or
    stopping a node takes its time: here is where it ends, for a request that found the
    session without a running node, or with a node. -/
inductive Event where
  | challenge (draw : Bytes)
  | login (request : Request) (draw : Bytes)
  | nonceTimer (nonce : String)
  | logout (token : String)
  | request (token : String)
  | sweep
  | connect (token : Option String)
  | closing (socket : Nat)
  | closed (socket : Nat)
  | nodeStarted (token : String)
  | message (callback : Nat) (id timestamp : Json)
  | peerInterval (token : String) (peerCount : Nat)
  | nodeStopped (token : String)

/-- An event, and the time that it reads. -/
structure Input where
  event : Event
  now : Nat

def step (state : State P) (input : Input) : State P :=
  match input.event with
  | .challenge draw => { state with auth := generateNonce state.auth draw input.now }
  | .login request draw => { state with auth := (login E state.auth request draw input.now).state }
  | .nonceTimer nonce => { state with auth := forgetNonce state.auth nonce }
  | .logout token => { state with auth := destroySession state.auth token }
  | .request token => { state with auth := (validateSession state.auth token input.now).state }
  | .sweep => { state with auth := sweepSessions state.auth input.now }
  | .connect token => connect token input.now state
  | .closing socket => closing socket state
  | .closed socket => closed socket state
  | .nodeStarted token => nodeStarted token state
  | .nodeStopped token => nodeStopped token state
  | .message _ _ _ => state
  | .peerInterval _ _ => state

/-- What an input makes the server broadcast. -/
def sends (state : State P) (input : Input) : List Delivery :=
  match input.event with
  | .message callback id timestamp =>
      match state.callbacks[callback]? with
      | none => []
      | some token =>
          broadcast "new_message"
            (.object [("id", id), ("hasContent", .bool true), ("timestamp", timestamp)])
            (some token) input.now state
  | .peerInterval token peerCount =>
      if state.nodes.get token = some true then
        broadcast "peer_update" (.object [("peerCount", ofInt peerCount)]) (some token) input.now
          state
      else []
  | .nodeStopped token =>
      broadcast "node_stopped" (.object []) (some token) input.now (nodeStopped token state)
  | _ => []

variable (P) in
/-- The last input comes first. -/
def replay : List Input → State P
  | [] => initial
  | input :: earlier => step E (replay earlier) input

/-- A run of the server, in which the clock does not go back. -/
structure History where
  past : List Input
  timed : EachInput (fun input earlier => ∀ old ∈ earlier, old.now ≤ input.now) past

def Valid (server : Server P) (token : String) (now : Nat) : Prop :=
  ∃ session, (validateSession server token now).result = .ok session

variable (P) in
/-- What is broadcast goes to valid sessions. -/
def Authenticated (input : Input) (earlier : List Input) : Prop :=
  ∀ delivery ∈ sends (replay P E earlier) input,
    Valid (replay P E earlier).auth delivery.token input.now

variable (P) in
/-- The input is a login that makes a session under the token. -/
def LogsIn (token : String) (input : Input) (earlier : List Input) : Prop :=
  ∃ request draw entry, input.event = .login request draw ∧
    (login E (replay P E earlier).auth request draw input.now).result = .ok entry ∧
    entry.token = token

variable (P) in
/-- There was a login no longer ago than a session lasts, and no logout since. -/
def LoggedIn (token : String) (now : Nat) (past : List Input) : Prop :=
  ∃ later first earlier, past = later ++ first :: earlier ∧ LogsIn P E token first earlier ∧
    now ≤ first.now + SESSION_DURATION ∧ ∀ after ∈ later, after.event ≠ .logout token

variable (P) in
/-- What is broadcast comes in time, and before any logout. -/
def InTime (input : Input) (earlier : List Input) : Prop :=
  ∀ delivery ∈ sends (replay P E earlier) input,
    LoggedIn P E delivery.token input.now earlier

variable {E}

section Sessions
variable {server : Server P} {input : Input} {earlier past : List Input}

theorem authenticateWallet_sessions (server : Server P) (signature walletAddress nonce : String)
    (now : Nat) : (authenticateWallet E server signature walletAddress nonce now).state.sessions =
      server.sessions := by
  rcases verifyNonce_cases server nonce now with
    ⟨refusal, checked⟩ | ⟨refusal, checked⟩ | ⟨record, found, _, checked⟩
  · simp [authenticateWallet, checked]
  · simp [authenticateWallet, checked]
  · simp only [authenticateWallet, checked, Outcome.returns_andThen]
    split
    · rfl
    · split
      · simp [consumeNonce, found]
      · rfl

/-- A login that goes through makes one session; one that does not makes none. -/
theorem login_sessions (server : Server P) (request : Request) (draw : Bytes) (now : Nat) :
    (∃ refusal, (login E server request draw now).result = .error refusal ∧
      (login E server request draw now).state.sessions = server.sessions) ∨
    ∃ entry session, (login E server request draw now).result = .ok entry ∧
      session.expires = now + SESSION_DURATION ∧
      (login E server request draw now).state.sessions =
        server.sessions.set entry.token session := by
  have untouched := authenticateWallet_sessions (E := E) server request.signature
    request.walletAddress request.nonce now
  unfold login
  split
  · exact .inl ⟨_, rfl, rfl⟩
  · cases authenticated : (authenticateWallet E server request.signature request.walletAddress
        request.nonce now).result with
    | error refusal =>
        rw [Outcome.andThen_of_error _ authenticated]
        exact .inl ⟨refusal, rfl, untouched⟩
    | ok recovered =>
        rw [Outcome.andThen_of_ok _ authenticated]
        split
        · exact .inl ⟨_, rfl, untouched⟩
        · exact .inr ⟨_, _, rfl, rfl, by rw [← untouched]; rfl⟩

theorem validateSession_sessions (server : Server P) (token : String) (now : Nat) :
    (validateSession server token now).state.sessions = server.sessions ∨
      ∃ session, server.sessions.get token = some session ∧ session.expires < now ∧
        (validateSession server token now).state.sessions = server.sessions.delete token := by
  unfold validateSession
  split
  · exact .inl rfl
  · cases found : server.sessions.get token with
    | none => exact .inl rfl
    | some session =>
        by_cases expired : session.expires < now
        · exact .inr ⟨session, rfl, expired, by simp [expired]⟩
        · exact .inl (by simp [expired])

theorem valid_iff {token : String} (named : token ≠ "") (now : Nat) :
    Valid server token now ↔
      ∃ session, server.sessions.get token = some session ∧ now ≤ session.expires := by
  rw [Valid, validateSession, if_neg named]
  cases found : server.sessions.get token with
  | none => simp
  | some session =>
      by_cases expired : session.expires < now
      · simp [expired]
      · simp [expired, Nat.not_lt.mp expired]

variable (P E) in
/-- What an input does to the sessions. -/
inductive SessionStep (input : Input) (earlier : List Input)
    (before after : OrderedMap String Session) : Prop
  | loggedIn (token : String) (session : Session) :
      LogsIn P E token input earlier → session.expires = input.now + SESSION_DURATION →
      after = before.set token session → SessionStep input earlier before after
  | loggedOut (token : String) :
      input.event = .logout token → after = before.delete token →
      SessionStep input earlier before after
  | expired (token : String) (session : Session) :
      before.get token = some session → session.expires < input.now →
      after = before.delete token → SessionStep input earlier before after
  | swept :
      after = before.keep (fun _ session => !decide (session.expires < input.now)) →
      SessionStep input earlier before after
  | same : after = before → SessionStep input earlier before after

theorem validated_step (token : String)
    (after : (step E (replay P E earlier) input).auth.sessions =
      (validateSession (replay P E earlier).auth token input.now).state.sessions) :
    SessionStep P E input earlier (replay P E earlier).auth.sessions
      (step E (replay P E earlier) input).auth.sessions := by
  rcases validateSession_sessions (replay P E earlier).auth token input.now with
    untouched | ⟨session, held, late, dropped⟩
  · exact .same (after.trans untouched)
  · exact .expired token session held late (after.trans dropped)

theorem connect_sessions (token : String) (now : Nat) (state : State P) :
    (connect (some token) now state).auth.sessions =
      (validateSession state.auth token now).state.sessions := by
  unfold connect
  dsimp only
  split <;> rfl

theorem step_sessions (input : Input) (earlier : List Input) :
    SessionStep P E input earlier (replay P E earlier).auth.sessions
      (replay P E (input :: earlier)).auth.sessions := by
  rw [replay]
  obtain ⟨event, now⟩ := input
  cases event with
  | challenge draw => exact .same rfl
  | login request draw =>
      rcases login_sessions (E := E) (replay P E earlier).auth request draw now with
        ⟨refusal, _, untouched⟩ | ⟨entry, session, success, expires, made⟩
      · exact .same untouched
      · exact .loggedIn entry.token session ⟨request, draw, entry, rfl, success, rfl⟩ expires made
  | nonceTimer nonce => exact .same rfl
  | logout token => exact .loggedOut token rfl rfl
  | request token => exact validated_step token rfl
  | sweep => exact .swept rfl
  | connect token =>
      cases token with
      | none => exact .same rfl
      | some token => exact validated_step token (connect_sessions token now _)
  | closing socket => exact .same rfl
  | closed socket =>
      refine .same ?_
      simp only [step, closed]
      split <;> rfl
  | nodeStarted token =>
      refine .same ?_
      simp only [step, nodeStarted]
      split <;> rfl
  | message callback id timestamp => exact .same rfl
  | peerInterval token peerCount => exact .same rfl
  | nodeStopped token => exact .same rfl

theorem logout_ends {token : String} (event : input.event = .logout token) :
    (replay P E (input :: earlier)).auth.sessions.get token = none := by
  rw [replay, step, event]
  exact OrderedMap.get_delete_self _ _

/-- A session that is there was made by a login, and has not been logged out since. -/
theorem session_loggedIn {token : String} {session : Session} {now : Nat}
    (found : (replay P E past).auth.sessions.get token = some session)
    (timely : now ≤ session.expires) : LoggedIn P E token now past := by
  induction past generalizing session with
  | nil => cases found
  | cons input earlier ih =>
      have stays : input.event ≠ .logout token := by
        intro event
        rw [logout_ends event] at found
        cases found
      have kept {session : Session} (timely : now ≤ session.expires)
          (held : (replay P E earlier).auth.sessions.get token = some session) :
          LoggedIn P E token now (input :: earlier) := by
        obtain ⟨later, first, before, rfl, logsIn, inTime, logged⟩ := ih held timely
        refine ⟨input :: later, first, before, rfl, logsIn, inTime, ?_⟩
        exact List.forall_mem_cons.mpr ⟨stays, logged⟩
      -- One case for each way in which the sessions change, not for each of the inputs.
      cases step_sessions (E := E) input earlier with
      | loggedIn made own logsIn expires after =>
          rw [after, OrderedMap.get_set] at found
          by_cases same : token = made
          · subst same
            rw [if_pos rfl] at found
            cases found
            exact ⟨[], input, earlier, rfl, logsIn, expires ▸ timely, by simp⟩
          · rw [if_neg same] at found
            exact kept timely found
      | loggedOut ended _ after | expired ended _ _ _ after =>
          rw [after, OrderedMap.get_delete] at found
          split at found
          · cases found
          · exact kept timely found
      | swept after =>
          rw [after, OrderedMap.get_keep, Option.filter_eq_some_iff] at found
          exact kept timely found.1
      | same after => exact kept timely (after ▸ found)

theorem login_makes {token : String} (logsIn : LogsIn P E token input earlier) :
    ∃ session, (replay P E (input :: earlier)).auth.sessions.get token = some session ∧
      session.expires = input.now + SESSION_DURATION := by
  obtain ⟨request, draw, entry, event, success, rfl⟩ := logsIn
  rcases login_sessions (E := E) (replay P E earlier).auth request draw input.now with
    ⟨refusal, failed, _⟩ | ⟨own, session, passed, expires, made⟩
  · rw [failed] at success
    cases success
  · cases passed.symm.trans success
    refine ⟨session, ?_, expires⟩
    rw [replay, step, event]
    dsimp only
    rw [made, OrderedMap.get_set_self]

/-- A session stays until it is logged out or its time is over. -/
theorem loggedIn_session {token : String} {now : Nat}
    (timed : EachInput (fun input earlier => ∀ old ∈ earlier, old.now ≤ input.now) past)
    (late : ∀ input ∈ past, input.now ≤ now) (loggedIn : LoggedIn P E token now past) :
    ∃ session, (replay P E past).auth.sessions.get token = some session ∧
      now ≤ session.expires := by
  obtain ⟨later, first, earlier, rfl, logsIn, timely, stays⟩ := loggedIn
  induction later with
  | nil =>
      obtain ⟨session, found, expires⟩ := login_makes logsIn
      exact ⟨session, found, expires ▸ timely⟩
  | cons input rest ih =>
      rw [List.cons_append] at timed late ⊢
      obtain ⟨onward, before⟩ := eachInput_cons.mp timed
      obtain ⟨own, others⟩ := List.forall_mem_cons.mp stays
      obtain ⟨reached, lateBefore⟩ := List.forall_mem_cons.mp late
      obtain ⟨session, held, alive⟩ := ih before lateBefore others
      cases step_sessions (E := E) input (rest ++ first :: earlier) with
      | loggedIn made again _ expires after =>
          rw [after, OrderedMap.get_set]
          split
          · -- A second login under the token is no earlier than the first.
            have renewed := onward first (List.mem_append_right _ List.mem_cons_self)
            exact ⟨again, rfl, by omega⟩
          · exact ⟨session, held, alive⟩
      | loggedOut ended event after =>
          have other : token ≠ ended := fun same => own (same ▸ event)
          exact ⟨session, by rw [after, OrderedMap.get_delete_of_ne _ other, held], alive⟩
      | expired ended old found past after =>
          have other : token ≠ ended := by
            rintro rfl
            cases found.symm.trans held
            omega
          exact ⟨session, by rw [after, OrderedMap.get_delete_of_ne _ other, held], alive⟩
      | swept after =>
          refine ⟨session, ?_, alive⟩
          rw [after, OrderedMap.get_keep, held, Option.filter_some, if_pos]
          simpa using reached.trans alive
      | same after => exact ⟨session, by rw [after, held], alive⟩

end Sessions

section Clients
variable {input : Input} {earlier past : List Input}

/-- A client is registered under a token that was valid, so it has one. -/
theorem registered_named {token : String} {socket : Nat}
    (registered : (replay P E past).wsClients.get token = some socket) : token ≠ "" := by
  induction past generalizing socket with
  | nil => cases registered
  | cons input earlier ih =>
      obtain ⟨event, now⟩ := input
      cases event with
      | connect given =>
          cases given with
          | none => exact ih registered
          | some given =>
              simp only [replay, step, connect] at registered
              cases validated : (validateSession (replay P E earlier).auth given now).result with
              | error refusal =>
                  rw [validated] at registered
                  exact ih registered
              | ok session =>
                  simp only [validated, OrderedMap.get_set] at registered
                  split at registered
                  next own =>
                    -- The empty token is refused before any session is looked up.
                    rintro rfl
                    subst own
                    simp [validateSession] at validated
                  next => exact ih registered
      | closed socket =>
          simp only [replay, step, closed] at registered
          split at registered
          · exact ih registered
          · rw [OrderedMap.get_delete] at registered
            split at registered
            · cases registered
            · exact ih registered
      | nodeStarted given =>
          simp only [replay, step, nodeStarted] at registered
          split at registered <;> exact ih registered
      | challenge _ => exact ih registered
      | login _ _ => exact ih registered
      | nonceTimer _ => exact ih registered
      | logout _ => exact ih registered
      | request _ => exact ih registered
      | sweep => exact ih registered
      | closing _ => exact ih registered
      | message _ _ _ => exact ih registered
      | peerInterval _ _ => exact ih registered
      | nodeStopped _ => exact ih registered

theorem broadcast_registered {type : String} {data : Json} {sessionToken : Option String}
    {now : Nat} {state : State P} {delivery : Delivery}
    (sent : delivery ∈ broadcast type data sessionToken now state) :
    state.wsClients.get delivery.token = some delivery.socket := by
  obtain ⟨client, chosen, rfl⟩ := List.mem_map.mp sent
  exact (OrderedMap.get_iff_mem _ _ _).mpr (List.mem_filter.mp chosen).1

theorem sends_registered {state : State P} {delivery : Delivery}
    (sent : delivery ∈ sends state input) :
    state.wsClients.get delivery.token = some delivery.socket := by
  unfold sends at sent
  split at sent
  · split at sent
    · cases sent
    · exact broadcast_registered sent
  · split at sent
    · exact broadcast_registered sent
    · cases sent
  · exact broadcast_registered sent
  · cases sent

/-- In every run, what is broadcast goes to clients with a valid session exactly when each
    broadcast that reaches a client comes while its session lasts, and before it logs out. -/
theorem broadcast_authenticated_iff (E : Ethers) (history : History) :
    EachInput (Authenticated P E) history.past ↔ EachInput (InTime P E) history.past := by
  have same : ∀ input earlier, input :: earlier <:+ history.past →
      (Authenticated P E input earlier ↔ InTime P E input earlier) := by
    intro input earlier suffix
    have late := history.timed input earlier suffix
    have timed := history.timed.suffix ((List.suffix_cons input earlier).trans suffix)
    refine forall₂_congr fun delivery sent => ?_
    rw [valid_iff (registered_named (sends_registered sent))]
    constructor
    · rintro ⟨session, found, timely⟩
      exact session_loggedIn found timely
    · exact loggedIn_session timed late
  constructor
  · exact fun each input earlier suffix => (same input earlier suffix).mp (each input earlier suffix)
  · exact fun each input earlier suffix => (same input earlier suffix).mpr (each input earlier suffix)

/-- A client whose session logs out while its socket is open and its node is running. -/
def loggedOut : List Input :=
  [⟨.logout (toHex [2]), 5⟩, ⟨.connect (some (toHex [2])), 4⟩, ⟨.nodeStarted (toHex [2]), 3⟩,
    ⟨.login (signedRequest [1]) [2], 2⟩, ⟨.challenge [1], 1⟩]

def lateMessage : Input := ⟨.message 0 (.string "1") (ofInt 6), 6⟩

/-- The message that comes after the logout is still sent to it. -/
theorem broadcast_after_logout : ¬ ∀ (E : Ethers) (history : History),
    EachInput (Authenticated samplePackages E) history.past := by
  intro claimed
  have timed : EachInput (fun input earlier => ∀ old ∈ earlier, old.now ≤ input.now)
      (lateMessage :: loggedOut) := by
    simp [loggedOut, lateMessage, eachInput_cons, eachInput_nil]
  have own := claimed sampleEthers ⟨lateMessage :: loggedOut, timed⟩ lateMessage loggedOut
    (List.suffix_refl _)
  have tokens : (sends (replay samplePackages sampleEthers loggedOut) lateMessage).map
      Delivery.token = [toHex [2]] := by
    decide +kernel
  obtain ⟨delivery, sent, named⟩ := List.mem_map.mp (tokens ▸ List.mem_singleton_self (toHex [2]))
  have valid := own delivery sent
  rw [named, valid_iff (by decide)] at valid
  obtain ⟨session, found, _⟩ := valid
  rw [loggedOut, logout_ends rfl] at found
  cases found

end Clients

end Chainmail.SecureServer
