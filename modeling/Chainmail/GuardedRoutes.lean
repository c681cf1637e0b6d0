import Chainmail.ExpiringMap
import Chainmail.SecureServer

/-!
The way of a request to a handler of `src/server/secure-server.js`: the middleware at `/api`
with `authMiddleware` and `checkRateLimit` of `src/server/auth.js`. Mounted there, it sees the
path that is left after `/api`. The header `Authorization` is `none` where it is missing, and
the handlers themselves are left out but for what they find under the token.
-/

namespace Chainmail.GuardedRoutes

open WalletLogin

variable {P : Packages} (E : Ethers)

def MAX_REQUESTS_PER_MINUTE : Nat := 60

structure RateRecord where
  requests : List Nat
  blocked : Bool

inductive RateCheck where
  | allowed (remaining : Nat)
  | refused (retryAfter : Nat)

/-- `t > windowStart` -/
def recent (now time : Nat) : Bool := now < time + 60000

def recordOf (ip : String) (rateLimits : OrderedMap String RateRecord) : RateRecord :=
  (rateLimits.get ip).getD ⟨[], false⟩

def checkRateLimit (ip : String) (now : Nat) (rateLimits : OrderedMap String RateRecord) :
    RateCheck × OrderedMap String RateRecord :=
  let requests := (recordOf ip rateLimits).requests.filter (recent now)
  if MAX_REQUESTS_PER_MINUTE ≤ requests.length then
    (.refused 60, rateLimits.set ip ⟨requests, true⟩)
  else
    (.allowed (MAX_REQUESTS_PER_MINUTE - (requests.length + 1)),
      rateLimits.set ip ⟨requests ++ [now], false⟩)

structure State (P : Packages) where
  server : SecureServer.State P
  rateLimits : OrderedMap String RateRecord

def initial : State P := ⟨SecureServer.initial, OrderedMap.empty⟩

/-- What comes of a request: the answer, or its handler, with the token and the session that
    the middleware attaches. -/
inductive Passage where
  | unguarded
  | next (sessionToken : String) (session : Session)
  | tooManyRequests (retryAfter : Nat)
  | unauthorized (error : String)

def startsWith (text lead : String) : Bool := lead.toList.isPrefixOf text.toList

def publicPaths : List String := ["/health", "/api/auth/challenge", "/api/auth/login"]

/-- The token after `Bearer `. -/
def bearer (authorization : Option String) : Option String :=
  (authorization.filter fun header => startsWith header "Bearer ").map fun header =>
    String.ofList (header.toList.drop 7)

def errorOf : Refusal → String
  | .badRequest error => error
  | .unauthorized error => error
  | .failed error => error

def authMiddleware (ip path : String) (authorization : Option String) (now : Nat)
    (state : State P) : Passage × State P :=
  if publicPaths.any (startsWith path) then (.unguarded, state)
  else
    let rateCheck := checkRateLimit ip now state.rateLimits
    let state := { state with rateLimits := rateCheck.2 }
    match rateCheck.1 with
    | .refused retryAfter => (.tooManyRequests retryAfter, state)
    | .allowed _ =>
        match bearer authorization with
        | none => (.unauthorized "Authentication required", state)
        | some token =>
            let validation := validateSession state.server.auth token now
            let state := { state with server := { state.server with auth := validation.state } }
            match validation.result with
            | .error refusal => (.unauthorized (errorOf refusal), state)
            | .ok session => (.next token session, state)

/-- The middleware of `/api` -/
def guard (ip path : String) (authorization : Option String) (now : Nat) (state : State P) :
    Passage × State P :=
  if startsWith path "/auth/" then (.unguarded, state)
  else authMiddleware ip path authorization now state

/-- The middleware lets the path through unchecked. -/
def isPublic (path : String) : Bool :=
  startsWith path "/auth/" || publicPaths.any (startsWith path)

/-- A request that comes to the middleware, or whatever else happens to the server. -/
inductive Event where
  | api (ip path : String) (authorization : Option String)
  | other (event : SecureServer.Event)

structure Input where
  event : Event
  now : Nat

def step (state : State P) (input : Input) : State P :=
  match input.event with
  | .api ip path authorization => (guard ip path authorization input.now state).2
  | .other event => { state with server := SecureServer.step E state.server ⟨event, input.now⟩ }

variable (P) in
/-- The last input comes first. -/
def replay : List Input → State P
  | [] => initial
  | input :: earlier => step E (replay earlier) input

/-- The clock does not go back. -/
def InOrder (input : Input) (earlier : List Input) : Prop := ∀ old ∈ earlier, old.now ≤ input.now

structure History where
  past : List Input
  timed : EachInput InOrder past

/-! The handlers behind the middleware, by the rest of their paths. -/

inductive Route where
  | identity | nodeStart | nodeStop | nodeStatus | messages | registerMessage | register | me
  | message (id : String)
  | check (username : String)
  | resolve (address : String)

def Route.path : Route → String
  | identity => "/identity"
  | nodeStart => "/node/start"
  | nodeStop => "/node/stop"
  | nodeStatus => "/node/status"
  | messages => "/messages"
  | registerMessage => "/username/register-message"
  | register => "/username/register"
  | me => "/username/me"
  | message id => "/messages/" ++ id
  | check username => "/username/check/" ++ username
  | resolve address => "/resolve/" ++ address

/-- None of them is public, whatever the parameter in its path. -/
theorem Route.guarded (route : Route) : isPublic route.path = false := by
  cases route <;>
    simp [isPublic, publicPaths, startsWith, Route.path, List.isPrefixOf, String.toList_append]

section Reference

variable (P) in
/-- The times of the requests of an address that got past the limiter, the last one first. -/
def admitted (ip : String) : List Input → List Nat
  | [] => []
  | input :: earlier =>
      match input.event with
      | .api sender path authorization =>
          match (guard sender path authorization input.now (replay P E earlier)).1 with
          | .unguarded | .tooManyRequests _ => admitted ip earlier
          | .next _ _ | .unauthorized _ =>
              if sender = ip then input.now :: admitted ip earlier else admitted ip earlier
      | .other _ => admitted ip earlier

/-- The session that a login makes. -/
def sessionOf (entry : Login P) (now : Nat) : Session :=
  ⟨lower entry.request.walletAddress, entry.identity.address, now + SESSION_DURATION, now⟩

variable (P) in
/-- The sessions as logins make and logouts end them. None is ever dropped for its age. -/
def ledger : List Input → String → Option Session
  | [] => fun _ => none
  | input :: earlier =>
      match input.event with
      | .other (.login request draw) =>
          match (login E (replay P E earlier).server.auth request draw input.now).result with
          | .error _ => ledger earlier
          | .ok entry =>
              Function.update (ledger earlier) entry.token (some (sessionOf entry input.now))
      | .other (.logout token) => Function.update (ledger earlier) token none
      | _ => ledger earlier

end Reference

section Limiter
variable {ip other : String} {now later : Nat} {rateLimits : OrderedMap String RateRecord}

theorem recent_mono (order : now ≤ later) {time : Nat} (inside : recent later time = true) :
    recent now time = true := by
  simp only [recent, decide_eq_true_eq] at inside ⊢
  omega

/-- Pruning takes nothing out of a later minute. -/
theorem countP_pruned (order : now ≤ later) (times : List Nat) :
    (times.filter (recent now)).countP (recent later) = times.countP (recent later) := by
  rw [List.countP_filter]
  refine List.countP_congr fun time _ => ?_
  constructor
  · intro both
    exact (Bool.and_eq_true_iff.mp both).1
  · intro inside
    simp [inside, recent_mono order inside]

theorem recordOf_set (record : RateRecord) :
    recordOf other (rateLimits.set ip record) =
      if other = ip then record else recordOf other rateLimits := by
  rw [recordOf, OrderedMap.get_set]
  split <;> rfl

/-- What the limiter decides, and what it keeps of the requests of any address. -/
theorem checkRateLimit_cases (ip : String) (now : Nat) (rateLimits : OrderedMap String RateRecord) :
    let count := (recordOf ip rateLimits).requests.countP (recent now)
    (MAX_REQUESTS_PER_MINUTE ≤ count ∧ (checkRateLimit ip now rateLimits).1 = .refused 60 ∧
        ∀ other later, now ≤ later →
          (recordOf other (checkRateLimit ip now rateLimits).2).requests.countP (recent later) =
            (recordOf other rateLimits).requests.countP (recent later)) ∨
      (count < MAX_REQUESTS_PER_MINUTE ∧
        (∃ remaining, (checkRateLimit ip now rateLimits).1 = .allowed remaining) ∧
        ∀ other later, now ≤ later →
          (recordOf other (checkRateLimit ip now rateLimits).2).requests.countP (recent later) =
            (if ip = other then now :: (recordOf other rateLimits).requests
              else (recordOf other rateLimits).requests).countP (recent later)) := by
  intro count
  have length : ((recordOf ip rateLimits).requests.filter (recent now)).length = count :=
    List.countP_eq_length_filter.symm
  unfold checkRateLimit
  by_cases full : MAX_REQUESTS_PER_MINUTE ≤ count
  · left
    simp only [length, if_pos full]
    refine ⟨full, trivial, fun other later order => ?_⟩
    rw [recordOf_set]
    split
    · subst other
      exact countP_pruned order _
    · rfl
  · right
    simp only [length, if_neg full]
    refine ⟨Nat.lt_of_not_le full, ⟨_, rfl⟩, fun other later order => ?_⟩
    rw [recordOf_set]
    by_cases same : other = ip
    · subst same
      simp only [if_pos, List.countP_append, countP_pruned order, List.countP_cons,
        List.countP_nil, Nat.zero_add]
    · simp only [if_neg same, if_neg (Ne.symm same)]

end Limiter

section Guard
variable {ip path : String} {authorization : Option String} {now : Nat} {state : State P}

theorem guard_public (open_ : isPublic path = true) :
    guard ip path authorization now state = (.unguarded, state) := by
  rcases Bool.or_eq_true_iff.mp open_ with login | health
  · simp [guard, login]
  · simp [guard, authMiddleware, health]

theorem guard_closed (closed : isPublic path = false) :
    guard ip path authorization now state =
      match (checkRateLimit ip now state.rateLimits).1 with
      | .refused retryAfter =>
          (.tooManyRequests retryAfter,
            { state with rateLimits := (checkRateLimit ip now state.rateLimits).2 })
      | .allowed _ =>
          match bearer authorization with
          | none => (.unauthorized "Authentication required",
              { state with rateLimits := (checkRateLimit ip now state.rateLimits).2 })
          | some token =>
              (match (validateSession state.server.auth token now).result with
                | .error refusal => .unauthorized (errorOf refusal)
                | .ok session => .next token session,
              { server := { state.server with
                  auth := (validateSession state.server.auth token now).state }
                rateLimits := (checkRateLimit ip now state.rateLimits).2 }) := by
  obtain ⟨login, health⟩ := Bool.or_eq_false_iff.mp closed
  simp only [guard, login, authMiddleware, health, Bool.false_eq_true, ↓reduceIte]
  split
  · rfl
  · split
    · rfl
    · cases (validateSession state.server.auth _ now).result <;> rfl

/-- A token is looked up in no request but one that passes the limiter with it. -/
theorem guard_auth (ip path : String) (authorization : Option String) (now : Nat)
    (state : State P) :
    (guard ip path authorization now state).2.server.auth = state.server.auth ∨
      ∃ token, (guard ip path authorization now state).2.server.auth =
        (validateSession state.server.auth token now).state := by
  cases closed : isPublic path with
  | true => exact .inl (by rw [guard_public closed])
  | false =>
      rw [guard_closed closed]
      split
      · exact .inl rfl
      · split
        · exact .inl rfl
        · exact .inr ⟨_, rfl⟩

theorem guard_rateLimits (closed : isPublic path = false) :
    (guard ip path authorization now state).2.rateLimits =
      (checkRateLimit ip now state.rateLimits).2 := by
  rw [guard_closed closed]
  split
  · rfl
  · split <;> rfl

theorem bearer_eq_some_iff {token : String} :
    bearer authorization = some token ↔ authorization = some ("Bearer " ++ token) := by
  simp only [bearer, Option.map_eq_some_iff, Option.filter_eq_some_iff, startsWith,
    List.isPrefixOf_iff_prefix]
  constructor
  · rintro ⟨header, ⟨rfl, rest, shown⟩, rfl⟩
    have letters : header.toList.drop 7 = rest := by
      rw [← shown]
      rfl
    rw [letters]
    refine congrArg some (String.toList_injective ?_)
    rw [String.toList_append, ← shown]
    exact congrArg _ String.toList_ofList.symm
  · rintro rfl
    refine ⟨_, ⟨rfl, ?_⟩, ?_⟩
    · rw [String.toList_append]
      exact List.prefix_append _ _
    · apply String.toList_injective
      rw [String.toList_ofList, String.toList_append]
      rfl

end Guard

variable {E}

section Rates
variable {past earlier : List Input} {ip path sender : String} {authorization : Option String}
  {now later : Nat}

theorem admitted_refused {retryAfter : Nat} (closed : isPublic path = false)
    (refused : (checkRateLimit sender now (replay P E earlier).rateLimits).1 =
      .refused retryAfter) :
    admitted P E ip (⟨.api sender path authorization, now⟩ :: earlier) =
      admitted P E ip earlier := by
  simp only [admitted, guard_closed closed, refused]

theorem admitted_allowed {remaining : Nat} (closed : isPublic path = false)
    (allowed : (checkRateLimit sender now (replay P E earlier).rateLimits).1 =
      .allowed remaining) :
    admitted P E ip (⟨.api sender path authorization, now⟩ :: earlier) =
      if sender = ip then now :: admitted P E ip earlier else admitted P E ip earlier := by
  simp only [admitted, guard_closed closed, allowed]
  cases bearer authorization with
  | none => rfl
  | some token =>
      dsimp only
      cases (validateSession (replay P E earlier).server.auth token now).result <;> rfl

/-- The limiter counts the requests that it let through, in every minute from now on. -/
theorem tracks_admitted (timed : EachInput InOrder past)
    (before : ∀ input ∈ past, input.now ≤ later) (ip : String) :
    (recordOf ip (replay P E past).rateLimits).requests.countP (recent later) =
      (admitted P E ip past).countP (recent later) := by
  induction past generalizing later with
  | nil => rfl
  | cons input earlier ih =>
      obtain ⟨order, timedBefore⟩ := eachInput_cons.mp timed
      obtain ⟨reached, _⟩ := List.forall_mem_cons.mp before
      have onward := ih timedBefore fun old member => (order old member).trans reached
      obtain ⟨event, now⟩ := input
      cases event with
      | other event => exact onward
      | api sender path authorization =>
          rw [replay, step]
          cases closed : isPublic path with
          | true => simpa only [admitted, guard_public closed] using onward
          | false =>
              simp only [guard_rateLimits closed]
              rcases checkRateLimit_cases sender now (replay P E earlier).rateLimits with
                ⟨_, refused, kept⟩ | ⟨_, ⟨remaining, allowed⟩, kept⟩
              · rw [kept ip later reached, onward, admitted_refused closed refused]
              · rw [kept ip later reached, admitted_allowed closed allowed]
                split
                · rw [List.countP_cons, List.countP_cons, onward]
                · exact onward

theorem admitted_mem {time : Nat} (member : time ∈ admitted P E ip past) :
    ∃ input ∈ past, input.now = time := by
  induction past with
  | nil => cases member
  | cons input earlier ih =>
      have older (member : time ∈ admitted P E ip earlier) :
          ∃ input' ∈ input :: earlier, input'.now = time := by
        obtain ⟨old, inside, same⟩ := ih member
        exact ⟨old, List.mem_cons_of_mem _ inside, same⟩
      rw [admitted] at member
      split at member
      · split at member
        · exact older member
        · exact older member
        all_goals
          split at member
          · rcases List.mem_cons.mp member with same | before
            · exact ⟨input, List.mem_cons_self, same.symm⟩
            · exact older before
          · exact older member
      · exact older member

/-- One more request is let through only where there is room for it. -/
theorem admitted_grows
    (timed : EachInput InOrder (⟨.api sender path authorization, now⟩ :: earlier)) (ip : String) :
    admitted P E ip (⟨.api sender path authorization, now⟩ :: earlier) =
        admitted P E ip earlier ∨
      admitted P E ip (⟨.api sender path authorization, now⟩ :: earlier) =
          now :: admitted P E ip earlier ∧
        (admitted P E ip earlier).countP (recent now) < MAX_REQUESTS_PER_MINUTE := by
  obtain ⟨order, timedBefore⟩ := eachInput_cons.mp timed
  cases closed : isPublic path with
  | true => exact .inl (by simp only [admitted, guard_public closed])
  | false =>
      rcases checkRateLimit_cases sender now (replay P E earlier).rateLimits with
        ⟨_, refused, _⟩ | ⟨room, ⟨remaining, allowed⟩, _⟩
      · exact .inl (admitted_refused closed refused)
      · rw [admitted_allowed closed allowed]
        by_cases same : sender = ip
        · subst same
          rw [tracks_admitted timedBefore order] at room
          exact .inr ⟨if_pos rfl, room⟩
        · exact .inl (if_neg same)

/-- In the minute that ends at some time. -/
def within (last time : Nat) : Bool := recent last time && decide (time ≤ last)

/-- Of one address no more than the limit get through in any minute. -/
theorem admitted_minute (timed : EachInput InOrder past) (ip : String) (last : Nat) :
    (admitted P E ip past).countP (within last) ≤ MAX_REQUESTS_PER_MINUTE := by
  induction past with
  | nil => simp [admitted]
  | cons input earlier ih =>
      have bounded := ih (eachInput_cons.mp timed).2
      obtain ⟨event, now⟩ := input
      cases event with
      | other event => exact bounded
      | api sender path authorization =>
          rcases admitted_grows timed ip with same | ⟨grown, room⟩
          · rw [same]
            exact bounded
          · rw [grown, List.countP_cons]
            split
            next inside =>
              -- Whatever else is in that minute was let through within a minute before now.
              have fewer : (admitted P E ip earlier).countP (within last) ≤
                  (admitted P E ip earlier).countP (recent now) := by
                refine List.countP_mono_left fun time _ also => ?_
                simp only [within, recent, Bool.and_eq_true, decide_eq_true_eq] at inside also ⊢
                omega
              omega
            next => omega

end Rates

section Sessions
variable {server : Server P} {past earlier : List Input} {input : Input} {now : Nat}

/-- A session is late from the millisecond after its last. -/
def late (session : Session) (now : Nat) : Prop := session.expires < now

/-- What a login leaves of the sessions and of the identities. -/
theorem login_makes (server : Server P) (request : Request) (draw : Bytes) (now : Nat) :
    (∃ refusal, (login E server request draw now).result = .error refusal ∧
      (login E server request draw now).state.sessions = server.sessions ∧
      (login E server request draw now).state.identities = server.identities) ∨
    ∃ entry, (login E server request draw now).result = .ok entry ∧
      (login E server request draw now).state.sessions =
        server.sessions.set entry.token (sessionOf entry now) ∧
      (login E server request draw now).state.identities =
        server.identities.set entry.token entry.identity := by
  have untouched := SecureServer.authenticateWallet_sessions (E := E) server request.signature
    request.walletAddress request.nonce now
  have same : (authenticateWallet E server request.signature request.walletAddress request.nonce
      now).state.identities = server.identities := by
    rcases verifyNonce_cases server request.nonce now with
      ⟨refusal, checked⟩ | ⟨refusal, checked⟩ | ⟨record, found, _, checked⟩
    · simp [authenticateWallet, checked]
    · simp [authenticateWallet, checked]
    · simp only [authenticateWallet, checked, Outcome.returns_andThen]
      split
      · rfl
      · split
        · simp [consumeNonce, found]
        · rfl
  unfold login
  split
  · exact .inl ⟨_, rfl, rfl, rfl⟩
  · cases authenticated : (authenticateWallet E server request.signature request.walletAddress
        request.nonce now).result with
    | error refusal =>
        rw [Outcome.andThen_of_error _ authenticated]
        exact .inl ⟨refusal, rfl, untouched, same⟩
    | ok recovered =>
        rw [Outcome.andThen_of_ok _ authenticated]
        split
        · exact .inl ⟨_, rfl, untouched, same⟩
        · exact .inr ⟨_, rfl, by rw [← untouched]; rfl, by rw [← same]; rfl⟩

theorem validated_covers {sessions : String → Option Session}
    (covers : ExpiringMap.Covers late server.sessions sessions now) (token : String) :
    ExpiringMap.Covers late (validateSession server token now).state.sessions sessions now := by
  rcases SecureServer.validateSession_sessions server token now with
    same | ⟨session, found, overdue, dropped⟩
  · rw [same]
    exact covers
  · rw [dropped]
    exact covers.expire found overdue

/-- What else happens to the server keeps its sessions to the ledger. -/
theorem other_covers (event : SecureServer.Event)
    (covers : ExpiringMap.Covers late (replay P E earlier).server.auth.sessions (ledger P E earlier)
      now) :
    ExpiringMap.Covers late (replay P E (⟨.other event, now⟩ :: earlier)).server.auth.sessions
      (ledger P E (⟨.other event, now⟩ :: earlier)) now := by
  rw [replay, step]
  cases event with
  | login request draw =>
      rcases login_makes (E := E) (replay P E earlier).server.auth request draw now with
        ⟨refusal, failed, same, _⟩ | ⟨entry, success, made, _⟩
      · simp only [ledger, failed, SecureServer.step, same]
        exact covers
      · simp only [ledger, success, SecureServer.step, made]
        exact covers.set entry.token _
  | logout token => exact covers.delete token
  | sweep =>
      have stays : ∀ (token : String) (session : Session), ¬ late session now →
          (!decide (session.expires < now)) = true := by
        intro token session timely
        simpa [late] using timely
      exact covers.sweep stays
  | request token => exact validated_covers covers token
  | connect token =>
      cases token with
      | none => exact covers
      | some token =>
          simp only [SecureServer.step, SecureServer.connect_sessions]
          exact validated_covers covers token
  | closed socket =>
      simp only [SecureServer.step, SecureServer.closed]
      split <;> exact covers
  | nodeStarted token =>
      simp only [SecureServer.step, SecureServer.nodeStarted]
      split <;> exact covers
  | challenge draw => exact covers
  | nonceTimer nonce => exact covers
  | closing socket => exact covers
  | message callback id timestamp => exact covers
  | peerInterval token peerCount => exact covers
  | nodeStopped token => exact covers

/-- Whenever sessions are dropped for their age, it makes no difference to a session in time. -/
theorem sessions_covered (timed : EachInput InOrder past)
    (before : ∀ input ∈ past, input.now ≤ now) :
    ExpiringMap.Covers late (replay P E past).server.auth.sessions (ledger P E past) now := by
  induction past generalizing now with
  | nil => exact ExpiringMap.covers_empty
  | cons input earlier ih =>
      obtain ⟨order, timedBefore⟩ := eachInput_cons.mp timed
      have covers := ih timedBefore order
      have stepped : ExpiringMap.Covers late (replay P E (input :: earlier)).server.auth.sessions
          (ledger P E (input :: earlier)) input.now := by
        obtain ⟨event, now⟩ := input
        cases event with
        | other event => exact other_covers event covers
        | api ip path authorization =>
            rw [replay, step]
            dsimp only
            rcases guard_auth ip path authorization now (replay P E earlier) with
              same | ⟨token, looked⟩
            · rw [same]
              exact covers
            · rw [looked]
              exact validated_covers covers token
      exact stepped.wait fun session already =>
        Nat.lt_of_lt_of_le already (before input List.mem_cons_self)

theorem validateSession_ok_iff {token : String} {session : Session} :
    (validateSession server token now).result = .ok session ↔
      token ≠ "" ∧ server.sessions.get token = some session ∧ now ≤ session.expires := by
  unfold validateSession
  by_cases named : token = ""
  · simp [named]
  · rw [if_neg named]
    cases found : server.sessions.get token with
    | none => simp
    | some held =>
        by_cases expired : held.expires < now
        · simp only [if_pos expired, Outcome.throws_result, reduceCtorEq, Option.some.injEq,
            false_iff]
          rintro ⟨_, rfl, timely⟩
          omega
        · simp only [if_neg expired, Outcome.returns_result, Except.ok.injEq, Option.some.injEq]
          constructor
          · rintro rfl
            exact ⟨named, rfl, Nat.le_of_not_lt expired⟩
          · exact fun both => both.2.1

/-- A request gets to its handler with a session when the limiter has room for it, its header
    bears a token, and the token is valid. -/
theorem next_iff {ip path : String} {authorization : Option String} {state : State P}
    (closed : isPublic path = false) {token : String} {session : Session} :
    (guard ip path authorization now state).1 = .next token session ↔
      (recordOf ip state.rateLimits).requests.countP (recent now) < MAX_REQUESTS_PER_MINUTE ∧
        authorization = some ("Bearer " ++ token) ∧
        (validateSession state.server.auth token now).result = .ok session := by
  rw [guard_closed closed, ← bearer_eq_some_iff]
  rcases checkRateLimit_cases ip now state.rateLimits with
    ⟨full, refused, _⟩ | ⟨room, ⟨remaining, allowed⟩, _⟩
  · simp only [refused, reduceCtorEq, false_iff]
    exact fun both => Nat.not_lt.mpr full both.1
  · simp only [allowed]
    cases bearer authorization with
    | none => simp
    | some given =>
        dsimp only
        constructor
        · intro through
          split at through
          · cases through
          · rename_i validated
            cases through
            exact ⟨room, rfl, validated⟩
        · rintro ⟨_, same, validated⟩
          cases same
          rw [validated]

/-- In every run a request gets to its handler with a session exactly when fewer than sixty
    requests of its address got past the limiter within the last minute, its header bears a
    token, and that token's latest login was neither logged out nor is it over a day ago. -/
theorem handler_reached_iff (E : Ethers) (history : History) {ip path : String}
    {authorization : Option String} {now : Nat} {earlier : List Input}
    (reached : ⟨.api ip path authorization, now⟩ :: earlier <:+ history.past)
    (closed : isPublic path = false) (token : String) (session : Session) :
    (guard ip path authorization now (replay P E earlier)).1 = .next token session ↔
      (admitted P E ip earlier).countP (recent now) < MAX_REQUESTS_PER_MINUTE ∧
        authorization = some ("Bearer " ++ token) ∧ token ≠ "" ∧
        ledger P E earlier token = some session ∧ now ≤ session.expires := by
  obtain ⟨order, timed⟩ := eachInput_cons.mp (history.timed.suffix reached)
  rw [next_iff closed, tracks_admitted timed order, validateSession_ok_iff]
  refine and_congr_right fun _ => and_congr_right fun _ => and_congr_right fun _ => ?_
  refine and_congr_left fun timely => ?_
  exact (sessions_covered timed order).get_iff (Nat.not_lt.mpr timely)

section Sample

/-- A wallet logs in, and then asks for its identity. -/
def sampleVisit : List Input :=
  [⟨.other (.login (signedRequest [1]) [2]), 2⟩, ⟨.other (.challenge [1]), 1⟩]

def sampleInput : Input := ⟨.api "10.0.0.1" "/identity" (some ("Bearer " ++ toHex [2])), 3⟩

def sampleHistory : History where
  past := sampleInput :: sampleVisit
  timed := by simp [sampleVisit, sampleInput, InOrder, eachInput_cons, eachInput_nil]

theorem sample_handler_reached : ∃ session,
    (guard "10.0.0.1" "/identity" (some ("Bearer " ++ toHex [2])) 3
      (replay samplePackages sampleEthers sampleVisit)).1 = .next (toHex [2]) session := by
  have kept : ((ledger samplePackages sampleEthers sampleVisit (toHex [2])).any fun session =>
      decide (3 ≤ session.expires)) = true := by
    decide +kernel
  obtain ⟨session, found, timely⟩ := (Option.any_eq_true _ _).mp kept
  refine ⟨session, (handler_reached_iff sampleEthers sampleHistory (List.suffix_refl _)
    Route.identity.guarded (toHex [2]) session).mpr ?_⟩
  exact ⟨by decide +kernel, rfl, by decide +kernel, found, of_decide_eq_true timely⟩

end Sample

/-- In every run at most sixty requests of one address get past the limiter in any minute, and
    a request is turned away exactly when sixty did so within the last one. -/
theorem limiter_exact (E : Ethers) (history : History) (ip : String) :
    (∀ last, (admitted P E ip history.past).countP (within last) ≤ MAX_REQUESTS_PER_MINUTE) ∧
      ∀ path authorization now earlier, isPublic path = false →
        ⟨.api ip path authorization, now⟩ :: earlier <:+ history.past →
        ((guard ip path authorization now (replay P E earlier)).1 = .tooManyRequests 60 ↔
          (admitted P E ip earlier).countP (recent now) = MAX_REQUESTS_PER_MINUTE) := by
  refine ⟨admitted_minute history.timed ip, ?_⟩
  intro path authorization now earlier closed reached
  obtain ⟨order, timed⟩ := eachInput_cons.mp (history.timed.suffix reached)
  have counted : (recordOf ip (replay P E earlier).rateLimits).requests.countP (recent now) =
      (admitted P E ip earlier).countP (recent now) := tracks_admitted timed order ip
  -- Nothing was let through after now, so the last minute is one of the bounded ones.
  have bounded : (admitted P E ip earlier).countP (recent now) ≤ MAX_REQUESTS_PER_MINUTE := by
    refine Nat.le_trans (List.countP_mono_left fun time member inside => ?_)
      (admitted_minute (P := P) (E := E) timed ip now)
    obtain ⟨old, old_in, rfl⟩ := admitted_mem member
    simpa [within, inside] using order old old_in
  rw [guard_closed closed]
  rcases checkRateLimit_cases ip now (replay P E earlier).rateLimits with
    ⟨full, refused, _⟩ | ⟨room, ⟨remaining, allowed⟩, _⟩
  · simp only [refused, true_iff]
    omega
  · have apart : (admitted P E ip earlier).countP (recent now) ≠ MAX_REQUESTS_PER_MINUTE := by omega
    simp only [allowed, apart, iff_false]
    cases bearer authorization with
    | none => simp
    | some token =>
        dsimp only
        cases (validateSession (replay P E earlier).server.auth token now).result <;> simp

end Sessions

end Chainmail.GuardedRoutes
