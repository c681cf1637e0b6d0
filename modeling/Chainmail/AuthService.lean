import Chainmail.WalletLogin
import Chainmail.Runs

/-!
The wallet login of the API: `api/src/auth/auth.service.ts`, and the controller
that makes a session of a valid verification. The controller waits between the
two, so other requests may come in between. A time is what `Date.now()` returns.
An address that is empty counts as left out, as everywhere in the service.
-/

namespace Chainmail.AuthService

open WalletLogin (lower)

def challengeExpiry : Nat := 5 * 60 * 1000
def sessionExpiry : Nat := 24 * 60 * 60 * 1000

structure AuthChallenge where
  challenge : String
  timestamp : Nat
  expiresAt : Nat
  address : Option String

structure Session where
  address : String
  expiresAt : Nat

/-- The two maps of the service, and the addresses that were verified and whose
    session the controller has still to make. -/
structure Service where
  challenges : OrderedMap String AuthChallenge
  sessions : OrderedMap String Session
  verified : List String

def start : Service := ⟨OrderedMap.empty, OrderedMap.empty, []⟩

/-- `draw` is what `randomBytes` returns. -/
def generateChallenge (address : Option String) (draw : Bytes) (now : Nat) (service : Service) :
    Service :=
  let challenge := toHex draw
  { service with
    challenges := service.challenges.set challenge
      ⟨challenge, now, now + challengeExpiry, address⟩ }

def messageToSign (challenge : String) (timestamp : Nat) : String :=
  "Sign this message to authenticate with dMail:\n\nChallenge: " ++ challenge ++
    "\nTimestamp: " ++ toString timestamp

/-- The address that was asked for, unless it was left out. -/
def given (address : Option String) : Option String := address.filter fun text => text ≠ ""

/-- An address that was given is the recovered one, up to the case of its letters. -/
def agrees (recoveredAddress : String) (address : Option String) : Bool :=
  (given address).all fun text => lower recoveredAddress = lower text

variable (E : Ethers)

/-- The recovered address, or the error that the answer has. -/
def verifySignature (challenge signature : String) (expectedAddress : Option String) (now : Nat)
    (service : Service) : Except String String × Service :=
  match service.challenges.get challenge with
  | none => (.error "Challenge not found", service)
  | some storedChallenge =>
      let deleted := { service with challenges := service.challenges.delete challenge }
      if storedChallenge.expiresAt < now then (.error "Challenge expired", deleted)
      else
        match E.verifyMessage (messageToSign challenge storedChallenge.timestamp) signature with
        | none => (.error "Invalid signature", service)
        | some recoveredAddress =>
            if agrees recoveredAddress expectedAddress = false then
              (.error "Address mismatch", service)
            else if agrees recoveredAddress storedChallenge.address = false then
              (.error "Address mismatch", service)
            else (.ok recoveredAddress, deleted)

def createSession (address : String) (draw : Bytes) (now : Nat) (service : Service) : Service :=
  { service with
    sessions := service.sessions.set (toHex draw) ⟨address, now + sessionExpiry⟩ }

/-- The address of a valid session. -/
def validateSession (token : String) (now : Nat) (service : Service) : Option String × Service :=
  match service.sessions.get token with
  | none => (none, service)
  | some session =>
      if session.expiresAt < now then
        (none, { service with sessions := service.sessions.delete token })
      else (some session.address, service)

def invalidateSession (token : String) (service : Service) : Service :=
  { service with sessions := service.sessions.delete token }

def cleanup (now : Nat) (service : Service) : Service :=
  { service with
    challenges := service.challenges.keep fun _ challenge => !decide (challenge.expiresAt < now)
    sessions := service.sessions.keep fun _ session => !decide (session.expiresAt < now) }

/-- The two halves of the controller's `verifySignature` are events of their own:
    a valid verification is noted, and a session is made for one that was. -/
inductive Event where
  | requestChallenge (address : Option String) (draw : Bytes)
  | verifySignature (challenge signature : String) (expectedAddress : Option String)
  | createSession (turn : Nat) (draw : Bytes)
  | validateSession (token : String)
  | invalidateSession (token : String)
  | cleanup

structure Request where
  now : Nat
  event : Event

def step (service : Service) (request : Request) : Service :=
  match request.event with
  | .requestChallenge address draw => generateChallenge address draw request.now service
  | .verifySignature challenge signature expectedAddress =>
      let checked := verifySignature E challenge signature expectedAddress request.now service
      { checked.2 with verified := checked.2.verified ++ checked.1.toOption.toList }
  | .createSession turn draw =>
      match service.verified[turn]? with
      | none => service
      | some address =>
          createSession address draw request.now
            { service with verified := service.verified.eraseIdx turn }
  | .validateSession token => (validateSession token request.now service).2
  | .invalidateSession token => invalidateSession token service
  | .cleanup => cleanup request.now service

/-- The service after some requests, the last one first. -/
def replay : List Request → Service
  | [] => start
  | request :: earlier => step E (replay earlier) request

/-- The challenge that a request hands out. -/
def challengeOf (request : Request) : Option String :=
  match request.event with
  | .requestChallenge _ draw => some (toHex draw)
  | _ => none

/-- The token that a request draws. -/
def tokenOf (request : Request) : Option String :=
  match request.event with
  | .createSession _ draw => some (toHex draw)
  | _ => none

/-- The text that a request draws was drawn by none before it. -/
def Fresh (drawn : Request → Option String) (request : Request) (earlier : List Request) : Prop :=
  ∀ text, drawn request = some text → ∀ before ∈ earlier, drawn before ≠ some text

/-- All requests so far, the last one first. No challenge and no token is drawn twice. -/
structure History where
  past : List Request
  challenges : EachInput (Fresh challengeOf) past
  tokens : EachInput (Fresh tokenOf) past

end Chainmail.AuthService
