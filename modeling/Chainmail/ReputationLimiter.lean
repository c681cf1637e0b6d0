import Chainmail.RateLimiter

/-!
The size limits and the reputation of `src/network/rate-limiter.js`, which a relay
puts around the sliding-window limiter. A reputation is a double: `round` takes
the exact result of an operation to it. `dateOf` is the date of a time as
`toDateString` prints it.
-/

namespace Chainmail.ReputationLimiter

open RateLimiter

variable {Sender : Type} [DecidableEq Sender]

structure SizeConfig where
  maxMessageSize : JsNumber
  maxDailyStorage : JsNumber

structure Usage where
  bytes : Nat
  date : String

structure Config where
  base : RateLimiter.Config
  sizes : SizeConfig
  round : ℚ → ℚ
  dateOf : Nat → String

def configure (maxRequests windowMs globalMaxRequests maxMessageSize maxDailyStorage : JsNumber)
    (round : ℚ → ℚ) (dateOf : Nat → String) : Config where
  base := RateLimiter.configure maxRequests windowMs globalMaxRequests
  sizes := ⟨orDefault maxMessageSize (1024 * 1024), orDefault maxDailyStorage (10 * 1024 * 1024)⟩
  round := round
  dateOf := dateOf

structure State (Sender : Type) where
  base : Limiter Sender
  dailyUsage : OrderedMap Sender Usage
  reputations : OrderedMap Sender ℚ

def start : State Sender := ⟨RateLimiter.start, OrderedMap.empty, OrderedMap.empty⟩

variable (config : Config)

/-- `reputations.get(senderId) || fallback`; a reputation of zero gives way to it too. -/
def reputationOr (fallback : ℚ) (senderId : Sender) (state : State Sender) : ℚ :=
  match state.reputations.get senderId with
  | some score => if score = 0 then fallback else score
  | none => fallback

/-- The thresholds in the order they are listed in. -/
def thresholds : List (ℚ × ℚ) := [(0, 1 / 2), (25, 1), (50, 3 / 2), (75, 2), (100, 3)]

def multiplierOf (reputation : ℚ) : ℚ :=
  thresholds.foldl (fun multiplier entry => if entry.1 ≤ reputation then entry.2 else multiplier)
    (1 / 2)

/-- `Math.floor(limit * multiplier)` -/
def floorScaled (multiplier : ℚ) (limit : JsNumber) : JsNumber :=
  (limit.times (.finite multiplier)).floor

def getAdjustedLimit (senderId : Sender) (state : State Sender) : JsNumber :=
  floorScaled (multiplierOf (reputationOr 0 senderId state)) config.base.maxRequests

inductive Refusal where
  | messageTooLarge (maxSize : JsNumber)
  | dailyStorageExceeded (used : Nat) (limit : JsNumber)
  | rateLimitExceeded (reputation : ℚ) (adjustedLimit : JsNumber)

def Refusal.reason : Refusal → String
  | .messageTooLarge _ => "message_too_large"
  | .dailyStorageExceeded _ _ => "daily_storage_exceeded"
  | .rateLimitExceeded _ _ => "rate_limit_exceeded"

def checkSize (size : Nat) : Option Refusal :=
  if config.sizes.maxMessageSize.lt (.ofNat size) then
    some (.messageTooLarge config.sizes.maxMessageSize)
  else none

def checkDailyStorage (senderId : Sender) (size now : Nat) (state : State Sender) :
    Option Refusal :=
  match state.dailyUsage.get senderId with
  | none => none
  | some usage =>
      if usage.date = config.dateOf now ∧
          config.sizes.maxDailyStorage.lt (.ofNat (usage.bytes + size)) = true then
        some (.dailyStorageExceeded usage.bytes config.sizes.maxDailyStorage)
      else none

def recordStorage (senderId : Sender) (size now : Nat) (state : State Sender) : State Sender :=
  let today := config.dateOf now
  let bytes := match state.dailyUsage.get senderId with
    | some usage => if usage.date = today then usage.bytes + size else size
    | none => size
  { state with dailyUsage := state.dailyUsage.set senderId ⟨bytes, today⟩ }

/-- `SizeLimiter.check`, made for a message of some size. -/
def checkSizes (senderId : Sender) (messageSize now : Nat) (state : State Sender) :
    Option Refusal :=
  if 0 < messageSize then
    match checkSize config messageSize with
    | some refusal => some refusal
    | none => checkDailyStorage config senderId messageSize now state
  else none

/-- Why a request is refused, if it is. -/
def check (senderId : Sender) (messageSize now : Nat) (state : State Sender) : Option Refusal :=
  match checkSizes config senderId messageSize now state with
  | some refusal => some refusal
  | none =>
      let adjustedLimit := getAdjustedLimit config senderId state
      let rate := getRate config.base senderId now state.base
      if (JsNumber.ofNat rate.count).ge adjustedLimit then
        some (.rateLimitExceeded (reputationOr 0 senderId state) adjustedLimit)
      else none

def adjustReputation (senderId : Sender) (delta : ℚ) (state : State Sender) : State Sender :=
  let newScore := max 0 (min 100 (config.round (reputationOr 25 senderId state + delta)))
  { state with reputations := state.reputations.set senderId newScore }

def record (senderId : Sender) (messageSize now : Nat) (state : State Sender) : State Sender :=
  let state := { state with base := RateLimiter.record senderId now state.base }
  let state := if 0 < messageSize then recordStorage config senderId messageSize now state
    else state
  adjustReputation config senderId (config.round (1 / 10)) state

def checkAndRecord (senderId : Sender) (messageSize now : Nat) (state : State Sender) :
    Option Refusal × State Sender :=
  match check config senderId messageSize now state with
  | some refusal => (some refusal, state)
  | none => (none, record config senderId messageSize now state)

def reportSpam (senderId : Sender) (state : State Sender) : State Sender :=
  adjustReputation config senderId (-25) state

inductive TrustLevel where
  | low
  | medium
  | high
  | verified
  | other

/-- `scores[level] || 50` -/
def TrustLevel.score : TrustLevel → ℚ
  | .low => 25
  | .medium => 50
  | .high => 75
  | .verified => 100
  | .other => 50

def markTrusted (senderId : Sender) (level : TrustLevel) (state : State Sender) : State Sender :=
  { state with reputations := state.reputations.set senderId level.score }

/-- The numbers that `getStats` gathers; asking for the global rate prunes its store. -/
structure Stats where
  reputation : ℚ
  adjustedLimit : JsNumber
  rate : Rate
  globalRate : GlobalRate

def getStats (senderId : Sender) (now : Nat) (state : State Sender) : Stats × State Sender :=
  let globalRate := getGlobalRate config.base now state.base
  (⟨reputationOr 0 senderId state, getAdjustedLimit config senderId state,
    getRate config.base senderId now state.base, globalRate.1⟩,
    { state with base := globalRate.2 })

end Chainmail.ReputationLimiter
