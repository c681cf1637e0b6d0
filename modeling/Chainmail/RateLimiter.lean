import Chainmail.JsArithmetic
import Chainmail.OrderedMap

/-!
The sliding-window limiter of `src/network/rate-limiter.js`, which
`rate-limiter.service.ts` repeats with the default options. Every call reads the
clock once. A sender is whatever the caller tells senders apart by.
-/

namespace Chainmail.RateLimiter

/-- `options.name || fallback`; an option that is not given is no number. -/
def orDefault (option : JsNumber) (fallback : Nat) : JsNumber :=
  if option.truthy then option else .ofNat fallback

/-- The options that the constructor settled on: an option that is left out, zero or
    no number gives way to the default. -/
structure Config where
  maxRequests : JsNumber
  windowMs : JsNumber
  globalMaxRequests : JsNumber
  hasMax : maxRequests.truthy = true
  hasWindow : windowMs.truthy = true
  hasGlobal : globalMaxRequests.truthy = true

theorem orDefault_truthy (option : JsNumber) {fallback : Nat} (positive : 0 < fallback) :
    (orDefault option fallback).truthy = true := by
  by_cases given : option.truthy = true
  · rw [orDefault, if_pos given, given]
  · have nonzero : (fallback : ℚ) ≠ 0 := Nat.cast_ne_zero.mpr (Nat.ne_of_gt positive)
    rw [orDefault, if_neg given]
    simpa [JsNumber.ofNat, JsNumber.truthy] using nonzero

def configure (maxRequests windowMs globalMaxRequests : JsNumber) : Config where
  maxRequests := orDefault maxRequests 10
  windowMs := orDefault windowMs 60000
  globalMaxRequests := orDefault globalMaxRequests 1000
  hasMax := orDefault_truthy _ (by decide)
  hasWindow := orDefault_truthy _ (by decide)
  hasGlobal := orDefault_truthy _ (by decide)

structure Limiter (Sender : Type) where
  requests : OrderedMap Sender (List Nat)
  globalRequests : List Nat

structure Result where
  allowed : Bool
  retryAfterMs : Option JsNumber
  reason : Option String

variable {Sender : Type} [DecidableEq Sender] (config : Config)

def start : Limiter Sender := ⟨OrderedMap.empty, []⟩

/-- `now - windowMs`, as the double that is nearest. -/
def windowStart (now : Nat) : JsNumber := (JsNumber.ofNat now).minus config.windowMs

/-- `t > windowStart` -/
def recent (now time : Nat) : Bool := (windowStart config now).lt (.ofNat time)

def pruned (now : Nat) (timestamps : List Nat) : List Nat := timestamps.filter (recent config now)

def timestampsOf (senderId : Sender) (limiter : Limiter Sender) : List Nat :=
  (limiter.requests.get senderId).getD []

/-- `oldestRequest + windowMs - now`; there is no oldest request when none is allowed. -/
def retryAfter (now : Nat) (timestamps : List Nat) : JsNumber :=
  match timestamps with
  | [] => .nan
  | oldestRequest :: _ => ((JsNumber.ofNat oldestRequest).plus config.windowMs).minus (.ofNat now)

/-- Whether the limit for all senders is reached. -/
def globalFull (now : Nat) (limiter : Limiter Sender) : Bool :=
  (JsNumber.ofNat (pruned config now limiter.globalRequests).length).ge config.globalMaxRequests

def check (senderId : Sender) (now : Nat) (limiter : Limiter Sender) : Result × Limiter Sender :=
  let full := globalFull config now limiter
  let limiter := { limiter with globalRequests := pruned config now limiter.globalRequests }
  if full then
    (⟨false, some (retryAfter config now limiter.globalRequests), some "global_limit_exceeded"⟩,
      limiter)
  else
    let senderRequests := pruned config now (timestampsOf senderId limiter)
    if (JsNumber.ofNat senderRequests.length).ge config.maxRequests then
      (⟨false, some (retryAfter config now senderRequests), some "sender_limit_exceeded"⟩, limiter)
    else (⟨true, none, none⟩, limiter)

def record (senderId : Sender) (now : Nat) (limiter : Limiter Sender) : Limiter Sender where
  requests := limiter.requests.set senderId (timestampsOf senderId limiter ++ [now])
  globalRequests := limiter.globalRequests ++ [now]

def checkAndRecord (senderId : Sender) (now : Nat) (limiter : Limiter Sender) :
    Result × Limiter Sender :=
  let checked := check config senderId now limiter
  if checked.1.allowed then (checked.1, record senderId now checked.2) else checked

structure Rate where
  count : Nat
  limit : JsNumber
  remaining : JsNumber
  resetMs : JsNumber

/-- `Math.max(0, limit - count)` -/
def remaining (limit : JsNumber) (count : Nat) : JsNumber :=
  let left := limit.minus (.ofNat count)
  if left.lt (.ofNat 0) then .ofNat 0 else left

def getRate (senderId : Sender) (now : Nat) (limiter : Limiter Sender) : Rate :=
  let senderRequests := pruned config now (timestampsOf senderId limiter)
  { count := senderRequests.length
    limit := config.maxRequests
    remaining := remaining config.maxRequests senderRequests.length
    resetMs := if senderRequests = [] then .ofNat 0 else retryAfter config now senderRequests }

structure GlobalRate where
  count : Nat
  limit : JsNumber
  remaining : JsNumber

def getGlobalRate (now : Nat) (limiter : Limiter Sender) : GlobalRate × Limiter Sender :=
  let globalRequests := pruned config now limiter.globalRequests
  (⟨globalRequests.length, config.globalMaxRequests,
    remaining config.globalMaxRequests globalRequests.length⟩, { limiter with globalRequests })

/-- The loop of `cleanup` over one sender's requests. -/
def cleanSender (now : Nat) (requests : OrderedMap Sender (List Nat))
    (entry : Sender × List Nat) : OrderedMap Sender (List Nat) :=
  let filtered := pruned config now entry.2
  if filtered.length = 0 then requests.delete entry.1 else requests.set entry.1 filtered

def cleanup (now : Nat) (limiter : Limiter Sender) : Limiter Sender where
  requests := limiter.requests.entries.foldl (cleanSender config now) limiter.requests
  globalRequests := pruned config now limiter.globalRequests

end Chainmail.RateLimiter
