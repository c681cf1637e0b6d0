import Chainmail.Base64
import Chainmail.JsArithmetic
import Chainmail.JsonAccess
import Chainmail.OrderedMap
import Chainmail.StableOrder
import Mathlib.Algebra.Order.Field.Rat
import Mathlib.Order.OrderDual
import Mathlib.Order.WithBot
import Mathlib.Tactic.Linarith

/-!
The relays an `OnionRouteBuilder` of `src/network/onion-routing.js` knows and how
it draws a route of them, which `onion-routing.service.ts` repeats. The draw computes
with numbers: `JsNumber.rounded` takes the result of each operation to a double, and
with `id` in its place the arithmetic is exact.
-/

namespace Chainmail.OnionRouting

def DEFAULT_HOP_COUNT : Nat := 3

/-- A number that relays can be sorted by; by `NaN` they could come in any order. -/
abbrev Score := { score : JsNumber // score ≠ .nan }

def Score.finite (value : ℚ) : Score := ⟨.finite value, JsNumber.finite_ne_nan value⟩

structure Relay where
  peerId : String
  publicKey : Bytes
  multiaddr : String
  score : Score

/-- What `Math.random()` returns. -/
structure MathRandom where
  value : ℚ
  nonneg : 0 ≤ value
  below_one : value < 1

def lowest : MathRandom := ⟨0, le_refl 0, zero_lt_one⟩

structure OnionRouteBuilder where
  hopCount : Nat
  knownRelays : OrderedMap String Relay
  hops : 0 < hopCount
  keyed : ∀ entry ∈ knownRelays.entries, entry.2.peerId = entry.1

/-- A public key as bytes or as their base64 text. -/
inductive PublicKey where
  | text (base64 : String)
  | raw (bytes : Bytes)

def PublicKey.read : PublicKey → Bytes
  | .text base64 => fromBase64 base64
  | .raw bytes => bytes

section Build

def hopCountOr (hopCount : Option Nat) : Nat :=
  match hopCount with
  | none | some 0 => DEFAULT_HOP_COUNT
  | some (more + 1) => more + 1

theorem hopCountOr_pos (hopCount : Option Nat) : 0 < hopCountOr hopCount := by
  unfold hopCountOr
  split
  · exact Nat.succ_pos _
  · exact Nat.succ_pos _
  · exact Nat.succ_pos _

/-- `new OnionRouteBuilder({ hopCount })` -/
def construct (hopCount : Option Nat) : OnionRouteBuilder where
  hopCount := hopCountOr hopCount
  knownRelays := .empty
  hops := hopCountOr_pos hopCount
  keyed _ member := absurd member List.not_mem_nil

theorem set_keyed {known : OrderedMap String Relay} (relay : Relay)
    (keyed : ∀ entry ∈ known.entries, entry.2.peerId = entry.1) :
    ∀ entry ∈ (known.set relay.peerId relay).entries, entry.2.peerId = entry.1 := by
  intro entry member
  have held := (OrderedMap.get_iff_mem _ entry.1 entry.2).mpr member
  rw [OrderedMap.get_set] at held
  split at held
  next own =>
    cases held
    exact own.symm
  next => exact keyed _ ((OrderedMap.get_iff_mem _ _ _).mp held)

def registerRelay (builder : OnionRouteBuilder) (peerId : String) (publicKey : PublicKey)
    (multiaddr : String) (score : Option Score) : OnionRouteBuilder :=
  let relay : Relay := ⟨peerId, publicKey.read, multiaddr, score.getD (.finite 100)⟩
  { builder with
    knownRelays := builder.knownRelays.set peerId relay
    keyed := set_keyed relay builder.keyed }

end Build

section Select

/-- The place of a number among all that are not `NaN`. -/
def rank : JsNumber → WithBot (WithTop ℚ)
  | .nan => ⊥
  | .negInfinity => ⊥
  | .posInfinity => ⊤
  | .finite value => ((value : WithTop ℚ) : WithBot (WithTop ℚ))

/-- Best scores first. -/
def byScore (relay : Relay) : (WithBot (WithTop ℚ))ᵒᵈ := OrderDual.toDual (rank relay.score)

def available (builder : OnionRouteBuilder) (excludePeers : List String) : List Relay :=
  ordered byScore
    (builder.knownRelays.values.filter fun relay => !excludePeers.contains relay.peerId)

variable (round : JsNumber → JsNumber)

def totalScore (relays : List Relay) : JsNumber :=
  relays.foldl (fun sum relay => round (sum.add relay.score)) (.finite 0)

/-- The inner loop: the relay at which `random` falls to zero, and the others. -/
def pick (random : JsNumber) : List Relay → Option (Relay × List Relay)
  | [] => none
  | relay :: rest =>
      let random := round (random.sub relay.score)
      if random.le (.finite 0) then some (relay, rest)
      else (pick random rest).map fun picked => (picked.1, relay :: picked.2)

/-- `Math.random() * totalScore` -/
def drawn (draw : MathRandom) (relays : List Relay) : JsNumber :=
  round ((JsNumber.finite draw.value).mul (totalScore round relays))

/-- The outer loop, one draw each round. A round may end without a relay. -/
def select : List MathRandom → List Relay → List Relay
  | [], _ => []
  | draw :: later, remaining =>
      match pick round (drawn round draw remaining) remaining with
      | none => select later remaining
      | some (relay, rest) => relay :: select later rest

/-- The draws are one for each of the `count` rounds. -/
def selectRelays (builder : OnionRouteBuilder) (count : Nat) (excludePeers : List String)
    (draws : List MathRandom) : Except Failure (List Relay) :=
  let available := available builder excludePeers
  if available.length < count then
    .error (.error ("Not enough relays available: need " ++ toString count ++ ", have " ++
      toString available.length))
  else .ok (select round draws available)

end Select

/-- Every round picks a relay. -/
def EachPicks (round : JsNumber → JsNumber) : List MathRandom → List Relay → Prop
  | [], _ => True
  | draw :: later, remaining =>
      match pick round (drawn round draw remaining) remaining with
      | none => False
      | some (_, rest) => EachPicks round later rest

section Rounds
variable {round : JsNumber → JsNumber} {random : JsNumber} {draws : List MathRandom}
  {relays rest : List Relay} {relay : Relay}

theorem mem_available {builder : OnionRouteBuilder} {excludePeers : List String}
    (member : relay ∈ available builder excludePeers) :
    relay ∈ builder.knownRelays.values ∧ relay.peerId ∉ excludePeers := by
  have listed := List.mem_filter.mp ((ordered_perm _).mem_iff.mp member)
  simpa using listed

theorem pick_perm (picked : pick round random relays = some (relay, rest)) :
    relays.Perm (relay :: rest) ∧ rest.Sublist relays := by
  induction relays generalizing random rest with
  | nil => cases picked
  | cons first others ih =>
      rw [pick] at picked
      split at picked
      next =>
        cases picked
        exact ⟨List.Perm.refl _, List.sublist_cons_self _ _⟩
      next =>
        obtain ⟨found, later, same⟩ := Option.map_eq_some_iff.mp picked
        cases same
        obtain ⟨perm, sub⟩ := ih later
        exact ⟨(perm.cons first).trans (List.Perm.swap _ _ _), sub.cons_cons first⟩

theorem mem_select (member : relay ∈ select round draws relays) : relay ∈ relays := by
  induction draws generalizing relays with
  | nil => cases member
  | cons draw later ih =>
      rw [select] at member
      split at member
      next => exact ih member
      next chosen rest picked =>
        obtain ⟨perm, sub⟩ := pick_perm picked
        rcases List.mem_cons.mp member with rfl | inside
        · exact perm.mem_iff.mpr List.mem_cons_self
        · exact sub.mem (ih inside)

theorem select_length_le (draws : List MathRandom) (relays : List Relay) :
    (select round draws relays).length ≤ draws.length := by
  induction draws generalizing relays with
  | nil => exact Nat.le_refl _
  | cons draw later ih =>
      rw [select]
      split
      next => exact (ih relays).trans (Nat.le_succ _)
      next chosen rest picked => exact Nat.succ_le_succ (ih rest)

/-- There are as many relays as rounds exactly when every round picks one. -/
theorem select_length_iff :
    (select round draws relays).length = draws.length ↔ EachPicks round draws relays := by
  induction draws generalizing relays with
  | nil => exact iff_of_true rfl trivial
  | cons draw later ih =>
      rw [select, EachPicks]
      split
      next =>
        have less : (select round later relays).length ≤ later.length :=
          select_length_le later relays
        refine iff_of_false (fun full => ?_) id
        rw [List.length_cons] at full
        omega
      next chosen rest picked => rw [List.length_cons, List.length_cons, Nat.add_right_cancel_iff, ih]

instance : Decidable (EachPicks round draws relays) := decidable_of_iff _ select_length_iff

end Rounds

section Sums
variable {round : JsNumber → JsNumber} {random : JsNumber} {draws : List MathRandom}
  {relays rest : List Relay} {relay : Relay}

/-- A finite score, and no negative one. -/
def NotNegative (score : Score) : Prop := ∃ value : ℚ, 0 ≤ value ∧ score.val = .finite value

/-- What a finite score adds to a sum. -/
def Relay.amount (relay : Relay) : ℚ :=
  match relay.score.val with
  | .finite value => value
  | _ => 0

theorem NotNegative.amount (nonneg : NotNegative relay.score) :
    0 ≤ relay.amount ∧ relay.score.val = .finite relay.amount := by
  obtain ⟨value, positive, finite⟩ := nonneg
  rw [Relay.amount, finite]
  exact ⟨positive, rfl⟩

def scores (relays : List Relay) : ℚ := (relays.map Relay.amount).sum

@[simp] theorem scores_cons (relay : Relay) (rest : List Relay) :
    scores (relay :: rest) = relay.amount + scores rest := by
  rw [scores, scores, List.map_cons, List.sum_cons]

@[simp] theorem scores_append (first second : List Relay) :
    scores (first ++ second) = scores first + scores second := by
  rw [scores, scores, scores, List.map_append, List.sum_append]

/-- Rounding leaves a number as it is, and what is at most that number stays so. -/
structure Fixes (round : JsNumber → JsNumber) (value : ℚ) : Prop where
  same : round (.finite value) = .finite value
  below : ∀ less ≤ value, (round (.finite less)).le (.finite value) = true

/-- The scores of any of the relays have a sum that rounding leaves as it is. -/
structure Sums (round : JsNumber → JsNumber) (relays : List Relay) : Prop where
  infinite : round .negInfinity = .negInfinity
  nonneg : ∀ relay ∈ relays, NotNegative relay.score
  fixed : ∀ part, part.Sublist relays → Fixes round (scores part)

theorem Sums.sublist (sums : Sums round relays) (fewer : rest.Sublist relays) : Sums round rest where
  infinite := sums.infinite
  nonneg relay member := sums.nonneg relay (fewer.mem member)
  fixed part inside := sums.fixed part (inside.trans fewer)

theorem Sums.scores_nonneg (sums : Sums round relays) : 0 ≤ scores relays := by
  refine List.sum_nonneg fun score member => ?_
  obtain ⟨relay, inside, rfl⟩ := List.mem_map.mp member
  exact (sums.nonneg relay inside).amount.1

theorem Sums.totalScore (sums : Sums round relays) :
    totalScore round relays = .finite (scores relays) := by
  -- The loop has the sum of the relays in front of the ones it has still to go through.
  have loop (front rest : List Relay) (split : front ++ rest = relays) :
      rest.foldl (fun sum relay => round (sum.add relay.score)) (.finite (scores front)) =
        .finite (scores relays) := by
    induction rest generalizing front with
    | nil => rw [List.foldl_nil, ← split, List.append_nil]
    | cons relay rest ih =>
        have regrouped : front ++ [relay] ++ rest = relays := by simpa using split
        have part : (front ++ [relay]).Sublist relays := regrouped ▸ List.sublist_append_left _ _
        have added := (sums.fixed _ part).same
        rw [scores_append, scores_cons] at added
        have none : scores [] = 0 := rfl
        rw [none, add_zero] at added
        have member : relay ∈ relays := part.mem (List.mem_append_right _ List.mem_cons_self)
        rw [List.foldl_cons, (sums.nonneg relay member).amount.2, JsNumber.add, added]
        have next := ih (front ++ [relay]) regrouped
        rwa [scores_append, scores_cons, none, add_zero] at next
  exact loop [] relays rfl

/-- A number that is at most the sum of the scores falls to zero on the way through them. -/
theorem pick_isSome (sums : Sums round relays) (nonempty : relays ≠ [])
    (within : random.le (.finite (scores relays)) = true) : (pick round random relays).isSome := by
  induction relays generalizing random with
  | nil => exact absurd rfl nonempty
  | cons relay rest ih =>
      have later := sums.sublist (List.sublist_cons_self relay rest)
      have own := (sums.nonneg relay List.mem_cons_self).amount.2
      have left : (round (random.sub relay.score)).le (.finite (scores rest)) = true := by
        rw [own]
        cases random with
        | finite value =>
            rw [JsNumber.le_finite, scores_cons] at within
            exact (later.fixed rest (List.Sublist.refl _)).below _ (by linarith)
        | negInfinity =>
            have same : JsNumber.negInfinity.sub (.finite relay.amount) = .negInfinity := rfl
            rw [same, sums.infinite]
            rfl
        | nan => cases within
        | posInfinity => cases within
      rw [pick]
      split
      next => rfl
      next beyond =>
        rw [Option.isSome_map]
        refine ih later (fun empty => ?_) left
        -- Behind the last relay nothing is left of the sum.
        subst empty
        exact beyond left

/-- Every round of a draw picks a relay where the sums of the scores are kept by rounding. -/
theorem eachPicks_of_sums (sums : Sums round relays) (enough : draws.length ≤ relays.length) :
    EachPicks round draws relays := by
  induction draws generalizing relays with
  | nil => trivial
  | cons draw later ih =>
      have nonempty : relays ≠ [] := List.ne_nil_of_length_pos (Nat.zero_lt_of_lt enough)
      have whole := sums.fixed relays (List.Sublist.refl _)
      have product : draw.value * scores relays ≤ scores relays :=
        mul_le_of_le_one_left sums.scores_nonneg draw.below_one.le
      have picked : (pick round (drawn round draw relays) relays).isSome := by
        refine pick_isSome sums nonempty ?_
        rw [drawn, sums.totalScore, JsNumber.mul]
        exact whole.below _ product
      obtain ⟨⟨relay, rest⟩, found⟩ := Option.isSome_iff_exists.mp picked
      obtain ⟨perm, sub⟩ := pick_perm found
      rw [EachPicks, found]
      refine ih (sums.sublist sub) ?_
      have size := perm.length_eq
      rw [List.length_cons] at enough size
      omega

/-- Exact arithmetic keeps every sum. -/
theorem sums_exact (nonneg : ∀ relay ∈ relays, NotNegative relay.score) : Sums id relays where
  infinite := rfl
  nonneg := nonneg
  fixed _ _ := ⟨rfl, fun _ less => JsNumber.le_finite.mpr less⟩

/-- Whole numbers that are not negative, of a sum that a double holds with all whole numbers
    below it. -/
def WholeScores (relays : List Relay) : Prop :=
  (∀ relay ∈ relays, ∃ n : Nat, relay.score.val = .ofNat n) ∧ scores relays ≤ 2 ^ 53

theorem scores_natural (whole : ∀ relay ∈ relays, ∃ n : Nat, relay.score.val = .ofNat n) :
    ∃ n : Nat, scores relays = n := by
  induction relays with
  | nil => exact ⟨0, by simp [scores]⟩
  | cons relay rest ih =>
      obtain ⟨first, own⟩ := whole relay List.mem_cons_self
      obtain ⟨others, sum⟩ := ih fun other member => whole other (List.mem_cons_of_mem _ member)
      have amount : relay.amount = first := by
        rw [Relay.amount, own]
        rfl
      exact ⟨first + others, by rw [scores_cons, amount, sum, Nat.cast_add]⟩

theorem scores_le (nonneg : ∀ relay ∈ relays, NotNegative relay.score) (fewer : rest.Sublist relays) :
    scores rest ≤ scores relays := by
  refine (fewer.map Relay.amount).sum_le_sum fun score member => ?_
  obtain ⟨relay, inside, rfl⟩ := List.mem_map.mp member
  exact (nonneg relay inside).amount.1

theorem sums_rounded (whole : WholeScores relays) : Sums JsNumber.rounded relays := by
  have nonneg : ∀ relay ∈ relays, NotNegative relay.score := by
    intro relay member
    obtain ⟨n, natural⟩ := whole.1 relay member
    exact ⟨n, Nat.cast_nonneg n, natural⟩
  refine ⟨rfl, nonneg, fun part fewer => ?_⟩
  obtain ⟨n, natural⟩ := scores_natural fun relay member => whole.1 relay (fewer.mem member)
  have small : (n : ℚ) ≤ 2 ^ 53 := natural ▸ (scores_le nonneg fewer).trans whole.2
  have same : JsNumber.rounded (.finite (scores part)) = .finite (scores part) := by
    have size : |(n : ℤ)| ≤ 2 ^ 53 := by
      rw [Nat.abs_cast]
      exact_mod_cast small
    rw [natural, ← Int.cast_natCast, JsNumber.rounded_int size]
  refine ⟨same, fun less order => ?_⟩
  rw [← same]
  exact JsNumber.rounded_le_rounded order

end Sums

end Chainmail.OnionRouting
