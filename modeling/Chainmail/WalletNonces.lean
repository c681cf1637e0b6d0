import Chainmail.JsonAccess
import Chainmail.PackageAssumptions
import Chainmail.Runs
import Chainmail.WalletLogin

/-!
What `authenticateWallet` of `src/server/auth.js` lets through. Its arguments come from a
request and are any JSON values or missing. A nonce is marked, dropped when it is found
to be expired, swept by every new one, and deleted by a timer a minute after its use.
-/

namespace Chainmail.WalletNonces

open WalletLogin (Call Refusal Server NonceRecord NONCE_EXPIRY CHALLENGE_MESSAGE lower verifyNonce
  consumeNonce generateNonce forgetNonce createSession validateSession destroySession
  sweepSessions)

variable {P : Packages} (verifyMessage : String → Option Json → Option String)

/-- Only a text is the key of a nonce. An address that is no text cannot be lowered:
    the error that this throws is what the login answers with. -/
def authenticateWallet (server : Server P) (signature walletAddress nonce : Option Json)
    (now : Nat) : Call P String :=
  match nonce with
  | some (.string nonce) =>
      (verifyNonce server nonce now).andThen fun _ server =>
        match verifyMessage (CHALLENGE_MESSAGE ++ nonce) signature with
        | none => .throws server (.unauthorized "Invalid signature format")
        | some recoveredAddress =>
            match walletAddress with
            | some (.string walletAddress) =>
                if lower recoveredAddress = lower walletAddress then
                  .returns (consumeNonce server nonce) recoveredAddress
                else .throws server (.unauthorized "Signature does not match wallet address")
            | _ => .throws server (.failed "Authentication failed")
  | _ => .throws server (.unauthorized "Invalid nonce")

/-- On texts, it is the function that the login calls. -/
theorem authenticateWallet_texts (E : Ethers)
    (agrees : ∀ message signature,
      verifyMessage message (some (.string signature)) = E.verifyMessage message signature)
    (server : Server P) (signature walletAddress nonce : String) (now : Nat) :
    authenticateWallet verifyMessage server (some (.string signature))
        (some (.string walletAddress)) (some (.string nonce)) now =
      WalletLogin.authenticateWallet E server signature walletAddress nonce now := by
  simp only [authenticateWallet, agrees]
  rfl

inductive Event where
  | generateNonce (draw : Bytes)
  | authenticateWallet (signature walletAddress nonce : Option Json)
  | nonceTimer (nonce : String)
  | createSession (walletAddress dmailAddress token : String)
  | validateSession (token : String)
  | destroySession (token : String)
  | sweepSessions

/-- An event, and the time that it reads. -/
structure Input where
  event : Event
  now : Nat

def step (server : Server P) (input : Input) : Server P :=
  match input.event with
  | .generateNonce draw => generateNonce server draw input.now
  | .authenticateWallet signature walletAddress nonce =>
      (authenticateWallet verifyMessage server signature walletAddress nonce input.now).state
  | .nonceTimer nonce => forgetNonce server nonce
  | .createSession walletAddress dmailAddress token =>
      createSession server walletAddress dmailAddress token input.now
  | .validateSession token => (validateSession server token input.now).state
  | .destroySession token => destroySession server token
  | .sweepSessions => sweepSessions server input.now

variable (P) in
/-- The last input comes first. -/
def replay : List Input → Server P
  | [] => WalletLogin.started
  | input :: earlier => step verifyMessage (replay earlier) input

/-- The input hands the nonce out. -/
def Generates (nonce : String) (input : Input) : Prop :=
  ∃ draw, input.event = .generateNonce draw ∧ toHex draw = nonce

/-- The input authenticates a wallet, and this is its nonce. -/
def Succeeds (nonce : String) (input : Input) (server : Server P) : Prop :=
  ∃ signature walletAddress recovered,
    input.event = .authenticateWallet signature walletAddress (some (.string nonce)) ∧
      (authenticateWallet verifyMessage server signature walletAddress (some (.string nonce))
        input.now).result = .ok recovered

variable (P) in
def Authenticates (nonce : String) (input : Input) (earlier : List Input) : Prop :=
  Succeeds verifyMessage nonce input (replay P verifyMessage earlier)

variable (P) in
/-- A run of the server: the clock does not go back, no nonce is drawn twice, and a
    timer runs out a minute after the use that started it. -/
structure History where
  past : List Input
  timed : EachInput (fun input earlier => ∀ old ∈ earlier, old.now ≤ input.now) past
  fresh : EachInput (fun input earlier => ∀ nonce, Generates nonce input →
    ∀ old ∈ earlier, ¬ Generates nonce old) past
  scheduled : EachInput (fun input earlier => ∀ nonce, input.event = .nonceTimer nonce →
    ∃ used before, used :: before <:+ earlier ∧ Authenticates P verifyMessage nonce used before ∧
      used.now + 60000 ≤ input.now) past

variable (P) in
structure SingleUse (past : List Input) : Prop where
  once : ∀ nonce first before second between,
    first :: before <:+ past → Authenticates P verifyMessage nonce first before →
    second :: between <:+ past → Authenticates P verifyMessage nonce second between →
      first :: before = second :: between
  checked : ∀ input earlier signature walletAddress nonce recovered,
    input :: earlier <:+ past → input.event = .authenticateWallet signature walletAddress nonce →
    (authenticateWallet verifyMessage (replay P verifyMessage earlier) signature walletAddress
      nonce input.now).result = .ok recovered →
    ∃ text wallet, nonce = some (.string text) ∧ walletAddress = some (.string wallet) ∧
      verifyMessage (CHALLENGE_MESSAGE ++ text) signature = some recovered ∧
      lower recovered = lower wallet ∧
      ∃ created ∈ earlier, Generates text created ∧ created.now ≤ input.now ∧
        input.now ≤ created.now + NONCE_EXPIRY
  unspent : ∀ nonce created now, created ∈ past → Generates nonce created →
    EachInput (fun input earlier => ¬ Authenticates P verifyMessage nonce input earlier) past →
    (∀ input ∈ past, input.now ≤ now) → now ≤ created.now + NONCE_EXPIRY →
      verifyNonce (replay P verifyMessage past) nonce now =
        .returns (replay P verifyMessage past) ()

section Steps
variable {input : Input} {earlier : List Input}

/-- A verification finds no unused nonce in time and drops it at most, or it finds one. -/
theorem verifyNonce_spec (server : Server P) (nonce : String) (now : Nat) :
    (∃ refusal, verifyNonce server nonce now = .throws server refusal) ∨
    (∃ record refusal, server.nonces.get nonce = some record ∧ record.expires < now ∧
      verifyNonce server nonce now = .throws (forgetNonce server nonce) refusal) ∨
    ∃ record, server.nonces.get nonce = some record ∧ now ≤ record.expires ∧
      record.used = false ∧ verifyNonce server nonce now = .returns server () := by
  unfold verifyNonce
  cases found : server.nonces.get nonce with
  | none => exact .inl ⟨_, rfl⟩
  | some record =>
      by_cases expired : record.expires < now
      · exact .inr (.inl ⟨record, _, rfl, expired, if_pos expired⟩)
      · cases used : record.used with
        | false => exact .inr (.inr ⟨record, rfl, by omega, used, by simp [expired, used]⟩)
        | true => exact .inl ⟨.unauthorized "Nonce already used", by simp [expired, used]⟩

/-- An attempt fails and drops a nonce that has expired at most, or it passes every
    check and marks its nonce. -/
theorem authenticateWallet_spec (server : Server P) (signature walletAddress nonce : Option Json)
    (now : Nat) :
    (∃ refusal, authenticateWallet verifyMessage server signature walletAddress nonce now =
      .throws server refusal) ∨
    (∃ text record refusal, server.nonces.get text = some record ∧ record.expires < now ∧
      authenticateWallet verifyMessage server signature walletAddress nonce now =
        .throws (forgetNonce server text) refusal) ∨
    ∃ text record wallet recovered, nonce = some (.string text) ∧
      server.nonces.get text = some record ∧ now ≤ record.expires ∧ record.used = false ∧
      walletAddress = some (.string wallet) ∧
      verifyMessage (CHALLENGE_MESSAGE ++ text) signature = some recovered ∧
      lower recovered = lower wallet ∧
      authenticateWallet verifyMessage server signature walletAddress nonce now =
        .returns { server with nonces := server.nonces.set text { record with used := true } }
          recovered := by
  unfold authenticateWallet
  split
  next text =>
    rcases verifyNonce_spec server text now with
      ⟨refusal, checked⟩ | ⟨record, refusal, found, expired, checked⟩ |
        ⟨record, found, timely, unused, checked⟩
    · exact .inl ⟨refusal, by rw [checked]; rfl⟩
    · exact .inr (.inl ⟨text, record, refusal, found, expired, by rw [checked]; rfl⟩)
    -- A good nonce is marked only after the signature was found to be the wallet's.
    · rw [checked, Outcome.returns_andThen]
      split
      next => exact .inl ⟨_, rfl⟩
      next recovered verified =>
        split
        next wallet =>
          by_cases own : lower recovered = lower wallet
          · refine .inr (.inr ⟨text, record, wallet, recovered, rfl, found, timely, unused, rfl,
              verified, own, ?_⟩)
            rw [if_pos own, consumeNonce, found]
          · exact .inl ⟨_, if_neg own⟩
        next => exact .inl ⟨_, rfl⟩
  next => exact .inl ⟨_, rfl⟩

/-- What an input does to the nonces; unless it uses one up, it authenticates with none. -/
inductive NonceStep (verifyMessage : String → Option Json → Option String) (server : Server P)
    (input : Input) (after : OrderedMap String NonceRecord) : Prop
  | generated (nonce : String) :
      Generates nonce input → (∀ other, ¬ Succeeds verifyMessage other input server) →
      after = (server.nonces.set nonce ⟨input.now + NONCE_EXPIRY, false⟩).keep
        (fun _ record => !decide (record.expires < input.now)) →
      NonceStep verifyMessage server input after
  | timer (nonce : String) :
      input.event = .nonceTimer nonce → (∀ other, ¬ Succeeds verifyMessage other input server) →
      after = server.nonces.delete nonce → NonceStep verifyMessage server input after
  | expired (nonce : String) (record : NonceRecord) :
      server.nonces.get nonce = some record → record.expires < input.now →
      (∀ other, ¬ Succeeds verifyMessage other input server) →
      after = server.nonces.delete nonce → NonceStep verifyMessage server input after
  | used (nonce : String) (record : NonceRecord) :
      server.nonces.get nonce = some record → record.used = false → input.now ≤ record.expires →
      Succeeds verifyMessage nonce input server →
      (∀ other, Succeeds verifyMessage other input server → other = nonce) →
      after = server.nonces.set nonce { record with used := true } →
      NonceStep verifyMessage server input after
  | same :
      (∀ other, ¬ Succeeds verifyMessage other input server) → after = server.nonces →
      NonceStep verifyMessage server input after

theorem validateSession_nonces (server : Server P) (token : String) (now : Nat) :
    (validateSession server token now).state.nonces = server.nonces := by
  unfold validateSession
  split
  · rfl
  · split
    · rfl
    · split <;> rfl

theorem step_nonces (server : Server P) (input : Input) :
    NonceStep verifyMessage server input (step verifyMessage server input).nonces := by
  obtain ⟨event, now⟩ := input
  -- Only an attempt authenticates.
  have idle (no : ∀ signature walletAddress nonce,
      event ≠ .authenticateWallet signature walletAddress nonce) :
      ∀ other, ¬ Succeeds verifyMessage other ⟨event, now⟩ server := by
    rintro other ⟨signature, walletAddress, _, attempt, _⟩
    exact no _ _ _ attempt
  cases event with
  | generateNonce draw =>
      exact .generated (toHex draw) ⟨draw, rfl, rfl⟩ (idle fun _ _ _ same => by cases same) rfl
  | nonceTimer nonce => exact .timer nonce rfl (idle fun _ _ _ same => by cases same) rfl
  | createSession walletAddress dmailAddress token =>
      exact .same (idle fun _ _ _ same => by cases same) rfl
  | validateSession token =>
      exact .same (idle fun _ _ _ same => by cases same) (validateSession_nonces server token now)
  | destroySession token => exact .same (idle fun _ _ _ same => by cases same) rfl
  | sweepSessions => exact .same (idle fun _ _ _ same => by cases same) rfl
  | authenticateWallet signature walletAddress nonce =>
      have failing {refusal : Refusal} {after : Server P}
          (failed : authenticateWallet verifyMessage server signature walletAddress nonce now =
            .throws after refusal) :
          ∀ other, ¬ Succeeds verifyMessage other
            ⟨.authenticateWallet signature walletAddress nonce, now⟩ server := by
        rintro other ⟨_, _, _, attempt, success⟩
        cases attempt
        rw [failed] at success
        cases success
      rcases authenticateWallet_spec verifyMessage server signature
          walletAddress nonce now with
        ⟨refusal, failed⟩ | ⟨text, record, refusal, found, late, failed⟩ |
          ⟨text, record, wallet, recovered, rfl, found, timely, unused, _, _, _, passed⟩
      · exact .same (failing failed) (by simp [step, failed])
      · exact .expired text record found late (failing failed) (by simp [step, failed, forgetNonce])
      · refine .used text record found unused timely ?_ ?_ (by simp [step, passed])
        · exact ⟨signature, walletAddress, recovered, rfl, by rw [passed]; rfl⟩
        · rintro other ⟨_, _, _, attempt, _⟩
          cases attempt
          rfl

variable {verifyMessage}

/-- A nonce that is there was handed out by this input, or it was there before. It is
    unused only if it was before, and this input did not authenticate with it. -/
theorem nonce_origin {nonce : String} {record : NonceRecord}
    (found : (replay P verifyMessage (input :: earlier)).nonces.get nonce = some record) :
    (Generates nonce input ∧ record = ⟨input.now + NONCE_EXPIRY, false⟩) ∨
      ∃ old, (replay P verifyMessage earlier).nonces.get nonce = some old ∧
        record.expires = old.expires ∧ (record.used = false →
          old.used = false ∧ ¬ Authenticates P verifyMessage nonce input earlier) := by
  rw [replay] at found
  cases step_nonces verifyMessage (replay P verifyMessage earlier) input with
  | generated drawn generates quiet after =>
      rw [after, OrderedMap.get_keep, Option.filter_eq_some_iff, OrderedMap.get_set] at found
      by_cases own : nonce = drawn
      · rw [if_pos own] at found
        exact .inl ⟨own ▸ generates, (Option.some.inj found.1).symm⟩
      · rw [if_neg own] at found
        exact .inr ⟨record, found.1, rfl, fun unused => ⟨unused, quiet nonce⟩⟩
  | timer text event quiet after =>
      rw [after, OrderedMap.get_delete] at found
      split at found
      · cases found
      · exact .inr ⟨record, found, rfl, fun unused => ⟨unused, quiet nonce⟩⟩
  | expired text old held late quiet after =>
      rw [after, OrderedMap.get_delete] at found
      split at found
      · cases found
      · exact .inr ⟨record, found, rfl, fun unused => ⟨unused, quiet nonce⟩⟩
  | used text old held unused timely succeeds only after =>
      rw [after, OrderedMap.get_set] at found
      by_cases own : nonce = text
      · rw [if_pos own] at found
        cases found
        exact .inr ⟨old, own ▸ held, rfl, fun marked => by cases marked⟩
      · rw [if_neg own] at found
        exact .inr ⟨record, found, rfl, fun unused => ⟨unused, fun again => own (only nonce again)⟩⟩
  | same quiet after =>
      rw [after] at found
      exact .inr ⟨record, found, rfl, fun unused => ⟨unused, quiet nonce⟩⟩

/-- A nonce that has not expired stays as it is, until it is used, handed out again, or
    its timer runs out. -/
theorem nonce_kept {nonce : String} {record : NonceRecord}
    (found : (replay P verifyMessage earlier).nonces.get nonce = some record)
    (timely : input.now ≤ record.expires) (new : ¬ Generates nonce input)
    (untimed : input.event ≠ .nonceTimer nonce)
    (unspent : ¬ Authenticates P verifyMessage nonce input earlier) :
    (replay P verifyMessage (input :: earlier)).nonces.get nonce = some record := by
  rw [replay]
  cases step_nonces verifyMessage (replay P verifyMessage earlier) input with
  | generated drawn generates quiet after =>
      have other : nonce ≠ drawn := by
        rintro rfl
        exact new generates
      rw [after, OrderedMap.get_keep, OrderedMap.get_set_of_ne _ _ other, found,
        Option.filter_some, if_pos]
      simpa using timely
  | timer text event quiet after =>
      have other : nonce ≠ text := by
        rintro rfl
        exact untimed event
      rw [after, OrderedMap.get_delete_of_ne _ other, found]
  -- An expired nonce is another one: this one has not expired.
  | expired text old held late quiet after =>
      have other : nonce ≠ text := by
        rintro rfl
        cases held.symm.trans found
        omega
      rw [after, OrderedMap.get_delete_of_ne _ other, found]
  | used text old held unused timely succeeds only after =>
      have other : nonce ≠ text := by
        rintro rfl
        exact unspent succeeds
      rw [after, OrderedMap.get_set_of_ne _ _ other, found]
  | same quiet after => rw [after, found]

theorem authenticates_held {nonce : String}
    (authenticates : Authenticates P verifyMessage nonce input earlier) :
    ∃ record, (replay P verifyMessage earlier).nonces.get nonce = some record ∧
      record.used = false ∧ input.now ≤ record.expires := by
  cases step_nonces verifyMessage (replay P verifyMessage earlier) input with
  | used text record held unused timely _ only _ =>
      rw [only nonce authenticates]
      exact ⟨record, held, unused, timely⟩
  | generated _ _ quiet _ => exact absurd authenticates (quiet nonce)
  | timer _ _ quiet _ => exact absurd authenticates (quiet nonce)
  | expired _ _ _ _ quiet _ => exact absurd authenticates (quiet nonce)
  | same quiet _ => exact absurd authenticates (quiet nonce)

end Steps

section Runs
variable {verifyMessage} {past : List Input}

/-- A nonce that is there was handed out. -/
theorem nonce_generated {nonce : String} {record : NonceRecord}
    (found : (replay P verifyMessage past).nonces.get nonce = some record) :
    ∃ created ∈ past, Generates nonce created ∧ record.expires = created.now + NONCE_EXPIRY := by
  induction past generalizing record with
  | nil => cases found
  | cons last before ih =>
      rcases nonce_origin found with ⟨generates, rfl⟩ | ⟨old, held, same, _⟩
      · exact ⟨last, List.mem_cons_self, generates, rfl⟩
      · obtain ⟨created, member, generates, expires⟩ := ih held
        exact ⟨created, List.mem_cons_of_mem _ member, generates, same.trans expires⟩

/-- While it is unused, nobody has authenticated with it. -/
theorem nonce_unspent {nonce : String} {record : NonceRecord}
    (fresh : EachInput (fun input earlier => ∀ nonce, Generates nonce input →
      ∀ old ∈ earlier, ¬ Generates nonce old) past)
    (found : (replay P verifyMessage past).nonces.get nonce = some record)
    (unused : record.used = false) :
    EachInput (fun input earlier => ¬ Authenticates P verifyMessage nonce input earlier) past := by
  induction past generalizing record with
  | nil => cases found
  | cons last before ih =>
      obtain ⟨new, older⟩ := eachInput_cons.mp fresh
      rcases nonce_origin found with ⟨generates, rfl⟩ | ⟨old, held, _, unspent⟩
      · intro input earlier suffix authenticates
        rcases List.suffix_cons_iff.mp suffix with same | inner
        · cases same
          obtain ⟨draw, drawn, _⟩ := generates
          obtain ⟨_, _, _, attempt, _⟩ := authenticates
          rw [drawn] at attempt
          cases attempt
        · -- Whoever authenticated with it, it was handed out before that.
          obtain ⟨record, held, _⟩ := authenticates_held authenticates
          obtain ⟨created, member, generated, _⟩ := nonce_generated held
          have listed := inner.subset (List.mem_cons_of_mem input member)
          exact new nonce generates created listed generated
      · exact eachInput_cons.mpr ⟨(unspent unused).2, ih older held (unspent unused).1⟩

/-- A nonce that nobody authenticated with is there and unused until it expires. -/
theorem nonce_stays {nonce : String} {created : Input} {now : Nat}
    (timed : EachInput (fun input earlier => ∀ old ∈ earlier, old.now ≤ input.now) past)
    (fresh : EachInput (fun input earlier => ∀ nonce, Generates nonce input →
      ∀ old ∈ earlier, ¬ Generates nonce old) past)
    (scheduled : EachInput (fun input earlier => input.event = .nonceTimer nonce →
      ∃ used before, used :: before <:+ earlier ∧ Authenticates P verifyMessage nonce used before)
      past)
    (member : created ∈ past) (generates : Generates nonce created)
    (unspent : EachInput (fun input earlier => ¬ Authenticates P verifyMessage nonce input earlier)
      past)
    (late : ∀ input ∈ past, input.now ≤ now) (timely : now ≤ created.now + NONCE_EXPIRY) :
    (replay P verifyMessage past).nonces.get nonce = some ⟨created.now + NONCE_EXPIRY, false⟩ := by
  induction past with
  | nil => cases member
  | cons last before ih =>
      obtain ⟨new, older⟩ := eachInput_cons.mp fresh
      obtain ⟨own, others⟩ := eachInput_cons.mp unspent
      rcases List.mem_cons.mp member with rfl | inside
      · obtain ⟨draw, drawn, rfl⟩ := generates
        rw [replay, step, drawn]
        simp [generateNonce, OrderedMap.get_keep, NONCE_EXPIRY]
      · apply nonce_kept
        · exact ih (eachInput_cons.mp timed).2 older (eachInput_cons.mp scheduled).2 inside others
            fun input listed => late input (List.mem_cons_of_mem _ listed)
        · exact (late last List.mem_cons_self).trans timely
        · exact fun again => new nonce again created inside generates
        · intro timer
          obtain ⟨used, earlier, suffix, authenticates⟩ := (eachInput_cons.mp scheduled).1 timer
          exact others used earlier suffix authenticates
        · exact own

theorem authenticates_once {nonce : String} {first second : Input} {before between : List Input}
    (history : History P verifyMessage)
    (inside : first :: before <:+ history.past)
    (authenticates : Authenticates P verifyMessage nonce first before)
    (later : second :: between <:+ history.past)
    (again : Authenticates P verifyMessage nonce second between) :
    first :: before = second :: between := by
  -- The later of the two finds the nonce unused, so it is no later.
  have apart {first second : Input} {before between : List Input}
      (later : second :: between <:+ history.past)
      (again : Authenticates P verifyMessage nonce second between)
      (authenticates : Authenticates P verifyMessage nonce first before)
      (suffix : first :: before <:+ second :: between) :
      first :: before = second :: between := by
    rcases List.suffix_cons_iff.mp suffix with same | inner
    · exact same
    · obtain ⟨record, held, unused, _⟩ := authenticates_held again
      have fresh := history.fresh.suffix ((List.suffix_cons second between).trans later)
      exact absurd authenticates (nonce_unspent fresh held unused first before inner)
  rcases List.suffix_or_suffix_of_suffix inside later with onward | backward
  · exact apart later again authenticates onward
  · exact (apart inside authenticates again backward).symm

theorem authenticates_checked {input : Input} {earlier past : List Input}
    {signature walletAddress nonce : Option Json} {recovered : String}
    (timed : EachInput (fun input earlier => ∀ old ∈ earlier, old.now ≤ input.now) past)
    (inside : input :: earlier <:+ past)
    (success : (authenticateWallet verifyMessage (replay P verifyMessage earlier) signature
      walletAddress nonce input.now).result = .ok recovered) :
    ∃ text wallet, nonce = some (.string text) ∧ walletAddress = some (.string wallet) ∧
      verifyMessage (CHALLENGE_MESSAGE ++ text) signature = some recovered ∧
      lower recovered = lower wallet ∧
      ∃ created ∈ earlier, Generates text created ∧ created.now ≤ input.now ∧
        input.now ≤ created.now + NONCE_EXPIRY := by
  rcases authenticateWallet_spec verifyMessage (replay P verifyMessage earlier)
      signature walletAddress nonce input.now with
    ⟨refusal, failed⟩ | ⟨text, record, refusal, _, _, failed⟩ |
      ⟨text, record, wallet, own, isText, held, timely, _, isWallet, verified, same, passed⟩
  · rw [failed] at success
    cases success
  · rw [failed] at success
    cases success
  · rw [passed] at success
    cases success
    obtain ⟨created, member, generates, expires⟩ := nonce_generated held
    rw [expires] at timely
    exact ⟨text, wallet, isText, isWallet, verified, same, created, member, generates,
      timed input earlier inside created member, timely⟩

/-- In every run, a nonce authenticates at most once, in time and by the wallet that signed
    it, and no failed attempt takes that away. -/
theorem nonces_single_use (verifyMessage : String → Option Json → Option String)
    (history : History P verifyMessage) : SingleUse P verifyMessage history.past := by
  constructor
  · intro nonce first before second between inside authenticates later again
    exact authenticates_once history inside authenticates later again
  · intro input earlier signature walletAddress nonce recovered inside _ success
    exact authenticates_checked history.timed inside success
  · intro nonce created now member generates unspent late timely
    have scheduled : EachInput (fun input earlier => input.event = .nonceTimer nonce →
        ∃ used before, used :: before <:+ earlier ∧
          Authenticates P verifyMessage nonce used before) history.past := by
      intro input earlier suffix timer
      obtain ⟨used, before, inside, authenticates, _⟩ :=
        history.scheduled input earlier suffix nonce timer
      exact ⟨used, before, inside, authenticates⟩
    have held := nonce_stays history.timed history.fresh scheduled member generates unspent late
      timely
    simp [verifyNonce, held, timely]

end Runs

section Example

/-- The wallet signs by putting its name behind a message. -/
def signedBy (message : String) : Option Json → Option String
  | some (.string signature) => if signature = message ++ " alice" then some "0xALICE" else none
  | _ => none

def aliceNonce : Bytes := List.replicate 32 7

/-- An attempt for the wallet, with what is put behind the challenge. -/
def attempt (suffix : String) (now : Nat) : Input where
  event := .authenticateWallet (some (.string (CHALLENGE_MESSAGE ++ toHex aliceNonce ++ suffix)))
    (some (.string "0xalice")) (some (.string (toHex aliceNonce)))
  now := now

/-- Somebody fails with the wallet's nonce, the wallet gets in with it, and then not again. -/
def attempts : List Input :=
  [⟨.nonceTimer (toHex aliceNonce), 60003⟩, attempt " alice" 4, attempt " alice" 3,
    attempt " mallory" 2, ⟨.generateNonce aliceNonce, 1⟩]

theorem attempts_authenticate : Authenticates samplePackages signedBy (toHex aliceNonce)
    (attempt " alice" 3) (attempts.drop 3) :=
  ⟨_, _, "0xALICE", rfl, rfl⟩

def aliceHistory : History samplePackages signedBy where
  past := attempts
  timed := by simp [attempts, attempt, eachInput_cons, eachInput_nil]
  fresh := by simp [attempts, attempt, Generates, eachInput_cons, eachInput_nil]
  scheduled := by
    simp only [attempts, attempt, eachInput_cons, eachInput_nil, Event.nonceTimer.injEq,
      reduceCtorEq, false_implies, implies_true, and_true]
    rintro nonce rfl
    exact ⟨_, _, ⟨[attempt " alice" 4], rfl⟩, attempts_authenticate, le_refl _⟩

/-- The wallet gets in once in this run: its second attempt does not authenticate. -/
theorem second_attempt_refused : SingleUse samplePackages signedBy attempts ∧
    ¬ Authenticates samplePackages signedBy (toHex aliceNonce) (attempt " alice" 4)
      (attempts.drop 2) := by
  have single := nonces_single_use signedBy aliceHistory
  refine ⟨single, fun again => ?_⟩
  have same := single.once _ _ _ _ _ ⟨attempts.take 2, rfl⟩ attempts_authenticate
    ⟨attempts.take 1, rfl⟩ again
  exact absurd (congrArg List.length same) (by decide)

end Example

end Chainmail.WalletNonces
