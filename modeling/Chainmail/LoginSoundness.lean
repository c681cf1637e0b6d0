import Chainmail.AuthService

/-!
Who gets past the login of the API. A challenge is good for one verification, by
the address it was asked for and in time; a session stands for an address that
was verified, for a day, unless it is ended before.
-/

namespace Chainmail.AuthService

open WalletLogin (lower)

variable (E : Ethers)

/-- The request verifies the challenge as signed by the address. -/
def Verifies (challenge recovered : String) (request : Request) (earlier : List Request) : Prop :=
  ∃ signature expectedAddress,
    request.event = .verifySignature challenge signature expectedAddress ∧
      (verifySignature E challenge signature expectedAddress request.now (replay E earlier)).1 =
        .ok recovered

/-- The request hands the challenge out, for an address if one was given. -/
def Issues (challenge : String) (address : Option String) (request : Request) : Prop :=
  ∃ draw, request.event = .requestChallenge address draw ∧ toHex draw = challenge

/-- The request makes a session of a verified address under the token. -/
def Creates (token address : String) (request : Request) (earlier : List Request) : Prop :=
  ∃ turn draw, request.event = .createSession turn draw ∧ toHex draw = token ∧
    (replay E earlier).verified[turn]? = some address

/-- The address is the recovered one wherever one was given. -/
def Own (recovered : String) (address : Option String) : Prop :=
  ∀ text, given address = some text → lower recovered = lower text

structure Sound (past : List Request) : Prop where
  once : ∀ later request earlier challenge recovered, past = later ++ request :: earlier →
    Verifies E challenge recovered request earlier →
      ∀ after second between other, later = after ++ second :: between →
        ¬ Verifies E challenge other second (between ++ request :: earlier)
  checked : ∀ later request earlier challenge signature expectedAddress recovered,
    past = later ++ request :: earlier →
    request.event = .verifySignature challenge signature expectedAddress →
    (verifySignature E challenge signature expectedAddress request.now (replay E earlier)).1 =
      .ok recovered →
    ∃ between issue first address, earlier = between ++ issue :: first ∧
      Issues challenge address issue ∧ request.now ≤ issue.now + challengeExpiry ∧
      E.verifyMessage (messageToSign challenge issue.now) signature = some recovered ∧
      Own recovered address ∧ Own recovered expectedAddress
  sessions : ∀ token address now, (∀ request ∈ past, request.now ≤ now) →
    ((validateSession token now (replay E past)).1 = some address ↔
      ∃ later request earlier, past = later ++ request :: earlier ∧
        Creates E token address request earlier ∧ now ≤ request.now + sessionExpiry ∧
        ∀ after ∈ later, after.event ≠ .invalidateSession token)
  signed : ∀ address ∈ (replay E past).verified,
    ∃ later request earlier challenge, past = later ++ request :: earlier ∧
      Verifies E challenge address request earlier

variable {E}

theorem agrees_iff (recovered : String) (address : Option String) :
    agrees recovered address = true ↔ Own recovered address := by
  unfold agrees Own
  cases given address <;> simp

/-- A verification fails and deletes its challenge at most, or it passes all
    checks and deletes it. -/
theorem verifySignature_cases (challenge signature : String) (expectedAddress : Option String)
    (now : Nat) (service : Service) :
    (∃ error, verifySignature E challenge signature expectedAddress now service =
        (.error error, service) ∨
      verifySignature E challenge signature expectedAddress now service =
        (.error error, { service with challenges := service.challenges.delete challenge })) ∨
    ∃ stored recovered, service.challenges.get challenge = some stored ∧
      verifySignature E challenge signature expectedAddress now service =
        (.ok recovered, { service with challenges := service.challenges.delete challenge }) ∧
      now ≤ stored.expiresAt ∧
      E.verifyMessage (messageToSign challenge stored.timestamp) signature = some recovered ∧
      Own recovered stored.address ∧ Own recovered expectedAddress := by
  unfold verifySignature
  cases found : service.challenges.get challenge with
  | none => exact .inl ⟨_, .inl rfl⟩
  | some stored =>
      -- An expired challenge is the only one that a failed verification deletes.
      by_cases expired : stored.expiresAt < now
      · simp only [if_pos expired]
        exact .inl ⟨_, .inr rfl⟩
      · simp only [if_neg expired]
        cases signed : E.verifyMessage (messageToSign challenge stored.timestamp) signature with
        | none => exact .inl ⟨_, .inl rfl⟩
        | some recovered =>
            cases expects : agrees recovered expectedAddress with
            | false => exact .inl ⟨_, .inl (if_pos expects)⟩
            | true =>
                simp only [expects, Bool.true_eq_false, ↓reduceIte]
                cases asked : agrees recovered stored.address with
                | false => exact .inl ⟨_, .inl (if_pos rfl)⟩
                | true =>
                    exact .inr ⟨stored, recovered, rfl, if_neg (by simp), Nat.le_of_not_lt expired, signed,
                      (agrees_iff _ _).mp asked, (agrees_iff _ _).mp expects⟩

theorem verifySignature_ok {challenge signature recovered : String}
    {expectedAddress : Option String} {now : Nat} {service : Service}
    (valid : (verifySignature E challenge signature expectedAddress now service).1 =
      .ok recovered) :
    ∃ stored, service.challenges.get challenge = some stored ∧
      (verifySignature E challenge signature expectedAddress now service).2.challenges =
        service.challenges.delete challenge ∧ now ≤ stored.expiresAt ∧
      E.verifyMessage (messageToSign challenge stored.timestamp) signature = some recovered ∧
      Own recovered stored.address ∧ Own recovered expectedAddress := by
  rcases verifySignature_cases (E := E) challenge signature expectedAddress now service with
    ⟨error, failed | failed⟩ | ⟨stored, other, found, done, inTime, signed, asked, expects⟩
  · rw [failed] at valid
    cases valid
  · rw [failed] at valid
    cases valid
  · rw [done] at valid ⊢
    cases valid
    exact ⟨stored, found, rfl, inTime, signed, asked, expects⟩

-- A verification touches no session, and of the challenges only its own.
theorem verifySignature_rest (challenge signature : String) (expectedAddress : Option String)
    (now : Nat) (service : Service) :
    (verifySignature E challenge signature expectedAddress now service).2.sessions =
        service.sessions ∧
      (verifySignature E challenge signature expectedAddress now service).2.verified =
        service.verified ∧
      ∀ other stored,
        (verifySignature E challenge signature expectedAddress now service).2.challenges.get other =
          some stored → service.challenges.get other = some stored := by
  have deleted (other : String) (stored : AuthChallenge)
      (found : (service.challenges.delete challenge).get other = some stored) :
      service.challenges.get other = some stored := by
    rw [OrderedMap.get_delete] at found
    split at found
    · cases found
    · exact found
  rcases verifySignature_cases (E := E) challenge signature expectedAddress now service with
    ⟨error, failed | failed⟩ | ⟨stored, recovered, _, done, _⟩
  · rw [failed]
    exact ⟨rfl, rfl, fun _ _ found => found⟩
  · rw [failed]
    exact ⟨rfl, rfl, deleted⟩
  · rw [done]
    exact ⟨rfl, rfl, deleted⟩

theorem validateSession_rest (token : String) (now : Nat) (service : Service) :
    (validateSession token now service).2.challenges = service.challenges ∧
      (validateSession token now service).2.verified = service.verified := by
  unfold validateSession
  cases service.sessions.get token with
  | none => exact ⟨rfl, rfl⟩
  | some session =>
      by_cases expired : session.expiresAt < now
      · simp [expired]
      · simp [expired]

section Challenges

theorem challenge_origin {request : Request} {earlier : List Request} {challenge : String}
    {stored : AuthChallenge}
    (found : (replay E (request :: earlier)).challenges.get challenge = some stored) :
    (∃ address, Issues challenge address request ∧
        stored = ⟨challenge, request.now, request.now + challengeExpiry, address⟩) ∨
      (replay E earlier).challenges.get challenge = some stored := by
  obtain ⟨now, event⟩ := request
  cases event with
  | requestChallenge address draw =>
      simp only [replay, step, generateChallenge, OrderedMap.get_set] at found
      split at found
      next own => exact .inl ⟨address, ⟨draw, rfl, own.symm⟩, by rw [own]; exact (Option.some.inj found).symm⟩
      next => exact .inr found
  | verifySignature other signature expectedAddress =>
      exact .inr ((verifySignature_rest other signature expectedAddress now _).2.2 _ _ found)
  | createSession turn draw =>
      right
      simp only [replay, step] at found
      split at found
      · exact found
      · exact found
  | validateSession token =>
      simp only [replay, step, (validateSession_rest token now _).1] at found
      exact .inr found
  | invalidateSession token => exact .inr found
  | cleanup =>
      simp only [replay, step, cleanup, OrderedMap.get_keep, Option.filter_eq_some_iff] at found
      exact .inr found.1

theorem challenge_issued {past : List Request} {challenge : String} {stored : AuthChallenge}
    (found : (replay E past).challenges.get challenge = some stored) :
    ∃ later issue earlier address, past = later ++ issue :: earlier ∧
      Issues challenge address issue ∧
      stored = ⟨challenge, issue.now, issue.now + challengeExpiry, address⟩ := by
  induction past with
  | nil => cases found
  | cons request earlier ih =>
      rcases challenge_origin found with ⟨address, issues, same⟩ | before
      · exact ⟨[], request, earlier, address, rfl, issues, same⟩
      · obtain ⟨later, issue, first, address, rfl, issues, same⟩ := ih before
        exact ⟨request :: later, issue, first, address, rfl, issues, same⟩

theorem Issues.drawn {challenge : String} {address : Option String} {request : Request}
    (issues : Issues challenge address request) : challengeOf request = some challenge := by
  obtain ⟨draw, event, rfl⟩ := issues
  rw [challengeOf, event]

-- A challenge that was handed out and is gone never comes back.
theorem challenge_stays_gone (later : List Request) {earlier : List Request} {challenge : String}
    (fresh : EachInput (Fresh challengeOf) (later ++ earlier))
    (drawn : ∃ issue ∈ earlier, challengeOf issue = some challenge)
    (gone : (replay E earlier).challenges.get challenge = none) :
    (replay E (later ++ earlier)).challenges.get challenge = none := by
  induction later with
  | nil => exact gone
  | cons request rest ih =>
      rw [List.cons_append] at fresh ⊢
      obtain ⟨now, before⟩ := eachInput_cons.mp fresh
      cases found : (replay E (request :: (rest ++ earlier))).challenges.get challenge with
      | none => rfl
      | some stored =>
          rcases challenge_origin found with ⟨address, issues, _⟩ | held
          -- It can only have been drawn a second time.
          · obtain ⟨issue, member, text⟩ := drawn
            exact absurd text (now challenge issues.drawn issue (List.mem_append_right _ member))
          · rw [ih before] at held
            cases held

theorem Verifies.spent {challenge recovered : String} {request : Request} {earlier : List Request}
    (verifies : Verifies E challenge recovered request earlier) :
    (replay E (request :: earlier)).challenges.get challenge = none ∧
      ∃ issue ∈ earlier, challengeOf issue = some challenge := by
  obtain ⟨signature, expectedAddress, event, valid⟩ := verifies
  obtain ⟨stored, found, deleted, _⟩ := verifySignature_ok valid
  obtain ⟨_, issue, _, address, rfl, issues, _⟩ := challenge_issued found
  refine ⟨?_, issue, by simp, issues.drawn⟩
  simp only [replay, step, event, deleted]
  exact OrderedMap.get_delete_self _ _

theorem verified_once {between : List Request} {request second : Request}
    {earlier : List Request} {challenge recovered other : String}
    (fresh : EachInput (Fresh challengeOf) (between ++ request :: earlier))
    (verifies : Verifies E challenge recovered request earlier) :
    ¬ Verifies E challenge other second (between ++ request :: earlier) := by
  rintro ⟨signature, expectedAddress, _, valid⟩
  obtain ⟨stored, found, _⟩ := verifySignature_ok valid
  obtain ⟨gone, issue, member, drawn⟩ := verifies.spent
  rw [challenge_stays_gone between fresh ⟨issue, List.mem_cons_of_mem _ member, drawn⟩ gone] at found
  cases found

end Challenges

section Sessions

theorem session_origin {request : Request} {earlier : List Request} {token : String}
    {session : Session}
    (found : (replay E (request :: earlier)).sessions.get token = some session) :
    (Creates E token session.address request earlier ∧
        session.expiresAt = request.now + sessionExpiry) ∨
      ((replay E earlier).sessions.get token = some session ∧
        request.event ≠ .invalidateSession token) := by
  obtain ⟨now, event⟩ := request
  cases event with
  | requestChallenge address draw => exact .inr ⟨found, by simp⟩
  | verifySignature challenge signature expectedAddress =>
      simp only [replay, step, (verifySignature_rest challenge signature expectedAddress now _).1] at found
      exact .inr ⟨found, by simp⟩
  -- Only here is a session made: of a verified address that waits, under the token drawn.
  | createSession turn draw =>
      simp only [replay, step] at found
      cases waiting : (replay E earlier).verified[turn]? with
      | none =>
          rw [waiting] at found
          exact .inr ⟨found, by simp⟩
      | some address =>
          simp only [waiting, createSession, OrderedMap.get_set] at found
          split at found
          next own =>
            cases found
            exact .inl ⟨⟨turn, draw, rfl, own.symm, waiting⟩, rfl⟩
          next => exact .inr ⟨found, by simp⟩
  | validateSession other =>
      right
      refine ⟨?_, by simp⟩
      simp only [replay, step, validateSession] at found
      split at found
      · exact found
      · split at found
        · rw [OrderedMap.get_delete] at found
          split at found
          · cases found
          · exact found
        · exact found
  | invalidateSession other =>
      simp only [replay, step, invalidateSession, OrderedMap.get_delete] at found
      split at found
      next => cases found
      next different => exact .inr ⟨found, by simpa using Ne.symm different⟩
  | cleanup =>
      simp only [replay, step, cleanup, OrderedMap.get_keep, Option.filter_eq_some_iff] at found
      exact .inr ⟨found.1, by simp⟩

theorem session_kept {request : Request} {earlier : List Request} {token : String}
    {session : Session} (found : (replay E earlier).sessions.get token = some session)
    (inTime : request.now ≤ session.expiresAt) (undrawn : tokenOf request ≠ some token)
    (kept : request.event ≠ .invalidateSession token) :
    (replay E (request :: earlier)).sessions.get token = some session := by
  obtain ⟨now, event⟩ := request
  cases event with
  | requestChallenge address draw => exact found
  | verifySignature challenge signature expectedAddress =>
      simp only [replay, step, (verifySignature_rest challenge signature expectedAddress now _).1]
      exact found
  | createSession turn draw =>
      -- A new session under the same token would take the old one's place.
      have other : token ≠ toHex draw := by
        rintro rfl
        exact undrawn rfl
      simp only [replay, step]
      split
      · exact found
      · simp only [createSession, OrderedMap.get_set_of_ne _ _ other]
        exact found
  | validateSession other =>
      simp only [replay, step, validateSession]
      split
      · exact found
      next held present =>
        split
        next expired =>
          -- What is found expired is deleted, and this one is not.
          by_cases own : token = other
          · rw [own, present] at found
            cases found
            exact absurd inTime (Nat.not_le_of_lt expired)
          · rw [OrderedMap.get_delete_of_ne _ own]
            exact found
        next => exact found
  | invalidateSession other =>
      have different : token ≠ other := by
        rintro rfl
        exact kept rfl
      simp only [replay, step, invalidateSession, OrderedMap.get_delete_of_ne _ different]
      exact found
  | cleanup =>
      simp only [replay, step, cleanup, OrderedMap.get_keep, found]
      simpa using inTime

theorem session_created {past : List Request} {token : String} {session : Session}
    (found : (replay E past).sessions.get token = some session) :
    ∃ later request earlier, past = later ++ request :: earlier ∧
      Creates E token session.address request earlier ∧
      session.expiresAt = request.now + sessionExpiry ∧
      ∀ after ∈ later, after.event ≠ .invalidateSession token := by
  induction past with
  | nil => cases found
  | cons request earlier ih =>
      rcases session_origin found with ⟨creates, expires⟩ | ⟨before, kept⟩
      · exact ⟨[], request, earlier, rfl, creates, expires, by simp⟩
      · obtain ⟨later, creation, first, rfl, creates, expires, standing⟩ := ih before
        refine ⟨request :: later, creation, first, rfl, creates, expires, ?_⟩
        intro after member
        rcases List.mem_cons.mp member with rfl | inside
        · exact kept
        · exact standing after inside

theorem Creates.drawn {token address : String} {request : Request} {earlier : List Request}
    (creates : Creates E token address request earlier) : tokenOf request = some token := by
  obtain ⟨turn, draw, event, rfl, _⟩ := creates
  rw [tokenOf, event]

theorem session_lasts (later : List Request) {request : Request} {earlier : List Request}
    {token address : String} {now : Nat}
    (fresh : EachInput (Fresh tokenOf) (later ++ request :: earlier))
    (creates : Creates E token address request earlier)
    (inTime : now ≤ request.now + sessionExpiry) (before : ∀ after ∈ later, after.now ≤ now)
    (standing : ∀ after ∈ later, after.event ≠ .invalidateSession token) :
    (replay E (later ++ request :: earlier)).sessions.get token =
      some ⟨address, request.now + sessionExpiry⟩ := by
  induction later with
  | nil =>
      obtain ⟨turn, draw, event, rfl, waiting⟩ := creates
      simp only [List.nil_append, replay, step, event, waiting, createSession]
      exact OrderedMap.get_set_self _ _ _
  | cons after rest ih =>
      obtain ⟨now, others⟩ := eachInput_cons.mp fresh
      -- None of these requests comes after its time is over.
      have held := ih others (fun other member => before other (List.mem_cons_of_mem _ member))
        (fun other member => standing other (List.mem_cons_of_mem _ member))
      apply session_kept held
      · exact (before after List.mem_cons_self).trans inTime
      · exact fun drawn => now token drawn request (by simp) creates.drawn
      · exact standing after List.mem_cons_self

theorem validateSession_iff (token address : String) (now : Nat) (service : Service) :
    (validateSession token now service).1 = some address ↔
      ∃ session, service.sessions.get token = some session ∧ now ≤ session.expiresAt ∧
        session.address = address := by
  unfold validateSession
  cases service.sessions.get token with
  | none => simp
  | some session =>
      by_cases expired : session.expiresAt < now
      · simp [expired]
      · simp [expired, Nat.le_of_not_lt expired]

theorem validates_iff {past : List Request} (fresh : EachInput (Fresh tokenOf) past)
    (token address : String) (now : Nat) (before : ∀ request ∈ past, request.now ≤ now) :
    (validateSession token now (replay E past)).1 = some address ↔
      ∃ later request earlier, past = later ++ request :: earlier ∧
        Creates E token address request earlier ∧ now ≤ request.now + sessionExpiry ∧
        ∀ after ∈ later, after.event ≠ .invalidateSession token := by
  rw [validateSession_iff]
  constructor
  · rintro ⟨session, found, inTime, rfl⟩
    obtain ⟨later, request, earlier, split, creates, expires, standing⟩ := session_created found
    exact ⟨later, request, earlier, split, creates, expires ▸ inTime, standing⟩
  · rintro ⟨later, request, earlier, rfl, creates, inTime, standing⟩
    exact ⟨_, session_lasts later fresh creates inTime
      (fun after member => before after (List.mem_append_left _ member)) standing, inTime, rfl⟩

end Sessions

theorem verified_origin {request : Request} {earlier : List Request} {address : String}
    (waiting : address ∈ (replay E (request :: earlier)).verified) :
    (∃ challenge, Verifies E challenge address request earlier) ∨
      address ∈ (replay E earlier).verified := by
  obtain ⟨time, event⟩ := request
  cases event with
  | requestChallenge other draw => exact .inr waiting
  | verifySignature challenge signature expectedAddress =>
      simp only [replay, step, (verifySignature_rest challenge signature expectedAddress time _).2.1,
        List.mem_append] at waiting
      -- An address is added where the signature is accepted.
      rcases waiting with before | now
      · exact .inr before
      · left
        refine ⟨challenge, signature, expectedAddress, rfl, ?_⟩
        cases checked : (verifySignature E challenge signature expectedAddress time
            (replay E earlier)).1 with
        | error failure => simp [checked, Except.toOption] at now
        | ok recovered => simpa [checked, Except.toOption, eq_comm] using now
  | createSession turn draw =>
      right
      simp only [replay, step] at waiting
      split at waiting
      · exact waiting
      · exact List.mem_of_mem_eraseIdx waiting
  | validateSession token =>
      simp only [replay, step, (validateSession_rest token time _).2] at waiting
      exact .inr waiting
  | invalidateSession token => exact .inr waiting
  | cleanup => exact .inr waiting

theorem verified_signed {past : List Request} {address : String}
    (waiting : address ∈ (replay E past).verified) :
    ∃ later request earlier challenge, past = later ++ request :: earlier ∧
      Verifies E challenge address request earlier := by
  induction past with
  | nil => cases waiting
  | cons request earlier ih =>
      rcases verified_origin waiting with ⟨challenge, verifies⟩ | before
      · exact ⟨[], request, earlier, challenge, rfl, verifies⟩
      · obtain ⟨later, verification, first, challenge, rfl, verifies⟩ := ih before
        exact ⟨request :: later, verification, first, challenge, rfl, verifies⟩

/-- Whatever `ethers` recovers, in every run and at every moment of it. -/
theorem login_sound (E : Ethers) (history : History) : Sound E history.past := by
  obtain ⟨past, challenges, tokens⟩ := history
  constructor
  case once =>
    intro later request earlier challenge recovered split verifies after second between other inside
    subst inside
    have suffix : between ++ request :: earlier <:+ past :=
      ⟨after ++ [second], by simpa using split.symm⟩
    exact verified_once (challenges.suffix suffix) verifies
  case checked =>
    intro later request earlier challenge signature expectedAddress recovered _ event valid
    obtain ⟨stored, found, _, inTime, signed, asked, expects⟩ := verifySignature_ok valid
    obtain ⟨between, issue, first, address, split, issues, rfl⟩ := challenge_issued found
    exact ⟨between, issue, first, address, split, issues, inTime, signed, asked, expects⟩
  case sessions => exact fun token address now before => validates_iff tokens token address now before
  case signed => exact fun address waiting => verified_signed waiting

section Example

/-- The wallet signs by putting its name behind a message. -/
def nameBehind : Ethers where
  getBytes := fun _ => none
  verifyMessage message signature :=
    if signature = message ++ " alice" then some "0xALICE" else none

def challengeDraw : Bytes := List.replicate 32 7
def tokenDraw : Bytes := List.replicate 32 8

/-- An answer to the challenge, with what is put behind the message that was to be signed. -/
def answer (suffix : String) (now : Nat) : Request where
  now := now
  event := .verifySignature (toHex challengeDraw) (messageToSign (toHex challengeDraw) 1 ++ suffix)
    (some "0xalice")

/-- Somebody fails with the challenge of `alice`; she answers it, and gets a session. -/
def aliceHistory : History where
  past := [⟨5, .validateSession (toHex tokenDraw)⟩, ⟨4, .createSession 0 tokenDraw⟩,
    answer " alice" 3, answer " mallory" 2, ⟨1, .requestChallenge (some "0xAlice") challengeDraw⟩]
  challenges := by simp [answer, Fresh, challengeOf, eachInput_cons, eachInput_nil]
  tokens := by simp [answer, Fresh, tokenOf, eachInput_cons, eachInput_nil]

theorem alice_logged_in : Sound nameBehind aliceHistory.past ∧
    (validateSession (toHex tokenDraw) 6 (replay nameBehind aliceHistory.past)).1 =
      some "0xALICE" := by
  have sound := login_sound nameBehind aliceHistory
  refine ⟨sound, (sound.sessions _ _ 6 (by decide)).mpr ?_⟩
  refine ⟨[_], ⟨4, .createSession 0 tokenDraw⟩, _, rfl, ⟨0, tokenDraw, rfl, rfl, ?_⟩, by decide, ?_⟩
  · decide +kernel
  · simp

end Example

end Chainmail.AuthService
