import Chainmail.JsText
import Chainmail.JsonAccess
import Chainmail.OrderedMap
import Chainmail.Outcome
import Chainmail.Runs

/-!
`src/registry/username-registry.js`: names for dMail addresses, in a database of its own.
A record is put under its username, its dMail address and its wallet. What the wallet
library recovers from a signature is a parameter, and so is the lowering of letters. A
database that fails and the registry on the chain are left out.
-/

namespace Chainmail.UsernameRegistry

open JsText

variable (language : LowerCase) (verifyMessage : String → Option Json → Option String)

def DEFAULT_DOMAIN : String := "dmail.network"

def RESERVED_USERNAMES : List String :=
  ["admin", "support", "help", "info", "contact", "root", "system", "dmail"]

/-- `/^[a-z0-9][a-z0-9._-]{2,29}$/i` -/
def matchesUsername (text : String) : Bool :=
  match text.toList with
  | [] => false
  | first :: rest =>
      first.isAlphanum && decide (2 ≤ rest.length) && decide (rest.length ≤ 29) &&
        rest.all fun letter => letter.isAlphanum || letter ∈ ['.', '_', '-']

/-- The normalized username, or why there is none. -/
def validateUsername (username : Option Json) : Except String String :=
  match username with
  | some (.string username) =>
      if username = "" then .error "Username required"
      else
        let lower := language.toLowerCase username
        if !matchesUsername lower then
          .error ("Username must be 3-30 characters, start with letter/number, and contain only " ++
            "letters, numbers, dots, underscores, or hyphens")
        else if lower ∈ RESERVED_USERNAMES then .error "Username is reserved"
        else .ok lower
  | _ => .error "Username required"

structure Registration where
  username : String
  email : String
  dmailAddress : String
  walletAddress : String
  registeredAt : Nat
  verified : Bool

structure Registry where
  domain : String
  db : OrderedMap String Registration

/-- What `register` is called with. -/
structure Call where
  username : Option Json
  dmailAddress : String
  walletAddress : String
  signature : Option Json

/-- Only what is before the `@` of an email counts. -/
def getByUsername (username : String) (registry : Registry) : Option Registration :=
  registry.db.get ("user:" ++ (split '@' (language.toLowerCase username)).headD "")

def registrationMessage (domain normalizedUsername dmailAddress : String) : String :=
  "Register " ++ normalizedUsername ++ "@" ++ domain ++ " for dMail address " ++ dmailAddress

/-- What `register` does between its look-up and its first put. -/
def verifiedRecord (domain normalizedUsername : String) (call : Call)
    (existing : Option Registration) (now : Nat) : Except Failure Registration :=
  if existing.isSome then .error (.error "Username already taken")
  else
    match verifyMessage (registrationMessage domain normalizedUsername call.dmailAddress)
      call.signature with
    | none => .error .rejected
    | some recoveredAddress =>
        if language.toLowerCase recoveredAddress ≠ language.toLowerCase call.walletAddress then
          .error (.error "Invalid signature")
        else .ok {
          username := normalizedUsername
          email := normalizedUsername ++ "@" ++ domain
          dmailAddress := call.dmailAddress
          walletAddress := language.toLowerCase call.walletAddress
          registeredAt := now
          verified := true }

def putUser (record : Registration) (registry : Registry) : Registry :=
  { registry with db := registry.db.set ("user:" ++ record.username) record }

def putDmail (record : Registration) (registry : Registry) : Registry :=
  { registry with db := registry.db.set ("dmail:" ++ record.dmailAddress) record }

/-- The wallet of a record is a lowered one. -/
def putWallet (record : Registration) (registry : Registry) : Registry :=
  { registry with db := registry.db.set ("wallet:" ++ record.walletAddress) record }

def register (call : Call) (now : Nat) (registry : Registry) :
    Outcome Registry Failure Registration :=
  match validateUsername language call.username with
  | .error message => .throws registry (.error message)
  | .ok normalizedUsername =>
      match verifiedRecord language verifyMessage registry.domain normalizedUsername call
        (getByUsername language normalizedUsername registry) now with
      | .error failure => .throws registry failure
      | .ok record =>
          .returns (putWallet record (putDmail record (putUser record registry))) record

/-- Where an address leads, and how it was found: `direct` or `registered`. -/
inductive Resolution where
  | direct (dmailAddress : String)
  | registered (dmailAddress username email : String)

def Resolution.dmailAddress : Resolution → String
  | .direct dmailAddress => dmailAddress
  | .registered dmailAddress _ _ => dmailAddress

def Registration.resolution (record : Registration) : Resolution :=
  .registered record.dmailAddress record.username record.email

def resolve (address : String) (registry : Registry) : Except Failure Resolution :=
  if ['d', 'm', '1'].isPrefixOf address.toList then .ok (.direct address)
  else if '@' ∈ address.toList then
    let parts := split '@' address
    let record := if parts[1]? = some registry.domain then
        getByUsername language (parts.headD "") registry
      else none
    match record with
    | some record => .ok record.resolution
    | none => .error (.error ("Unknown address: " ++ address))
  else
    match getByUsername language address registry with
    | some record => .ok record.resolution
    | none => .error (.error ("Could not resolve address: " ++ address))

section Names
variable {language} {username : Option Json} {name : String} {registry : Registry}

theorem matchesUsername_free {text : String} (accepted : matchesUsername text = true) :
    '@' ∉ text.toList := by
  intro member
  rw [matchesUsername] at accepted
  split at accepted
  next none => simp [none] at member
  next first rest letters =>
    simp only [Bool.and_eq_true, List.all_eq_true] at accepted
    rw [letters] at member
    rcases List.mem_cons.mp member with rfl | later
    · exact absurd accepted.1.1.1 (by decide)
    · exact absurd (accepted.2 '@' later) (by decide)

/-- What `validateUsername` accepts is lowered, and has no `@`. -/
theorem validateUsername_ok (valid : validateUsername language username = .ok name) :
    ∃ text, username = some (.string text) ∧ language.toLowerCase text = name ∧
      '@' ∉ name.toList := by
  unfold validateUsername at valid
  split at valid
  next text =>
    split at valid
    · cases valid
    · dsimp only at valid
      split at valid
      · cases valid
      · split at valid
        · cases valid
        · cases valid
          refine ⟨text, rfl, rfl, matchesUsername_free ?_⟩
          simpa using ‹¬ (!matchesUsername (language.toLowerCase text)) = true›
  next => cases valid

theorem getByUsername_lowered {text : String} (lowered : language.toLowerCase text = name)
    (free : '@' ∉ name.toList) :
    getByUsername language text registry = registry.db.get ("user:" ++ name) := by
  rw [getByUsername, lowered, split_of_free free]
  rfl

end Names

section Histories

/-- The registry after these calls, one after the other; the last comes first. -/
def replay (domain : String) : List (Call × Nat) → Registry
  | [] => ⟨domain, OrderedMap.empty⟩
  | (call, now) :: earlier => (register language verifyMessage call now (replay domain earlier)).state

/-- One of the calls succeeded with the record. -/
def Registered (domain : String) (record : Registration) (past : List (Call × Nat)) : Prop :=
  ∃ call now earlier, (call, now) :: earlier <:+ past ∧
    (register language verifyMessage call now (replay language verifyMessage domain earlier)).result =
      .ok record

def ResolvesTo (dmailAddress address : String) (registry : Registry) : Prop :=
  ∃ resolution, resolve language address registry = .ok resolution ∧
    resolution.dmailAddress = dmailAddress

theorem user_key_apart (name other : String) :
    "user:" ++ name ≠ "dmail:" ++ other ∧ "user:" ++ name ≠ "wallet:" ++ other := by
  constructor <;>
  · intro same
    have letters := congrArg (fun text => text.toList.head?) same
    simp at letters

/-- A call fails and changes nothing, or its name is free and its record is put. -/
theorem register_spec (call : Call) (now : Nat) (registry : Registry) :
    (∃ failure, register language verifyMessage call now registry = .throws registry failure) ∨
    ∃ record, validateUsername language call.username = .ok record.username ∧
      registry.db.get ("user:" ++ record.username) = none ∧
      register language verifyMessage call now registry =
        .returns (putWallet record (putDmail record (putUser record registry))) record := by
  unfold register
  cases valid : validateUsername language call.username with
  | error message => exact .inl ⟨_, rfl⟩
  | ok name =>
      obtain ⟨text, _, lowered, free⟩ := validateUsername_ok valid
      have twice : language.toLowerCase name = name := by
        rw [← lowered, language.lowered]
      dsimp only
      rw [getByUsername_lowered twice free]
      unfold verifiedRecord
      cases held : registry.db.get ("user:" ++ name) with
      | some existing => exact .inl ⟨_, rfl⟩
      | none =>
          rw [if_neg (by simp)]
          cases verifyMessage (registrationMessage registry.domain name call.dmailAddress)
              call.signature with
          | none => exact .inl ⟨_, rfl⟩
          | some recoveredAddress =>
              dsimp only
              by_cases other : language.toLowerCase recoveredAddress ≠
                  language.toLowerCase call.walletAddress
              · rw [if_pos other]
                exact .inl ⟨_, rfl⟩
              · rw [if_neg other]
                exact .inr ⟨_, rfl, held, rfl⟩

/-- The other two puts leave the names alone. -/
theorem put_user (record : Registration) (registry : Registry) (name : String) :
    (putWallet record (putDmail record (putUser record registry))).db.get ("user:" ++ name) =
      if name = record.username then some record else registry.db.get ("user:" ++ name) := by
  have named : "user:" ++ name = "user:" ++ record.username ↔ name = record.username :=
    String.append_right_inj _
  simp only [putWallet, putDmail, putUser, OrderedMap.get_set, named, (user_key_apart _ _).1,
    (user_key_apart _ _).2, ↓reduceIte]

variable {language verifyMessage} {domain : String}

variable (language verifyMessage domain) in
theorem replay_domain (past : List (Call × Nat)) :
    (replay language verifyMessage domain past).domain = domain := by
  induction past with
  | nil => rfl
  | cons input earlier ih =>
      obtain ⟨call, now⟩ := input
      rw [replay]
      rcases register_spec language verifyMessage call now
          (replay language verifyMessage domain earlier) with ⟨failure, failed⟩ | ⟨record, _, _, made⟩
      · rw [failed]
        exact ih
      · rw [made]
        exact ih

/-- What a call registered stays under its name. -/
theorem registered_held {past : List (Call × Nat)} {record : Registration}
    (registered : Registered language verifyMessage domain record past) :
    (replay language verifyMessage domain past).db.get ("user:" ++ record.username) = some record := by
  obtain ⟨call, now, earlier, suffix, success⟩ := registered
  induction past with
  | nil => simp at suffix
  | cons input before ih =>
      obtain ⟨latest, time⟩ := input
      rw [replay]
      rcases List.suffix_cons_iff.mp suffix with same | inner
      · cases same
        rcases register_spec language verifyMessage call now
            (replay language verifyMessage domain earlier) with ⟨failure, failed⟩ | ⟨own, _, _, made⟩
        · rw [failed] at success
          cases success
        · rw [made] at success
          cases success
          rw [made, Outcome.returns_state, put_user, if_pos rfl]
      · have held := ih inner
        rcases register_spec language verifyMessage latest time
            (replay language verifyMessage domain before) with ⟨failure, failed⟩ | ⟨own, _, free, made⟩
        · rw [failed]
          exact held
        -- A later registration needs a free name, and this one is taken.
        · have other : record.username ≠ own.username := by
            intro same
            rw [← same, held] at free
            cases free
          rw [made, Outcome.returns_state, put_user, if_neg other, held]

end Histories

section Resolving
variable {language : LowerCase} {verifyMessage : String → Option Json → Option String}
  {registry : Registry} {username : String} {record : Registration}

/-- No `@` is in `dm1`, so what follows one does not make an address of a username. -/
theorem direct_email (username domain : String) :
    ['d', 'm', '1'].isPrefixOf (username ++ "@" ++ domain).toList =
      ['d', 'm', '1'].isPrefixOf username.toList := by
  have letters : (username ++ "@" ++ domain).toList = username.toList ++ '@' :: domain.toList := by
    simp
  rw [letters]
  match username.toList with
  | [] => simp [List.isPrefixOf]
  | [first] => simp [List.isPrefixOf]
  | [first, second] => simp [List.isPrefixOf]
  | first :: second :: third :: rest => simp [List.isPrefixOf]

theorem resolve_direct {address : String}
    (direct : ['d', 'm', '1'].isPrefixOf address.toList = true) :
    resolve language address registry = .ok (.direct address) := by
  rw [resolve, if_pos direct]

theorem resolve_username (named : ['d', 'm', '1'].isPrefixOf username.toList = false)
    (free : '@' ∉ username.toList) (held : getByUsername language username registry = some record) :
    resolve language username registry = .ok record.resolution := by
  rw [resolve, if_neg (by simp [named]), if_neg free, held]

theorem resolve_email (named : ['d', 'm', '1'].isPrefixOf username.toList = false)
    (free : '@' ∉ username.toList) (held : getByUsername language username registry = some record) :
    resolve language (username ++ "@" ++ registry.domain) registry =
      if '@' ∈ registry.domain.toList then
        .error (.error ("Unknown address: " ++ (username ++ "@" ++ registry.domain)))
      else .ok record.resolution := by
  have parts : split '@' (username ++ "@" ++ registry.domain) =
      username :: split '@' registry.domain := split_append free registry.domain
  have email : '@' ∈ (username ++ "@" ++ registry.domain).toList := by simp
  rw [resolve, direct_email, if_neg (by simp [named]), if_pos email, parts]
  by_cases more : '@' ∈ registry.domain.toList
  · -- The part that is compared with the domain has no `@`.
    have other : (split '@' registry.domain)[0]? ≠ some registry.domain :=
      fun same => split_free registry.domain _ (List.mem_of_getElem? same) more
    simp [more, other]
  · simp [more, split_of_free more, held]

/-- A registered name leads to its address, by itself and with the domain, exactly when it
    does not begin like an address, and the domain has no `@`. -/
theorem registered_resolves_iff (language : LowerCase)
    (verifyMessage : String → Option Json → Option String) (domain : String)
    (past : List (Call × Nat)) (record : Registration)
    (registered : Registered language verifyMessage domain record past) (username : String)
    (named : validateUsername language (some (.string username)) = .ok record.username) :
    (ResolvesTo language record.dmailAddress username
        (replay language verifyMessage domain past) ∧
      ResolvesTo language record.dmailAddress (username ++ "@" ++ domain)
        (replay language verifyMessage domain past)) ↔
      ['d', 'm', '1'].isPrefixOf username.toList = false ∧ '@' ∉ domain.toList := by
  obtain ⟨text, same, lowered, free⟩ := validateUsername_ok named
  cases same
  have plain : '@' ∉ username.toList := by
    rw [← language.atSign, lowered]
    exact free
  have held : getByUsername language username (replay language verifyMessage domain past) =
      some record := by
    rw [getByUsername_lowered lowered free, registered_held registered]
  have own := replay_domain language verifyMessage domain past
  cases direct : ['d', 'm', '1'].isPrefixOf username.toList with
  | true =>
      refine iff_of_false ?_ (by simp)
      rintro ⟨⟨_, found, leads⟩, ⟨_, foundEmail, leadsEmail⟩⟩
      rw [resolve_direct direct] at found
      rw [resolve_direct ((direct_email username domain).trans direct)] at foundEmail
      cases found
      cases foundEmail
      -- One address cannot be the name and the email.
      have length := congrArg (fun text => text.toList.length) (leads.trans leadsEmail.symm)
      simp [Resolution.dmailAddress] at length
  | false =>
      have byName := resolve_username direct plain held
      have byEmail := resolve_email direct plain held
      rw [own] at byEmail
      constructor
      · rintro ⟨_, _, foundEmail, _⟩
        refine ⟨rfl, fun more => ?_⟩
        rw [byEmail, if_pos more] at foundEmail
        cases foundEmail
      · rintro ⟨_, single⟩
        rw [if_neg single] at byEmail
        exact ⟨⟨_, byName, rfl⟩, ⟨_, byEmail, rfl⟩⟩

section Sample

/-- The signature of a wallet shows the wallet and the message. -/
def sampleVerify (message : String) (signature : Option Json) : Option String :=
  ["0xA", "0xB"].find? fun wallet => Json.isText (wallet ++ ": " ++ message) signature

/-- A wallet asks for a name, for the address that is named after it. -/
def sampleCall (wallet username : String) : Call where
  username := some (.string username)
  dmailAddress := "dm1" ++ wallet
  walletAddress := wallet
  signature := some (.string
    (wallet ++ ": " ++ registrationMessage DEFAULT_DOMAIN username ("dm1" ++ wallet)))

def sampleRegistration (wallet username : String) (registeredAt : Nat) : Registration :=
  ⟨username, username ++ "@" ++ DEFAULT_DOMAIN, "dm1" ++ wallet,
    asciiLower.toLowerCase wallet, registeredAt, true⟩

theorem sample_registered (username : String) (now : Nat)
    (success : (register asciiLower sampleVerify (sampleCall "0xA" username) now
      (replay asciiLower sampleVerify DEFAULT_DOMAIN [])).result =
        .ok (sampleRegistration "0xA" username now)) :
    Registered asciiLower sampleVerify DEFAULT_DOMAIN (sampleRegistration "0xA" username now)
      [(sampleCall "0xA" username, now)] :=
  ⟨_, _, _, List.suffix_refl _, success⟩

/-- A name that begins with `dm1` leads to itself. -/
theorem direct_name_misleads : ¬ ∀ (language : LowerCase)
    (verifyMessage : String → Option Json → Option String) (domain : String)
    (past : List (Call × Nat)) (record : Registration),
    Registered language verifyMessage domain record past → ∀ username : String,
    validateUsername language (some (.string username)) = .ok record.username →
      ResolvesTo language record.dmailAddress username
        (replay language verifyMessage domain past) ∧
      ResolvesTo language record.dmailAddress (username ++ "@" ++ domain)
        (replay language verifyMessage domain past) := by
  intro claimed
  obtain ⟨⟨_, found, leads⟩, _⟩ := claimed asciiLower sampleVerify DEFAULT_DOMAIN _ _
    (sample_registered "dm1bob" 1 (by rfl)) "dm1bob" (by rfl)
  rw [resolve_direct (by rfl)] at found
  cases found
  exact absurd leads (by decide)

theorem alice_resolves :
    (ResolvesTo asciiLower "dm10xA" "Alice"
        (replay asciiLower sampleVerify DEFAULT_DOMAIN [(sampleCall "0xA" "alice", 1)]) ∧
      ResolvesTo asciiLower "dm10xA" ("Alice" ++ "@" ++ DEFAULT_DOMAIN)
        (replay asciiLower sampleVerify DEFAULT_DOMAIN [(sampleCall "0xA" "alice", 1)])) ↔
      ['d', 'm', '1'].isPrefixOf "Alice".toList = false ∧ '@' ∉ DEFAULT_DOMAIN.toList :=
  registered_resolves_iff asciiLower sampleVerify DEFAULT_DOMAIN
    [(sampleCall "0xA" "alice", 1)] (sampleRegistration "0xA" "alice" 1)
    (sample_registered "alice" 1 (by rfl)) "Alice" (by rfl)

end Sample

end Resolving
end Chainmail.UsernameRegistry
