import Chainmail.UsernameRegistry

/-!
`register` over a database that can fail. The three puts of a record are sent off one
after the other, and what was put before a failure stays.
-/

namespace Chainmail.UsernameRegistry

open JsText

variable (language : LowerCase) (verifyMessage : String → Option Json → Option String)

/-- Which uses of the database fail in a call: its look-up, or one of its puts. -/
structure Faults where
  look : Bool
  user : Bool
  dmail : Bool
  wallet : Bool

/-- A put that fails throws, and writes nothing. -/
def attempt (fails : Bool) (put : Registry → Registry) (registry : Registry) :
    Outcome Registry Failure Unit :=
  if fails then .throws registry .rejected else .returns (put registry) ()

def putAll (faults : Faults) (record : Registration) (registry : Registry) :
    Outcome Registry Failure Registration :=
  (attempt faults.user (putUser record) registry).andThen fun _ registry =>
    (attempt faults.dmail (putDmail record) registry).andThen fun _ registry =>
      (attempt faults.wallet (putWallet record) registry).andThen fun _ registry =>
        .returns registry record

def registerOn (faults : Faults) (call : Call) (now : Nat) (registry : Registry) :
    Outcome Registry Failure Registration :=
  match validateUsername language call.username with
  | .error message => .throws registry (.error message)
  | .ok normalizedUsername =>
      if faults.look then .throws registry .rejected
      else
        match verifiedRecord language verifyMessage registry.domain normalizedUsername call
          (getByUsername language normalizedUsername registry) now with
        | .error failure => .throws registry failure
        | .ok record => putAll faults record registry

/-- A call that throws leaves the indexes, and after one that returns all three hold its
    record. -/
structure AllOrNothing (faults : Faults) (call : Call) (now : Nat) (registry : Registry) :
    Prop where
  nothing : (registerOn language verifyMessage faults call now registry).Throws →
    (registerOn language verifyMessage faults call now registry).state.db = registry.db
  all : ∀ record, (registerOn language verifyMessage faults call now registry).result = .ok record →
    let db := (registerOn language verifyMessage faults call now registry).state.db
    db.get ("user:" ++ record.username) = some record ∧
      db.get ("dmail:" ++ record.dmailAddress) = some record ∧
      db.get ("wallet:" ++ record.walletAddress) = some record

/-- The call passes all its checks, and goes on to put the record. -/
def ReachesPuts (faults : Faults) (call : Call) (now : Nat) (registry : Registry)
    (record : Registration) : Prop :=
  ∃ normalizedUsername, validateUsername language call.username = .ok normalizedUsername ∧
    faults.look = false ∧
    verifiedRecord language verifyMessage registry.domain normalizedUsername call
      (getByUsername language normalizedUsername registry) now = .ok record

variable {language verifyMessage} {faults : Faults} {call : Call} {now : Nat} {registry : Registry}
  {record : Registration}

/-- Without faults this is `register`. -/
theorem registerOn_sound (call : Call) (now : Nat) (registry : Registry) :
    registerOn language verifyMessage ⟨false, false, false, false⟩ call now registry =
      register language verifyMessage call now registry := rfl

theorem verifiedRecord_ok {domain name : String} {existing : Option Registration}
    (verified : verifiedRecord language verifyMessage domain name call existing now = .ok record) :
    existing = none ∧ record.username = name := by
  unfold verifiedRecord at verified
  split at verified
  next => cases verified
  next absent =>
    split at verified
    next => cases verified
    next recoveredAddress _ =>
      split at verified
      next => cases verified
      next =>
        cases verified
        exact ⟨by simpa using absent, rfl⟩

/-- The name of a record that is put was free. -/
theorem reachesPuts_spec
    (reaches : ReachesPuts language verifyMessage faults call now registry record) :
    registry.db.get ("user:" ++ record.username) = none ∧
      registerOn language verifyMessage faults call now registry = putAll faults record registry := by
  obtain ⟨name, valid, looked, verified⟩ := reaches
  obtain ⟨absent, named⟩ := verifiedRecord_ok verified
  obtain ⟨text, _, lowered, single⟩ := validateUsername_ok valid
  have twice : language.toLowerCase name = name := by
    rw [← lowered, language.lowered]
  refine ⟨?_, by simp [registerOn, valid, looked, verified]⟩
  rw [named, ← getByUsername_lowered twice single, absent]

variable (language verifyMessage) in
/-- A call fails before it puts anything, or goes on to put a record. -/
theorem registerOn_cases (faults : Faults) (call : Call) (now : Nat) (registry : Registry) :
    (∃ failure, registerOn language verifyMessage faults call now registry =
        .throws registry failure) ∧
      (∀ record, ¬ ReachesPuts language verifyMessage faults call now registry record) ∨
      ∃ record, ReachesPuts language verifyMessage faults call now registry record := by
  cases valid : validateUsername language call.username with
  | error message => exact .inl ⟨⟨.error message, by rw [registerOn, valid]⟩, by simp [ReachesPuts, valid]⟩
  | ok name =>
      cases looked : faults.look with
      | true =>
          exact .inl ⟨⟨.rejected, by simp [registerOn, valid, looked]⟩, by simp [ReachesPuts, looked]⟩
      | false =>
          cases verified : verifiedRecord language verifyMessage registry.domain name call
              (getByUsername language name registry) now with
          | error failure =>
              exact .inl ⟨⟨failure, by simp [registerOn, valid, looked, verified]⟩,
                by simp [ReachesPuts, valid, verified]⟩
          | ok record => exact .inr ⟨record, name, valid, looked, verified⟩

theorem dmail_key_apart (name other : String) : "dmail:" ++ name ≠ "wallet:" ++ other := by
  intro same
  have letters := congrArg (fun text => text.toList.head?) same
  simp at letters

theorem putAll_spec (faults : Faults) (record : Registration) (registry : Registry) :
    putAll faults record registry =
      if faults.user then .throws registry .rejected
      else if faults.dmail then .throws (putUser record registry) .rejected
      else if faults.wallet then .throws (putDmail record (putUser record registry)) .rejected
      else .returns (putWallet record (putDmail record (putUser record registry))) record := by
  obtain ⟨look, user, dmail, wallet⟩ := faults
  cases user <;> cases dmail <;> cases wallet <;> rfl

/-- All three indexes hold a record that was put. -/
theorem put_held (record : Registration) (registry : Registry) :
    let db := (putWallet record (putDmail record (putUser record registry))).db
    db.get ("user:" ++ record.username) = some record ∧
      db.get ("dmail:" ++ record.dmailAddress) = some record ∧
      db.get ("wallet:" ++ record.walletAddress) = some record := by
  refine ⟨?_, ?_, ?_⟩
  · exact (put_user record registry record.username).trans (if_pos rfl)
  · simp [putWallet, putDmail, OrderedMap.get_set, dmail_key_apart]
  · simp [putWallet]

theorem putUser_differs (free : registry.db.get ("user:" ++ record.username) = none) :
    (putUser record registry).db ≠ registry.db := by
  intro same
  rw [putUser, OrderedMap.set_eq_self_iff, free] at same
  cases same

theorem putDmail_differs (free : registry.db.get ("user:" ++ record.username) = none) :
    (putDmail record (putUser record registry)).db ≠ registry.db := by
  intro same
  have held : (putDmail record (putUser record registry)).db.get ("user:" ++ record.username) =
      some record := by
    simp [putDmail, putUser, OrderedMap.get_set, (user_key_apart _ _).1]
  rw [same, free] at held
  cases held

theorem allOrNothing_of_throws {failure : Failure}
    (failed : registerOn language verifyMessage faults call now registry =
      .throws registry failure) :
    AllOrNothing language verifyMessage faults call now registry := by
  refine ⟨fun _ => by rw [failed]; rfl, ?_⟩
  intro record returned
  rw [failed] at returned
  cases returned

/-- A call that throws after a put has left some of the record. -/
theorem not_allOrNothing_of_throws {after : Registry} {failure : Failure}
    (failed : registerOn language verifyMessage faults call now registry = .throws after failure)
    (differs : after.db ≠ registry.db) :
    ¬ AllOrNothing language verifyMessage faults call now registry := by
  intro whole
  have nothing := whole.nothing
  rw [failed] at nothing
  exact differs (nothing ⟨failure, rfl⟩)

theorem allOrNothing_of_puts
    (puts : registerOn language verifyMessage faults call now registry =
      .returns (putWallet record (putDmail record (putUser record registry))) record) :
    AllOrNothing language verifyMessage faults call now registry := by
  constructor
  · rintro ⟨failure, threw⟩
    rw [puts] at threw
    cases threw
  · intro other returned
    rw [puts] at returned ⊢
    cases returned
    exact put_held record registry

/-- Where the puts are reached, it matters which of them fail. -/
theorem allOrNothing_reached
    (reaches : ReachesPuts language verifyMessage faults call now registry record) :
    AllOrNothing language verifyMessage faults call now registry ↔
      faults.user = true ∨ faults.dmail = false ∧ faults.wallet = false := by
  obtain ⟨free, puts⟩ := reachesPuts_spec reaches
  rw [putAll_spec] at puts
  cases user : faults.user with
  | true =>
      rw [if_pos user] at puts
      exact iff_of_true (allOrNothing_of_throws puts) (.inl rfl)
  | false =>
      rw [if_neg (by simp [user])] at puts
      cases dmail : faults.dmail with
      | true =>
          rw [if_pos dmail] at puts
          exact iff_of_false (not_allOrNothing_of_throws puts (putUser_differs free)) (by simp)
      | false =>
          rw [if_neg (by simp [dmail])] at puts
          cases wallet : faults.wallet with
          | true =>
              rw [if_pos wallet] at puts
              exact iff_of_false (not_allOrNothing_of_throws puts (putDmail_differs free)) (by simp)
          | false =>
              rw [if_neg (by simp [wallet])] at puts
              exact iff_of_true (allOrNothing_of_puts puts) (.inr ⟨rfl, rfl⟩)

/-- For every database, every call and wherever the database fails, a registration is all or
    nothing exactly when it puts nothing, or its first put fails, or none of its puts does. -/
theorem all_or_nothing_iff (language : LowerCase)
    (verifyMessage : String → Option Json → Option String) (faults : Faults) (call : Call)
    (now : Nat) (registry : Registry) :
    AllOrNothing language verifyMessage faults call now registry ↔
      ∀ record, ReachesPuts language verifyMessage faults call now registry record →
        faults.user = true ∨ faults.dmail = false ∧ faults.wallet = false := by
  rcases registerOn_cases language verifyMessage faults call now registry with
    ⟨⟨failure, failed⟩, never⟩ | ⟨record, reaches⟩
  · exact iff_of_true (allOrNothing_of_throws failed) fun record reaches =>
      absurd reaches (never record)
  · rw [allOrNothing_reached reaches]
    exact ⟨fun safe _ _ => safe, fun safe => safe record reaches⟩

/-- A name that is half registered is taken for good: no call gets it any more. -/
theorem taken_name_throws {name : String} (valid : validateUsername language call.username = .ok name)
    (held : (registry.db.get ("user:" ++ name)).isSome = true) :
    (registerOn language verifyMessage faults call now registry).Throws := by
  rcases registerOn_cases language verifyMessage faults call now registry with
    ⟨⟨failure, failed⟩, _⟩ | ⟨record, reaches⟩
  · exact ⟨failure, by rw [failed]; rfl⟩
  · obtain ⟨free, _⟩ := reachesPuts_spec reaches
    obtain ⟨other, again, _, verified⟩ := reaches
    rw [valid] at again
    cases again
    rw [(verifiedRecord_ok verified).2] at free
    rw [free] at held
    cases held

/-! The second put of a registration fails. -/

def dmailFails : Faults := ⟨false, false, true, false⟩

theorem half_registered :
    (registerOn asciiLower sampleVerify dmailFails (sampleCall "0xA" "alice") 1
        ⟨DEFAULT_DOMAIN, OrderedMap.empty⟩).Throws ∧
      (registerOn asciiLower sampleVerify dmailFails (sampleCall "0xA" "alice") 1
        ⟨DEFAULT_DOMAIN, OrderedMap.empty⟩).state.db.get "user:alice" =
          some (sampleRegistration "0xA" "alice" 1) := by
  constructor
  · exact ⟨.rejected, by rfl⟩
  · rfl

end Chainmail.UsernameRegistry
