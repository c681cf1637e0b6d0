import Chainmail.IdentityDatabase
import Chainmail.JsonLayout
import Chainmail.Outcome
import Chainmail.PackageAssumptions

/-!
The commands that write the database of the identities: `init` and `import` of
`src/cli/index.js` and `quickStart` of `src/index.js`. What `export` of the command line shows or
writes is a backup. A command has the database to itself.
-/

namespace Chainmail.IdentityStore

open Json

variable (P : Packages)

def saveIdentity (name : String) (identity : KeyPair) (db : Database) :
    Outcome Database Failure Unit :=
  let db := db.set (identityKey name) (identity.toJSON P)
  match listIdentities db with
  | .error failure => .throws db failure
  | .ok existing =>
      if existing.length = 0 then .returns (db.set "default" (.string name)) ()
      else .returns db ()

/-- `dmail init` -/
def init (name : String) (generated : Identity P) (db : Database) :
    Outcome Database Failure Unit :=
  match getIdentity P name db with
  | .error failure => .throws db failure
  | .ok (some _) => .returns db ()
  | .ok none => saveIdentity P name (.of generated) db

/-- `quickStart`, up to the identity that it starts a node with. -/
def quickStart (generated : Identity P) (db : Database) : Outcome Database Failure KeyPair :=
  match getDefaultIdentity P db db with
  | .error failure => .throws db failure
  | .ok (some identity) => .returns db identity
  | .ok none =>
      (saveIdentity P "default" (.of generated) db).andThen fun _ db =>
        .returns db (.of generated)

/-- The name of an imported identity. -/
def importName (name : Option String) (now : Nat) : String :=
  match name with
  | none | some "" => "imported-" ++ toString now
  | some name => name

def opened (backup : String) : Except Failure KeyPair := do
  let json ← parseOrThrow backup
  fromJSON P (some json)

/-- `dmail import`, which reports what goes wrong and goes on. -/
def importIdentity (backup : String) (name : Option String) (now : Nat) (db : Database) :
    Database :=
  match opened P backup with
  | .error _ => db
  | .ok identity => (saveIdentity P (importName name now) identity db).state

/-- How to export, with what is drawn and asked for a file. -/
inductive Method where
  | file (password : String) (salt nonce : Bytes)
  | screen
deriving DecidableEq

/-- `scrypt` takes the password and the salt. -/
def backupFile (scrypt : Bytes → Bytes → Bytes) (password : String) (salt nonce : Bytes)
    (identity : KeyPair) : Json :=
  let key := scrypt (utf8Encode password) salt
  let plaintext := utf8Encode (stringify (identity.toJSON P))
  .object [("version", ofInt 1), ("salt", .string (toBase64 salt)),
    ("nonce", .string (toBase64 nonce)),
    ("ciphertext", .string (toBase64 (P.chachaEncrypt key nonce plaintext)))]

def backupText (scrypt : Bytes → Bytes → Bytes) (identity : KeyPair) : Method → String
  | .file password salt nonce => stringifyIndented (backupFile P scrypt password salt nonce identity)
  | .screen => stringifyIndented (identity.toJSON P)

/-- `dmail export`: what is written to the file, or shown on the screen. -/
def exportIdentity (scrypt : Bytes → Bytes → Bytes) (name : String) (confirm : Bool)
    (method : Method) (db : Database) : Except Failure (Option String) := do
  match ← getIdentity P name db with
  | none => return none
  | some identity => return if confirm then some (backupText P scrypt identity method) else none

inductive Command where
  | init (name : String) (generated : Identity P)
  | importIdentity (backup : String) (name : Option String) (now : Nat)
  | quickStart (generated : Identity P)

variable {P} in
def runCommand (db : Database) : Command P → Database
  | .init name generated => (init P name generated db).state
  | .importIdentity backup name now => importIdentity P backup name now db
  | .quickStart generated => (quickStart P generated db).state

variable {P} in
/-- The last command comes first. -/
def after : List (Command P) → Database
  | [] => .empty
  | command :: earlier => runCommand (after earlier) command

variable {P} in
/-- The identity under a name: the one imported last, or else the first that was made; a start
    makes one under `default` each time. -/
def kept (name : String) : List (Command P) → Option KeyPair
  | [] => none
  | .init other generated :: earlier =>
      if other = name then (kept name earlier).or (some (.of generated)) else kept name earlier
  | .importIdentity backup other now :: earlier =>
      match opened P backup with
      | .error _ => kept name earlier
      | .ok identity =>
          if importName other now = name then some identity else kept name earlier
  | .quickStart generated :: earlier =>
      if name = "default" then some (.of generated) else kept name earlier

/-- The identities in the database by name, none of them a default. -/
structure Holds (saved : String → Option KeyPair) (db : Database) : Prop where
  saved : ∀ name, db.get (identityKey name) = (saved name).map (KeyPair.toJSON P)
  unnamed : db.get "default" = none
  objects : ∀ value ∈ db.values, ∃ fields, value = .object fields

section Commands
variable {P} {saved : String → Option KeyPair} {db : Database}

theorem Holds.getIdentity (holds : Holds P saved db) (name : String) :
    getIdentity P name db = .ok (saved name) := by
  rw [IdentityStore.getIdentity, holds.saved]
  cases saved name with
  | none => rfl
  | some identity =>
      rw [Option.map_some]
      simp only [fromJSON_toJSON]
      rfl

theorem Holds.getDefaultIdentity (holds : Holds P saved db) :
    getDefaultIdentity P db db = .ok none := by
  rw [IdentityStore.getDefaultIdentity, holds.unnamed]

theorem Holds.set (holds : Holds P saved db) (name : String) (identity : KeyPair) :
    Holds P (Function.update saved name (some identity))
      (db.set (identityKey name) (identity.toJSON P)) where
  saved other := by
    by_cases same : other = name
    · simp [same]
    · have apart : identityKey other ≠ identityKey name := mt identityKey_inj.mp same
      rw [OrderedMap.get_set_of_ne _ _ apart, Function.update_of_ne same, holds.saved]
  unnamed := by
    rw [OrderedMap.get_set_of_ne _ _ (identityKey_ne_default name).symm, holds.unnamed]
  objects value member := by
    rcases OrderedMap.mem_values_set member with rfl | earlier
    · exact ⟨_, rfl⟩
    · exact holds.objects value earlier

theorem Holds.listed (holds : Holds P saved db) : ∃ existing, listIdentities db = .ok existing := by
  apply mapM_ok_exists
  intro entry member
  have stored : entry ∈ db.entries := by
    have sorted := (List.mem_filter.mp member).1
    rwa [List.mem_mergeSort] at sorted
  obtain ⟨fields, shown⟩ := holds.objects entry.2 (List.mem_map_of_mem stored)
  rw [shown]
  exact ⟨_, rfl⟩

/-- A save finds its own identity in the listing, so it leaves the default as it was. -/
theorem Holds.saveIdentity (holds : Holds P saved db) (name : String) (identity : KeyPair) :
    saveIdentity P name identity db =
      .returns (db.set (identityKey name) (identity.toJSON P)) () := by
  obtain ⟨existing, listed⟩ := (holds.set name identity).listed
  have found : existing.length ≠ 0 := by
    intro none
    rw [List.length_eq_zero_iff.mp none] at listed
    exact listIdentities_held (OrderedMap.get_set_self db _ _) listed
  simp only [IdentityStore.saveIdentity, listed, found, ↓reduceIte]

theorem Holds.init (holds : Holds P saved db) (name : String) (generated : Identity P) :
    Holds P (fun other => if name = other then (saved other).or (some (.of generated))
      else saved other) (init P name generated db).state := by
  rw [IdentityStore.init, holds.getIdentity]
  cases found : saved name with
  | some identity =>
      have same : (fun other => if name = other then (saved other).or (some (.of generated))
          else saved other) = saved := by
        funext other
        by_cases equal : name = other
        · simp [← equal, found]
        · simp [equal]
      rwa [same]
  | none =>
      have same : (fun other => if name = other then (saved other).or (some (.of generated))
          else saved other) = Function.update saved name (some (.of generated)) := by
        funext other
        by_cases equal : name = other
        · simp [← equal, found]
        · simp [equal, Function.update_of_ne (Ne.symm equal)]
      rw [same, holds.saveIdentity]
      exact holds.set name _

theorem Holds.quickStart (holds : Holds P saved db) (generated : Identity P) :
    quickStart P generated db =
      .returns (db.set (identityKey "default") ((KeyPair.of generated).toJSON P))
        (.of generated) := by
  rw [IdentityStore.quickStart, holds.getDefaultIdentity]
  simp only [holds.saveIdentity, Outcome.returns_andThen]

theorem holds_after (past : List (Command P)) :
    Holds P (fun name => kept name past) (after past) := by
  induction past with
  | nil => exact ⟨fun _ => rfl, rfl, by simp [after, OrderedMap.values, OrderedMap.empty]⟩
  | cons command earlier ih =>
      cases command with
      | init name generated => exact ih.init name generated
      | quickStart generated =>
          have same : (fun name => kept name (.quickStart generated :: earlier)) =
              Function.update (fun name => kept name earlier) "default" (some (.of generated)) := by
            funext name
            by_cases equal : name = "default"
            · simp [kept, equal]
            · simp [kept, equal]
          rw [same, after, runCommand, ih.quickStart]
          exact ih.set "default" _
      | importIdentity backup name now =>
          rw [after, runCommand, importIdentity]
          cases read : opened P backup with
          | error failure => simpa only [kept, read] using ih
          | ok identity =>
              have same : (fun other => kept other (.importIdentity backup name now :: earlier)) =
                  Function.update (fun other => kept other earlier) (importName name now)
                    (some identity) := by
                funext other
                by_cases equal : importName name now = other
                · simp [kept, read, ← equal]
                · simp [kept, read, equal, Function.update_of_ne (Ne.symm equal)]
              rw [same]
              simp only [ih.saveIdentity]
              exact ih.set (importName name now) identity

/-- No start finds the identity of an earlier one: each makes another and stores it under
    `default`, over what is there. -/
theorem starts_afresh (past : List (Command P)) :
    (∀ name, getIdentity P name (after past) = .ok (kept name past)) ∧
      ∀ generated, (quickStart P generated (after past)).result = .ok (.of generated) := by
  have holds := holds_after past
  refine ⟨holds.getIdentity, fun generated => ?_⟩
  rw [holds.quickStart]
  rfl

end Commands

section Backups
variable {P} {lead trail : List Char}

theorem opened_layout (leading : Blank lead) (trailing : Blank trail) {json : Json}
    (canonical : Canonical json) :
    opened P (String.ofList (lead ++ (stringifyIndented json).toList ++ trail)) =
      fromJSON P (some json) := by
  have gap : Blank [' ', ' '] := by decide
  rw [opened, parseOrThrow, stringifyIndented, String.toList_ofList,
    parse_layOut gap leading trailing canonical, ok_bind]

/-- Only a backup that was shown on the screen has the keys where they are looked for. -/
theorem opened_backup (leading : Blank lead) (trailing : Blank trail)
    (scrypt : Bytes → Bytes → Bytes) (identity : KeyPair) (method : Method) :
    (opened P (String.ofList (lead ++ (backupText P scrypt identity method).toList ++
      trail))).toOption = if method = .screen then some identity else none := by
  cases method with
  | screen =>
      have canonical : Canonical (identity.toJSON P) :=
        canonical_object ["privateKey", "publicKey", "address"] rfl (by decide)
          ⟨trivial, trivial, trivial, trivial⟩
      rw [backupText, opened_layout leading trailing canonical, fromJSON_toJSON]
      rfl
  | file password salt nonce =>
      have canonical : Canonical (backupFile P scrypt password salt nonce identity) :=
        canonical_object ["version", "salt", "nonce", "ciphertext"] rfl (by decide)
          ⟨canonical_natural 1, trivial, trivial, trivial, trivial⟩
      have missing : member "privateKey" (some (backupFile P scrypt password salt nonce identity)) =
          .ok none := by
        simp [backupFile, member, field, lookup]
      rw [backupText, opened_layout leading trailing canonical, fromJSON, missing]
      rfl

/-- What the screen showed is imported as it was exported, at any later time; from the encrypted
    file that is recommended nothing is imported, whatever its password. -/
theorem backup_restores (past later : List (Command P)) {scrypt : Bytes → Bytes → Bytes}
    {name text : String} {confirm : Bool} {method : Method}
    (exported : exportIdentity P scrypt name confirm method (after past) = .ok (some text))
    (leading : Blank lead) (trailing : Blank trail) (newName : Option String) (now : Nat)
    (other : String) :
    getIdentity P other (after (.importIdentity (String.ofList (lead ++ text.toList ++ trail))
        newName now :: (later ++ past))) =
      .ok (if method = .screen ∧ importName newName now = other then kept name past
        else kept other (later ++ past)) := by
  obtain ⟨identity, held, rfl⟩ : ∃ identity, kept name past = some identity ∧
      text = backupText P scrypt identity method := by
    rw [exportIdentity, (holds_after past).getIdentity, ok_bind] at exported
    cases held : kept name past with
    | none => simp [held, pure, Except.pure] at exported
    | some identity =>
        refine ⟨identity, rfl, ?_⟩
        cases confirm with
        | false => simp [held, pure, Except.pure] at exported
        | true =>
            have shown : some (backupText P scrypt identity method) = some text := by
              simpa [held, pure, Except.pure] using exported
            exact (Option.some.inj shown).symm
  have read := opened_backup (P := P) leading trailing scrypt identity method
  rw [(holds_after _).getIdentity, held]
  congr 1
  generalize String.ofList (lead ++ (backupText P scrypt identity method).toList ++ trail) =
    pasted at read
  by_cases screen : method = .screen
  · rw [if_pos screen, toOption_eq_some_iff] at read
    simp only [kept, read, screen, true_and]
  · rw [if_neg screen] at read
    cases refused : opened P pasted with
    | ok found => simp [refused, Except.toOption] at read
    | error failure => simp only [kept, refused, screen, false_and, ↓reduceIte]

end Backups

/-- A backup is shown, lost for a while, and pasted with a line break at its end. -/
theorem sample_backup_restores :
    getIdentity samplePackages "again" (after [.importIdentity (String.ofList ([] ++
        (backupText samplePackages (fun password _ => password) (.of (sampleIdentity 1))
          .screen).toList ++ ['\n'])) (some "again") 5, .quickStart (sampleIdentity 2),
        .init "default" (sampleIdentity 1)]) = .ok (some (.of (sampleIdentity 1))) := by
  have exported : exportIdentity samplePackages (fun password _ => password) "default" true
      .screen (after [.init "default" (sampleIdentity 1)]) =
        .ok (some (backupText samplePackages (fun password _ => password)
          (.of (sampleIdentity 1)) .screen)) := by
    rw [exportIdentity, (holds_after _).getIdentity]
    rfl
  exact backup_restores [.init "default" (sampleIdentity 1)] [.quickStart (sampleIdentity 2)]
    exported Blank.nil (by decide) (some "again") 5 "again"

end Chainmail.IdentityStore
