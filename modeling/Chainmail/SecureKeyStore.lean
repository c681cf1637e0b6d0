import Chainmail.HybridCipher
import Chainmail.Outcome
import Chainmail.Runs
import Mathlib.Logic.Function.Basic

/-!
`src/crypto/secure-storage.js`: private keys on the disk, sealed with a key that the store only
borrows. It keeps a reference to the array that `unlock` was given, so `lock` zeroes the
caller's array, and whoever else writes to that array changes the key of the store. Database
calls take their time: a write may land, and a read may look, at any later moment, and a
decryption uses the key of the moment at which it goes on. The derivation by scrypt, `listKeys`
and the closed database are left out.
-/

namespace Chainmail.SecureStorage

variable {P : Packages}

def KEY_LENGTH : Nat := 32

/-- A string, or the bytes of an array. -/
inductive Data where
  | text (text : String)
  | bytes (bytes : Bytes)

def Data.encoded : Data → Bytes
  | .text given => utf8Encode given
  | .bytes given => given

/-- What `randomBytes(12)` returns. -/
structure Nonce where
  bytes : Bytes
  length_eq : bytes.length = 12

/-- `chacha20poly1305` takes an array of 32 bytes for a key, and throws on anything else. -/
def cipherFor (key : Option Bytes) : Except Failure Bytes :=
  accepted (key.filter fun bytes => bytes.length = KEY_LENGTH)

variable (P) in
def encryptData (plaintext : Data) (key : Option Bytes) (nonce : Nonce) : Except Failure Bytes := do
  let key ← cipherFor key
  return nonce.bytes ++ P.chachaEncrypt key nonce.bytes plaintext.encoded

variable (P) in
def decryptData (encrypted : Bytes) (key : Option Bytes) : Except Failure Bytes := do
  let key ← cipherFor key
  accepted (P.chachaDecrypt key (encrypted.take 12) (encrypted.drop 12))

/-- `secureZero` -/
def secureZero (buffer : Bytes) : Bytes := List.replicate buffer.length 0

/-- The loop of `secureCompare`, which collects the bits that differ. -/
def differing : Bytes → Bytes → UInt8 → UInt8
  | a :: rest, b :: others, result => differing rest others (result ||| (a ^^^ b))
  | _, _, result => result

def secureCompare (a b : Bytes) : Bool :=
  if a.length ≠ b.length then false else differing a b 0 == 0

theorem cipherFor_ok_iff {key : Option Bytes} {bytes : Bytes} :
    cipherFor key = .ok bytes ↔ key = some bytes ∧ bytes.length = KEY_LENGTH := by
  simp [cipherFor, Option.filter_eq_some_iff]

theorem cipherFor_cases (key : Option Bytes) :
    (∃ bytes, key = some bytes ∧ bytes.length = KEY_LENGTH ∧ cipherFor key = .ok bytes) ∨
      (∀ bytes, key = some bytes → bytes.length ≠ KEY_LENGTH) ∧
        cipherFor key = .error .rejected := by
  cases key with
  | none => exact .inr ⟨by simp, rfl⟩
  | some bytes =>
      by_cases length : bytes.length = KEY_LENGTH
      · exact .inl ⟨bytes, rfl, length, cipherFor_ok_iff.mpr ⟨rfl, length⟩⟩
      · refine .inr ⟨?_, ?_⟩
        · rintro _ ⟨⟩
          exact length
        · rw [cipherFor, Option.filter_some, if_neg (by simpa using length), accepted]

theorem decryptData_append {nonce : Nonce} {key : Option Bytes} {ciphertext : Bytes} :
    decryptData P (nonce.bytes ++ ciphertext) key =
      cipherFor key >>= fun key => accepted (P.chachaDecrypt key nonce.bytes ciphertext) := by
  rw [decryptData, List.take_left' nonce.length_eq, List.drop_left' nonce.length_eq]

/-- The two arrays agree bit for bit just when the loop has found no bit that differs. -/
theorem secureCompare_iff (a b : Bytes) : secureCompare a b = true ↔ a = b := by
  have found : ∀ (a b : Bytes) (result : UInt8), a.length = b.length →
      (differing a b result = 0 ↔ result = 0 ∧ a = b) := by
    intro a
    induction a with
    | nil =>
        intro b result length
        obtain rfl := List.length_eq_zero_iff.mp length.symm
        simp [differing]
    | cons first rest ih =>
        intro b result length
        cases b with
        | nil => simp at length
        | cons other others =>
            rw [differing, ih others _ (Nat.succ.inj length), UInt8.or_eq_zero_iff,
              UInt8.xor_eq_zero_iff, List.cons.injEq, and_assoc]
  unfold secureCompare
  by_cases length : a.length = b.length
  · simp [length, found a b 0 length]
  · simp only [ne_eq, length, not_false_eq_true, ↓reduceIte, Bool.false_eq_true, false_iff]
    exact fun same => length (congrArg List.length same)

/-- How a store seals what it puts into its database, and opens it again. -/
structure Sealing (Entry : Type) where
  encrypt : Data → Option Bytes → Nonce → Except Failure Entry
  decrypt : Entry → Option Bytes → Except Failure Bytes

variable (P) in
def chacha : Sealing Bytes := ⟨encryptData P, decryptData P⟩

namespace SecureKeyStore

/-- A variable of the program that holds an array. -/
abbrev Reference := Nat

/-- Where a `getPrivateKey` is. -/
inductive Get (Entry : Type) where
  | asked (name : String)
  | found (name : String) (encrypted : Option Entry)
  | done

/-- The arrays of the program, the store, the writes that have not reached the database, and
    the calls of `getPrivateKey` so far. -/
structure State (Entry : Type) where
  arrays : Reference → Bytes
  storageKey : Option Reference
  unlocked : Bool
  db : String → Option Entry
  writes : List (String × Option Entry)
  gets : List (Get Entry)

/-- A store that was constructed with a key, or with none. -/
def constructed (Entry : Type) (storageKey : Option Reference) : State Entry :=
  ⟨fun _ => [], storageKey, false, fun _ => none, [], []⟩

variable {Entry : Type} (S : Sealing Entry)

abbrev Call (Entry Result : Type) := Outcome (State Entry) Failure Result

/-- The bytes of the key, as they are now. -/
def keyInMemory (state : State Entry) : Option Bytes := state.storageKey.map state.arrays

def keyOf (name : String) : String := "key:" ++ name

def unlock (key : Option Reference) (state : State Entry) : State Entry :=
  { state with storageKey := key, unlocked := true }

def lock (state : State Entry) : State Entry :=
  let arrays :=
    match state.storageKey with
    | none => state.arrays
    | some array => Function.update state.arrays array (secureZero (state.arrays array))
  { state with arrays, storageKey := none, unlocked := false }

def locked : Failure := .error "Key store is locked"

/-- The key is sealed at once, and written later. -/
def storePrivateKey (name : String) (privateKey : Data) (nonce : Nonce) (state : State Entry) :
    Call Entry Unit :=
  if state.unlocked = false then .throws state locked
  else
    match S.encrypt privateKey (keyInMemory state) nonce with
    | .error failure => .throws state failure
    | .ok encrypted =>
        .returns { state with writes := state.writes ++ [(keyOf name, some encrypted)] } ()

def deletePrivateKey (name : String) (state : State Entry) : State Entry :=
  { state with writes := state.writes ++ [(keyOf name, none)] }

def getPrivateKey (name : String) (state : State Entry) : Call Entry Unit :=
  if state.unlocked = false then .throws state locked
  else .returns { state with gets := state.gets ++ [.asked name] } ()

/-- One of the writes on their way reaches the database. -/
def lands (place : Nat) (state : State Entry) : State Entry :=
  match state.writes[place]? with
  | none => state
  | some (key, entry) =>
      { state with
        db := Function.update state.db key entry
        writes := state.writes.eraseIdx place }

/-- The database looks up what a call has asked for. -/
def reads (call : Nat) (state : State Entry) : State Entry :=
  match state.gets[call]? with
  | some (.asked name) =>
      { state with gets := state.gets.set call (.found name (state.db (keyOf name))) }
  | _ => state

/-- What a call returns or throws when it goes on: `null` for what was not found. -/
def answer (call : Nat) (state : State Entry) : Option (Except Failure (Option Bytes)) :=
  match state.gets[call]? with
  | some (.found _ none) => some (.ok none)
  | some (.found _ (some encrypted)) => some ((S.decrypt encrypted (keyInMemory state)).map some)
  | _ => none

def resumes (call : Nat) (state : State Entry) : State Entry :=
  match state.gets[call]? with
  | some (.found _ _) => { state with gets := state.gets.set call .done }
  | _ => state

/-- What the program does to an array, or with the store, or what comes of an earlier call. -/
inductive Input where
  | assign (array : Reference) (content : Bytes)
  | unlock (key : Option Reference)
  | lock
  | storePrivateKey (name : String) (privateKey : Data) (nonce : Nonce)
  | deletePrivateKey (name : String)
  | getPrivateKey (name : String)
  | lands (place : Nat)
  | reads (call : Nat)
  | resumes (call : Nat)

def step (state : State Entry) : Input → State Entry
  | .assign array content => { state with arrays := Function.update state.arrays array content }
  | .unlock key => unlock key state
  | .lock => lock state
  | .storePrivateKey name privateKey nonce => (storePrivateKey S name privateKey nonce state).state
  | .deletePrivateKey name => deletePrivateKey name state
  | .getPrivateKey name => (getPrivateKey name state).state
  | .lands place => lands place state
  | .reads call => reads call state
  | .resumes call => resumes call state

/-- The last input comes first. -/
def replay (storageKey : Option Reference) : List Input → State Entry
  | [] => constructed Entry storageKey
  | input :: earlier => step S (replay storageKey earlier) input

/-- What a caller gets: of a store, of a get that is refused at once, and of one that goes on. -/
def reply (state : State Entry) : Input → Option (Except Failure (Option Bytes))
  | .storePrivateKey name privateKey nonce =>
      some ((storePrivateKey S name privateKey nonce state).result.map fun _ => none)
  | .getPrivateKey name =>
      match (getPrivateKey name state).result with
      | .error failure => some (.error failure)
      | .ok _ => none
  | .resumes call => answer S call state
  | _ => none

/-- All that the callers get in a run, the last first. -/
def replies (storageKey : Option Reference) : List Input → List (Except Failure (Option Bytes))
  | [] => []
  | input :: earlier =>
      (reply S (replay S storageKey earlier) input).toList ++ replies storageKey earlier

end SecureKeyStore
end Chainmail.SecureStorage
