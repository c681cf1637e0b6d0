import Chainmail.HexBuffers
import Chainmail.OrderedMap
import Chainmail.Runs

/-!
`IdentityStore` of `src/crypto/identity.js`, over a database that works. A save is several
operations of the database. Those of other calls are done in between, and the process may end
before the last of them.
-/

namespace Chainmail.IdentityStore

open Json

/-- The keys of an identity as they are read from a record: nothing ties one to the other. -/
structure KeyPair where
  privateKey : Bytes
  publicKey : Bytes
deriving DecidableEq

def KeyPair.of {P : Packages} (identity : Identity P) : KeyPair :=
  ⟨identity.privateKey, identity.publicKey⟩

variable (P : Packages)

def KeyPair.toJSON (identity : KeyPair) : Json :=
  .object [("privateKey", .string (toHex identity.privateKey)),
    ("publicKey", .string (toHex identity.publicKey)),
    ("address", .string (addressOf P identity.publicKey))]

def fromJSON (json : Option Json) : Except Failure KeyPair := do
  let privateKey ← bufferFromHex P (← member "privateKey" json)
  let publicKey ← bufferFromHex P (← member "publicKey" json)
  return ⟨privateKey, publicKey⟩

abbrev Database := OrderedMap String Json

def identityKey (name : String) : String := "identity:" ++ name

def getIdentity (name : String) (db : Database) : Except Failure (Option KeyPair) :=
  match db.get (identityKey name) with
  | none => .ok none
  | some json => (fromJSON P (some json)).map some

/-- The name is read before the identity. -/
def getDefaultIdentity (first second : Database) : Except Failure (Option KeyPair) :=
  match first.get "default" with
  | none => .ok none
  | some defaultName => do getIdentity P (← toText defaultName) second

/-- The identities, in the order of their keys, in which the database lists its entries. -/
def identityEntries (db : Database) : List (String × Json) :=
  (db.entries.mergeSort fun entry other => decide (entry.1 ≤ other.1)).filter fun entry =>
    "identity:".toList.isPrefixOf entry.1.toList

def listIdentities (db : Database) : Except Failure (List (String × Option Json)) :=
  (identityEntries db).mapM fun entry => do
    let address ← member "address" (some entry.2)
    return (String.ofList (entry.1.toList.drop 9), address)

structure State where
  db : Database
  /-- The saves that have written their identity and not listed the identities yet. -/
  listing : List String
  /-- The saves that have listed no identity. -/
  defaulting : List String

def State.empty : State := ⟨.empty, [], []⟩

/-- What is done next: the first write of a save, its listing, its second write, the write of
    `setDefault`, or nothing more of what the process was at. -/
inductive Operation where
  | put (name : String) (identity : KeyPair)
  | list (name : String)
  | putDefault (name : String)
  | setDefault (name : String)
  | restart

def put (name : String) (identity : KeyPair) (state : State) : State :=
  { state with
    db := state.db.set (identityKey name) (identity.toJSON P)
    listing := name :: state.listing }

def list (name : String) (state : State) : State :=
  if name ∈ state.listing then
    let state := { state with listing := state.listing.erase name }
    match listIdentities state.db with
    | .ok [] => { state with defaulting := name :: state.defaulting }
    | _ => state
  else state

def setDefault (name : String) (state : State) : State :=
  { state with db := state.db.set "default" (.string name) }

def putDefault (name : String) (state : State) : State :=
  if name ∈ state.defaulting then
    setDefault name { state with defaulting := state.defaulting.erase name }
  else state

def step (state : State) : Operation → State
  | .put name identity => put P name identity state
  | .list name => list name state
  | .putDefault name => putDefault name state
  | .setDefault name => setDefault name state
  | .restart => { state with listing := [], defaulting := [] }

/-- The last operation comes first. -/
def replay : List Operation → State
  | [] => .empty
  | operation :: earlier => step P (replay earlier) operation

/-- The identity last saved under a name. -/
def lastSaved (name : String) : List Operation → Option KeyPair
  | [] => none
  | .put other identity :: earlier =>
      if other = name then some identity else lastSaved name earlier
  | _ :: earlier => lastSaved name earlier

/-- The name last handed to `setDefault`. -/
def lastDefault : List Operation → Option String
  | [] => none
  | .setDefault name :: _ => some name
  | _ :: earlier => lastDefault earlier

section Records
variable {P}

@[simp] theorem fromJSON_toJSON (identity : KeyPair) :
    fromJSON P (some (identity.toJSON P)) = .ok identity := by
  simp [fromJSON, KeyPair.toJSON, member, field, lookup]

theorem identityKey_inj {name other : String} :
    identityKey name = identityKey other ↔ name = other := by
  rw [identityKey, identityKey, ← String.toList_inj, String.toList_append, String.toList_append,
    List.append_cancel_left_eq, String.toList_inj]

theorem identityKey_ne_default (name : String) : identityKey name ≠ "default" := by
  intro same
  have letters := congrArg (fun text => text.toList.head?) same
  simp [identityKey] at letters

/-- Where an identity is held, the listing is not empty. -/
theorem listIdentities_held {name : String} {json : Json} {db : Database}
    (held : db.get (identityKey name) = some json) : listIdentities db ≠ .ok [] := by
  intro listed
  have none : identityEntries db = [] := by
    simpa using mapM_ok_map listed
  have entered : (identityKey name, json) ∈ identityEntries db := by
    rw [identityEntries, List.mem_filter, List.mem_mergeSort]
    exact ⟨(OrderedMap.get_iff_mem _ _ _).mp held, by simp [identityKey]⟩
  rw [none] at entered
  simp at entered

end Records

section Runs

/-- The database has what the operations so far put into it, and no save is to name a default:
    each lists the identities after it wrote its own, and nothing removes one. -/
structure Follows (past : List Operation) (state : State) : Prop where
  saved : ∀ name, state.db.get (identityKey name) = (lastSaved name past).map (KeyPair.toJSON P)
  named : state.db.get "default" = (lastDefault past).map .string
  listing : ∀ name ∈ state.listing, lastSaved name past ≠ none
  defaulting : state.defaulting = []

variable {P} {past : List Operation} {state : State}

theorem Follows.put (follows : Follows P past state) (name : String) (identity : KeyPair) :
    Follows P (.put name identity :: past) (put P name identity state) where
  saved other := by
    by_cases same : name = other
    · simp [IdentityStore.put, lastSaved, same]
    · have apart : identityKey other ≠ identityKey name :=
        fun equal => same (identityKey_inj.mp equal).symm
      simp [IdentityStore.put, lastSaved, same, OrderedMap.get_set_of_ne _ _ apart, follows.saved]
  named := by
    have apart := (identityKey_ne_default name).symm
    simp [IdentityStore.put, lastDefault, OrderedMap.get_set_of_ne _ _ apart, follows.named]
  listing other member := by
    by_cases same : name = other
    · simp [lastSaved, same]
    · have earlier : other ∈ state.listing := by
        simpa [IdentityStore.put, Ne.symm same] using member
      simpa [lastSaved, same] using follows.listing other earlier
  defaulting := follows.defaulting

theorem Follows.list (follows : Follows P past state) (name : String) :
    Follows P (.list name :: past) (list name state) := by
  rw [IdentityStore.list]
  split
  · rename_i waiting
    have held : state.db.get (identityKey name) ≠ none := by
      rw [follows.saved, Ne, Option.map_eq_none_iff]
      exact follows.listing name waiting
    obtain ⟨json, held⟩ := Option.ne_none_iff_exists'.mp held
    dsimp only
    split
    · rename_i listed
      exact absurd listed (listIdentities_held held)
    · exact ⟨follows.saved, follows.named,
        fun other member => follows.listing other (List.mem_of_mem_erase member),
        follows.defaulting⟩
  · exact ⟨follows.saved, follows.named, follows.listing, follows.defaulting⟩

theorem Follows.setDefault (follows : Follows P past state) (name : String) :
    Follows P (.setDefault name :: past) (setDefault name state) where
  saved other := by
    rw [IdentityStore.setDefault, OrderedMap.get_set_of_ne _ _ (identityKey_ne_default other)]
    exact follows.saved other
  named := by simp [IdentityStore.setDefault, lastDefault]
  listing := follows.listing
  defaulting := follows.defaulting

theorem Follows.putDefault (follows : Follows P past state) (name : String) :
    Follows P (.putDefault name :: past) (putDefault name state) := by
  have idle : name ∉ state.defaulting := by simp [follows.defaulting]
  rw [IdentityStore.putDefault, if_neg idle]
  exact ⟨follows.saved, follows.named, follows.listing, follows.defaulting⟩

theorem follows_replay (past : List Operation) : Follows P past (replay P past) := by
  induction past with
  | nil => exact ⟨fun _ => rfl, rfl, by simp [replay, State.empty], rfl⟩
  | cons operation earlier ih =>
      cases operation with
      | put name identity => exact ih.put name identity
      | list name => exact ih.list name
      | putDefault name => exact ih.putDefault name
      | setDefault name => exact ih.setDefault name
      | restart => exact ⟨ih.saved, ih.named, by simp [replay, step], rfl⟩

theorem Follows.getIdentity (follows : Follows P past state) (name : String) :
    getIdentity P name state.db = .ok (lastSaved name past) := by
  rw [IdentityStore.getIdentity, follows.saved]
  cases lastSaved name past with
  | none => rfl
  | some identity =>
      rw [Option.map_some]
      simp only [fromJSON_toJSON]
      rfl

/-- A default is what `setDefault` was told, and no save ever sets one. -/
theorem default_identity (past later : List Operation) :
    getDefaultIdentity P (replay P past).db (replay P (later ++ past)).db =
      .ok ((lastDefault past).bind fun name => lastSaved name (later ++ past)) := by
  have named := (follows_replay (P := P) past).named
  rw [getDefaultIdentity, named]
  cases lastDefault past with
  | none => rfl
  | some name => exact (follows_replay (later ++ past)).getIdentity name

end Runs
end Chainmail.IdentityStore
