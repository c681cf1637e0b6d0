import Chainmail.ApiLogin
import Chainmail.JsText
import Chainmail.Runs

/-!
The rest of `api/src/crypto/identity-store.service.ts`: identities are looked up by an address
that a request names, which becomes part of a path, and loaded from the files of the disk. A
path is the list of the names that lead to a file, and all names are taken as they are written.
-/

namespace Chainmail.ApiLogin

variable (P : Packages) (bech32 : String → Bytes → String)

/-- One more part of a path. -/
def enter (names : List String) (part : String) : List String :=
  if part = "" ∨ part = "." then names
  else if part = ".." then names.dropLast
  else names ++ [part]

/-- `join` of a directory, whose path is absolute and has no dots, and of a path. -/
def join (directory : List String) (path : String) : List String :=
  (JsText.split '/' path).foldl enter directory

namespace IdentityStoreService

variable (DMAIL_DIR : List String)

def IDENTITIES_DIR : List String := join DMAIL_DIR "identities"

/-- The name of a file that ends in `.json`, without the ending. -/
def stem (file : String) : Option String :=
  if ".json".toList.isSuffixOf file.toList then
    some (String.ofList (file.toList.take (file.toList.length - 5)))
  else none

/-- What the disk has under a path: the identities and `identity.json`, and elsewhere nothing
    that can be read as an identity. -/
def fileAt (path : List String) (server : Server) : File Stored :=
  if path = join DMAIL_DIR "identity.json" then server.identityFile
  else
    match path.getLast?.bind stem with
    | some address => if path.dropLast = IDENTITIES_DIR DMAIL_DIR then server.files address else .absent
    | none => .absent

/-- Where `getIdentity` looks for an address. -/
def pathOf (address : String) : List String :=
  join (IDENTITIES_DIR DMAIL_DIR) (address ++ ".json")

def remember (key : String) (identity : Identity) (server : Server) : Server :=
  { server with identities := server.identities.set key identity }

/-- `directory` tells whether the directory is there or can be made. -/
def getIdentity (address : String) (directory : Bool) (server : Server) :
    Outcome Server Failure (Option Identity) :=
  match server.identities.get address with
  | some identity => .returns server (some identity)
  | none =>
      if directory = false then .throws server .rejected
      else
        match fileAt DMAIL_DIR (pathOf DMAIL_DIR address) server with
        | .holds stored => .returns (remember address stored.identity server) (some stored.identity)
        | _ => .returns server none

/-- One turn of the loop over the directory. -/
def loadFile (server : Server) (file : String) : Server :=
  if (stem file).isNone then server
  else
    match fileAt DMAIL_DIR (join (IDENTITIES_DIR DMAIL_DIR) file) server with
    | .holds stored => remember stored.identity.address stored.identity server
    | _ => server

/-- `listing` is what the directory lists, unless it cannot be read, and `copy` what comes of
    the write of the legacy identity to its new place. -/
def loadAllIdentities (directory : Bool) (listing : Option (List String)) (copy : Write)
    (server : Server) : Outcome Server Failure Unit :=
  if directory = false then .throws server .rejected
  else
    let server := (listing.getD []).foldl (loadFile DMAIL_DIR) server
    match server.identityFile with
    | .holds stored =>
        let address := stored.identity.address
        if server.identities.has address then .returns server ()
        else
          let server := remember address stored.identity server
          .returns { server with
            files := Function.update server.files address
              (copy.apply stored (server.files address)) } ()
    | _ => .returns server ()

inductive Call where
  | createIdentity (name : Option String) (draws : IdentityService.Draws) (disk : Disk) (now : Nat)
  | getIdentity (address : String) (directory : Bool)
  | loadAllIdentities (directory : Bool) (listing : Option (List String)) (copy : Write)

def step (server : Server) : Call → Server
  | .createIdentity name draws disk now => (createIdentity P bech32 name draws disk now server).state
  | .getIdentity address directory => (getIdentity DMAIL_DIR address directory server).state
  | .loadAllIdentities directory listing copy =>
      (loadAllIdentities DMAIL_DIR directory listing copy server).state

/-- The last call comes first. -/
def replay (start : Server) : List Call → Server
  | [] => start
  | call :: earlier => step P bech32 DMAIL_DIR (replay start earlier) call

/-- The identity has the address of its own key. -/
def Derived (identity : Identity) : Prop :=
  identity.address = IdentityService.deriveAddress P bech32 identity.publicKey

/-- The service wrote all identities that the disk has. -/
structure Wrote (server : Server) : Prop where
  files : ∀ address stored, server.files address = .holds stored →
    stored.identity.address = address ∧ Derived P bech32 stored.identity
  legacy : ∀ stored, server.identityFile = .holds stored → Derived P bech32 stored.identity

/-- Every identity in memory is under its own address. -/
def Filed (server : Server) : Prop :=
  ∀ key identity, server.identities.get key = some identity → identity.address = key

/-- An identity that the call returns for an address has that address. -/
def Answers (call : Call) (server : Server) : Prop :=
  ∀ address directory identity, call = .getIdentity address directory →
    (getIdentity DMAIL_DIR address directory server).result = .ok (some identity) →
      identity.address = address

/-- The calls so far: what the last one answered, and what is in memory after it. -/
def Kept (start : Server) (past : List Call) : Prop :=
  Filed (replay P bech32 DMAIL_DIR start past) ∧
    ∀ call earlier, past = call :: earlier →
      Answers DMAIL_DIR call (replay P bech32 DMAIL_DIR start earlier)

/-- The address is not in memory, and its path leads to the file of an identity. -/
def Reads (address : String) (directory : Bool) (server : Server) (stored : Stored) : Prop :=
  directory = true ∧ server.identities.get address = none ∧
    fileAt DMAIL_DIR (pathOf DMAIL_DIR address) server = .holds stored

/-- What is read from a file is asked for by a plain name. -/
def AsksPlainly (start : Server) (call : Call) (earlier : List Call) : Prop :=
  ∀ address directory stored, call = .getIdentity address directory →
    Reads DMAIL_DIR address directory (replay P bech32 DMAIL_DIR start earlier) stored →
      '/' ∉ address.toList

/-- The service starts with nothing in memory, on a disk that it wrote before. -/
structure Started where
  server : Server
  empty : server.identities = OrderedMap.empty
  wrote : Wrote P bech32 server

/-- An address has no slash: it is a prefix and letters of the alphabet of bech32. -/
def PlainAddresses : Prop :=
  ∀ bytes, '/' ∉ (bech32 IdentityService.ADDRESS_PREFIX bytes).toList

section Paths
variable {DMAIL_DIR} {address : String} {server : Server}

theorem stem_json (address : String) : stem (address ++ ".json") = some address := by
  have letters : (address ++ ".json").toList = address.toList ++ ".json".toList :=
    String.toList_append ..
  have ends : ".json".toList.isSuffixOf (address ++ ".json").toList = true := by
    rw [letters, List.isSuffixOf_iff_suffix]
    exact List.suffix_append _ _
  have length : (address ++ ".json").toList.length - 5 = address.toList.length := by
    rw [letters, List.length_append]
    rfl
  rw [stem, if_pos ends, length, letters, List.take_left, String.ofList_toList]

theorem enter_json (names : List String) (address : String) :
    enter names (address ++ ".json") = names ++ [address ++ ".json"] := by
  have other (text : String) (short : text.toList.length < 5) : address ++ ".json" ≠ text := by
    intro same
    have letters := congrArg (fun text => text.toList.length) same
    rw [String.toList_append, List.length_append] at letters
    have ending : ".json".toList.length = 5 := rfl
    omega
  rw [enter, if_neg (not_or.mpr ⟨other "" (by decide), other "." (by decide)⟩),
    if_neg (other ".." (by decide))]

theorem join_plain (directory : List String) (plain : '/' ∉ address.toList) :
    join directory (address ++ ".json") = directory ++ [address ++ ".json"] := by
  have free : '/' ∉ (address ++ ".json").toList := by
    rw [String.toList_append, List.mem_append, not_or]
    exact ⟨plain, by decide⟩
  rw [join, JsText.split_of_free free]
  exact enter_json directory address

theorem legacy_path : join DMAIL_DIR "identity.json" = DMAIL_DIR ++ ["identity.json"] := by
  have plain : '/' ∉ "identity".toList := by decide
  exact join_plain DMAIL_DIR plain

theorem identities_path : IDENTITIES_DIR DMAIL_DIR = DMAIL_DIR ++ ["identities"] := by
  have free : '/' ∉ "identities".toList := by decide
  rw [IDENTITIES_DIR, join, JsText.split_of_free free]
  rfl

/-- A plain name leads to the file of that address. -/
theorem fileAt_plain (plain : '/' ∉ address.toList) :
    fileAt DMAIL_DIR (pathOf DMAIL_DIR address) server = server.files address := by
  have path : pathOf DMAIL_DIR address = IDENTITIES_DIR DMAIL_DIR ++ [address ++ ".json"] :=
    join_plain _ plain
  have other : pathOf DMAIL_DIR address ≠ join DMAIL_DIR "identity.json" := by
    intro same
    have lengths := congrArg List.length same
    rw [path, identities_path, legacy_path] at lengths
    simp at lengths
  rw [fileAt, if_neg other, path]
  simp [stem_json]

end Paths

section Disk
variable {P bech32 DMAIL_DIR} {server : Server} {stored : Stored} {path : List String}

theorem fileAt_wrote (wrote : Wrote P bech32 server)
    (found : fileAt DMAIL_DIR path server = .holds stored) : Derived P bech32 stored.identity := by
  rw [fileAt] at found
  split at found
  · exact wrote.legacy stored found
  · split at found
    · split at found
      · exact (wrote.files _ stored found).2
      · cases found
    · cases found

theorem Derived.plain {identity : Identity} (derived : Derived P bech32 identity)
    (plain : PlainAddresses bech32) : '/' ∉ identity.address.toList := by
  rw [derived]
  exact plain _

/-- A write leaves the file, tears it or puts the content that was to be written. -/
theorem Wrote.update (wrote : Wrote P bech32 server) (stored : Stored) (derived : Derived P bech32 stored.identity)
    (write : Write) : Wrote P bech32 { server with
      files := Function.update server.files stored.identity.address
        (write.apply stored (server.files stored.identity.address)) } where
  files := by
    intro address other held
    dsimp only at held
    by_cases own : address = stored.identity.address
    · subst own
      rw [Function.update_self] at held
      cases write with
      | done =>
          cases held
          exact ⟨rfl, derived⟩
      | untouched => exact wrote.files _ other held
      | torn => cases held
    · rw [Function.update_of_ne own] at held
      exact wrote.files address other held
  legacy := wrote.legacy

theorem Wrote.legacy_write (wrote : Wrote P bech32 server) (stored : Stored)
    (derived : Derived P bech32 stored.identity) (write : Write) :
    Wrote P bech32 { server with identityFile := write.apply stored server.identityFile } where
  files := wrote.files
  legacy := by
    intro other held
    cases write with
    | done =>
        cases held
        exact derived
    | untouched => exact wrote.legacy other held
    | torn => cases held

theorem Filed.remember (filed : Filed server) (identity : Identity) {key : String}
    (own : identity.address = key) : Filed (remember key identity server) := by
  intro other held found
  rw [IdentityStoreService.remember, OrderedMap.get_set] at found
  split at found
  next same =>
    cases found
    exact own.trans same.symm
  next => exact filed other held found

variable (P bech32) in
/-- What a step keeps: the disk is the service's own, and the memory stays in order. -/
structure Sound (before after : Server) : Prop where
  wrote : Wrote P bech32 before → Wrote P bech32 after
  filed : Filed before → Filed after

theorem createIdentity_sound (name : Option String) (draws : IdentityService.Draws) (disk : Disk)
    (now : Nat) (server : Server) :
    Sound P bech32 server (createIdentity P bech32 name draws disk now server).state := by
  let made : Stored := ⟨IdentityService.generate P bech32 draws now, name⟩
  have derived : Derived P bech32 made.identity := rfl
  have own (wrote : Wrote P bech32 server) := wrote.update made derived disk.ownFile
  have both (wrote : Wrote P bech32 server) := (own wrote).legacy_write made derived disk.legacyFile
  rw [createIdentity]
  split
  · exact ⟨id, id⟩
  · dsimp only
    split
    · exact ⟨own, id⟩
    · split
      · exact ⟨both, id⟩
      · exact ⟨fun wrote => ⟨(both wrote).files, (both wrote).legacy⟩,
          fun filed => Filed.remember filed made.identity rfl⟩

theorem loadFile_sound (server : Server) (file : String) :
    Sound P bech32 server (loadFile DMAIL_DIR server file) := by
  rw [loadFile]
  split
  · exact ⟨id, id⟩
  · split
    · exact ⟨fun wrote => ⟨wrote.files, wrote.legacy⟩, fun filed => filed.remember _ rfl⟩
    · exact ⟨id, id⟩

theorem loadFiles_sound (files : List String) (server : Server) :
    Sound P bech32 server (files.foldl (loadFile DMAIL_DIR) server) := by
  induction files generalizing server with
  | nil => exact ⟨id, id⟩
  | cons file rest ih =>
      have first : Sound P bech32 server (loadFile DMAIL_DIR server file) :=
        loadFile_sound server file
      have others := ih (loadFile DMAIL_DIR server file)
      exact ⟨others.wrote ∘ first.wrote, others.filed ∘ first.filed⟩

theorem loadAllIdentities_sound (directory : Bool) (listing : Option (List String)) (copy : Write)
    (server : Server) :
    Sound P bech32 server (loadAllIdentities DMAIL_DIR directory listing copy server).state := by
  rw [loadAllIdentities]
  split
  · exact ⟨id, id⟩
  · have loaded : Sound P bech32 server ((listing.getD []).foldl (loadFile DMAIL_DIR) server) :=
      loadFiles_sound (listing.getD []) server
    dsimp only
    split
    next stored legacy =>
      split
      · exact loaded
      · refine ⟨fun wrote => ?_, fun filed => (loaded.filed filed).remember _ rfl⟩
        have copied := (loaded.wrote wrote).update stored ((loaded.wrote wrote).legacy stored legacy)
          copy
        exact ⟨copied.files, copied.legacy⟩
    next => exact loaded

theorem getIdentity_read {address : String} {directory : Bool}
    (reads : Reads DMAIL_DIR address directory server stored) :
    getIdentity DMAIL_DIR address directory server =
      .returns (remember address stored.identity server) (some stored.identity) := by
  obtain ⟨rfl, unknown, found⟩ := reads
  simp [getIdentity, unknown, found]

/-- A call that reads no file answers from memory or finds nothing. -/
theorem getIdentity_unread {address : String} {directory : Bool}
    (unread : ∀ stored, ¬ Reads DMAIL_DIR address directory server stored) :
    (getIdentity DMAIL_DIR address directory server).state = server ∧
      ∀ identity, (getIdentity DMAIL_DIR address directory server).result = .ok (some identity) →
        server.identities.get address = some identity := by
  rw [getIdentity]
  cases known : server.identities.get address with
  | some identity =>
      refine ⟨rfl, fun other same => ?_⟩
      cases same
      rfl
  | none =>
      cases directory with
      | false =>
          refine ⟨rfl, fun identity same => ?_⟩
          cases same
      | true =>
          cases found : fileAt DMAIL_DIR (pathOf DMAIL_DIR address) server with
          | holds stored => exact absurd ⟨rfl, known, found⟩ (unread stored)
          | absent =>
              refine ⟨rfl, fun identity same => ?_⟩
              cases same
          | torn =>
              refine ⟨rfl, fun identity same => ?_⟩
              cases same

theorem getIdentity_wrote (wrote : Wrote P bech32 server) (address : String) (directory : Bool) :
    Wrote P bech32 (getIdentity DMAIL_DIR address directory server).state := by
  by_cases reading : ∃ stored, Reads DMAIL_DIR address directory server stored
  · obtain ⟨stored, reads⟩ := reading
    rw [getIdentity_read reads]
    exact ⟨wrote.files, wrote.legacy⟩
  · rw [(getIdentity_unread (not_exists.mp reading)).1]
    exact wrote

/-- What is read for an address is under its own key just when the address is a plain name. -/
theorem getIdentity_kept_iff (plain : PlainAddresses bech32) (wrote : Wrote P bech32 server)
    (filed : Filed server) (address : String) (directory : Bool) :
    (Filed (getIdentity DMAIL_DIR address directory server).state ∧
      Answers DMAIL_DIR (.getIdentity address directory) server) ↔
    ∀ stored, Reads DMAIL_DIR address directory server stored → '/' ∉ address.toList := by
  constructor
  · rintro ⟨after, _⟩ stored reads
    rw [getIdentity_read reads] at after
    have own : stored.identity.address = address := after _ _ (OrderedMap.get_set_self _ _ _)
    rw [← own]
    exact (fileAt_wrote wrote reads.2.2).plain plain
  · intro plainly
    by_cases reading : ∃ stored, Reads DMAIL_DIR address directory server stored
    · obtain ⟨stored, reads⟩ := reading
      have held := reads.2.2
      rw [fileAt_plain (plainly stored reads)] at held
      have own := (wrote.files address stored held).1
      refine ⟨?_, ?_⟩
      · rw [getIdentity_read reads]
        exact filed.remember _ own
      · rintro _ _ identity ⟨⟩ answered
        rw [getIdentity_read reads] at answered
        cases answered
        exact own
    -- Nothing is read from the disk, so memory answers, or nobody.
    · obtain ⟨same, answers⟩ := getIdentity_unread (not_exists.mp reading)
      refine ⟨by rw [same]; exact filed, ?_⟩
      rintro _ _ identity ⟨⟩ answered
      exact filed address identity (answers identity answered)

end Disk

section Calls
variable {P bech32 DMAIL_DIR} {start : Server} {earlier : List Call}

theorem replay_wrote (wrote : Wrote P bech32 start) (past : List Call) :
    Wrote P bech32 (replay P bech32 DMAIL_DIR start past) := by
  induction past with
  | nil => exact wrote
  | cons call earlier ih =>
      cases call with
      | createIdentity name draws disk now =>
          exact (createIdentity_sound name draws disk now _).wrote ih
      | getIdentity address directory => exact getIdentity_wrote ih address directory
      | loadAllIdentities directory listing copy =>
          exact (loadAllIdentities_sound directory listing copy _).wrote ih

/-- One more call keeps the memory in order just when it asks plainly. -/
theorem kept_step (plain : PlainAddresses bech32) (wrote : Wrote P bech32 start) (call : Call)
    (kept : Kept P bech32 DMAIL_DIR start earlier) :
    Kept P bech32 DMAIL_DIR start (call :: earlier) ↔
      AsksPlainly P bech32 DMAIL_DIR start call earlier := by
  have disk : Wrote P bech32 (replay P bech32 DMAIL_DIR start earlier) := replay_wrote wrote earlier
  have last : Kept P bech32 DMAIL_DIR start (call :: earlier) ↔
      Filed (step P bech32 DMAIL_DIR (replay P bech32 DMAIL_DIR start earlier) call) ∧
        Answers DMAIL_DIR call (replay P bech32 DMAIL_DIR start earlier) := by
    rw [Kept, replay]
    simp
  rw [last]
  cases call with
  | createIdentity name draws disk now =>
      refine iff_of_true ⟨(createIdentity_sound name draws disk now _).filed kept.1, ?_⟩ ?_
      · rintro _ _ _ ⟨⟩
      · intro _ _ _ asks
        cases asks
  | getIdentity address directory =>
      rw [step, getIdentity_kept_iff plain disk kept.1]
      constructor
      · rintro plainly _ _ stored ⟨⟩ reads
        exact plainly stored reads
      · exact fun plainly stored reads => plainly address directory stored rfl reads
  | loadAllIdentities directory listing copy =>
      have sound : Sound P bech32 (replay P bech32 DMAIL_DIR start earlier)
          (step P bech32 DMAIL_DIR (replay P bech32 DMAIL_DIR start earlier)
            (.loadAllIdentities directory listing copy)) :=
        loadAllIdentities_sound directory listing copy _
      refine iff_of_true ⟨sound.filed kept.1, ?_⟩ ?_
      · rintro _ _ _ ⟨⟩
      · intro _ _ _ asks
        cases asks

end Calls

/-- In every run, all identities in memory are under their own addresses and every answer has the
    address that was asked for, at every moment, exactly when no call that has to read a file
    names an identity by a path. -/
theorem identities_filed_iff (P : Packages) (bech32 : String → Bytes → String)
    (DMAIL_DIR : List String) (plain : PlainAddresses bech32) (start : Started P bech32)
    (past : List Call) :
    Always (Kept P bech32 DMAIL_DIR start.server) past ↔
      EachInput (AsksPlainly P bech32 DMAIL_DIR start.server) past := by
  have free : EachInput (fun _ _ => True) past := fun _ _ _ => trivial
  refine always_iff_each free ⟨?_, by simp⟩ ?_
  · intro key identity held
    rw [replay, start.empty] at held
    cases held
  · exact fun call earlier _ kept => kept_step plain start.wrote call kept

/-! The service makes its first identity, is started again, and is asked for `../identity`. -/

section Example

theorem sampleBech32_plain : PlainAddresses sampleBech32 := by
  intro bytes
  have digits : ∀ digit < 16, Nat.digitChar digit ≠ '/' := by decide
  have letters : (sampleBech32 IdentityService.ADDRESS_PREFIX bytes).toList =
      "dm1".toList ++ bytes.flatMap byteHex := by
    simp [sampleBech32, IdentityService.ADDRESS_PREFIX, toHex]
  rw [letters, List.mem_append, not_or]
  refine ⟨by decide, fun inside => ?_⟩
  obtain ⟨byte, _, letter⟩ := List.mem_flatMap.mp inside
  have small := byte.toNat_lt
  rcases List.mem_pair.mp letter with first | second
  · exact digits _ (by omega) first.symm
  · exact digits _ (by omega) second.symm

/-- The identity that is made of this seed, as its file holds it. -/
def seeded (seed : UInt8) : Stored :=
  ⟨IdentityService.generate samplePackages sampleBech32 ⟨[seed], [seed], [seed]⟩ 1, none⟩

/-- A server that is started on the disk on which one identity was made. -/
def restarted : Started samplePackages sampleBech32 where
  server := { newServer with
    files := Function.update newServer.files (seeded 1).identity.address (.holds (seeded 1))
    identityFile := .holds (seeded 1) }
  empty := rfl
  wrote := by
    constructor
    · intro address stored held
      dsimp only at held
      by_cases own : address = (seeded 1).identity.address
      · subst own
        rw [Function.update_self] at held
        cases held
        exact ⟨rfl, rfl⟩
      · rw [Function.update_of_ne own] at held
        cases held
    · intro stored held
      cases held
      rfl

def sampleDirectory : List String := ["home", "alice", ".dmail"]

/-- The old identity is looked up, all are loaded, a new one is made and looked up, and then
    one is that nobody made. -/
def lookups : List Call :=
  [.getIdentity "dm1nobody" true, .getIdentity (seeded 2).identity.address true,
    .createIdentity none ⟨[2], [2], [2]⟩ ⟨true, .done, .done⟩ 1,
    .loadAllIdentities true (some [(seeded 1).identity.address ++ ".json"]) .done,
    .getIdentity (seeded 1).identity.address true]

/-- The service knows the identities afterwards that it loaded and made. -/
theorem lookups_filed :
    Always (Kept samplePackages sampleBech32 sampleDirectory restarted.server) lookups ∧
      (replay samplePackages sampleBech32 sampleDirectory restarted.server
        lookups).identities.entries.map Prod.fst =
          [(seeded 1).identity.address, (seeded 2).identity.address] := by
  refine ⟨(identities_filed_iff samplePackages sampleBech32 sampleDirectory sampleBech32_plain
    restarted _).mpr ?_, by decide +kernel⟩
  refine eachInput_cons.mpr ⟨?_, eachInput_cons.mpr ⟨?_, eachInput_cons.mpr ⟨?_,
    eachInput_cons.mpr ⟨?_, eachInput_cons.mpr ⟨?_, eachInput_nil⟩⟩⟩⟩⟩
  · rintro _ _ stored ⟨⟩ _
    decide
  · rintro _ _ stored ⟨⟩ _
    exact sampleBech32_plain _
  · rintro _ _ stored ⟨⟩
  · rintro _ _ stored ⟨⟩
  · rintro _ _ stored ⟨⟩ _
    exact sampleBech32_plain _

theorem path_names_identity : ¬ ∀ (P : Packages) (bech32 : String → Bytes → String)
    (DMAIL_DIR : List String), PlainAddresses bech32 → ∀ (start : Started P bech32)
    (past : List Call), Always (Kept P bech32 DMAIL_DIR start.server) past := by
  intro claimed
  have kept := claimed samplePackages sampleBech32 sampleDirectory sampleBech32_plain restarted
    [.getIdentity "../identity" true] _ (List.suffix_refl _)
  have own := kept.2 _ _ rfl "../identity" true (seeded 1).identity rfl rfl
  revert own
  decide +kernel

end Example

end IdentityStoreService

end Chainmail.ApiLogin
