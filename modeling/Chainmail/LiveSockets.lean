import Chainmail.SecureServer

/-!
Which open sockets of `src/server/secure-server.js` a broadcast still finds. A new socket
takes the place of the one registered under its token, and a `close` handler deletes
whatever is registered there.
-/

namespace Chainmail.SecureServer

open Json WalletLogin

variable {P : Packages} (E : Ethers)

/-- An open socket that was accepted with the token. -/
def Open (state : State P) (socket : Nat) (token : String) : Prop :=
  state.sockets[socket]? = some ⟨token, true⟩

/-- An open socket of the token is registered. -/
def Live (state : State P) (token : String) : Prop :=
  ∃ socket, state.wsClients.get token = some socket ∧ Open state socket token

/-- Every token with an open socket has one that is registered. -/
def AllLive (state : State P) : Prop := ∀ socket token, Open state socket token → Live state token

variable (P) in
/-- The first message to a socket reads the node of its session. Where that never had one,
    the handler throws, which ends the process. -/
def Crashes (input : Input) (earlier : List Input) : Prop :=
  ∃ token, input.event = .connect (some token) ∧
    Valid (replay P E earlier).auth token input.now ∧ (replay P E earlier).nodes.get token = none

variable (P) in
/-- A run of a server that is still there. -/
structure Running where
  past : List Input
  alive : EachInput (fun input earlier => ¬ Crashes P E input earlier) past

variable (P) in
/-- No other open socket of the token is left behind: a socket that begins to close is not the
    registered one, or it is the last open one; one whose handler runs is the last one. -/
def Overlapless (input : Input) (earlier : List Input) : Prop :=
  let state := replay P E earlier
  match input.event with
  | .closing socket => ∀ held other, state.sockets[socket]? = some held →
      state.wsClients.get held.token = some socket → Open state other held.token → other = socket
  | .closed socket => ∀ held other, state.sockets[socket]? = some held →
      Open state other held.token → other = socket
  | _ => True

variable {E} {state : State P} {socket other : Nat} {token : String}

section Steps

theorem open_closing : Open (closing socket state) other token ↔
    other ≠ socket ∧ Open state other token := by
  rw [Open, Open, closing, List.getElem?_modify]
  by_cases same : socket = other
  · subst same
    cases state.sockets[socket]? <;> simp
  · cases state.sockets[other]? <;> simp [same, Ne.symm same]

theorem open_closed : Open (closed socket state) other token ↔
    other ≠ socket ∧ Open state other token := by
  rw [closed]
  cases held : state.sockets[socket]? with
  | none =>
      refine ⟨fun opened => ⟨?_, opened⟩, fun opened => opened.2⟩
      rintro rfl
      rw [Open, held] at opened
      cases opened
  | some found => exact open_closing

theorem allLive_closing (live : AllLive state) : AllLive (closing socket state) ↔
    ∀ held other, state.sockets[socket]? = some held →
      state.wsClients.get held.token = some socket → Open state other held.token →
      other = socket := by
  constructor
  · intro after held other found registered opened
    by_contra apart
    obtain ⟨kept, still, keptOpen⟩ := after other held.token (open_closing.mpr ⟨apart, opened⟩)
    -- What was registered still is, and has begun to close.
    obtain rfl : socket = kept := Option.some.inj (registered.symm.trans still)
    exact (open_closing.mp keptOpen).1 rfl
  · intro last other token opened
    obtain ⟨apart, before⟩ := open_closing.mp opened
    obtain ⟨kept, registered, keptOpen⟩ := live other token before
    refine ⟨kept, registered, open_closing.mpr ⟨?_, keptOpen⟩⟩
    rintro rfl
    exact apart (last _ other keptOpen registered before)

theorem closed_registered {held : Socket} (found : state.sockets[socket]? = some held) :
    (closed socket state).wsClients.get token =
      if token = held.token then none else state.wsClients.get token := by
  rw [closed, found]
  exact OrderedMap.get_delete _ _ _

theorem allLive_closed (live : AllLive state) : AllLive (closed socket state) ↔
    ∀ held other, state.sockets[socket]? = some held → Open state other held.token →
      other = socket := by
  constructor
  · intro after held other found opened
    by_contra apart
    obtain ⟨kept, registered, _⟩ := after other held.token (open_closed.mpr ⟨apart, opened⟩)
    rw [closed_registered found, if_pos rfl] at registered
    cases registered
  · intro last other token opened
    obtain ⟨apart, before⟩ := open_closed.mp opened
    obtain ⟨kept, registered, keptOpen⟩ := live other token before
    cases found : state.sockets[socket]? with
    | none =>
        refine ⟨kept, ?_, open_closed.mpr ⟨?_, keptOpen⟩⟩
        · rw [closed, found]
          exact registered
        · rintro rfl
          rw [Open, found] at keptOpen
          cases keptOpen
    | some held =>
        have foreign : token ≠ held.token := by
          rintro rfl
          exact apart (last held other found before)
        refine ⟨kept, ?_, open_closed.mpr ⟨?_, keptOpen⟩⟩
        · rw [closed_registered found, if_neg foreign, registered]
        · rintro rfl
          cases found.symm.trans keptOpen
          exact foreign rfl

theorem allLive_connect (live : AllLive state) (token : Option String) (now : Nat) :
    AllLive (connect token now state) := by
  cases token with
  | none => exact live
  | some token =>
      rw [connect]
      dsimp only
      cases (validateSession state.auth token now).result with
      | error refusal => exact live
      | ok session =>
          intro socket other opened
          by_cases own : other = token
          · subst own
            refine ⟨state.sockets.length, OrderedMap.get_set_self _ _ _, ?_⟩
            simp [Open]
          · have before : Open state socket other := by
              rcases Nat.lt_trichotomy socket state.sockets.length with inside | rfl | outside
              · simpa [Open, List.getElem?_append_left inside] using opened
              · simp [Open, Ne.symm own] at opened
              · have none : socket - state.sockets.length ≠ 0 := by omega
                simp [Open, List.getElem?_append_right outside.le, none] at opened
            obtain ⟨kept, registered, keptOpen⟩ := live socket other before
            refine ⟨kept, ?_, ?_⟩
            · rw [OrderedMap.get_set_of_ne _ _ own]
              exact registered
            · have inside : kept < state.sockets.length := (List.getElem?_eq_some_iff.mp keptOpen).1
              simpa [Open, List.getElem?_append_left inside] using keptOpen

/-- An input leaves every token with an open socket a registered one exactly when no other open
    socket of the token is left behind. -/
theorem allLive_step {input : Input} {earlier : List Input} (live : AllLive (replay P E earlier)) :
    AllLive (replay P E (input :: earlier)) ↔ Overlapless P E input earlier := by
  obtain ⟨event, now⟩ := input
  cases event with
  | connect token => exact iff_of_true (allLive_connect live token now) trivial
  | closing socket => exact allLive_closing live
  | closed socket => exact allLive_closed live
  | nodeStarted token =>
      refine iff_of_true ?_ trivial
      rw [replay, step]
      dsimp only
      rw [nodeStarted]
      split
      · exact live
      · exact live
  | challenge _ => exact iff_of_true live trivial
  | login _ _ => exact iff_of_true live trivial
  | nonceTimer _ => exact iff_of_true live trivial
  | logout _ => exact iff_of_true live trivial
  | request _ => exact iff_of_true live trivial
  | sweep => exact iff_of_true live trivial
  | message _ _ _ => exact iff_of_true live trivial
  | peerInterval _ _ => exact iff_of_true live trivial
  | nodeStopped _ => exact iff_of_true live trivial

theorem Live.delivers (live : Live state token) (type : String) (data : Json) (now : Nat) :
    ∃ delivery ∈ broadcast type data (some token) now state,
      delivery.token = token ∧ Open state delivery.socket token := by
  obtain ⟨socket, registered, opened⟩ := live
  refine ⟨_, List.mem_map.mpr ⟨(token, socket), List.mem_filter.mpr ⟨?_, ?_⟩, rfl⟩, rfl, opened⟩
  · exact (OrderedMap.get_iff_mem _ _ _).mp registered
  · have ready : state.sockets[socket]? = some ⟨token, true⟩ := opened
    simp [isOpen, ready]

end Steps

/-- In every run of the server, every token with an open socket has an open socket registered at
    every moment exactly when no socket that closes leaves another open one of its token behind;
    and then a broadcast for the token reaches one. -/
theorem live_registered_iff (E : Ethers) (run : Running P E) :
    (Always (fun past => AllLive (replay P E past)) run.past ↔
      EachInput (Overlapless P E) run.past) ∧
    (EachInput (Overlapless P E) run.past → ∀ past, past <:+ run.past → ∀ socket token,
      Open (replay P E past) socket token → ∀ type data now,
      ∃ delivery ∈ broadcast type data (some token) now (replay P E past),
        delivery.token = token ∧ Open (replay P E past) delivery.socket token) := by
  have always : Always (fun past => AllLive (replay P E past)) run.past ↔
      EachInput (Overlapless P E) run.past := by
    refine always_iff_each run.alive ?_ fun input earlier _ live => allLive_step live
    intro socket token opened
    cases opened
  refine ⟨always, fun each past suffix socket token opened type data now => ?_⟩
  exact (always.mpr each past suffix socket token opened).delivers type data now

/-- Two windows with one session, of which the first is closed. -/
def firstWindowClosed : List Input :=
  [⟨.closed 0, 7⟩, ⟨.closing 0, 6⟩, ⟨.connect (some (toHex [2])), 5⟩,
    ⟨.connect (some (toHex [2])), 4⟩, ⟨.nodeStarted (toHex [2]), 3⟩,
    ⟨.login (signedRequest [1]) [2], 2⟩, ⟨.challenge [1], 1⟩]

theorem firstWindowClosed_alive :
    EachInput (fun input earlier => ¬ Crashes samplePackages sampleEthers input earlier)
      firstWindowClosed := by
  simp only [firstWindowClosed, eachInput_cons, eachInput_nil, and_true]
  refine ⟨?_, ?_, ?_, ?_, ?_, ?_, ?_⟩ <;> rintro ⟨token, event, valid, absent⟩ <;> cases event
  · exact absurd absent (by decide +kernel)
  · exact absurd absent (by decide +kernel)

/-- The second window is still open, and nothing is registered for it. -/
theorem open_socket_unregistered : ¬ ∀ (E : Ethers) (run : Running samplePackages E),
    AllLive (replay samplePackages E run.past) := by
  intro claimed
  have live := claimed sampleEthers ⟨firstWindowClosed, firstWindowClosed_alive⟩
  have second : ((replay samplePackages sampleEthers firstWindowClosed).sockets[1]?.map fun held =>
      (held.token, held.isOpen)) = some (toHex [2], true) := by
    decide +kernel
  obtain ⟨held, found, named⟩ := Option.map_eq_some_iff.mp second
  have token : held.token = toHex [2] := congrArg Prod.fst named
  have ready : held.isOpen = true := congrArg Prod.snd named
  have opened : Open (replay samplePackages sampleEthers firstWindowClosed) 1 held.token := by
    rw [Open, found, ← ready]
  obtain ⟨socket, registered, _⟩ := live 1 held.token opened
  have none : (replay samplePackages sampleEthers firstWindowClosed).wsClients.get (toHex [2]) =
      none := by
    decide +kernel
  rw [token] at registered
  cases none.symm.trans registered

end Chainmail.SecureServer
