import Chainmail.OnionRouting

/-!
Which relays a route is made of. Each round takes one relay out of the pool, so a
route never has a relay twice; and where no score is negative, each round takes one when
the arithmetic is exact.
-/

namespace Chainmail.OnionRouting

variable {builder : OnionRouteBuilder} {excludePeers : List String} {round : JsNumber → JsNumber}

/-- The registered relays that are not excluded. -/
def eligible (builder : OnionRouteBuilder) (excludePeers : List String) : List Relay :=
  builder.knownRelays.values.filter fun relay => relay.peerId ∉ excludePeers

theorem available_perm (builder : OnionRouteBuilder) (excludePeers : List String) :
    (available builder excludePeers).Perm (eligible builder excludePeers) := by
  have same : (builder.knownRelays.values.filter fun relay => !excludePeers.contains relay.peerId) =
      eligible builder excludePeers := by
    apply List.filter_congr
    intro relay _
    simp
  rw [available, same]
  exact ordered_perm _

/-- A relay is registered under its own id, and no id is registered twice. -/
theorem registered_distinct (builder : OnionRouteBuilder) :
    (builder.knownRelays.values.map Relay.peerId).Nodup := by
  have keys : builder.knownRelays.values.map Relay.peerId =
      builder.knownRelays.entries.map Prod.fst := by
    rw [OrderedMap.values, List.map_map]
    apply List.map_congr_left
    intro entry member
    exact builder.keyed entry member
  rw [keys]
  exact builder.knownRelays.unique

theorem available_distinct (builder : OnionRouteBuilder) (excludePeers : List String) :
    ((available builder excludePeers).map Relay.peerId).Nodup := by
  have distinct := (registered_distinct builder).sublist
    ((List.filter_sublist (p := fun relay => relay.peerId ∉ excludePeers)).map Relay.peerId)
  exact ((available_perm builder excludePeers).map Relay.peerId).nodup_iff.mpr distinct

/-- No relay is drawn more often than the pool has it. -/
theorem select_subperm (draws : List MathRandom) (relays : List Relay) :
    List.Subperm (select round draws relays) relays := by
  induction draws generalizing relays with
  | nil => exact List.nil_subperm
  | cons draw later ih =>
      rw [select]
      split
      next => exact ih relays
      next relay rest picked =>
        obtain ⟨perm, _⟩ := pick_perm picked
        exact ((List.subperm_cons relay).mpr (ih rest)).trans perm.symm.subperm

theorem select_distinct (builder : OnionRouteBuilder) (excludePeers : List String)
    (draws : List MathRandom) :
    ((select round draws (available builder excludePeers)).map Relay.peerId).Nodup := by
  have some : List.Subperm (select round draws (available builder excludePeers))
      (available builder excludePeers) := select_subperm draws _
  obtain ⟨same, perm, sub⟩ := some
  have distinct := (available_distinct builder excludePeers).sublist (sub.map Relay.peerId)
  exact (perm.map Relay.peerId).nodup_iff.mp distinct

/-- As many relays as were asked for, all different and none of them excluded. -/
structure Selects (builder : OnionRouteBuilder) (excludePeers : List String) (count : Nat)
    (relays : List Relay) : Prop where
  exactly : relays.length = count
  distinct : (relays.map Relay.peerId).Nodup
  eligible : ∀ relay ∈ relays, relay ∈ builder.knownRelays.values ∧ relay.peerId ∉ excludePeers

theorem select_selects (nonneg : ∀ relay ∈ builder.knownRelays.values, NotNegative relay.score)
    {draws : List MathRandom} (enough : draws.length ≤ (available builder excludePeers).length) :
    Selects builder excludePeers draws.length (select id draws (available builder excludePeers)) where
  exactly := by
    have sums : Sums id (available builder excludePeers) :=
      sums_exact fun relay member => nonneg relay (mem_available member).1
    exact select_length_iff.mpr (eachPicks_of_sums sums enough)
  distinct := select_distinct builder excludePeers draws
  eligible relay member := mem_available (mem_select member)

/-- A route has the relays that were selected, in their order. -/
theorem buildRoute_selected {P : Packages} {message destinationPublicKey : Bytes}
    {destinationAddress : String} {draws : RouteDraws builder.hopCount} {built : Route}
    (returned : buildRoute P round builder message destinationAddress destinationPublicKey excludePeers
      draws = .ok built) :
    ∃ relays, selectRelays round builder builder.hopCount excludePeers draws.randoms = .ok relays ∧
      built.route = relays.map Relay.peerId := by
  obtain ⟨relays, selected, rest⟩ := bind_ok_iff.mp returned
  obtain ⟨innermost, _, rest⟩ := bind_ok_iff.mp rest
  obtain ⟨wrapped, _, made⟩ := bind_ok_iff.mp rest
  cases made
  exact ⟨relays, selected, rfl⟩

/-- With exact arithmetic and where no score is negative, `selectRelays` throws exactly when too few
    relays are eligible, and otherwise selects as it should, whatever is drawn; and so does every
    route that is built. -/
theorem selection_exact (builder : OnionRouteBuilder)
    (nonneg : ∀ relay ∈ builder.knownRelays.values, NotNegative relay.score) (excludePeers : List String) :
    (∀ (count : Nat) (draws : List MathRandom), draws.length = count →
      ((∃ failure, selectRelays id builder count excludePeers draws = .error failure) ↔
        (eligible builder excludePeers).length < count) ∧
      ∀ relays, selectRelays id builder count excludePeers draws = .ok relays →
        Selects builder excludePeers count relays) ∧
    ∀ (P : Packages) (message destinationPublicKey : Bytes) (destinationAddress : String)
      (draws : RouteDraws builder.hopCount) (built : Route),
      buildRoute P id builder message destinationAddress destinationPublicKey excludePeers draws =
          .ok built →
        built.route.length = builder.hopCount ∧ built.route.Nodup ∧
          ∀ peerId ∈ built.route, peerId ∉ excludePeers := by
  have size := (available_perm builder excludePeers).length_eq
  have selects (count : Nat) (draws : List MathRandom) (rounds : draws.length = count)
      (relays : List Relay) (returned : selectRelays id builder count excludePeers draws = .ok relays) :
      Selects builder excludePeers count relays := by
    subst count
    rw [selectRelays] at returned
    split at returned
    next => cases returned
    next enough =>
      cases returned
      exact select_selects nonneg (Nat.not_lt.mp enough)
  -- The second half builds a route of what the first half selects.
  refine ⟨fun count draws rounds => ⟨?_, selects count draws rounds⟩, ?_⟩
  · rw [← size, selectRelays]
    split
    next few => exact iff_of_true ⟨_, rfl⟩ few
    next enough =>
      refine iff_of_false ?_ enough
      rintro ⟨failure, thrown⟩
      cases thrown
  · intro P message destinationPublicKey destinationAddress draws built returned
    obtain ⟨relays, selected, route⟩ := buildRoute_selected returned
    obtain ⟨exactly, distinct, members⟩ :=
      selects builder.hopCount draws.randoms draws.sized relays selected
    rw [route, List.length_map]
    refine ⟨exactly, distinct, fun peerId member => ?_⟩
    obtain ⟨relay, inside, rfl⟩ := List.mem_map.mp member
    exact (members relay inside).2

/-- Two relays without a score. -/
def unscored : OnionRouteBuilder :=
  registerRelay (registerRelay (construct none) "first" (.raw []) "" (some (.finite 0)))
    "second" (.raw []) "" (some (.finite 0))

theorem unscored_selected : (eligible unscored []).length = 2 ∧
    ¬ (∃ failure, selectRelays id unscored 2 [] [lowest, lowest] = .error failure) := by
  have nonneg : ∀ relay ∈ unscored.knownRelays.values, NotNegative relay.score :=
    List.forall_mem_cons.mpr ⟨⟨0, le_rfl, rfl⟩, List.forall_mem_singleton.mpr ⟨0, le_rfl, rfl⟩⟩
  have exactly := ((selection_exact unscored nonneg []).1 2 [lowest, lowest] rfl).1
  have two : (eligible unscored []).length = 2 := by decide +kernel
  exact ⟨two, fun thrown => by simpa [two] using exactly.mp thrown⟩

end Chainmail.OnionRouting
