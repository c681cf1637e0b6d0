import Chainmail.BestByKey
import Chainmail.DhtStorage

/-!
`DHTCoordinator.fetchFromNetwork`: the records of one recipient from the own storage
and from the peers that answer, one for each id. A record comes with what a `Map`
tells its id apart by. Its count is whatever a peer wrote, and it is compared as it
comes.
-/

namespace Chainmail.DhtStorage.NetworkFetch

open Json BestByKey

section Comparison

/-- The text as the language keeps it: a letter past the first plane is two. -/
def codeUnits (text : String) : List Nat :=
  text.toList.flatMap fun letter =>
    if letter.toNat < 0x10000 then [letter.toNat]
    else [0xD800 + (letter.toNat - 0x10000) / 0x400, 0xDC00 + (letter.toNat - 0x10000) % 0x400]

/-- What an operator makes of a value before it looks at it. -/
def toPrimitive (value : Json) : Except Failure Json :=
  match value with
  | .array _ | .object _ => do
      let text ← toText value
      return .string text
  | _ => .ok value

/-- `left > right` of values that are no arrays or objects; two texts are compared as texts. -/
def greaterPrimitive (left right : Json) : Except Failure Bool :=
  match left, right with
  | .string left, .string right => .ok (decide (codeUnits right < codeUnits left))
  | _, _ => do
      let left ← toNumber left
      let right ← toNumber right
      return right.lt left

/-- `left > right` -/
def greater (left right : Json) : Except Failure Bool := do
  let left ← toPrimitive left
  let right ← toPrimitive right
  greaterPrimitive left right

end Comparison

variable {Id : Type} [DecidableEq Id]

/-- `msg.replicationCount > existing.replicationCount` -/
def exceeds (msg existing : MessageRecord) : Except Failure Bool :=
  greater msg.replicationCount existing.replicationCount

/-- `allMessages` after the loop over the peers; `none` stands for a peer that fails. -/
def allMessages (localMessages : List (Id × MessageRecord))
    (replies : List (Option (List (Id × MessageRecord)))) : OrderedMap Id MessageRecord :=
  let own := localMessages.foldl (fun all msg => all.set msg.1 msg.2) OrderedMap.empty
  replies.foldl (fun all reply =>
    match reply with
    | none => all
    | some messages => offerAll exceeds messages all) own

def fetchFromNetwork (localMessages : List (Id × MessageRecord))
    (replies : List (Option (List (Id × MessageRecord)))) : List MessageRecord :=
  (allMessages localMessages replies).values

/-- The records in the order in which they are seen, the local ones first. -/
def seen (localMessages : List (Id × MessageRecord))
    (replies : List (Option (List (Id × MessageRecord)))) : List (Id × MessageRecord) :=
  localMessages ++ (replies.filterMap id).flatten

/-- One record for each id that was seen, the first with the largest count. -/
structure Merges (seen all : List (Id × MessageRecord)) : Prop where
  distinct : (all.map Prod.fst).Nodup
  covers : ∀ id, id ∈ all.map Prod.fst ↔ id ∈ seen.map Prod.fst
  best : ∀ item ∈ all, Best exceeds (itemsOf item.1 seen) item.2

/-- Of each id there is a record whose count is greater than those of all before it, and than whose
    count none after it is greater. -/
def Ranked (seen : List (Id × MessageRecord)) : Prop :=
  ∀ id ∈ seen.map Prod.fst, ∃ record, Best exceeds (itemsOf id seen) record

section Counts

theorem toNumber_of_primitive {value plain : Json} (found : toPrimitive value = .ok plain) :
    ∃ number, toNumber plain = .ok number := by
  cases value with
  | array items =>
      obtain ⟨text, _, done⟩ := bind_ok_iff.mp found
      cases done
      exact ⟨_, rfl⟩
  | object fields =>
      obtain ⟨text, _, done⟩ := bind_ok_iff.mp found
      cases done
      exact ⟨_, rfl⟩
  | _ =>
      cases found
      exact ⟨_, rfl⟩

/-- A comparison fails only where one of the two has no text to compare by. -/
theorem exceeds_isOk (one other : MessageRecord) : (exceeds one other).isOk =
    ((toPrimitive one.replicationCount).isOk && (toPrimitive other.replicationCount).isOk) := by
  rw [exceeds, greater]
  cases first : toPrimitive one.replicationCount with
  | error failure => rfl
  | ok left =>
      cases second : toPrimitive other.replicationCount with
      | error failure => rfl
      | ok right =>
          obtain ⟨number, known⟩ := toNumber_of_primitive first
          obtain ⟨count, counted⟩ := toNumber_of_primitive second
          rw [ok_bind, ok_bind, greaterPrimitive.eq_def]
          split
          · rfl
          · rw [known, counted]
            rfl

/-- The number that a record's count is, if it is one. -/
def countOf (record : MessageRecord) : ℚ :=
  match toNumber record.replicationCount with
  | .ok (.finite count) => count
  | _ => 0

/-- Counts that are numbers have a greatest. -/
theorem ranked_of_numbers {seen : List (Id × MessageRecord)}
    (numbers : ∀ item ∈ seen, ∃ value, item.2.replicationCount = .number value) : Ranked seen := by
  intro id member
  have number {record : MessageRecord} (inside : record ∈ itemsOf id seen) :
      ∃ value, record.replicationCount = .number value := by
    obtain ⟨item, kept, rfl⟩ := List.mem_map.mp inside
    exact numbers item (List.mem_of_mem_filter kept)
  have compare : ∀ one ∈ itemsOf id seen, ∀ other ∈ itemsOf id seen,
      exceeds one other = .ok (decide (countOf other < countOf one)) := by
    intro one here other there
    obtain ⟨left, first⟩ := number here
    obtain ⟨right, second⟩ := number there
    rw [exceeds, countOf, countOf, first, second]
    rfl
  exact exists_best compare (itemsOf_ne_nil.mpr member)

end Counts

section Merging
variable {localMessages : List (Id × MessageRecord)}
  {replies : List (Option (List (Id × MessageRecord)))} {held : OrderedMap Id MessageRecord}
  {past : List (Id × MessageRecord)}

theorem Ranked.comparable (ranked : Ranked past) : Comparable exceeds past := by
  intro id
  by_cases some : itemsOf id past = []
  · rw [some]
    exact List.Pairwise.nil
  · obtain ⟨record, best⟩ := ranked id (itemsOf_ne_nil.mp some)
    exact best.comparable exceeds_isOk

theorem set_eq_settle (fresh : ∀ item ∈ localMessages, held.get item.1 = none)
    (distinct : (localMessages.map Prod.fst).Nodup) :
    localMessages.foldl (fun all msg => all.set msg.1 msg.2) held =
      localMessages.foldl (settle exceeds) held := by
  induction localMessages generalizing held with
  | nil => rfl
  | cons item rest ih =>
      obtain ⟨apart, others⟩ := List.nodup_cons.mp distinct
      have first : settle exceeds held item = held.set item.1 item.2 := by
        rw [settle, fresh item List.mem_cons_self]
      rw [List.foldl_cons, List.foldl_cons, first]
      refine ih (fun other member => ?_) others
      rw [OrderedMap.get_set_of_ne]
      · exact fresh other (List.mem_cons_of_mem _ member)
      · exact fun same => apart (same ▸ List.mem_map_of_mem member)

/-- Where no comparison fails, the replies are offered one after the other to their ends. -/
theorem replies_settled (holds : Holds past held)
    (comparable : Comparable exceeds (past ++ (replies.filterMap id).flatten)) :
    replies.foldl (fun all reply =>
      match reply with
      | none => all
      | some messages => offerAll exceeds messages all) held =
    (replies.filterMap id).flatten.foldl (settle exceeds) held := by
  induction replies generalizing held past with
  | nil => rfl
  | cons reply rest ih =>
      cases reply with
      | none => exact ih holds comparable
      | some messages =>
          have split : ((some messages :: rest).filterMap id).flatten =
              messages ++ (rest.filterMap id).flatten := rfl
          rw [split, ← List.append_assoc] at comparable
          have early : Comparable exceeds (past ++ messages) := by
            intro key
            have pairs := comparable key
            rw [itemsOf_append] at pairs
            exact (List.pairwise_append.mp pairs).1
          rw [split, List.foldl_append, List.foldl_cons]
          dsimp only
          rw [offerAll_eq holds early]
          exact ih holds.settled comparable

theorem allMessages_settled (distinct : (localMessages.map Prod.fst).Nodup)
    (ranked : Ranked (seen localMessages replies)) :
    allMessages localMessages replies =
      (seen localMessages replies).foldl (settle exceeds) .empty := by
  have nothing : Holds ([] : List (Id × MessageRecord)) .empty := fun key item found => (by cases found)
  have own : Holds localMessages (localMessages.foldl (settle exceeds) .empty) := nothing.settled
  rw [allMessages, set_eq_settle (fun _ _ => rfl) distinct, seen, List.foldl_append]
  exact replies_settled own ranked.comparable

theorem merges_of_ranked (distinct : (localMessages.map Prod.fst).Nodup)
    (ranked : Ranked (seen localMessages replies)) :
    Merges (seen localMessages replies) (allMessages localMessages replies).entries := by
  have keeps := keepsBest_settled ranked
  rw [← allMessages_settled distinct ranked] at keeps
  refine ⟨(allMessages localMessages replies).unique, fun key => ?_, fun item member => ?_⟩
  · rw [← keeps.covers key, ne_eq, OrderedMap.get_none_iff, not_not]
  · exact keeps.best item.1 item.2 ((OrderedMap.get_iff_mem _ _ _).mpr member)

/-- What is returned of records that can be ranked: the best of every id that was seen. -/
theorem mem_fetchFromNetwork (distinct : (localMessages.map Prod.fst).Nodup)
    (ranked : Ranked (seen localMessages replies)) (record : MessageRecord) :
    record ∈ fetchFromNetwork localMessages replies ↔
      ∃ id ∈ (seen localMessages replies).map Prod.fst,
        Best exceeds (itemsOf id (seen localMessages replies)) record := by
  have merged := merges_of_ranked distinct ranked
  rw [fetchFromNetwork, OrderedMap.values, List.mem_map]
  constructor
  · rintro ⟨item, member, rfl⟩
    exact ⟨item.1, (merged.covers item.1).mp (List.mem_map_of_mem member), merged.best item member⟩
  · rintro ⟨id, saw, best⟩
    obtain ⟨item, member, rfl⟩ := List.mem_map.mp ((merged.covers id).mpr saw)
    exact ⟨item, member, (merged.best item member).unique best⟩

end Merging

/-- The records are merged as they should be exactly when those of each id can be ranked; and they
    can where every count is a number. -/
theorem fetch_merges_iff (localMessages : List (Id × MessageRecord))
    (replies : List (Option (List (Id × MessageRecord))))
    (distinct : (localMessages.map Prod.fst).Nodup) :
    (Merges (seen localMessages replies) (allMessages localMessages replies).entries ↔
      Ranked (seen localMessages replies)) ∧
    ((∀ item ∈ seen localMessages replies, ∃ value, item.2.replicationCount = .number value) →
      Merges (seen localMessages replies) (allMessages localMessages replies).entries) := by
  refine ⟨⟨fun merged key member => ?_, merges_of_ranked distinct⟩,
    fun numbers => merges_of_ranked distinct (ranked_of_numbers numbers)⟩
  obtain ⟨item, kept, rfl⟩ := List.mem_map.mp ((merged.covers key).mpr member)
  exact ⟨item.2, merged.best item kept⟩

/-- A record with this count. -/
def counted (replicationCount : Json) : MessageRecord :=
  .construct (.object [("id", .string "mail"), ("replicationCount", replicationCount)]) []
    ⟨List.replicate 16 3, List.length_replicate⟩ ⟨1, Nat.one_pos⟩

theorem third_proof_kept : Merges
    (seen [("mail", counted (ofInt 1))] [none, some [("mail", counted (ofInt 3))]])
    (allMessages [("mail", counted (ofInt 1))] [none, some [("mail", counted (ofInt 3))]]).entries := by
  refine (fetch_merges_iff _ _ (by decide)).2 fun item member => ?_
  rcases List.mem_cons.mp member with rfl | later
  · exact ⟨_, rfl⟩
  · rw [List.mem_singleton.mp later]
    exact ⟨_, rfl⟩

/-- A peer's count that cannot be compared hides the records after it. -/
theorem other_mail_lost : ¬ ∀ (localMessages : List (String × MessageRecord))
    (replies : List (Option (List (String × MessageRecord)))),
    (localMessages.map Prod.fst).Nodup →
      Merges (seen localMessages replies) (allMessages localMessages replies).entries := by
  intro claimed
  have merged := claimed [("mail", counted (ofInt 1))]
    [some [("mail", counted (.object [("toString", .null)])), ("other", counted (ofInt 1))]]
    (by decide)
  have kept := (merged.covers "other").mpr (by decide)
  revert kept
  decide +kernel

end Chainmail.DhtStorage.NetworkFetch
