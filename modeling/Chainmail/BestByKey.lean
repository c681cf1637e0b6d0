import Chainmail.OrderedMap
import Mathlib.Data.List.Induction
import Mathlib.Order.Lattice

/-!
A map that is offered items one by one and keeps, under each key, an item until a
better one comes. Whether one item exceeds another is found by a comparison that
may fail, and need not be an order; a failure ends the offers of its batch.
-/

namespace Chainmail.BestByKey

universe u
variable {Key Item : Type u} {Failure : Type} [DecidableEq Key]
  (exceeds : Item → Item → Except Failure Bool)

def offer (item : Key × Item) (held : OrderedMap Key Item) :
    Except Failure (OrderedMap Key Item) :=
  match held.get item.1 with
  | none => .ok (held.set item.1 item.2)
  | some existing =>
      match exceeds item.2 existing with
      | .error failure => .error failure
      | .ok true => .ok (held.set item.1 item.2)
      | .ok false => .ok held

/-- What was kept before a failure stays. -/
def offerAll : List (Key × Item) → OrderedMap Key Item → OrderedMap Key Item
  | [], held => held
  | item :: rest, held =>
      match offer exceeds item held with
      | .error _ => held
      | .ok held => offerAll rest held

def itemsOf (key : Key) (seen : List (Key × Item)) : List Item :=
  (seen.filter fun item => item.1 = key).map Prod.snd

/-- The item exceeds all that came before it, and none that came after exceeds it. -/
def Best (items : List Item) (item : Item) : Prop :=
  ∃ before after, items = before ++ item :: after ∧
    (∀ other ∈ before, exceeds item other = .ok true) ∧
    ∀ other ∈ after, exceeds other item = .ok false

/-- Of every key that was seen the map has the best item, and it has no other keys. -/
structure KeepsBest (seen : List (Key × Item)) (held : OrderedMap Key Item) : Prop where
  covers : ∀ key, held.get key ≠ none ↔ key ∈ seen.map Prod.fst
  best : ∀ key item, held.get key = some item → Best exceeds (itemsOf key seen) item

/-- Any two items of a key can be compared. -/
def Comparable (seen : List (Key × Item)) : Prop :=
  ∀ key, (itemsOf key seen).Pairwise fun earlier later => ∃ more, exceeds later earlier = .ok more

/-- An offer whose comparison does not fail. -/
def settle (held : OrderedMap Key Item) (item : Key × Item) : OrderedMap Key Item :=
  match held.get item.1 with
  | none => held.set item.1 item.2
  | some existing =>
      match exceeds item.2 existing with
      | .ok true => held.set item.1 item.2
      | _ => held

/-- What becomes of the item under a key. -/
def champion (held : Option Item) (item : Item) : Option Item :=
  match held with
  | none => some item
  | some existing =>
      match exceeds item existing with
      | .ok true => some item
      | _ => some existing

section Lists
variable {exceeds} {items : List Item}

theorem champion_some (held : Option Item) (item : Item) :
    champion exceeds held item = some item ∨ champion exceeds held item = held := by
  unfold champion
  split
  · exact .inl rfl
  · split
    · exact .inl rfl
    · exact .inr rfl

theorem champion_ne_none (held : Option Item) (item : Item) :
    champion exceeds held item ≠ none := by
  unfold champion
  split
  · exact Option.some_ne_none _
  · split <;> exact Option.some_ne_none _

theorem champions_mem {held : Option Item} {item : Item}
    (won : items.foldl (champion exceeds) held = some item) : item ∈ items ∨ held = some item := by
  induction items generalizing held with
  | nil => exact .inr won
  | cons first rest ih =>
      rcases ih won with later | kept
      · exact .inl (List.mem_cons_of_mem _ later)
      · have first_won : champion exceeds held first = some first ∨
            champion exceeds held first = held := champion_some held first
        rcases first_won with new | old
        · rw [new] at kept
          cases kept
          exact .inl List.mem_cons_self
        · exact .inr (old.symm.trans kept)

theorem champions_ne_none {held : Option Item} (some : items ≠ [] ∨ held ≠ none) :
    items.foldl (champion exceeds) held ≠ none := by
  induction items generalizing held with
  | nil => exact some.resolve_left fun filled => filled rfl
  | cons first rest ih => exact ih (.inr (champion_ne_none held first))

/-- The best item wins, whatever the order of those before it. -/
theorem champions_best {item : Item} (best : Best exceeds items item) :
    items.foldl (champion exceeds) none = some item := by
  obtain ⟨before, after, rfl, more, less⟩ := best
  have stays : after.foldl (champion exceeds) (some item) = some item := by
    induction after with
    | nil => rfl
    | cons other rest ih =>
        have first : champion exceeds (some item) other = some item := by
          rw [champion, less other List.mem_cons_self]
        rw [List.foldl_cons, first]
        exact ih fun later member => less later (List.mem_cons_of_mem _ member)
  have wins : champion exceeds (before.foldl (champion exceeds) none) item = some item := by
    cases held : before.foldl (champion exceeds) none with
    | none => rfl
    | some other =>
        have member := (champions_mem held).resolve_right (Option.some_ne_none _).symm
        rw [champion, more other member]
  rw [List.foldl_append, List.foldl_cons, wins, stays]

theorem Best.unique {item other : Item} (best : Best exceeds items item)
    (also : Best exceeds items other) : item = other :=
  Option.some.inj ((champions_best best).symm.trans (champions_best also))

/-- Where failing is a matter of each item by itself, a best item shows that none of its rivals fails. -/
theorem Best.comparable {legible : Item → Bool} {item : Item}
    (reads : ∀ one other, (exceeds one other).isOk = (legible one && legible other))
    (best : Best exceeds items item) :
    items.Pairwise fun earlier later => ∃ more, exceeds later earlier = .ok more := by
  obtain ⟨before, after, rfl, more, less⟩ := best
  have compared {one other : Item} {result : Bool} (found : exceeds one other = .ok result) :
      legible one = true ∧ legible other = true := by
    have read := reads one other
    rw [found] at read
    exact Bool.and_eq_true_iff.mp read.symm
  have ok {one other : Item} (first : legible one = true) (second : legible other = true) :
      ∃ result, exceeds one other = .ok result := by
    have read := reads one other
    rw [first, second] at read
    cases found : exceeds one other with
    | ok result => exact ⟨result, rfl⟩
    | error failure =>
        rw [found] at read
        cases read
  have ahead : ∀ other ∈ before, legible other = true := fun other member =>
    (compared (more other member)).2
  have behind : ∀ other ∈ after, legible other = true := fun other member =>
    (compared (less other member)).1
  -- Every item was compared with the best one, so each of them is legible.
  refine List.pairwise_append.mpr ⟨?_, List.pairwise_cons.mpr ⟨?_, ?_⟩, ?_⟩
  · exact List.pairwise_of_forall_mem_list fun one first other second =>
      ok (ahead other second) (ahead one first)
  · exact fun other member => ⟨false, less other member⟩
  · exact List.pairwise_of_forall_mem_list fun one first other second =>
      ok (behind other second) (behind one first)
  · intro one first other second
    have own := (compared (more one first)).1
    rcases List.mem_cons.mp second with rfl | later
    · exact ⟨true, more one first⟩
    · exact ok (behind other later) (ahead one first)

/-- Items that are compared by their rank have a best one. -/
theorem exists_best {Rank : Type} [LinearOrder Rank] {rank : Item → Rank}
    (compare : ∀ one ∈ items, ∀ other ∈ items, exceeds one other = .ok (decide (rank other < rank one)))
    (some : items ≠ []) : ∃ item, Best exceeds items item := by
  induction items using List.reverseRecOn with
  | nil => exact absurd rfl some
  | append_singleton earlier last ih =>
      have own : last ∈ earlier ++ [last] := List.mem_append_right _ List.mem_cons_self
      have old {item : Item} (member : item ∈ earlier) : item ∈ earlier ++ [last] :=
        List.mem_append_left _ member
      by_cases first : earlier = []
      · refine ⟨last, [], [], by rw [first], ?_, ?_⟩ <;> exact fun other member => (by cases member)
      · obtain ⟨item, before, after, rfl, more, less⟩ := ih
          (fun one here other there => compare one (old here) other (old there)) first
        have inside : item ∈ before ++ item :: after := by simp
        have above : ∀ other ∈ before ++ item :: after, rank other ≤ rank item := by
          intro other member
          rcases List.mem_append.mp member with ahead | behind
          · have exceeded := compare item (old inside) other (old member)
            rw [more other ahead] at exceeded
            exact (of_decide_eq_true (Except.ok.inj exceeded).symm).le
          · rcases List.mem_cons.mp behind with rfl | later
            · exact le_refl _
            · have unexceeded := compare other (old member) item (old inside)
              rw [less other later] at unexceeded
              exact not_lt.mp (of_decide_eq_false (Except.ok.inj unexceeded).symm)
        by_cases higher : rank item < rank last
        -- The last item is above the best one so far, and so above all.
        · refine ⟨last, before ++ item :: after, [], rfl, fun other member => ?_,
            fun other member => (by cases member)⟩
          rw [compare last own other (old member), decide_eq_true]
          exact (above other member).trans_lt higher
        · refine ⟨item, before, after ++ [last], by simp, more, fun other member => ?_⟩
          rcases List.mem_append.mp member with earlier | new
          · exact less other earlier
          · rw [List.mem_singleton.mp new, compare last own item (old inside),
              decide_eq_false higher]

end Lists

section Maps
variable {exceeds} {held : OrderedMap Key Item} {seen items : List (Key × Item)}

theorem itemsOf_append (key : Key) (first second : List (Key × Item)) :
    itemsOf key (first ++ second) = itemsOf key first ++ itemsOf key second := by
  simp [itemsOf]

theorem itemsOf_ne_nil {key : Key} : itemsOf key seen ≠ [] ↔ key ∈ seen.map Prod.fst := by
  simp [itemsOf, List.filter_eq_nil_iff]

theorem get_settle (key : Key) (item : Key × Item) :
    (settle exceeds held item).get key =
      if key = item.1 then champion exceeds (held.get key) item.2 else held.get key := by
  by_cases own : key = item.1
  · rw [if_pos own, own, settle]
    unfold champion
    cases stored : held.get item.1 with
    | none => exact OrderedMap.get_set_self _ _ _
    | some existing =>
        dsimp only
        split
        · exact OrderedMap.get_set_self _ _ _
        · exact stored
  · rw [if_neg own, settle]
    split
    · exact OrderedMap.get_set_of_ne _ _ own
    · split
      · exact OrderedMap.get_set_of_ne _ _ own
      · rfl

/-- Under each key the items of that key compete among themselves. -/
theorem get_settled (key : Key) :
    (items.foldl (settle exceeds) held).get key =
      (itemsOf key items).foldl (champion exceeds) (held.get key) := by
  induction items generalizing held with
  | nil => rfl
  | cons item rest ih =>
      rw [List.foldl_cons, ih, get_settle]
      by_cases own : item.1 = key
      · simp [itemsOf, own]
      · simp [itemsOf, own, Ne.symm own]

theorem keepsBest_settled
    (best : ∀ key ∈ seen.map Prod.fst, ∃ item, Best exceeds (itemsOf key seen) item) :
    KeepsBest exceeds seen (seen.foldl (settle exceeds) .empty) where
  covers key := by
    rw [get_settled, OrderedMap.get_empty, ← itemsOf_ne_nil]
    constructor
    · intro found none
      rw [none] at found
      exact found rfl
    · exact fun some => champions_ne_none (.inl some)
  best key item found := by
    rw [get_settled, OrderedMap.get_empty] at found
    have some : itemsOf key seen ≠ [] := by
      intro none
      rw [none] at found
      cases found
    obtain ⟨winner, wins⟩ := best key (itemsOf_ne_nil.mp some)
    rw [champions_best wins] at found
    cases found
    exact wins

/-- The map has only items that were seen. -/
def Holds (seen : List (Key × Item)) (held : OrderedMap Key Item) : Prop :=
  ∀ key item, held.get key = some item → item ∈ itemsOf key seen

theorem Holds.settled (holds : Holds seen held) :
    Holds (seen ++ items) (items.foldl (settle exceeds) held) := by
  intro key item found
  rw [get_settled] at found
  rw [itemsOf_append]
  rcases champions_mem found with new | old
  · exact List.mem_append_right _ new
  · exact List.mem_append_left _ (holds key item old)

/-- A batch of items that can all be compared is offered to its end. -/
theorem offerAll_eq (holds : Holds seen held) (comparable : Comparable exceeds (seen ++ items)) :
    offerAll exceeds items held = items.foldl (settle exceeds) held := by
  induction items generalizing seen held with
  | nil => rfl
  | cons item rest ih =>
      have offered : offer exceeds item held = .ok (settle exceeds held item) := by
        rw [offer, settle]
        cases stored : held.get item.1 with
        | none => rfl
        | some existing =>
            have pairs := comparable item.1
            rw [itemsOf_append, List.pairwise_append] at pairs
            obtain ⟨more, found⟩ := pairs.2.2 existing (holds _ _ stored) item.2
              (by simp [itemsOf])
            dsimp only
            rw [found]
            cases more <;> rfl
      have after : Holds (seen ++ [item]) ([item].foldl (settle exceeds) held) := holds.settled
      rw [offerAll, offered, List.foldl_cons]
      exact ih after (by rwa [List.append_assoc, List.singleton_append])

end Maps
end Chainmail.BestByKey
