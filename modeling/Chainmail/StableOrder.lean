import Mathlib.Data.List.Perm.Basic
import Mathlib.Order.Lattice

/-!
Stable sorting by a key in a linear order. A list that is sorted by its keys is
settled by its classes, the sublists of equal keys, and a stable sort keeps each.
-/

namespace Chainmail

universe u v
variable {α : Type u} {κ : Type v} [LinearOrder κ] (key : α → κ)

/-- The items with one key, in the order they stand in. -/
def classOf (wanted : κ) (items : List α) : List α := items.filter fun item => key item = wanted

/-- How many items come strictly before an item by their keys. -/
def rank (items : List α) (item : α) : Nat :=
  items.countP fun other => decide (key other < key item)

/-- `items.sort((a, b) => key(a) - key(b))` -/
def ordered (items : List α) : List α := items.mergeSort fun a b => decide (key a ≤ key b)

variable {key}

theorem classOf_append (wanted : κ) (first second : List α) :
    classOf key wanted (first ++ second) = classOf key wanted first ++ classOf key wanted second :=
  List.filter_append ..

theorem ordered_perm (items : List α) : (ordered key items).Perm items := List.mergeSort_perm _ _

theorem ordered_sorted (items : List α) :
    (ordered key items).Pairwise fun a b => key a ≤ key b := by
  have sorted : (ordered key items).Pairwise fun a b => decide (key a ≤ key b) = true :=
    List.pairwise_mergeSort (by simpa using fun a b c => le_trans)
      (by simpa using fun a b => le_total _ _) items
  exact sorted.imp of_decide_eq_true

theorem rank_perm {first second : List α} (same : first.Perm second) (item : α) :
    rank key first item = rank key second item := same.countP_eq _

theorem rank_append (first second : List α) (item : α) :
    rank key (first ++ second) item = rank key first item + rank key second item :=
  List.countP_append ..

theorem rank_eq_zero {items : List α} {item : α} (least : ∀ other ∈ items, key item ≤ key other) :
    rank key items item = 0 := by
  refine List.countP_eq_zero.mpr fun other member => ?_
  simpa using least other member

/-- An item is not before itself. -/
theorem rank_lt_length {items : List α} {item : α} (member : item ∈ items) :
    rank key items item < items.length := by
  refine Nat.lt_of_le_of_ne List.countP_le_length fun all => ?_
  simpa using List.countP_eq_length.mp all item member

/-- One of the first `count` items has fewer than `count` before it. -/
theorem rank_lt_of_mem_take {items : List α} {count : Nat} {item : α}
    (taken : item ∈ (ordered key items).take count) : rank key items item < count := by
  have cut := List.take_append_drop count (ordered key items)
  have sorted : ((ordered key items).take count ++ (ordered key items).drop count).Pairwise
      fun a b => key a ≤ key b := cut.symm ▸ ordered_sorted items
  have dropped : rank key ((ordered key items).drop count) item = 0 :=
    rank_eq_zero ((List.pairwise_append.mp sorted).2.2 item taken)
  calc rank key items item
      = rank key ((ordered key items).take count ++ (ordered key items).drop count) item :=
        rank_perm (cut.symm ▸ (ordered_perm items).symm) item
    _ = rank key ((ordered key items).take count) item := by
        rw [rank_append, dropped, Nat.add_zero]
    _ < ((ordered key items).take count).length := rank_lt_length taken
    _ ≤ count := List.length_take_le _ _

-- A class is a sorted sublist, so the sort has it as a sublist, and of full length.
theorem classOf_ordered (wanted : κ) (items : List α) :
    classOf key wanted (ordered key items) = classOf key wanted items := by
  have sorted : (classOf key wanted items).Pairwise fun a b => decide (key a ≤ key b) := by
    refine List.pairwise_of_forall_mem_list fun a first b second => ?_
    have left := of_decide_eq_true (List.mem_filter.mp first).2
    have right := of_decide_eq_true (List.mem_filter.mp second).2
    simp [left, right]
  have inside : (classOf key wanted items).Sublist (ordered key items) :=
    List.sublist_mergeSort (by simpa using fun a b c => le_trans)
      (by simpa using fun a b => le_total _ _) sorted List.filter_sublist
  have kept := inside.filter fun item => decide (key item = wanted)
  rw [classOf, List.filter_filter] at kept
  simp only [Bool.and_self] at kept
  exact (kept.eq_of_length_le (Nat.le_of_eq ((ordered_perm items).filter _).length_eq)).symm

theorem perm_of_classes {first second : List α}
    (same : ∀ wanted, classOf key wanted first = classOf key wanted second) :
    first.Perm second := by
  classical
  apply List.perm_iff_count.mpr
  intro item
  have counted (items : List α) : (classOf key (key item) items).count item = items.count item :=
    List.count_filter (by simp)
  rw [← counted first, ← counted second, same]

end Chainmail
