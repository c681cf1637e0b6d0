import Mathlib.Data.List.Nodup

/-!
Insertion-ordered finite maps with unique keys. `set` on a present key keeps
the position of its entry, `set` on an absent key appends, and `delete` leaves
the order of the other entries alone.
-/

namespace Chainmail.OrderedMap

universe u v
variable {Key : Type u} {Value : Type v} [DecidableEq Key]

def lookupEntry : List (Key × Value) → Key → Option Value
  | [], _ => none
  | (key, value) :: rest, wanted =>
      if key = wanted then some value else lookupEntry rest wanted

def setEntry : List (Key × Value) → Key → Value → List (Key × Value)
  | [], wanted, value => [(wanted, value)]
  | (key, old) :: rest, wanted, value =>
      if key = wanted then (key, value) :: rest
      else (key, old) :: setEntry rest wanted value

def deleteEntry : List (Key × Value) → Key → List (Key × Value)
  | [], _ => []
  | (key, value) :: rest, wanted =>
      if key = wanted then deleteEntry rest wanted
      else (key, value) :: deleteEntry rest wanted

theorem mem_keys_setEntry (entries : List (Key × Value)) (wanted key : Key) (value : Value) :
    key ∈ (setEntry entries wanted value).map Prod.fst ↔
      key = wanted ∨ key ∈ entries.map Prod.fst := by
  induction entries with
  | nil => simp [setEntry]
  | cons entry rest ih =>
      obtain ⟨head, old⟩ := entry
      by_cases same : head = wanted
      · subst head
        simp [setEntry]
      · simp only [setEntry, same, ↓reduceIte, List.map_cons, List.mem_cons, ih]
        exact or_left_comm

theorem keys_setEntry_held {entries : List (Key × Value)} {wanted : Key} (value : Value)
    (held : wanted ∈ entries.map Prod.fst) :
    (setEntry entries wanted value).map Prod.fst = entries.map Prod.fst := by
  induction entries with
  | nil => cases held
  | cons entry rest ih =>
      obtain ⟨head, old⟩ := entry
      by_cases same : head = wanted
      · simp [setEntry, same]
      · have later : wanted ∈ rest.map Prod.fst := by
          simpa [Ne.symm same] using held
        simp [setEntry, same, ih later]

theorem setEntry_fresh {entries : List (Key × Value)} {wanted : Key} (value : Value)
    (fresh : wanted ∉ entries.map Prod.fst) :
    setEntry entries wanted value = entries ++ [(wanted, value)] := by
  induction entries with
  | nil => rfl
  | cons entry rest ih =>
      obtain ⟨head, old⟩ := entry
      have other : head ≠ wanted := fun same => fresh (by simp [same])
      have later : wanted ∉ rest.map Prod.fst := fun member => fresh (List.mem_cons_of_mem _ member)
      simp [setEntry, other, ih later]

theorem setEntry_held {entries : List (Key × Value)} {wanted : Key} {value : Value}
    (held : lookupEntry entries wanted = some value) : setEntry entries wanted value = entries := by
  induction entries with
  | nil => cases held
  | cons entry rest ih =>
      obtain ⟨head, old⟩ := entry
      by_cases same : head = wanted
      · simp only [lookupEntry, same, ↓reduceIte, Option.some.injEq] at held
        simp [setEntry, same, held]
      · simp only [lookupEntry, same, ↓reduceIte] at held
        simp [setEntry, same, ih held]

theorem keys_setEntry_fresh {entries : List (Key × Value)} {wanted : Key} (value : Value)
    (fresh : wanted ∉ entries.map Prod.fst) :
    (setEntry entries wanted value).map Prod.fst = entries.map Prod.fst ++ [wanted] := by
  rw [setEntry_fresh value fresh, List.map_append, List.map_singleton]

theorem keys_deleteEntry (entries : List (Key × Value)) (wanted : Key) :
    (deleteEntry entries wanted).map Prod.fst =
      (entries.map Prod.fst).filter fun key => key ≠ wanted := by
  induction entries with
  | nil => rfl
  | cons entry rest ih =>
      obtain ⟨head, old⟩ := entry
      by_cases same : head = wanted
      · simp [deleteEntry, same, ih]
      · simp [deleteEntry, same, ih]

theorem setEntry_nodup (entries : List (Key × Value)) (wanted : Key) (value : Value)
    (unique : (entries.map Prod.fst).Nodup) :
    ((setEntry entries wanted value).map Prod.fst).Nodup := by
  induction entries with
  | nil => simp [setEntry]
  | cons entry rest ih =>
      obtain ⟨head, old⟩ := entry
      have tail := List.nodup_cons.mp unique
      by_cases same : head = wanted
      · subst head
        simpa [setEntry] using unique
      · simp only [setEntry, same, ↓reduceIte, List.map_cons]
        refine List.nodup_cons.mpr ⟨?_, ih tail.2⟩
        intro member
        rcases (mem_keys_setEntry rest wanted head value).mp member with hit | old
        · exact same hit
        · exact tail.1 old

theorem deleteEntry_sublist (entries : List (Key × Value)) (wanted : Key) :
    (deleteEntry entries wanted).Sublist entries := by
  induction entries with
  | nil => exact List.Sublist.refl _
  | cons entry rest ih =>
      obtain ⟨head, old⟩ := entry
      by_cases same : head = wanted
      · simpa [deleteEntry, same] using ih.cons (wanted, old)
      · simpa [deleteEntry, same] using ih.cons_cons (head, old)

theorem lookup_setEntry (entries : List (Key × Value)) (wanted key : Key) (value : Value) :
    lookupEntry (setEntry entries wanted value) key =
      if key = wanted then some value else lookupEntry entries key := by
  induction entries with
  | nil => simp [setEntry, lookupEntry, eq_comm]
  | cons entry rest ih =>
      obtain ⟨head, old⟩ := entry
      by_cases same : head = wanted
      · subst head
        by_cases hit : wanted = key
        · simp [setEntry, lookupEntry, hit]
        · simp [setEntry, lookupEntry, hit, Ne.symm hit]
      · by_cases hit : head = key
        · subst key
          simp [setEntry, lookupEntry, same]
        · simp [setEntry, lookupEntry, same, hit, ih]

theorem lookup_deleteEntry (entries : List (Key × Value)) (wanted key : Key) :
    lookupEntry (deleteEntry entries wanted) key =
      if key = wanted then none else lookupEntry entries key := by
  induction entries with
  | nil => simp [deleteEntry, lookupEntry]
  | cons entry rest ih =>
      obtain ⟨head, old⟩ := entry
      by_cases same : head = wanted
      · subst head
        by_cases hit : key = wanted
        · subst key
          simpa [deleteEntry] using ih
        · simp [deleteEntry, ih, lookupEntry, hit, Ne.symm hit]
      · by_cases hit : head = key
        · subst key
          simp [deleteEntry, lookupEntry, same]
        · simp [deleteEntry, lookupEntry, same, hit, ih]

theorem lookup_mem {entries : List (Key × Value)} {key : Key} {value : Value}
    (found : lookupEntry entries key = some value) : (key, value) ∈ entries := by
  induction entries with
  | nil => simp [lookupEntry] at found
  | cons entry rest ih =>
      obtain ⟨head, old⟩ := entry
      by_cases same : head = key
      · subst head
        simp only [lookupEntry, ↓reduceIte, Option.some.injEq] at found
        simp [found]
      · simp only [lookupEntry, same, ↓reduceIte] at found
        exact List.mem_cons_of_mem _ (ih found)

theorem mem_lookup {entries : List (Key × Value)} {key : Key} {value : Value}
    (unique : (entries.map Prod.fst).Nodup) (member : (key, value) ∈ entries) :
    lookupEntry entries key = some value := by
  induction entries with
  | nil => simp at member
  | cons entry rest ih =>
      obtain ⟨head, old⟩ := entry
      have tail := List.nodup_cons.mp unique
      rcases List.mem_cons.mp member with same | later
      · cases same
        simp [lookupEntry]
      · have apart : head ≠ key := by
          rintro rfl
          exact tail.1 (List.mem_map.mpr ⟨(head, value), later, rfl⟩)
        simpa [lookupEntry, apart] using ih tail.2 later

theorem mem_values_setEntry {entries : List (Key × Value)} {wanted : Key} {value found : Value}
    (member : found ∈ (setEntry entries wanted value).map Prod.snd) :
    found = value ∨ found ∈ entries.map Prod.snd := by
  induction entries with
  | nil => simpa [setEntry] using member
  | cons entry rest ih =>
      obtain ⟨head, old⟩ := entry
      by_cases same : head = wanted
      · simp only [setEntry, same, ↓reduceIte, List.map_cons, List.mem_cons] at member
        rcases member with hit | later
        · exact Or.inl hit
        · exact Or.inr (List.mem_cons_of_mem _ later)
      · simp only [setEntry, same, ↓reduceIte, List.map_cons, List.mem_cons] at member
        rcases member with hit | later
        · exact Or.inr (by simp [hit])
        · exact (ih later).imp_right (List.mem_cons_of_mem _)

theorem values_setEntry_nodup {entries : List (Key × Value)} {wanted : Key} {value : Value}
    (distinct : (entries.map Prod.snd).Nodup) (fresh : value ∉ entries.map Prod.snd) :
    ((setEntry entries wanted value).map Prod.snd).Nodup := by
  induction entries with
  | nil => simp [setEntry]
  | cons entry rest ih =>
      obtain ⟨head, old⟩ := entry
      have tail := List.nodup_cons.mp distinct
      have freshTail : value ∉ rest.map Prod.snd := fun member =>
        fresh (List.mem_cons_of_mem _ member)
      by_cases same : head = wanted
      · simp only [setEntry, same, ↓reduceIte, List.map_cons]
        exact List.nodup_cons.mpr ⟨freshTail, tail.2⟩
      · simp only [setEntry, same, ↓reduceIte, List.map_cons]
        refine List.nodup_cons.mpr ⟨?_, ih tail.2 freshTail⟩
        intro member
        rcases mem_values_setEntry member with hit | later
        · exact fresh (by simp [hit])
        · exact tail.1 later

theorem deleteEntry_absent {entries : List (Key × Value)} {wanted : Key}
    (absent : wanted ∉ entries.map Prod.fst) : deleteEntry entries wanted = entries := by
  induction entries with
  | nil => rfl
  | cons entry rest ih =>
      obtain ⟨head, old⟩ := entry
      simp only [List.map_cons, List.mem_cons, not_or] at absent
      simp [deleteEntry, Ne.symm absent.1, ih absent.2]

theorem deleteEntry_perm {entries : List (Key × Value)} {wanted : Key} {value : Value}
    (unique : (entries.map Prod.fst).Nodup) (found : lookupEntry entries wanted = some value) :
    entries.Perm ((wanted, value) :: deleteEntry entries wanted) := by
  induction entries with
  | nil => simp [lookupEntry] at found
  | cons entry rest ih =>
      obtain ⟨head, old⟩ := entry
      have tail := List.nodup_cons.mp unique
      by_cases same : head = wanted
      · subst head
        have equal : old = value := by simpa [lookupEntry] using found
        subst old
        simp [deleteEntry, deleteEntry_absent tail.1]
      · simp only [lookupEntry, same, ↓reduceIte] at found
        simp only [deleteEntry, same, ↓reduceIte]
        exact ((ih tail.2 found).cons (head, old)).trans (List.Perm.swap _ _ _)

end Chainmail.OrderedMap

namespace Chainmail

universe u v

structure OrderedMap (Key : Type u) (Value : Type v) where
  entries : List (Key × Value)
  unique : (entries.map Prod.fst).Nodup

namespace OrderedMap

variable {Key : Type u} {Value : Type v}

@[ext]
theorem ext_entries {left right : OrderedMap Key Value}
    (same : left.entries = right.entries) : left = right := by
  cases left
  cases right
  cases same
  rfl

def empty : OrderedMap Key Value := ⟨[], List.nodup_nil⟩

def size (map : OrderedMap Key Value) : Nat := map.entries.length

def values (map : OrderedMap Key Value) : List Value := map.entries.map Prod.snd

variable [DecidableEq Key]

def get (map : OrderedMap Key Value) (key : Key) : Option Value :=
  lookupEntry map.entries key

def has (map : OrderedMap Key Value) (key : Key) : Bool := (map.get key).isSome

def set (map : OrderedMap Key Value) (key : Key) (value : Value) : OrderedMap Key Value :=
  ⟨setEntry map.entries key value, setEntry_nodup _ _ _ map.unique⟩

def delete (map : OrderedMap Key Value) (key : Key) : OrderedMap Key Value :=
  ⟨deleteEntry map.entries key,
    map.unique.sublist ((deleteEntry_sublist map.entries key).map Prod.fst)⟩

/-- Deletes the entries that are not wanted, in one pass over the map. -/
def keep (map : OrderedMap Key Value) (wanted : Key → Value → Bool) : OrderedMap Key Value :=
  ⟨map.entries.filter fun entry => wanted entry.1 entry.2,
    map.unique.sublist (List.filter_sublist.map Prod.fst)⟩

@[simp] theorem get_empty (key : Key) : (empty : OrderedMap Key Value).get key = none := rfl

theorem get_set (map : OrderedMap Key Value) (wanted key : Key) (value : Value) :
    (map.set wanted value).get key = if key = wanted then some value else map.get key :=
  lookup_setEntry _ _ _ _

theorem get_delete (map : OrderedMap Key Value) (wanted key : Key) :
    (map.delete wanted).get key = if key = wanted then none else map.get key :=
  lookup_deleteEntry _ _ _

@[simp] theorem get_set_self (map : OrderedMap Key Value) (key : Key) (value : Value) :
    (map.set key value).get key = some value := by
  simp [get_set]

@[simp] theorem get_delete_self (map : OrderedMap Key Value) (key : Key) :
    (map.delete key).get key = none := by
  simp [get_delete]

theorem get_set_of_ne (map : OrderedMap Key Value) {wanted key : Key} (value : Value)
    (apart : key ≠ wanted) : (map.set wanted value).get key = map.get key := by
  simp [get_set, apart]

theorem get_delete_of_ne (map : OrderedMap Key Value) {wanted key : Key}
    (apart : key ≠ wanted) : (map.delete wanted).get key = map.get key := by
  simp [get_delete, apart]

/-- Writing what is there already changes nothing, and only that. -/
theorem set_eq_self_iff {map : OrderedMap Key Value} {key : Key} {value : Value} :
    map.set key value = map ↔ map.get key = some value := by
  constructor
  · intro same
    rw [← same, get_set_self]
  · intro held
    exact ext_entries (setEntry_held held)

theorem get_iff_mem (map : OrderedMap Key Value) (key : Key) (value : Value) :
    map.get key = some value ↔ (key, value) ∈ map.entries :=
  ⟨lookup_mem, mem_lookup map.unique⟩

theorem get_keep (map : OrderedMap Key Value) (wanted : Key → Value → Bool) (key : Key) :
    (map.keep wanted).get key = (map.get key).filter (wanted key) := by
  ext value
  rw [get_iff_mem, keep, List.mem_filter, ← get_iff_mem, Option.filter_eq_some_iff]

theorem mem_values_set {map : OrderedMap Key Value} {key : Key} {value found : Value}
    (member : found ∈ (map.set key value).values) : found = value ∨ found ∈ map.values :=
  mem_values_setEntry member

theorem values_set_nodup {map : OrderedMap Key Value} {key : Key} {value : Value}
    (distinct : map.values.Nodup) (fresh : value ∉ map.values) :
    (map.set key value).values.Nodup :=
  values_setEntry_nodup distinct fresh

theorem key_of_distinct_values {map : OrderedMap Key Value} {one other : Key} {value : Value}
    (distinct : map.values.Nodup) (here : map.get one = some value)
    (there : map.get other = some value) : one = other :=
  congrArg Prod.fst (List.inj_on_of_nodup_map distinct ((get_iff_mem _ _ _).mp here)
    ((get_iff_mem _ _ _).mp there) rfl)

theorem values_delete_perm {map : OrderedMap Key Value} {key : Key} {value : Value}
    (found : map.get key = some value) : map.values.Perm (value :: (map.delete key).values) :=
  (deleteEntry_perm map.unique found).map Prod.snd

theorem get_none_iff (map : OrderedMap Key Value) (key : Key) :
    map.get key = none ↔ key ∉ map.entries.map Prod.fst := by
  rw [Option.eq_none_iff_forall_not_mem, List.mem_map]
  constructor
  · rintro absent ⟨entry, member, rfl⟩
    exact absent entry.2 ((get_iff_mem _ _ _).mpr member)
  · intro absent value found
    exact absent ⟨(key, value), (get_iff_mem _ _ _).mp found, rfl⟩

theorem size_set_fresh {map : OrderedMap Key Value} {key : Key} (value : Value)
    (fresh : map.get key = none) : (map.set key value).size = map.size + 1 := by
  have keys := congrArg List.length
    (keys_setEntry_fresh value ((get_none_iff map key).mp fresh))
  simpa [size, set] using keys

theorem size_set_held {map : OrderedMap Key Value} {key : Key} (value : Value)
    (held : map.get key ≠ none) : (map.set key value).size = map.size := by
  have member := Decidable.not_not.mp (mt (get_none_iff map key).mpr held)
  simpa [size, set] using congrArg List.length (keys_setEntry_held value member)

theorem size_delete_held {map : OrderedMap Key Value} {key : Key} {value : Value}
    (held : map.get key = some value) : map.size = (map.delete key).size + 1 := by
  simpa [size, values] using (values_delete_perm held).length_eq

-- A map is rebuilt by setting its entries one by one.
theorem foldl_set_entries (map : OrderedMap Key Value) :
    map.entries.foldl (fun built entry => built.set entry.1 entry.2) empty = map := by
  have append : ∀ (later : List (Key × Value)) (built : OrderedMap Key Value),
      ((built.entries ++ later).map Prod.fst).Nodup →
      (later.foldl (fun built entry => built.set entry.1 entry.2) built).entries =
        built.entries ++ later := by
    intro later
    induction later with
    | nil => simp
    | cons entry rest ih =>
        intro built distinct
        have fresh : entry.1 ∉ built.entries.map Prod.fst := by
          rw [List.map_append, List.map_cons, List.nodup_middle, List.nodup_cons] at distinct
          exact fun member => distinct.1 (List.mem_append_left _ member)
        have extended : (built.set entry.1 entry.2).entries = built.entries ++ [entry] :=
          setEntry_fresh entry.2 fresh
        rw [List.foldl_cons, ih, extended, List.append_assoc, List.singleton_append]
        rwa [extended, List.append_assoc, List.singleton_append]
  exact ext_entries (append map.entries empty map.unique)

def countKeys (wanted : Key → Bool) (map : OrderedMap Key Value) : Nat :=
  (map.entries.map Prod.fst).countP wanted

theorem countKeys_set_fresh {map : OrderedMap Key Value} {key : Key} (wanted : Key → Bool)
    (value : Value) (fresh : map.get key = none) :
    (map.set key value).countKeys wanted = map.countKeys wanted + if wanted key then 1 else 0 := by
  rw [countKeys, set, keys_setEntry_fresh value ((get_none_iff map key).mp fresh), List.countP_append,
    List.countP_singleton, countKeys]

theorem countKeys_set_held {map : OrderedMap Key Value} {key : Key} (wanted : Key → Bool)
    (value : Value) (held : map.get key ≠ none) :
    (map.set key value).countKeys wanted = map.countKeys wanted := by
  have member := Decidable.not_not.mp (mt (get_none_iff map key).mpr held)
  rw [countKeys, set, keys_setEntry_held value member, countKeys]

theorem countKeys_set_other (map : OrderedMap Key Value) {key : Key} {wanted : Key → Bool}
    (value : Value) (unwanted : wanted key = false) :
    (map.set key value).countKeys wanted = map.countKeys wanted := by
  by_cases fresh : map.get key = none
  · simp [countKeys_set_fresh wanted value fresh, unwanted]
  · exact countKeys_set_held wanted value fresh

theorem countKeys_delete_other (map : OrderedMap Key Value) {key : Key} {wanted : Key → Bool}
    (unwanted : wanted key = false) : (map.delete key).countKeys wanted = map.countKeys wanted := by
  rw [countKeys, delete, keys_deleteEntry, List.countP_filter, countKeys]
  apply List.countP_congr
  intro other _
  by_cases same : other = key
  · simp [same, unwanted]
  · simp [same]

omit [DecidableEq Key] in
theorem countKeys_keep (map : OrderedMap Key Value) {kept : Key → Value → Bool}
    {wanted : Key → Bool}
    (stays : ∀ entry ∈ map.entries, wanted entry.1 = true → kept entry.1 entry.2 = true) :
    (map.keep kept).countKeys wanted = map.countKeys wanted := by
  rw [countKeys, keep, List.countP_map, List.countP_filter, countKeys, List.countP_map]
  apply List.countP_congr
  intro entry member
  by_cases inside : wanted entry.1 = true
  · simp [inside, stays entry member inside]
  · simp [inside]

end OrderedMap
end Chainmail
