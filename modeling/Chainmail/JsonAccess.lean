import Chainmail.Json

/-!
What a program that does not check a JSON value first gets from it: the
property, the text or the truth value it reads, or the error it throws.
-/

namespace Chainmail

/-- A thrown error: one of the program's own, with its message, or one that the
    language or a package raises. -/
inductive Failure where
  | error (message : String)
  | typeError
  | rangeError
  | syntaxError
  | rejected
deriving DecidableEq

theorem bind_ok_iff {α β : Type} {first : Except Failure α} {next : α → Except Failure β}
    {result : β} :
    (first >>= next) = .ok result ↔ ∃ value, first = .ok value ∧ next value = .ok result := by
  cases first with
  | error failure =>
      constructor
      · intro impossible
        cases impossible
      · rintro ⟨_, impossible, _⟩
        cases impossible
  | ok value =>
      constructor
      · intro returned
        exact ⟨value, rfl, returned⟩
      · rintro ⟨_, same, returned⟩
        cases same
        exact returned

@[simp] theorem ok_bind {α β : Type} (value : α) (next : α → Except Failure β) :
    ((.ok value : Except Failure α) >>= next) = next value := rfl

@[simp] theorem error_bind {α β : Type} (failure : Failure) (next : α → Except Failure β) :
    ((.error failure : Except Failure α) >>= next) = .error failure := rfl

theorem toOption_eq_some_iff {α : Type} {found : Except Failure α} {value : α} :
    found.toOption = some value ↔ found = .ok value := by
  cases found <;> simp [Except.toOption]

theorem mapM_cons_ok_iff {α β : Type} {convert : α → Except Failure β} {first : α} {rest : List α}
    {results : List β} : (first :: rest).mapM convert = .ok results ↔
      ∃ result more, convert first = .ok result ∧ rest.mapM convert = .ok more ∧
        results = result :: more := by
  rw [List.mapM_cons]
  constructor
  · intro converted
    obtain ⟨result, own, others⟩ := bind_ok_iff.mp converted
    obtain ⟨more, later, done⟩ := bind_ok_iff.mp others
    cases done
    exact ⟨result, more, own, later, rfl⟩
  · rintro ⟨result, more, own, later, rfl⟩
    rw [own, ok_bind, later]
    rfl

theorem mapM_ok_map {α β : Type} {convert : α → Except Failure β} {items : List α}
    {results : List β} (converted : items.mapM convert = .ok results) :
    items.map convert = results.map .ok := by
  induction items generalizing results with
  | nil =>
      cases converted
      rfl
  | cons first rest ih =>
      obtain ⟨result, more, own, later, rfl⟩ := mapM_cons_ok_iff.mp converted
      rw [List.map_cons, List.map_cons, own, ih later]

theorem mapM_ok_mem {α β : Type} {convert : α → Except Failure β} {items : List α}
    {results : List β} (converted : items.mapM convert = .ok results) {item : α}
    (member : item ∈ items) : ∃ result, convert item = .ok result := by
  have listed : convert item ∈ results.map Except.ok :=
    mapM_ok_map converted ▸ List.mem_map_of_mem member
  obtain ⟨result, _, same⟩ := List.mem_map.mp listed
  exact ⟨result, same.symm⟩

theorem mapM_of_ok {α β : Type} {convert : α → Except Failure β} {result : α → β}
    {items : List α} (each : ∀ item ∈ items, convert item = .ok (result item)) :
    items.mapM convert = .ok (items.map result) := by
  induction items with
  | nil => rfl
  | cons first rest ih =>
      have later := ih fun item member => each item (List.mem_cons_of_mem _ member)
      exact mapM_cons_ok_iff.mpr ⟨_, _, each first List.mem_cons_self, later, rfl⟩

theorem mapM_ok_back {α β : Type} {convert : α → Except Failure β} {back : β → α} {items : List α}
    {results : List β} (keeps : ∀ item result, convert item = .ok result → back result = item)
    (converted : items.mapM convert = .ok results) : results.map back = items := by
  induction items generalizing results with
  | nil =>
      cases converted
      rfl
  | cons first rest ih =>
      obtain ⟨result, more, own, later, rfl⟩ := mapM_cons_ok_iff.mp converted
      rw [List.map_cons, keeps first result own, ih later]

theorem mapM_ok_exists {α β : Type} {convert : α → Except Failure β} {items : List α}
    (each : ∀ item ∈ items, ∃ result, convert item = .ok result) :
    ∃ results, items.mapM convert = .ok results := by
  induction items with
  | nil => exact ⟨[], rfl⟩
  | cons first rest ih =>
      obtain ⟨result, own⟩ := each first List.mem_cons_self
      obtain ⟨others, later⟩ := ih fun item member => each item (List.mem_cons_of_mem _ member)
      exact ⟨result :: others, mapM_cons_ok_iff.mpr ⟨result, others, own, later, rfl⟩⟩

namespace Json

/-- `value.key`; reading from `null` or `undefined` throws. -/
def member (key : String) : Option Json → Except Failure (Option Json)
  | none => .error .typeError
  | some .null => .error .typeError
  | some value => .ok (value.field key)

/-- `value === text` -/
def isText (text : String) : Option Json → Bool
  | some (.string other) => other == text
  | _ => false

/-- A method of strings is called on the value; only a string has it. -/
def asText : Option Json → Except Failure String
  | some (.string text) => .ok text
  | _ => .error .typeError

def truthy : Option Json → Bool
  | none => false
  | some .null => false
  | some (.bool value) => value
  | some (.number value) => value.mantissa ≠ 0
  | some (.string value) => value ≠ ""
  | some _ => true

/-- The value, if a condition on it would hold. -/
def present (value : Option Json) : Option Json := value.filter fun found => truthy (some found)

/-- `value || fallback` -/
def orElse (value : Option Json) (fallback : Json) : Json :=
  match value with
  | some found => if truthy (some found) then found else fallback
  | none => fallback

/-- `JSON.parse(text)` -/
def parseOrThrow (text : String) : Except Failure Json :=
  match parse text with
  | some value => .ok value
  | none => .error .syntaxError

def ofInt (value : Int) : Json := .number (Decimal.make (decide (value < 0)) value.natAbs 0)

def isNull : Json → Bool
  | .null => true
  | _ => false

theorem ofInt_natCast (value : Nat) : ofInt value = .number (Decimal.make false value 0) := by
  have natural : decide ((value : Int) < 0) = false := by simp
  rw [ofInt, natural, Int.natAbs_natCast]

mutual

/-- The value inside a template string. An object with a property of its own
    called `toString`, which is never a function here, cannot be converted. -/
def toText : Json → Except Failure String
  | .null => .ok "null"
  | .bool true => .ok "true"
  | .bool false => .ok "false"
  | .number value => .ok (String.ofList value.text)
  | .string value => .ok value
  | .array items => joinItems items
  | .object fields =>
      if (lookup "toString" fields).isSome then .error .typeError else .ok "[object Object]"

/-- `join(',')`, to which `null` is an empty text. -/
def joinItems : List Json → Except Failure String
  | [] => .ok ""
  | [item] => do
      let text ← toText item
      return if isNull item then "" else text
  | item :: next :: rest => do
      let text ← toText item
      let others ← joinItems (next :: rest)
      return (if isNull item then "" else text) ++ "," ++ others

end

def spliced : Option Json → Except Failure String
  | none => .ok "undefined"
  | some value => toText value

mutual

/-- A template string can show the value: no object in it has a `toString` of its own. -/
def convertible : Json → Bool
  | .array items => convertibleItems items
  | .object fields => (lookup "toString" fields).isNone
  | _ => true

def convertibleItems : List Json → Bool
  | [] => true
  | item :: rest => convertible item && convertibleItems rest

end

theorem isOk_andReturn {α β : Type} (first : Except Failure α) (next : α → β) :
    (do let value ← first; return next value : Except Failure β).isOk = first.isOk := by
  cases first <;> rfl

theorem texts_isOk : (∀ value, (toText value).isOk = convertible value) ∧
    ∀ items, (joinItems items).isOk = convertibleItems items := by
  refine toText.mutual_induct (fun value => (toText value).isOk = convertible value)
    (fun items => (joinItems items).isOk = convertibleItems items)
    rfl rfl rfl (fun _ => rfl) (fun _ => rfl) ?array ?own ?plain rfl ?last ?more
  case array =>
    intro items joined
    rw [toText, joined, convertible]
  case own =>
    intro fields held
    rw [toText, if_pos held, convertible, ← Option.not_isSome, held]
    rfl
  case plain =>
    intro fields free
    rw [toText, if_neg free, convertible, ← Option.not_isSome, Bool.eq_false_iff.mpr free]
    rfl
  case last =>
    intro item shown
    rw [joinItems, isOk_andReturn, shown, convertibleItems, convertibleItems, Bool.and_true]
  case more =>
    intro item next rest shown joined
    rw [joinItems, convertibleItems, ← shown, ← joined]
    cases toText item with
    | error failure => rfl
    | ok text => exact isOk_andReturn _ _

/-- The equality of `Set.prototype.has`; a parsed object or array is only itself. -/
def sameValue : Json → Json → Bool
  | .null, .null => true
  | .bool left, .bool right => left == right
  | .number left, .number right => left == right
  | .string left, .string right => left == right
  | _, _ => false

theorem sameValue_eq {left right : Json} (same : sameValue left right = true) : left = right := by
  cases left <;> cases right <;> simp_all [sameValue]

@[simp] theorem member_object (key : String) (fields : List (String × Json)) :
    member key (some (.object fields)) = .ok (lookup key fields) := rfl

@[simp] theorem asText_string (text : String) : asText (some (.string text)) = .ok text := rfl

theorem lookup_of_mem {key : String} {value : Json} {fields : List (String × Json)}
    (distinct : (fields.map Prod.fst).Nodup) (member : (key, value) ∈ fields) :
    lookup key fields = some value := by
  induction fields with
  | nil => cases member
  | cons entry rest ih =>
      obtain ⟨fresh, later⟩ := List.nodup_cons.mp distinct
      rcases List.mem_cons.mp member with rfl | inside
      · simp [lookup]
      · have other : entry.1 ≠ key := by
          rintro rfl
          exact fresh (List.mem_map.mpr ⟨_, inside, rfl⟩)
        simpa [lookup, other] using ih later inside

theorem lookup_append_of_some {key : String} {value : Json} {fields : List (String × Json)}
    (more : List (String × Json)) (found : lookup key fields = some value) :
    lookup key (fields ++ more) = some value := by
  induction fields with
  | nil => cases found
  | cons entry rest ih =>
      by_cases own : entry.1 = key
      · simpa [lookup, own] using found
      · simp only [lookup, own, ↓reduceIte] at found
        simpa [lookup, own] using ih found

theorem lookup_append_of_absent {key : String} {fields : List (String × Json)}
    (more : List (String × Json)) (absent : key ∉ fields.map Prod.fst) :
    lookup key (fields ++ more) = lookup key more := by
  induction fields with
  | nil => rfl
  | cons entry rest ih =>
      have other : entry.1 ≠ key := fun same => absent (by simp [same])
      have later : key ∉ rest.map Prod.fst := fun member => absent (List.mem_cons_of_mem _ member)
      simpa [lookup, other] using ih later

theorem lookup_setField (key other : String) (value : Json) (fields : List (String × Json)) :
    lookup other (setField key value fields) =
      if key = other then some value else lookup other fields := by
  induction fields with
  | nil => simp [setField, lookup]
  | cons entry rest ih =>
      rw [setField]
      by_cases same : entry.1 = key
      · subst same
        by_cases own : entry.1 = other <;> simp [lookup, own]
      · by_cases before : comesBefore key entry.1 = true
        · simp [lookup, same, before]
        · by_cases found : entry.1 = other
          · subst found
            simp [lookup, same, before, Ne.symm same]
          · simp [lookup, same, before, found, ih]

/-- Assigning one name leaves the others as often as they were. -/
theorem count_setField_ne {key name : String} (other : key ≠ name) (value : Json)
    (fields : List (String × Json)) :
    ((setField key value fields).map Prod.fst).count name = (fields.map Prod.fst).count name := by
  induction fields with
  | nil => simp [setField, other]
  | cons entry rest ih =>
      rw [setField]
      by_cases same : entry.1 = key
      · simp [same]
      · by_cases before : comesBefore key entry.1 = true
        · simp [same, before, other]
        · simp [same, before, List.count_cons, ih]

/-- A name that is no array index is assigned where it stands, or at the end. -/
theorem count_setField_self {name : String} (plain : arrayIndex name = none) (value : Json)
    {fields : List (String × Json)} (once : (fields.map Prod.fst).count name ≤ 1) :
    ((setField name value fields).map Prod.fst).count name ≤ 1 := by
  induction fields with
  | nil => simp [setField]
  | cons entry rest ih =>
      rw [setField]
      have last : comesBefore name entry.1 = false := by simp [comesBefore, plain]
      by_cases same : entry.1 = name
      · rw [if_pos same]
        simpa [same] using once
      · have later : (rest.map Prod.fst).count name ≤ 1 := by simpa [same] using once
        simpa [same, last] using ih later

theorem without_append {key : String} {fields : List (String × Json)} (value : Json)
    (absent : key ∉ fields.map Prod.fst) : without key (fields ++ [(key, value)]) = fields := by
  induction fields with
  | nil => simp [without]
  | cons entry rest ih =>
      have other : entry.1 ≠ key := fun same => absent (by simp [same])
      have later : key ∉ rest.map Prod.fst := fun member => absent (List.mem_cons_of_mem _ member)
      have kept : without key (entry :: (rest ++ [(key, value)])) =
          entry :: without key (rest ++ [(key, value)]) := by
        simp [without, other]
      rw [List.cons_append, kept, ih later]

@[simp] theorem isText_self (text : String) : isText text (some (.string text)) = true := by
  simp [isText]

theorem isText_iff (text : String) (value : Option Json) :
    isText text value = true ↔ value = some (.string text) := by
  constructor
  · intro same
    unfold isText at same
    split at same
    · rw [eq_of_beq same]
    · cases same
  · rintro rfl
    simp [isText]

end Json
end Chainmail
