import Chainmail.JsonAccess

/-!
Reading back what was printed. Every value whose objects list their fields the
way an object does is read back unchanged.
-/

namespace Chainmail.Json

mutual

/-- Every object inside lists its fields in the order it would have built them in. -/
def Canonical : Json → Prop
  | .array items => CanonicalItems items
  | .object fields => assign fields = fields ∧ CanonicalFields fields
  | _ => True

def CanonicalItems : List Json → Prop
  | [] => True
  | item :: rest => Canonical item ∧ CanonicalItems rest

def CanonicalFields : List (String × Json) → Prop
  | [] => True
  | (_, value) :: rest => Canonical value ∧ CanonicalFields rest

end

section Strings

theorem hexValue_digitChar (digit : Nat) (small : digit < 16) :
    hexValue (Nat.digitChar digit) = some digit := by
  interval_cases digit <;> decide

theorem surrogate_free (c : Char) :
    isHighSurrogate c.toNat = false ∧ isLowSurrogate c.toNat = false := by
  have valid : c.toNat < 0xD800 ∨ 0xDFFF < c.toNat ∧ c.toNat < 0x110000 := c.valid
  constructor
  · simp only [isHighSurrogate, decide_eq_false_iff_not]
    omega
  · simp only [isLowSurrogate, decide_eq_false_iff_not]
    omega

theorem joinSurrogates_toNat (text : List Char) : joinSurrogates (text.map Char.toNat) = text := by
  induction text with
  | nil => rfl
  | cons c rest ih =>
      obtain ⟨notHigh, notLow⟩ := surrogate_free c
      cases rest with
      | nil => simp [joinSurrogates, notHigh, notLow, Char.ofNat_toNat]
      | cons next rest =>
          simp only [List.map_cons] at ih
          simp [joinSurrogates, notHigh, notLow, ih, Char.ofNat_toNat]

theorem readCodes_plain (c : Char) (rest : List Char) (notQuote : c ≠ '"')
    (notSlash : c ≠ '\\') (printed : ¬ c.toNat < 32) :
    readCodes (c :: rest) = (readCodes rest).map fun found => (c.toNat :: found.1, found.2) := by
  rw [readCodes.eq_def]
  split
  · simp_all
  · simp_all
  · simp_all
  · simp_all
  · rename_i same
    cases same
    simp only [printed, notSlash, or_self, ↓reduceIte, Option.bind_eq_bind]
    cases readCodes rest <;> rfl

theorem readCodes_escaped {letter c : Char} (rest : List Char) (escaped : unescape letter = some c) :
    readCodes ('\\' :: letter :: rest) =
      (readCodes rest).map fun found => (c.toNat :: found.1, found.2) := by
  rw [readCodes.eq_def]
  split
  · simp_all
  · simp_all
  · rename_i same
    obtain ⟨rfl, _⟩ := List.cons.inj (List.cons.inj same).2
    cases escaped
  · rename_i same
    obtain ⟨rfl, rfl⟩ := List.cons.inj (List.cons.inj same).2
    rw [escaped]
    cases readCodes rest <;> rfl
  · rename_i unescaped same
    obtain ⟨rfl, rfl⟩ := List.cons.inj same
    exact absurd rfl (unescaped letter rest rfl)

theorem readCodes_quoteChar (c : Char) (rest : List Char) :
    readCodes (quoteChar c ++ rest) =
      (readCodes rest).map fun found => (c.toNat :: found.1, found.2) := by
  unfold quoteChar
  split
  · subst c
    exact readCodes_escaped rest rfl
  split
  · subst c
    exact readCodes_escaped rest rfl
  split
  · subst c
    exact readCodes_escaped rest rfl
  split
  · subst c
    exact readCodes_escaped rest rfl
  split
  · subst c
    exact readCodes_escaped rest rfl
  split
  · subst c
    exact readCodes_escaped rest rfl
  split
  · subst c
    exact readCodes_escaped rest rfl
  -- A control character is written as four hexadecimal digits.
  split
  · rename_i control
    have high := hexValue_digitChar (c.toNat / 16) (by omega)
    have low := hexValue_digitChar (c.toNat % 16) (by omega)
    have zero : hexValue '0' = some 0 := by decide
    have code : 0 * 4096 + 0 * 256 + c.toNat / 16 * 16 + c.toNat % 16 = c.toNat := by omega
    simp only [hexDigits, List.cons_append, List.nil_append, readCodes, zero, high, low, code,
      Option.bind_eq_bind, Option.bind_some]
    cases readCodes rest <;> rfl
  · exact readCodes_plain c rest (by assumption) (by assumption) (by assumption)

theorem readCodes_quoted (text rest : List Char) :
    readCodes (text.flatMap quoteChar ++ '"' :: rest) = some (text.map Char.toNat, rest) := by
  induction text with
  | nil => rfl
  | cons c others ih =>
      rw [List.flatMap_cons, List.append_assoc, readCodes_quoteChar, ih]
      rfl

theorem readString_quoted (text : String) (rest : List Char) :
    readString (text.toList.flatMap quoteChar ++ '"' :: rest) = some (text, rest) := by
  simp only [readString, readCodes_quoted, joinSurrogates_toNat, Option.bind_eq_bind,
    Option.bind_some, String.ofList_toList]

end Strings

section Values

theorem number_start {first : Char} (kind : first = '-' ∨ first.isDigit = true) :
    first ≠ '"' ∧ first ≠ '[' ∧ first ≠ '{' ∧ first ≠ 'n' ∧ first ≠ 't' ∧ first ≠ 'f' := by
  rcases kind with rfl | digit
  · decide
  · refine ⟨?_, ?_, ?_, ?_, ?_, ?_⟩ <;> rintro rfl <;> revert digit <;> decide

theorem skipSpace_cons {first : Char} (rest : List Char)
    (visible : first ≠ ' ' ∧ first ≠ '\t' ∧ first ≠ '\n' ∧ first ≠ '\r') :
    skipSpace (first :: rest) = first :: rest := by
  simp [skipSpace, visible]

theorem print_head (value : Json) : ∃ first rest, print value = first :: rest ∧
    first ≠ ']' ∧ first ≠ ' ' ∧ first ≠ '\t' ∧ first ≠ '\n' ∧ first ≠ '\r' := by
  cases value with
  | null => exact ⟨'n', _, rfl, by decide⟩
  | bool value => cases value <;> exact ⟨_, _, rfl, by decide⟩
  | string value => exact ⟨'"', _, rfl, by decide⟩
  | array items => exact ⟨'[', _, rfl, by decide⟩
  | object fields => exact ⟨'{', _, rfl, by decide⟩
  | number value =>
      obtain ⟨first, rest, shown, kind⟩ := value.text_head
      refine ⟨first, rest, shown, ?_⟩
      rcases kind with rfl | digit
      · decide
      · refine ⟨?_, ?_, ?_, ?_, ?_⟩ <;> rintro rfl <;> revert digit <;> decide

theorem skipSpace_print (value : Json) (rest : List Char) :
    skipSpace (print value ++ rest) = print value ++ rest := by
  obtain ⟨first, others, shown, _, visible⟩ := print_head value
  rw [shown, List.cons_append, skipSpace_cons _ visible]

theorem ends_cons {next : Char} (rest : List Char)
    (apart : next.isDigit = false ∧ next ≠ '.' ∧ next ≠ 'e' ∧ next ≠ 'E') :
    Decimal.Ends (next :: rest) := by
  intro other head
  obtain rfl : next = other := by simpa using head
  exact apart

theorem printItems_head (item : Json) (rest : List Json) :
    ∃ first others, printItems (item :: rest) = first :: others ∧ first ≠ ']' ∧
      first ≠ ' ' ∧ first ≠ '\t' ∧ first ≠ '\n' ∧ first ≠ '\r' := by
  obtain ⟨first, others, shown, visible⟩ := print_head item
  cases rest with
  | nil => exact ⟨first, others, shown, visible⟩
  | cons next rest => exact ⟨first, _, by rw [printItems, shown]; rfl, visible⟩

theorem printFields_head (entry : String × Json) (rest : List (String × Json)) :
    ∃ others, printFields (entry :: rest) = '"' :: others := by
  cases rest with
  | nil => exact ⟨_, rfl⟩
  | cons next rest => exact ⟨_, rfl⟩

theorem readValue_number (fuel : Nat) {first : Char} (rest : List Char)
    (kind : first = '-' ∨ first.isDigit = true) : readValue (fuel + 1) (first :: rest) =
      (Decimal.read (first :: rest)).map fun found => (.number found.1, found.2) := by
  obtain ⟨quote, bracket, brace, n, t, f⟩ := number_start kind
  rw [readValue, if_neg quote, if_neg bracket, if_neg brace, if_neg n, if_neg t, if_neg f]

theorem readValue_array (fuel : Nat) {rest : List Char}
    (more : (skipSpace rest).head? ≠ some ']') : readValue (fuel + 1) ('[' :: rest) =
      (readItems fuel rest).map fun found => (.array found.1, found.2) := by
  rw [readValue, if_neg (by decide), if_pos rfl, if_neg more]

theorem readValue_object (fuel : Nat) {rest : List Char}
    (more : (skipSpace rest).head? ≠ some '}') : readValue (fuel + 1) ('{' :: rest) =
      (readFields fuel rest).map fun found => (.object (assign found.1), found.2) := by
  rw [readValue, if_neg (by decide), if_neg (by decide), if_pos rfl, if_neg more]

/-! Each reader with enough fuel for a text reads back what that text prints. -/

def ReadsValue (fuel : Nat) : Prop :=
  ∀ value rest, Canonical value → Decimal.Ends rest → 2 * (print value).length ≤ fuel →
    readValue fuel (print value ++ rest) = some (value, rest)

def ReadsItems (fuel : Nat) : Prop :=
  ∀ item others rest, CanonicalItems (item :: others) →
    2 * (printItems (item :: others)).length + 1 ≤ fuel →
    readItems fuel (printItems (item :: others) ++ ']' :: rest) = some (item :: others, rest)

def ReadsFields (fuel : Nat) : Prop :=
  ∀ entry others rest, CanonicalFields (entry :: others) →
    2 * (printFields (entry :: others)).length + 1 ≤ fuel →
    readFields fuel (printFields (entry :: others) ++ '}' :: rest) = some (entry :: others, rest)

theorem readsValue_succ {fuel : Nat} (readsItems : ReadsItems fuel)
    (readsFields : ReadsFields fuel) : ReadsValue (fuel + 1) := by
  intro value rest canonical ends enough
  cases value with
  | null => simp [print, readValue, readWord]
  | bool value => cases value <;> simp [print, readValue, readWord]
  | string value => simp [print, quote, readValue, readString_quoted]
  | number value =>
      obtain ⟨first, others, shown, kind⟩ := value.text_head
      have read := Decimal.read_text value ends
      rw [shown, List.cons_append] at read
      rw [print, shown, List.cons_append, readValue_number fuel _ kind, read]
      rfl
  -- An empty list is told by its bracket; any other starts with a value.
  | array items =>
      simp only [print, List.length_cons, List.length_append] at enough
      cases items with
      | nil => simp [print, printItems, readValue, skipSpace]
      | cons item others =>
          obtain ⟨first, more, shown, notEnd, visible⟩ := printItems_head item others
          have read := readsItems item others rest canonical (by omega)
          have unfinished : (skipSpace (printItems (item :: others) ++ ']' :: rest)).head? ≠
              some ']' := by
            rw [shown, List.cons_append, skipSpace_cons _ visible]
            simpa using notEnd
          rw [print, List.cons_append, List.append_assoc, List.singleton_append,
            readValue_array fuel unfinished, read]
          rfl
  | object fields =>
      simp only [print, List.length_cons, List.length_append] at enough
      cases fields with
      | nil => simp [print, printFields, readValue, skipSpace]
      | cons entry others =>
          obtain ⟨more, shown⟩ := printFields_head entry others
          have read := readsFields entry others rest canonical.2 (by omega)
          have unfinished : (skipSpace (printFields (entry :: others) ++ '}' :: rest)).head? ≠
              some '}' := by
            rw [shown, List.cons_append, skipSpace_cons _ (by decide)]
            simp
          rw [print, List.cons_append, List.append_assoc, List.singleton_append,
            readValue_object fuel unfinished, read, Option.map_some, canonical.1]

theorem readsItems_succ {fuel : Nat} (readsValue : ReadsValue fuel)
    (readsItems : ReadsItems fuel) : ReadsItems (fuel + 1) := by
  intro item others rest canonical enough
  cases others with
  | nil =>
      simp only [printItems] at enough
      have read := readsValue item (']' :: rest) canonical.1 (ends_cons _ (by decide)) (by omega)
      simp [printItems, readItems, skipSpace_print, read, skipSpace_cons]
  | cons next others =>
      simp only [printItems, List.length_append, List.length_cons] at enough
      have read := readsValue item (',' :: (printItems (next :: others) ++ ']' :: rest))
        canonical.1 (ends_cons _ (by decide)) (by omega)
      have more := readsItems next others rest canonical.2 (by omega)
      simp [printItems, readItems, skipSpace_print, read, skipSpace_cons, more]

theorem readsFields_succ {fuel : Nat} (readsValue : ReadsValue fuel)
    (readsFields : ReadsFields fuel) : ReadsFields (fuel + 1) := by
  intro entry others rest canonical enough
  obtain ⟨key, value⟩ := entry
  cases others with
  | nil =>
      simp only [printFields, quote, List.length_append, List.length_cons] at enough
      have read := readsValue value ('}' :: rest) canonical.1 (ends_cons _ (by decide)) (by omega)
      simp [printFields, quote, readFields, readString_quoted, skipSpace_print, read,
        skipSpace_cons]
  | cons next others =>
      simp only [printFields, quote, List.length_append, List.length_cons] at enough
      have read := readsValue value (',' :: (printFields (next :: others) ++ '}' :: rest))
        canonical.1 (ends_cons _ (by decide)) (by omega)
      have more := readsFields next others rest canonical.2 (by omega)
      simp [printFields, quote, readFields, readString_quoted, skipSpace_print, read,
        skipSpace_cons, more]

theorem reads_all (fuel : Nat) : ReadsValue fuel ∧ ReadsItems fuel ∧ ReadsFields fuel := by
  induction fuel with
  | zero =>
      refine ⟨?_, ?_, ?_⟩
      · intro value rest _ _ enough
        obtain ⟨first, others, shown, _⟩ := print_head value
        simp [shown] at enough
      · intro item others rest _ enough
        omega
      · intro entry others rest _ enough
        omega
  | succ fuel ih =>
      obtain ⟨readsValue, readsItems, readsFields⟩ := ih
      exact ⟨readsValue_succ readsItems readsFields, readsItems_succ readsValue readsItems,
        readsFields_succ readsValue readsFields⟩

theorem parse_stringify (value : Json) (canonical : Canonical value) :
    parse (stringify value) = some value := by
  have read := (reads_all (2 * (print value).length + 2)).1 value [] canonical
    (fun _ head => nomatch head) (by omega)
  rw [List.append_nil] at read
  have spaced := skipSpace_print value []
  rw [List.append_nil] at spaced
  simp only [parse, stringify, String.toList_ofList, spaced, read]
  rfl

theorem parseOrThrow_stringify {value : Json} (canonical : Canonical value) :
    parseOrThrow (stringify value) = .ok value := by
  rw [parseOrThrow, parse_stringify value canonical]

end Values

section Objects

/-- Distinct names of which none is an array index: an object lists them as they were added. -/
def PlainNames (names : List String) : Prop :=
  names.Nodup ∧ ∀ name ∈ names, arrayIndex name = none

instance (names : List String) : Decidable (PlainNames names) :=
  inferInstanceAs (Decidable (_ ∧ _))

theorem setField_plain {key : String} (value : Json) (fields : List (String × Json))
    (fresh : key ∉ fields.map Prod.fst) (plain : arrayIndex key = none) :
    setField key value fields = fields ++ [(key, value)] := by
  induction fields with
  | nil => rfl
  | cons entry rest ih =>
      have other : entry.1 ≠ key := fun same => fresh (by simp [same])
      have later : key ∉ rest.map Prod.fst := fun member => fresh (List.mem_cons_of_mem _ member)
      have behind : comesBefore key entry.1 = false := by simp [comesBefore, plain]
      simp [setField, other, behind, ih later]

theorem assign_plain {fields : List (String × Json)} {names : List String}
    (named : fields.map Prod.fst = names) (plain : PlainNames names) : assign fields = fields := by
  have added : ∀ earlier : List (String × Json), PlainNames ((earlier ++ fields).map Prod.fst) →
      fields.foldl (fun built entry => setField entry.1 entry.2 built) earlier =
        earlier ++ fields := by
    clear named plain
    induction fields with
    | nil => simp
    | cons entry rest ih =>
        intro earlier plain
        have fresh : entry.1 ∉ earlier.map Prod.fst := by
          have distinct := plain.1
          rw [List.map_append, List.map_cons] at distinct
          have apart := (List.nodup_append.mp distinct).2.2
          exact fun member => apart entry.1 member entry.1 List.mem_cons_self rfl
        have name := plain.2 entry.1 (by simp)
        rw [List.foldl_cons, setField_plain entry.2 earlier fresh name, ih]
        · simp
        · simpa using plain
  subst named
  exact added [] plain

theorem canonical_object {fields : List (String × Json)} (names : List String)
    (named : fields.map Prod.fst = names) (plain : PlainNames names)
    (values : CanonicalFields fields) : Canonical (.object fields) :=
  ⟨assign_plain named plain, values⟩

theorem canonical_natural (value : Nat) : Canonical (ofInt value) := by
  rw [ofInt_natCast]
  trivial

theorem canonicalItems_map {α : Type} {items : List α} {print : α → Json}
    (each : ∀ item ∈ items, Canonical (print item)) : CanonicalItems (items.map print) := by
  induction items with
  | nil => trivial
  | cons item rest ih =>
      exact ⟨each item List.mem_cons_self,
        ih fun other member => each other (List.mem_cons_of_mem _ member)⟩

/-- An object survives being printed, encoded, decoded and parsed. -/
theorem parse_transmitted {fields : List (String × Json)} (canonical : Canonical (.object fields)) :
    parseOrThrow (textDecode (utf8Encode (stringify (.object fields)))) = .ok (.object fields) := by
  have text : textDecode (utf8Encode (stringify (.object fields))) = stringify (.object fields) :=
    textDecode_encode_brace (printFields fields ++ ['}'])
  rw [text, parseOrThrow_stringify canonical]

/-- What is known to be this object as soon as it is decrypted is read as it. -/
theorem read_decrypted_iff {fields : List (String × Json)} {decrypted : Except Failure Bytes}
    {agree : Prop} (canonical : Canonical (.object fields))
    (opens : ∀ bytes, decrypted = .ok bytes ↔
      bytes = utf8Encode (stringify (.object fields)) ∧ agree) (value : Json) :
    (do let bytes ← decrypted; parseOrThrow (textDecode bytes)) = .ok value ↔
      value = .object fields ∧ agree := by
  simp only [bind_ok_iff, opens]
  constructor
  · rintro ⟨_, ⟨rfl, agrees⟩, read⟩
    rw [parse_transmitted canonical] at read
    exact ⟨(Except.ok.inj read).symm, agrees⟩
  · rintro ⟨rfl, agrees⟩
    exact ⟨_, ⟨rfl, agrees⟩, parse_transmitted canonical⟩

end Objects
end Chainmail.Json
