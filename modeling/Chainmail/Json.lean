import Chainmail.Decimal
import Chainmail.Utf8

/-!
JSON values and texts: `JSON.stringify` and `JSON.parse`. A field that is absent
(`undefined`) is `none` where it is read and is left out where it is printed. A
lone surrogate, which a JavaScript string can hold and this one cannot, becomes
the replacement character.
-/

namespace Chainmail

inductive Json where
  | null
  | bool (value : Bool)
  | number (value : Decimal)
  | string (value : String)
  | array (items : List Json)
  | object (fields : List (String × Json))

namespace Json

section Objects

/-- The number a property name is sorted by, if it is an array index. -/
def arrayIndex (key : String) : Option Nat :=
  let digits := key.toList
  let index := Nat.ofDigitChars 10 digits 0
  if digits ≠ [] ∧ digits.all Char.isDigit ∧ (digits.length = 1 ∨ digits.head? ≠ some '0') ∧
      index < 2 ^ 32 - 1 then some index
  else none

/-- Array indices come first, in ascending order, the other names as they were added. -/
def comesBefore (key other : String) : Bool :=
  match arrayIndex key, arrayIndex other with
  | some i, some j => i < j
  | some _, none => true
  | none, _ => false

def setField (key : String) (value : Json) : List (String × Json) → List (String × Json)
  | [] => [(key, value)]
  | (other, old) :: rest =>
      if other = key then (key, value) :: rest
      else if comesBefore key other then (key, value) :: (other, old) :: rest
      else (other, old) :: setField key value rest

/-- The fields of the object that these assignments build, in the order it lists them. -/
def assign (assignments : List (String × Json)) : List (String × Json) :=
  assignments.foldl (fun fields entry => setField entry.1 entry.2 fields) []

def lookup (key : String) : List (String × Json) → Option Json
  | [] => none
  | (other, value) :: rest => if other = key then some value else lookup key rest

/-- The object literal with these properties, those that are `undefined` left out. -/
def ofFields (fields : List (String × Option Json)) : Json :=
  .object (fields.filterMap fun entry => entry.2.map fun value => (entry.1, value))

/-- A property of a value that is not `null`; only objects have properties of their own here. -/
def field (key : String) : Json → Option Json
  | .object fields => lookup key fields
  | _ => none

/-- `delete` of one property. -/
def without (key : String) (fields : List (String × Json)) : List (String × Json) :=
  fields.filter fun entry => entry.1 ≠ key

end Objects

section Print

def hexDigits (code : Nat) : List Char :=
  [Nat.digitChar (code / 16), Nat.digitChar (code % 16)]

def quoteChar (c : Char) : List Char :=
  if c = '"' then ['\\', '"']
  else if c = '\\' then ['\\', '\\']
  else if c = '\n' then ['\\', 'n']
  else if c = '\r' then ['\\', 'r']
  else if c = '\t' then ['\\', 't']
  else if c = '\x08' then ['\\', 'b']
  else if c = '\x0c' then ['\\', 'f']
  else if c.toNat < 32 then ['\\', 'u', '0', '0'] ++ hexDigits c.toNat
  else [c]

def quote (text : String) : List Char := '"' :: (text.toList.flatMap quoteChar ++ ['"'])

mutual

def print : Json → List Char
  | .null => ['n', 'u', 'l', 'l']
  | .bool true => ['t', 'r', 'u', 'e']
  | .bool false => ['f', 'a', 'l', 's', 'e']
  | .number value => value.text
  | .string value => quote value
  | .array items => '[' :: (printItems items ++ [']'])
  | .object fields => '{' :: (printFields fields ++ ['}'])

def printItems : List Json → List Char
  | [] => []
  | [item] => print item
  | item :: next :: rest => print item ++ ',' :: printItems (next :: rest)

def printFields : List (String × Json) → List Char
  | [] => []
  | [(key, value)] => quote key ++ ':' :: print value
  | (key, value) :: next :: rest =>
      quote key ++ ':' :: (print value ++ ',' :: printFields (next :: rest))

end

def stringify (value : Json) : String := String.ofList (print value)

end Print

section Read

def skipSpace (text : List Char) : List Char :=
  text.dropWhile fun c => c = ' ' ∨ c = '\t' ∨ c = '\n' ∨ c = '\r'

def hexValue (c : Char) : Option Nat :=
  if '0' ≤ c ∧ c ≤ '9' then some (c.toNat - '0'.toNat)
  else if 'a' ≤ c ∧ c ≤ 'f' then some (c.toNat - 'a'.toNat + 10)
  else if 'A' ≤ c ∧ c ≤ 'F' then some (c.toNat - 'A'.toNat + 10)
  else none

def unescape (c : Char) : Option Char :=
  if c = '"' ∨ c = '\\' ∨ c = '/' then some c
  else if c = 'n' then some '\n'
  else if c = 'r' then some '\r'
  else if c = 't' then some '\t'
  else if c = 'b' then some '\x08'
  else if c = 'f' then some '\x0c'
  else none

/-- The code points and escaped code units of a string, up to its closing quote. -/
def readCodes : List Char → Option (List Nat × List Char)
  | [] => none
  | '"' :: rest => some ([], rest)
  | '\\' :: 'u' :: a :: b :: c :: d :: rest => do
      let code := (← hexValue a) * 4096 + (← hexValue b) * 256 + (← hexValue c) * 16 + (← hexValue d)
      let (codes, rest) ← readCodes rest
      some (code :: codes, rest)
  | '\\' :: escaped :: rest => do
      let char ← unescape escaped
      let (codes, rest) ← readCodes rest
      some (char.toNat :: codes, rest)
  | c :: rest =>
      if c.toNat < 32 ∨ c = '\\' then none
      else do
        let (codes, rest) ← readCodes rest
        some (c.toNat :: codes, rest)

def isHighSurrogate (code : Nat) : Bool := 0xD800 ≤ code ∧ code ≤ 0xDBFF

def isLowSurrogate (code : Nat) : Bool := 0xDC00 ≤ code ∧ code ≤ 0xDFFF

def joinSurrogates : List Nat → List Char
  | [] => []
  | [code] =>
      [if isHighSurrogate code ∨ isLowSurrogate code then replacementCharacter else Char.ofNat code]
  | code :: next :: rest =>
      if isHighSurrogate code ∧ isLowSurrogate next then
        Char.ofNat (0x10000 + (code - 0xD800) * 1024 + (next - 0xDC00)) :: joinSurrogates rest
      else if isHighSurrogate code ∨ isLowSurrogate code then
        replacementCharacter :: joinSurrogates (next :: rest)
      else Char.ofNat code :: joinSurrogates (next :: rest)

def readString (text : List Char) : Option (String × List Char) := do
  let (codes, rest) ← readCodes text
  some (String.ofList (joinSurrogates codes), rest)

def readWord (word : List Char) (value : Json) (text : List Char) : Option (Json × List Char) :=
  if word.isPrefixOf text then some (value, text.drop word.length) else none

mutual

def readValue : Nat → List Char → Option (Json × List Char)
  | 0, _ => none
  | _ + 1, [] => none
  | fuel + 1, first :: rest =>
      if first = '"' then (readString rest).map fun found => (.string found.1, found.2)
      else if first = '[' then
        if (skipSpace rest).head? = some ']' then some (.array [], (skipSpace rest).tail)
        else (readItems fuel rest).map fun found => (.array found.1, found.2)
      else if first = '{' then
        if (skipSpace rest).head? = some '}' then some (.object [], (skipSpace rest).tail)
        else (readFields fuel rest).map fun found => (.object (assign found.1), found.2)
      else if first = 'n' then readWord ['u', 'l', 'l'] .null rest
      else if first = 't' then readWord ['r', 'u', 'e'] (.bool true) rest
      else if first = 'f' then readWord ['a', 'l', 's', 'e'] (.bool false) rest
      else (Decimal.read (first :: rest)).map fun found => (.number found.1, found.2)

def readItems : Nat → List Char → Option (List Json × List Char)
  | 0, _ => none
  | fuel + 1, text => do
      let (item, rest) ← readValue fuel (skipSpace text)
      match skipSpace rest with
      | ',' :: rest => do
          let (items, rest) ← readItems fuel rest
          some (item :: items, rest)
      | ']' :: rest => some ([item], rest)
      | _ => none

def readFields : Nat → List Char → Option (List (String × Json) × List Char)
  | 0, _ => none
  | fuel + 1, text =>
      match skipSpace text with
      | '"' :: rest => do
          let (key, rest) ← readString rest
          match skipSpace rest with
          | ':' :: rest => do
              let (value, rest) ← readValue fuel (skipSpace rest)
              match skipSpace rest with
              | ',' :: rest => do
                  let (fields, rest) ← readFields fuel rest
                  some ((key, value) :: fields, rest)
              | '}' :: rest => some ([(key, value)], rest)
              | _ => none
          | _ => none
      | _ => none

end

-- Two steps of fuel pay for one character, so a text is never refused for want of fuel.
def parse (text : String) : Option Json :=
  match readValue (2 * text.toList.length + 2) (skipSpace text.toList) with
  | some (value, rest) => if skipSpace rest = [] then some value else none
  | none => none

end Read
end Json
end Chainmail
