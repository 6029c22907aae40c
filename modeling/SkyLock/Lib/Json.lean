import Mathlib.Data.List.Sort

/-!
# JSON values and their canonical text

A JSON value and the text `json.dumps` gives it with `sort_keys=True`,
`separators=(",", ":")` and the default `ensure_ascii=True`.

## Main definitions

* `JsonValue` — the values.
* `JsonValue.escapeChar`, `JsonValue.quote` — string literals.
* `JsonValue.sortKeys`, `JsonValue.render` — key order, and the text.
-/

/-- A JSON value; an object keeps its fields in the order they were written. -/
inductive JsonValue where
  | null : JsonValue
  | bool (b : Bool) : JsonValue
  | num (n : Int) : JsonValue
  | str (s : String) : JsonValue
  | arr (items : List JsonValue) : JsonValue
  | obj (fields : List (String × JsonValue)) : JsonValue
  deriving Inhabited

namespace JsonValue

/-- An optional value, absent as `null`. -/
def ofOption {α : Type} (f : α → JsonValue) : Option α → JsonValue
  | none => .null
  | some a => f a

/-! ### String literals -/

/-- The double quote. -/
def quoteMark : Char := Char.ofNat 34

/-- The backslash. -/
def backslash : Char := Char.ofNat 92

/-- A lower-case hexadecimal digit. -/
def hexDigit (n : ℕ) : Char := if n < 10 then Char.ofNat (48 + n) else Char.ofNat (87 + n)

/-- Four hexadecimal digits. -/
def hex4 (n : ℕ) : List Char :=
  [hexDigit (n / 4096 % 16), hexDigit (n / 256 % 16), hexDigit (n / 16 % 16), hexDigit (n % 16)]

/-- A `\u` escape of a code unit. -/
def unicodeEscape (n : ℕ) : List Char := backslash :: 'u' :: hex4 n

/-- The letter of a two-character escape. -/
def shortEscape (c : Char) : Option Char :=
  if c = backslash then some backslash
  else if c = quoteMark then some quoteMark
  else if c.toNat = 8 then some 'b'
  else if c.toNat = 12 then some 'f'
  else if c.toNat = 10 then some 'n'
  else if c.toNat = 13 then some 'r'
  else if c.toNat = 9 then some 't'
  else none

/-- One character inside a string literal: a short escape, the character itself
when it is printable ASCII, or its UTF-16 code units. -/
def escapeChar (c : Char) : List Char :=
  match shortEscape c with
  | some l => [backslash, l]
  | none =>
    if 32 ≤ c.toNat ∧ c.toNat ≤ 126 then [c]
    else if c.toNat < 65536 then unicodeEscape c.toNat
    else unicodeEscape (55296 + (c.toNat - 65536) / 1024) ++
      unicodeEscape (56320 + (c.toNat - 65536) % 1024)

/-- The characters of a string literal, up to and including the closing quote. -/
def quoteRest : List Char → List Char
  | [] => [quoteMark]
  | c :: cs => escapeChar c ++ quoteRest cs

/-- A string literal. -/
def quote (s : String) : List Char := quoteMark :: quoteRest s.toList

/-! ### Values -/

mutual

/-- The text of a value. -/
def render : JsonValue → List Char
  | null => ['n', 'u', 'l', 'l']
  | bool true => ['t', 'r', 'u', 'e']
  | bool false => ['f', 'a', 'l', 's', 'e']
  | num n => (toString n).toList
  | str s => quote s
  | arr items => '[' :: renderItems items
  | obj fields => '{' :: renderFields fields

/-- The items of an array, up to and including the closing bracket. -/
def renderItems : List JsonValue → List Char
  | [] => [']']
  | [x] => render x ++ [']']
  | x :: y :: xs => render x ++ ',' :: renderItems (y :: xs)

/-- The fields of an object, up to and including the closing brace. -/
def renderFields : List (String × JsonValue) → List Char
  | [] => ['}']
  | [(k, v)] => quote k ++ ':' :: render v ++ ['}']
  | (k, v) :: f :: fs => quote k ++ ':' :: render v ++ ',' :: renderFields (f :: fs)

end

mutual

/-- The value with the keys of every object in order. -/
def sortKeys : JsonValue → JsonValue
  | null => null
  | bool b => bool b
  | num n => num n
  | str s => str s
  | arr items => arr (sortItems items)
  | obj fields => obj ((sortFields fields).insertionSort fun f g => f.1 ≤ g.1)

/-- `sortKeys` inside every item. -/
def sortItems : List JsonValue → List JsonValue
  | [] => []
  | x :: xs => sortKeys x :: sortItems xs

/-- `sortKeys` inside every field. -/
def sortFields : List (String × JsonValue) → List (String × JsonValue)
  | [] => []
  | (k, v) :: fs => (k, sortKeys v) :: sortFields fs

end

/-- `json.dumps(value, sort_keys=True, separators=(",", ":"))`. -/
def dumps (v : JsonValue) : String := String.ofList (render (sortKeys v))

end JsonValue
