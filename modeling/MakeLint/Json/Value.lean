import MakeLint.Table
import MakeLint.Text.Digit

/-!
# JSON values and their texts

`Json` holds the values that this library writes: integers, texts, lists and objects, the members
of an object in the order in which they are written. `Json.compact` writes a value without blanks,
and `Json.pretty` with two blanks of indentation for each level of nesting.
-/

namespace MakeLint

/-- A JSON value as it is written. -/
inductive Json where
  | number (n : Int)
  | text (s : String)
  | list (items : List Json)
  | object (members : List (String × Json))

namespace Json

/-- The letter that stands behind a backslash for a character with a short escape. -/
def shortEscape? : Char → Option Char
  | '"' => some '"'
  | '\\' => some '\\'
  | '\x08' => some 'b'
  | '\t' => some 't'
  | '\n' => some 'n'
  | '\x0c' => some 'f'
  | '\r' => some 'r'
  | _ => none

/-- A character within a quoted text: quotes, backslashes and control characters are escaped, all
others stand for themselves. -/
def escape (c : Char) : List Char :=
  match shortEscape? c with
  | some letter => ['\\', letter]
  | none =>
    if c.toNat < 0x20 then
      ['\\', 'u', '0', '0', Nat.digitChar (c.toNat / 16), Nat.digitChar (c.toNat % 16)]
    else [c]

/-- A text between quotes. -/
def quote (s : String) : List Char := '"' :: s.toList.flatMap escape ++ ['"']

mutual

/-- The text of a value without blanks. -/
def compactChars : Json → List Char
  | .number n => Text.decimalInt n
  | .text s => quote s
  | .list items => '[' :: compactItems items ++ [']']
  | .object members => '{' :: compactMembers members ++ ['}']

/-- Items with commas between them. -/
def compactItems : List Json → List Char
  | [] => []
  | [item] => compactChars item
  | item :: next :: rest => compactChars item ++ ',' :: compactItems (next :: rest)

/-- Members with commas between them. -/
def compactMembers : List (String × Json) → List Char
  | [] => []
  | [(key, value)] => quote key ++ ':' :: compactChars value
  | (key, value) :: next :: rest =>
    quote key ++ ':' :: compactChars value ++ ',' :: compactMembers (next :: rest)

end

/-- The start of a line at a level of nesting. -/
def newLine (level : Nat) : List Char := '\n' :: List.replicate (2 * level) ' '

mutual

/-- The text of a value at a level of nesting: each item and each member on a line of its own, one
level deeper, and nothing between the brackets of an empty list or object. -/
def prettyChars (level : Nat) : Json → List Char
  | .number n => Text.decimalInt n
  | .text s => quote s
  | .list items =>
    if items.isEmpty then ['[', ']']
    else '[' :: prettyItems (level + 1) items ++ newLine level ++ [']']
  | .object members =>
    if members.isEmpty then ['{', '}']
    else '{' :: prettyMembers (level + 1) members ++ newLine level ++ ['}']

/-- Items with commas between them, each on a line of its own. -/
def prettyItems (level : Nat) : List Json → List Char
  | [] => []
  | [item] => newLine level ++ prettyChars level item
  | item :: next :: rest =>
    newLine level ++ prettyChars level item ++ ',' :: prettyItems level (next :: rest)

/-- Members with commas between them, each on a line of its own. -/
def prettyMembers (level : Nat) : List (String × Json) → List Char
  | [] => []
  | [(key, value)] => newLine level ++ quote key ++ ':' :: ' ' :: prettyChars level value
  | (key, value) :: next :: rest =>
    newLine level ++ quote key ++ ':' :: ' ' :: prettyChars level value
      ++ ',' :: prettyMembers level (next :: rest)

end

/-- The text of a value without blanks. -/
def compact (v : Json) : String := String.ofList v.compactChars

/-- The text of a value on lines of their own for items and members. -/
def pretty (v : Json) : String := String.ofList (v.prettyChars 0)

/-- An object with the entries of a table as members. -/
def ofTable {α : Type} (value : α → Json) (t : Table α) : Json :=
  .object (t.toList.map fun e => (e.1, value e.2))

end Json

end MakeLint
