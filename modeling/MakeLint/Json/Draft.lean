import MakeLint.Json.Number
import MakeLint.Text.Digit

/-!
# JSON texts as far as they can be read

A `Draft` is what a JSON text holds from its start to its end or to its first fault. A fault shows
as `broken` in the place of a value, or as a list or object that is not closed; nothing stands
behind it. So a reader that goes through a draft from the front meets a fault of shape before a
later fault of syntax.
-/

namespace MakeLint.Json

/-- What a JSON text holds, up to its first fault. -/
inductive Draft where
  /-- The text stops being JSON where a value should stand. -/
  | broken
  | null
  | boolean (value : Bool)
  | number (literal : Literal)
  /-- A text; none if one of its surrogate escapes has no partner. -/
  | text (value : Option String)
  | list (items : List Draft) (closed : Bool)
  | object (members : List (Option String × Draft)) (closed : Bool)

namespace Draft

/-- The blanks of JSON. -/
def isBlank (c : Char) : Bool := c = ' ' ∨ c = '\t' ∨ c = '\n' ∨ c = '\r'

/-- The text from its first character that is not blank. -/
def skipBlanks (s : List Char) : List Char := s.dropWhile isBlank

/-- One unit of a quoted text: a character, or one half of a pair that stands for a character. -/
inductive Piece where
  | char (c : Char)
  | half (code : Nat)

/-- The unit that four hexadecimal digits name. -/
def Piece.ofCode (code : Nat) : Piece :=
  if 0xD800 ≤ code ∧ code < 0xE000 then .half code else .char (Char.ofNat code)

/-- The character that a letter behind a backslash stands for. -/
def escaped? : Char → Option Char
  | '"' => some '"'
  | '\\' => some '\\'
  | '/' => some '/'
  | 'b' => some '\x08'
  | 'f' => some '\x0c'
  | 'n' => some '\n'
  | 'r' => some '\r'
  | 't' => some '\t'
  | _ => none

/-- The units of a quoted text up to its closing quote, and what follows the quote. -/
def pieces : List Char → Option (List Piece × List Char)
  | [] => none
  | '"' :: rest => some ([], rest)
  | '\\' :: 'u' :: a :: b :: c :: d :: rest => do
    let code ← Text.numeral? 16 [a, b, c, d]
    let (units, rest) ← pieces rest
    some (.ofCode code :: units, rest)
  | '\\' :: letter :: rest => do
    let c ← escaped? letter
    let (units, rest) ← pieces rest
    some (.char c :: units, rest)
  | c :: rest => do
    if c.toNat < 0x20 ∨ c = '\\' then none
    let (units, rest) ← pieces rest
    some (.char c :: units, rest)

/-- The characters of the units: two halves in the right order stand for one character, and a half
alone for none. -/
def joinHalves : List Piece → Option (List Char)
  | [] => some []
  | .char c :: rest => (joinHalves rest).map (c :: ·)
  | .half high :: .half low :: rest =>
    if high < 0xDC00 ∧ 0xDC00 ≤ low then
      (joinHalves rest).map
        (Char.ofNat (0x10000 + (high - 0xD800) * 0x400 + (low - 0xDC00)) :: ·)
    else none
  | .half _ :: _ => none

/-- A quoted text behind its opening quote, and what follows its closing quote. -/
def quoted? (s : List Char) : Option (Option String × List Char) :=
  (pieces s).map fun (units, rest) => ((joinHalves units).map String.ofList, rest)

/-- The values of the digits at the start of a text, and what follows them. -/
def digits (s : List Char) : List Nat × List Char :=
  ((s.takeWhile Char.isDigit).map fun c => c.toNat - '0'.toNat, s.dropWhile Char.isDigit)

/-- The digits of a whole number, and what follows them: a zero stands alone. -/
def whole? (s : List Char) : Option (List Nat × List Char) :=
  match digits s with
  | ([], _) => none
  | (0 :: _ :: _, _) => none
  | found => some found

/-- The digits behind a point, if there is one; at least one digit has to follow. -/
def fraction? (s : List Char) : Option (Option (List Nat) × List Char) :=
  match s with
  | '.' :: rest =>
    match digits rest with
    | ([], _) => none
    | (found, rest) => some (some found, rest)
  | _ => some (none, s)

/-- The sign of an exponent, and what follows it. -/
def exponentSign : List Char → Bool × List Char
  | '+' :: rest => (false, rest)
  | '-' :: rest => (true, rest)
  | rest => (false, rest)

/-- The exponent, if there is one; at least one digit has to follow. -/
def exponent? (s : List Char) : Option (Option (Bool × List Nat) × List Char) :=
  match s with
  | 'e' :: rest | 'E' :: rest =>
    let (negative, rest) := exponentSign rest
    match digits rest with
    | ([], _) => none
    | (found, rest) => some (some (negative, found), rest)
  | _ => some (none, s)

/-- A number literal without its sign, and what follows it. -/
def unsigned? (negative : Bool) (s : List Char) : Option (Literal × List Char) := do
  let (whole, rest) ← whole? s
  let (fraction, rest) ← fraction? rest
  let (exponent, rest) ← exponent? rest
  some (⟨negative, whole, fraction, exponent⟩, rest)

/-- A number literal, and what follows it. -/
def literal? (s : List Char) : Option (Literal × List Char) :=
  match s with
  | '-' :: rest => unsigned? true rest
  | _ => unsigned? false s

/-- A value without parts, and what follows it. Behind a fault there is nothing. -/
def simple (s : List Char) : Draft × List Char :=
  match s with
  | 'n' :: 'u' :: 'l' :: 'l' :: rest => (.null, rest)
  | 't' :: 'r' :: 'u' :: 'e' :: rest => (.boolean true, rest)
  | 'f' :: 'a' :: 'l' :: 's' :: 'e' :: rest => (.boolean false, rest)
  | '"' :: rest =>
    match quoted? rest with
    | some (value, rest) => (.text value, rest)
    | none => (.broken, [])
  | _ =>
    match literal? s with
    | some (literal, rest) => (.number literal, rest)
    | none => (.broken, [])

/-- What stands between two parts of a list or object. -/
inductive Step where
  /-- The closing bracket, and what follows it. -/
  | close (rest : List Char)
  /-- The start of the next part. -/
  | next (rest : List Char)
  | fault

/-- The way from one part to the next: a comma, which the closing bracket must not follow, or the
closing bracket itself; before the first part there is no comma. -/
def Step.of (bracket : Char) (first : Bool) (s : List Char) : Step :=
  match skipBlanks s with
  | [] => .fault
  | c :: rest =>
    if c = bracket then .close rest
    else if first then .next (c :: rest)
    else if c = ',' then
      match skipBlanks rest with
      | [] => .fault
      | d :: rest => if d = bracket then .fault else .next (d :: rest)
    else .fault

/-- A key, and what follows it. -/
def key? : List Char → Option (Option String × List Char)
  | '"' :: rest => quoted? rest
  | _ => none

/-- What follows a colon. -/
def afterColon? (s : List Char) : Option (List Char) :=
  match skipBlanks s with
  | ':' :: rest => some rest
  | _ => none

mutual

/-- The value at the start of a text, and what follows it. The fuel bounds the number of parts. -/
def value : Nat → List Char → Draft × List Char
  | 0, _ => (.broken, [])
  | fuel + 1, s =>
    match skipBlanks s with
    | '[' :: rest =>
      let (items, closed, rest) := items fuel true rest
      (.list items closed, rest)
    | '{' :: rest =>
      let (members, closed, rest) := members fuel true rest
      (.object members closed, rest)
    | s => simple s

/-- The items of a list from one of them on, whether its bracket closes, and what follows. -/
def items : Nat → Bool → List Char → List Draft × Bool × List Char
  | 0, _, _ => ([], false, [])
  | fuel + 1, first, s =>
    match Step.of ']' first s with
    | .close rest => ([], true, rest)
    | .fault => ([], false, [])
    | .next rest =>
      let (item, rest) := value fuel rest
      let (others, closed, rest) := items fuel false rest
      (item :: others, closed, rest)

/-- The members of an object from one of them on, whether its bracket closes, and what follows. A
key without a colon has a broken value. -/
def members : Nat → Bool → List Char → List (Option String × Draft) × Bool × List Char
  | 0, _, _ => ([], false, [])
  | fuel + 1, first, s =>
    match Step.of '}' first s with
    | .close rest => ([], true, rest)
    | .fault => ([], false, [])
    | .next rest =>
      match key? rest with
      | none => ([], false, [])
      | some (key, rest) =>
        match afterColon? rest with
        | none => ([(key, .broken)], false, [])
        | some rest =>
          let (item, rest) := value fuel rest
          let (others, closed, rest) := members fuel false rest
          ((key, item) :: others, closed, rest)

end

/-- What a text holds, and whether nothing but blanks follows. Each part takes at least one
character, and at most two calls. -/
def ofText (text : String) : Draft × Bool :=
  let (draft, rest) := value (2 * text.length + 2) text.toList
  (draft, (skipBlanks rest).isEmpty)

mutual

/-- Whether a text holds a whole value, with no fault in it. -/
def whole : Draft → Bool
  | .broken => false
  | .list items closed => wholeItems items && closed
  | .object members closed => wholeMembers members && closed
  | _ => true

/-- Whether all items are whole. -/
def wholeItems : List Draft → Bool
  | [] => true
  | item :: rest => whole item && wholeItems rest

/-- Whether the values of all members are whole. -/
def wholeMembers : List (Option String × Draft) → Bool
  | [] => true
  | (_, item) :: rest => whole item && wholeMembers rest

end

end Draft

end MakeLint.Json
