import MakeLint.Text.Digit
import MakeLint.Yaml.Cursor
import MakeLint.Yaml.Token

/-!
# Anchors, tags and directives

The names and tags in front of a node, and the lines in front of a document. A tag is a sequence of
bytes, since a percent sign with two hexadecimal digits stands for any byte of an encoded character.
A zero byte ends the part of the tag that it stands in.
-/

namespace MakeLint.Yaml.Property

/-- The name of an anchor or alias behind its indicator, and the place behind it. -/
def name? (c : Cursor) : Option (List Char × Cursor) :=
  let name := (c.skip 1).rest.takeWhile isNameChar
  let c := c.skip (1 + name.length)
  let ends := startsWordEnd c.rest
    ∨ c.rest.head?.any (· ∈ ['?', ':', ',', ']', '}', '%', '@', '\x60'])
  if name.isEmpty ∨ ¬ends then none else some (name, c)

/-- The characters of a tag that stand for themselves; some only where the tag has a clear end. -/
def isTagChar (delimited : Bool) (c : Char) : Bool :=
  isNameChar c
    ∨ c ∈ [';', '/', '?', ':', '@', '&', '=', '+', '$', '.', '!', '~', '*', '\'', '(', ')']
    ∨ (delimited ∧ c ∈ [',', '[', ']'])

/-- The number of bytes of an encoded character, by its first byte. -/
def encodedLength? (first : Nat) : Option Nat :=
  if first < 0x80 then some 1
  else if 0xC0 ≤ first ∧ first < 0xE0 then some 2
  else if 0xE0 ≤ first ∧ first < 0xF0 then some 3
  else if 0xF0 ≤ first ∧ first < 0xF8 then some 4
  else none

/-- The bytes of the tag at the start of a text, and what follows; `due` bytes are still to come of
an encoded character that was begun. -/
def tagBytes? (delimited : Bool) : Nat → List Char → Option (List UInt8 × List Char)
  | due, '%' :: a :: b :: rest => do
    let byte ← Text.numeral? 16 [a, b]
    let due ← match due with
      | 0 => (encodedLength? byte).map (· - 1)
      | due + 1 => if 0x80 ≤ byte ∧ byte < 0xC0 then some due else none
    let (bytes, rest) ← tagBytes? delimited due rest
    some (UInt8.ofNat byte :: bytes, rest)
  | 0, c :: rest =>
    if isTagChar delimited c then do
      let (bytes, rest) ← tagBytes? delimited 0 rest
      some (UInt8.ofNat c.toNat :: bytes, rest)
    else if c = '%' then none
    else some ([], c :: rest)
  | 0, [] => some ([], [])
  | _ + 1, _ => none

/-- The bytes before the first zero. -/
def untilZero (bytes : List UInt8) : List UInt8 := bytes.takeWhile (· ≠ 0)

/-- The rest of a tag, which must not be empty, and the place behind it. -/
def tagRest? (delimited : Bool) (c : Cursor) : Option (List UInt8 × Cursor) := do
  let (bytes, rest) ← tagBytes? delimited 0 c.rest
  if bytes.isEmpty then none else some (untilZero bytes, c.skipTo rest)

/-- A tag handle, an exclamation mark or two with a name between them, and the place behind it;
without the second mark, what there is of it. -/
def handle (c : Cursor) : List Char × Cursor :=
  let name := (c.skip 1).rest.takeWhile isNameChar
  let c := c.skip (1 + name.length)
  if c.sees '!' then ('!' :: name ++ ['!'], c.skip 1) else ('!' :: name, c)

/-- Whether the text of a handle is one with two marks. -/
def isNamedHandle (h : List Char) : Bool := 2 ≤ h.length ∧ h.getLast? = some '!'

/-- The tag at a place, and the place behind it: written out between angle brackets, or a handle
with the rest of the tag. A mark that stands alone is a tag of its own. -/
def tag? (inFlow : Bool) (c : Cursor) : Option (Token × Cursor) := do
  let (token, c) ←
    if (c.skip 1).sees '<' then do
      let (bytes, c) ← tagRest? true (c.skip 2)
      if c.sees '>' then some (Token.tag [] bytes, c.skip 1) else none
    else
      let (h, afterHandle) := handle c
      if isNamedHandle h then do
        let (bytes, c) ← tagRest? false afterHandle
        some (.tag h bytes, c)
      else do
        let (bytes, rest) ← tagBytes? false 0 (c.skip 1).rest
        let bytes := untilZero bytes
        let c := c.skipTo rest
        some (if bytes.isEmpty then .tag [] [33] else .tag ['!'] bytes, c)
  if startsWordEnd c.rest ∨ (inFlow ∧ c.sees ',') then some (token, c) else none

/-- A number of at most nine digits, and the place behind it. -/
def number? (c : Cursor) : Option (Nat × Cursor) :=
  let digits := c.rest.takeWhile Char.isDigit
  if 9 < digits.length then none
  else (Text.numeral? 10 digits).map fun n => (n, c.skip digits.length)

/-- The two parts of a version, and the place behind them. -/
def version? (c : Cursor) : Option (Token × Cursor) := do
  let (major, c) ← number? (c.skipWhile isBlank)
  if ¬c.sees '.' then none
  let (minor, c) ← number? (c.skip 1)
  some (.version major minor, c)

/-- A tag handle with its meaning, and the place behind them. -/
def tagHandle? (c : Cursor) : Option (Token × Cursor) := do
  let c := c.skipWhile isBlank
  if ¬c.sees '!' then none
  let (h, c) := handle c
  if ¬(h = ['!'] ∨ isNamedHandle h) ∨ ¬startsBlank c.rest then none
  let (meaning, c) ← tagRest? true (c.skipWhile isBlank)
  if startsWordEnd c.rest then some (.tagHandle h meaning, c) else none

/-- The directive at a place, and the start of the next line. -/
def directive? (c : Cursor) : Option (Token × Cursor) := do
  let name := (c.skip 1).rest.takeWhile isNameChar
  let c := c.skip (1 + name.length)
  if ¬startsWordEnd c.rest then none
  let (token, c) ←
    if name = ['Y', 'A', 'M', 'L'] then version? c
    else if name = ['T', 'A', 'G'] then tagHandle? c
    else none
  let c ← c.endLine?
  some (token, c)

end MakeLint.Yaml.Property
