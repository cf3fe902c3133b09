/-!
# Characters and places of a YAML text

A `Cursor` is a place in a YAML text: what follows it, and how far it is from the start of the text,
in characters, lines, and columns of its line. A text is admitted if it holds only the characters
that YAML calls printable.
-/

namespace MakeLint.Yaml

/-- Whether YAML admits a character in a text. -/
def isAdmitted (c : Char) : Bool :=
  let n := c.toNat
  n = 0x09 ∨ n = 0x0A ∨ n = 0x0D ∨ (0x20 ≤ n ∧ n ≤ 0x7E) ∨ n = 0x85 ∨ (0xA0 ≤ n ∧ n ≤ 0xD7FF)
    ∨ (0xE000 ≤ n ∧ n ≤ 0xFFFD) ∨ 0x10000 ≤ n

/-- Space and tab. -/
def isBlank (c : Char) : Bool := c = ' ' ∨ c = '\t'

/-- The characters that end a line and are read as they stand. -/
def isKeptBreak (c : Char) : Bool := c = '\u2028' ∨ c = '\u2029'

/-- The characters that end a line. -/
def isBreak (c : Char) : Bool := c = '\n' ∨ c = '\r' ∨ c = '\u0085' ∨ isKeptBreak c

/-- The characters of names: ASCII letters and digits, underscore and hyphen. -/
def isNameChar (c : Char) : Bool := c.isAlphanum ∨ c = '_' ∨ c = '-'

/-- Whether a text starts with a blank. -/
def startsBlank : List Char → Bool
  | [] => false
  | c :: _ => isBlank c

/-- Whether a text starts with the end of a line. -/
def startsBreak : List Char → Bool
  | [] => false
  | c :: _ => isBreak c

/-- Whether a line ends where a text starts, if only with the text. -/
def startsLineEnd : List Char → Bool
  | [] => true
  | c :: _ => isBreak c

/-- Whether a word ends where a text starts. -/
def startsWordEnd : List Char → Bool
  | [] => true
  | c :: _ => isBlank c ∨ isBreak c

/-- A place in a text. -/
structure Cursor where
  /-- What follows. -/
  rest : List Char
  /-- The number of characters before. -/
  index : Nat := 0
  /-- The number of lines before. -/
  line : Nat := 0
  /-- The number of characters before on the same line. -/
  column : Nat := 0

namespace Cursor

/-- The place behind some more characters, none of which ends a line. -/
def skip (c : Cursor) (n : Nat) : Cursor :=
  { c with rest := c.rest.drop n, index := c.index + n, column := c.column + n }

/-- The place behind all characters of a kind that follow, none of which ends a line. -/
def skipWhile (c : Cursor) (p : Char → Bool) : Cursor := c.skip (c.rest.takeWhile p).length

/-- The place at which a given rest of the same line follows. -/
def skipTo (c : Cursor) (rest : List Char) : Cursor := c.skip (c.rest.length - rest.length)

/-- The end of a line that follows, as it is read, and the start of the next line. -/
def takeBreak (c : Cursor) : List Char × Cursor :=
  match c.rest with
  | '\r' :: '\n' :: rest => (['\n'], ⟨rest, c.index + 2, c.line + 1, 0⟩)
  | b :: rest =>
    if isBreak b then
      ([if isKeptBreak b then b else '\n'], ⟨rest, c.index + 1, c.line + 1, 0⟩)
    else ([], c)
  | [] => ([], c)

/-- Whether a character follows. -/
def sees (c : Cursor) (ch : Char) : Bool := c.rest.head? = some ch

/-- The place behind the blanks and the comment that may follow on the line. -/
def skipComment (c : Cursor) : Cursor :=
  let c := c.skipWhile isBlank
  if c.sees '#' then c.skipWhile (!isBreak ·) else c

/-- The place behind the end of the line, if nothing but blanks and a comment comes before. -/
def endLine? (c : Cursor) : Option Cursor :=
  let c := c.skipComment
  if startsLineEnd c.rest then some c.takeBreak.2 else none

/-- Whether the line starts with a mark of three characters that stands alone. -/
def seesMark (c : Cursor) (ch : Char) : Bool :=
  c.column = 0 ∧ c.rest.take 3 = [ch, ch, ch] ∧ startsWordEnd (c.rest.drop 3)

/-- Whether the line starts with the mark of the start or of the end of a document. -/
def seesDocumentMark (c : Cursor) : Bool := c.seesMark '-' ∨ c.seesMark '.'

end Cursor

end MakeLint.Yaml
