import MakeLint.Yaml.Cursor

/-!
# Block scalars

A block scalar holds the indented lines below its header. The header says how line ends are read,
kept or folded, what becomes of the line ends at the end, and how far the lines are indented, unless
the first of them shows it.
-/

namespace MakeLint.Yaml.BlockText

/-- What becomes of the line ends at the end. -/
inductive Chomping where
  /-- They are dropped. -/
  | strip
  /-- One is kept. -/
  | clip
  /-- All are kept. -/
  | keep
  deriving DecidableEq

/-- What a header says. -/
structure Header where
  chomping : Chomping := .clip
  /-- How much further than the parent the lines are indented; zero if it is not said. -/
  increment : Nat := 0

/-- The indicator of chomping at a place, if there is one, and the place behind it. -/
def takeChomping (h : Header) (c : Cursor) : Header × Cursor :=
  if c.sees '+' then ({ h with chomping := .keep }, c.skip 1)
  else if c.sees '-' then ({ h with chomping := .strip }, c.skip 1)
  else (h, c)

/-- The indicator of indentation at a place, if there is one, and the place behind it; zero is a
fault. -/
def takeIncrement (h : Header) (c : Cursor) : Option (Header × Cursor) :=
  match c.rest with
  | d :: _ =>
    if d = '0' then none
    else if d.isDigit then some ({ h with increment := d.toNat - '0'.toNat }, c.skip 1)
    else some (h, c)
  | [] => some (h, c)

/-- The header behind the indicator of a block scalar, its two parts in either order, and the start
of the next line. -/
def header? (c : Cursor) : Option (Header × Cursor) := do
  let (h, afterChomping) := takeChomping {} c
  let (h, c) ← takeIncrement h afterChomping
  let (h, c) := if afterChomping.index = c.index ∨ h.chomping ≠ .clip then (h, c)
    else takeChomping h c
  let c ← c.endLine?
  some (h, c)

/-- The empty lines at a place. -/
structure Margin where
  /-- Their line ends. -/
  breaks : List Char
  /-- The greatest number of spaces before a line end or the first character of the next line. -/
  widest : Nat
  /-- The place behind the indentation of the next line. -/
  cursor : Cursor

/-- Goes on over empty lines, with spaces up to the column `indent`, if it is known. A tab in the
place of such a space is a fault. The fuel bounds the number of lines. -/
def scanMargin (indent : Option Nat) : Nat → Margin → Option Margin
  | 0, m => some m
  | fuel + 1, m =>
    let spaces := (m.cursor.rest.takeWhile (· = ' ')).length
    let c := m.cursor.skip (match indent with
      | some n => min spaces (n - m.cursor.column)
      | none => spaces)
    let widest := max m.widest c.column
    if indent.all (c.column < ·) ∧ c.sees '\t' then none
    else if startsBreak c.rest then
      let (b, c) := c.takeBreak
      scanMargin indent fuel ⟨m.breaks ++ b, widest, c⟩
    else some ⟨m.breaks, widest, c⟩

/-- The empty lines at a place. -/
def margin? (indent : Option Nat) (c : Cursor) : Option Margin :=
  scanMargin indent (c.rest.length + 1) ⟨[], 0, c⟩

/-- The lines read so far. -/
structure Lines where
  text : List Char
  /-- The line end behind the last line. -/
  last : List Char
  /-- The line ends of the empty lines behind it. -/
  empty : List Char
  /-- Whether the last line starts with a blank. -/
  indented : Bool

/-- The text to which the next line is added: the line end before it is folded away unless one of
the two lines starts with a blank. -/
def Lines.join (literal : Bool) (l : Lines) (indented : Bool) : List Char :=
  if ¬literal ∧ l.last = ['\n'] ∧ ¬l.indented ∧ ¬indented then
    l.text ++ (if l.empty.isEmpty then [' '] else []) ++ l.empty
  else l.text ++ l.last ++ l.empty

/-- Goes on over the lines that are indented to a column. The fuel bounds their number. -/
def scanLines (literal : Bool) (indent : Nat) : Nat → Lines → Cursor → Option (Lines × Cursor)
  | 0, l, c => some (l, c)
  | fuel + 1, l, c =>
    if c.column ≠ indent ∨ c.rest.isEmpty then some (l, c)
    else do
      let indented := startsBlank c.rest
      let line := c.rest.takeWhile (!isBreak ·)
      let (last, c) := (c.skip line.length).takeBreak
      let m ← margin? (some indent) c
      scanLines literal indent fuel ⟨l.join literal indented ++ line, last, m.breaks, indented⟩
        m.cursor

/-- The text of the lines under a rule of chomping. -/
def Lines.chomp (l : Lines) : Chomping → List Char
  | .strip => l.text
  | .clip => l.text ++ l.last
  | .keep => l.text ++ l.last ++ l.empty

/-- The text of the block scalar at a place, inside a node that is indented to a column (none is
`-1`), and the place behind it. -/
def ofCursor (literal : Bool) (parent : Int) (c : Cursor) : Option (List Char × Cursor) := do
  let (h, c) ← header? (c.skip 1)
  let said := if h.increment = 0 then none else some (parent.toNat + h.increment)
  let m ← margin? said c
  let indent := said.getD (max m.widest (max (parent + 1).toNat 1))
  let (l, c) ← scanLines literal indent (m.cursor.rest.length + 1)
    ⟨[], [], m.breaks, false⟩ m.cursor
  some (l.chomp h.chomping, c)

end MakeLint.Yaml.BlockText
