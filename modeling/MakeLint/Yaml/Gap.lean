import MakeLint.Yaml.Cursor

/-!
# Gaps between the words of a scalar

Within a scalar that may go over several lines the blanks and line ends between two words are a gap.
Blanks on one line are kept. A single line end is read as a space, of several the first is dropped;
blanks around line ends do not count.
-/

namespace MakeLint.Yaml

/-- What stands between two words. -/
inductive Gap where
  /-- Blanks on one line. -/
  | blanks (run : List Char)
  /-- The first line end, empty if it does not count, and the others. -/
  | lines (first more : List Char)

namespace Gap

/-- No gap. -/
def none : Gap := .blanks []

/-- Whether the gap goes over the end of a line. -/
def isLines : Gap → Bool
  | blanks _ => false
  | lines _ _ => true

/-- What the gap is read as. -/
def text : Gap → List Char
  | blanks run => run
  | lines first more =>
    if first = ['\n'] then (if more.isEmpty then [' '] else more) else first ++ more

/-- The gap with a blank more. -/
def addBlank (g : Gap) (b : Char) : Gap :=
  match g with
  | blanks run => blanks (run ++ [b])
  | lines first more => lines first more

/-- The gap with a line end more. -/
def addBreak (g : Gap) (b : List Char) : Gap :=
  match g with
  | blanks _ => lines b []
  | lines first more => lines first (more ++ b)

/-- Goes on with a gap to the next word. A tab that stands left of the column `indent` at the start
of a line is a fault. The fuel bounds the number of characters. -/
def scan (indent : Int) : Nat → Gap → Cursor → Option (Gap × Cursor)
  | 0, g, c => some (g, c)
  | fuel + 1, g, c =>
    match c.rest with
    | [] => some (g, c)
    | b :: _ =>
      if isBlank b then
        if g.isLines ∧ c.column < indent ∧ b = '\t' then Option.none
        else scan indent fuel (g.addBlank b) (c.skip 1)
      else if isBreak b then scan indent fuel (g.addBreak c.takeBreak.1) c.takeBreak.2
      else some (g, c)

/-- The gap to the next word, starting from a gap. -/
def toWord (indent : Int) (g : Gap) (c : Cursor) : Option (Gap × Cursor) :=
  scan indent c.rest.length g c

end Gap

end MakeLint.Yaml
