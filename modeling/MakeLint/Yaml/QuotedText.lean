import MakeLint.Text.Digit
import MakeLint.Yaml.Gap

/-!
# Quoted scalars

Between single quotes only the quote itself is special: it is written twice. Between double quotes a
backslash opens an escape, and one at the end of a line joins the line to the next one. Line ends
fold as in plain scalars. A document mark at the start of a line is a fault.
-/

namespace MakeLint.Yaml.QuotedText

/-- The character of an escape that consists of one letter. -/
def letter? : Char → Option Char
  | '0' => some '\x00'
  | 'a' => some '\x07'
  | 'b' => some '\x08'
  | 't' => some '\t'
  | '\t' => some '\t'
  | 'n' => some '\n'
  | 'v' => some '\x0b'
  | 'f' => some '\x0c'
  | 'r' => some '\r'
  | 'e' => some '\x1b'
  | ' ' => some ' '
  | '"' => some '"'
  | '/' => some '/'
  | '\\' => some '\\'
  | 'N' => some '\u0085'
  | '_' => some '\u00a0'
  | 'L' => some '\u2028'
  | 'P' => some '\u2029'
  | _ => none

/-- The character that hexadecimal digits name. -/
def named? (digits : List Char) : Option Char :=
  (Text.numeral? 16 digits).bind fun n =>
    if h : n.isValidChar then some (Char.ofNatAux n h) else none

/-- Where a run of characters within quotes ends. -/
inductive Stop where
  /-- Before the closing quote. -/
  | quote
  /-- Before a blank or a line end, or at the end of the text. -/
  | gap
  /-- Behind a backslash, before a line end that does not count. -/
  | join

/-- The run of characters at the start of a text within double quotes, where it ends, and what
follows. -/
def doubleRun : List Char → Option (List Char × Stop × List Char)
  | [] => some ([], .gap, [])
  | '"' :: rest => some ([], .quote, '"' :: rest)
  | '\\' :: 'x' :: a :: b :: rest => do
    add (← named? [a, b]) (← doubleRun rest)
  | '\\' :: 'u' :: a :: b :: c :: d :: rest => do
    add (← named? [a, b, c, d]) (← doubleRun rest)
  | '\\' :: 'U' :: a :: b :: c :: d :: e :: f :: g :: h :: rest => do
    add (← named? [a, b, c, d, e, f, g, h]) (← doubleRun rest)
  | '\\' :: e :: rest =>
    if isBreak e then some ([], .join, e :: rest)
    else do add (← letter? e) (← doubleRun rest)
  | c :: rest =>
    if c = '\\' then none
    else if isBlank c ∨ isBreak c then some ([], .gap, c :: rest)
    else do add c (← doubleRun rest)
where
  /-- A run with a character in front. -/
  add (c : Char) (run : List Char × Stop × List Char) : Option (List Char × Stop × List Char) :=
    some (c :: run.1, run.2)

/-- The run of characters at the start of a text within single quotes, where it ends, and what
follows. -/
def singleRun : List Char → List Char × Stop × List Char
  | [] => ([], .gap, [])
  | '\'' :: '\'' :: rest =>
    let run := singleRun rest
    ('\'' :: run.1, run.2)
  | '\'' :: rest => ([], .quote, '\'' :: rest)
  | c :: rest =>
    if isBlank c ∨ isBreak c then ([], .gap, c :: rest)
    else
      let run := singleRun rest
      (c :: run.1, run.2)

/-- Goes on with a quoted scalar at the start of a run. The fuel bounds the number of runs. -/
def scan (double : Bool) : Nat → List Char → Cursor → Option (List Char × Cursor)
  | 0, _, _ => none
  | fuel + 1, text, c =>
    if c.seesDocumentMark ∨ c.rest.isEmpty then none
    else do
      let (run, stop, rest) ← if double then doubleRun c.rest else some (singleRun c.rest)
      let text := text ++ run
      let c := c.skipTo rest
      match stop with
      | .quote => some (text, c.skip 1)
      | .gap =>
        let (g, c) ← Gap.none.toWord (-1) c
        scan double fuel (text ++ g.text) c
      | .join =>
        let c := c.takeBreak.2
        if c.sees '"' then some (text, c.skip 1)
        else
          let (g, c) ← (Gap.lines [] []).toWord (-1) c
          scan double fuel (text ++ g.text) c

/-- The text of the quoted scalar at a place, and the place behind it. -/
def ofCursor (double : Bool) (c : Cursor) : Option (List Char × Cursor) :=
  scan double c.rest.length [] (c.skip 1)

end MakeLint.Yaml.QuotedText
