import MakeLint.Yaml.BlockText
import MakeLint.Yaml.PlainText
import MakeLint.Yaml.Property
import MakeLint.Yaml.QuotedText

/-!
# The tokens of a YAML text

Tokens come from a text one after the other, with one difficulty: only the colon behind a scalar, a
collection or an alias shows that this was a key, and then the tokens that say so belong in front of
it. So the place of each possible key is remembered as a `Candidate`, and tokens wait in a queue as
long as its first token may turn out to be the start of a key. `Tokens.ofText` gives the tokens up
to the end of the text or up to its first fault.
-/

namespace MakeLint.Yaml

/-- A place that may turn out to be the start of a key. -/
structure Candidate where
  /-- Nothing but a key can stand there. -/
  required : Bool
  /-- The number of tokens before it. -/
  number : Nat
  index : Nat
  line : Nat
  column : Nat

/-- Whether a candidate is out of reach of a colon: a key stands on one line and takes at most 1024
characters. -/
def Candidate.isStale (k : Candidate) (c : Cursor) : Bool :=
  k.line < c.line ∨ k.index + 1024 < c.index

/-- The state between two tokens of a text. -/
structure Tokens where
  /-- What has not been looked at yet. -/
  cursor : Cursor
  /-- The candidate of the innermost flow collection, or of the block structure outside of all. -/
  candidate : Option Candidate := none
  /-- The candidates of the collections around, from the inside out: one for each flow collection.
  -/
  outer : List (Option Candidate) := []
  /-- Whether a key may start at the cursor. -/
  keyAllowed : Bool := true
  /-- The column of the current block collection; `-1` outside of all. -/
  indent : Int := -1
  /-- The columns of the block collections around, from the inside out. -/
  indents : List Int := []
  /-- The tokens that wait. -/
  queue : List Token := []
  /-- The number of tokens that have left the queue. -/
  taken : Nat := 0
  /-- Whether the text has come to its end. -/
  ended : Bool := false

namespace Tokens

/-- Whether the cursor is inside a flow collection. -/
def inFlow (s : Tokens) : Bool := !s.outer.isEmpty

/-- Puts a token at the end of the queue. -/
def emit (s : Tokens) (t : Token) : Tokens := { s with queue := s.queue ++ [t] }

/-- Puts a token in front of the token of a number. -/
def emitAt (s : Tokens) (number : Nat) (t : Token) : Tokens :=
  { s with queue := s.queue.take (number - s.taken) ++ t :: s.queue.drop (number - s.taken) }

/-- What is left of a candidate at a place; a candidate that must be a key and cannot be is a fault.
-/
def refresh? (c : Cursor) : Option Candidate → Option (Option Candidate)
  | none => some none
  | some k =>
    if k.isStale c then (if k.required then none else some none) else some (some k)

/-- Gives up the candidates that are out of reach. -/
def refreshAll? (s : Tokens) : Option Tokens := do
  let outer ← s.outer.mapM (refresh? s.cursor)
  let candidate ← refresh? s.cursor s.candidate
  some { s with candidate, outer }

/-- Gives up the candidate of the innermost collection; it must not be one that must be a key. -/
def dropCandidate? (s : Tokens) : Option Tokens :=
  if s.candidate.any (·.required) then none else some { s with candidate := none }

/-- Takes the cursor as the candidate of the innermost collection, if a key is allowed there. -/
def markCandidate? (s : Tokens) : Option Tokens :=
  if s.keyAllowed then
    s.dropCandidate?.map fun s => { s with
      candidate := some {
        required := !s.inFlow && s.indent == s.cursor.column
        number := s.taken + s.queue.length
        index := s.cursor.index
        line := s.cursor.line
        column := s.cursor.column } }
  else some s

/-- Opens a block collection at a column further in than the current one; `place` puts its token
into the queue. -/
def indentTo (s : Tokens) (column : Nat) (place : Tokens → Tokens) : Tokens :=
  if s.inFlow ∨ ¬s.indent < column then s
  else place { s with indent := column, indents := s.indent :: s.indents }

/-- Closes the block collections that are further in than a column. -/
def closeBlocks (column : Int) : List Int → Tokens → Tokens
  | [], s => s
  | outer :: others, s =>
    if column < s.indent then
      closeBlocks column others { s.emit .blockEnd with indent := outer, indents := others }
    else s

/-- Closes the block collections that are further in than a column, unless a flow collection is
open. -/
def dedentTo (s : Tokens) (column : Int) : Tokens :=
  if s.inFlow then s else closeBlocks column s.indents s

/-- The place behind the byte order mark that may stand at the start of a text. -/
def skipMark (c : Cursor) : Cursor := if c.index = 0 ∧ c.sees '\ufeff' then c.skip 1 else c

/-- Goes over blanks, comments and line ends to the next token. In a block a line end allows a key
again, and where a key is allowed a tab is no blank. The fuel bounds the number of lines. -/
def skipGap : Nat → Tokens → Tokens
  | 0, s => s
  | fuel + 1, s =>
    let c := (skipMark s.cursor).skipWhile fun ch =>
      ch = ' ' ∨ ((s.inFlow ∨ ¬s.keyAllowed) ∧ ch = '\t')
    let c := if c.sees '#' then c.skipWhile (!isBreak ·) else c
    if startsBreak c.rest then
      skipGap fuel { s with cursor := c.takeBreak.2, keyAllowed := s.keyAllowed || !s.inFlow }
    else { s with cursor := c }

/-- The end of the text, which also ends its last line. -/
def endText? (s : Tokens) : Option Tokens :=
  let c := s.cursor
  let c := if c.column = 0 then c else { c with line := c.line + 1, column := 0 }
  let s := { s with cursor := c }
  (s.dedentTo (-1)).dropCandidate?.map fun s =>
    { s.emit .streamEnd with keyAllowed := false, ended := true }

/-- A directive. -/
def directive? (s : Tokens) : Option Tokens := do
  let s ← (s.dedentTo (-1)).dropCandidate?
  let (token, c) ← Property.directive? s.cursor
  some { s.emit token with cursor := c, keyAllowed := false }

/-- The mark of the start or the end of a document. -/
def documentMark? (s : Tokens) (token : Token) : Option Tokens :=
  (s.dedentTo (-1)).dropCandidate?.map fun s =>
    { s.emit token with cursor := s.cursor.skip 3, keyAllowed := false }

/-- The start of a flow collection, which may itself be a key. -/
def openFlow? (s : Tokens) (token : Token) : Option Tokens :=
  s.markCandidate?.map fun s =>
    { s.emit token with
      cursor := s.cursor.skip 1, candidate := none, outer := s.candidate :: s.outer
      keyAllowed := true }

/-- The end of a flow collection. -/
def closeFlow? (s : Tokens) (token : Token) : Option Tokens :=
  s.dropCandidate?.map fun s =>
    { s.emit token with
      cursor := s.cursor.skip 1
      candidate := s.outer.head?.getD s.candidate
      outer := s.outer.tail
      keyAllowed := false }

/-- The comma between the entries of a flow collection. -/
def flowEntry? (s : Tokens) : Option Tokens :=
  s.dropCandidate?.map fun s =>
    { s.emit .flowEntry with cursor := s.cursor.skip 1, keyAllowed := true }

/-- The hyphen in front of an entry. -/
def blockEntry? (s : Tokens) : Option Tokens :=
  if ¬s.inFlow ∧ ¬s.keyAllowed then none
  else (s.indentTo s.cursor.column (·.emit .blockSequenceStart)).dropCandidate?.map fun s =>
    { s.emit .blockEntry with cursor := s.cursor.skip 1, keyAllowed := true }

/-- The question mark in front of a key. -/
def key? (s : Tokens) : Option Tokens :=
  if ¬s.inFlow ∧ ¬s.keyAllowed then none
  else (s.indentTo s.cursor.column (·.emit .blockMappingStart)).dropCandidate?.map fun s =>
    { s.emit .key with cursor := s.cursor.skip 1, keyAllowed := !s.inFlow }

/-- The colon in front of a value: the candidate, if there is one, turns out to be the key. -/
def value? (s : Tokens) : Option Tokens :=
  match s.candidate with
  | some k =>
    let s := s.emitAt k.number .key
    let s := s.indentTo k.column (·.emitAt k.number .blockMappingStart)
    some { s.emit .value with cursor := s.cursor.skip 1, candidate := none, keyAllowed := false }
  | none =>
    if ¬s.inFlow ∧ ¬s.keyAllowed then none
    else
      let s := s.indentTo s.cursor.column (·.emit .blockMappingStart)
      some { s.emit .value with cursor := s.cursor.skip 1, keyAllowed := !s.inFlow }

/-- An anchor or alias, or a tag, or a scalar: something that may be a key or the start of one. -/
def nodePart? (s : Tokens) (read : Tokens → Option (Token × Cursor)) : Option Tokens := do
  let s ← s.markCandidate?
  let (token, c) ← read s
  some { s.emit token with cursor := c, keyAllowed := false }

/-- An anchor or alias. -/
def named? (s : Tokens) (token : List Char → Token) : Option Tokens :=
  s.nodePart? fun s => (Property.name? s.cursor).map fun (name, c) => (token name, c)

/-- A quoted scalar. -/
def quoted? (s : Tokens) (double : Bool) : Option Tokens :=
  s.nodePart? fun s => (QuotedText.ofCursor double s.cursor).map fun (text, c) =>
    (.scalar (if double then .double else .single) text, c)

/-- A block scalar, which is never a key. -/
def block? (s : Tokens) (literal : Bool) : Option Tokens := do
  let s ← s.dropCandidate?
  let (text, c) ← BlockText.ofCursor literal s.indent s.cursor
  some { s.emit (.scalar (if literal then .literal else .folded) text) with
    cursor := c, keyAllowed := true }

/-- A plain scalar; behind it a key is allowed if it ends on an earlier line. -/
def plain? (s : Tokens) : Option Tokens := do
  let s ← s.markCandidate?
  let r ← PlainText.ofCursor s.inFlow (s.indent + 1) s.cursor
  some { s.emit (.scalar .plain r.text) with cursor := r.cursor, keyAllowed := r.onNewLine }

/-- Whether a plain scalar may start with a character before a rest. -/
def startsPlain (inFlow : Bool) (c : Char) (rest : List Char) : Bool :=
  if c = '-' then !startsBlank rest
  else if c = '?' ∨ c = ':' then !inFlow && !startsWordEnd rest
  else c ∉ [',', '[', ']', '{', '}', '#', '&', '*', '!', '|', '>', '\'', '"', '%', '@', '\x60']
    ∧ ¬isBlank c

/-- Adds the token at the cursor, which stands before the character `c` and a rest. -/
def addAt? (s : Tokens) (c : Char) (rest : List Char) : Option Tokens :=
  if s.cursor.column = 0 ∧ c = '%' then s.directive?
  else if s.cursor.seesMark '-' then s.documentMark? .documentStart
  else if s.cursor.seesMark '.' then s.documentMark? .documentEnd
  else if c = '[' then s.openFlow? .flowSequenceStart
  else if c = '{' then s.openFlow? .flowMappingStart
  else if c = ']' then s.closeFlow? .flowSequenceEnd
  else if c = '}' then s.closeFlow? .flowMappingEnd
  else if c = ',' then s.flowEntry?
  else if c = '-' ∧ startsWordEnd rest then s.blockEntry?
  else if c = '?' ∧ (s.inFlow ∨ startsWordEnd rest) then s.key?
  else if c = ':' ∧ (s.inFlow ∨ startsWordEnd rest) then s.value?
  else if c = '*' then s.named? .alias
  else if c = '&' then s.named? .anchor
  else if c = '!' then s.nodePart? fun s => Property.tag? s.inFlow s.cursor
  else if c = '|' ∧ ¬s.inFlow then s.block? true
  else if c = '>' ∧ ¬s.inFlow then s.block? false
  else if c = '\'' then s.quoted? false
  else if c = '"' then s.quoted? true
  else if startsPlain s.inFlow c rest then s.plain?
  else none

/-- Adds the next token of the text, and the tokens that come before it. -/
def add? (s : Tokens) : Option Tokens := do
  let s ← (skipGap (s.cursor.rest.length + 1) s).refreshAll?
  let s := s.dedentTo s.cursor.column
  match s.cursor.rest with
  | [] => s.endText?
  | c :: rest => s.addAt? c rest

/-- Whether the first token of the queue may turn out to be the start of a key. -/
def waits (s : Tokens) : Bool :=
  (s.candidate :: s.outer).any fun k => k.any (·.number = s.taken)

/-- The tokens from a state on. The fuel bounds the number of steps. -/
def run : Nat → Tokens → List Token
  | 0, _ => []
  | fuel + 1, s =>
    match s.queue with
    | [] => if s.ended then [] else next fuel s.add?
    | t :: queue =>
      match s.refreshAll? with
      | none => []
      | some s =>
        if s.waits then next fuel s.add?
        else t :: run fuel { s with queue, taken := s.taken + 1 }
where
  /-- The tokens after a step, none after a fault. -/
  next (fuel : Nat) : Option Tokens → List Token
    | none => []
    | some s => run fuel s

/-- The tokens of a text up to its first fault; the last one is the end of the stream if there is no
fault. Each token takes a step to add and a step to leave the queue, each character adds at most
three tokens, and each closes at most one block. -/
def ofText (text : List Char) : List Token :=
  if text.all isAdmitted then run (8 * text.length + 8) { cursor := ⟨text, 0, 0, 0⟩ } else []

end Tokens

end MakeLint.Yaml
