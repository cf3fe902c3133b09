import MakeLint.Yaml.Gap

/-!
# Plain scalars

A plain scalar has no quotes. It ends before a colon or a comment, before the line that is indented
too little, and in a flow collection before the indicators of flow collections.
-/

namespace MakeLint.Yaml.PlainText

/-- The characters that belong to flow collections. -/
def isFlowIndicator (c : Char) : Bool := c ∈ [',', '[', ']', '{', '}']

/-- The word at the start of a text, and what follows it. In a flow collection a colon with an
indicator behind it is a fault. -/
def word (inFlow : Bool) : List Char → Option (List Char × List Char)
  | [] => some ([], [])
  | c :: rest =>
    if isBlank c ∨ isBreak c then some ([], c :: rest)
    else if inFlow ∧ c = ':' ∧ rest.head?.any fun d => d = '?' ∨ isFlowIndicator d then none
    else if (c = ':' ∧ startsWordEnd rest) ∨ (inFlow ∧ isFlowIndicator c) then some ([], c :: rest)
    else (word inFlow rest).map fun (w, rest) => (c :: w, rest)

/-- A plain scalar as it was read. -/
structure Result where
  text : List Char
  /-- The place where the reading stopped. -/
  cursor : Cursor
  /-- Whether that place is on a later line than the last word. -/
  onNewLine : Bool

/-- Goes on with a plain scalar behind a gap. The fuel bounds the number of words. -/
def scan (inFlow : Bool) (indent : Int) : Nat → List Char → Gap → Cursor → Option Result
  | 0, text, g, c => some ⟨text, c, g.isLines⟩
  | fuel + 1, text, g, c =>
    if c.seesDocumentMark ∨ c.sees '#' then some ⟨text, c, g.isLines⟩
    else do
      let (w, rest) ← word inFlow c.rest
      if w.isEmpty then return ⟨text, c, g.isLines⟩
      let text := text ++ g.text ++ w
      let c := c.skipTo rest
      if ¬(startsBlank c.rest ∨ startsBreak c.rest) then return ⟨text, c, false⟩
      let (g, c) ← Gap.none.toWord indent c
      if ¬inFlow ∧ c.column < indent then return ⟨text, c, g.isLines⟩
      scan inFlow indent fuel text g c

/-- The plain scalar at a place, on lines that are indented at least to a column. -/
def ofCursor (inFlow : Bool) (indent : Int) (c : Cursor) : Option Result :=
  scan inFlow indent (c.rest.length + 1) [] .none c

end MakeLint.Yaml.PlainText
