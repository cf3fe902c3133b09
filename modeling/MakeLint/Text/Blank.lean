import MakeLint.Text.Range

/-!
# White space

Blank characters are those with the Unicode property White_Space, 25 code points in ten ranges.
`trim` takes them off both ends of a text, and `words` are the maximal runs without them.
-/

namespace MakeLint.Text

/-- The code points with the property White_Space. -/
def blankRanges : List Range :=
  [⟨0x09, 0x0D⟩, ⟨0x20, 0x20⟩, ⟨0x85, 0x85⟩, ⟨0xA0, 0xA0⟩, ⟨0x1680, 0x1680⟩, ⟨0x2000, 0x200A⟩,
   ⟨0x2028, 0x2029⟩, ⟨0x202F, 0x202F⟩, ⟨0x205F, 0x205F⟩, ⟨0x3000, 0x3000⟩]

/-- Whether a character has the property White_Space. -/
def isBlank (c : Char) : Bool := inSome blankRanges c

/-- The text without the blanks at its end. -/
def trimEnd (s : List Char) : List Char := (s.reverse.dropWhile isBlank).reverse

/-- The text without the blanks at its two ends; blanks inside stay. -/
def trim (s : List Char) : List Char := trimEnd (s.dropWhile isBlank)

/-- The maximal runs of characters that are not blank, in order. -/
def words (s : List Char) : List (List Char) := (s.splitOnP isBlank).filter (!·.isEmpty)

example : (blankRanges.map fun r => r.last + 1 - r.first).sum = 25 := rfl

end MakeLint.Text
