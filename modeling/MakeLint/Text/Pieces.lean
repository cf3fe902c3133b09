import MakeLint.Text.Blank

/-!
# Comma-separated pieces

A list written as one text: its items stand between commas, blanks around an item do not count, and
an item without other characters does not count either.
-/

namespace MakeLint.Text

/-- The non-empty items between the commas of a text, without the blanks around them. -/
def pieces (s : List Char) : List (List Char) :=
  ((s.splitOn ',').map trim).filter (!·.isEmpty)

end MakeLint.Text
