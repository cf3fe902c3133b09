import MakeLint.Table
import MakeLint.Text.Pieces

/-!
# Options of a rule

A rule's options are raw texts under their keys. What a text means is decided by who reads it: as it
stands, as a list of pieces between commas, or as a flag. An absent option always leaves the choice
to the rule.
-/

namespace MakeLint

/-- Raw option texts under their keys. -/
abbrev Options := Table String

namespace Options

/-- The flag that a text writes, blanks around it aside and ASCII letters in either case. -/
def readFlag (raw : String) : Option Bool :=
  let word := String.ofList ((Text.trim raw.toList).map Char.toLower)
  if word ∈ ["true", "yes", "on", "1"] then some true
  else if word ∈ ["false", "no", "off", "0"] then some false
  else none

/-- The list that a text writes. -/
def readList (raw : String) : List String := (Text.pieces raw.toList).map String.ofList

/-- The option read as a list, where it is present. -/
def list? (options : Options) (key : String) : Option (List String) :=
  (options.get? key).map readList

/-- The option read as a flag, where it is present and writes one. -/
def flag? (options : Options) (key : String) : Option Bool :=
  (options.get? key).bind readFlag

end Options

end MakeLint
