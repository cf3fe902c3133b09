import MakeLint.Decimal.Layout
import MakeLint.Width

/-!
# The texts of option values

An option is a raw text, but a configuration may write it as a value of another kind. Such a value
is taken in whole first, as a `Buffered`, and then has the text that a reader of the configuration
would expect: nothing for an absent value, the words `true` and `false`, a numeral, or the items of
a list with commas between them. A list of anything but texts and a mapping are no options.
-/

namespace MakeLint.Wire

/-- A value taken in whole, as far as it matters for options. -/
inductive Buffered where
  /-- An absent value, a flag or a number, with the text that it has as an option. -/
  | plain (asOption : String)
  | text (value : String)
  | list (items : List Buffered)
  | mapping

namespace Buffered

/-- The absent value. -/
def absent : Buffered := .plain ""

/-- A flag. -/
def flag (b : Bool) : Buffered := .plain (if b then "true" else "false")

/-- A number that is no integer: its digits in place. -/
def float (x : Float) : Buffered := .plain (Decimal.plain.write x)

/-- An integer: its numeral, or that of the nearest float beyond signed integers of 64 bits. -/
def integer (n : Int) : Buffered :=
  if n ∈ Width.signed64 then .plain (String.ofList (Text.decimalInt n))
  else float (Float.ofInt n)

/-- The value of a text. -/
def text? : Buffered → Option String
  | .text s => some s
  | _ => none

/-- The text of a value as an option, if it has one. -/
def optionText? : Buffered → Option String
  | .plain asOption => some asOption
  | .text s => some s
  | .list items => (items.mapM text?).map (String.intercalate ",")
  | .mapping => none

end Buffered

end MakeLint.Wire
