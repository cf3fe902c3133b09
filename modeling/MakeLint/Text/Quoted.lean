import MakeLint.Text.Digit
import MakeLint.Text.Visible

/-!
# Quoted texts in messages

A text that is part of a message stands between quotes. Quotes and backslashes get a backslash in
front, a few control characters a letter, and every other hidden character its code point.
-/

namespace MakeLint.Text

/-- A character between the quotes of a message. -/
def quotedChar (c : Char) : List Char :=
  match c with
  | '\x00' => ['\\', '0']
  | '\t' => ['\\', 't']
  | '\n' => ['\\', 'n']
  | '\r' => ['\\', 'r']
  | '"' => ['\\', '"']
  | '\\' => ['\\', '\\']
  | _ => if isVisible c then [c] else ['\\', 'u', '{'] ++ hexadecimal c.toNat ++ ['}']

/-- A text as it is shown in a message. -/
def quoted (s : String) : String := String.ofList ('"' :: s.toList.flatMap quotedChar ++ ['"'])

end MakeLint.Text
