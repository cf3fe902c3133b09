import MakeLint.Json.Value

/-!
# Violations

A violation is one instance of a build file that breaks a rule. It belongs to a line of the file or
to the file as a whole; on the wire, and only there, `-1` stands for the missing line.
-/

namespace MakeLint

/-- One instance of a build file that breaks a rule. -/
structure Violation where
  /-- The name of the rule that is broken. -/
  rule : String
  /-- What is wrong, for a reader. -/
  message : String
  /-- The name of the build file. -/
  file : String
  /-- The line, unless the whole file is meant. -/
  line : Option UInt32 := none
  deriving DecidableEq

namespace Violation

/-- The number that stands for a line on the wire: the line itself, or `-1` for none. -/
def wireLine (v : Violation) : Int := (v.line.map fun n => (n.toNat : Int)).getD (-1)

/-- One line of text for a reader: the place, the rule in brackets, and the message. -/
def display (v : Violation) : String :=
  let place := match v.line with
    | some n => v.file ++ ":" ++ toString n.toNat
    | none => v.file
  place ++ " [" ++ v.rule ++ "] " ++ v.message

/-- The violation as a JSON object. -/
def toJson (v : Violation) : Json :=
  .object [("rule", .text v.rule), ("violation", .text v.message), ("file_name", .text v.file),
    ("line_number", .number v.wireLine)]

end Violation

end MakeLint
