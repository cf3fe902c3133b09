import MakeLint.BuildFile
import MakeLint.Event
import MakeLint.Options
import MakeLint.Violation

/-!
# Rules

A rule is known by its name and looks at one build file at a time, under the options that the
configuration has for it. It always has an answer: an ordered list of violations, possibly empty.
-/

namespace MakeLint

/-- A rule that build files are held to. -/
structure Rule where
  /-- The name under which the rule is configured and reported. -/
  name : String
  /-- What the rule asks for, in words. -/
  description : String
  /-- The violations of the rule in a build file. -/
  check : BuildFile → Options → Traced (List Violation)

end MakeLint
