/-!
# Build files

A build file that has been parsed already: its rules and variable assignments in the order of their
declaration, under the name that the file was loaded from.
-/

namespace MakeLint

/-- A build rule, known by its target. -/
structure BuildRule where
  target : String
  deriving DecidableEq

/-- A variable with the raw right-hand side of its assignment. -/
structure Variable where
  name : String
  assignment : String
  deriving DecidableEq

/-- A parsed build file. -/
structure BuildFile where
  /-- The name that the file was loaded from. -/
  name : String
  /-- The build rules, in the order of declaration. -/
  rules : List BuildRule := []
  /-- The variable assignments, in the order of declaration. -/
  bindings : List Variable := []
  deriving DecidableEq

namespace BuildFile

/-- The file with a build rule added at the end. -/
def addRule (file : BuildFile) (target : String) : BuildFile :=
  { file with rules := file.rules ++ [⟨target⟩] }

/-- The file with a variable assignment added at the end. -/
def addVariable (file : BuildFile) (name assignment : String) : BuildFile :=
  { file with bindings := file.bindings ++ [⟨name, assignment⟩] }

/-- The targets of the build rules, in order. -/
def targets (file : BuildFile) : List String := file.rules.map (·.target)

/-- The assignments of the variables with exactly this name, in order. -/
def assignments (file : BuildFile) (name : String) : List String :=
  (file.bindings.filter (·.name == name)).map (·.assignment)

end BuildFile

end MakeLint
