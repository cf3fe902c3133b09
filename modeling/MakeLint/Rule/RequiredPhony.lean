import MakeLint.Rule.Basic
import MakeLint.Text.Blank

/-!
# Required phony targets

A build file declares phony targets in variables named `PHONY`, as words between blanks. The rule
`minphony` asks that each of a list of targets is declared in one of them. The option `required`
replaces the list for one run; it never adds to it.
-/

namespace MakeLint

/-- The rule that certain targets are declared phony. -/
structure RequiredPhony where
  /-- The targets required where no option says otherwise. -/
  required : List String := ["all", "clean", "test"]

namespace RequiredPhony

/-- The name of the rule. -/
def name : String := "minphony"

/-- The variable that declares phony targets. -/
def phonyVariable : String := "PHONY"

/-- The option that replaces the required targets. -/
def requiredKey : String := "required"

/-- The targets required under some options. -/
def requiredUnder (rule : RequiredPhony) (options : Options) : List String :=
  (options.list? requiredKey).getD rule.required

/-- The words of all declarations of a build file, in order. -/
def declared (file : BuildFile) : List String :=
  (file.assignments phonyVariable).flatMap fun text => (Text.words text.toList).map String.ofList

/-- What is reported for a target that is not declared. -/
def missing (file : BuildFile) (target : String) : Violation where
  rule := name
  message := "Missing required phony target \"" ++ target ++ "\""
  file := file.name

/-- What the rule asks for, in words. -/
def description (rule : RequiredPhony) : String :=
  "Minimum required phony targets must be present (" ++ String.intercalate "," rule.required ++ ")"

/-- The required targets that are not declared, in the order of the requirement and as often as they
are required. -/
def check (rule : RequiredPhony) (file : BuildFile) (options : Options) :
    Traced (List Violation) :=
  let required := rule.requiredUnder options
  let words := declared file
  { value := (required.filter (· ∉ words)).map (missing file)
    events := [.comparing required.length words.eraseDups.length file.name] }

/-- The rule as one of a registry. -/
def toRule (rule : RequiredPhony) : Rule := ⟨name, rule.description, rule.check⟩

end RequiredPhony

end MakeLint
