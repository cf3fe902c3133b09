import MakeLint.Rule.Basic

/-!
# Rules that list what they see

Two rules that report everything: one all targets of a build file, the other all options that it is
run under. They show what reaches a rule.
-/

namespace MakeLint.Rule

/-- Reports each target on the line of its position in the build file, the first being 1. -/
def everyTarget (name : String) : Rule where
  name := name
  description := "Reports every target"
  check file _ :=
    { value := file.targets.mapIdx fun i target =>
        ⟨name, target, file.name, some (UInt32.ofNat (i + 1))⟩ }

/-- Reports each option, in the order of the keys. -/
def everyOption (name : String) : Rule where
  name := name
  description := "Reports every option"
  check file options :=
    { value := options.toList.map fun (key, value) => ⟨name, key ++ "=" ++ value, file.name, none⟩ }

end MakeLint.Rule
