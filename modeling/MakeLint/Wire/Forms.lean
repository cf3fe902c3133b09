import MakeLint.BuildFile
import MakeLint.Config
import MakeLint.Json.Source
import MakeLint.Report
import MakeLint.Wire.Record

/-!
# The forms of the library's values on the wire

How build files, options, configurations, violations and reports are written as records, lists and
tables. The forms hold for every source, except that reports are read from JSON only.
-/

namespace MakeLint.Wire

section Forms

variable {ν : Type} {m : Type → Type} [Monad m] [Source ν m]

/-- The text at a place. -/
def text (place : ν) : m String := Source.text place .text

/-- A build rule. -/
def buildRule (place : ν) : m BuildRule := do
  let (target, ()) ← record "BuildRule" (.required "target" text .nil) place
  pure ⟨target⟩

/-- A variable. -/
def variableForm (place : ν) : m Variable := do
  let (name, assignment, ()) ←
    record "Variable" (.required "name" text <| .required "assignment" text .nil) place
  pure ⟨name, assignment⟩

/-- A build file; its rules and its variables may be omitted. -/
def buildFile (place : ν) : m BuildFile := do
  let (name, rules, bindings, ()) ← record "Makefile"
    (.required "file_name" text <| .optional "rules" (list buildRule) [] <|
      .optional "variables" (list variableForm) [] .nil) place
  pure ⟨name, rules, bindings⟩

/-- A configuration; its sections may be omitted. -/
def config (place : ν) : m Config := do
  let (version, sections, ()) ← record "LintConfig"
    (.required "version" text <| .optional "rules" (table options) .empty .nil) place
  pure ⟨version, sections⟩

/-- A line: a negative number stands for none, and a number of more than 32 bits is refused. -/
def line (place : ν) : m (Option UInt32) := do
  let n ← Source.signed place
  if n < 0 then pure none
  else if n ∈ Width.unsigned32 then pure (some (UInt32.ofNat n.toNat))
  else Source.refuse ν

/-- A violation. -/
def violation (place : ν) : m Violation := do
  let (rule, message, file, line, ()) ← record "Violation"
    (.required "rule" text <| .required "violation" text <| .required "file_name" text <|
      .required "line_number" line .nil) place
  pure ⟨rule, message, file, line⟩

end Forms

/-- The counters of a report. -/
def summary (place : Json.Spot) : Except Fault Summary := do
  let (filesChecked, rulesRun, byRule, ()) ← record "LintSummary"
    (.required "documents_checked" Json.Spot.size <| .required "rules_run" Json.Spot.size <|
      .required "violations_by_rule" (table Json.Spot.size) .nil) place
  pure ⟨filesChecked, rulesRun, byRule⟩

/-- A report; its counters are taken as they are written. -/
def report (place : Json.Spot) : Except Fault Report := do
  let (violations, summary, ()) ← record "LintReport"
    (.required "violations" (list violation) <| .required "summary" summary .nil) place
  pure ⟨violations, summary⟩

end MakeLint.Wire
