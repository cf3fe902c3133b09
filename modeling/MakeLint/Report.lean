import MakeLint.Violation

/-!
# Reports

A report collects the violations of a run in the order in which they were found, and counts them by
rule as they come. Two more counters say how many build files were checked and how often a rule was
run. Merging adds the violations of another report one by one, so the counts by rule that the other
report brings along are not trusted.
-/

namespace MakeLint

/-- The counters of a run. -/
structure Summary where
  /-- The number of build files that were checked. -/
  filesChecked : Nat := 0
  /-- The number of times that a rule was run on a build file. -/
  rulesRun : Nat := 0
  /-- The number of violations of each rule that has any. -/
  byRule : Table Nat := .empty
  deriving DecidableEq

namespace Summary

/-- The number of violations of all rules together. -/
def total (s : Summary) : Nat := s.byRule.values.foldr (· + ·) 0

/-- The counters with one violation of a rule more. -/
def count (s : Summary) (rule : String) : Summary :=
  { s with byRule := s.byRule.insert rule ((s.byRule.get? rule).getD 0 + 1) }

/-- The counters as a JSON object. -/
def toJson (s : Summary) : Json :=
  .object [("documents_checked", .number s.filesChecked), ("rules_run", .number s.rulesRun),
    ("violations_by_rule", .ofTable (fun n : Nat => .number n) s.byRule)]

end Summary

/-- The violations of a run with their counters. -/
structure Report where
  /-- The violations, in the order in which they were found. -/
  violations : List Violation := []
  /-- The counters. -/
  summary : Summary := {}
  deriving DecidableEq

namespace Report

/-- The report of a run that did nothing. -/
def empty : Report := {}

/-- The report with a violation added at the end and counted. -/
def add (r : Report) (v : Violation) : Report :=
  ⟨r.violations ++ [v], r.summary.count v.rule⟩

/-- The report with a list of violations added in order. -/
def extend (r : Report) (vs : List Violation) : Report := vs.foldl add r

/-- Whether anything was found. -/
def hasViolations (r : Report) : Bool := !r.violations.isEmpty

/-- The violations of one rule, in order. -/
def ofRule (r : Report) (rule : String) : List Violation :=
  r.violations.filter (·.rule == rule)

/-- The report after one build file more, on which so many rules were run. -/
def recordFile (r : Report) (rulesRun : Nat) : Report :=
  { r with summary := { r.summary with
      filesChecked := r.summary.filesChecked + 1
      rulesRun := r.summary.rulesRun + rulesRun } }

/-- The report followed by another one: its violations are added and counted anew, its two other
counters are added up. -/
def merge (r other : Report) : Report :=
  let all := r.extend other.violations
  { all with summary := { all.summary with
      filesChecked := all.summary.filesChecked + other.summary.filesChecked
      rulesRun := all.summary.rulesRun + other.summary.rulesRun } }

/-- The report as a JSON object. -/
def toJson (r : Report) : Json :=
  .object [("violations", .list (r.violations.map (·.toJson))), ("summary", r.summary.toJson)]

/-- The text of a report. -/
def text (r : Report) : String := r.toJson.pretty

end Report

end MakeLint
