import MakeLint.Proofs.Linter.Validation
import MakeLint.Proofs.Report.Merging
import MakeLint.Proofs.Schedule.Results

/-!
# Validating many build files

The reports of many build files are made on any schedule and then merged in the order of the files.
The schedule does not show (`Linter.validateAll_eq_foldl`), so what the merged report says follows
from what the report of each file says: its violations come in blocks, one for each file, and its
counters do not depend on the order of the files (`Linter.validateAll_report`).
-/

namespace MakeLint.Linter

/-- The report of one build file, without the events. -/
def reportOf (linter : Linter) (file : BuildFile) : Report := (linter.validate file).value

/-- The violations of one build file. -/
def block (linter : Linter) (file : BuildFile) : List Violation := (linter.reportOf file).violations

/-- On every schedule the reports of the files are merged in the order of the files. -/
theorem validateAll_eq_foldl (linter : Linter) (files : List BuildFile)
    (schedule : Schedule files.length) :
    linter.validateAll files schedule =
      (files.map linter.reportOf).foldl Report.merge .empty := by
  have hcollect : (schedule.collect fun i => linter.reportOf files[i]) =
      files.map linter.reportOf := schedule.collect_getElem files linter.reportOf
  exact congrArg (List.foldl Report.merge .empty) hcollect

section Parts

variable (linter : Linter) (files : List BuildFile) (schedule : Schedule files.length)

/-- The violations of the files come in blocks, in the order of the files. -/
theorem violations_validateAll :
    (linter.validateAll files schedule).violations = (files.map linter.block).flatten := by
  rw [validateAll_eq_foldl, Report.violations_foldl_merge, List.flatMap_map]
  exact List.flatMap_def

/-- Each file is checked once. -/
theorem filesChecked_validateAll :
    (linter.validateAll files schedule).summary.filesChecked = files.length := by
  have hone : ∀ n ∈ (files.map linter.reportOf).map (·.summary.filesChecked), n = 1 := by
    intro n hn
    simp only [List.map_map, List.mem_map, Function.comp_apply] at hn
    obtain ⟨file, -, rfl⟩ := hn
    exact linter.filesChecked_validate file
  rw [validateAll_eq_foldl, Report.filesChecked_foldl_merge, List.sum_eq_card_nsmul _ 1 hone]
  simp

/-- Every enabled rule is run on each file. -/
theorem rulesRun_validateAll :
    (linter.validateAll files schedule).summary.rulesRun =
      files.length * linter.evaluated.length := by
  have hall : ∀ n ∈ (files.map linter.reportOf).map (·.summary.rulesRun),
      n = linter.evaluated.length := by
    intro n hn
    simp only [List.map_map, List.mem_map, Function.comp_apply] at hn
    obtain ⟨file, -, rfl⟩ := hn
    exact linter.rulesRun_validate file
  rw [validateAll_eq_foldl, Report.rulesRun_foldl_merge, List.sum_eq_card_nsmul _ _ hall]
  simp

/-- The counters by rule are those of the violations of all files. -/
theorem counted_validateAll : (linter.validateAll files schedule).Counted := by
  rw [validateAll_eq_foldl]
  exact Report.counted_foldl_merge _

end Parts

/-- Files in two groups can be validated group by group, each group on a schedule of its own. -/
theorem validateAll_append (linter : Linter) (files others : List BuildFile)
    (schedule : Schedule (files ++ others).length) (first : Schedule files.length)
    (second : Schedule others.length) :
    linter.validateAll (files ++ others) schedule =
      (linter.validateAll files first).merge (linter.validateAll others second) := by
  simp only [validateAll_eq_foldl, List.map_append, List.foldl_append]
  exact Report.foldl_merge _ _

/-- The counters do not depend on the order of the files. -/
theorem summary_validateAll_perm (linter : Linter) {files others : List BuildFile}
    (h : others.Perm files) (schedule : Schedule files.length) (other : Schedule others.length) :
    (linter.validateAll others other).summary = (linter.validateAll files schedule).summary := by
  apply (linter.counted_validateAll others other).summary_eq
    (linter.counted_validateAll files schedule)
  · rw [violations_validateAll, violations_validateAll]
    exact (h.map linter.block).flatten
  · rw [filesChecked_validateAll, filesChecked_validateAll, h.length_eq]
  · rw [rulesRun_validateAll, rulesRun_validateAll, h.length_eq]

/-- What the report of many build files says, for every linter and on every schedule. It is made by
merging the reports of the files in their order into the empty report. So it lists the violations of
the files block by block, checks each file, runs every enabled rule on each, and counts each rule as
often as it occurs. Two groups of files can be validated apart and their reports merged; and files
in another order give the same blocks in that order with the same counters. -/
theorem validateAll_report (linter : Linter) (files : List BuildFile)
    (schedule : Schedule files.length) :
    let report := linter.validateAll files schedule
    report = (files.map fun file => (linter.validate file).value).foldl Report.merge .empty ∧
      report.violations = (files.map fun file => (linter.validate file).value.violations).flatten ∧
      report.summary.filesChecked = files.length ∧
      report.summary.rulesRun = files.length * (linter.registry.rules.filter fun rule =>
        !linter.config.disables rule.name).length ∧
      (∀ rule, rule ∈ report.summary.byRule.keys ↔ rule ∈ report.violations.map (·.rule)) ∧
      (∀ rule n, report.summary.byRule.get? rule = some n ↔
        0 < n ∧ n = Report.occurrences report.violations rule) ∧
      (∀ (others : List BuildFile) (both : Schedule (files ++ others).length)
        (alone : Schedule others.length), linter.validateAll (files ++ others) both =
          report.merge (linter.validateAll others alone)) ∧
      ∀ (others : List BuildFile) (other : Schedule others.length), others.Perm files →
        (linter.validateAll others other).violations =
            (others.map fun file => (linter.validate file).value.violations).flatten ∧
          (others.map fun file => (linter.validate file).value.violations).Perm
            (files.map fun file => (linter.validate file).value.violations) ∧
          (linter.validateAll others other).summary = report.summary := by
  intro report
  have hcounted : report.Counted := linter.counted_validateAll files schedule
  refine ⟨linter.validateAll_eq_foldl files schedule, linter.violations_validateAll files schedule,
    linter.filesChecked_validateAll files schedule, linter.rulesRun_validateAll files schedule,
    hcounted.mem_keys_iff, hcounted.get?_eq_some_iff, ?_, ?_⟩
  · intro others both alone
    exact linter.validateAll_append files others both schedule alone
  · intro others other hperm
    refine ⟨linter.violations_validateAll others other, hperm.map linter.block, ?_⟩
    exact linter.summary_validateAll_perm hperm schedule other

/-- Two files in either order have the same counters, also if the second job is done first; their
violations are listed file by file. -/
theorem validateAll_swapped :
    let first : BuildFile := { name := "a.mk", rules := [⟨"all"⟩] }
    let second : BuildFile := { name := "b.mk", rules := [⟨"clean"⟩] }
    let backwards : Schedule 2 := ⟨[1, 0], by decide⟩
    [second, first].Perm [first, second] ∧
      (listing.validateAll [second, first] backwards).violations =
        [⟨"targets", "clean", "b.mk", some 1⟩, ⟨"targets", "all", "a.mk", some 1⟩] ∧
      (listing.validateAll [second, first] backwards).summary =
        (listing.validateAll [first, second] (.inOrder 2)).summary := by
  intro first second backwards
  have hperm : [second, first].Perm [first, second] := .swap first second []
  obtain ⟨-, -, -, -, -, -, -, horder⟩ := validateAll_report listing [first, second] (.inOrder 2)
  obtain ⟨hviolations, -, hsummary⟩ := horder [second, first] backwards hperm
  exact ⟨hperm, hviolations.trans (by decide), hsummary⟩

end MakeLint.Linter
