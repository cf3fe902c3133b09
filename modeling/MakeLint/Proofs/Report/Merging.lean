import MakeLint.Proofs.Report.Counting

/-!
# Merging reports

Merging is associative, also for reports whose counters by rule are wrong (`Report.merge_assoc`),
and the empty report behind another one changes nothing. So reports that are merged one after the
other can be merged in groups (`Report.foldl_merge`). The counters of a run depend on the violations
only through how often each rule occurs: reports that differ in the order of their violations have
one summary (`Report.Counted.summary_eq`). The laws are collected in `Report.merge_laws`.
-/

namespace MakeLint.Report

/-- Counters by rule after violations were counted. -/
def tally (byRule : Table Nat) (vs : List Violation) : Table Nat :=
  vs.foldl (fun t v => t.insert v.rule ((t.get? v.rule).getD 0 + 1)) byRule

/-- Adding a list of violations counts them by rule. -/
theorem byRule_extend (r : Report) (vs : List Violation) :
    (r.extend vs).summary.byRule = tally r.summary.byRule vs := by
  unfold extend tally
  induction vs generalizing r with
  | nil => rfl
  | cons v vs ih => rw [List.foldl_cons, ih, List.foldl_cons]; rfl

/-- Counting two lists is counting them one after the other. -/
theorem tally_append (byRule : Table Nat) (vs ws : List Violation) :
    tally byRule (vs ++ ws) = tally (tally byRule vs) ws := List.foldl_append

/-! ## The parts of a merged report -/

/-- Reports with the same violations and the same counters are equal. -/
theorem eq_of_parts {r s : Report} (hviolations : r.violations = s.violations)
    (hfiles : r.summary.filesChecked = s.summary.filesChecked)
    (hrules : r.summary.rulesRun = s.summary.rulesRun)
    (hbyRule : r.summary.byRule = s.summary.byRule) : r = s := by
  obtain ⟨vs, files, rules, byRule⟩ := r
  obtain ⟨ws, files', rules', byRule'⟩ := s
  cases hviolations
  cases hfiles
  cases hrules
  cases hbyRule
  rfl

/-- The violations of the other report come behind. -/
theorem violations_merge (r other : Report) :
    (r.merge other).violations = r.violations ++ other.violations :=
  violations_extend r other.violations

/-- The files of both reports are checked. -/
theorem filesChecked_merge (r other : Report) :
    (r.merge other).summary.filesChecked =
      r.summary.filesChecked + other.summary.filesChecked := by
  have h := filesChecked_extend r other.violations
  exact congrArg (· + other.summary.filesChecked) h

/-- The rules of both reports are run. -/
theorem rulesRun_merge (r other : Report) :
    (r.merge other).summary.rulesRun = r.summary.rulesRun + other.summary.rulesRun := by
  have h := rulesRun_extend r other.violations
  exact congrArg (· + other.summary.rulesRun) h

/-- The violations of the other report are counted, whatever its own counters by rule say. -/
theorem byRule_merge (r other : Report) :
    (r.merge other).summary.byRule = tally r.summary.byRule other.violations :=
  byRule_extend r other.violations

/-! ## Groups of reports -/

/-- Merging is associative. -/
theorem merge_assoc (a b c : Report) : (a.merge b).merge c = a.merge (b.merge c) := by
  apply eq_of_parts
  · simp only [violations_merge, List.append_assoc]
  · simp only [filesChecked_merge, Nat.add_assoc]
  · simp only [rulesRun_merge, Nat.add_assoc]
  · simp only [byRule_merge, violations_merge, tally_append]

/-- Merging the empty report in changes nothing. -/
theorem merge_empty (r : Report) : r.merge empty = r := rfl

/-- A report that was merged into the empty one is merged in like the report itself: its counters by
rule, which may differ now, are not used. -/
theorem merge_empty_merge (r other : Report) : r.merge (empty.merge other) = r.merge other := by
  have hviolations : (empty.merge other).violations = other.violations := violations_merge _ _
  apply eq_of_parts
  · rw [violations_merge, hviolations, violations_merge]
  · rw [filesChecked_merge, filesChecked_merge, filesChecked_merge]
    exact congrArg (r.summary.filesChecked + ·) (Nat.zero_add _)
  · rw [rulesRun_merge, rulesRun_merge, rulesRun_merge]
    exact congrArg (r.summary.rulesRun + ·) (Nat.zero_add _)
  · rw [byRule_merge, byRule_merge, hviolations]

/-- Reports that are merged one after the other into a report can be merged among themselves
first. -/
theorem foldl_merge (r : Report) (reports : List Report) :
    reports.foldl merge r = r.merge (reports.foldl merge empty) := by
  induction reports generalizing r with
  | nil => exact (merge_empty r).symm
  | cons next reports ih =>
    calc reports.foldl merge (r.merge next)
        = (r.merge next).merge (reports.foldl merge empty) := ih _
      _ = (r.merge (empty.merge next)).merge (reports.foldl merge empty) := by
        rw [merge_empty_merge]
      _ = r.merge ((empty.merge next).merge (reports.foldl merge empty)) := merge_assoc _ _ _
      _ = r.merge (reports.foldl merge (empty.merge next)) := by rw [← ih]

/-- Reports are merged by a series of changes to the empty report. -/
theorem foldl_merge_eq_run (reports : List Report) :
    reports.foldl merge empty = run (reports.map .merge) := by
  unfold run
  rw [List.foldl_map]
  rfl

/-- Merged reports list the violations of each, in their order. -/
theorem violations_foldl_merge (reports : List Report) :
    (reports.foldl merge empty).violations = reports.flatMap (·.violations) := by
  rw [foldl_merge_eq_run, run, violations_foldl_apply, List.flatMap_map]
  exact List.nil_append _

/-- Merged reports check the files of each. -/
theorem filesChecked_foldl_merge (reports : List Report) :
    (reports.foldl merge empty).summary.filesChecked =
      (reports.map (·.summary.filesChecked)).sum := by
  rw [foldl_merge_eq_run, run, filesChecked_foldl_apply]
  simp [List.filterMap_map, Function.comp_def, Step.recorded?, Step.merged?, empty]

/-- Merged reports run the rules of each. -/
theorem rulesRun_foldl_merge (reports : List Report) :
    (reports.foldl merge empty).summary.rulesRun = (reports.map (·.summary.rulesRun)).sum := by
  rw [foldl_merge_eq_run, run, rulesRun_foldl_apply]
  simp [List.filterMap_map, Function.comp_def, Step.recorded?, Step.merged?, empty]

/-- The counters by rule of merged reports are right. -/
theorem counted_foldl_merge (reports : List Report) : (reports.foldl merge empty).Counted := by
  rw [foldl_merge_eq_run]
  exact counted_empty.foldl_apply _

/-! ## Violations in another order -/

/-- Reports whose counters are right have one summary if they have the same violations in any order,
and check as many files and run as many rules. -/
theorem Counted.summary_eq {r s : Report} (hr : r.Counted) (hs : s.Counted)
    (hviolations : r.violations.Perm s.violations)
    (hfiles : r.summary.filesChecked = s.summary.filesChecked)
    (hrules : r.summary.rulesRun = s.summary.rulesRun) : r.summary = s.summary := by
  have hbyRule : r.summary.byRule = s.summary.byRule := by
    refine Table.ext_get? fun rule => ?_
    have hoccurrences : occurrences r.violations rule = occurrences s.violations rule :=
      hviolations.countP_eq _
    rw [hr.get?_byRule, hs.get?_byRule, hoccurrences]
  calc r.summary
      = ⟨r.summary.filesChecked, r.summary.rulesRun, r.summary.byRule⟩ := rfl
    _ = ⟨s.summary.filesChecked, s.summary.rulesRun, s.summary.byRule⟩ := by
      rw [hfiles, hrules, hbyRule]
    _ = s.summary := rfl

/-- The summary of two merged reports whose counters are right does not depend on which of them is
merged into which. -/
theorem Counted.summary_merge_comm {a b : Report} (ha : a.Counted) (hb : b.Counted) :
    (a.merge b).summary = (b.merge a).summary := by
  have hab : (a.merge b).Counted := ha.apply (.merge b)
  have hba : (b.merge a).Counted := hb.apply (.merge a)
  refine hab.summary_eq hba ?_ ?_ ?_
  · rw [violations_merge, violations_merge]
    exact List.perm_append_comm
  · rw [filesChecked_merge, filesChecked_merge, Nat.add_comm]
  · rw [rulesRun_merge, rulesRun_merge, Nat.add_comm]

/-! ## Laws of merging -/

/-- The counters of a report are right as soon as those of the single rules are: the total follows
from them. -/
theorem counted_iff {r : Report} : r.Counted ↔ ∀ rule n, r.summary.byRule.get? rule = some n ↔
    0 < n ∧ n = occurrences r.violations rule := by
  refine ⟨Counted.get?_eq_some_iff, fun h => ?_⟩
  -- Counting the violations anew gives the same counters, whose total is right.
  have hanew : (empty.extend r.violations).Counted := counted_empty.extend r.violations
  have hviolations : (empty.extend r.violations).violations = r.violations :=
    violations_extend empty r.violations
  refine hanew.of_eq hviolations.symm (Table.ext_get? fun rule => Option.ext fun n => ?_)
  rw [h, hanew.get?_eq_some_iff, hviolations]

/-- A report comes out of the empty one as it was exactly if its counters are right. -/
theorem empty_merge_eq_iff {r : Report} : empty.merge r = r ↔ r.Counted := by
  have hmerged : (empty.merge r).Counted := counted_empty.apply (.merge r)
  refine ⟨fun h => h ▸ hmerged, fun h => ?_⟩
  have hviolations : (empty.merge r).violations = r.violations := violations_merge empty r
  have hfiles : (empty.merge r).summary.filesChecked = r.summary.filesChecked := by
    rw [filesChecked_merge]
    exact Nat.zero_add _
  have hrules : (empty.merge r).summary.rulesRun = r.summary.rulesRun := by
    rw [rulesRun_merge]
    exact Nat.zero_add _
  have hsummary := hmerged.summary_eq h (.of_eq hviolations) hfiles hrules
  exact eq_of_parts hviolations hfiles hrules (congrArg Summary.byRule hsummary)

/-- Merging a report in is adding each of its violations in order, which leaves the two other
counters alone, and then adding these up. -/
theorem merge_eq_foldl_add (r other : Report) : r.merge other =
    ⟨(other.violations.foldl add r).violations,
      ⟨r.summary.filesChecked + other.summary.filesChecked,
        r.summary.rulesRun + other.summary.rulesRun,
        (other.violations.foldl add r).summary.byRule⟩⟩ :=
  eq_of_parts rfl (filesChecked_merge r other) (rulesRun_merge r other) rfl

/-- The laws of merging, for reports with any counters. It is associative. The empty report is
neutral behind another one, and before another one exactly if the counters by rule of that one are
right. Merging a report in is adding its violations one by one and its two other counters. Reports
whose counters are right have one merged summary in either order, though the violations of the one
that is merged in always come last. -/
theorem merge_laws :
    (∀ a b c : Report, (a.merge b).merge c = a.merge (b.merge c)) ∧
      (∀ a : Report, a.merge empty = a) ∧
      (∀ a : Report, empty.merge a = a ↔ ∀ rule n, a.summary.byRule.get? rule = some n ↔
        0 < n ∧ n = occurrences a.violations rule) ∧
      (∀ a b : Report, a.merge b =
        ⟨(b.violations.foldl add a).violations,
          ⟨a.summary.filesChecked + b.summary.filesChecked,
            a.summary.rulesRun + b.summary.rulesRun,
            (b.violations.foldl add a).summary.byRule⟩⟩) ∧
      (∀ a b : Report, (a.merge b).violations = a.violations ++ b.violations) ∧
      (∀ a b : Report, a.Counted → b.Counted → (a.merge b).summary = (b.merge a).summary) ∧
      ∃ a b : Report, a.Counted ∧ b.Counted ∧ (a.merge b).violations ≠ (b.merge a).violations := by
  refine ⟨merge_assoc, merge_empty, fun a => ?_, merge_eq_foldl_add, violations_merge,
    fun a b => Counted.summary_merge_comm, ?_⟩
  · rw [empty_merge_eq_iff, counted_iff]
  · refine ⟨empty.add ⟨"r", "first", "a.mk", none⟩, empty.add ⟨"r", "second", "a.mk", none⟩,
      counted_empty.add _, counted_empty.add _, ?_⟩
    decide

/-- Two reports of two rules with one rule in common have one merged summary and two orders of the
violations. A report with wrong counters is merged in by its violations, alone or after another one,
and the empty report does not give it back. -/
theorem merge_laws_wrongCounters :
    let a := run [.add ⟨"x", "1", "a.mk", none⟩, .add ⟨"y", "2", "a.mk", some 7⟩, .recordFile 2]
    let b := run [.add ⟨"z", "3", "b.mk", none⟩, .add ⟨"x", "4", "b.mk", none⟩, .recordFile 3]
    let wrong : Report := ⟨[⟨"x", "5", "c.mk", none⟩], ⟨4, 0, Table.empty.insert "y" 9⟩⟩
    a.Counted ∧ b.Counted ∧ (a.merge b).summary = (b.merge a).summary ∧ a.merge b ≠ b.merge a ∧
      (a.merge wrong).merge b = a.merge (wrong.merge b) ∧ empty.merge wrong ≠ wrong ∧
      (a.merge (wrong.merge b)).summary.byRule.toList = [("x", 3), ("y", 1), ("z", 1)] := by
  intro a b wrong
  obtain ⟨hassoc, -, hempty, -, -, hcomm, -⟩ := merge_laws
  have ha : a.Counted := counted_empty.foldl_apply _
  have hb : b.Counted := counted_empty.foldl_apply _
  refine ⟨ha, hb, hcomm a b ha hb, by decide, hassoc a wrong b, fun h => ?_, by decide⟩
  -- The counter of a rule that does not occur would have to be none.
  have hnone := ((hempty wrong).1 h "y" 9).1 (by decide)
  exact absurd hnone.2 (by decide)

end MakeLint.Report
