import MakeLint.Proofs.Table.Contents
import MakeLint.Report
import Mathlib

/-!
# Reports count their violations

A report is `Counted` if its counters by rule are those of its own violations. Every way to change a
report keeps it so, also merging with a report whose counters are wrong, since merging counts the
other violations anew. So the counters of a report are right after any series of changes
(`Report.run_consistent`).
-/

namespace MakeLint.Report

/-- How often a rule occurs among violations. -/
def occurrences (vs : List Violation) (rule : String) : Nat := vs.countP (·.rule == rule)

/-- The counters by rule of a report are those of its violations. -/
structure Counted (r : Report) : Prop where
  /-- A rule has a counter if it occurs, and the counter says how often. -/
  get?_byRule : ∀ rule, r.summary.byRule.get? rule =
    if occurrences r.violations rule = 0 then none else some (occurrences r.violations rule)
  /-- The counters add up to the number of violations. -/
  total : r.summary.total = r.violations.length

/-- The empty report is counted. -/
theorem counted_empty : empty.Counted where
  get?_byRule _ := rfl
  total := rfl

/-! ## Single violations -/

/-- A rule occurs in two lists together as often as in each. -/
theorem occurrences_append (vs ws : List Violation) (rule : String) :
    occurrences (vs ++ ws) rule = occurrences vs rule + occurrences ws rule := List.countP_append

/-- A violation more is one occurrence more of its rule. -/
theorem occurrences_append_singleton (vs : List Violation) (v : Violation) (rule : String) :
    occurrences (vs ++ [v]) rule = occurrences vs rule + if rule = v.rule then 1 else 0 := by
  unfold occurrences
  rw [List.countP_append, List.countP_singleton]
  by_cases h : rule = v.rule
  · simp [h]
  · simp [h, Ne.symm h]

/-- The counters by rule add up to the total, one more after a violation was counted. -/
theorem total_count (s : Summary) (rule : String) : (s.count rule).total = s.total + 1 := by
  have h := s.byRule.sum_values_insert rule ((s.byRule.get? rule).getD 0 + 1)
  unfold Summary.total Summary.count
  dsimp only
  omega

/-- A violation that is added is counted. -/
theorem Counted.add {r : Report} (h : r.Counted) (v : Violation) : (r.add v).Counted where
  get?_byRule rule := by
    unfold Report.add Summary.count
    rw [Table.get?_insert, occurrences_append_singleton, h.get?_byRule v.rule, h.get?_byRule rule]
    -- The counter of the rule goes up, and no other counter changes.
    by_cases hrule : rule = v.rule
    · subst hrule
      by_cases hzero : occurrences r.violations v.rule = 0
      · simp [hzero]
      · simp [hzero]
    · simp [hrule]
  total := by
    unfold Report.add
    rw [total_count, h.total, List.length_append, List.length_singleton]

/-! ## Lists of violations -/

/-- Adding a list of violations puts it behind the others. -/
theorem violations_extend (r : Report) (vs : List Violation) :
    (r.extend vs).violations = r.violations ++ vs := by
  unfold extend
  induction vs generalizing r with
  | nil => simp
  | cons v vs ih => rw [List.foldl_cons, ih]; simp [add]

/-- Adding a list of violations checks no file. -/
theorem filesChecked_extend (r : Report) (vs : List Violation) :
    (r.extend vs).summary.filesChecked = r.summary.filesChecked := by
  unfold extend
  induction vs generalizing r with
  | nil => rfl
  | cons v vs ih => rw [List.foldl_cons, ih]; rfl

/-- Adding a list of violations runs no rule. -/
theorem rulesRun_extend (r : Report) (vs : List Violation) :
    (r.extend vs).summary.rulesRun = r.summary.rulesRun := by
  unfold extend
  induction vs generalizing r with
  | nil => rfl
  | cons v vs ih => rw [List.foldl_cons, ih]; rfl

/-- A list of violations that is added is counted. -/
theorem Counted.extend {r : Report} (h : r.Counted) (vs : List Violation) :
    (r.extend vs).Counted := by
  unfold Report.extend
  induction vs generalizing r with
  | nil => exact h
  | cons v vs ih => exact ih (h.add v)

/-- The other two counters do not matter to the counts by rule. -/
theorem Counted.of_eq {r s : Report} (h : r.Counted) (hviolations : s.violations = r.violations)
    (hbyRule : s.summary.byRule = r.summary.byRule) : s.Counted where
  get?_byRule rule := by rw [hviolations, hbyRule]; exact h.get?_byRule rule
  total := by
    have htotal := h.total
    unfold Summary.total at htotal ⊢
    rw [hviolations, hbyRule]
    exact htotal

/-! ## Series of changes -/

/-- One way to change a report. -/
inductive Step where
  /-- A violation is added. -/
  | add (v : Violation)
  /-- The violations of a list are added. -/
  | extend (vs : List Violation)
  /-- A build file is recorded, on which so many rules were run. -/
  | recordFile (rulesRun : Nat)
  /-- Another report is merged in, whatever its counters say. -/
  | merge (other : Report)

/-- The report after a change. -/
def apply (r : Report) : Step → Report
  | .add v => r.add v
  | .extend vs => r.extend vs
  | .recordFile rulesRun => r.recordFile rulesRun
  | .merge other => r.merge other

/-- The report of a series of changes, from the empty one on. -/
def run (steps : List Step) : Report := steps.foldl apply empty

namespace Step

/-- The violations that a change adds. -/
def added : Step → List Violation
  | .add v => [v]
  | .extend vs => vs
  | .recordFile _ => []
  | .merge other => other.violations

/-- The number of rules that were run on the build file that a change records. -/
def recorded? : Step → Option Nat
  | .recordFile rulesRun => some rulesRun
  | _ => none

/-- The report that a change merges in. -/
def merged? : Step → Option Report
  | .merge other => some other
  | _ => none

end Step

/-- Every change keeps the counters by rule right. -/
theorem Counted.apply {r : Report} (h : r.Counted) (step : Step) : (r.apply step).Counted := by
  cases step with
  | add v => exact h.add v
  | extend vs => exact h.extend vs
  | recordFile rulesRun => exact h.of_eq rfl rfl
  | merge other =>
    -- The counters by rule of the other report are not used.
    exact (h.extend other.violations).of_eq rfl rfl

/-- A change puts its violations behind the others. -/
theorem violations_apply (r : Report) (step : Step) :
    (r.apply step).violations = r.violations ++ step.added := by
  cases step with
  | add v => rfl
  | extend vs => exact violations_extend r vs
  | recordFile rulesRun => exact (List.append_nil _).symm
  | merge other => exact violations_extend r other.violations

/-- A change checks the file that it records and the files of the report that it merges in. -/
theorem filesChecked_apply (r : Report) (step : Step) :
    (r.apply step).summary.filesChecked = r.summary.filesChecked +
      step.recorded?.elim 0 (fun _ => 1) + step.merged?.elim 0 (·.summary.filesChecked) := by
  cases step with
  | add v => rfl
  | extend vs => exact filesChecked_extend r vs
  | recordFile rulesRun => rfl
  | merge other =>
    show (r.extend other.violations).summary.filesChecked + other.summary.filesChecked = _
    rw [filesChecked_extend]
    rfl

/-- A change runs the rules that it records and those of the report that it merges in. -/
theorem rulesRun_apply (r : Report) (step : Step) :
    (r.apply step).summary.rulesRun = r.summary.rulesRun +
      step.recorded?.getD 0 + step.merged?.elim 0 (·.summary.rulesRun) := by
  cases step with
  | add v => rfl
  | extend vs => exact rulesRun_extend r vs
  | recordFile rulesRun => rfl
  | merge other =>
    show (r.extend other.violations).summary.rulesRun + other.summary.rulesRun = _
    rw [rulesRun_extend]
    rfl

/-! ### From single changes to series -/

/-- The counters by rule are right after any series of changes to a report in which they are. -/
theorem Counted.foldl_apply {r : Report} (h : r.Counted) (steps : List Step) :
    (steps.foldl Report.apply r).Counted := by
  induction steps generalizing r with
  | nil => exact h
  | cons step steps ih => exact ih (h.apply step)

/-- A series of changes puts its violations behind the others, in the order of the changes. -/
theorem violations_foldl_apply (steps : List Step) (r : Report) :
    (steps.foldl apply r).violations = r.violations ++ steps.flatMap Step.added := by
  induction steps generalizing r with
  | nil => simp
  | cons step steps ih =>
    rw [List.foldl_cons, ih, violations_apply, List.flatMap_cons, List.append_assoc]

/-- A series of changes checks one file for each that it records, and the files of the reports that
it merges in. -/
theorem filesChecked_foldl_apply (steps : List Step) (r : Report) :
    (steps.foldl apply r).summary.filesChecked = r.summary.filesChecked +
      (steps.filterMap Step.recorded?).length +
      ((steps.filterMap Step.merged?).map (·.summary.filesChecked)).sum := by
  induction steps generalizing r with
  | nil => rfl
  | cons step steps ih =>
    rw [List.foldl_cons, ih, filesChecked_apply, List.filterMap_cons, List.filterMap_cons]
    -- The first change stands in front of both lists that are counted, if it stands in them.
    cases step.recorded? <;> cases step.merged? <;>
      simp only [Option.elim, List.length_cons, List.map_cons, List.sum_cons] <;> omega

/-- A series of changes runs the rules that it records, and those of the reports that it merges
in. -/
theorem rulesRun_foldl_apply (steps : List Step) (r : Report) :
    (steps.foldl apply r).summary.rulesRun = r.summary.rulesRun +
      (steps.filterMap Step.recorded?).sum +
      ((steps.filterMap Step.merged?).map (·.summary.rulesRun)).sum := by
  induction steps generalizing r with
  | nil => rfl
  | cons step steps ih =>
    rw [List.foldl_cons, ih, rulesRun_apply, List.filterMap_cons, List.filterMap_cons]
    cases step.recorded? <;> cases step.merged? <;>
      simp only [Option.elim, Option.getD, List.map_cons, List.sum_cons] <;> omega

/-! ## Counted reports -/

/-- A rule occurs among violations if one of them has its name. -/
theorem occurrences_pos_iff (vs : List Violation) (rule : String) :
    0 < occurrences vs rule ↔ rule ∈ vs.map (·.rule) := by
  unfold occurrences
  rw [List.countP_pos_iff, List.mem_map]
  simp only [beq_iff_eq]

/-- A rule that none of the violations names does not occur. -/
theorem occurrences_eq_zero {vs : List Violation} {rule : String} (h : rule ∉ vs.map (·.rule)) :
    occurrences vs rule = 0 :=
  Nat.eq_zero_of_not_pos fun hpos => h ((occurrences_pos_iff vs rule).1 hpos)

/-- In a counted report a counter stands for a rule exactly if it is the positive number of its
occurrences. -/
theorem Counted.get?_eq_some_iff {r : Report} (h : r.Counted) (rule : String) (n : Nat) :
    r.summary.byRule.get? rule = some n ↔ 0 < n ∧ n = occurrences r.violations rule := by
  rw [h.get?_byRule]
  split
  next hzero =>
    constructor
    · intro hnone
      cases hnone
    · rintro ⟨hpos, rfl⟩
      omega
  next hne =>
    rw [Option.some_inj]
    constructor
    · rintro rfl
      exact ⟨by omega, rfl⟩
    · rintro ⟨-, rfl⟩
      rfl

/-- In a counted report the rules with a counter are those that occur. -/
theorem Counted.mem_keys_iff {r : Report} (h : r.Counted) (rule : String) :
    rule ∈ r.summary.byRule.keys ↔ rule ∈ r.violations.map (·.rule) := by
  rw [Table.mem_keys_iff, ← occurrences_pos_iff]
  constructor
  · rintro ⟨n, hn⟩
    obtain ⟨hpos, rfl⟩ := (h.get?_eq_some_iff rule n).1 hn
    exact hpos
  · intro hpos
    exact ⟨_, (h.get?_eq_some_iff rule _).2 ⟨hpos, rfl⟩⟩

/-- The counter of a rule in a counted report, zero if there is none, is the number of its
occurrences. -/
theorem Counted.getD_byRule {r : Report} (h : r.Counted) (rule : String) :
    (r.summary.byRule.get? rule).getD 0 = occurrences r.violations rule := by
  rw [h.get?_byRule]
  split
  next hzero => exact hzero.symm
  next => rfl

/-- In a counted report the violations of a rule are as many as its counter says, and none without a
counter. -/
theorem Counted.length_ofRule {r : Report} (h : r.Counted) (rule : String) :
    (r.ofRule rule).length = (r.summary.byRule.get? rule).getD 0 := by
  rw [h.getD_byRule]
  exact List.countP_eq_length_filter.symm

/-- After any series of changes to the empty report its counters are consistent with its violations
and with the changes. The counters by rule stand for exactly the rules that occur and add up to the
number of violations; the violations are those of the changes in their order; and the two other
counters are those of the files recorded and of the reports merged in, whose counters by rule play
no part. -/
theorem run_consistent (steps : List Step) :
    (∀ rule, rule ∈ (run steps).summary.byRule.keys ↔ rule ∈ (run steps).violations.map (·.rule)) ∧
      (∀ rule n, (run steps).summary.byRule.get? rule = some n ↔
        0 < n ∧ n = occurrences (run steps).violations rule) ∧
      (run steps).summary.total = (run steps).violations.length ∧
      (∀ rule, ((run steps).ofRule rule).length =
        ((run steps).summary.byRule.get? rule).getD 0) ∧
      (run steps).violations = steps.flatMap Step.added ∧
      (run steps).summary.filesChecked = (steps.filterMap Step.recorded?).length +
        ((steps.filterMap Step.merged?).map (·.summary.filesChecked)).sum ∧
      (run steps).summary.rulesRun = (steps.filterMap Step.recorded?).sum +
        ((steps.filterMap Step.merged?).map (·.summary.rulesRun)).sum := by
  have hcounted : (run steps).Counted := counted_empty.foldl_apply steps
  refine ⟨hcounted.mem_keys_iff, hcounted.get?_eq_some_iff, hcounted.total,
    hcounted.length_ofRule, ?_, ?_, ?_⟩
  · exact violations_foldl_apply steps empty
  · rw [run, filesChecked_foldl_apply, show empty.summary.filesChecked = 0 from rfl, Nat.zero_add]
  · rw [run, rulesRun_foldl_apply, show empty.summary.rulesRun = 0 from rfl, Nat.zero_add]

end MakeLint.Report
