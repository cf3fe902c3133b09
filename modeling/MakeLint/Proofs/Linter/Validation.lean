import MakeLint.Linter
import MakeLint.Proofs.Registry.Interleaving
import MakeLint.Proofs.Report.Counting
import MakeLint.Rule.Listing

/-!
# Validating a build file

What a linter does to one build file, from the rules that were registered to the report. The rules
that are evaluated are decided twice, once to run them and once to count them; both agree
(`Registry.value_run`, `Registry.length_enabled_names`), and the report holds what they found and
nothing else (`Linter.validate_report`).
-/

namespace MakeLint

namespace Registry

/-! ## Registration -/

/-- A rule is registered behind the others. -/
theorem rules_register {registry next : Registry} {rule : Rule}
    (h : (registry.register rule).map (·.value) = .ok next) :
    next.rules = registry.rules ++ [rule] := by
  unfold register at h
  split at h
  next => cases h; rfl
  next => cases h

/-- Rules are registered behind the others, in their order. -/
theorem rules_registerAll {registry next : Registry} {rules : List Rule}
    (h : registry.registerAll rules = .ok next) : next.rules = registry.rules ++ rules := by
  unfold registerAll at h
  induction rules generalizing registry with
  | nil =>
    cases h
    exact (List.append_nil _).symm
  | cons rule rules ih =>
    rw [List.foldlM_cons] at h
    cases hregister : (registry.register rule).map (·.value) with
    | error failure =>
      rw [hregister] at h
      cases h
    | ok between =>
      rw [hregister] at h
      rw [ih h, rules_register hregister, List.append_assoc, List.singleton_append]

/-- Registering the rest of the rules of a registry completes it. -/
theorem registerAll_rest (registry : Registry) (coming : List Rule) (before : Registry)
    (h : before.rules ++ coming = registry.rules) : before.registerAll coming = .ok registry := by
  induction coming generalizing before with
  | nil =>
    obtain ⟨rules, distinct⟩ := before
    obtain rfl : rules = registry.rules := by rw [← h, List.append_nil]
    rfl
  | cons rule coming ih =>
    have hfresh : rule.name ∉ before.names := by
      have hdistinct := registry.distinct
      rw [← h, List.map_append, List.map_cons, List.nodup_append] at hdistinct
      intro hmem
      exact hdistinct.2.2 rule.name hmem rule.name List.mem_cons_self rfl
    have hregister : (before.register rule).map (·.value) =
        .ok ⟨before.rules ++ [rule], distinct_append before.distinct hfresh⟩ := by
      unfold register
      rw [dif_pos hfresh]
      rfl
    unfold registerAll
    rw [List.foldlM_cons, hregister]
    exact ih _ (by rw [List.append_assoc, List.singleton_append, h])

/-- A registry is made by registering its rules in their order, and in no other way. -/
theorem registerAll_eq_ok_iff (registry : Registry) (rules : List Rule) :
    empty.registerAll rules = .ok registry ↔ rules = registry.rules := by
  constructor
  · intro h
    exact (rules_registerAll h).symm
  · rintro rfl
    exact registerAll_rest registry registry.rules empty rfl

/-! ## Evaluation -/

/-- Running a registry gives what its enabled rules find, in the order of the rules. -/
theorem value_run (registry : Registry) (file : BuildFile) (config : Config) :
    (registry.run file config).value = (registry.enabled config).value.flatMap fun rule =>
      (rule.check file (config.options rule.name)).value := by
  rw [run_eq, enabled_eq]
  dsimp only
  induction registry.rules with
  | nil => rfl
  | cons rule rules ih =>
    rw [List.flatMap_cons, ih]
    -- The first rule is passed over or evaluated, and the filter decides alike.
    cases h : config.disables rule.name with
    | true => rw [if_pos rfl, List.filter_cons_of_neg (by simp [h]), List.nil_append]
    | false =>
      rw [if_neg Bool.false_ne_true, List.filter_cons_of_pos (by simp [h]), List.flatMap_cons]
      rfl

/-- There are as many enabled names as enabled rules. -/
theorem length_enabled_names (registry : Registry) (config : Config) :
    (registry.names.filter fun name => !config.disables name).length =
      (registry.enabled config).value.length := by
  rw [enabled_eq, names, List.filter_map, List.length_map]
  rfl

end Registry

namespace Linter

/-- The rules that a linter evaluates, in the order of their registration. -/
def evaluated (linter : Linter) : List Rule :=
  linter.registry.rules.filter fun rule => !linter.config.disables rule.name

/-- What a rule finds in a build file under the options that the linter has for it. -/
def found (linter : Linter) (file : BuildFile) (rule : Rule) : List Violation :=
  (rule.check file (linter.config.options rule.name)).value

/-! ## The parts of a report -/

/-- The report lists the violations of a run of the registry. -/
theorem violations_validate_run (linter : Linter) (file : BuildFile) :
    (linter.validate file).value.violations =
      (linter.registry.run file linter.config).value := by
  calc (linter.validate file).value.violations
      = (Report.empty.extend (linter.registry.run file linter.config).value).violations := rfl
    _ = (linter.registry.run file linter.config).value := Report.violations_extend _ _

/-- The report lists what the evaluated rules find. -/
theorem violations_validate (linter : Linter) (file : BuildFile) :
    (linter.validate file).value.violations = linter.evaluated.flatMap (linter.found file) := by
  rw [violations_validate_run, Registry.value_run, Registry.enabled_eq]
  rfl

/-- The counters by rule are right in the report of a build file. -/
theorem counted_validate (linter : Linter) (file : BuildFile) :
    (linter.validate file).value.Counted := by
  have hextend := Report.counted_empty.extend (linter.registry.run file linter.config).value
  exact hextend.of_eq rfl rfl

/-- One file is checked. -/
theorem filesChecked_validate (linter : Linter) (file : BuildFile) :
    (linter.validate file).value.summary.filesChecked = 1 := by
  unfold validate Report.recordFile
  dsimp only
  rw [Report.filesChecked_extend]
  rfl

/-- As many rules are run as are evaluated. -/
theorem rulesRun_validate (linter : Linter) (file : BuildFile) :
    (linter.validate file).value.summary.rulesRun = linter.evaluated.length := by
  unfold validate Report.recordFile
  dsimp only
  rw [Report.rulesRun_extend, Registry.length_enabled_names, Registry.enabled_eq]
  exact Nat.zero_add _

/-! ## The violations of one rule -/

/-- Rules that do not report in a name find nothing in it. -/
theorem filter_flatMap_eq_nil {rules : List Rule} {name : String} (find : Rule → List Violation)
    (h : ∀ rule ∈ rules, ∀ v ∈ find rule, v.rule ≠ name) :
    (rules.flatMap find).filter (·.rule == name) = [] := by
  rw [List.filter_flatMap, List.flatMap_eq_nil_iff]
  intro rule hrule
  rw [List.filter_eq_nil_iff]
  intro v hv hname
  exact h rule hrule v hv (beq_iff_eq.1 hname)

/-- What rules of distinct names find in the name of one of them is what that rule finds, if it
reports in its own name only and the others do not report in it. -/
theorem filter_flatMap_of_mem {rules : List Rule} (hnames : (rules.map (·.name)).Nodup)
    {rule : Rule} (hrule : rule ∈ rules) (find : Rule → List Violation)
    (hown : ∀ v ∈ find rule, v.rule = rule.name)
    (hothers : ∀ other ∈ rules, other.name ≠ rule.name → ∀ v ∈ find other, v.rule ≠ rule.name) :
    (rules.flatMap find).filter (·.rule == rule.name) = find rule := by
  -- The rule stands between others, and distinct names tell it apart from them.
  obtain ⟨before, behind, rfl⟩ := List.append_of_mem hrule
  rw [List.map_append, List.map_cons, List.nodup_append, List.nodup_cons] at hnames
  obtain ⟨-, ⟨hbehind, -⟩, hbefore⟩ := hnames
  have hnone : (before.flatMap find).filter (·.rule == rule.name) = [] := by
    refine filter_flatMap_eq_nil find fun other h => hothers other (List.mem_append_left _ h) ?_
    exact hbefore other.name (List.mem_map_of_mem h) rule.name List.mem_cons_self
  have hself : (find rule).filter (·.rule == rule.name) = find rule :=
    List.filter_eq_self.2 fun v hv => beq_iff_eq.2 (hown v hv)
  have hnone' : (behind.flatMap find).filter (·.rule == rule.name) = [] := by
    refine filter_flatMap_eq_nil find fun other h =>
      hothers other (List.mem_append_right _ (List.mem_cons_of_mem _ h)) ?_
    intro heq
    exact hbehind (heq ▸ List.mem_map_of_mem h)
  rw [List.flatMap_append, List.flatMap_cons, List.filter_append, List.filter_append, hnone, hself,
    hnone', List.nil_append, List.append_nil]

/-- The violations in the name of a rule are what the rule finds, and none if it is disabled,
provided that it reports in its own name only and no other evaluated rule reports in it. -/
theorem ofRule_validate (linter : Linter) (file : BuildFile) {rule : Rule}
    (hrule : rule ∈ linter.registry.rules)
    (hown : ∀ v ∈ linter.found file rule, v.rule = rule.name)
    (hothers : ∀ other ∈ linter.evaluated, other.name ≠ rule.name →
      ∀ v ∈ linter.found file other, v.rule ≠ rule.name) :
    (linter.validate file).value.ofRule rule.name =
      if linter.config.disables rule.name then [] else linter.found file rule := by
  unfold Report.ofRule
  rw [violations_validate]
  split
  next hdisabled =>
    refine filter_flatMap_eq_nil _ fun other hother => hothers other hother fun hname => ?_
    -- An evaluated rule of this name would be enabled under it.
    have henabled := (List.mem_filter.1 hother).2
    rw [hname, hdisabled] at henabled
    cases henabled
  next henabled =>
    have hnames : (linter.evaluated.map (·.name)).Nodup :=
      (List.filter_sublist.map _).nodup linter.registry.distinct
    have hmem : rule ∈ linter.evaluated := List.mem_filter.2 ⟨hrule, by simp [henabled]⟩
    exact filter_flatMap_of_mem hnames hmem _ hown hothers

/-! ## The whole report -/

/-- What the report of a build file says, for any registry that registrations can make and any
configuration. The violations are those that the enabled rules find under their options, in the
order of registration. One file was checked, as many rules were run as were evaluated, and each rule
that occurs is counted as often as it occurs. A rule that alone reports in its name is listed with
what it finds, and with nothing if it is disabled. -/
theorem validate_report (linter : Linter) (file : BuildFile) :
    let report := (linter.validate file).value
    (∀ rules, Registry.empty.registerAll rules = .ok linter.registry ↔
        rules = linter.registry.rules) ∧
      report.violations = linter.evaluated.flatMap (linter.found file) ∧
      report.summary.filesChecked = 1 ∧
      report.summary.rulesRun = linter.evaluated.length ∧
      (∀ rule, rule ∈ report.summary.byRule.keys ↔ rule ∈ report.violations.map (·.rule)) ∧
      (∀ rule n, report.summary.byRule.get? rule = some n ↔
        0 < n ∧ n = Report.occurrences report.violations rule) ∧
      ∀ rule ∈ linter.registry.rules, (∀ v ∈ linter.found file rule, v.rule = rule.name) →
        (∀ other ∈ linter.evaluated, other.name ≠ rule.name →
          ∀ v ∈ linter.found file other, v.rule ≠ rule.name) →
        report.ofRule rule.name =
          if linter.config.disables rule.name then [] else linter.found file rule := by
  intro report
  have hcounted : report.Counted := linter.counted_validate file
  refine ⟨linter.registry.registerAll_eq_ok_iff, linter.violations_validate file,
    linter.filesChecked_validate file, linter.rulesRun_validate file, hcounted.mem_keys_iff,
    hcounted.get?_eq_some_iff, ?_⟩
  intro rule hrule hown hothers
  exact linter.ofRule_validate file hrule hown hothers

/-- A linter of two listing rules, one of them disabled. -/
def listing : Linter where
  registry := ⟨[Rule.everyTarget "targets", Rule.everyOption "options"], by decide⟩
  config := ({} : Config).set "options" disabledKey "TRUE"

/-- The report of two targets lists both in the name of the rule that is enabled, and nothing in the
name of the other rule. -/
theorem validate_listing :
    let file : BuildFile := { name := "Makefile", rules := [⟨"all"⟩, ⟨"clean"⟩] }
    (listing.validate file).value.ofRule "targets" =
        [⟨"targets", "all", "Makefile", some 1⟩, ⟨"targets", "clean", "Makefile", some 2⟩] ∧
      (listing.validate file).value.ofRule "options" = [] := by
  intro file
  obtain ⟨-, -, -, -, -, -, hofRule⟩ := validate_report listing file
  constructor
  · exact hofRule _ List.mem_cons_self (by decide) (by decide)
  · exact hofRule _ (List.mem_cons_of_mem _ List.mem_cons_self) (by decide) (by decide)

end Linter

end MakeLint
