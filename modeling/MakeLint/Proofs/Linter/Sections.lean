import MakeLint.Proofs.Registry.Contributions

/-!
# Sections of a configuration do not interfere

A rule is looked up in the configuration by its name, to decide whether it is run, under which
options, and how it is counted. Each of these depends on the section of that rule alone
(`Config.disables_congr`, `Registry.contribution_congr`). So a configuration shows in a report only
through the sections of registered rules, and a section only in the violations of its own rule and
in what is counted of them (`Linter.validate_sections`).
-/

namespace MakeLint

namespace Config

/-- Whether a rule is disabled depends on its own options only. -/
theorem disables_congr {c d : Config} {name : String} (h : d.options name = c.options name) :
    d.disables name = c.disables name := by
  unfold disables
  rw [h]

/-- Setting an option of one rule leaves the options of the others alone. -/
theorem options_set_of_ne (c : Config) {name other : String} (h : other ≠ name)
    (key value : String) : (c.set name key value).options other = c.options other := by
  unfold options set
  rw [Table.get?_insert_of_ne h]

/-- A rule whose option `disabled` is set to a text that writes true is disabled. -/
theorem disables_set (c : Config) (name : String) {raw : String}
    (h : Options.readFlag raw = some true) : (c.set name disabledKey raw).disables name = true := by
  unfold disables options set
  rw [Table.get?_insert_self, Option.getD_some, Options.flag?, Table.get?_insert_self,
    Option.bind_some, h]
  rfl

end Config

namespace Registry

/-- What a rule contributes depends on its own options only. -/
theorem contribution_congr (file : BuildFile) {c d : Config} {rule : Rule}
    (h : d.options rule.name = c.options rule.name) :
    contribution file d rule = contribution file c rule := by
  unfold contribution
  rw [Config.disables_congr h, h]

/-- Around the rule of a name stand rules of other names. -/
theorem exists_rules_eq_append (registry : Registry) {name : String} (h : name ∈ registry.names) :
    ∃ before rule behind, registry.rules = before ++ rule :: behind ∧ rule.name = name ∧
      ∀ other ∈ before ++ behind, other.name ≠ name := by
  obtain ⟨rule, hrule, rfl⟩ := List.mem_map.1 h
  obtain ⟨before, behind, hrules⟩ := List.append_of_mem hrule
  refine ⟨before, rule, behind, hrules, rfl, fun other hother => ?_⟩
  have hdistinct := registry.distinct
  rw [hrules, List.map_append, List.map_cons, List.nodup_append, List.nodup_cons] at hdistinct
  obtain ⟨-, ⟨hbehind, -⟩, hbefore⟩ := hdistinct
  rcases List.mem_append.1 hother with h | h
  · exact hbefore other.name (List.mem_map_of_mem h) rule.name List.mem_cons_self
  · intro heq
    exact hbehind (heq ▸ List.mem_map_of_mem h)

end Registry

namespace Linter

/-- A report lists what the rules contribute, in the order of registration. -/
theorem violations_validate_contributions (linter : Linter) (file : BuildFile) :
    (linter.validate file).value.violations =
      linter.registry.rules.flatMap (Registry.contribution file linter.config) := by
  rw [violations_validate_run, Registry.value_run_eq_flatMap]

/-- A report counts the rules that are not disabled. -/
theorem rulesRun_validate_countP (linter : Linter) (file : BuildFile) :
    (linter.validate file).value.summary.rulesRun =
      linter.registry.rules.countP fun rule => !linter.config.disables rule.name := by
  rw [rulesRun_validate, evaluated, List.countP_eq_length_filter]

/-- Configurations with the same options for all registered rules give the same report and the same
events. -/
theorem validate_congr (registry : Registry) (file : BuildFile) {c d : Config}
    (h : ∀ name ∈ registry.names, d.options name = c.options name) :
    (Linter.mk registry d).validate file = (Linter.mk registry c).validate file := by
  have hrun : registry.run file d = registry.run file c := by
    have hevaluate : ∀ rule ∈ registry.rules, d.disables rule.name = c.disables rule.name ∧
        Registry.evaluate file d rule = Registry.evaluate file c rule := by
      intro rule hrule
      have hoptions := h rule.name (List.mem_map_of_mem hrule)
      unfold Registry.evaluate
      rw [Config.disables_congr hoptions, hoptions]
      exact ⟨rfl, rfl⟩
    rw [Registry.run_eq, Registry.run_eq]
    congr 1
    · refine List.flatMap_congr fun rule hrule => ?_
      rw [(hevaluate rule hrule).1, (hevaluate rule hrule).2]
    · refine List.flatMap_congr fun rule hrule => ?_
      rw [(hevaluate rule hrule).1, (hevaluate rule hrule).2]
  have hnames : (registry.names.filter fun name => !d.disables name) =
      registry.names.filter fun name => !c.disables name := by
    refine List.filter_congr fun name hname => ?_
    rw [Config.disables_congr (h name hname)]
  unfold validate
  dsimp only
  rw [hrun, hnames]

/-! ## One section -/

section OneSection

open Registry (contribution)

variable {registry : Registry} {before behind : List Rule} {rule : Rule}
  (hrules : registry.rules = before ++ rule :: behind) (file : BuildFile)

include hrules

/-- The violations of a rule stand in one block, between those of the rules around it. -/
theorem violations_validate_split (c : Config) :
    ((Linter.mk registry c).validate file).value.violations =
      before.flatMap (contribution file c) ++ contribution file c rule ++
        behind.flatMap (contribution file c) := by
  rw [violations_validate_contributions, hrules, List.flatMap_append, List.flatMap_cons,
    List.append_assoc]

variable {c d : Config}
  (hothers : ∀ other ∈ before ++ behind, d.options other.name = c.options other.name)

include hothers

/-- If only the section of one rule changes, the blocks of the others stay as they are. -/
theorem violations_validate_changed :
    ((Linter.mk registry d).validate file).value.violations =
      before.flatMap (contribution file c) ++ contribution file d rule ++
        behind.flatMap (contribution file c) := by
  have hbefore : before.flatMap (contribution file d) = before.flatMap (contribution file c) :=
    List.flatMap_congr fun other h =>
      Registry.contribution_congr file (hothers other (List.mem_append_left _ h))
  have hbehind : behind.flatMap (contribution file d) = behind.flatMap (contribution file c) :=
    List.flatMap_congr fun other h =>
      Registry.contribution_congr file (hothers other (List.mem_append_right _ h))
  rw [violations_validate_split hrules, hbefore, hbehind]

/-- If only the section of one rule changes, the number of rules run changes by that rule. -/
theorem rulesRun_validate_changed :
    ((Linter.mk registry d).validate file).value.summary.rulesRun +
        (if c.disables rule.name then 0 else 1) =
      ((Linter.mk registry c).validate file).value.summary.rulesRun +
        (if d.disables rule.name then 0 else 1) := by
  have hsame (rules : List Rule) (hsub : ∀ other ∈ rules, other ∈ before ++ behind) :
      (rules.countP fun other => !d.disables other.name) =
        rules.countP fun other => !c.disables other.name := by
    refine List.countP_congr fun other h => ?_
    rw [Config.disables_congr (hothers other (hsub other h))]
  have hbefore := hsame before fun _ h => List.mem_append_left _ h
  have hbehind := hsame behind fun _ h => List.mem_append_right _ h
  rw [rulesRun_validate_countP, rulesRun_validate_countP, hrules]
  simp only [List.countP_append, List.countP_cons, hbefore, hbehind]
  cases c.disables rule.name <;> cases d.disables rule.name <;> simp <;> omega

/-- If only the section of one rule changes, each name occurs more or less often by what it occurs
in that rule's block. -/
theorem occurrences_validate_changed (name : String) :
    Report.occurrences ((Linter.mk registry d).validate file).value.violations name +
        Report.occurrences (contribution file c rule) name =
      Report.occurrences ((Linter.mk registry c).validate file).value.violations name +
        Report.occurrences (contribution file d rule) name := by
  rw [violations_validate_changed hrules file hothers, violations_validate_split hrules]
  simp only [Report.occurrences_append]
  omega

/-- If only the section of one rule changes, each counter changes by what it counts of that rule's
block. -/
theorem getD_byRule_validate_changed (name : String) :
    (((Linter.mk registry d).validate file).value.summary.byRule.get? name).getD 0 +
        Report.occurrences (contribution file c rule) name =
      (((Linter.mk registry c).validate file).value.summary.byRule.get? name).getD 0 +
        Report.occurrences (contribution file d rule) name := by
  rw [(counted_validate _ file).getD_byRule, (counted_validate _ file).getD_byRule]
  exact occurrences_validate_changed hrules file hothers name

/-- If only the section of one rule changes, the counters of names outside of that rule's block stay
as they are. -/
theorem get?_byRule_validate_changed {name : String}
    (hold : name ∉ (contribution file c rule).map (·.rule))
    (hnew : name ∉ (contribution file d rule).map (·.rule)) :
    ((Linter.mk registry d).validate file).value.summary.byRule.get? name =
      ((Linter.mk registry c).validate file).value.summary.byRule.get? name := by
  have hsame := occurrences_validate_changed hrules file hothers name
  rw [Report.occurrences_eq_zero hold, Report.occurrences_eq_zero hnew, Nat.add_zero,
    Nat.add_zero] at hsame
  rw [(counted_validate _ file).get?_byRule, (counted_validate _ file).get?_byRule, hsame]

end OneSection

/-- What the sections of a configuration have to do with a report. Configurations with the same
options for every registered rule give the same report. If they differ in the options of one of
these rules, the reports differ in the block of that rule: the blocks around it stay as they are,
each counter changes by what it counts of the block, and the number of rules run changes by one at
most. If `disabled` is set to a text that writes true, the block is taken out, and one rule less is
run unless the rule was disabled before. -/
theorem validate_sections (registry : Registry) (file : BuildFile) (c : Config) :
    let report := fun config : Config => ((Linter.mk registry config).validate file).value
    let block := Registry.contribution file
    (∀ d : Config, (∀ name ∈ registry.names, d.options name = c.options name) →
        report d = report c) ∧
      ∀ name ∈ registry.names, ∃ before rule behind,
        registry.rules = before ++ rule :: behind ∧ rule.name = name ∧
        (report c).violations =
          before.flatMap (block c) ++ block c rule ++ behind.flatMap (block c) ∧
        (∀ d : Config,
          (∀ other ∈ registry.names, other ≠ name → d.options other = c.options other) →
          (report d).violations =
              before.flatMap (block c) ++ block d rule ++ behind.flatMap (block c) ∧
            (∀ key, ((report d).summary.byRule.get? key).getD 0 +
                Report.occurrences (block c rule) key =
              ((report c).summary.byRule.get? key).getD 0 +
                Report.occurrences (block d rule) key) ∧
            (∀ key, key ∉ (block c rule).map (·.rule) → key ∉ (block d rule).map (·.rule) →
              (report d).summary.byRule.get? key = (report c).summary.byRule.get? key) ∧
            (report d).summary.filesChecked = (report c).summary.filesChecked ∧
            (report d).summary.rulesRun ≤ (report c).summary.rulesRun + 1 ∧
            (report c).summary.rulesRun ≤ (report d).summary.rulesRun + 1) ∧
        ∀ raw, Options.readFlag raw = some true →
          (report (c.set name disabledKey raw)).violations =
              before.flatMap (block c) ++ behind.flatMap (block c) ∧
            (report c).summary.rulesRun = (report (c.set name disabledKey raw)).summary.rulesRun +
              if c.disables name then 0 else 1 := by
  intro report block
  refine ⟨fun d h => congrArg (·.value) (validate_congr registry file h), fun name hname => ?_⟩
  obtain ⟨before, rule, behind, hrules, rfl, hdistinct⟩ := registry.exists_rules_eq_append hname
  have hmem : ∀ other ∈ before ++ behind, other.name ∈ registry.names := by
    intro other hother
    refine List.mem_map_of_mem ?_
    rw [hrules]
    simp only [List.mem_append, List.mem_cons] at hother ⊢
    exact hother.imp_right .inr
  refine ⟨before, rule, behind, hrules, rfl, violations_validate_split hrules file c, ?_, ?_⟩
  · intro d hd
    have hothers : ∀ other ∈ before ++ behind, d.options other.name = c.options other.name :=
      fun other h => hd other.name (hmem other h) (hdistinct other h)
    have hrulesRun : (report d).summary.rulesRun + (if c.disables rule.name then 0 else 1) =
        (report c).summary.rulesRun + (if d.disables rule.name then 0 else 1) :=
      rulesRun_validate_changed hrules file hothers
    have hfiles : (report d).summary.filesChecked = (report c).summary.filesChecked :=
      (filesChecked_validate _ file).trans (filesChecked_validate _ file).symm
    refine ⟨violations_validate_changed hrules file hothers,
      getD_byRule_validate_changed hrules file hothers,
      fun key hold hnew => get?_byRule_validate_changed hrules file hothers hold hnew, hfiles, ?_⟩
    split at hrulesRun <;> split at hrulesRun <;> omega
  · intro raw hraw
    have hothers : ∀ other ∈ before ++ behind,
        (c.set rule.name disabledKey raw).options other.name = c.options other.name :=
      fun other h => c.options_set_of_ne (hdistinct other h) disabledKey raw
    have hdisabled := c.disables_set rule.name hraw
    have hviolations := violations_validate_changed hrules file hothers
    have hrulesRun := rulesRun_validate_changed hrules file hothers
    have hnone : Registry.contribution file (c.set rule.name disabledKey raw) rule = [] :=
      if_pos hdisabled
    rw [hnone, List.append_nil] at hviolations
    rw [hdisabled, if_pos rfl, Nat.add_zero] at hrulesRun
    exact ⟨hviolations, hrulesRun.symm⟩

/-- In a registry of two listing rules, another version and a section of a name that is not
registered do not show; another option of one rule leaves the counter of the other alone; and a text
that writes true, whatever its case and the blanks around it, takes one rule out. -/
theorem validate_sections_listing :
    let file : BuildFile := { name := "Makefile", rules := [⟨"all"⟩] }
    let report := fun config : Config => ((Linter.mk listing.registry config).validate file).value
    let c := ({} : Config).set "options" "a" "1"
    let elsewhere : Config := { c.set "absent" "disabled" "true" with version := "2" }
    report elsewhere = report c ∧
      (report (c.set "options" "b" "2")).summary.byRule.get? "targets" =
        (report c).summary.byRule.get? "targets" ∧
      Options.readFlag "\u2003yEs\t" = some true ∧
      (report c).summary.rulesRun =
        (report (c.set "options" disabledKey "\u2003yEs\t")).summary.rulesRun + 1 := by
  intro file report c elsewhere
  obtain ⟨hsame, hsections⟩ := validate_sections listing.registry file c
  obtain ⟨before, rule, behind, hrules, hname, -, hchanged, hdisabled⟩ :=
    hsections "options" (by decide)
  have hrule : rule = Rule.everyOption "options" := by
    have hmem : rule ∈ listing.registry.rules :=
      hrules ▸ List.mem_append_right before List.mem_cons_self
    rcases List.mem_pair.1 hmem with rfl | rfl
    · exact absurd hname (by decide)
    · rfl
  subst hrule
  obtain ⟨-, -, hcounters, -⟩ := hchanged (c.set "options" "b" "2") (by decide)
  have hreads : Options.readFlag "\u2003yEs\t" = some true := by decide
  exact ⟨hsame elsewhere (by decide), hcounters "targets" (by decide) (by decide), hreads,
    (hdisabled _ hreads).2⟩

end Linter

end MakeLint
