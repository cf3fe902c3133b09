import MakeLint.Proofs.Text.Splitting
import MakeLint.Rule.RequiredPhony

/-!
# What the rule for required phony targets reports

A build file declares the words of all assignments to `PHONY` (`RequiredPhony.Declares`). What is
required is the list that the option `required` writes, or else the list of the rule
(`RequiredPhony.Requires`). The rule reports what is required and not declared
(`RequiredPhony.check_reports`).
-/

namespace MakeLint.RequiredPhony

/-- A build file declares a target if it is a word of what a variable named `PHONY` is assigned. -/
def Declares (file : BuildFile) (target : String) : Prop :=
  ∃ v ∈ file.bindings, v.name = "PHONY" ∧ Text.IsWord target.toList v.assignment.toList

instance (file : BuildFile) (target : String) : Decidable (Declares file target) :=
  inferInstanceAs (Decidable (∃ v ∈ file.bindings,
    v.name = "PHONY" ∧ Text.IsWord target.toList v.assignment.toList))

/-- The targets that a rule requires: those that the option `required` lists, and the rule's own
ones if there is no such option. -/
def Requires (rule : RequiredPhony) (options : Options) (required : List String) : Prop :=
  match options.get? "required" with
  | some raw => Text.Lists raw.toList (required.map (·.toList))
  | none => required = rule.required

/-- The declared words of a build file are the targets that it declares. -/
theorem mem_declared_iff {file : BuildFile} {target : String} :
    target ∈ declared file ↔ Declares file target := by
  have hword (text : String) :
      target ∈ (Text.words text.toList).map String.ofList ↔
        Text.IsWord target.toList text.toList := by
    rw [← Text.mem_words_iff, List.mem_map]
    constructor
    · rintro ⟨word, hword, rfl⟩
      rw [String.toList_ofList]
      exact hword
    · intro h
      exact ⟨target.toList, h, String.ofList_toList⟩
  unfold declared BuildFile.assignments Declares
  simp only [List.mem_flatMap, List.mem_map, List.mem_filter, beq_iff_eq]
  constructor
  · rintro ⟨text, ⟨v, ⟨hv, hname⟩, rfl⟩, h⟩
    exact ⟨v, hv, hname, (hword v.assignment).1 (List.mem_map.2 h)⟩
  · rintro ⟨v, hv, hname, h⟩
    exact ⟨v.assignment, ⟨v, ⟨hv, hname⟩, rfl⟩, List.mem_map.1 ((hword v.assignment).2 h)⟩

/-- A rule requires one list of targets under any options. -/
theorem requires_iff {rule : RequiredPhony} {options : Options} {required : List String} :
    rule.Requires options required ↔ required = rule.requiredUnder options := by
  unfold Requires requiredUnder Options.list? requiredKey
  cases options.get? "required" with
  | none => exact Iff.rfl
  | some raw =>
    dsimp only [Option.map_some, Option.getD_some]
    rw [← Text.pieces_eq_iff]
    unfold Options.readList
    constructor
    · intro h
      rw [h, List.map_map]
      simp [Function.comp_def]
    · rintro rfl
      rw [List.map_map]
      simp [Function.comp_def]

/-- A target that is empty or holds a blank is declared by no build file. -/
theorem not_declares {file : BuildFile} {target : String}
    (h : target = "" ∨ ∃ c ∈ target.toList, Text.isBlank c = true) : ¬ Declares file target := by
  rintro ⟨v, -, -, hne, hpart, -⟩
  rcases h with rfl | ⟨c, hc, hblank⟩
  · exact hne rfl
  · rw [hpart c hc] at hblank
    cases hblank

/-- The report holds what is required and not declared. -/
theorem value_check (rule : RequiredPhony) (file : BuildFile) (options : Options) :
    (rule.check file options).value =
      ((rule.requiredUnder options).filter fun target => ¬ Declares file target).map
        (missing file) := by
  have hfilter : (rule.requiredUnder options).filter (· ∉ declared file) =
      (rule.requiredUnder options).filter fun target => ¬ Declares file target := by
    refine List.filter_congr fun target _ => ?_
    simp only [mem_declared_iff]
  exact congrArg (List.map (missing file)) hfilter

/-- What the rule reports: the targets that it requires and the build file does not declare, in the
order of the requirement and as often as they are required, each with the target as it is in the
message and without a line. The option `required` replaces the rule's own list whatever that is; if
it holds nothing but blanks and commas, nothing is reported. A target that is empty or holds a blank
is reported for every build file. -/
theorem check_reports (rule : RequiredPhony) (file : BuildFile) (options : Options) :
    let found := (rule.check file options).value
    let report := fun target : String => (⟨"minphony",
      "Missing required phony target \"" ++ target ++ "\"", file.name, none⟩ : Violation)
    ∃ required, (∀ other, rule.Requires options other ↔ other = required) ∧
      found = (required.filter fun target => ¬ Declares file target).map report ∧
      (∀ raw, options.get? "required" = some raw →
        (∀ other : RequiredPhony, (other.check file options).value = found) ∧
          ((∀ c ∈ raw.toList, Text.isBlank c = true ∨ c = ',') → found = [])) ∧
      ∀ target ∈ required, (target = "" ∨ ∃ c ∈ target.toList, Text.isBlank c = true) →
        report target ∈ found := by
  intro found report
  have hfound : found = ((rule.requiredUnder options).filter fun target =>
      ¬ Declares file target).map report := rule.value_check file options
  refine ⟨rule.requiredUnder options, fun other => requires_iff, hfound, fun raw hraw => ⟨?_, ?_⟩,
    fun target htarget hunreachable => ?_⟩
  · intro other
    have hsame : other.requiredUnder options = rule.requiredUnder options := by
      unfold requiredUnder Options.list? requiredKey
      rw [hraw]
      rfl
    show (other.check file options).value = (rule.check file options).value
    unfold check
    rw [hsame]
  · intro hblank
    have hnone : rule.requiredUnder options = [] := by
      unfold requiredUnder Options.list? Options.readList requiredKey
      rw [hraw, Option.map_some, Text.pieces_eq_nil hblank]
      rfl
    rw [hfound, hnone]
    rfl
  · rw [hfound]
    refine List.mem_map_of_mem (List.mem_filter.2 ⟨htarget, ?_⟩)
    exact decide_eq_true (not_declares hunreachable)

/-- An option with blanks, empty parts and a target of two words, against a build file with two
declarations and a variable of a similar name: what is reported does not depend on the rule's own
list. A blank option reports nothing, and without an option the empty target is reported. -/
theorem check_reports_awkward :
    let file : BuildFile := { name := "a.mk", bindings :=
      [⟨"PHONY", "\u3000all\tclean "⟩, ⟨"phony", "install"⟩, ⟨"PHONY", "x"⟩] }
    let options : Options := Table.empty.insert "required" ", x ,\u2003two words,,install,"
    let rule : RequiredPhony := { required := ["all", ""] }
    let report := fun target : String => (⟨"minphony",
      "Missing required phony target \"" ++ target ++ "\"", "a.mk", none⟩ : Violation)
    (rule.check file options).value = [report "two words", report "install"] ∧
      (∀ other : RequiredPhony, (other.check file options).value =
        (rule.check file options).value) ∧
      (rule.check file (Table.empty.insert "required" " ,\t")).value = [] ∧
      report "" ∈ (rule.check file .empty).value := by
  intro file options rule report
  obtain ⟨-, -, -, hoverride, -⟩ := check_reports rule file options
  obtain ⟨-, -, -, hblank, -⟩ := check_reports rule file (Table.empty.insert "required" " ,\t")
  obtain ⟨required, hrequired, -, -, hunreachable⟩ := check_reports rule file .empty
  have hown : rule.required = required := (hrequired rule.required).1 rfl
  have hempty : "" ∈ rule.required := by decide
  have hchars : ∀ c ∈ " ,\t".toList, Text.isBlank c = true ∨ c = ',' := by
    intro c hc
    have hcases : c = ' ' ∨ c = ',' ∨ c = '\t' := by simpa using hc
    rcases hcases with rfl | rfl | rfl <;> decide
  exact ⟨by decide, (hoverride _ (Table.get?_insert_self .empty "required" _)).1,
    (hblank _ (Table.get?_insert_self .empty "required" " ,\t")).2 hchars,
    hunreachable "" (hown ▸ hempty) (.inl rfl)⟩

end MakeLint.RequiredPhony
