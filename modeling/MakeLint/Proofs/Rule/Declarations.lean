import MakeLint.Proofs.Rule.RequiredPhony

/-!
# What a report depends on in a build file

Of a build file the rule for required phony targets sees two things: the name of the file and which
targets it declares. The more targets are declared, the fewer are missing, and those that still are
keep their order (`RequiredPhony.check_sublist_of_declares`). So whatever leaves the declared
targets alone leaves the report alone: build rules, other variables, the order of the variables and
the blanks between words. The results are collected in `RequiredPhony.check_antitone`.
-/

namespace MakeLint

namespace RequiredPhony

/-- Of two build files of one name, the one that declares all that the other does has no violation
that the other has not, and those that it has are in the same order. -/
theorem check_sublist_of_declares (rule : RequiredPhony) (options : Options)
    {file other : BuildFile} (hname : other.name = file.name)
    (h : ∀ target, Declares file target → Declares other target) :
    (rule.check other options).value.Sublist (rule.check file options).value := by
  have hmissing : missing other = missing file := by
    funext target
    unfold missing
    rw [hname]
  rw [value_check, value_check, hmissing]
  refine (List.monotone_filter_right _ fun target hother => ?_).map _
  -- What the other file does not declare, the first one does not declare either.
  simp only [decide_eq_true_eq] at hother ⊢
  exact mt (h target) hother

/-- Build files of one name that declare the same targets have the same violations. -/
theorem check_eq_of_declares (rule : RequiredPhony) (options : Options)
    {file other : BuildFile} (hname : other.name = file.name)
    (h : ∀ target, Declares file target ↔ Declares other target) :
    (rule.check other options).value = (rule.check file options).value :=
  (rule.check_sublist_of_declares options hname fun target => (h target).1).antisymm
    (rule.check_sublist_of_declares options hname.symm fun target => (h target).2)

/-! ## The targets that are declared -/

/-- The order of the variables does not matter for what is declared. -/
theorem declares_iff_of_perm {file : BuildFile} {bindings : List Variable}
    (h : file.bindings.Perm bindings) (target : String) :
    Declares file target ↔
      ∃ v ∈ bindings, v.name = "PHONY" ∧ Text.IsWord target.toList v.assignment.toList := by
  unfold Declares
  simp only [h.mem_iff]

/-- Two assignments to `PHONY` declare the same as one that has both texts with blanks between
them. -/
theorem declares_iff_of_joined {file other : BuildFile} {a b blanks : String}
    {others : List Variable} (hne : blanks ≠ "")
    (hblanks : ∀ c ∈ blanks.toList, Text.isBlank c = true)
    (hfile : file.bindings.Perm (⟨"PHONY", a⟩ :: ⟨"PHONY", b⟩ :: others))
    (hother : other.bindings.Perm (⟨"PHONY", a ++ blanks ++ b⟩ :: others)) (target : String) :
    Declares file target ↔ Declares other target := by
  have hwords := Text.isWord_append_iff target.toList (by simpa using hne) hblanks a.toList b.toList
  rw [declares_iff_of_perm hfile, declares_iff_of_perm hother]
  simp only [List.exists_mem_cons_iff, true_and, String.toList_append, hwords, or_assoc]

/-- A further variable takes no declaration away. -/
theorem declares_addVariable {file : BuildFile} {target : String} (h : Declares file target)
    (name assignment : String) : Declares (file.addVariable name assignment) target := by
  obtain ⟨v, hv, hdeclares⟩ := h
  exact ⟨v, List.mem_append_left _ hv, hdeclares⟩

/-- Of a build file only its name and the declared targets matter, and with more declarations there
are fewer violations, in the same order. So build files of one name that declare the same have the
same violations, whatever their rules, their other variables and the order of their variables. In
particular two assignments to `PHONY` may be written as one, at any place and with any blanks
between them, a further rule changes nothing, and a further variable adds no violation. -/
theorem check_antitone (rule : RequiredPhony) (options : Options) :
    (∀ file other : BuildFile, other.name = file.name →
      (∀ target, Declares file target → Declares other target) →
        (rule.check other options).value.Sublist (rule.check file options).value) ∧
      (∀ file other : BuildFile, other.name = file.name →
        (∀ target, Declares file target ↔ Declares other target) →
          (rule.check other options).value = (rule.check file options).value) ∧
      (∀ (file other : BuildFile) (a b blanks : String) (others : List Variable),
        other.name = file.name → blanks ≠ "" → (∀ c ∈ blanks.toList, Text.isBlank c = true) →
          file.bindings.Perm (⟨"PHONY", a⟩ :: ⟨"PHONY", b⟩ :: others) →
            other.bindings.Perm (⟨"PHONY", a ++ blanks ++ b⟩ :: others) →
              (rule.check other options).value = (rule.check file options).value) ∧
      ∀ (file : BuildFile) (name assignment target : String),
        (rule.check (file.addVariable name assignment) options).value.Sublist
            (rule.check file options).value ∧
          (rule.check (file.addRule target) options).value = (rule.check file options).value := by
  refine ⟨fun file other => rule.check_sublist_of_declares options,
    fun file other => rule.check_eq_of_declares options, ?_, ?_⟩
  · intro file other a b blanks others hname hne hblanks hfile hother
    exact rule.check_eq_of_declares options hname
      (declares_iff_of_joined hne hblanks hfile hother)
  · intro file name assignment target
    constructor
    · exact rule.check_sublist_of_declares options rfl fun t h =>
        declares_addVariable h name assignment
    · -- A build rule is no variable, so the declarations are the same ones.
      exact rule.check_eq_of_declares options rfl fun t => Iff.rfl

/-- Two assignments that end and begin with blanks, apart in the build file, against one that joins
them with two further blanks at another place: what is reported is the same, with its repetition.
A build file that declares one target more reports the others as before. -/
theorem check_antitone_joined :
    let rule : RequiredPhony := { required := ["b", "all", "", "x", "b"] }
    let file : BuildFile := { name := "a.mk", bindings :=
      [⟨"PHONY", "all\u2003"⟩, ⟨"CC", "b"⟩, ⟨"PHONY", "\tx"⟩] }
    let joined : BuildFile := { name := "a.mk", rules := [⟨"b"⟩], bindings :=
      [⟨"CC", "b"⟩, ⟨"PHONY", "all\u2003" ++ "\u3000\n" ++ "\tx"⟩] }
    let more : BuildFile := { name := "a.mk", bindings := [⟨"PHONY", "x y\u0085b all"⟩] }
    (rule.check joined .empty).value = (rule.check file .empty).value ∧
      (rule.check file .empty).value.map (·.message) =
        ["Missing required phony target \"b\"", "Missing required phony target \"\"",
          "Missing required phony target \"b\""] ∧
      (rule.check more .empty).value.Sublist (rule.check file .empty).value ∧
      (rule.check more .empty).value.map (·.message) = ["Missing required phony target \"\""] := by
  intro rule file joined more
  obtain ⟨hmore, -, hjoined, -⟩ := check_antitone rule .empty
  have hblanks : ∀ c ∈ "\u3000\n".toList, Text.isBlank c = true := by
    intro c hc
    have hcases : c = '\u3000' ∨ c = '\n' := by simpa using hc
    rcases hcases with rfl | rfl <;> decide
  have hdeclared : ∀ target ∈ declared file, target ∈ declared more := by decide
  refine ⟨hjoined file joined "all\u2003" "\tx" "\u3000\n" [⟨"CC", "b"⟩] rfl (by decide) hblanks
    ?_ ?_, by decide, hmore file more rfl fun target h => ?_, by decide⟩
  · exact (List.Perm.swap _ _ _).cons _
  · exact .swap _ _ _
  · exact mem_declared_iff.1 (hdeclared target (mem_declared_iff.2 h))

end RequiredPhony

end MakeLint
