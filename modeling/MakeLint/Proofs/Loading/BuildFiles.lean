import MakeLint.Loading
import MakeLint.Proofs.Json.Compact
import MakeLint.Proofs.Wire.Records

/-!
# Which JSON texts hold a build file

A build file, each of its rules and each of its variables is a record (`Draft.IsBuildFile`,
`Draft.IsRule`, `Draft.IsVariable`): its fields stand under their names, or by position. A JSON text
is read as a build file exactly if it holds one, and so it does not matter how the build file is
written: in which order members stand, which others are among them, and which of the two forms a
record has, at any of the three places (`Draft.RewritesBuildFile`). The result is
`BuildFile.ofJson_isBuildFile`.
-/

namespace MakeLint

open Json (Draft Spot)

namespace Json.Draft

/-! ## Forms -/

/-- A build rule is a record of its target. -/
def IsRule (rule : BuildRule) : Draft → Prop :=
  IsRecord [("target", required (IsText rule.target))]

/-- A variable is a record of its name and its assignment. -/
def IsVariable (v : Variable) : Draft → Prop :=
  IsRecord [("name", required (IsText v.name)), ("assignment", required (IsText v.assignment))]

/-- A build file is a record of its name, its rules and its variables; without rules or variables
the field may be omitted. -/
def IsBuildFile (file : BuildFile) : Draft → Prop :=
  IsRecord [("file_name", required (IsText file.name)),
    ("rules", optional (IsList IsRule file.rules) (file.rules = [])),
    ("variables", optional (IsList IsVariable file.bindings) (file.bindings = []))]

/-- A text is written in one way. -/
def Never (_ _ : Draft) : Prop := False

/-- A step by which a build rule is written in another way. -/
def RewritesRule : Draft → Draft → Prop := Rewrites [("target", Never)]

/-- A step by which a variable is written in another way. -/
def RewritesVariable : Draft → Draft → Prop := Rewrites [("name", Never), ("assignment", Never)]

/-- A step by which a build file is written in another way, in itself or in some of its rules or
variables. -/
def RewritesBuildFile : Draft → Draft → Prop :=
  Rewrites [("file_name", Never), ("rules", RewritesItems RewritesRule),
    ("variables", RewritesItems RewritesVariable)]

/-- A rule stays the same however it is written. -/
theorem RewritesRule.isRule_iff (d other : Draft) (h : RewritesRule d other) (rule : BuildRule) :
    IsRule rule d ↔ IsRule rule other := by
  refine Rewrites.isRecord_iff (by decide) ⟨rfl, ?_⟩ h
  simp [Never]

/-- A variable stays the same however it is written. -/
theorem RewritesVariable.isVariable_iff (d other : Draft) (h : RewritesVariable d other)
    (v : Variable) : IsVariable v d ↔ IsVariable v other := by
  refine Rewrites.isRecord_iff (by decide) ⟨rfl, ?_⟩ h
  simp [Never]

/-- A build file stays the same by each step of rewriting. -/
theorem RewritesBuildFile.isBuildFile_iff {d other : Draft} (h : RewritesBuildFile d other)
    (file : BuildFile) : IsBuildFile file d ↔ IsBuildFile file other := by
  refine Rewrites.isRecord_iff (by decide) ⟨rfl, ?_⟩ h
  have hrules (item same : Draft) (h : RewritesItems RewritesRule item same) :
      IsList IsRule file.rules item ↔ IsList IsRule file.rules same :=
    h.isList_iff RewritesRule.isRule_iff file.rules
  have hvariables (item same : Draft) (h : RewritesItems RewritesVariable item same) :
      IsList IsVariable file.bindings item ↔ IsList IsVariable file.bindings same :=
    h.isList_iff RewritesVariable.isVariable_iff file.bindings
  simpa [Never] using ⟨hrules, hvariables⟩

/-- A build file stays the same however it is written. -/
theorem isBuildFile_iff_of_eqvGen {d other : Draft} (h : Relation.EqvGen RewritesBuildFile d other)
    (file : BuildFile) : IsBuildFile file d ↔ IsBuildFile file other := by
  induction h with
  | rel _ _ step => exact step.isBuildFile_iff file
  | refl _ => rfl
  | symm _ _ _ ih => exact ih.symm
  | trans _ _ _ _ _ first second => exact first.trans second

end Json.Draft

/-! ## Reading -/

namespace Wire

/-- A rule is read exactly where one stands. -/
theorem buildRule_eq_ok_iff {room : Nat} (rule : BuildRule) (d : Draft) (hwhole : d.whole = true) :
    buildRule (⟨d, room + 1⟩ : Spot) = .ok rule ↔ d.IsRule rule := by
  refine record_made_eq_ok_iff [String] (fun values => BuildRule.mk values.1)
    (fun rule => (rule.target, ())) (fun _ => rfl) (fun _ => rfl) (by decide) ?_ hwhole
  exact .cons (alike_required fun _ _ => text_eq_ok_iff) .nil

/-- A variable is read exactly where one stands. -/
theorem variableForm_eq_ok_iff {room : Nat} (v : Variable) (d : Draft) (hwhole : d.whole = true) :
    variableForm (⟨d, room + 1⟩ : Spot) = .ok v ↔ d.IsVariable v := by
  refine record_made_eq_ok_iff [String, String] (fun values => Variable.mk values.1 values.2.1)
    (fun v => (v.name, v.assignment, ())) (fun _ => rfl) (fun _ => rfl) (by decide) ?_ hwhole
  exact .cons (alike_required fun _ _ => text_eq_ok_iff)
    (.cons (alike_required fun _ _ => text_eq_ok_iff) .nil)

/-- A build file is read exactly where one stands. -/
theorem buildFile_eq_ok_iff {room : Nat} (file : BuildFile) (d : Draft) (hwhole : d.whole = true) :
    buildFile (⟨d, room + 3⟩ : Spot) = .ok file ↔ d.IsBuildFile file := by
  refine record_made_eq_ok_iff [String, List BuildRule, List Variable]
    (fun values => BuildFile.mk values.1 values.2.1 values.2.2.1)
    (fun file => (file.name, file.rules, file.bindings, ())) (fun _ => rfl) (fun _ => rfl)
    (by decide) ?_ hwhole
  exact .cons (alike_required fun _ _ => text_eq_ok_iff)
    (.cons (alike_list buildRule_eq_ok_iff) (.cons (alike_list variableForm_eq_ok_iff) .nil))

end Wire

/-- A JSON text is read as a build file exactly if it holds that file. Two texts of the same value
are read alike, whatever their blanks and escapes, and so are texts of values that differ in the
order of members, in members that are ignored, or in the form of a record. -/
theorem BuildFile.ofJson_isBuildFile {d : Draft} {text : String} (h : d.SpellsWhole text) :
    (∀ file, ofJson text = .ok file ↔ d.IsBuildFile file) ∧
      ∀ other again, Relation.EqvGen Draft.RewritesBuildFile d other → other.SpellsWhole again →
        ∀ file, ofJson text = .ok file ↔ ofJson again = .ok file := by
  have hexact {d : Draft} {text : String} (h : d.SpellsWhole text) (file : BuildFile) :
      ofJson text = .ok file ↔ d.IsBuildFile file := by
    -- Three levels are entered at most, for which there is room.
    have hread : Wire.buildFile (⟨d, Json.maxLevels⟩ : Spot) = .ok file ↔ d.IsBuildFile file :=
      Wire.buildFile_eq_ok_iff file d h.whole_eq
    rw [← hread, ofJson, Wire.read_eq _ h]
    cases Wire.buildFile (⟨d, Json.maxLevels⟩ : Spot) <;> simp [Except.mapError]
  refine ⟨hexact h, fun other again hrewrites hagain file => ?_⟩
  rw [hexact h, hexact hagain, Draft.isBuildFile_iff_of_eqvGen hrewrites]

/-! ## A build file in two forms -/

namespace Json.Draft

/-- The draft of a build file under names, the rules first, with a rule by position. -/
def named : Draft :=
  .object [(some "rules", .list [.list [.text (some "all")] true] true),
    (some "file_name", .text (some "Makefile"))] true

/-- The draft of the same build file by position, with a member that is ignored in its rule. -/
def listed : Draft :=
  .list [.text (some "Makefile"),
    .list [.object [(some "phony", .null), (some "target", .text (some "all"))] true] true] true

/-- A text of the first draft; a character of a name is escaped. -/
def namedText : String :=
  "\x7b\"rules\":[[\"all\"]],\"file\\u005fname\":\"Makefile\"\x7d"

/-- A text of the second draft; there is a blank between its items. -/
def listedText : String :=
  "[\"Makefile\", [\x7b\"phony\":null,\"target\":\"all\"\x7d]]"

/-- The first text spells the first draft. -/
theorem spells_named : named.SpellsWhole namedText := by
  have hkey : SpellsQuoted (some "file_name") "\"file\\u005fname\"".toList := by
    refine ⟨"file".toList.map (fun c => (.char c, escape c)) ++
      (.ofCode 95, "\\u005f".toList) :: "name".toList.map (fun c => (.char c, escape c)),
      fun unit hunit => ?_, by decide, by decide⟩
    obtain hfile | hcode | hname := List.mem_append.1 hunit |>.imp_right List.mem_cons.1
    · obtain ⟨c, -, rfl⟩ := List.mem_map.1 hfile
      exact spells_escape c
    · rw [hcode]
      exact .code (by decide : Text.numeral? 16 ['0', '0', '5', 'f'] = some 95)
    · obtain ⟨c, -, rfl⟩ := List.mem_map.1 hname
      exact spells_escape c
  have htarget := spells_text (spellsQuoted_quote "all")
  have hrule := spells_list (spellsItems_cons lead_nil htarget (spellsItems_nil blanks_nil))
  have hrules := spells_list (spellsItems_cons lead_nil hrule (spellsItems_nil blanks_nil))
  have hfile := spellsMembers_cons lead_comma hkey colon_bare
    (spells_text (spellsQuoted_quote "Makefile")) (spellsMembers_nil blanks_nil)
  have hmembers := spellsMembers_quote lead_nil "rules" hrules hfile
  exact (spells_object hmembers).spellsWhole (by decide)

/-- The second text spells the second draft. -/
theorem spells_listed : listed.SpellsWhole listedText := by
  have hlead : Lead false [',', ' '] := ⟨[], [' '], blanks_nil, by simp [Blanks, isBlank], rfl⟩
  have hnull : Spells .null ['n', 'u', 'l', 'l'] := rfl
  have htarget := spellsMembers_quote lead_comma "target" (spells_text (spellsQuoted_quote "all"))
    (spellsMembers_nil blanks_nil)
  have hrule := spells_object (spellsMembers_quote lead_nil "phony" hnull htarget)
  have hrules := spells_list (spellsItems_cons lead_nil hrule (spellsItems_nil blanks_nil))
  have hitems := spellsItems_cons lead_nil (spells_text (spellsQuoted_quote "Makefile"))
    (spellsItems_cons hlead hrules (spellsItems_nil blanks_nil))
  exact (spells_list hitems).spellsWhole (by decide)

/-- The second draft is the first one written in another way: the rule gets its name and a member
that is ignored, the name of the file comes first, and then all stands by position. -/
theorem rewrites_named : Relation.EqvGen RewritesBuildFile named listed := by
  have hnamed : RewritesRule (.object [(some "target", .text (some "all"))] true)
      (.list [.text (some "all")] true) := .position [.text (some "all")] (by decide)
  have hignored : RewritesRule (.object [(some "target", .text (some "all"))] true)
      (.object [(some "phony", .null), (some "target", .text (some "all"))] true) :=
    .ignored _ _ (by decide)
  have hrule {item other : Draft} (h : RewritesRule item other) : RewritesBuildFile
      (.object [(some "rules", .list [item] true), (some "file_name", .text (some "Makefile"))]
        true)
      (.object [(some "rules", .list [other] true), (some "file_name", .text (some "Makefile"))]
        true) :=
    .value _ (.tail _ (.head _)) (.items (.cons (.single h) .nil))
  have horder (rules : Draft) : RewritesBuildFile
      (.object [(some "rules", rules), (some "file_name", .text (some "Makefile"))] true)
      (.object [(some "file_name", .text (some "Makefile")), (some "rules", rules)] true) :=
    .order (.swap _ _ _)
  have hlast (rules : Draft) : RewritesBuildFile
      (.object [(some "file_name", .text (some "Makefile")), (some "rules", rules)] true)
      (.list [.text (some "Makefile"), rules] true) :=
    .position [.text (some "Makefile"), rules] (Nat.le_succ 2)
  exact .trans _ _ _ (.symm _ _ (.rel _ _ (hrule hnamed))) <|
    .trans _ _ _ (.rel _ _ (hrule hignored)) <|
    .trans _ _ _ (.rel _ _ (horder _)) (.rel _ _ (hlast _))

/-- The first draft is a build file with one rule. -/
theorem isBuildFile_named : named.IsBuildFile ⟨"Makefile", [⟨"all"⟩], []⟩ := by
  have hrule : IsRule ⟨"all"⟩ (.list [.text (some "all")] true) := .positional ⟨rfl, rfl⟩
  have hrules : IsList IsRule [⟨"all"⟩] (.list [.list [.text (some "all")] true] true) :=
    ⟨_, rfl, .cons hrule .nil⟩
  refine .named (by decide) ?_
  simp only [List.forall_mem_cons, List.not_mem_nil, false_implies, implies_true, and_true]
  exact ⟨⟨some _, rfl, rfl⟩, ⟨some _, rfl, hrules⟩, ⟨none, rfl, trivial⟩⟩

end Json.Draft

/-- Both texts are read as the build file with one rule. -/
theorem BuildFile.ofJson_isBuildFile_forms :
    Draft.named.SpellsWhole Draft.namedText ∧ Draft.listed.SpellsWhole Draft.listedText ∧
      Relation.EqvGen Draft.RewritesBuildFile .named .listed ∧
      ofJson Draft.namedText = .ok ⟨"Makefile", [⟨"all"⟩], []⟩ ∧
      ofJson Draft.listedText = .ok ⟨"Makefile", [⟨"all"⟩], []⟩ := by
  obtain ⟨hread, hsame⟩ := ofJson_isBuildFile Draft.spells_named
  have hnamed := (hread _).2 Draft.isBuildFile_named
  have hlisted := (hsame _ _ Draft.rewrites_named Draft.spells_listed _).1 hnamed
  exact ⟨Draft.spells_named, Draft.spells_listed, Draft.rewrites_named, hnamed, hlisted⟩

end MakeLint
