import MakeLint.Loading
import MakeLint.Proofs.Wire.Written

/-!
# Reports and configurations survive the wire

What is written as JSON is read back as it was. A text is read back as the draft of the value that
was written (`Json.read_pretty`), so it remains to read each form from its draft: the numbers, the
record of a violation with its line, the counters, the tables of sections and options. Forms are
nested, and each is read with the room that the forms around it leave; reading starts with room for
`Json.maxLevels` levels, of which a report or a configuration needs three.

The results are `report_ofJson_text` and `config_ofJson_text`.
-/

namespace MakeLint

open Json (Draft Spot)

/-! ## Drafts of written values -/

/-- The draft of items that are written one by one. -/
theorem Json.draftItems_map {α : Type} (write : α → Json) (values : List α) :
    draftItems (values.map write) = values.map fun a => (write a).draft := by
  induction values with
  | nil => rfl
  | cons a rest ih => rw [List.map_cons, draftItems, ih, List.map_cons]

/-- The draft of members that are written one by one. -/
theorem Json.draftMembers_map {α : Type} (write : α → Json) (entries : List (String × α)) :
    draftMembers (entries.map fun e => (e.1, write e.2)) =
      entries.map fun e => (some e.1, (write e.2).draft) := by
  induction entries with
  | nil => rfl
  | cons e rest ih => rw [List.map_cons, draftMembers, ih, List.map_cons]

/-- The draft of a table that is written as an object. -/
theorem Json.draft_ofTable {α : Type} (write : α → Json) (t : Table α) :
    (ofTable write t).draft =
      .object (t.toList.map fun e => (some e.1, (write e.2).draft)) true := by
  rw [ofTable, draft, draftMembers_map]

/-- The counters of a run fit integers of 64 bits without a sign. -/
structure Summary.Fits (s : Summary) : Prop where
  filesChecked : (s.filesChecked : Int) ∈ Width.unsigned64
  rulesRun : (s.rulesRun : Int) ∈ Width.unsigned64
  byRule : ∀ e ∈ s.byRule.toList, (e.2 : Int) ∈ Width.unsigned64

namespace Wire

/-! ## Numbers -/

/-- A number of 64 bits without a sign is read back from its numeral. -/
theorem size_eq {n : Nat} (h : (n : Int) ∈ Width.unsigned64) (room : Nat) :
    Spot.size ⟨.number (.ofInt n), room⟩ = .ok n := by
  unfold Spot.size
  simp only [Json.value?_ofInt (.inr h)]
  simp

/-- A number of 64 bits with a sign is read back from its numeral. -/
theorem signed_eq {n : Int} (h : n ∈ Width.signed64) (room : Nat) :
    Spot.signed ⟨.number (.ofInt n), room⟩ = .ok n := by
  unfold Spot.signed
  simp only [Json.value?_ofInt (.inl h), if_pos h]

/-- The number that stands for a line fits 64 bits with a sign. -/
theorem wireLine_mem_signed64 (v : Violation) : v.wireLine ∈ Width.signed64 := by
  rw [Width.mem_signed64]
  unfold Violation.wireLine
  cases v.line with
  | none => decide
  | some n =>
    have hlt := n.toNat_lt
    simp only [Option.map_some, Option.getD_some]
    omega

/-- A line is read back from the number that stands for it. -/
theorem line_eq (v : Violation) (room : Nat) :
    line (⟨.number (.ofInt v.wireLine), room⟩ : Spot) = .ok v.line := by
  have hread : (Source.signed (⟨.number (.ofInt v.wireLine), room⟩ : Spot) : Except Fault Int) =
      .ok v.wireLine := signed_eq (wireLine_mem_signed64 v) room
  unfold line
  rw [hread, ok_bind]
  unfold Violation.wireLine
  cases h : v.line with
  | none => rfl
  | some n =>
    -- A line is not negative, so no line is taken for none.
    have hlt := n.toNat_lt
    have hneg : ¬ (n.toNat : Int) < 0 := by omega
    have hmem : (n.toNat : Int) ∈ Width.unsigned32 := by
      rw [Width.mem_unsigned32]
      omega
    simp [hneg, hmem]
    rfl

/-! ## Forms -/

/-- A violation is read back from its JSON object. -/
theorem violation_eq (v : Violation) (room : Nat) :
    violation (⟨v.toJson.draft, room + 1⟩ : Spot) = .ok v := by
  unfold violation
  refine (Fields.record_bind [String, String, String, Option UInt32]
    (v.rule, v.message, v.file, v.line, ()) ?_ ?_ _ _).trans rfl
  · exact ⟨_, _, rfl, rfl, _, _, rfl, rfl, _, _, rfl, rfl, _, _, rfl, line_eq v room, rfl⟩
  · decide

/-- The counters of a run are read back from their JSON object, as far as they fit 64 bits. -/
theorem summary_eq {s : Summary} (h : s.Fits) (room : Nat) :
    summary ⟨s.toJson.draft, room + 2⟩ = .ok s := by
  have htable : table Spot.size (⟨(Json.ofTable (fun n : Nat => .number n) s.byRule).draft,
      room + 1⟩ : Spot) = .ok s.byRule := by
    rw [Json.draft_ofTable]
    exact table_eq fun e he => size_eq (h.byRule e he) room
  unfold summary
  refine (Fields.record_bind [Nat, Nat, Table Nat]
    (s.filesChecked, s.rulesRun, s.byRule, ()) ?_ ?_ _ _).trans rfl
  · exact ⟨_, _, rfl, size_eq h.filesChecked _, _, _, rfl, size_eq h.rulesRun _, _, _, rfl, htable,
      rfl⟩
  · decide

/-- A report is read back from its JSON object, as far as its counters fit 64 bits. -/
theorem report_eq {r : Report} (h : r.summary.Fits) (room : Nat) :
    report ⟨r.toJson.draft, room + 3⟩ = .ok r := by
  have hlist : list violation (⟨(Json.list (r.violations.map (·.toJson))).draft, room + 2⟩ : Spot) =
      .ok r.violations := by
    rw [Json.draft, Json.draftItems_map]
    exact list_eq fun v _ => violation_eq v room
  unfold report
  refine (Fields.record_bind [List Violation, Summary]
    (r.violations, r.summary, ()) ?_ ?_ _ _).trans rfl
  · exact ⟨_, _, rfl, hlist, _, _, rfl, summary_eq h room, rfl⟩
  · decide

/-- A configuration is read back from its JSON object. -/
theorem config_eq (c : Config) (room : Nat) :
    config (⟨c.toJson.draft, room + 3⟩ : Spot) = .ok c := by
  have hsection (o : Options) :
      options (⟨(Json.ofTable .text o).draft, room + 1⟩ : Spot) = .ok o := by
    rw [Json.draft_ofTable]
    exact options_eq room o
  have htable : table options (⟨(Json.ofTable (.ofTable .text) c.sections).draft,
      room + 2⟩ : Spot) = .ok c.sections := by
    rw [Json.draft_ofTable]
    exact table_eq fun e _ => hsection e.2
  unfold config
  refine (Fields.record_bind [String, Table Options]
    (c.version, c.sections, ()) ?_ ?_ _ _).trans rfl
  · exact ⟨_, _, rfl, rfl, _, _, rfl, htable, rfl⟩
  · decide

end Wire

/-! ## Texts -/

/-- A report is read back from its text exactly as it was, and so no two reports have one text. The
counters need not agree with the violations; they only have to fit 64 bits. -/
theorem report_ofJson_text (r : Report) (h : r.summary.Fits) :
    Report.ofJson r.text = .ok r ∧ ∀ s : Report, s.summary.Fits → s.text = r.text → s = r := by
  have hread (r : Report) (h : r.summary.Fits) : Report.ofJson r.text = .ok r := by
    unfold Report.ofJson Report.text
    rw [Json.read_pretty]
    exact Wire.report_eq h (Json.maxLevels - 3)
  refine ⟨hread r h, fun s hs htext => ?_⟩
  -- Reports with one text are both what is read from it.
  have hsame := hread s hs
  rw [htext, hread r h] at hsame
  exact (Except.ok.inj hsame).symm

/-- A report of texts that need escapes and of the first and the last line there can be, with
counters at both ends of their range that do not fit its violations. -/
def Report.awkward : Report where
  violations := [⟨"\"rule\"", "a\\b\tc\x00", "Makefile", none⟩, ⟨"😀", "", "\x7f\u2028", some 0⟩,
    ⟨"null", "-1", "[]", some 4294967295⟩]
  summary := ⟨0, 18446744073709551615, Table.empty.insert "\n" 18446744073709551615⟩

/-- The awkward report is read back, and it is not written like the empty one. -/
theorem report_ofJson_awkward :
    Report.awkward.summary.Fits ∧ Report.ofJson Report.awkward.text = .ok Report.awkward ∧
      Report.empty.text ≠ Report.awkward.text := by
  have hfits : Report.awkward.summary.Fits := ⟨by decide, by decide, by decide⟩
  obtain ⟨hread, hsame⟩ := report_ofJson_text Report.awkward hfits
  refine ⟨hfits, hread, fun htext => ?_⟩
  have hempty : Report.empty = Report.awkward :=
    hsame .empty ⟨by decide, by decide, by decide⟩ htext
  exact absurd (congrArg Report.violations hempty) (List.cons_ne_nil _ _).symm

/-- A configuration is read back from its text exactly as it was, valid or not: no option changes,
whatever its text looks like, and the same failure is found. -/
theorem config_ofJson_text (c : Config) :
    Config.ofJson c.text = .ok c ∧
      (∀ rule key, (Config.ofJson c.text).map (fun d => (d.options rule).get? key) =
        .ok ((c.options rule).get? key)) ∧
      (Config.ofJson c.text).map Config.failure? = .ok c.failure? := by
  have hread : Config.ofJson c.text = .ok c := by
    unfold Config.ofJson Config.text
    rw [Json.read_pretty]
    exact Wire.config_eq c (Json.maxLevels - 3)
  rw [hread]
  exact ⟨rfl, fun _ _ => rfl, rfl⟩

end MakeLint
