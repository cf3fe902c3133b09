import MakeLint.Loading
import MakeLint.Proofs.Wire.Parts
import MakeLint.Proofs.Yaml.Composing

/-!
# Written configurations load as YAML

The text of a configuration is JSON, and configurations load from YAML. For configurations of
printable characters the two agree: the text is a document that consists of the node of the written
value (`Json.document_pretty`), and from that node the form of configurations is read as from JSON.
Every option is written between quotes, so it is read as the text that it is, whatever it looks
like. The result is `config_ofYaml_text`.
-/

namespace MakeLint

open Wire (Buffered Expected RecordForm Row Source Values)

/-! ## Written members -/

namespace Json

/-- The keys and values of members that are written one by one. -/
theorem entryNodes_map {α : Type} (write : α → Json) (entries : List (String × α)) :
    entryNodes (entries.map fun e => (e.1, write e.2)) =
      entries.map fun e => (.scalar none none .double e.1, (write e.2).node) := by
  induction entries with
  | nil => rfl
  | cons e rest ih => rw [List.map_cons, entryNodes, ih, List.map_cons]

/-- Members that are written one by one are portable if each of them is. -/
theorem portableMembers_map {α : Type} {write : α → Json} {entries : List (String × α)}
    (h : ∀ e ∈ entries, Text.IsKey e.1 ∧ (write e.2).Portable) :
    PortableMembers (entries.map fun e => (e.1, write e.2)) := by
  induction entries with
  | nil => exact trivial
  | cons e rest ih =>
    obtain ⟨hkey, hvalue⟩ := h e List.mem_cons_self
    exact ⟨hkey, hvalue, ih fun e he => h e (List.mem_cons_of_mem _ he)⟩

end Json

/-! ## Places of written values -/

namespace Yaml.Spot

/-- The place of a text between quotes. -/
def quoted (document : Document) (room : Nat) (path : Option String) (s : String) : Spot :=
  ⟨document, .scalar none none .double s, room, path⟩

/-- A text between quotes is read as it is. -/
theorem text_quoted (document : Document) (room : Nat) (path : Option String) (s : String)
    (expected : Expected) :
    (Source.text (quoted document room path s) expected : Reading String) = pure s := rfl

/-- A text between quotes is a text, whatever it looks like. -/
theorem buffered_quoted (document : Document) (room : Nat) (path : Option String) (s : String) :
    (Source.buffered (quoted document room path s) : Reading Buffered) = pure (.text s) := rfl

/-- The keys and values of a table that is written as an object. -/
theorem mapping_ofTable {α : Type} (write : α → Json) (t : Table α) (document : Document)
    (room : Nat) (path : Option String) :
    (Source.mapping (⟨document, (Json.ofTable write t).node, room + 1, path⟩ : Spot) :
      Reading (Row (Spot × Spot))) =
        pure ⟨t.toList.map fun e => (quoted document room path e.1,
          ⟨document, (write e.2).node, room, keyPath path e.1⟩), true⟩ := by
  let place : Spot := ⟨document, (Json.ofTable write t).node, room + 1, path⟩
  have hspots : place.entrySpots room (Json.entryNodes (t.toList.map fun e => (e.1, write e.2))) =
      t.toList.map fun e => (quoted document room path e.1,
        ⟨document, (write e.2).node, room, keyPath path e.1⟩) := by
    rw [Json.entryNodes_map]
    exact List.map_map
  rw [← hspots]
  rfl

/-- Options are read from the object that they are written as. -/
theorem options_eq (o : Options) (document : Document) (room : Nat) (path : Option String) :
    (Wire.options (⟨document, (Json.ofTable .text o).node, room + 1, path⟩ : Spot) :
      Reading Options) = pure o :=
  Wire.options_eq_pure (mapping_ofTable .text o document room path)
    (fun e _ => text_quoted document room path e.1 .text)
    fun e _ => buffered_quoted document room (keyPath path e.1) e.2

/-- A configuration is read from the object that it is written as. -/
theorem config_eq (c : Config) (document : Document) (room : Nat) :
    (Wire.config (⟨document, c.toJson.node, room + 3, none⟩ : Spot) : Reading Config) = pure c := by
  have hsections : (Wire.table Wire.options
      (⟨document, (Json.ofTable (.ofTable .text) c.sections).node, room + 2, "rules"⟩ : Spot) :
        Reading (Table Options)) = pure c.sections :=
    Wire.table_eq_pure (mapping_ofTable (.ofTable .text) c.sections document (room + 1) "rules")
      (fun e _ => text_quoted document (room + 1) "rules" e.1 .text)
      fun e _ => options_eq e.2 document room (keyPath "rules" e.1)
  -- The record takes one level of room, the table of sections another, and each section a third.
  let place : Spot := ⟨document, c.toJson.node, room + 3, none⟩
  let places : List (Spot × Spot) :=
    [(quoted document (room + 2) none "version", quoted document (room + 2) "version" c.version),
      (quoted document (room + 2) none "rules",
        ⟨document, (Json.ofTable (.ofTable .text) c.sections).node, room + 2, "rules"⟩)]
  let fields : Wire.Fields Spot Reading [String, Table Options] :=
    .required "version" Wire.text <| .optional "rules" (Wire.table Wire.options) .empty .nil
  have hholds : fields.Holds places (c.version, c.sections, ()) :=
    ⟨_, _, _, rfl, rfl, rfl, _, _, _, rfl, rfl, hsections, rfl⟩
  have hrecord : Wire.record "LintConfig" fields place = pure (c.version, c.sections, ()) :=
    hholds.record_eq (by decide) rfl
  unfold Wire.config
  rw [hrecord]
  rfl

end Yaml.Spot

/-- Reading a value from the text of an object with members is reading it from its node. -/
theorem Yaml.read_pretty {α : Type} {value : Spot → Reading α} {result : α}
    {members : List (String × Json)} (hmembers : members ≠ []) (h : Json.PortableMembers members)
    (hvalue : ∀ document,
      value ⟨document, (Json.object members).node, maxLevels, none⟩ = pure result) :
    read value (Json.object members).pretty = .ok result := by
  unfold read
  simp only [Json.document_pretty hmembers h, hvalue]
  rfl

/-! ## Configurations -/

/-- A configuration of printable characters, with names and keys that are not too long. -/
structure Config.Portable (c : Config) : Prop where
  version : Text.IsPrintable c.version
  names : ∀ e ∈ c.sections.toList, Text.IsKey e.1
  keys : ∀ e ∈ c.sections.toList, ∀ o ∈ e.2.toList, Text.IsKey o.1
  values : ∀ e ∈ c.sections.toList, ∀ o ∈ e.2.toList, Text.IsPrintable o.2

/-- A written configuration is read as it was from YAML, and then checked. -/
theorem Config.Portable.ofYaml_text {c : Config} (h : c.Portable) :
    Config.ofYaml c.text = c.checked := by
  have hsections : Json.PortableMembers
      (c.sections.toList.map fun e => (e.1, Json.ofTable .text e.2)) :=
    Json.portableMembers_map fun e he => ⟨h.names e he,
      Json.portableMembers_map fun o ho => ⟨h.keys e he o ho, h.values e he o ho⟩⟩
  have hmembers : Json.PortableMembers
      [("version", .text c.version), ("rules", .ofTable (.ofTable .text) c.sections)] :=
    ⟨by decide, h.version, by decide, hsections, trivial⟩
  have hread : Yaml.read Wire.config c.text = .ok c :=
    Yaml.read_pretty (List.cons_ne_nil _ _) hmembers fun document =>
      Yaml.Spot.config_eq c document (Yaml.maxLevels - 3)
  unfold Config.ofYaml
  rw [hread]
  rfl

/-- A written configuration loads as YAML: it is read as it was if it is valid, and otherwise the
failure is its own. -/
theorem config_ofYaml_text (c : Config) (h : c.Portable) :
    Config.ofYaml c.text =
      match c.failure? with
      | none => .ok c
      | some failure => .error failure := by
  rw [h.ofYaml_text]
  unfold Config.checked
  cases c.failure? <;> rfl

/-- A configuration of texts that mean something else in YAML without quotes, or that need escapes.
-/
def Config.awkward : Config where
  sections := (((Table.empty.insert "- a: b # c" (Table.empty.insert "disabled" " YES ")).insert
    "%YAML 1.1" (Table.empty.insert "\"\\" "\\\"  \\n")).insert
      "---" ((Table.empty.insert "" "null").insert "? {k: [v]}, " "&a *a !!int ~ 0x10 | >")).insert
        "" .empty

/-- The awkward configuration is valid and is read as it was. With an option that writes no flag it
has that failure, before and behind the trip. -/
theorem config_ofYaml_awkward :
    Config.awkward.Portable ∧ Config.ofYaml Config.awkward.text = .ok Config.awkward ∧
      Config.ofYaml (Config.awkward.set "---" "disabled" "null").text =
        .error (.unreadableFlag "---" "null") := by
  have hvalid : Config.awkward.Portable := ⟨by decide, by decide, by decide, by decide⟩
  have hinvalid : (Config.awkward.set "---" "disabled" "null").Portable :=
    ⟨by decide, by decide, by decide, by decide⟩
  exact ⟨hvalid, config_ofYaml_text _ hvalid, config_ofYaml_text _ hinvalid⟩

end MakeLint
