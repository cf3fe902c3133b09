import MakeLint.Proofs.Json.Writing
import MakeLint.Proofs.Wire.Parts
import MakeLint.Wire.Forms

/-!
# Records, lists and tables as they are written

A record is written as an object with its fields in the order of their declaration, a list as a list
and a table as an object. Each is read back at a place where there is room for one more level, as
soon as its parts are read back inside it.
-/

namespace MakeLint.Wire

open Json (Draft Spot)

/-- Reading goes on with a value that was read. -/
theorem ok_bind {α β : Type} (value : α) (next : α → Except Fault β) :
    (Except.ok value >>= next) = next value := rfl

/-! ## Records -/

/-- The members are the fields in the order of their declaration, and each is read as its value. -/
def Fields.Reads (room : Nat) : {αs : List Type} → Fields Spot (Except Fault) αs →
    List (Option String × Draft) → Values αs → Prop
  | _, .nil, members, _ => members = []
  | _, .cons name read _ rest, members, (value, values) =>
    ∃ item others, members = (some name, item) :: others ∧ read ⟨item, room⟩ = .ok value ∧
      rest.Reads room others values

/-- The places of the members of an object. -/
def memberSpots (room : Nat) (members : List (Option String × Draft)) : List (Spot × Spot) :=
  members.map fun (key, item) => (⟨.text key, room⟩, ⟨item, room⟩)

/-- The places of members that are read as fields are those of the fields. -/
theorem Fields.Reads.holds {room : Nat} {αs : List Type} {fields : Fields Spot (Except Fault) αs}
    {members : List (Option String × Draft)} {values : Values αs}
    (h : fields.Reads room members values) : fields.Holds (memberSpots room members) values := by
  induction fields generalizing members with
  | nil =>
    rw [show members = [] from h]
    rfl
  | cons name read ifOmitted rest ih =>
    obtain ⟨value, values⟩ := values
    obtain ⟨item, others, rfl, hread, hrest⟩ := h
    exact ⟨⟨.text (some name), room⟩, ⟨item, room⟩, memberSpots room others, rfl, rfl, hread,
      ih hrest⟩

/-- An object whose members are read as fields is read as the record of their values, and reading
goes on with these. -/
theorem Fields.record_bind (αs : List Type) (values : Values αs) {β : Type} {room : Nat}
    {fields : Fields Spot (Except Fault) αs} {members : List (Option String × Draft)}
    (h : fields.Reads room members values) (hnames : fields.names.Nodup) (name : String)
    (next : Values αs → Except Fault β) :
    (record name fields (⟨.object members true, room + 1⟩ : Spot) >>= next) = next values := by
  have hrecord : record name fields (⟨.object members true, room + 1⟩ : Spot) = .ok values :=
    h.holds.record_eq hnames rfl
  rw [hrecord]
  rfl

/-! ## Lists and tables -/

/-- A list is read back from the list of its written items. -/
theorem list_eq {α : Type} {item : Spot → Except Fault α} {write : α → Draft} {room : Nat}
    {values : List α} (h : ∀ a ∈ values, item ⟨write a, room⟩ = .ok a) :
    list item (⟨.list (values.map write) true, room + 1⟩ : Spot) = .ok values := by
  have hsequence : (Source.sequence (⟨.list (values.map write) true, room + 1⟩ : Spot) :
      Except Fault (Row Spot)) = .ok ⟨values.map fun a => ⟨write a, room⟩, true⟩ := by
    have hspots : (values.map write).map (fun item => (⟨item, room⟩ : Spot)) =
        values.map fun a => ⟨write a, room⟩ := List.map_map
    rw [← hspots]
    rfl
  exact list_eq_pure hsequence h

/-- The keys and values of an object with the written entries of a table. -/
theorem mapping_eq {α : Type} (write : String × α → Draft) (room : Nat) (t : Table α) :
    (Source.mapping (⟨.object (t.toList.map fun e => (some e.1, write e)) true, room + 1⟩ : Spot) :
      Except Fault (Row (Spot × Spot))) =
        .ok ⟨t.toList.map fun e => (⟨.text (some e.1), room⟩, ⟨write e, room⟩), true⟩ := by
  have hspots : memberSpots room (t.toList.map fun e => (some e.1, write e)) =
      t.toList.map fun e => (⟨.text (some e.1), room⟩, ⟨write e, room⟩) := List.map_map
  rw [← hspots]
  rfl

/-- A table is read back from the object of its written entries. -/
theorem table_eq {α : Type} {value : Spot → Except Fault α} {write : String × α → Draft}
    {room : Nat} {t : Table α} (h : ∀ e ∈ t.toList, value ⟨write e, room⟩ = .ok e.2) :
    table value (⟨.object (t.toList.map fun e => (some e.1, write e)) true, room + 1⟩ : Spot) =
      .ok t :=
  table_eq_pure (mapping_eq write room t) (fun _ _ => rfl) h

/-- Options are read back from the object of their texts. -/
theorem options_eq (room : Nat) (o : Options) :
    options (⟨.object (o.toList.map fun e => (some e.1, .text (some e.2))) true, room + 1⟩ : Spot) =
      .ok o :=
  options_eq_pure (mapping_eq _ room o) (fun _ _ => rfl) fun _ _ => rfl

end MakeLint.Wire
