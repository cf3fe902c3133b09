import MakeLint.Proofs.Table.Contents
import MakeLint.Wire.Record

/-!
# Reading values whose parts are read

A record, a list or a table is read as soon as its parts are: the lemmas hold for every source whose
monad obeys the laws, and ask only what the source gives for the places of the parts. The fields of
a record are those of `Fields.Holds`, in the order of their declaration.
-/

namespace MakeLint.Wire

variable {ν : Type} {m : Type → Type} [Monad m] [LawfulMonad m] [Source ν m]

/-! ## Records -/

/-- The names of the fields of a record. -/
def Fields.names {ν : Type} {m : Type → Type} : {αs : List Type} → Fields ν m αs → List String
  | _, .nil => []
  | _, .cons name _ _ rest => name :: rest.names

/-- The slots of a record of which every field has been met. -/
def Slots.full : {αs : List Type} → Values αs → Slots αs
  | [], () => ()
  | _ :: _, (value, values) => (some value, Slots.full values)

/-- The places are those of the fields in the order of their declaration, and each is read as its
value. -/
def Fields.Holds : {αs : List Type} → Fields ν m αs → List (ν × ν) → Values αs → Prop
  | _, .nil, places, _ => places = []
  | _, .cons name read _ rest, places, (value, values) =>
    ∃ key item others, places = (key, item) :: others ∧
      (Source.text key .fieldName : m String) = pure name ∧ read item = pure value ∧
      rest.Holds others values

omit [LawfulMonad m] in
/-- The keys of fields are read as the names of the fields. -/
theorem Fields.Holds.key_mem {αs : List Type} {fields : Fields ν m αs} {places : List (ν × ν)}
    {values : Values αs} (h : fields.Holds places values) :
    ∀ e ∈ places, ∃ name ∈ fields.names, (Source.text e.1 .fieldName : m String) = pure name := by
  induction fields generalizing places with
  | nil =>
    rw [show places = [] from h]
    simp
  | cons name read ifOmitted rest ih =>
    obtain ⟨value, values⟩ := values
    obtain ⟨key, item, others, rfl, hkey, -, hrest⟩ := h
    intro e he
    rcases List.mem_cons.1 he with rfl | he
    · exact ⟨name, List.mem_cons_self, hkey⟩
    · obtain ⟨other, hother, hkey⟩ := ih hrest e he
      exact ⟨other, List.mem_cons_of_mem _ hother, hkey⟩

/-- Members with other keys than that of the first field leave its slot alone. -/
theorem Fields.putAll_other {α : Type} {αs : List Type} {name : String} {places : List (ν × ν)}
    (h : ∀ e ∈ places, ∃ other, other ≠ name ∧
      (Source.text e.1 .fieldName : m String) = pure other) (read : ν → m α)
    (ifOmitted : Option α) (rest : Fields ν m αs) (place : ν) (slot : Option α)
    (slots : Slots αs) :
    (Fields.cons name read ifOmitted rest).putAll place places (slot, slots) =
      (slot, ·) <$> rest.putAll place places slots := by
  induction places generalizing slots with
  | nil => exact (map_pure _ _).symm
  | cons e places ih =>
    obtain ⟨key, item⟩ := e
    obtain ⟨other, hne, hkey⟩ := h _ List.mem_cons_self
    have ih := ih fun e he => h e (List.mem_cons_of_mem _ he)
    -- The member goes to one of the other fields, or to none of them.
    simp only [putAll, hkey, pure_bind, put, if_neg hne, bind_assoc, map_bind]
    exact bind_congr fun slots => (pure_bind _ _).trans (ih slots)

/-- The members of a record fill all slots. -/
theorem Fields.Holds.putAll_eq {αs : List Type} {fields : Fields ν m αs} {places : List (ν × ν)}
    {values : Values αs} (h : fields.Holds places values) (hnames : fields.names.Nodup)
    (place : ν) : fields.putAll place places (.none αs) = pure (.full values) := by
  induction fields generalizing places with
  | nil =>
    rw [show places = [] from h]
    rfl
  | cons name read ifOmitted rest ih =>
    obtain ⟨value, values⟩ := values
    obtain ⟨key, item, others, rfl, hkey, hread, hrest⟩ := h
    obtain ⟨hname, hothers⟩ := List.nodup_cons.1 hnames
    -- The first member fills the first slot; the others have other keys.
    have hkeys : ∀ e ∈ others, ∃ other, other ≠ name ∧
        (Source.text e.1 .fieldName : m String) = pure other := by
      intro e he
      obtain ⟨other, hother, hkey⟩ := hrest.key_mem e he
      exact ⟨other, fun heq => hname (heq ▸ hother), hkey⟩
    have hleft := putAll_other hkeys read ifOmitted rest place (some value) (.none _)
    rw [ih hrest hothers, map_pure] at hleft
    simp only [putAll, hkey, pure_bind, put, Slots.none, if_true, hread]
    exact (pure_bind _ _).trans hleft

/-- When all slots are full, the values of a record are those in the slots. -/
theorem Fields.finish_full {αs : List Type} (fields : Fields ν m αs) (place : ν)
    (values : Values αs) : fields.finish place (.full values) = pure values := by
  induction fields with
  | nil => rfl
  | cons name read ifOmitted rest ih =>
    obtain ⟨value, values⟩ := values
    simp only [finish, Slots.full, Option.some_or, ih, pure_bind]

/-- A record whose members are read as its fields is read as their values. -/
theorem Fields.Holds.record_eq {αs : List Type} {fields : Fields ν m αs} {places : List (ν × ν)}
    {values : Values αs} (h : fields.Holds places values) (hnames : fields.names.Nodup)
    {name : String} {place : ν}
    (hform : (Source.record place name : m (RecordForm ν)) = pure (.named ⟨places, true⟩)) :
    record name fields place = pure values := by
  simp only [record, hform, pure_bind, h.putAll_eq hnames, Row.finish, if_true,
    fields.finish_full place values]

/-! ## Lists and tables -/

/-- Items that are all read as values of the same number are read as the list of the values. -/
theorem mapM_eq_pure {α β : Type} {read : β → m α} {write : α → β} {values : List α}
    (h : ∀ a ∈ values, read (write a) = pure a) : (values.map write).mapM read = pure values := by
  induction values with
  | nil => rfl
  | cons a rest ih =>
    have ih := ih fun b hb => h b (List.mem_cons_of_mem _ hb)
    rw [List.map_cons, List.mapM_cons, h a List.mem_cons_self, pure_bind, ih, pure_bind]

/-- A list is read if its items are. -/
theorem list_eq_pure {α : Type} {item : ν → m α} {place : ν} {itemAt : α → ν} {values : List α}
    (hsequence : (Source.sequence place : m (Row ν)) = pure ⟨values.map itemAt, true⟩)
    (hitem : ∀ a ∈ values, item (itemAt a) = pure a) : list item place = pure values := by
  simp only [list, hsequence, pure_bind, mapM_eq_pure hitem, Row.finish, if_true]

section Tables

variable {α : Type} {t : Table α} {place : ν} {key item : String × α → ν}

/-- A table is read if its keys and values are. -/
theorem table_eq_pure {value : ν → m α}
    (hmapping : (Source.mapping place : m (Row (ν × ν))) =
      pure ⟨t.toList.map fun e => (key e, item e), true⟩)
    (hkey : ∀ e ∈ t.toList, (Source.text (key e) .text : m String) = pure e.1)
    (hitem : ∀ e ∈ t.toList, value (item e) = pure e.2) : table value place = pure t := by
  simp only [table, hmapping, pure_bind]
  rw [mapM_eq_pure]
  · simp only [pure_bind, Row.finish, if_true, Table.ofList_toList]
  · intro e he
    simp only [hkey e he, hitem e he, pure_bind]

end Tables

/-- Options are read if their keys are, and their values taken in whole are their texts. -/
theorem options_eq_pure {o : Table String} {place : ν} {key item : String × String → ν}
    (hmapping : (Source.mapping place : m (Row (ν × ν))) =
      pure ⟨o.toList.map fun e => (key e, item e), true⟩)
    (hkey : ∀ e ∈ o.toList, (Source.text (key e) .text : m String) = pure e.1)
    (hitem : ∀ e ∈ o.toList, (Source.buffered (item e) : m Buffered) = pure (.text e.2)) :
    options place = pure o := by
  refine table_eq_pure hmapping hkey fun e he => ?_
  simp only [hitem e he, pure_bind]
  rfl

end MakeLint.Wire
