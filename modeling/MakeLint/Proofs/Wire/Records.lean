import MakeLint.Proofs.Json.Records
import MakeLint.Proofs.Wire.Written

/-!
# Which records are read, and as what

Reading a record from a JSON text succeeds exactly if the text holds a record with the fields that
are asked for (`Wire.record_eq_ok_iff`), each read as its value. So what is read does not depend on
how the record is written. Lists and texts are read exactly where they stand.
-/

namespace MakeLint.Wire

open Json (Draft Spot)

/-- Two steps of reading succeed if the first one does and the second one goes on from its value. -/
theorem bind_eq_ok_iff {α β : Type} {x : Except Fault α} {next : α → Except Fault β} {result : β} :
    (x >>= next) = .ok result ↔ ∃ value, x = .ok value ∧ next value = .ok result := by
  cases x <;> simp [bind, Except.bind]

/-- There is no value in the place of another kind of value. -/
theorem wrongKind_ne_ok {α : Type} (spot : Spot) (expected : Expected) {value : α} :
    spot.wrongKind expected ≠ .ok value := by
  unfold Spot.wrongKind
  intro h
  obtain ⟨found, -, hdiffers⟩ := bind_eq_ok_iff.1 h
  cases hdiffers

/-- What the fields of a record are asked for, so that they are read as given values. -/
def Fields.asks (room : Nat) : {αs : List Type} → Fields Spot (Except Fault) αs → Values αs →
    List Draft.Field
  | _, .nil, _ => []
  | _, .cons name read ifOmitted rest, (value, values) =>
    (name, Draft.optional (fun item => read ⟨item, room⟩ = .ok value) (ifOmitted = some value)) ::
      rest.asks room values

/-! ## Objects -/

/-- How a slot is filled from the values under its name: one value goes to an empty slot. -/
def Fills {α : Type} (read : Draft → Except Fault α) (slot : Option α) (items : List Draft)
    (filled : Option α) : Prop :=
  items = [] ∧ filled = slot ∨
    slot = none ∧ ∃ item value, items = [item] ∧ read item = .ok value ∧ filled = some value

/-- A slot that is filled takes no further value. -/
theorem fills_some_iff {α : Type} {read : Draft → Except Fault α} {value : α} {items : List Draft}
    {filled : Option α} : Fills read (some value) items filled ↔
      items = [] ∧ filled = some value := by
  simp [Fills]

/-- The first value goes to an empty slot, and there must not be another one. -/
theorem fills_none_cons_iff {α : Type} {read : Draft → Except Fault α} {item : Draft}
    {items : List Draft} {filled : Option α} : Fills read none (item :: items) filled ↔
      ∃ value, read item = .ok value ∧ items = [] ∧ filled = some value := by
  unfold Fills
  constructor
  · rintro (⟨h, -⟩ | ⟨-, only, value, h, hread, rfl⟩)
    · cases h
    · obtain ⟨rfl, rfl⟩ := List.cons.inj h
      exact ⟨value, hread, rfl, rfl⟩
  · rintro ⟨value, hread, rfl, rfl⟩
    exact .inr ⟨rfl, item, value, rfl, hread, rfl⟩

/-- Without a value the slot stays as it is. -/
theorem fills_nil_iff {α : Type} {read : Draft → Except Fault α} {slot filled : Option α} :
    Fills read slot [] filled ↔ filled = slot := by
  simp [Fills]

/-- The slot of the first field in front of those of the others. -/
def Slots.cons {α : Type} {αs : List Type} (slot : Option α) (slots : Slots αs) : Slots (α :: αs) :=
  (slot, slots)

/-- Slots are filled alike one by one. -/
theorem Slots.cons_inj {α : Type} {αs : List Type} {slot filled : Option α}
    {slots others : Slots αs} :
    Slots.cons slot slots = Slots.cons filled others ↔ slot = filled ∧ slots = others :=
  Prod.mk_inj

section Put

variable {α : Type} {αs : List Type} {room : Nat} {place : Spot} {name key : String}
  {read : Spot → Except Fault α} {ifOmitted : Option α} {rest : Fields Spot (Except Fault) αs}

/-- The places of members are those of the first one and of the others. -/
theorem memberSpots_cons (room : Nat) (member : Option String × Draft)
    (members : List (Option String × Draft)) : memberSpots room (member :: members) =
      (⟨.text member.1, room⟩, ⟨member.2, room⟩) :: memberSpots room members := rfl

/-- A member whose key cannot be read ends the reading. -/
theorem Fields.putAll_unreadable (fields : Fields Spot (Except Fault) αs) (item : Draft)
    (members : List (Option String × Draft)) (slots : Slots αs) :
    fields.putAll place (memberSpots room ((none, item) :: members)) slots = .error .refused := rfl

/-- Members are read one after the other. -/
theorem Fields.putAll_member (fields : Fields Spot (Except Fault) αs) (item : Draft)
    (members : List (Option String × Draft)) (slots : Slots αs) :
    fields.putAll place (memberSpots room ((some key, item) :: members)) slots =
      (fields.put place key ⟨item, room⟩ slots >>=
        fields.putAll place (memberSpots room members)) := rfl

/-- The first value of a field goes to its slot. -/
theorem Fields.put_empty (item : Spot) (slots : Slots αs) :
    (Fields.cons name read ifOmitted rest).put place name item (.cons none slots) =
      (read item >>= fun value => .ok (.cons (some value) slots)) := by
  exact if_pos rfl

/-- A second value of a field is a fault. -/
theorem Fields.put_filled (item : Spot) (value : α) (slots : Slots αs) :
    (Fields.cons name read ifOmitted rest).put place name item (.cons (some value) slots) =
      .error (.mismatch wholePath (.duplicateField name)) := by
  exact if_pos rfl

/-- A member under another name goes to the other fields. -/
theorem Fields.put_other (h : key ≠ name) (item : Spot) (slot : Option α) (slots : Slots αs) :
    (Fields.cons name read ifOmitted rest).put place key item (.cons slot slots) =
      (rest.put place key item slots >>= fun slots => .ok (.cons slot slots)) := by
  exact if_neg h

/-- The members under the name of the first field fill its slot, and the others go to the other
fields. -/
theorem Fields.putAll_cons_eq_ok_iff {members : List (Option String × Draft)}
    {slot filled : Option α} {slots others : Slots αs} :
    (Fields.cons name read ifOmitted rest).putAll place (memberSpots room members)
        (.cons slot slots) = .ok (.cons filled others) ↔
      Fills (fun item => read ⟨item, room⟩) slot (Draft.under name members) filled ∧
        rest.putAll place (memberSpots room (members.filter (·.1 ≠ some name))) slots =
          .ok others := by
  induction members generalizing slot slots with
  | nil =>
    have hdone {αs : List Type} (fields : Fields Spot (Except Fault) αs) (slots : Slots αs) :
        fields.putAll place (memberSpots room []) slots = .ok slots := rfl
    rw [List.filter_nil, hdone, hdone, Except.ok.injEq, Except.ok.injEq, Slots.cons_inj]
    exact and_congr_left fun _ => eq_comm.trans fills_nil_iff.symm
  | cons member members ih =>
    obtain ⟨key, item⟩ := member
    cases key with
    | none =>
      -- The other fields meet the key too.
      rw [List.filter_cons_of_pos (by simp), putAll_unreadable, putAll_unreadable]
      simp
    | some key =>
      rw [putAll_member, bind_eq_ok_iff]
      by_cases hkey : key = name
      · subst hkey
        rw [List.filter_cons_of_neg (by simp), Draft.under_cons_self]
        cases slot with
        | some value => simp [put_filled, fills_some_iff]
        | none =>
          simp only [put_empty, bind_eq_ok_iff, fills_none_cons_iff]
          constructor
          · rintro ⟨_, ⟨value, hread, hslots⟩, hothers⟩
            obtain rfl := Except.ok.inj hslots
            obtain ⟨hfills, hrest⟩ := ih.1 hothers
            exact ⟨⟨value, hread, fills_some_iff.1 hfills⟩, hrest⟩
          · rintro ⟨⟨value, hread, hfills⟩, hrest⟩
            exact ⟨_, ⟨value, hread, rfl⟩, ih.2 ⟨fills_some_iff.2 hfills, hrest⟩⟩
      · rw [List.filter_cons_of_pos (by simpa using hkey),
          Draft.under_cons_of_ne (by simpa using hkey), putAll_member, bind_eq_ok_iff]
        simp only [put_other hkey, bind_eq_ok_iff]
        constructor
        · rintro ⟨_, ⟨slots, hput, hslots⟩, hothers⟩
          obtain rfl := Except.ok.inj hslots
          obtain ⟨hfills, hrest⟩ := ih.1 hothers
          exact ⟨hfills, slots, hput, hrest⟩
        · rintro ⟨hfills, slots, hput, hrest⟩
          exact ⟨_, ⟨slots, hput, rfl⟩, ih.2 ⟨hfills, hrest⟩⟩

/-- The value of the first field is what fills its slot, or what it is if it is omitted. -/
theorem Fields.finish_cons_eq_ok_iff {slot : Option α} {slots : Slots αs} {value : α}
    {values : Values αs} :
    (Fields.cons name read ifOmitted rest).finish place (.cons slot slots) =
        .ok (value, values) ↔
      slot.or ifOmitted = some value ∧ rest.finish place slots = .ok values := by
  unfold Slots.cons
  rw [Fields.finish]
  cases slot.or ifOmitted with
  | none => exact iff_of_false (by simp [Source.differs, Json.differs]) (by simp)
  | some found =>
    rw [Option.some.injEq]
    refine bind_eq_ok_iff.trans ⟨?_, ?_⟩
    · rintro ⟨others, hothers, hvalues⟩
      obtain ⟨rfl, rfl⟩ := Prod.mk.inj (Except.ok.inj hvalues)
      exact ⟨rfl, hothers⟩
    · rintro ⟨rfl, hothers⟩
      exact ⟨values, hothers, rfl⟩

/-- The first field has a value exactly if what stands under its name is asked for. -/
theorem exists_fills_iff {read : Draft → Except Fault α} {items : List Draft} {value : α} :
    (∃ filled, Fills read none items filled ∧ filled.or ifOmitted = some value) ↔
      ∃ part : Option Draft, items = part.toList ∧
        Draft.optional (fun item => read item = .ok value) (ifOmitted = some value) part := by
  constructor
  · rintro ⟨filled, ⟨rfl, rfl⟩ | ⟨-, item, found, rfl, hread, rfl⟩, hvalue⟩
    · exact ⟨none, rfl, hvalue⟩
    · obtain rfl := Option.some.inj hvalue
      exact ⟨some item, rfl, hread⟩
  · rintro ⟨_ | item, rfl, hpart⟩
    · exact ⟨none, .inl ⟨rfl, rfl⟩, hpart⟩
    · exact ⟨some value, .inr ⟨rfl, item, value, rfl, hpart, rfl⟩, rfl⟩

end Put

/-- The fields are asked for under their names. -/
theorem Fields.map_asks (room : Nat) {αs : List Type} (fields : Fields Spot (Except Fault) αs)
    (values : Values αs) : (fields.asks room values).map (·.1) = fields.names := by
  induction fields with
  | nil => rfl
  | cons name read ifOmitted rest ih => exact congrArg (name :: ·) (ih values.2)

/-- Members go to no field exactly if their keys can be read and their values are whole. -/
theorem Fields.putAll_nil_eq_ok_iff {room : Nat} (place : Spot)
    {members : List (Option String × Draft)} (hwhole : ∀ e ∈ members, e.2.whole = true)
    (slots others : Slots []) :
    (Fields.nil : Fields Spot (Except Fault) []).putAll place (memberSpots room members) slots =
      .ok others ↔ ∀ e ∈ members, e.1 ≠ none := by
  induction members with
  | nil => simp; rfl
  | cons member members ih =>
    obtain ⟨hmember, hothers⟩ := List.forall_mem_cons.1 hwhole
    obtain ⟨key, item⟩ := member
    cases key with
    | none => simp [putAll_unreadable]
    | some key =>
      have hput : (Fields.nil : Fields Spot (Except Fault) []).put place key ⟨item, room⟩ slots =
          .ok slots := by
        have hskip : (Source.skip (⟨item, room⟩ : Spot) : Except Fault Unit) = .ok () :=
          if_pos hmember
        change (Source.skip (⟨item, room⟩ : Spot) >>= fun _ => Except.ok slots) = .ok slots
        rw [hskip, ok_bind]
      rw [putAll_member, hput, ok_bind, ih hothers, List.forall_mem_cons]
      simp

/-- The members of an object are read as the values of fields exactly if the object is a record with
what the fields are asked for. -/
theorem Fields.putAll_finish_iff {room : Nat} (place : Spot) {αs : List Type}
    (fields : Fields Spot (Except Fault) αs) (hnames : fields.names.Nodup)
    {members : List (Option String × Draft)} (hwhole : ∀ e ∈ members, e.2.whole = true)
    (values : Values αs) :
    (∃ slots, fields.putAll place (memberSpots room members) (.none αs) = .ok slots ∧
        fields.finish place slots = .ok values) ↔
      Draft.IsRecord (fields.asks room values) (.object members true) := by
  induction fields generalizing members with
  | nil =>
    have hrecord : Draft.IsRecord ((Fields.nil : Fields Spot (Except Fault) []).asks room values)
        (.object members true) ↔ ∀ e ∈ members, e.1 ≠ none := by
      rw [Draft.isRecord_object_iff]
      exact and_iff_left fun field hfield => absurd hfield List.not_mem_nil
    rw [hrecord, ← putAll_nil_eq_ok_iff place hwhole () ()]
    constructor
    · rintro ⟨slots, hslots, -⟩
      exact hslots
    · intro hslots
      exact ⟨(), hslots, rfl⟩
  | @cons α αs name read ifOmitted rest ih =>
    obtain ⟨value, values⟩ := values
    obtain ⟨hname, hothers⟩ := List.nodup_cons.1 hnames
    rw [← rest.map_asks room values] at hname
    have hwholeOthers : ∀ e ∈ members.filter (·.1 ≠ some name), e.2.whole = true := fun e he =>
      hwhole e (List.mem_of_mem_filter he)
    have ih := ih hothers hwholeOthers values
    -- What is under the name of the first field fills its slot; the others get the other members.
    refine Iff.trans ?_ (Draft.isRecord_cons_object_iff hname).symm
    rw [← ih, ← exists_fills_iff]
    constructor
    · rintro ⟨⟨filled, others⟩, hput, hfinish⟩
      obtain ⟨hfills, hrest⟩ := putAll_cons_eq_ok_iff.1 hput
      obtain ⟨hvalue, hvalues⟩ := finish_cons_eq_ok_iff.1 hfinish
      exact ⟨⟨filled, hfills, hvalue⟩, others, hrest, hvalues⟩
    · rintro ⟨⟨filled, hfills, hvalue⟩, others, hrest, hvalues⟩
      exact ⟨.cons filled others, putAll_cons_eq_ok_iff.2 ⟨hfills, hrest⟩,
        finish_cons_eq_ok_iff.2 ⟨hvalue, hvalues⟩⟩

/-! ## Lists -/

/-- The items of a list are read as the values of fields exactly if they are what the fields are
asked for, by position. -/
theorem Fields.takeAll_eq_ok_iff {room : Nat} {place : Spot} {tooShort : Nat → Mismatch}
    {αs : List Type} (fields : Fields Spot (Except Fault) αs) (values : Values αs) (position : Nat)
    (items : List Draft) :
    fields.takeAll place tooShort true position (items.map fun item => ⟨item, room⟩) =
      .ok values ↔ Draft.Positional (fields.asks room values) items := by
  induction fields generalizing position items with
  | nil =>
    cases items with
    | nil => exact iff_of_true rfl rfl
    | cons item items => exact iff_of_false nofun nofun
  | @cons α αs name read ifOmitted rest ih =>
    obtain ⟨value, values⟩ := values
    cases items with
    | nil =>
      -- The field is omitted, and so are all behind it.
      have ih := ih values (position + 1) []
      rw [List.map_nil] at ih
      refine Iff.trans ?_ (and_congr_right fun _ => ih)
      cases ifOmitted with
      | none => exact iff_of_false nofun fun h => nomatch h.1
      | some omitted =>
        refine bind_eq_ok_iff.trans ?_
        constructor
        · rintro ⟨others, hothers, hvalues⟩
          obtain ⟨rfl, rfl⟩ := Prod.mk.inj (Except.ok.inj hvalues)
          exact ⟨rfl, hothers⟩
        · rintro ⟨homitted, hothers⟩
          obtain rfl := Option.some.inj homitted
          exact ⟨values, hothers, rfl⟩
    | cons item items =>
      refine Iff.trans ?_ (and_congr_right fun _ => ih values (position + 1) items)
      refine bind_eq_ok_iff.trans ?_
      constructor
      · rintro ⟨found, hread, hrest⟩
        obtain ⟨others, hothers, hvalues⟩ := bind_eq_ok_iff.1 hrest
        obtain ⟨rfl, rfl⟩ := Prod.mk.inj (Except.ok.inj hvalues)
        exact ⟨hread, hothers⟩
      · rintro ⟨hread, hothers⟩
        exact ⟨value, hread, bind_eq_ok_iff.2 ⟨values, hothers, rfl⟩⟩

/-! ## Records -/

/-- A whole draft is read as a record of given values exactly if it is a record with what its fields
are asked for. -/
theorem record_eq_ok_iff {room : Nat} {αs : List Type} {fields : Fields Spot (Except Fault) αs}
    (hnames : fields.names.Nodup) {d : Draft} (hwhole : d.whole = true) {name : String}
    {values : Values αs} :
    record name fields (⟨d, room + 1⟩ : Spot) = .ok values ↔
      Draft.IsRecord (fields.asks room values) d := by
  cases d with
  | object members closed =>
    obtain ⟨hmembers, rfl⟩ := Bool.and_eq_true_iff.1 hwhole
    rw [← fields.putAll_finish_iff ⟨.object members true, room + 1⟩ hnames
      (Draft.whole_of_mem_members hmembers)]
    change (fields.putAll _ (memberSpots room members) _ >>= fun slots => _) = _ ↔ _
    exact bind_eq_ok_iff
  | list items closed =>
    obtain ⟨-, rfl⟩ := Bool.and_eq_true_iff.1 hwhole
    rw [Draft.isRecord_list_iff, ← fields.takeAll_eq_ok_iff values 0 items]
    rfl
  | _ =>
    refine iff_of_false (fun h => ?_) nofun
    obtain ⟨form, hform, -⟩ := bind_eq_ok_iff.1 h
    simp only [Source.record, Spot.record] at hform
    exact wrongKind_ne_ok _ _ hform

/-! ## Texts and lists -/

/-- A text is read exactly where it stands. -/
theorem text_eq_ok_iff {d : Draft} {room : Nat} {s : String} :
    text (⟨d, room⟩ : Spot) = .ok s ↔ d.IsText s := by
  unfold Draft.IsText
  cases d with
  | text value =>
    cases value with
    | none => exact iff_of_false (wrongKind_ne_ok ⟨.text none, room⟩ .text) nofun
    | some found =>
      rw [Draft.text.injEq, Option.some.injEq]
      exact Except.ok.injEq found s ▸ Iff.rfl
  | _ =>
    refine iff_of_false (fun h => ?_) nofun
    simp only [text, Source.text, Spot.text] at h
    exact wrongKind_ne_ok _ _ h

/-- Values are read one after the other, each from its own place. -/
theorem mapM_eq_ok_iff {α β : Type} {read : β → Except Fault α} {places : List β}
    {values : List α} :
    places.mapM read = .ok values ↔
      List.Forall₂ (fun value place => read place = .ok value) values places := by
  induction places generalizing values with
  | nil =>
    rw [List.mapM_nil, List.forall₂_nil_right_iff]
    exact (Except.ok.injEq [] values).to_iff.trans eq_comm
  | cons place places ih =>
    simp only [List.mapM_cons, bind_eq_ok_iff, ih, List.forall₂_cons_right_iff]
    constructor
    · rintro ⟨value, hvalue, others, hothers, hvalues⟩
      exact ⟨value, others, hvalue, hothers, (Except.ok.inj hvalues).symm⟩
    · rintro ⟨value, others, hvalue, hothers, rfl⟩
      exact ⟨value, hvalue, others, hothers, rfl⟩

/-- A whole draft is read as a list of values exactly if it is a list whose items are read as them.
-/
theorem list_eq_ok_iff {α : Type} {item : Spot → Except Fault α} {holds : α → Draft → Prop}
    {room : Nat} (hitem : ∀ value d, d.whole = true → (item ⟨d, room⟩ = .ok value ↔ holds value d))
    {d : Draft} (hwhole : d.whole = true) {values : List α} :
    list item (⟨d, room + 1⟩ : Spot) = .ok values ↔ d.IsList holds values := by
  cases d with
  | list items closed =>
    obtain ⟨hwholeItems, rfl⟩ := Bool.and_eq_true_iff.1 hwhole
    have hitems := Draft.whole_of_mem_items hwholeItems
    clear hwhole hwholeItems
    rw [Draft.isList_list_iff]
    change ((items.map fun i => (⟨i, room⟩ : Spot)).mapM item >>= fun values => .ok values) = _ ↔ _
    simp only [bind_eq_ok_iff, Except.ok.injEq, exists_eq_right, mapM_eq_ok_iff,
      List.forall₂_map_right_iff]
    induction items generalizing values with
    | nil => simp only [List.forall₂_nil_right_iff]
    | cons i items ih =>
      obtain ⟨hi, hitems⟩ := List.forall_mem_cons.1 hitems
      simp only [List.forall₂_cons_right_iff, ih hitems, hitem _ i hi]
  | _ =>
    refine iff_of_false (fun h => ?_) nofun
    obtain ⟨row, hrow, -⟩ := bind_eq_ok_iff.1 h
    simp only [Source.sequence, Spot.sequence] at hrow
    exact wrongKind_ne_ok _ _ hrow

/-! ## Values made of records -/

/-- Reading a record and making a value of its fields gives the value that has these fields. -/
theorem record_made_eq_ok_iff {α : Type} (αs : List Type) (make : Values αs → α)
    (parts : α → Values αs) (hmake : ∀ a, make (parts a) = a)
    (hparts : ∀ values, parts (make values) = values) {name : String}
    {fields : Fields Spot (Except Fault) αs} (hnames : fields.names.Nodup) {room : Nat} {a : α}
    {others : List Draft.Field}
    (halike : List.Forall₂ Draft.Alike (fields.asks room (parts a)) others) {d : Draft}
    (hwhole : d.whole = true) :
    (record name fields (⟨d, room + 1⟩ : Spot) >>= fun values => .ok (make values)) = .ok a ↔
      d.IsRecord others := by
  rw [bind_eq_ok_iff, ← Draft.isRecord_congr halike hwhole, ← record_eq_ok_iff hnames hwhole]
  constructor
  · rintro ⟨values, hread, hmade⟩
    rw [← Except.ok.inj hmade, hparts, hread]
  · intro hread
    exact ⟨parts a, hread, congrArg Except.ok (hmake a)⟩

/-- A field that must not be omitted asks for what is read from it. -/
theorem alike_required {α : Type} {name : String} {room : Nat} {read : Spot → Except Fault α}
    {value : α} {holds : Draft → Prop}
    (h : ∀ item, item.whole = true → (read ⟨item, room⟩ = .ok value ↔ holds item)) :
    Draft.Alike
      (name, Draft.optional (fun item => read ⟨item, room⟩ = .ok value) (none = some value))
      (name, Draft.required holds) :=
  Draft.alike_optional h (iff_of_false nofun id)

/-- A list that may be omitted asks for what is read from it, or for no values. -/
theorem alike_list {α : Type} {name : String} {room : Nat} {read : Spot → Except Fault α}
    {values : List α} {holds : α → Draft → Prop}
    (h : ∀ value item, item.whole = true → (read ⟨item, room⟩ = .ok value ↔ holds value item)) :
    Draft.Alike (name, Draft.optional (fun item => list read ⟨item, room + 1⟩ = .ok values)
      (some [] = some values)) (name, Draft.optional (Draft.IsList holds values) (values = [])) :=
  Draft.alike_optional (fun _ hwhole => list_eq_ok_iff h hwhole)
    ((Option.some.injEq _ _).to_iff.trans eq_comm)

/-! ## Texts of values -/

/-- Reading a value from a text that spells a draft is reading it from the draft. -/
theorem read_eq {α : Type} (value : Spot → Except Fault α) {d : Draft} {text : String}
    (h : d.SpellsWhole text) : Json.read value text = value ⟨d, Json.maxLevels⟩ := by
  unfold Json.read
  simp only [Draft.ofText_eq h, if_true, bind_pure]

end MakeLint.Wire
