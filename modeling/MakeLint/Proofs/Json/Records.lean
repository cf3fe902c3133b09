import MakeLint.Json.Draft
import Mathlib

/-!
# Records in JSON texts

A record has its fields as the members of an object under their names, in any order and among other
members, or as the items of a list in the order of the fields. `Draft.IsRecord` says which drafts
are records with given fields, and `Draft.Rewrites` lists the ways to write a record differently:
members in another order, further members, fields by position, another value for a field. A draft
and its rewriting are the same records (`Draft.Rewrites.isRecord_iff`).
-/

namespace MakeLint.Json.Draft

/-- The values of the members of an object under a key. -/
def under (key : String) (members : List (Option String × Draft)) : List Draft :=
  (members.filter (·.1 = some key)).map (·.2)

/-- A field of a record: its name, and what may stand in its place. Where nothing stands there, the
field is omitted. -/
abbrev Field := String × (Option Draft → Prop)

/-- The value of a field, and what has to hold if the field is omitted. -/
def optional (value : Draft → Prop) (omitted : Prop) : Option Draft → Prop
  | some item => value item
  | none => omitted

/-- The value of a field that must not be omitted. -/
def required (value : Draft → Prop) : Option Draft → Prop := optional value False

/-- The items of a list are those of a record: one for each field in order, as far as there are any,
and none is left over. -/
def Positional : List Field → List Draft → Prop
  | [], items => items = []
  | field :: fields, items => field.2 items.head? ∧ Positional fields items.tail

/-- The records with given fields. -/
inductive IsRecord (fields : List Field) : Draft → Prop
  /-- An object has each field at most once, and its other members do not count. -/
  | named {members : List (Option String × Draft)} (readable : ∀ e ∈ members, e.1 ≠ none)
      (parts : ∀ field ∈ fields,
        ∃ part : Option Draft, under field.1 members = part.toList ∧ field.2 part) :
      IsRecord fields (.object members true)
  /-- A list has the fields in order. -/
  | positional {items : List Draft} (parts : Positional fields items) :
      IsRecord fields (.list items true)

/-- The members of an object that has items under names, as far as there are any of both. -/
def withNames (names : List String) (items : List Draft) : List (Option String × Draft) :=
  (names.map some).zip items

/-- A text. -/
def IsText (s : String) (d : Draft) : Prop := d = .text (some s)

/-- A list of values. -/
def IsList {α : Type} (item : α → Draft → Prop) (values : List α) (d : Draft) : Prop :=
  ∃ items, d = .list items true ∧ List.Forall₂ item values items

/-- The steps by which a record is written in another way: `inside` has the names of its fields, and
how the value of each field may be written differently. -/
inductive Rewrites (inside : List (String × (Draft → Draft → Prop))) : Draft → Draft → Prop
  /-- Members may stand in any order. -/
  | order {members others : List (Option String × Draft)} (perm : members.Perm others) :
      Rewrites inside (.object members true) (.object others true)
  /-- A member under another name may be added, with any value. -/
  | ignored {key : String} (item : Draft) (members : List (Option String × Draft))
      (other : key ∉ inside.map (·.1)) :
      Rewrites inside (.object members true) (.object ((some key, item) :: members) true)
  /-- The first fields may stand by position. -/
  | position (items : List Draft) (length : items.length ≤ inside.length) :
      Rewrites inside (.object (withNames (inside.map (·.1)) items) true) (.list items true)
  /-- The value of a field may be written differently. -/
  | value {name : String} {same : Draft → Draft → Prop} {item other : Draft}
      (members : List (Option String × Draft)) (field : (name, same) ∈ inside)
      (rewrites : same item other) :
      Rewrites inside (.object ((some name, item) :: members) true)
        (.object ((some name, other) :: members) true)

/-- A list is written in another way if some of its items are. -/
inductive RewritesItems (same : Draft → Draft → Prop) : Draft → Draft → Prop
  | items {items others : List Draft}
      (rewrites : List.Forall₂ (Relation.ReflGen same) items others) :
      RewritesItems same (.list items true) (.list others true)

/-! ## Members under a key -/

/-- A member stands under its own key. -/
theorem under_cons_self (key : String) (item : Draft) (members : List (Option String × Draft)) :
    under key ((some key, item) :: members) = item :: under key members := by
  simp [under]

/-- A member under another key, or under one that cannot be read, does not stand under a key. -/
theorem under_cons_of_ne {key : String} {e : Option String × Draft} (h : e.1 ≠ some key)
    (members : List (Option String × Draft)) : under key (e :: members) = under key members := by
  simp [under, h]

/-- What stands under a key is a matter of the members and not of their order. -/
theorem under_perm (key : String) {members others : List (Option String × Draft)}
    (h : members.Perm others) : (under key members).Perm (under key others) :=
  (h.filter _).map _

/-- At most one value stands in an order of its own. -/
theorem eq_toList_of_perm {items others : List Draft} (h : items.Perm others)
    {part : Option Draft} (hitems : items = part.toList) : others = part.toList := by
  subst hitems
  cases part with
  | none => exact h.nil_eq.symm
  | some item => exact List.singleton_perm.1 h |>.symm

/-- Among members with other names nothing stands under a name. -/
theorem under_withNames_eq_nil {name : String} {names : List String} (h : name ∉ names)
    (items : List Draft) : under name (withNames names items) = [] := by
  unfold under withNames
  rw [List.map_eq_nil_iff, List.filter_eq_nil_iff]
  intro e he
  obtain ⟨other, hother, hkey⟩ := List.mem_map.1 (List.of_mem_zip he).1
  have hne : other ≠ name := fun heq => h (heq ▸ hother)
  simpa [← hkey] using hne

/-- A value is the part in its place if it is the only one there. -/
theorem exists_part_cons_iff {item : Draft} {items : List Draft} {holds : Option Draft → Prop} :
    (∃ part : Option Draft, item :: items = part.toList ∧ holds part) ↔
      items = [] ∧ holds (some item) := by
  constructor
  · rintro ⟨part, hpart, h⟩
    cases part with
    | none => cases hpart
    | some only =>
      obtain ⟨rfl, rfl⟩ := List.cons.inj hpart
      exact ⟨rfl, h⟩
  · rintro ⟨rfl, h⟩
    exact ⟨some item, rfl, h⟩

/-- The records that are written as objects. -/
theorem isRecord_object_iff {fields : List Field} {members : List (Option String × Draft)} :
    IsRecord fields (.object members true) ↔ (∀ e ∈ members, e.1 ≠ none) ∧ ∀ field ∈ fields,
      ∃ part : Option Draft, under field.1 members = part.toList ∧ field.2 part := by
  constructor
  · rintro ⟨readable, parts⟩
    exact ⟨readable, parts⟩
  · rintro ⟨readable, parts⟩
    exact .named readable parts

/-- The records that are written as lists. -/
theorem isRecord_list_iff {fields : List Field} {items : List Draft} :
    IsRecord fields (.list items true) ↔ Positional fields items := by
  constructor
  · rintro ⟨⟩
    assumption
  · exact .positional

/-- An object is a record if it has the first field at most once, and the members under other names
are a record with the other fields. -/
theorem isRecord_cons_object_iff {field : Field} {fields : List Field}
    (hname : field.1 ∉ fields.map (·.1)) {members : List (Option String × Draft)} :
    IsRecord (field :: fields) (.object members true) ↔
      (∃ part : Option Draft, under field.1 members = part.toList ∧ field.2 part) ∧
        IsRecord fields (.object (members.filter (·.1 ≠ some field.1)) true) := by
  have hreadable : (∀ e ∈ members.filter (·.1 ≠ some field.1), e.1 ≠ none) ↔
      ∀ e ∈ members, e.1 ≠ none := by
    simp only [List.mem_filter, decide_eq_true_eq, and_imp]
    exact forall₂_congr fun e _ => ⟨fun h hnone => h (by simp [hnone]) hnone, fun h _ => h⟩
  have hunder (other : Field) (hother : other ∈ fields) :
      under other.1 (members.filter (·.1 ≠ some field.1)) = under other.1 members := by
    have hne : other.1 ≠ field.1 := fun heq => hname (List.mem_map.2 ⟨other, hother, heq⟩)
    unfold under
    rw [List.filter_filter]
    congr 2
    funext e
    simp only [Bool.and_eq_decide, decide_eq_decide, decide_eq_true_eq]
    exact and_iff_left_of_imp fun h heq => hne (Option.some.inj (h.symm.trans heq))
  rw [isRecord_object_iff, isRecord_object_iff, List.forall_mem_cons, hreadable, and_left_comm]
  refine and_congr_right fun _ => and_congr_right fun _ => forall₂_congr fun other hother => ?_
  rw [hunder other hother]

/-- The items of a whole list are whole. -/
theorem whole_of_mem_items {items : List Draft} (h : wholeItems items = true) :
    ∀ item ∈ items, item.whole = true := by
  induction items with
  | nil => simp
  | cons item items ih =>
    obtain ⟨hitem, hitems⟩ := Bool.and_eq_true_iff.1 h
    exact List.forall_mem_cons.2 ⟨hitem, ih hitems⟩

/-- The values of the members of a whole object are whole. -/
theorem whole_of_mem_members {members : List (Option String × Draft)}
    (h : wholeMembers members = true) : ∀ e ∈ members, e.2.whole = true := by
  induction members with
  | nil => simp
  | cons e members ih =>
    obtain ⟨he, hmembers⟩ := Bool.and_eq_true_iff.1 h
    exact List.forall_mem_cons.2 ⟨he, ih hmembers⟩

/-- Fields of one name that ask the same of whole values. -/
def Alike (field other : Field) : Prop :=
  field.1 = other.1 ∧ ∀ part : Option Draft, (∀ item ∈ part, item.whole = true) →
    (field.2 part ↔ other.2 part)

/-- Two fields are alike if they ask the same of a whole value, and are omitted alike. -/
theorem alike_optional {name : String} {value same : Draft → Prop} {omitted absent : Prop}
    (hvalue : ∀ item, item.whole = true → (value item ↔ same item)) (homitted : omitted ↔ absent) :
    Alike (name, optional value omitted) (name, optional same absent) := by
  refine ⟨rfl, fun part hpart => ?_⟩
  cases part with
  | none => exact homitted
  | some item => exact hvalue item (hpart item rfl)

/-- Alike fields have the same whole records. -/
theorem isRecord_congr {fields others : List Field} (h : List.Forall₂ Alike fields others)
    {d : Draft} (hwhole : d.whole = true) : IsRecord fields d ↔ IsRecord others d := by
  cases d with
  | object members closed =>
    obtain ⟨hmembers, rfl⟩ := Bool.and_eq_true_iff.1 hwhole
    have hunder (name : String) (part : Option Draft) (hpart : under name members = part.toList) :
        ∀ item ∈ part, item.whole = true := by
      intro item hitem
      have hitem : item ∈ under name members := hpart ▸ Option.mem_toList.2 hitem
      obtain ⟨e, he, rfl⟩ := List.mem_map.1 hitem
      exact whole_of_mem_members hmembers e (List.mem_of_mem_filter he)
    rw [isRecord_object_iff, isRecord_object_iff]
    refine and_congr_right fun _ => ?_
    -- Only whole values are asked for, since what stands under a name is a value of the object.
    induction h with
    | nil => rfl
    | @cons field other _ _ halike _ ih =>
      rw [List.forall_mem_cons, List.forall_mem_cons, ih, halike.1]
      refine and_congr_left fun _ => exists_congr fun part => and_congr_right fun hpart => ?_
      exact halike.2 part (hunder other.1 part hpart)
  | list items closed =>
    obtain ⟨hwholeItems, rfl⟩ := Bool.and_eq_true_iff.1 hwhole
    have hitems := whole_of_mem_items hwholeItems
    clear hwhole hwholeItems
    rw [isRecord_list_iff, isRecord_list_iff]
    induction h generalizing items with
    | nil => rfl
    | @cons field other _ _ halike _ ih =>
      refine and_congr (halike.2 _ fun item hitem => ?_) (ih _ fun item hitem => ?_)
      · exact hitems item (List.mem_of_mem_head? hitem)
      · exact hitems item (List.mem_of_mem_tail hitem)
  | _ => exact iff_of_false nofun nofun

/-- An object or a list that has given parts as the fields of a record; a part that is none is not
there. -/
def HasParts (parts : List (String × Option Draft)) (d : Draft) : Prop :=
  IsRecord (parts.map fun e => (e.1, (· = e.2))) d

/-- What has given parts is a record of fields exactly if each part is what its field asks for. -/
theorem HasParts.isRecord_iff {parts : List (String × Option Draft)} {d : Draft}
    (h : d.HasParts parts) {fields : List Field} (hnames : fields.map (·.1) = parts.map (·.1)) :
    IsRecord fields d ↔ List.Forall₂ (fun field e => field.2 e.2) fields parts := by
  cases h with
  | @named members readable known =>
    rw [isRecord_object_iff]
    refine (and_iff_right readable).trans ?_
    clear readable
    induction fields generalizing parts with
    | nil =>
      obtain rfl := List.map_eq_nil_iff.1 hnames.symm
      simp
    | cons field fields ih =>
      obtain ⟨e, parts, rfl, hname, hnames⟩ := List.map_eq_cons_iff.1 hnames.symm
      obtain ⟨⟨part, hpart, rfl⟩, hknown⟩ := List.forall_mem_cons.1 known
      have hname : e.1 = field.1 := hname
      rw [hname] at hpart
      -- At most one value stands under a name, so no other part can be meant.
      rw [List.forall_mem_cons, List.forall₂_cons, ih hnames.symm hknown]
      refine and_congr_left fun _ => ⟨?_, fun hfield => ⟨e.2, hpart, hfield⟩⟩
      rintro ⟨other, hother, hfield⟩
      have hsame : other = e.2 := by simpa using congrArg List.head? (hother.symm.trans hpart)
      rwa [← hsame]
  | @positional items known =>
    rw [isRecord_list_iff]
    induction fields generalizing parts items with
    | nil =>
      obtain rfl := List.map_eq_nil_iff.1 hnames.symm
      exact iff_of_true known .nil
    | cons field fields ih =>
      obtain ⟨e, parts, rfl, -, hnames⟩ := List.map_eq_cons_iff.1 hnames.symm
      obtain ⟨hpart, hknown⟩ := known
      rw [Positional, List.forall₂_cons, ih hnames.symm hknown, show items.head? = e.2 from hpart]

/-! ## Rewriting -/

/-- Items by position are those under the names of the fields that they stand for. -/
theorem positional_iff {fields : List Field} (hnames : (fields.map (·.1)).Nodup)
    {items : List Draft} (hlength : items.length ≤ fields.length) :
    Positional fields items ↔ ∀ field ∈ fields, ∃ part : Option Draft,
      under field.1 (withNames (fields.map (·.1)) items) = part.toList ∧ field.2 part := by
  induction fields generalizing items with
  | nil =>
    rw [List.length_nil, Nat.le_zero, List.length_eq_zero_iff] at hlength
    simp [Positional, hlength]
  | cons field fields ih =>
    obtain ⟨hname, hothers⟩ := List.nodup_cons.1 hnames
    rw [List.forall_mem_cons, Positional]
    cases items with
    | nil =>
      rw [List.head?_nil, List.tail_nil, ih hothers (Nat.zero_le _)]
      simp [withNames, under]
    | cons item items =>
      have hnone : under field.1 (withNames (fields.map (·.1)) items) = [] :=
        under_withNames_eq_nil hname items
      have hfirst : under field.1 (withNames ((field :: fields).map (·.1)) (item :: items)) =
          item :: under field.1 (withNames (fields.map (·.1)) items) := under_cons_self _ _ _
      rw [List.head?_cons, List.tail_cons, ih hothers (Nat.le_of_succ_le_succ hlength), hfirst,
        hnone, exists_part_cons_iff]
      refine and_congr (and_iff_right rfl).symm (forall₂_congr fun other hother => ?_)
      -- The first item stands under the name of the first field only.
      have hne : field.1 ≠ other.1 := by
        intro heq
        exact hname (List.mem_map.2 ⟨other, hother, heq.symm⟩)
      have hrest : under other.1 (withNames ((field :: fields).map (·.1)) (item :: items)) =
          under other.1 (withNames (fields.map (·.1)) items) :=
        under_cons_of_ne (by simpa using hne) _
      rw [hrest]

/-- What is asked of a field does not depend on how its value is written. -/
def Respects (fields : List Field) (inside : List (String × (Draft → Draft → Prop))) : Prop :=
  fields.map (·.1) = inside.map (·.1) ∧ ∀ field ∈ fields, ∀ same, (field.1, same) ∈ inside →
    ∀ item other, same item other → (field.2 (some item) ↔ field.2 (some other))

/-- A record is one of the same fields however it is written. -/
theorem Rewrites.isRecord_iff {fields : List Field}
    {inside : List (String × (Draft → Draft → Prop))} (hnames : (inside.map (·.1)).Nodup)
    (hinside : Respects fields inside) {d other : Draft} (h : Rewrites inside d other) :
    IsRecord fields d ↔ IsRecord fields other := by
  obtain ⟨hsame, hvalues⟩ := hinside
  rw [← hsame] at hnames
  cases h with
  | @order members others perm =>
    rw [isRecord_object_iff, isRecord_object_iff]
    refine and_congr (by simp only [perm.mem_iff]) (forall₂_congr fun field _ => ?_)
    -- At most one value stands under the name, so it is the same one in any order.
    refine exists_congr fun part => and_congr_left fun _ => ⟨?_, ?_⟩
    · exact eq_toList_of_perm (under_perm field.1 perm)
    · exact eq_toList_of_perm (under_perm field.1 perm).symm
  | @ignored key item members other =>
    rw [isRecord_object_iff, isRecord_object_iff, List.forall_mem_cons]
    refine and_congr (by simp) (forall₂_congr fun field hfield => ?_)
    have hne : some key ≠ some field.1 := by
      intro heq
      rw [← hsame, Option.some.inj heq] at other
      exact other (List.mem_map_of_mem hfield)
    rw [under_cons_of_ne hne]
  | position items length =>
    have hlength : items.length ≤ fields.length := by
      have hfields := congrArg List.length hsame
      rw [List.length_map, List.length_map] at hfields
      exact length.trans_eq hfields.symm
    -- The items are what stands under the names, and all names can be read.
    rw [isRecord_list_iff, positional_iff hnames hlength, isRecord_object_iff, ← hsame]
    refine and_iff_right fun e he => ?_
    obtain ⟨name, -, hkey⟩ := List.mem_map.1 (List.of_mem_zip he).1
    simp [← hkey]
  | @value name same item other members field rewrites =>
    rw [isRecord_object_iff, isRecord_object_iff, List.forall_mem_cons, List.forall_mem_cons]
    refine and_congr Iff.rfl (forall₂_congr fun f hf => ?_)
    by_cases heq : f.1 = name
    · -- The value is that of the field, and all others stand under other names.
      have hvalue := hvalues f hf same (heq ▸ field) item other rewrites
      rw [← heq, under_cons_self, under_cons_self, exists_part_cons_iff, exists_part_cons_iff,
        hvalue]
    · have hne : some name ≠ some f.1 := fun h => heq (Option.some.inj h).symm
      rw [under_cons_of_ne hne, under_cons_of_ne hne]

/-- A list holds values if its items do, one by one. -/
theorem isList_list_iff {α : Type} {item : α → Draft → Prop} {values : List α}
    {items : List Draft} :
    IsList item values (.list items true) ↔ List.Forall₂ item values items := by
  unfold IsList
  simp

/-- A list holds the same values however its items are written. -/
theorem RewritesItems.isList_iff {α : Type} {item : α → Draft → Prop}
    {same : Draft → Draft → Prop}
    (hitem : ∀ d other, same d other → ∀ a, item a d ↔ item a other) {d other : Draft}
    (h : RewritesItems same d other) (values : List α) :
    IsList item values d ↔ IsList item values other := by
  cases h with
  | @items items others rewrites =>
    rw [isList_list_iff, isList_list_iff]
    induction rewrites generalizing values with
    | nil => rfl
    | @cons first other items others hfirst _ ih =>
      have hsame (a : α) : item a first ↔ item a other := by
        cases hfirst with
        | refl => rfl
        | single hfirst => exact hitem _ _ hfirst a
      simp only [List.forall₂_cons_right_iff, hsame, ih]

end MakeLint.Json.Draft
