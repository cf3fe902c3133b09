import MakeLint.Json.Source
import MakeLint.Proofs.Json.Range
import MakeLint.Proofs.Wire.Records

/-!
# Option values in JSON texts

An option value is taken in whole before its text is looked at. That succeeds for every draft whose
texts can be read and whose numbers are within the range (`Draft.Sound`), as far as the levels
suffice (`Draft.depth`). `Draft.IsOption` says which drafts are options, and `Draft.StandsFor` which
text an option has; the value that was taken in has that text and no other
(`Draft.TakenAs.optionText?_iff`).
-/

namespace MakeLint.Json.Draft

open Wire

/-! ## Options -/

mutual

/-- The number of levels of lists and objects. -/
def depth : Draft → Nat
  | .list items _ => depthItems items + 1
  | .object members _ => depthMembers members + 1
  | _ => 0

/-- The number of levels of the deepest item. -/
def depthItems : List Draft → Nat
  | [] => 0
  | item :: rest => max (depth item) (depthItems rest)

/-- The number of levels of the deepest value of a member. -/
def depthMembers : List (Option String × Draft) → Nat
  | [] => 0
  | (_, item) :: rest => max (depth item) (depthMembers rest)

end

mutual

/-- At every level each text and each key can be read, and each number is within the range. -/
def Sound : Draft → Prop
  | .number literal => literal.InRange
  | .text value => value ≠ none
  | .list items _ => SoundItems items
  | .object members _ => SoundMembers members
  | _ => True

/-- All items are sound. -/
def SoundItems : List Draft → Prop
  | [] => True
  | item :: rest => Sound item ∧ SoundItems rest

/-- All members are sound. -/
def SoundMembers : List (Option String × Draft) → Prop
  | [] => True
  | (key, item) :: rest => key ≠ none ∧ Sound item ∧ SoundMembers rest

end

/-- The options: the absent value, flags, numbers, texts, and lists of nothing but texts. -/
def IsOption : Draft → Prop
  | .null | .boolean _ | .number _ | .text _ => True
  | .list items _ => ∀ item ∈ items, ∃ value, item = .text value
  | .broken | .object _ _ => False

/-- The text of an option. -/
inductive StandsFor : Draft → String → Prop
  | null : StandsFor .null ""
  | boolean (b : Bool) : StandsFor (.boolean b) (if b then "true" else "false")
  | text (s : String) : StandsFor (.text (some s)) s
  /-- An integer that fits 64 bits with a sign has its numeral. -/
  | integer {l : Literal} {n : Int} (integer : l.IsInteger n) (fits : n ∈ Width.signed64) :
      StandsFor (.number l) (toString n)
  /-- A greater integer that fits 64 bits without a sign has the digits of the nearest float. -/
  | wide {l : Literal} {n : Int} (integer : l.IsInteger n) (wide : n ∉ Width.signed64)
      (fits : n ∈ Width.unsigned64) :
      StandsFor (.number l) (Decimal.plain.write (Float.ofInt n))
  /-- Any other number has the digits of its float. -/
  | float {l : Literal} {x : Float} (float : l.value? = some (.float x)) :
      StandsFor (.number l) (Decimal.plain.write x)
  /-- The items of a list stand with commas between them. -/
  | list (texts : List String) :
      StandsFor (.list (texts.map fun s => .text (some s)) true) (",".intercalate texts)

/-- What a draft is taken in as. Of an object nothing else matters. -/
inductive TakenAs : Draft → Buffered → Prop
  | null : TakenAs .null .absent
  | boolean (b : Bool) : TakenAs (.boolean b) (.flag b)
  | integer {l : Literal} {n : Int} (value : l.value? = some (.integer n)) :
      TakenAs (.number l) (.integer n)
  | float {l : Literal} {x : Float} (value : l.value? = some (.float x)) :
      TakenAs (.number l) (.float x)
  | text (s : String) : TakenAs (.text (some s)) (.text s)
  | list {items : List Draft} {values : List Buffered} (parts : List.Forall₂ TakenAs items values) :
      TakenAs (.list items true) (.list values)
  | object (members : List (Option String × Draft)) : TakenAs (.object members true) .mapping

/-! ## Taking values in -/

mutual

/-- A sound value is taken in if there is room for its levels. -/
theorem exists_takenAs (d : Draft) {room : Nat} (hsound : d.Sound) (hwhole : d.whole = true)
    (hdepth : d.depth ≤ room) : ∃ value, Draft.buffered room d = .ok value ∧ d.TakenAs value := by
  cases d with
  | broken => cases hwhole
  | null => exact ⟨.absent, by rw [Draft.buffered], .null⟩
  | boolean b => exact ⟨.flag b, by rw [Draft.buffered], .boolean b⟩
  | number literal =>
    obtain ⟨value, hvalue⟩ := Option.isSome_iff_exists.1 (literal.value?_isSome_iff.2 hsound)
    rw [Draft.buffered, hvalue]
    cases value with
    | integer n => exact ⟨.integer n, rfl, .integer hvalue⟩
    | float x => exact ⟨.float x, rfl, .float hvalue⟩
  | text value =>
    cases value with
    | none => exact absurd rfl hsound
    | some s => exact ⟨.text s, by rw [Draft.buffered], .text s⟩
  | list items closed =>
    obtain ⟨hitems, rfl⟩ := Bool.and_eq_true_iff.1 hwhole
    cases room with
    | zero => exact absurd hdepth (Nat.not_succ_le_zero _)
    | succ room =>
      obtain ⟨values, hvalues, hparts⟩ :=
        exists_takenAs_items items hsound hitems (Nat.le_of_succ_le_succ hdepth)
      refine ⟨.list values, ?_, .list hparts⟩
      rw [Draft.buffered, hvalues]
      rfl
  | object members closed =>
    obtain ⟨hmembers, rfl⟩ := Bool.and_eq_true_iff.1 hwhole
    cases room with
    | zero => exact absurd hdepth (Nat.not_succ_le_zero _)
    | succ room =>
      refine ⟨.mapping, ?_, .object members⟩
      rw [Draft.buffered,
        bufferedMembers_eq members hsound hmembers (Nat.le_of_succ_le_succ hdepth)]
      rfl

/-- The items of a list are taken in if there is room for their levels. -/
theorem exists_takenAs_items (items : List Draft) {room : Nat} (hsound : SoundItems items)
    (hwhole : wholeItems items = true) (hdepth : depthItems items ≤ room) :
    ∃ values, Draft.bufferedItems room items = .ok values ∧ List.Forall₂ TakenAs items values := by
  cases items with
  | nil => exact ⟨[], by rw [Draft.bufferedItems], .nil⟩
  | cons item items =>
    obtain ⟨hwholeItem, hwholeItems⟩ := Bool.and_eq_true_iff.1 hwhole
    obtain ⟨hdepthItem, hdepthItems⟩ := Nat.max_le.1 hdepth
    obtain ⟨value, hvalue, htaken⟩ := exists_takenAs item hsound.1 hwholeItem hdepthItem
    obtain ⟨values, hvalues, hparts⟩ :=
      exists_takenAs_items items hsound.2 hwholeItems hdepthItems
    refine ⟨value :: values, ?_, .cons htaken hparts⟩
    rw [Draft.bufferedItems, hvalue, hvalues]
    rfl

/-- The members of an object are taken in if there is room for their levels. -/
theorem bufferedMembers_eq (members : List (Option String × Draft)) {room : Nat}
    (hsound : SoundMembers members) (hwhole : wholeMembers members = true)
    (hdepth : depthMembers members ≤ room) : Draft.bufferedMembers room members = .ok () := by
  cases members with
  | nil => rw [Draft.bufferedMembers]
  | cons member members =>
    obtain ⟨key, item⟩ := member
    obtain ⟨hkey, hsoundItem, hsoundMembers⟩ := hsound
    obtain ⟨hwholeItem, hwholeMembers⟩ := Bool.and_eq_true_iff.1 hwhole
    obtain ⟨hdepthItem, hdepthMembers⟩ := Nat.max_le.1 hdepth
    obtain ⟨value, hvalue, -⟩ := exists_takenAs item hsoundItem hwholeItem hdepthItem
    rw [Draft.bufferedMembers, hvalue, if_neg (by simpa using hkey)]
    exact bufferedMembers_eq members hsoundMembers hwholeMembers hdepthMembers

end

/-- A draft that can be taken in where some levels may be entered. -/
structure Readable (room : Nat) (d : Draft) : Prop where
  sound : d.Sound
  whole : d.whole = true
  depth_le : d.depth ≤ room

/-- In a readable object the keys and the values can be read. -/
theorem Readable.members {room : Nat} {members : List (Option String × Draft)}
    (h : Readable (room + 1) (.object members true)) :
    ∀ e ∈ members, e.1 ≠ none ∧ e.2.Readable room := by
  have hsound : SoundMembers members := h.sound
  have hwhole : wholeMembers members = true := (Bool.and_eq_true_iff.1 h.whole).1
  have hdepth : depthMembers members ≤ room := Nat.le_of_succ_le_succ h.depth_le
  clear h
  induction members with
  | nil => simp
  | cons member members ih =>
    obtain ⟨hkey, hsoundItem, hsoundMembers⟩ := hsound
    obtain ⟨hwholeItem, hwholeMembers⟩ := Bool.and_eq_true_iff.1 hwhole
    obtain ⟨hdepthItem, hdepthMembers⟩ := Nat.max_le.1 hdepth
    exact List.forall_mem_cons.2
      ⟨⟨hkey, hsoundItem, hwholeItem, hdepthItem⟩, ih hsoundMembers hwholeMembers hdepthMembers⟩

/-! ## Texts of options -/

/-- An integer is taken in as its text. -/
theorem integer_eq_plain (n : Int) : Buffered.integer n =
    .plain (if n ∈ Width.signed64 then toString n else Decimal.plain.write (Float.ofInt n)) := by
  unfold Buffered.integer
  split
  · rw [ofList_decimalInt]
  · rfl

/-- A value that was taken in is a text exactly if it was one. -/
theorem TakenAs.text?_iff {d : Draft} {value : Buffered} (h : d.TakenAs value) (s : String) :
    value.text? = some s ↔ d = .text (some s) := by
  cases h with
  | text found => simp [Buffered.text?]
  | integer _ =>
    rw [integer_eq_plain]
    exact iff_of_false nofun nofun
  | _ => exact iff_of_false nofun nofun

/-- The items of a list that was taken in are texts exactly if they were. -/
theorem mapM_text?_iff {items : List Draft} {values : List Buffered}
    (h : List.Forall₂ TakenAs items values) (texts : List String) :
    values.mapM Buffered.text? = some texts ↔ items = texts.map fun s => .text (some s) := by
  induction h generalizing texts with
  | nil =>
    rw [List.mapM_nil, Option.pure_def, Option.some.injEq, eq_comm, eq_comm (a := []),
      List.map_eq_nil_iff]
  | @cons item value items values hvalue _ ih =>
    simp only [List.mapM_cons, Option.bind_eq_bind, Option.bind_eq_some_iff, Option.pure_def,
      Option.some.injEq, hvalue.text?_iff, ih]
    constructor
    · rintro ⟨s, rfl, others, rfl, rfl⟩
      rfl
    · -- The first text belongs to the first item, and the others to the others.
      intro hitems
      obtain ⟨s, others, rfl, hs, hothers⟩ := List.map_eq_cons_iff.1 hitems.symm
      exact ⟨s, hs.symm, others, hothers.symm, rfl⟩

/-- The text of a number as an option: the numeral of an integer that fits 64 bits with a sign, and
otherwise the digits of the float. -/
def numberText : Number → String
  | .integer n => if n ∈ Width.signed64 then toString n else Decimal.plain.write (Float.ofInt n)
  | .float x => Decimal.plain.write x

/-- A literal stands for the text of its number. -/
theorem standsFor_number_iff (l : Literal) (t : String) :
    (Draft.number l).StandsFor t ↔ ∃ v, l.value? = some v ∧ t = numberText v := by
  constructor
  · intro ht
    cases ht with
    | @integer _ n hinteger hsigned =>
      have hvalue := (l.value?_eq_some_integer_iff n).2 ⟨hinteger, .inl hsigned⟩
      exact ⟨_, hvalue, (if_pos hsigned).symm⟩
    | @wide _ n hinteger hwide hunsigned =>
      have hvalue := (l.value?_eq_some_integer_iff n).2 ⟨hinteger, .inr hunsigned⟩
      exact ⟨_, hvalue, (if_neg hwide).symm⟩
    | float hvalue => exact ⟨_, hvalue, rfl⟩
  · rintro ⟨v, hvalue, rfl⟩
    cases v with
    | float x => exact .float hvalue
    | integer n =>
      -- What is read as an integer fits 64 bits, with a sign or without.
      obtain ⟨hinteger, hfits⟩ := (l.value?_eq_some_integer_iff n).1 hvalue
      by_cases hsigned : n ∈ Width.signed64
      · have htext : numberText (.integer n) = toString n := if_pos hsigned
        exact htext ▸ .integer hinteger hsigned
      · have htext : numberText (.integer n) = Decimal.plain.write (Float.ofInt n) :=
          if_neg hsigned
        exact htext ▸ .wide hinteger hsigned (hfits.resolve_left hsigned)

/-- A list stands for a text if it is a list of texts. -/
theorem standsFor_list_iff (items : List Draft) (closed : Bool) (t : String) :
    (Draft.list items closed).StandsFor t ↔ closed = true ∧ ∃ texts : List String,
      (items = texts.map fun s => .text (some s)) ∧ t = ",".intercalate texts := by
  constructor
  · rintro ⟨⟩
    exact ⟨rfl, _, rfl, rfl⟩
  · rintro ⟨rfl, texts, rfl, rfl⟩
    exact .list texts

/-- A value stands for one text only. -/
theorem StandsFor.unique {d : Draft} {s t : String} (hs : d.StandsFor s) (ht : d.StandsFor t) :
    s = t := by
  cases d with
  | number l =>
    obtain ⟨v, hv, rfl⟩ := (standsFor_number_iff l s).1 hs
    obtain ⟨w, hw, rfl⟩ := (standsFor_number_iff l t).1 ht
    rw [Option.some.inj (hv.symm.trans hw)]
  | list items closed =>
    obtain ⟨-, texts, rfl, rfl⟩ := (standsFor_list_iff items closed s).1 hs
    obtain ⟨-, others, hsame, rfl⟩ := (standsFor_list_iff _ closed t).1 ht
    have hinjective : Function.Injective fun s : String => Draft.text (some s) :=
      fun a b h => Option.some.inj (Draft.text.inj h)
    rw [List.map_injective_iff.2 hinjective hsame]
  | null | boolean | text =>
    cases hs
    cases ht
    rfl
  | broken | object => cases hs

/-- A value that was taken in has the text that it stands for, and no other. -/
theorem TakenAs.optionText?_iff {d : Draft} {value : Buffered} (h : d.TakenAs value) (t : String) :
    value.optionText? = some t ↔ d.StandsFor t := by
  -- A value has no other text than the one that it stands for.
  have hplain {s : String} (hs : d.StandsFor s) : some s = some t ↔ d.StandsFor t :=
    ⟨fun ht => Option.some.inj ht ▸ hs, fun ht => congrArg some (hs.unique ht)⟩
  cases h with
  | null => exact hplain .null
  | boolean b => exact hplain (.boolean b)
  | text s => exact hplain (.text s)
  | integer hvalue =>
    rw [integer_eq_plain]
    exact hplain ((standsFor_number_iff _ _).2 ⟨_, hvalue, rfl⟩)
  | float hvalue => exact hplain (.float hvalue)
  | @list items values parts =>
    change (values.mapM Buffered.text?).map (String.intercalate ",") = some t ↔ _
    rw [Option.map_eq_some_iff, standsFor_list_iff]
    simp only [mapM_text?_iff parts, true_and, eq_comm (b := t)]
  | object members => exact iff_of_false nofun nofun

/-- What stands for a text is an option. -/
theorem StandsFor.isOption {d : Draft} {t : String} (h : d.StandsFor t) : d.IsOption := by
  cases h with
  | list texts =>
    intro item hitem
    obtain ⟨s, -, rfl⟩ := List.mem_map.1 hitem
    exact ⟨_, rfl⟩
  | _ => exact trivial

/-- What was taken in stands for a text exactly if it is an option. -/
theorem TakenAs.isOption_iff {d : Draft} {value : Buffered} (h : d.TakenAs value) :
    d.IsOption ↔ ∃ t, d.StandsFor t := by
  refine ⟨fun hoption => ?_, fun ⟨t, ht⟩ => ht.isOption⟩
  cases h with
  | null => exact ⟨_, .null⟩
  | boolean b => exact ⟨_, .boolean b⟩
  | text s => exact ⟨_, .text s⟩
  | integer hvalue => exact ⟨_, (standsFor_number_iff _ _).2 ⟨_, hvalue, rfl⟩⟩
  | float hvalue => exact ⟨_, .float hvalue⟩
  | object members => exact hoption.elim
  | @list items values parts =>
    -- Every item is a text, and it can be read since it was taken in.
    have htexts : ∃ texts : List String, items = texts.map fun s => .text (some s) := by
      induction parts with
      | nil => exact ⟨[], rfl⟩
      | cons htaken _ ih =>
        obtain ⟨⟨found, rfl⟩, hrest⟩ := List.forall_mem_cons.1 hoption
        obtain ⟨texts, rfl⟩ := ih hrest
        cases htaken with
        | text s => exact ⟨s :: texts, rfl⟩
    obtain ⟨texts, rfl⟩ := htexts
    exact ⟨_, .list texts⟩

/-- A literal stands for the text of the number that it has. -/
theorem standsFor_of_numberText {l : Literal} {t : String}
    (h : l.value?.map numberText = some t) : (Draft.number l).StandsFor t := by
  obtain ⟨v, hvalue, rfl⟩ := Option.map_eq_some_iff.1 h
  exact (standsFor_number_iff l _).2 ⟨v, hvalue, rfl⟩

end MakeLint.Json.Draft
