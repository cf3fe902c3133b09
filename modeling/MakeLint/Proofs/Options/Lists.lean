import MakeLint.Proofs.Loading.Options
import MakeLint.Proofs.Text.Splitting

/-!
# Lists in option texts

An option that is read as a list gives items: texts that are not empty, without commas in them and
without blanks at their ends (`Options.IsItem`). What two texts list is listed by the text that has
a comma between them, so an option that is given as a sequence of texts lists what each of them
lists. A list can be written with any blanks around its items and any blank parts among them
(`Options.Spreads`). The results are collected in `Options.readList_laws`.
-/

namespace MakeLint.Options

open Json (Draft)
open Text (isBlank)

/-- An item of a list: a text that is not empty, has no comma in it, and no blank at either end. -/
def IsItem (item : String) : Prop := Text.IsItem item.toList

/-- The parts between the commas of a text that writes a list: one part for each item, with blanks
around it, and any number of blank parts among these. -/
inductive Spreads : List String → List String → Prop
  | nil : Spreads [] []
  | blank {part : String} {items parts : List String} (blank : ∀ c ∈ part.toList, isBlank c = true)
      (rest : Spreads items parts) : Spreads items (part :: parts)
  | item {left right : String} (item : String) {items parts : List String}
      (blankLeft : ∀ c ∈ left.toList, isBlank c = true)
      (blankRight : ∀ c ∈ right.toList, isBlank c = true) (rest : Spreads items parts) :
      Spreads (item :: items) ((left ++ item ++ right) :: parts)

/-! ## What a text lists -/

/-- A text lists items and nothing else. -/
theorem isItem_of_mem_readList {raw item : String} (h : item ∈ readList raw) : IsItem item := by
  obtain ⟨core, hcore, rfl⟩ := List.mem_map.1 h
  unfold IsItem
  rw [String.toList_ofList]
  exact Text.isItem_of_mem_pieces hcore

/-- Two texts with a comma between them list what the first one lists and then what the second one
does. -/
theorem readList_append_comma (a b : String) :
    readList (a ++ "," ++ b) = readList a ++ readList b := by
  have htext : (a ++ "," ++ b).toList = a.toList ++ ',' :: b.toList := by simp
  unfold readList
  rw [htext, Text.pieces_append_comma, List.map_append]

/-- Texts that are joined by commas list what each of them lists, in their order. -/
theorem readList_intercalate (texts : List String) :
    readList (",".intercalate texts) = texts.flatMap readList := by
  have htext : (",".intercalate texts).toList = [','].intercalate (texts.map String.toList) :=
    String.toList_intercalate
  unfold readList
  rw [htext, Text.pieces_intercalate, List.map_flatMap, List.flatMap_map]

/-- An item between blanks is listed alone. -/
theorem IsItem.readList_eq {left item right : String} (h : IsItem item)
    (hleft : ∀ c ∈ left.toList, isBlank c = true) (hright : ∀ c ∈ right.toList, isBlank c = true) :
    readList (left ++ item ++ right) = [item] := by
  unfold readList
  rw [String.toList_append, String.toList_append, Text.IsItem.pieces_eq h hleft hright,
    List.map_singleton, String.ofList_toList]

/-- A list that is spread over parts is what the parts list. -/
theorem Spreads.flatMap_readList {items parts : List String} (h : Spreads items parts)
    (hitems : ∀ item ∈ items, IsItem item) : parts.flatMap readList = items := by
  induction h with
  | nil => rfl
  | @blank part items parts hblank _ ih =>
    have hnone : readList part = [] := by
      unfold readList
      rw [Text.pieces_eq_nil fun c hc => .inl (hblank c hc)]
      rfl
    rw [List.flatMap_cons, hnone, ih hitems, List.nil_append]
  | item item hleft hright _ ih =>
    obtain ⟨hitem, hitems⟩ := List.forall_mem_cons.1 hitems
    rw [List.flatMap_cons, hitem.readList_eq hleft hright, ih hitems, List.singleton_append]

/-- Items may stand bare. -/
theorem spreads_self (items : List String) : Spreads items items := by
  induction items with
  | nil => exact .nil
  | cons item items ih =>
    have hnone : ∀ c ∈ "".toList, isBlank c = true := by simp
    have hspreads : Spreads (item :: items) (("" ++ item ++ "") :: items) :=
      .item item hnone hnone ih
    rwa [String.empty_append, String.append_empty] at hspreads

/-! ## Options that are given as sequences -/

/-- The text of an option that is taken in as a sequence of texts. -/
theorem optionText?_list (texts : List String) :
    (Wire.Buffered.list (texts.map .text)).optionText? = some (",".intercalate texts) := by
  have htexts : (texts.map Wire.Buffered.text).mapM Wire.Buffered.text? = some texts := by
    induction texts with
    | nil => rfl
    | cons s texts ih =>
      rw [List.map_cons, List.mapM_cons, ih]
      rfl
  change ((texts.map Wire.Buffered.text).mapM Wire.Buffered.text?).map (",".intercalate ·) = _
  rw [htexts, Option.map_some]

/-! ## Laws -/

/-- The laws of list options. An option that is present is read as the list of its raw text, which
has items in it and nothing else. A comma between two texts puts the two lists one behind the other,
so an option that is given as a sequence of texts, in whatever format, has what each of them lists,
and so it is when it is read from a JSON object among other options. Items that are spread over
parts, with blanks around them and blank parts among them, are read as they are; so writing a list
that was read and reading it again gives the same list. -/
theorem readList_laws :
    (∀ (o : Options) (key raw : String), o.get? key = some raw →
      o.list? key = some (readList raw)) ∧
      (∀ raw : String, ∀ item ∈ readList raw, IsItem item) ∧
      (∀ a b : String, readList (a ++ "," ++ b) = readList a ++ readList b) ∧
      (∀ texts : List String, ∃ raw,
        (Wire.Buffered.list (texts.map .text)).optionText? = some raw ∧
          readList raw = texts.flatMap readList) ∧
      (∀ (members : List (Option String × Draft)) (text key : String) (texts : List String),
        (Draft.object members true).SpellsWhole text → (Draft.object members true).Sound →
          (Draft.object members true).depth ≤ 127 → (∀ e ∈ members, e.2.IsOption) →
            (Draft.under key members).getLast? =
              some (.list (texts.map fun s => .text (some s)) true) →
              ∃ o, ofJson text = .ok o ∧ o.list? key = some (texts.flatMap readList)) ∧
      (∀ items parts : List String, (∀ item ∈ items, IsItem item) → Spreads items parts →
        readList (",".intercalate parts) = items) ∧
      ∀ raw : String, readList (",".intercalate (readList raw)) = readList raw := by
  have hlist (o : Options) (key raw : String) (h : o.get? key = some raw) :
      o.list? key = some (readList raw) := by
    unfold list?
    rw [h, Option.map_some]
  have hspreads (items parts : List String) (hitems : ∀ item ∈ items, IsItem item)
      (h : Spreads items parts) : readList (",".intercalate parts) = items := by
    rw [readList_intercalate, h.flatMap_readList hitems]
  refine ⟨hlist, fun raw item => isItem_of_mem_readList, readList_append_comma,
    fun texts => ⟨_, optionText?_list texts, readList_intercalate texts⟩, ?_, hspreads,
    fun raw => hspreads _ _ (fun item => isItem_of_mem_readList) (spreads_self _)⟩
  intro members text key texts h hsound hdepth hoptions hlast
  obtain ⟨o, ho, hget⟩ := exists_ofJson h hsound hdepth hoptions
  have hraw := (hget key _).2 ⟨_, hlast, .list texts⟩
  exact ⟨o, ho, by rw [hlist o key _ hraw, readList_intercalate]⟩

/-! ## A list in several spellings -/

/-- The members of an object with a list of texts that have commas and blanks in them, behind a
value that is overwritten. -/
def given : List (Option String × Draft) :=
  [(some "names", .null),
    (some "names", .list (["a b,\t", " ,\u3000", ",c"].map fun s => .text (some s)) true)]

/-- The text of this object. -/
def givenText : String :=
  "\x7b\"names\":null,\"names\":[\"a b,\\t\",\" ,\u3000\",\",c\"]\x7d"

/-- The text spells the object. -/
theorem spells_given : (Draft.object given true).SpellsWhole givenText := by
  have hnull : Draft.Spells .null ['n', 'u', 'l', 'l'] := rfl
  have hnames : Draft.Spells (.list (["a b,\t", " ,\u3000", ",c"].map fun s => .text (some s)) true)
      "[\"a b,\\t\",\" ,\u3000\",\",c\"]".toList :=
    Json.spells_compactChars (.list (["a b,\t", " ,\u3000", ",c"].map .text))
  have hlast := Json.spellsMembers_quote Json.lead_comma "names" hnames
    (Draft.spellsMembers_nil Json.blanks_nil)
  have hmembers := Json.spellsMembers_quote Json.lead_nil "names" hnull hlast
  exact (Draft.spells_object hmembers).spellsWhole (by decide)

/-- A sequence of texts with commas and blanks in them is read as two items, one of them with a
blank inside. The same items are read from parts with blanks around them and blank parts on all
sides, and again from the text that joins them. -/
theorem readList_laws_spellings :
    let items := ["a b", "c"]
    let parts := ["", "\u2003" ++ "a b" ++ "\n", "\u00a0 ", "" ++ "c" ++ " ", "\t"]
    let options : Options := Table.empty.insert "names" "a b,c"
    (∃ o, ofJson givenText = .ok o ∧ o.list? "names" = some items) ∧
      (∀ item ∈ items, IsItem item) ∧ Spreads items parts ∧
      readList (",".intercalate parts) = items ∧ readList (",".intercalate items) = items ∧
      options.list? "names" = some items := by
  intro items parts options
  obtain ⟨hlist, hitem, -, -, hjson, hspreads, hagain⟩ := readList_laws
  have hread : readList "a b,c" = items := by decide
  have hitems : ∀ item ∈ items, IsItem item := hread ▸ hitem "a b,c"
  have hblank (s : String) (h : s.toList.all isBlank = true) : ∀ c ∈ s.toList, isBlank c = true :=
    List.all_eq_true.1 h
  have hparts : Spreads items parts :=
    .blank (hblank _ rfl) <| .item "a b" (hblank _ rfl) (hblank _ rfl) <| .blank (hblank _ rfl) <|
      .item "c" (hblank _ rfl) (hblank _ rfl) <| .blank (hblank _ rfl) .nil
  have hsound : (Draft.object given true).Sound := by
    simp [given, Draft.Sound, Draft.SoundMembers, Draft.SoundItems]
  have hoptions : ∀ e ∈ given, e.2.IsOption := by simp [given, Draft.IsOption]
  exact ⟨hjson given givenText "names" _ spells_given hsound (by decide) hoptions rfl, hitems,
    hparts, hspreads items parts hitems hparts, hread ▸ hagain "a b,c",
    hlist options "names" "a b,c" (Table.get?_insert_self _ _ _)⟩

end MakeLint.Options
