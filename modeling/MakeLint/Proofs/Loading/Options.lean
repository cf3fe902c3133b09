import MakeLint.Loading
import MakeLint.Proofs.Json.Buffering
import MakeLint.Proofs.Json.Compact
import MakeLint.Proofs.Table.Contents

/-!
# Which JSON texts hold options, and which

An object is read as options exactly if the value of each of its members is an option, also of those
that are overwritten. Either all members write entries, and each key has the text of its last value
(`Wire.get?_ofList_eq_some_iff`), or the object is refused as a whole with one and the same fault
(`Wire.options_cases`, with one induction over the members). So a value may be written as the text
that it stands for. The result is `Options.ofJson_last_texts`. It is about numbers that are within
the range of the reader, which is a little less than that of floats (`Options.ofJson_nearGreatest`).
-/

namespace MakeLint

open Json (Draft Literal Spot)

namespace Json.Draft

/-- Members may be written alike: under the same key stands the same value, or the text that it
stands for. -/
def Textual (member other : Option String × Draft) : Prop :=
  member.1 = other.1 ∧
    (member.2 = other.2 ∨ ∃ t, member.2.StandsFor t ∧ other.2 = .text (some t))

section Textual

variable {member other : Option String × Draft}

/-- The text of a value that is written as the text that it stands for is the same. -/
theorem Textual.standsFor_iff (h : Textual member other) (t : String) :
    other.2.StandsFor t ↔ member.2.StandsFor t := by
  obtain ⟨-, hsame | ⟨s, hs, htext⟩⟩ := h
  · rw [hsame]
  · rw [htext]
    constructor
    · rintro ⟨⟩
      exact hs
    · intro ht
      exact hs.unique ht ▸ .text s

/-- What is written alike can be read alike. -/
theorem Textual.readable {room : Nat} (h : Textual member other)
    (hmember : member.1 ≠ none ∧ member.2.Readable room) :
    other.1 ≠ none ∧ other.2.Readable room := by
  obtain ⟨hkey, hsame | ⟨s, -, htext⟩⟩ := h
  · rwa [← hkey, ← hsame]
  · rw [← hkey, htext]
    exact ⟨hmember.1, nofun, rfl, Nat.zero_le _⟩

/-- Members that are written alike can be read alike. -/
theorem readable_textual {room : Nat} {members others : List (Option String × Draft)}
    (h : List.Forall₂ Textual members others)
    (hmembers : ∀ e ∈ members, e.1 ≠ none ∧ e.2.Readable room) :
    ∀ e ∈ others, e.1 ≠ none ∧ e.2.Readable room := by
  induction h with
  | nil => simp
  | cons hmember _ ih =>
    obtain ⟨hfirst, hrest⟩ := List.forall_mem_cons.1 hmembers
    exact List.forall_mem_cons.2 ⟨hmember.readable hfirst, ih hrest⟩

end Textual

end Json.Draft

namespace Wire

/-- The fault of a value that is no option. -/
def noOption : Fault := .mismatch wholePath .noOption

/-- The text of the option at a place. -/
def optionText (place : Spot) : Except Fault String :=
  Source.buffered place >>= fun value =>
    match value.optionText? with
    | some text => .ok text
    | none => .error noOption

/-- The key and the text of the option at the places of a member. -/
def optionEntry (member : Spot × Spot) : Except Fault (String × String) :=
  Source.text member.1 .text >>= fun key => optionText member.2 >>= fun text => .ok (key, text)

/-- Options are read entry by entry. -/
theorem options_object (room : Nat) (members : List (Option String × Draft)) :
    options (⟨.object members true, room + 1⟩ : Spot) =
      ((memberSpots room members).mapM optionEntry >>= fun entries => .ok (.ofList entries)) :=
  rfl

/-- The entry of a member with a key that can be read is its key with the text of its option. -/
theorem optionEntry_some (room : Nat) (key : String) (item : Draft) :
    optionEntry (⟨.text (some key), room⟩, ⟨item, room⟩) =
      (optionText ⟨item, room⟩ >>= fun text => .ok (key, text)) := rfl

/-! ## One option -/

/-- A number that is not within the range is refused. -/
theorem optionText_of_not_inRange {l : Literal} (h : ¬ l.InRange) (room : Nat) :
    optionText ⟨.number l, room⟩ = .error .refused := by
  have hvalue : l.value? = none :=
    Option.not_isSome_iff_eq_none.1 (mt l.value?_isSome_iff.1 h)
  change ((Draft.number l).buffered room >>= _) = _
  rw [Draft.buffered, hvalue]
  rfl

/-- A value is read as the text that it stands for, or refused since it is no option. -/
theorem optionText_cases {room : Nat} {d : Draft} (h : d.Readable room) :
    (∃ t, optionText ⟨d, room⟩ = .ok t ∧ d.StandsFor t) ∨
      optionText ⟨d, room⟩ = .error noOption ∧ ¬ d.IsOption := by
  obtain ⟨value, hvalue, htaken⟩ := Draft.exists_takenAs d h.sound h.whole h.depth_le
  change (∃ t, (d.buffered room >>= _) = _ ∧ _) ∨ (d.buffered room >>= _) = _ ∧ _
  rw [hvalue]
  cases htext : value.optionText? with
  | some t =>
    refine .inl ⟨t, ?_, (htaken.optionText?_iff t).1 htext⟩
    rw [ok_bind, htext]
  | none =>
    refine .inr ⟨by rw [ok_bind, htext], fun hoption => ?_⟩
    obtain ⟨t, ht⟩ := htaken.isOption_iff.1 hoption
    rw [(htaken.optionText?_iff t).2 ht] at htext
    cases htext

/-- An entry is what a member writes: the key, and the text that the value stands for. -/
def Writes (entry : String × String) (member : Option String × Draft) : Prop :=
  member.1 = some entry.1 ∧ member.2.StandsFor entry.2

/-- A member writes one entry only. -/
theorem Writes.unique {entry other : String × String} {member : Option String × Draft}
    (h : Writes entry member) (hother : Writes other member) : entry = other :=
  Prod.ext (Option.some.inj (h.1.symm.trans hother.1)) (h.2.unique hother.2)

/-- A member is read as the entry that it writes, or refused since its value is no option. -/
theorem optionEntry_cases {room : Nat} {member : Option String × Draft}
    (h : member.1 ≠ none ∧ member.2.Readable room) :
    (∃ entry, optionEntry (⟨.text member.1, room⟩, ⟨member.2, room⟩) = .ok entry ∧
        Writes entry member) ∨
      optionEntry (⟨.text member.1, room⟩, ⟨member.2, room⟩) = .error noOption ∧
        ¬ member.2.IsOption := by
  obtain ⟨key, item⟩ := member
  obtain ⟨hkey, hitem⟩ := h
  obtain ⟨key, rfl⟩ := Option.ne_none_iff_exists'.1 hkey
  rw [optionEntry_some]
  obtain ⟨t, htext, ht⟩ | ⟨htext, hnot⟩ := optionText_cases hitem
  · rw [htext]
    exact .inl ⟨(key, t), rfl, rfl, ht⟩
  · rw [htext]
    exact .inr ⟨rfl, hnot⟩

/-! ## The entries of an object -/

section Object

variable {room : Nat} {members : List (Option String × Draft)}

/-- The values of the members that write entries are options. -/
theorem isOption_of_writes {entries : List (String × String)}
    (h : List.Forall₂ Writes entries members) : ∀ e ∈ members, e.2.IsOption := by
  induction h with
  | nil => simp
  | cons hwrites _ ih => exact List.forall_mem_cons.2 ⟨hwrites.2.isOption, ih⟩

/-- Members are read as the entries that they write. If the value of one of them is no option, this
is the fault of all. -/
theorem mapM_optionEntry_cases (h : ∀ e ∈ members, e.1 ≠ none ∧ e.2.Readable room) :
    (∃ entries, (memberSpots room members).mapM optionEntry = .ok entries ∧
        List.Forall₂ Writes entries members) ∨
      (memberSpots room members).mapM optionEntry = .error noOption ∧
        ∃ e ∈ members, ¬ e.2.IsOption := by
  induction members with
  | nil => exact .inl ⟨[], rfl, .nil⟩
  | cons member members ih =>
    obtain ⟨hmember, hmembers⟩ := List.forall_mem_cons.1 h
    rw [memberSpots_cons, List.mapM_cons]
    obtain ⟨entry, hentry, hwrites⟩ | ⟨hentry, hnot⟩ := optionEntry_cases hmember
    · -- The first member is read, so a fault is met behind it.
      rw [hentry, ok_bind]
      obtain ⟨entries, hentries, hall⟩ | ⟨hentries, e, he, hnot⟩ := ih hmembers
      · rw [hentries]
        exact .inl ⟨entry :: entries, rfl, .cons hwrites hall⟩
      · rw [hentries]
        exact .inr ⟨rfl, e, List.mem_cons_of_mem _ he, hnot⟩
    · rw [hentry]
      exact .inr ⟨rfl, member, List.mem_cons_self, hnot⟩

/-- An object is read as the table of the entries that its members write, or refused since a value
in it is no option. -/
theorem options_cases (h : ∀ e ∈ members, e.1 ≠ none ∧ e.2.Readable room) :
    (∃ entries, options (⟨.object members true, room + 1⟩ : Spot) = .ok (.ofList entries) ∧
        List.Forall₂ Writes entries members) ∨
      options (⟨.object members true, room + 1⟩ : Spot) = .error noOption ∧
        ∃ e ∈ members, ¬ e.2.IsOption := by
  rw [options_object]
  obtain ⟨entries, hread, hentries⟩ | ⟨hread, hbad⟩ := mapM_optionEntry_cases h
  · rw [hread]
    exact .inl ⟨entries, rfl, hentries⟩
  · rw [hread]
    exact .inr ⟨rfl, hbad⟩

/-- Options are read alike if some values are written as the texts that they stand for. -/
theorem options_textual (h : ∀ e ∈ members, e.1 ≠ none ∧ e.2.Readable room)
    {others : List (Option String × Draft)} (hothers : List.Forall₂ Draft.Textual members others) :
    options (⟨.object others true, room + 1⟩ : Spot) =
      options (⟨.object members true, room + 1⟩ : Spot) := by
  have hreadable := Draft.readable_textual hothers h
  -- Both objects write the same entries, so they are read as the same table if they are read.
  have hwrites (entries : List (String × String)) :
      List.Forall₂ Writes entries others ↔ List.Forall₂ Writes entries members := by
    clear h hreadable
    induction hothers generalizing entries with
    | nil => rfl
    | cons hmember _ ih =>
      simp only [List.forall₂_cons_right_iff, ih, Writes, ← hmember.1, hmember.standsFor_iff]
  obtain ⟨entries, hread, hentries⟩ | ⟨hread, e, he, hnot⟩ := options_cases h
  · obtain ⟨found, hfound, hfoundWrites⟩ | ⟨-, e, he, hnot⟩ := options_cases hreadable
    · have hunique : Relator.LeftUnique Writes := fun _ _ _ => Writes.unique
      have hsame := List.left_unique_forall₂' hunique ((hwrites found).1 hfoundWrites) hentries
      rw [hread, hfound, hsame]
    · exact absurd (isOption_of_writes ((hwrites entries).2 hentries) e he) hnot
  · obtain ⟨found, -, hfoundWrites⟩ | ⟨hother, -⟩ := options_cases hreadable
    · exact absurd (isOption_of_writes ((hwrites found).1 hfoundWrites) e he) hnot
    · rw [hread, hother]

end Object

/-- Lists that are related item by item are both empty, or their last items are related. -/
theorem forall₂_getLast? {α β : Type} {related : α → β → Prop} {xs : List α} {ys : List β}
    (h : List.Forall₂ related xs ys) : Option.Rel related xs.getLast? ys.getLast? := by
  have hreverse := List.forall₂_reverse_iff.2 h
  rw [← List.head?_reverse, ← List.head?_reverse]
  generalize xs.reverse = xs, ys.reverse = ys at hreverse
  cases hreverse with
  | nil => exact .none
  | cons hlast _ => exact .some hlast

/-- A key has the text of its last value. -/
theorem get?_ofList_eq_some_iff {entries : List (String × String)}
    {members : List (Option String × Draft)} (h : List.Forall₂ Writes entries members)
    (key t : String) : (Table.ofList entries).get? key = some t ↔
      ∃ item, (Draft.under key members).getLast? = some item ∧ item.StandsFor t := by
  -- The entries of the key go with the members under it, so the last of both go together.
  have hunder : List.Forall₂ (fun t item => item.StandsFor t)
      ((entries.filter (·.1 = key)).map (·.2)) (Draft.under key members) := by
    have hfilter := List.rel_filter (p := fun e => decide (e.1 = key))
      (q := fun e => decide (e.1 = some key)) (fun entry member hwrites => by
        simp only [hwrites.1, decide_eq_true_eq, Option.some.injEq]) h
    rw [Draft.under, List.forall₂_map_left_iff, List.forall₂_map_right_iff]
    exact hfilter.imp fun _ _ hwrites => hwrites.2
  rw [Table.get?_ofList]
  have hlast := forall₂_getLast? hunder
  generalize ((entries.filter (·.1 = key)).map (·.2)).getLast? = found,
    (Draft.under key members).getLast? = last at hlast
  cases hlast with
  | none => simp
  | @some s item hs =>
    constructor
    · rintro ⟨⟩
      exact ⟨item, rfl, hs⟩
    · rintro ⟨_, ⟨⟩, ht⟩
      exact congrArg some (hs.unique ht)

end Wire

namespace Options

section Object

variable {members : List (Option String × Draft)} {text : String}

/-- The text of an object is read as the table of the entries that its members write, or refused
since a value in it is no option. -/
theorem ofJson_cases (h : (Draft.object members true).SpellsWhole text)
    (hsound : (Draft.object members true).Sound)
    (hdepth : (Draft.object members true).depth ≤ 127) :
    (∃ entries, ofJson text = .ok (.ofList entries) ∧ List.Forall₂ Wire.Writes entries members) ∨
      ofJson text = .error Wire.noOption ∧ ∃ e ∈ members, ¬ e.2.IsOption := by
  have hreadable : (Draft.object members true).Readable 127 := ⟨hsound, h.whole_eq, hdepth⟩
  have hread : ofJson text = Wire.options (⟨.object members true, 127⟩ : Spot) := Wire.read_eq _ h
  rw [hread]
  exact Wire.options_cases hreadable.members

/-- An object of options is read, and each key has the text that its last value stands for. -/
theorem exists_ofJson (h : (Draft.object members true).SpellsWhole text)
    (hsound : (Draft.object members true).Sound) (hdepth : (Draft.object members true).depth ≤ 127)
    (hoptions : ∀ e ∈ members, e.2.IsOption) :
    ∃ o, ofJson text = .ok o ∧ ∀ key t, o.get? key = some t ↔
      ∃ item, (Draft.under key members).getLast? = some item ∧ item.StandsFor t := by
  obtain ⟨entries, hread, hentries⟩ | ⟨-, e, he, hnot⟩ := ofJson_cases h hsound hdepth
  · exact ⟨_, hread, Wire.get?_ofList_eq_some_iff hentries⟩
  · exact absurd (hoptions e he) hnot

/-- An object with a value that is no option is refused. -/
theorem ofJson_eq_error (h : (Draft.object members true).SpellsWhole text)
    (hsound : (Draft.object members true).Sound) (hdepth : (Draft.object members true).depth ≤ 127)
    (hbad : ∃ e ∈ members, ¬ e.2.IsOption) : ofJson text = .error Wire.noOption := by
  obtain ⟨_, -, hentries⟩ | ⟨hread, -⟩ := ofJson_cases h hsound hdepth
  · obtain ⟨e, he, hnot⟩ := hbad
    exact absurd (Wire.isOption_of_writes hentries e he) hnot
  · exact hread

/-- The options that a JSON object holds, with numbers that are within the range. An object is read
exactly if each of its values is an option, and is refused with one fault if not. Each key has the
text of its last value, and any value may be written as the text that it stands for. Within the
range is every number of at most `1.7976931348623154e308` whose exponent is computed with. -/
theorem ofJson_last_texts (h : (Draft.object members true).SpellsWhole text)
    (hsound : (Draft.object members true).Sound)
    (hdepth : (Draft.object members true).depth ≤ 127) :
    ((∃ o, ofJson text = .ok o) ↔ ∀ e ∈ members, e.2.IsOption) ∧
      ((∃ e ∈ members, ¬ e.2.IsOption) → ∃ fault, ofJson text = .error fault ∧
        fault.message = "data did not match any variant of untagged enum RawOption") ∧
      (∀ o, ofJson text = .ok o → ∀ key t, o.get? key = some t ↔
        ∃ item, (Draft.under key members).getLast? = some item ∧ item.StandsFor t) ∧
      (∀ others again, List.Forall₂ Draft.Textual members others →
        (Draft.object others true).SpellsWhole again → ofJson again = ofJson text) ∧
      ∀ l : Literal, l.size ≤ 17976931348623154 * 10 ^ 292 →
        l.exponentValue ≤ Json.maxExponent → l.InRange := by
  have hrefused := ofJson_eq_error h hsound hdepth
  have hread := exists_ofJson h hsound hdepth
  have hoptions (o : Options) (ho : ofJson text = .ok o) : ∀ e ∈ members, e.2.IsOption := by
    intro e he
    by_contra hnot
    exact absurd (ho.symm.trans (hrefused ⟨e, he, hnot⟩)) nofun
  refine ⟨⟨fun ⟨o, ho⟩ => hoptions o ho, fun hall => ?_⟩, fun hbad => ⟨_, hrefused hbad, rfl⟩, ?_,
    ?_, fun _ => Literal.inRange_of_size_le⟩
  · obtain ⟨o, ho, -⟩ := hread hall
    exact ⟨o, ho⟩
  · intro o ho
    obtain ⟨found, hfound, hget⟩ := hread (hoptions o ho)
    obtain rfl := Except.ok.inj (ho.symm.trans hfound)
    exact hget
  · intro others again hothers hagain
    have hreadable : (Draft.object members true).Readable 127 := ⟨hsound, h.whole_eq, hdepth⟩
    calc ofJson again = Wire.options (⟨.object others true, 127⟩ : Spot) := Wire.read_eq _ hagain
      _ = Wire.options (⟨.object members true, 127⟩ : Spot) :=
        Wire.options_textual hreadable.members hothers
      _ = ofJson text := (Wire.read_eq _ h).symm

end Object

end Options

/-! ## Options in two spellings -/

namespace Json.Draft

/-- The members of an object with options of several kinds; the first one is overwritten. The last
three are a fraction, a number with an exponent and an integer that does not fit 64 bits. -/
def typed : List (Option String × Draft) :=
  [(some "on", .boolean true), (some "names", .list [.text (some "a"), .text (some "b")] true),
    (some "on", .null), (some "size", .number (.ofInt 9007199254740993)),
    (some "share", .number ⟨false, [0], some [2, 5], none⟩),
    (some "limit", .number ⟨false, [1], some [5], some (false, [3])⟩),
    (some "wide", .number (.ofInt 18446744073709551616))]

/-- The same members with texts as values. -/
def textual : List (Option String × Draft) :=
  [(some "on", .text (some "true")), (some "names", .text (some "a,b")),
    (some "on", .text (some "")), (some "size", .text (some "9007199254740993")),
    (some "share", .text (some "0.25")), (some "limit", .text (some "1500")),
    (some "wide", .text (some "18446744073709552000"))]

/-- The text of the object with options of several kinds. -/
def typedText : String :=
  "\x7b\"on\":true,\"names\":[\"a\",\"b\"],\"on\":null,\"size\":9007199254740993," ++
    "\"share\":0.25,\"limit\":1.5e3,\"wide\":18446744073709551616\x7d"

/-- The text of the object with texts. -/
def textualText : String :=
  "\x7b\"on\":\"true\",\"names\":\"a,b\",\"on\":\"\",\"size\":\"9007199254740993\"," ++
    "\"share\":\"0.25\",\"limit\":\"1500\",\"wide\":\"18446744073709552000\"\x7d"

/-- The members of an object with a list that does not hold texts only. -/
def nested : List (Option String × Draft) :=
  [(some "names", .list [.text (some "a"), .list [] true] true)]

/-- The text of the object with a list that does not hold texts only. -/
def nestedText : String := "\x7b\"names\":[\"a\",[]]\x7d"

/-- A fraction follows the grammar. -/
theorem spells_share : Literal.Spells ⟨false, [0], some [2, 5], none⟩ "0.25".toList := by
  have hzero : SpellsDigits [0] ['0'] := ⟨nofun, by simp, rfl⟩
  have hplaces : SpellsDigits [2, 5] ['2', '5'] := ⟨nofun, by simp, rfl⟩
  exact Literal.spells_mk false hzero nofun (.present hplaces) .absent

/-- A fraction with an exponent follows the grammar. -/
theorem spells_limit : Literal.Spells ⟨false, [1], some [5], some (false, [3])⟩ "1.5e3".toList := by
  have hone : SpellsDigits [1] ['1'] := ⟨nofun, by simp, rfl⟩
  have hplaces : SpellsDigits [5] ['5'] := ⟨nofun, by simp, rfl⟩
  have hexponent : SpellsDigits [3] ['3'] := ⟨nofun, by simp, rfl⟩
  exact Literal.spells_mk false hone nofun (.present hplaces) (.present (.inl rfl) .bare hexponent)

/-- The first text spells the object with options of several kinds. -/
theorem spells_typed : (Draft.object typed true).SpellsWhole typedText := by
  have htrue : Spells (.boolean true) ['t', 'r', 'u', 'e'] := rfl
  have hnull : Spells .null ['n', 'u', 'l', 'l'] := rfl
  have hnames := spells_list (spellsItems_cons lead_nil (spells_text (spellsQuoted_quote "a"))
    (spellsItems_cons lead_comma (spells_text (spellsQuoted_quote "b"))
      (spellsItems_nil blanks_nil)))
  -- The members from the last one to the first one.
  have hwide := spellsMembers_quote lead_comma "wide"
    (spells_number (spells_decimalInt 18446744073709551616)) (spellsMembers_nil blanks_nil)
  have hlimit := spellsMembers_quote lead_comma "limit" (spells_number spells_limit) hwide
  have hshare := spellsMembers_quote lead_comma "share" (spells_number spells_share) hlimit
  have hsize := spellsMembers_quote lead_comma "size"
    (spells_number (spells_decimalInt 9007199254740993)) hshare
  have hagain := spellsMembers_quote lead_comma "on" hnull hsize
  have hothers := spellsMembers_quote lead_comma "names" hnames hagain
  have hmembers := spellsMembers_quote lead_nil "on" htrue hothers
  exact (spells_object hmembers).spellsWhole (by decide +kernel)

/-- The second text spells the object with texts. -/
theorem spells_textual : (Draft.object textual true).SpellsWhole textualText :=
  Json.spellsWhole_text (v := .object [("on", .text "true"), ("names", .text "a,b"),
    ("on", .text ""), ("size", .text "9007199254740993"), ("share", .text "0.25"),
    ("limit", .text "1500"), ("wide", .text "18446744073709552000")]) (.inl (by decide +kernel))

/-- The third text spells the object with a list that does not hold texts only. -/
theorem spells_nested : (Draft.object nested true).SpellsWhole nestedText :=
  Json.spellsWhole_text (v := .object [("names", .list [.text "a", .list []])])
    (.inl (by decide +kernel))

/-- The second object has the texts that the values of the first one stand for. -/
theorem textual_typed : List.Forall₂ Textual typed textual := by
  have hnumber {l : Literal} {t : String} (h : l.value?.map numberText = some t) (key : String) :
      Textual (some key, .number l) (some key, .text (some t)) :=
    ⟨rfl, .inr ⟨t, standsFor_of_numberText h, rfl⟩⟩
  refine .cons ⟨rfl, .inr ⟨_, .boolean true, rfl⟩⟩ ?_
  refine .cons ⟨rfl, .inr ⟨_, .list ["a", "b"], rfl⟩⟩ ?_
  refine .cons ⟨rfl, .inr ⟨_, .null, rfl⟩⟩ ?_
  refine .cons (hnumber (by decide +kernel) "size") ?_
  refine .cons (hnumber (by decide +kernel) "share") ?_
  refine .cons (hnumber (by decide +kernel) "limit") ?_
  exact .cons (hnumber (by decide +kernel) "wide") .nil

/-- The texts of the first object can be read, and its numbers are within the range. -/
theorem sound_typed : (Draft.object typed true).Sound := by
  have hsize : (Literal.ofInt 9007199254740993).InRange := by decide +kernel
  have hshare : Literal.InRange ⟨false, [0], some [2, 5], none⟩ := by decide +kernel
  have hlimit : Literal.InRange ⟨false, [1], some [5], some (false, [3])⟩ := by decide +kernel
  have hwide : (Literal.ofInt 18446744073709551616).InRange := by decide +kernel
  simp [typed, Sound, SoundMembers, SoundItems, hsize, hshare, hlimit, hwide]

/-- The text in the list of the third object can be read. -/
theorem sound_nested : (Draft.object nested true).Sound := by
  simp [nested, Sound, SoundMembers, SoundItems]

end Json.Draft

/-- Options of several kinds are read like the texts that they stand for, with the last value of a
key, all digits of an integer and the digits of the nearest float for other numbers, and a list with
another list in it is refused. -/
theorem Options.ofJson_last_texts_spellings :
    ((Draft.object Draft.typed true).SpellsWhole Draft.typedText ∧
      (Draft.object Draft.typed true).Sound ∧ (Draft.object Draft.typed true).depth ≤ 127 ∧
      List.Forall₂ Draft.Textual Draft.typed Draft.textual ∧
      (Draft.object Draft.textual true).SpellsWhole Draft.textualText ∧
      ∃ o, ofJson Draft.typedText = .ok o ∧ ofJson Draft.textualText = .ok o ∧
        o.get? "on" = some "" ∧ o.get? "names" = some "a,b" ∧
        o.get? "size" = some "9007199254740993" ∧ o.get? "share" = some "0.25" ∧
        o.get? "limit" = some "1500" ∧ o.get? "wide" = some "18446744073709552000") ∧
    (Draft.object Draft.nested true).SpellsWhole Draft.nestedText ∧
      ∃ fault, ofJson Draft.nestedText = .error fault ∧
        fault.message = "data did not match any variant of untagged enum RawOption" := by
  obtain ⟨hiff, -, hget, hsame, -⟩ :=
    ofJson_last_texts Draft.spells_typed Draft.sound_typed (by decide)
  obtain ⟨-, hrefused, -, -⟩ :=
    ofJson_last_texts Draft.spells_nested Draft.sound_nested (by decide)
  have hoptions : ∀ e ∈ Draft.typed, e.2.IsOption := by
    simp [Draft.typed, Draft.IsOption]
  obtain ⟨o, ho⟩ := hiff.2 hoptions
  have hagain := hsame _ _ Draft.textual_typed Draft.spells_textual
  have hnumber {key t : String} {l : Literal}
      (hlast : (Draft.under key Draft.typed).getLast? = some (.number l))
      (htext : l.value?.map Draft.numberText = some t) : o.get? key = some t :=
    (hget o ho key t).2 ⟨_, hlast, Draft.standsFor_of_numberText htext⟩
  refine ⟨⟨Draft.spells_typed, Draft.sound_typed, by decide, Draft.textual_typed,
    Draft.spells_textual, o, ho, hagain.trans ho, ?_, ?_, ?_, ?_, ?_, ?_⟩, Draft.spells_nested,
    hrefused ?_⟩
  · exact (hget o ho "on" "").2 ⟨.null, rfl, .null⟩
  · exact (hget o ho "names" "a,b").2 ⟨_, rfl, .list ["a", "b"]⟩
  · exact hnumber rfl (by decide +kernel)
  · exact hnumber rfl (by decide +kernel)
  · exact hnumber rfl (by decide +kernel)
  · exact hnumber rfl (by decide +kernel)
  · exact ⟨_, List.mem_cons_self, by simp [Draft.IsOption]⟩

/-! ## A number that is refused below the greatest float -/

/-- The literal `1.797693134862315708e308`. It is less than the greatest float, but its digits times
a power of ten are rounded beyond it. -/
def Json.Literal.nearGreatest : Literal :=
  ⟨false, [1], some [7, 9, 7, 6, 9, 3, 1, 3, 4, 8, 6, 2, 3, 1, 5, 7, 0, 8], some (false, [3, 0, 8])⟩

/-- The text of an object with this literal as the value of its only member. -/
def Json.Draft.nearGreatestText : String := "\x7b\"a\":1.797693134862315708e308\x7d"

/-- The text spells the object with the literal. -/
theorem Json.Draft.spells_nearGreatest :
    (Draft.object [(some "a", .number .nearGreatest)] true).SpellsWhole nearGreatestText := by
  have hone : SpellsDigits [1] ['1'] := ⟨nofun, by simp, rfl⟩
  have hplaces : SpellsDigits [7, 9, 7, 6, 9, 3, 1, 3, 4, 8, 6, 2, 3, 1, 5, 7, 0, 8]
    "797693134862315708".toList := ⟨nofun, by simp, rfl⟩
  have hexponent : SpellsDigits [3, 0, 8] ['3', '0', '8'] := ⟨nofun, by simp, rfl⟩
  have hliteral : Literal.nearGreatest.Spells "1.797693134862315708e308".toList :=
    Literal.spells_mk false hone nofun (.present hplaces) (.present (.inl rfl) .bare hexponent)
  have hmember := spellsMembers_quote lead_nil "a" (spells_number hliteral)
    (spellsMembers_nil blanks_nil)
  exact (spells_object hmember).spellsWhole (by decide +kernel)

/-- A number that is less than the greatest float may be refused: its digits times a power of ten
are rounded beyond that float, so the object is not read although its only value is an option. -/
theorem Options.ofJson_nearGreatest :
    (Draft.object [(some "a", .number .nearGreatest)] true).SpellsWhole Draft.nearGreatestText ∧
      (Draft.object [(some "a", .number .nearGreatest)] true).depth ≤ 127 ∧
      (Draft.number .nearGreatest).IsOption ∧
      Literal.nearGreatest.size ≤ (2 ^ 53 - 1) * 2 ^ 971 ∧
      ofJson Draft.nearGreatestText = .error .refused := by
  refine ⟨Draft.spells_nearGreatest, by decide, trivial, by decide +kernel, ?_⟩
  have hrange : ¬ Literal.nearGreatest.InRange := by decide +kernel
  calc ofJson Draft.nearGreatestText
      = Wire.options (⟨.object [(some "a", .number .nearGreatest)] true, 127⟩ : Spot) :=
        Wire.read_eq _ Draft.spells_nearGreatest
    _ = .error .refused := by
      rw [Wire.options_object, Wire.memberSpots_cons, List.mapM_cons, Wire.optionEntry_some,
        Wire.optionText_of_not_inRange hrange]
      rfl

end MakeLint
