import MakeLint.Json.Source
import MakeLint.Json.Value
import MakeLint.Proofs.Json.Reading

/-!
# Written values are read back

`Json.draft` is what the text of a JSON value holds. The indented text of a value follows the
grammar (`Json.spells_prettyChars`), so that reading it gives that draft (`Json.ofText_pretty`),
whatever characters stand in its texts and however long its numerals are.
-/

namespace MakeLint.Json

open Draft

/-! ## Numerals -/

/-- The literal of the decimal numeral of an integer. -/
def Literal.ofInt (n : Int) : Literal where
  negative := n < 0
  whole := (Text.decimal n.natAbs).map fun c => c.toNat - '0'.toNat

/-- A decimal numeral is a run of digits. -/
theorem spellsDigits_decimal (n : Nat) :
    SpellsDigits ((Text.decimal n).map fun c => c.toNat - '0'.toNat) (Text.decimal n) where
  ne_nil := Nat.toDigits_ne_nil
  isDigit _ hc := Nat.isDigit_of_mem_toDigits (by decide) (by decide) hc
  eq_map := rfl

/-- Only the numeral of zero starts with a zero. -/
theorem head_decimal_ne_zero {n : Nat} (h : n ≠ 0) : (Text.decimal n).head? ≠ some '0' := by
  unfold Text.decimal
  -- A further digit comes behind the numeral of the others, and leaves its first one alone.
  induction n using Nat.base_induction 10 (by decide) with
  | single m hm =>
    rw [Nat.toDigits_of_lt_base hm]
    decide +revert
  | digit m k hk hm ih =>
    rw [← Nat.toDigits_append_toDigits (by decide) hm hk, List.head?_append]
    obtain ⟨c, s, hs⟩ := List.exists_cons_of_ne_nil (Nat.toDigits_ne_nil (n := m) (b := 10))
    have ih := ih (by omega)
    rw [hs] at ih ⊢
    exact ih

/-- A decimal numeral of several digits does not start with a zero. -/
theorem decimal_ne_zero_cons (n d : Nat) (rest : List Nat) :
    (Text.decimal n).map (fun c => c.toNat - '0'.toNat) ≠ 0 :: d :: rest := by
  intro h
  by_cases hn : n = 0
  · subst hn
    have hone : ((Text.decimal 0).map fun c => c.toNat - '0'.toNat).length = 1 := by decide
    rw [h] at hone
    simp at hone
  · -- Only the character of zero writes the digit zero.
    obtain ⟨c, s, hs⟩ := List.exists_cons_of_ne_nil (Nat.toDigits_ne_nil (n := n) (b := 10))
    have hhead := head_decimal_ne_zero hn
    have hdigit := (spellsDigits_decimal n).isDigit c
    unfold Text.decimal at h hhead hdigit
    rw [hs] at h hhead hdigit
    have hzero : c.toNat - '0'.toNat = 0 := (List.cons.inj h).1
    have hle := (Char.isDigit_iff_toNat.1 (hdigit List.mem_cons_self)).1
    have hc : c = '0' := Char.toNat_inj.1 (by omega)
    exact hhead (by rw [hc, List.head?_cons])

/-- The numeral of an integer is a number. -/
theorem spells_decimalInt (n : Int) : (Literal.ofInt n).Spells (Text.decimalInt n) := by
  have hspells := Literal.spells_mk (decide (n < 0)) (spellsDigits_decimal n.natAbs)
    (decimal_ne_zero_cons n.natAbs) .absent .absent
  have hchars : signChars (decide (n < 0)) ++ Text.decimal n.natAbs ++ [] ++ [] =
      Text.decimalInt n := by
    unfold Text.decimalInt signChars
    simp
    split <;> rfl
  exact hchars ▸ hspells

/-- The limit of integer literals, written out. -/
theorem maxUnsigned_eq : maxUnsigned = 18446744073709551615 := rfl

/-- Further digits do not make a number smaller. -/
theorem le_ofDigitChars (s : List Char) (n : Nat) : n ≤ Nat.ofDigitChars 10 s n := by
  induction s generalizing n with
  | nil => exact Nat.le_refl n
  | cons c s ih =>
    rw [Nat.ofDigitChars_cons]
    exact Nat.le_trans (by omega) (ih _)

/-- Digits are taken in as long as the number that they write stays within the limit. -/
theorem absorb_eq (limit : Nat) (s : List Char) (n : Nat)
    (h : Nat.ofDigitChars 10 s n ≤ limit) :
    absorb limit n (s.map fun c => c.toNat - '0'.toNat) = (Nat.ofDigitChars 10 s n, []) := by
  induction s generalizing n with
  | nil => rfl
  | cons c s ih =>
    rw [Nat.ofDigitChars_cons] at h ⊢
    have hstep : 10 * n + (c.toNat - '0'.toNat) ≤ limit := Nat.le_trans (le_ofDigitChars s _) h
    rw [List.map_cons, absorb, if_pos hstep, ih _ h]

/-- The literal of an integer that fits 64 bits stands for the integer. -/
theorem value?_ofInt {n : Int} (h : n ∈ Width.signed64 ∨ n ∈ Width.unsigned64) :
    (Literal.ofInt n).value? = some (.integer n) := by
  rw [Width.mem_signed64, Width.mem_unsigned64] at h
  -- The digits are all taken in, since their number is within the limit.
  have hlimit : Nat.ofDigitChars 10 (Text.decimal n.natAbs) 0 ≤ maxUnsigned := by
    rw [Text.decimal, Nat.ofDigitChars_ten_toDigits, maxUnsigned_eq]
    omega
  have habsorb := absorb_eq maxUnsigned _ 0 hlimit
  rw [Text.decimal, Nat.ofDigitChars_ten_toDigits] at habsorb
  unfold Literal.ofInt Literal.value? Text.decimal
  simp only [habsorb]
  by_cases hn : n < 0
  · -- The number behind a minus sign is not zero; a negative zero would be read as a float.
    have hpos : 0 < n.natAbs := by omega
    have habs : -(n.natAbs : Int) = n := by omega
    have hsigned : -(n.natAbs : Int) ∈ Width.signed64 := by
      rw [Width.mem_signed64]
      omega
    rw [if_neg (by simp [hn]), if_pos ⟨hpos, hsigned⟩, habs]
  · have habs : (n.natAbs : Int) = n := by omega
    rw [if_pos (by simp [hn]), habs]

/-! ## Texts -/

/-- A control character is written with its code in four hexadecimal digits. -/
theorem numeral?_control : ∀ n < 0x20, Text.numeral? 16
    ['0', '0', Nat.digitChar (n / 16), Nat.digitChar (n % 16)] = some n := by
  decide

/-- A letter that is written for a character is read as the character. -/
theorem escaped?_of_shortEscape? {c letter : Char} (h : shortEscape? c = some letter) :
    escaped? letter = some c := by
  unfold shortEscape? at h
  split at h <;> cases h <;> rfl

/-- Every character is written as one unit of a quoted text. -/
theorem spells_escape (c : Char) : (Piece.char c).Spells (escape c) := by
  unfold escape
  split
  next letter h => exact .short (escaped?_of_shortEscape? h)
  next h =>
    split
    next hcontrol =>
      have hcode : Piece.ofCode c.toNat = .char c := by
        unfold Piece.ofCode
        rw [if_neg (by omega), Char.ofNat_toNat]
      rw [← hcode]
      exact .code (numeral?_control _ hcontrol)
    next hprintable =>
      refine .itself (by omega) ?_ ?_
      · rintro rfl
        simp [shortEscape?] at h
      · rintro rfl
        simp [shortEscape?] at h

/-- Units that are characters are joined as they are. -/
theorem joinHalves_char (s : List Char) : joinHalves (s.map Piece.char) = some s := by
  induction s with
  | nil => rfl
  | cons c s ih => rw [List.map_cons, joinHalves, ih, Option.map_some]

/-- A text between quotes is a quoted text of that value. -/
theorem spellsQuoted_quote (s : String) : SpellsQuoted (some s) (quote s) := by
  refine ⟨s.toList.map fun c => (.char c, escape c), ?_, ?_, ?_⟩
  · intro u hu
    obtain ⟨c, -, rfl⟩ := List.mem_map.1 hu
    exact spells_escape c
  · rw [List.map_map]
    show _ = (joinHalves (s.toList.map Piece.char)).map String.ofList
    rw [joinHalves_char, Option.map_some, String.ofList_toList]
  · rw [quote, List.flatMap_map]

end MakeLint.Json

namespace MakeLint

open Json (Draft)

/-! ## Values -/

mutual

/-- What the text of a value holds. -/
def Json.draft : Json → Draft
  | .number n => .number (.ofInt n)
  | .text s => .text (some s)
  | .list items => .list (Json.draftItems items) true
  | .object members => .object (Json.draftMembers members) true

/-- What the texts of items hold. -/
def Json.draftItems : List Json → List Draft
  | [] => []
  | item :: rest => item.draft :: Json.draftItems rest

/-- What the texts of members hold. -/
def Json.draftMembers : List (String × Json) → List (Option String × Draft)
  | [] => []
  | (key, value) :: rest => (some key, value.draft) :: Json.draftMembers rest

end

namespace Json

open Draft

/-- The start of a line is blank. -/
theorem blanks_newLine (level : Nat) : Blanks (newLine level) := by
  intro c hc
  unfold newLine at hc
  rcases List.mem_cons.1 hc with rfl | hc
  · decide
  · rw [List.eq_of_mem_replicate hc]
    decide

/-- What is written before a part of a list or object: a comma unless the part is the first, and the
start of a line. -/
def leadChars (first : Bool) (level : Nat) : List Char :=
  if first then newLine level else ',' :: newLine level

/-- What is written before a part may stand there. -/
theorem lead_leadChars (first : Bool) (level : Nat) : Lead first (leadChars first level) := by
  unfold Lead leadChars
  cases first with
  | true => exact blanks_newLine level
  | false => exact ⟨[], newLine level, blanks_nil, blanks_newLine level, rfl⟩

/-- What is written between a key and its value may stand there. -/
theorem colon_chars : Colon [':', ' '] :=
  ⟨[], [' '], blanks_nil, by simp [Blanks, Draft.isBlank], rfl⟩

/-- The items of a list at a level from one of them on, up to its closing bracket. -/
def itemsFrom (level : Nat) (first : Bool) : List Json → List Char
  | [] => newLine level ++ [']']
  | item :: rest =>
    leadChars first (level + 1) ++ item.prettyChars (level + 1) ++ itemsFrom level false rest

/-- The members of an object at a level from one of them on, up to its closing bracket. -/
def membersFrom (level : Nat) (first : Bool) : List (String × Json) → List Char
  | [] => newLine level ++ ['}']
  | (key, value) :: rest =>
    leadChars first (level + 1) ++ quote key ++ [':', ' '] ++ value.prettyChars (level + 1)
      ++ membersFrom level false rest

/-- The items of a list, with its closing bracket behind them. -/
theorem prettyItems_close (level : Nat) (item : Json) (rest : List Json) :
    prettyItems (level + 1) (item :: rest) ++ newLine level ++ [']'] =
      itemsFrom level true (item :: rest) := by
  induction rest generalizing item with
  | nil => simp [prettyItems, itemsFrom, leadChars]
  | cons next rest ih =>
    -- The comma is written with the item before it, and read with the item behind it.
    have hcomma : itemsFrom level false (next :: rest) =
        ',' :: itemsFrom level true (next :: rest) := rfl
    rw [itemsFrom, hcomma, ← ih next]
    simp [prettyItems, leadChars]

/-- The members of an object, with its closing bracket behind them. -/
theorem prettyMembers_close (level : Nat) (member : String × Json) (rest : List (String × Json)) :
    prettyMembers (level + 1) (member :: rest) ++ newLine level ++ ['}'] =
      membersFrom level true (member :: rest) := by
  induction rest generalizing member with
  | nil => simp [prettyMembers, membersFrom, leadChars]
  | cons next rest ih =>
    have hcomma : membersFrom level false (next :: rest) =
        ',' :: membersFrom level true (next :: rest) := rfl
    rw [membersFrom, hcomma, ← ih next]
    simp [prettyMembers, leadChars]

mutual

/-- The indented text of a value follows the grammar. -/
theorem spells_prettyChars (level : Nat) (v : Json) : v.draft.Spells (v.prettyChars level) := by
  cases v with
  | number n => exact spells_number (spells_decimalInt n)
  | text s => exact spells_text (spellsQuoted_quote s)
  | list items =>
    -- A list without items is written without a line between its brackets.
    cases items with
    | nil => exact spells_list (spellsItems_nil blanks_nil)
    | cons item rest =>
      have hspells := spells_list (spells_itemsFrom level true (item :: rest))
      rw [← prettyItems_close] at hspells
      simpa [draft, prettyChars] using hspells
  | object members =>
    cases members with
    | nil => exact spells_object (spellsMembers_nil blanks_nil)
    | cons member rest =>
      have hspells := spells_object (spells_membersFrom level true (member :: rest))
      rw [← prettyMembers_close] at hspells
      simpa [draft, prettyChars] using hspells

/-- The items of a list follow the grammar. -/
theorem spells_itemsFrom (level : Nat) (first : Bool) (items : List Json) :
    Draft.SpellsItems first (draftItems items) (itemsFrom level first items) := by
  cases items with
  | nil => exact spellsItems_nil (blanks_newLine level)
  | cons item rest =>
    exact spellsItems_cons (lead_leadChars first (level + 1)) (spells_prettyChars (level + 1) item)
      (spells_itemsFrom level false rest)

/-- The members of an object follow the grammar. -/
theorem spells_membersFrom (level : Nat) (first : Bool) (members : List (String × Json)) :
    Draft.SpellsMembers first (draftMembers members) (membersFrom level first members) := by
  cases members with
  | nil => exact spellsMembers_nil (blanks_newLine level)
  | cons member rest =>
    obtain ⟨key, value⟩ := member
    exact spellsMembers_cons (lead_leadChars first (level + 1)) (spellsQuoted_quote key) colon_chars
      (spells_prettyChars (level + 1) value) (spells_membersFrom level false rest)

end

/-- The indented text of a value spells its draft. -/
theorem spellsWhole_pretty (v : Json) : v.draft.SpellsWhole v.pretty := by
  refine (spells_prettyChars 0 v).spellsWhole ?_
  rw [pretty, String.toList_ofList]

/-- The indented text of a value is read as its draft, with nothing left over. -/
theorem ofText_pretty (v : Json) : Draft.ofText v.pretty = (v.draft, true) :=
  Draft.ofText_eq (spellsWhole_pretty v)

/-- Reading a value from the indented text of a JSON value is reading it from the draft. -/
theorem read_pretty {α : Type} (value : Spot → Except Wire.Fault α) (v : Json) :
    read value v.pretty = value ⟨v.draft, maxLevels⟩ := by
  unfold read
  simp only [ofText_pretty, if_true, bind_pure]

end Json

end MakeLint
