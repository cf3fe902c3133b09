import MakeLint.Proofs.Json.Writing

/-!
# Texts without blanks

A value may also be written without blanks. That text follows the grammar too and spells the same
draft as the indented text (`Json.spellsWhole_text`), so whatever is read from one of the two texts
is read from the other.
-/

namespace MakeLint.Json

open Draft

/-- A member with a quoted key and no blanks around its colon stands in front of the others. -/
theorem spellsMembers_quote {first : Bool} {lead value others : List Char} {item : Draft}
    {rest : List (Option String × Draft)} (hlead : Lead first lead) (key : String)
    (hitem : item.Spells value) (hrest : SpellsMembers false rest others) :
    SpellsMembers first ((some key, item) :: rest)
      (lead ++ quote key ++ [':'] ++ value ++ others) :=
  spellsMembers_cons hlead (spellsQuoted_quote key) colon_bare hitem hrest

mutual

/-- The text of a value without blanks follows the grammar. -/
theorem spells_compactChars (v : Json) : v.draft.Spells v.compactChars := by
  cases v with
  | number n => exact spells_number (spells_decimalInt n)
  | text s => exact spells_text (spellsQuoted_quote s)
  | list items =>
    have hspells := spells_list (spells_compactItems items lead_nil)
    simpa [draft, compactChars] using hspells
  | object members =>
    have hspells := spells_object (spells_compactMembers members lead_nil)
    simpa [draft, compactChars] using hspells

/-- The items of a list without blanks follow the grammar, behind what may stand before them. -/
theorem spells_compactItems (items : List Json) {lead : List Char} {first : Bool}
    (hlead : Lead first lead) : SpellsItems first (draftItems items)
      ((if items = [] then [] else lead) ++ compactItems items ++ [']']) := by
  match items with
  | [] => exact spellsItems_nil blanks_nil
  | [item] => exact spellsItems_cons hlead (spells_compactChars item) (spellsItems_nil blanks_nil)
  | item :: next :: rest =>
    -- The comma behind an item stands before the next one.
    have hrest := spells_compactItems (next :: rest) lead_comma
    have hspells := spellsItems_cons hlead (spells_compactChars item) hrest
    simpa [draftItems, compactItems] using hspells

/-- The members of an object without blanks follow the grammar, behind what may stand before them.
-/
theorem spells_compactMembers (members : List (String × Json)) {lead : List Char} {first : Bool}
    (hlead : Lead first lead) : SpellsMembers first (draftMembers members)
      ((if members = [] then [] else lead) ++ compactMembers members ++ ['}']) := by
  match members with
  | [] => exact spellsMembers_nil blanks_nil
  | [(key, value)] =>
    have hspells := spellsMembers_quote hlead key (spells_compactChars value)
      (spellsMembers_nil blanks_nil)
    simpa [draftMembers, compactMembers] using hspells
  | (key, value) :: next :: rest =>
    have hrest := spells_compactMembers (next :: rest) lead_comma
    have hspells := spellsMembers_quote hlead key (spells_compactChars value) hrest
    simpa [draftMembers, compactMembers] using hspells

end

/-- The text of a value without blanks spells its draft. -/
theorem spellsWhole_compact (v : Json) : v.draft.SpellsWhole v.compact := by
  refine (spells_compactChars v).spellsWhole ?_
  rw [compact, String.toList_ofList]

/-- Either text of a value spells its draft. -/
theorem spellsWhole_text {v : Json} {text : String} (h : text = v.compact ∨ text = v.pretty) :
    v.draft.SpellsWhole text := by
  obtain rfl | rfl := h
  · exact spellsWhole_compact v
  · exact spellsWhole_pretty v

end MakeLint.Json
