import MakeLint.Proofs.Yaml.Scanning
import MakeLint.Yaml.Document

/-!
# Written values are the nodes of a YAML document

`Json.node` is the node of YAML for a JSON value of texts and objects. The tokens of the value are
composed to that node, whatever follows them (`Json.node_tokens`): a flow mapping is composed entry
by entry, and within an entry the key and the value are nodes of their own. The result is
`Json.document_pretty`: the text of an object is a document that consists of its node.
-/

namespace MakeLint

open Yaml (Token Node Composer Document flowEntries flowEntry flowPart afterComma?)

namespace Json

mutual

/-- The node of a value of texts and objects. -/
def node : Json → Node
  | .number _ | .list _ => .broken
  | .text s => .scalar none none .double s
  | .object members => .mapping none none (entryNodes members) true

/-- The keys and values of the mapping that an object is. -/
def entryNodes : List (String × Json) → List (Node × Node)
  | [] => []
  | (key, value) :: rest => (.scalar none none .double key, value.node) :: entryNodes rest

end

/-- A scalar between quotes is a node. -/
theorem node_scalar (fuel : Nat) (inBlock unindented : Bool) (s : Composer) (text : String)
    (rest : List Token) :
    Yaml.node (fuel + 1) inBlock unindented (s.goTo (.scalar .double text.toList :: rest)) =
      (.scalar none none .double text, some (s.goTo rest)) := by
  simp [Yaml.node, Composer.goTo, Yaml.Properties.take, Composer.addAnchor?]

/-- A mapping in a flow collection is composed entry by entry. -/
theorem node_mapping {fuel : Nat} (inBlock unindented : Bool) {s left : Composer}
    {inside : List Token} {entries : List (Node × Node)}
    (h : flowEntries fuel true (s.goTo inside) = ((entries, true), some left)) :
    Yaml.node (fuel + 1) inBlock unindented (s.goTo (.flowMappingStart :: inside)) =
      (.mapping none none entries true, some left) := by
  unfold Composer.goTo at h ⊢
  simp [Yaml.node, Yaml.Properties.take, Composer.addAnchor?, Composer.goTo, h]

/-- A bracket ends the entries of a mapping. -/
theorem flowEntries_close (fuel : Nat) (first : Bool) (s : Composer) (rest : List Token) :
    flowEntries (fuel + 1) first (s.goTo (.flowMappingEnd :: rest)) =
      (([], true), some (s.goTo rest)) := by
  simp [flowEntries, Composer.goTo]

/-- The entries of a mapping are composed one after the other. -/
theorem flowEntries_key {fuel : Nat} (first : Bool) {s s' left : Composer} {inside : List Token}
    {entry : Node × Node} {entries : List (Node × Node)}
    (hentry : flowEntry fuel (s.goTo inside) = (entry, some s'))
    (hothers : flowEntries fuel false s' = ((entries, true), some left)) :
    flowEntries (fuel + 1) first
        (s.goTo ((if first then [] else [.flowEntry]) ++ .key :: inside)) =
      ((entry :: entries, true), some left) := by
  unfold Composer.goTo at hentry ⊢
  cases first <;> simp [flowEntries, afterComma?, Composer.goTo, hentry, hothers]

/-- A key or value is composed as the node that it is. -/
theorem flowPart_tokens (fuel : Nat) {v : Json} (h : v.Portable) (s : Composer)
    (rest : List Token) : flowPart (fuel + 1) true (s.goTo (v.tokens ++ rest)) =
      Yaml.node fuel false false (s.goTo (v.tokens ++ rest)) := by
  cases v with
  | number n => exact h.elim
  | list items => exact h.elim
  | text s => simp [flowPart, tokens, Composer.goTo]
  | object members => simp [flowPart, tokens, Composer.goTo]

/-- An entry is composed of its key and its value. -/
theorem flowEntry_tokens {fuel : Nat} (key : String) {value : Json} (h : value.Portable)
    {s left : Composer} {rest : List Token}
    (hvalue : Yaml.node (fuel + 1) false false (s.goTo (value.tokens ++ rest)) =
      (value.node, some left)) :
    flowEntry (fuel + 3)
        (s.goTo (.scalar .double key.toList :: .value :: (value.tokens ++ rest))) =
      ((.scalar none none .double key, value.node), some left) := by
  have hkey : flowPart (fuel + 2) true
      (s.goTo (.scalar .double key.toList :: .value :: (value.tokens ++ rest))) =
        (.scalar none none .double key, some (s.goTo (.value :: (value.tokens ++ rest)))) := by
    rw [← node_scalar fuel false false s key (.value :: (value.tokens ++ rest))]
    simp [flowPart, Composer.goTo]
  have hpart := (flowPart_tokens (fuel + 1) h s rest).trans hvalue
  unfold Composer.goTo at hkey hpart ⊢
  simp [flowEntry, Composer.goTo, hkey, hpart]

mutual

/-- The tokens of a value are composed to its node. -/
theorem node_tokens (fuel : Nat) (inBlock unindented : Bool) (v : Json) (h : v.Portable)
    (s : Composer) (rest : List Token) (hfuel : 3 * v.tokens.length ≤ fuel) :
    Yaml.node fuel inBlock unindented (s.goTo (v.tokens ++ rest)) =
      (v.node, some (s.goTo rest)) := by
  cases v with
  | number n => exact h.elim
  | list items => exact h.elim
  | text text =>
    obtain ⟨fuel, rfl⟩ : ∃ m, fuel = m + 1 := ⟨fuel - 1, by simp [tokens] at hfuel; omega⟩
    exact node_scalar fuel inBlock unindented s text rest
  | object members =>
    obtain ⟨fuel, rfl⟩ : ∃ m, fuel = m + 1 := ⟨fuel - 1, by simp [tokens] at hfuel; omega⟩
    refine node_mapping inBlock unindented (flowEntries_tokens fuel true members h s rest ?_)
    simp only [tokens, List.length_cons] at hfuel
    omega

/-- The tokens of members are composed to the entries of a mapping. -/
theorem flowEntries_tokens (fuel : Nat) (first : Bool) (members : List (String × Json))
    (h : PortableMembers members) (s : Composer) (rest : List Token)
    (hfuel : 3 * (memberTokens first members).length ≤ fuel) :
    flowEntries fuel first (s.goTo (memberTokens first members ++ rest)) =
      ((entryNodes members, true), some (s.goTo rest)) := by
  cases members with
  | nil =>
    obtain ⟨fuel, rfl⟩ : ∃ m, fuel = m + 1 := ⟨fuel - 1, by simp [memberTokens] at hfuel; omega⟩
    exact flowEntries_close fuel first s rest
  | cons member others =>
    obtain ⟨key, value⟩ := member
    obtain ⟨hkey, hvalue, hothers⟩ := h
    simp only [memberTokens, List.length_append, List.length_cons, List.length_nil] at hfuel
    -- The value stands three levels of fuel below its row: an entry, a part of it, and the node.
    obtain ⟨fuel, rfl⟩ : ∃ m, fuel = m + 4 := ⟨fuel - 4, by omega⟩
    have hnode := node_tokens (fuel + 1) false false value hvalue s
      (memberTokens false others ++ rest) (by omega)
    have hentries := flowEntries_tokens (fuel + 3) false others hothers s rest (by omega)
    have hall := flowEntries_key first (flowEntry_tokens key hvalue hnode) hentries
    simpa only [memberTokens, entryNodes, List.append_assoc, List.cons_append, List.nil_append]
      using hall

end

/-- The text of an object with members is a document that consists of its node. -/
theorem document_pretty {members : List (String × Json)} (hmembers : members ≠ [])
    (h : PortableMembers members) :
    Document.ofText (object members).pretty = ⟨(object members).node, true⟩ := by
  let all : List Token := (object members).tokens ++ [.streamEnd]
  let start : Composer := { tokens := all, handles := [] ++ Yaml.standardHandles }
  have hnode : Yaml.node (8 * all.length + 8) true false start =
      ((object members).node, some (start.goTo [.streamEnd])) := by
    refine node_tokens _ true false (object members) h start [.streamEnd] ?_
    rw [List.length_append]
    omega
  calc Document.ofText (object members).pretty
      = Document.ofTokens all := by rw [Document.ofText, tokens_pretty hmembers h]
    _ = Document.ofNode [] all := rfl
    _ = ⟨(object members).node, true⟩ := by
        unfold Document.ofNode
        rw [hnode]
        rfl

end Json

end MakeLint
