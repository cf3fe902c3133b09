import MakeLint.Yaml.Token

/-!
# The nodes of a YAML document

A `Node` is a document from its start to its end or to the first fault of the text. A fault shows as
`broken` in the place of a node, or as a sequence or mapping that is not closed. An alias stands for
the node with an anchor of a number; `Node.anchored` lists those nodes.
-/

namespace MakeLint.Yaml

/-- What a tag says about its node. -/
inductive Tag where
  | boolean
  | integer
  | float
  | absent
  /-- A tag of the document's own; not readable if its bytes encode no characters. -/
  | own (readable : Bool)
  /-- Any other tag. -/
  | other
  deriving DecidableEq

/-- A node as far as the text can be read. -/
inductive Node where
  /-- The text has a fault where a node should stand. -/
  | broken
  /-- The node with the anchor of a number. -/
  | alias (anchor : Nat)
  | scalar (anchor : Option Nat) (tag : Option Tag) (style : Style) (text : String)
  | sequence (anchor : Option Nat) (tag : Option Tag) (items : List Node) (closed : Bool)
  | mapping (anchor : Option Nat) (tag : Option Tag) (entries : List (Node × Node))
    (closed : Bool)

namespace Node

/-- The scalar that stands where nothing is written. -/
def empty : Node := .scalar none none .plain ""

mutual

/-- Whether a node is there as a whole. -/
def whole : Node → Bool
  | .broken => false
  | .alias _ | .scalar _ _ _ _ => true
  | .sequence _ _ items closed => wholeItems items && closed
  | .mapping _ _ entries closed => wholeEntries entries && closed

/-- Whether all items are there as a whole. -/
def wholeItems : List Node → Bool
  | [] => true
  | item :: rest => whole item && wholeItems rest

/-- Whether all keys and values are there as a whole. -/
def wholeEntries : List (Node × Node) → Bool
  | [] => true
  | (key, value) :: rest => whole key && whole value && wholeEntries rest

end

/-- One for a row that is closed. -/
def closing (closed : Bool) : Nat := if closed then 1 else 0

mutual

/-- The number of aliases, scalars, starts and ends of collections in a node. -/
def size : Node → Nat
  | .broken => 0
  | .alias _ | .scalar _ _ _ _ => 1
  | .sequence _ _ items closed => 1 + sizeItems items + closing closed
  | .mapping _ _ entries closed => 1 + sizeEntries entries + closing closed

/-- The sum of the sizes of items. -/
def sizeItems : List Node → Nat
  | [] => 0
  | item :: rest => size item + sizeItems rest

/-- The sum of the sizes of keys and values. -/
def sizeEntries : List (Node × Node) → Nat
  | [] => 0
  | (key, value) :: rest => size key + size value + sizeEntries rest

end

/-- A node under the number of its anchor, if it has one. -/
def under (anchor : Option Nat) (n : Node) : List (Nat × Node) :=
  match anchor with
  | none => []
  | some number => [(number, n)]

mutual

/-- The nodes with anchors inside a node, in the order of their starts. -/
def anchored : Node → List (Nat × Node)
  | .broken | .alias _ => []
  | .scalar anchor tag style text => under anchor (.scalar anchor tag style text)
  | .sequence anchor tag items closed =>
    under anchor (.sequence anchor tag items closed) ++ anchoredItems items
  | .mapping anchor tag entries closed =>
    under anchor (.mapping anchor tag entries closed) ++ anchoredEntries entries

/-- The nodes with anchors inside items. -/
def anchoredItems : List Node → List (Nat × Node)
  | [] => []
  | item :: rest => anchored item ++ anchoredItems rest

/-- The nodes with anchors inside keys and values. -/
def anchoredEntries : List (Node × Node) → List (Nat × Node)
  | [] => []
  | (key, value) :: rest => anchored key ++ anchored value ++ anchoredEntries rest

end

end Node

end MakeLint.Yaml
