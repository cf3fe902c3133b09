import MakeLint.Wire.Source
import MakeLint.Yaml.Document
import MakeLint.Yaml.Meaning

/-!
# YAML as a source of values

A `Spot` is a place in a YAML document with the path to it. Collections that are looked into may be
nested 128 levels deep; an alias is followed, and the number of aliases that are followed is limited
by the size of the document. Every scalar has a text, whatever it means. Where a collection is asked
for, an empty plain scalar is an empty one.
-/

namespace MakeLint.Yaml

open Wire

/-- A place in a YAML document. -/
structure Spot where
  document : Document
  /-- What stands there. -/
  node : Node
  /-- How many more levels may be entered. -/
  room : Nat
  /-- The path to the place, none for the whole document. -/
  path : Option String

/-- Reading counts the aliases that are followed and can end with a fault. -/
abbrev Reading := StateT Nat (Except Fault)

/-- The number of levels of collections that are looked into. -/
def maxLevels : Nat := 128

/-- How many aliases may be followed for each part of a document. -/
def maxAliases : Nat := 100

/-- The path of the value of a key. -/
def keyPath (path : Option String) (key : String) : String :=
  match path with
  | none => key
  | some p => p ++ "." ++ key

/-- The path of an item. -/
def itemPath (path : Option String) (index : Nat) : String :=
  path.getD wholePath ++ "[" ++ toString index ++ "]"

namespace Spot

/-- Ends with the fault that the text is refused. -/
def refuse {α : Type} : Reading α := fun _ => .error .refused

/-- Ends with the fault that the value at a place has another shape. -/
def differs {α : Type} (spot : Spot) (how : Mismatch) : Reading α :=
  fun _ => .error (.mismatch (spot.path.getD wholePath) how)

/-- The place at which the node itself stands: an alias is followed. -/
def follow (spot : Spot) : Reading Spot := do
  match spot.node with
  | .alias number =>
    let followed ← get
    if maxAliases * spot.document.root.size < followed + 1 then refuse
    set (followed + 1)
    match spot.document.target? number with
    | some node => pure { spot with node }
    | none => refuse
  | _ => pure spot

/-- A value of another kind than the one asked for. -/
def wrongKind {α : Type} (spot : Spot) (expected : Expected) : Reading α :=
  match spot.node with
  | .broken | .alias _ => refuse
  | .scalar _ tag style text =>
    match Meaning.ofScalar tag style text with
    | .ok meaning => spot.differs (.kind (meaning.found text) expected)
    | .error forced => spot.differs (.value (.text text) forced)
  | .sequence _ _ _ _ => spot.differs (.kind .sequence expected)
  | .mapping _ _ _ _ => spot.differs (.kind .mapping expected)

/-- The room for levels inside the collection at a place, if it may be entered. -/
def enter (spot : Spot) : Reading Nat :=
  match spot.room with
  | 0 => refuse
  | room + 1 => pure room

/-- The places of the items of a sequence. -/
def itemSpots (spot : Spot) (room : Nat) (items : List Node) : List Spot :=
  items.mapIdx fun i node => { spot with node, room, path := itemPath spot.path i }

/-- The last part of the path of the value of a key; one that is no scalar has no name. -/
def keyName : Node → String
  | .scalar _ _ _ text => text
  | _ => "?"

/-- The places of the keys and values of a mapping; a key has the path of the mapping. -/
def entrySpots (spot : Spot) (room : Nat) (entries : List (Node × Node)) : List (Spot × Spot) :=
  entries.map fun (key, value) =>
    ({ spot with node := key, room },
      { spot with node := value, room, path := keyPath spot.path (keyName key) })

/-- Whether an empty plain scalar stands at a place. -/
def isEmpty (spot : Spot) : Bool :=
  match spot.node with
  | .scalar _ _ .plain text => text = ""
  | _ => false

/-- The text at a place. -/
def text (spot : Spot) (expected : Expected) : Reading String := do
  let spot ← spot.follow
  match spot.node with
  | .scalar _ _ _ text => pure text
  | _ => spot.wrongKind expected

/-- The signed integer of 64 bits at a place: a plain scalar, or a literal one with the tag of
integers. -/
def signed (spot : Spot) : Reading Int := do
  let spot ← spot.follow
  match spot.node with
  | .scalar _ tag style text =>
    let numeral := style = .plain ∨ (style = .literal ∧ tag = some .integer)
    match Meaning.integer? text.toList with
    | some n =>
      if numeral ∧ n ∈ Width.signed64 then pure n else spot.wrongKind .signed
    | none => spot.wrongKind .signed
  | _ => spot.wrongKind .signed

/-- The items of the sequence at a place. -/
def sequence (spot : Spot) : Reading (Row Spot) := do
  let spot ← spot.follow
  match spot.node with
  | .sequence _ _ items closed =>
    let room ← spot.enter
    pure ⟨spot.itemSpots room items, closed⟩
  | _ => if spot.isEmpty then pure ⟨[], true⟩ else spot.wrongKind .sequence

/-- The entries of the mapping at a place, which is asked for as `expected`. -/
def entries (spot : Spot) (expected : Expected) : Reading (Row (Spot × Spot)) := do
  let spot ← spot.follow
  match spot.node with
  | .mapping _ _ entries closed =>
    let room ← spot.enter
    pure ⟨spot.entrySpots room entries, closed⟩
  | _ => if spot.isEmpty then pure ⟨[], true⟩ else spot.wrongKind expected

/-- Whether a tag keeps a value from being taken in whole. -/
def isOwnTag (tag : Option Tag) : Bool := tag = some (.own true)

/-- The value at a place taken in whole, with fuel for as many levels as there is room. An alias
stands for no alias, so one level of fuel follows it. -/
def buffered : Nat → Spot → Reading Buffered
  | 0, _ => refuse
  | fuel + 1, spot => do
    let spot ← spot.follow
    match spot.node with
    | .broken | .alias _ => refuse
    | .scalar _ tag style text =>
      if isOwnTag tag then refuse
      match Meaning.ofScalar tag style text with
      | .error forced => spot.differs (.value (.text text) forced)
      | .ok .absent => pure .absent
      | .ok (.flag b) => pure (.flag b)
      | .ok (.integer n) => pure (.integer n)
      | .ok (.wideInteger n) => spot.differs (.kind (.wideInteger n) .anything)
      | .ok (.float x) => pure (.float x)
      | .ok .text => pure (.text text)
    | .sequence _ tag items closed =>
      if isOwnTag tag then refuse
      let room ← spot.enter
      let items ← (spot.itemSpots room items).mapM (buffered fuel)
      if closed then pure (.list items) else refuse
    | .mapping _ tag entries closed =>
      if isOwnTag tag then refuse
      let room ← spot.enter
      (spot.entrySpots room entries).forM fun (key, value) => do
        let _ ← buffered fuel key
        let _ ← buffered fuel value
      if closed then pure .mapping else refuse

instance : Source Spot Reading where
  refuse := refuse
  differs := differs
  text := text
  signed := signed
  sequence := sequence
  mapping spot := spot.entries .mapping
  record spot name := return .named (← spot.entries (.record name))
  skip spot := if spot.node.whole then pure () else refuse
  buffered spot := spot.buffered (spot.room + 1)

end Spot

/-- Reads the value that a YAML text holds. A fault behind the value is met last. -/
def read {α : Type} (value : Spot → Reading α) (text : String) : Except Fault α := do
  let document := Document.ofText text
  let (v, _) ← (value ⟨document, document.root, maxLevels, none⟩).run 0
  if document.sound then pure v else .error .refused

end MakeLint.Yaml
