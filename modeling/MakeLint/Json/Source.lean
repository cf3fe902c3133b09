import MakeLint.Json.Draft
import MakeLint.Wire.Source

/-!
# JSON as a source of values

A `Spot` is a place in a JSON text, with the number of levels that may still be entered there: lists
and objects that are looked into may be nested 127 levels deep. A list or object in the wrong place
is a fault of shape at its opening bracket, and a value without parts only if it is a whole value.
-/

namespace MakeLint.Json

open Wire

/-- A place in a JSON text. -/
structure Spot where
  /-- What stands there. -/
  draft : Draft
  /-- How many more levels may be entered. -/
  room : Nat

/-- The number of levels of lists and objects that are looked into. -/
def maxLevels : Nat := 127

/-- A fault of shape; faults in JSON texts do not say where. -/
def differs {α : Type} (how : Mismatch) : Except Fault α := .error (.mismatch wholePath how)

/-- What stands in the place of a value asked for. -/
def Draft.found : Draft → Except Fault Found
  | .broken => .error .refused
  | .null => .ok (.absent "null")
  | .boolean b => .ok (.boolean b)
  | .number literal =>
    match literal.value? with
    | none => .error .refused
    | some (.integer n) => .ok (.integer n)
    | some (.float x) => .ok (.float (floatLayout.write x))
  | .text none => .error .refused
  | .text (some s) => .ok (.text s)
  | .list _ _ => .ok .sequence
  | .object _ _ => .ok .mapping

mutual

/-- The value of a draft taken in whole, with room for some more levels. -/
def Draft.buffered (room : Nat) : Draft → Except Fault Buffered
  | .broken => .error .refused
  | .null => .ok .absent
  | .boolean b => .ok (.flag b)
  | .number literal =>
    match literal.value? with
    | none => .error .refused
    | some (.integer n) => .ok (.integer n)
    | some (.float x) => .ok (.float x)
  | .text none => .error .refused
  | .text (some s) => .ok (.text s)
  | .list items closed =>
    match room with
    | 0 => .error .refused
    | room + 1 => do
      let items ← Draft.bufferedItems room items
      if closed then pure (.list items) else .error .refused
  | .object members closed =>
    match room with
    | 0 => .error .refused
    | room + 1 => do
      Draft.bufferedMembers room members
      if closed then pure .mapping else .error .refused

/-- The items of a list taken in whole. -/
def Draft.bufferedItems (room : Nat) : List Draft → Except Fault (List Buffered)
  | [] => .ok []
  | item :: rest => do
    let value ← Draft.buffered room item
    let values ← Draft.bufferedItems room rest
    pure (value :: values)

/-- The members of an object taken in whole; of an object nothing else matters. -/
def Draft.bufferedMembers (room : Nat) : List (Option String × Draft) → Except Fault Unit
  | [] => .ok ()
  | (key, item) :: rest => do
    if key.isNone then .error .refused
    let _ ← Draft.buffered room item
    Draft.bufferedMembers room rest

end

namespace Spot

/-- A value of another kind than the one asked for. -/
def wrongKind {α : Type} (spot : Spot) (expected : Expected) : Except Fault α := do
  let found ← spot.draft.found
  differs (.kind found expected)

/-- The room for levels inside the value at a place, if it may be entered. -/
def enter (spot : Spot) : Except Fault Nat :=
  match spot.room with
  | 0 => .error .refused
  | room + 1 => .ok room

/-- The text at a place. -/
def text (spot : Spot) (expected : Expected) : Except Fault String :=
  match spot.draft with
  | .text (some s) => .ok s
  | _ => spot.wrongKind expected

/-- The signed integer of 64 bits at a place. -/
def signed (spot : Spot) : Except Fault Int :=
  match spot.draft with
  | .number literal =>
    match literal.value? with
    | some (.integer n) =>
      if n ∈ Width.signed64 then .ok n else differs (.value (.integer n) .signed)
    | _ => spot.wrongKind .signed
  | _ => spot.wrongKind .signed

/-- The unsigned integer of 64 bits at a place. -/
def size (spot : Spot) : Except Fault Nat :=
  match spot.draft with
  | .number literal =>
    match literal.value? with
    | some (.integer n) => if 0 ≤ n then .ok n.toNat else differs (.value (.integer n) .size)
    | _ => spot.wrongKind .size
  | _ => spot.wrongKind .size

/-- The items of the list at a place. -/
def sequence (spot : Spot) : Except Fault (Row Spot) :=
  match spot.draft with
  | .list items closed => do
    let room ← spot.enter
    pure ⟨items.map (⟨·, room⟩), closed⟩
  | _ => spot.wrongKind .sequence

/-- The members of the object at a place. -/
def mapping (spot : Spot) : Except Fault (Row (Spot × Spot)) :=
  match spot.draft with
  | .object members closed => do
    let room ← spot.enter
    pure ⟨members.map fun (key, item) => (⟨.text key, room⟩, ⟨item, room⟩), closed⟩
  | _ => spot.wrongKind .mapping

/-- The parts of the record at a place: an object has them under their names, a list by position. -/
def record (spot : Spot) (name : String) : Except Fault (RecordForm Spot) :=
  match spot.draft with
  | .object _ _ => spot.mapping.map .named
  | .list _ _ => spot.sequence.map .positional
  | _ => spot.wrongKind (.record name)

instance : Source Spot (Except Fault) where
  refuse := .error .refused
  differs _ how := differs how
  text := text
  signed := signed
  sequence := sequence
  mapping := mapping
  record := record
  skip spot := if spot.draft.whole then .ok () else .error .refused
  buffered spot := spot.draft.buffered spot.room

end Spot

/-- Reads the value that a JSON text holds. A fault behind the value is met last. -/
def read {α : Type} (value : Spot → Except Fault α) (text : String) : Except Fault α := do
  let (draft, ends) := Draft.ofText text
  let v ← value ⟨draft, maxLevels⟩
  if ends then pure v else .error .refused

end MakeLint.Json
