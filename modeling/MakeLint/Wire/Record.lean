import MakeLint.Wire.Source

/-!
# Records

A record is described by the list of its fields: a name, how the value is read, and what an omitted
field is taken to be. `record` reads one from any source. Where the fields stand under their names,
each may occur once, in any order, and members with other names are passed over; after the last
member the first field that is neither there nor may be omitted is missing. Where they stand by
position, only fields at the end may be omitted.
-/

namespace MakeLint.Wire

/-- The fields of a record with values of the given types. -/
inductive Fields (ν : Type) (m : Type → Type) : List Type → Type 1 where
  | nil : Fields ν m []
  | cons {α : Type} {αs : List Type} (name : String) (read : ν → m α) (ifOmitted : Option α)
      (rest : Fields ν m αs) : Fields ν m (α :: αs)

/-- A value for each field. -/
def Values : List Type → Type
  | [] => Unit
  | α :: αs => α × Values αs

/-- The values of the fields that have been met. -/
def Slots : List Type → Type
  | [] => Unit
  | α :: αs => Option α × Slots αs

/-- No field has been met. -/
def Slots.none : (αs : List Type) → Slots αs
  | [] => ()
  | _ :: αs => (Option.none, Slots.none αs)

variable {ν : Type} {m : Type → Type} [Monad m] [Source ν m]

namespace Fields

/-- A field in front of others that must not be omitted. -/
def required {α : Type} {αs : List Type} (name : String) (read : ν → m α) (rest : Fields ν m αs) :
    Fields ν m (α :: αs) :=
  .cons name read none rest

/-- A field in front of others with the value that it has if it is omitted. -/
def optional {α : Type} {αs : List Type} (name : String) (read : ν → m α) (ifOmitted : α)
    (rest : Fields ν m αs) : Fields ν m (α :: αs) :=
  .cons name read (some ifOmitted) rest

/-- Reads a member of the record at `place`: the value of a field that has not been met before, or
the value of no field, which is passed over. -/
def put (place : ν) (key : String) (item : ν) :
    {αs : List Type} → Fields ν m αs → Slots αs → m (Slots αs)
  | _, .nil, slots => do
    Source.skip item
    pure slots
  | _, .cons name read _ rest, (slot, slots) =>
    if key = name then
      match slot with
      | some _ => Source.differs place (.duplicateField name)
      | none => do
        let value ← read item
        pure (some value, slots)
    else do
      let slots ← rest.put place key item slots
      pure (slot, slots)

/-- Reads the members of the record at `place` one by one. -/
def putAll {αs : List Type} (fields : Fields ν m αs) (place : ν) :
    List (ν × ν) → Slots αs → m (Slots αs)
  | [], slots => pure slots
  | (key, item) :: rest, slots => do
    let name ← Source.text key .fieldName
    let slots ← fields.put place name item slots
    fields.putAll place rest slots

/-- The values of all fields after the last member of the record at `place`. -/
def finish (place : ν) : {αs : List Type} → Fields ν m αs → Slots αs → m (Values αs)
  | _, .nil, _ => pure ()
  | _, .cons name _ ifOmitted rest, (slot, slots) =>
    match slot.or ifOmitted with
    | none => Source.differs place (.missingField name)
    | some value => do
      let values ← rest.finish place slots
      pure (value, values)

/-- Reads the fields of the record at `place` by position: `tooShort` says how a row ends too early
before the field of a number. No value may be left at the end. -/
def takeAll (place : ν) (tooShort : Nat → Mismatch) (closed : Bool) :
    {αs : List Type} → Fields ν m αs → Nat → List ν → m (Values αs)
  | _, .nil, _, left =>
    if left.isEmpty ∧ closed then pure () else Source.refuse ν
  | _, .cons _ read _ rest, position, item :: left => do
    let value ← read item
    let values ← rest.takeAll place tooShort closed (position + 1) left
    pure (value, values)
  | _, .cons _ _ ifOmitted rest, position, [] =>
    if closed then
      match ifOmitted with
      | none => Source.differs place (tooShort position)
      | some value => do
        let values ← rest.takeAll place tooShort closed (position + 1) []
        pure (value, values)
    else Source.refuse ν

end Fields

/-- Reads the record of a name at a place. -/
def record {αs : List Type} (name : String) (fields : Fields ν m αs) (place : ν) :
    m (Values αs) := do
  match ← Source.record place name with
  | .named members =>
    let slots ← fields.putAll place members.parts (.none αs)
    members.finish ν
    fields.finish place slots
  | .positional values =>
    fields.takeAll place (.length · name αs.length) values.closed 0 values.parts

end MakeLint.Wire
