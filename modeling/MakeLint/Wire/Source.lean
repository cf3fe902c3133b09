import MakeLint.Table
import MakeLint.Wire.Fault
import MakeLint.Wire.OptionText

/-!
# Sources of values

A `Source` is a kind of place in a wire text at which a value can be read: `ν` is the place, and
reading takes place in a monad `m` that can end with a fault. The formats JSON and YAML are sources.
Everything that is read from either of them is read through the operations of this class, so the
shape of a value is described once.
-/

namespace MakeLint.Wire

/-- The parts of a value in a row, as far as they could be read. -/
structure Row (β : Type) where
  parts : List β
  /-- Whether the row comes to its end without a fault. -/
  closed : Bool

/-- The two ways to write a record. -/
inductive RecordForm (ν : Type) where
  /-- Fields under their names. -/
  | named (members : Row (ν × ν))
  /-- The values of the fields in the order of their declaration. -/
  | positional (values : Row ν)

/-- Places at which values can be read. -/
class Source (ν : Type) (m : outParam (Type → Type)) where
  /-- Ends with the fault that the text is refused. -/
  refuse {α : Type} : m α
  /-- Ends with the fault that the value at a place has another shape. -/
  differs {α : Type} (place : ν) (how : Mismatch) : m α
  /-- The text at a place; what is asked for is said if there is none. -/
  text (place : ν) (expected : Expected) : m String
  /-- The signed integer of 64 bits at a place. -/
  signed (place : ν) : m Int
  /-- The items of the sequence at a place. -/
  sequence (place : ν) : m (Row ν)
  /-- The keys and values of the mapping at a place. -/
  mapping (place : ν) : m (Row (ν × ν))
  /-- The parts of the record at a place. -/
  record (place : ν) (name : String) : m (RecordForm ν)
  /-- Passes over the value at a place. -/
  skip (place : ν) : m Unit
  /-- The value at a place, taken in whole. -/
  buffered (place : ν) : m Buffered

variable {ν : Type} {m : Type → Type} [Monad m] [Source ν m] {α : Type}

/-- Goes on behind a row if it comes to its end. -/
def Row.finish (ν : Type) {m : Type → Type} [Monad m] [Source ν m] {β : Type} (row : Row β) :
    m Unit :=
  if row.closed then pure () else Source.refuse ν

/-- The list of values at a place, each read by `item`. -/
def list (item : ν → m α) (place : ν) : m (List α) := do
  let row ← Source.sequence place
  let values ← row.parts.mapM item
  row.finish ν
  pure values

/-- The table at a place, each value read by `value`; of two members with one key the later counts.
-/
def table (value : ν → m α) (place : ν) : m (Table α) := do
  let row ← Source.mapping place
  let entries ← row.parts.mapM fun (key, item) => do
    let name ← Source.text key .text
    let v ← value item
    pure (name, v)
  row.finish ν
  pure (.ofList entries)

/-- The options at a place: a value that is no option is a fault of the mapping. -/
def options (place : ν) : m (Table String) :=
  table (fun item => do
    match (← Source.buffered item).optionText? with
    | some text => pure text
    | none => Source.differs place .noOption) place

end MakeLint.Wire
