import MakeLint.Text.Quoted

/-!
# Faults of a wire text

Reading a value from a JSON or YAML text fails in one of two ways: the text is refused as it stands
(it breaks the format, or goes beyond what the reader admits), or it holds a value of another shape
than the one asked for. Of the second kind the fault says where and what, in words that do not
depend on the format.
-/

namespace MakeLint.Wire

/-- What stood in the place of the value asked for. -/
inductive Found where
  | boolean (value : Bool)
  | integer (value : Int)
  /-- An integer of more than 64 bits that fits 128. -/
  | wideInteger (value : Int)
  /-- A number that is no integer, as the format writes it. -/
  | float (written : String)
  | text (value : String)
  /-- The absent value, under the format's name for it. -/
  | absent (name : String)
  | sequence
  | mapping
  deriving DecidableEq

/-- What was asked for. -/
inductive Expected where
  | text
  | sequence
  | mapping
  /-- A signed integer of 64 bits. -/
  | signed
  /-- An unsigned integer of 64 bits. -/
  | size
  /-- A record with fields of its own. -/
  | record (name : String)
  /-- The name of a field. -/
  | fieldName
  | anything
  | boolean
  | integer
  | float
  | absent
  deriving DecidableEq

/-- How a value differs from the shape asked for. -/
inductive Mismatch where
  | missingField (name : String)
  | duplicateField (name : String)
  /-- A value of another kind. -/
  | kind (found : Found) (expected : Expected)
  /-- A value of the right kind out of range. -/
  | value (found : Found) (expected : Expected)
  /-- A sequence too short for the fields of a record. -/
  | length (found : Nat) (record : String) (fields : Nat)
  /-- A value that is no option text. -/
  | noOption
  deriving DecidableEq

/-- Why no value could be read. -/
inductive Fault where
  /-- The text breaks the format or exceeds what the reader admits. -/
  | refused
  /-- The value at a path has another shape. -/
  | mismatch (path : String) (how : Mismatch)
  deriving DecidableEq

/-- What stood there, in words. -/
def Found.describe : Found → String
  | .boolean b => "boolean `" ++ (if b then "true" else "false") ++ "`"
  | .integer n => "integer `" ++ toString n ++ "`"
  | .wideInteger n =>
    "integer `" ++ toString n ++ "` as " ++ (if n < 0 then "i128" else "u128")
  | .float written => "floating point `" ++ written ++ "`"
  | .text s => "string " ++ Text.quoted s
  | .absent name => name
  | .sequence => "sequence"
  | .mapping => "map"

/-- What was asked for, in words. -/
def Expected.describe : Expected → String
  | .text => "a string"
  | .sequence => "a sequence"
  | .mapping => "a map"
  | .signed => "i64"
  | .size => "usize"
  | .record name => "struct " ++ name
  | .fieldName => "field identifier"
  | .anything => "any value"
  | .boolean => "a boolean"
  | .integer => "an integer"
  | .float => "a float"
  | .absent => "null"

/-- The difference in words. -/
def Mismatch.describe : Mismatch → String
  | .missingField name => "missing field `" ++ name ++ "`"
  | .duplicateField name => "duplicate field `" ++ name ++ "`"
  | .kind found expected =>
    "invalid type: " ++ found.describe ++ ", expected " ++ expected.describe
  | .value found expected =>
    "invalid value: " ++ found.describe ++ ", expected " ++ expected.describe
  | .length found record fields =>
    "invalid length " ++ toString found ++ ", expected struct " ++ record ++ " with "
      ++ toString fields ++ (if fields = 1 then " element" else " elements")
  | .noOption => "data did not match any variant of untagged enum RawOption"

/-- The path of the whole value. -/
def wholePath : String := "."

/-- The fault in words; the path of the whole value is not said. -/
def Fault.message : Fault → String
  | .refused => "rejected"
  | .mismatch path how =>
    if path = wholePath then how.describe else path ++ ": " ++ how.describe

end MakeLint.Wire
