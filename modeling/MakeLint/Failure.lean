import MakeLint.Wire.Fault

/-!
# Failures

What can go wrong around the checking of build files: a configuration that is not accepted, a rule
whose name is taken, a wire text that holds no build file. Checking itself never fails.
`Failure.area` sorts the causes, and `Failure.message` puts them into words.
-/

namespace MakeLint

/-- The part of the work in which something went wrong. -/
inductive Area where
  | configuration
  | registry
  | document
  | serialization
  deriving DecidableEq

/-- The format of a wire text. -/
inductive Wire.Format where
  | json
  | yaml
  deriving DecidableEq

/-- Why something could not be done. -/
inductive Failure where
  /-- The configuration is of a version that is not supported. -/
  | unsupportedVersion (version : String)
  /-- The option that disables a rule holds a text that is no flag. -/
  | unreadableFlag (rule raw : String)
  /-- The text holds no configuration. -/
  | noConfig (fault : Wire.Fault)
  /-- A rule of this name is registered already. -/
  | nameTaken (rule : String)
  /-- The text holds no build file. -/
  | noBuildFile (format : Wire.Format) (fault : Wire.Fault)
  /-- A cause from outside this library, in its own words. -/
  | reported (area : Area) (words : String)
  deriving DecidableEq

/-- The name of a format. -/
def Wire.Format.name : Wire.Format → String
  | .json => "JSON"
  | .yaml => "YAML"

/-- The words that open the message of every failure in an area. -/
def Area.heading : Area → String
  | .configuration => "Configuration error"
  | .registry => "Registry error"
  | .document => "Document error"
  | .serialization => "Serialization error"

namespace Failure

/-- The part of the work in which the failure occurred. -/
def area : Failure → Area
  | unsupportedVersion _ | unreadableFlag _ _ | noConfig _ => .configuration
  | nameTaken _ => .registry
  | noBuildFile _ _ => .document
  | reported area _ => area

/-- The cause in words. -/
def cause : Failure → String
  | unsupportedVersion version =>
    "Unsupported configuration version: " ++ version ++ ". Supported versions: 1.0"
  | unreadableFlag rule raw =>
    "Option 'disabled' of rule '" ++ rule ++ "' must be a boolean, got '" ++ raw ++ "'"
  | noConfig fault => "Failed to parse config: " ++ fault.message
  | nameTaken rule => "Rule '" ++ rule ++ "' is already registered"
  | noBuildFile format fault =>
    "Failed to decode " ++ format.name ++ " document: " ++ fault.message
  | reported _ words => words

/-- The failure in words: its area, then its cause. -/
def message (f : Failure) : String := f.area.heading ++ ": " ++ f.cause

end Failure

end MakeLint
