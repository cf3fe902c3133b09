import MakeLint.Wire.Forms
import MakeLint.Yaml.Source

/-!
# Loading values from wire texts

Build files and configurations load with a failure that says what was to be loaded. Options,
violations and reports load with the bare fault. A configuration from YAML has to be valid; one from
JSON is taken as it is.
-/

namespace MakeLint

/-- The build file that a JSON text holds. -/
def BuildFile.ofJson (text : String) : Except Failure BuildFile :=
  (Json.read Wire.buildFile text).mapError (.noBuildFile .json)

/-- The build file that a YAML text holds. -/
def BuildFile.ofYaml (text : String) : Except Failure BuildFile :=
  (Yaml.read Wire.buildFile text).mapError (.noBuildFile .yaml)

/-- The configuration that a JSON text holds, valid or not. -/
def Config.ofJson (text : String) : Except Wire.Fault Config := Json.read Wire.config text

/-- The configuration that a YAML text holds, if it is valid. -/
def Config.ofYaml (text : String) : Except Failure Config := do
  let config ← (Yaml.read Wire.config text).mapError .noConfig
  config.checked

/-- The options that a JSON text holds. -/
def Options.ofJson (text : String) : Except Wire.Fault Options := Json.read Wire.options text

/-- The options that a YAML text holds. -/
def Options.ofYaml (text : String) : Except Wire.Fault Options := Yaml.read Wire.options text

/-- The violation that a JSON text holds. -/
def Violation.ofJson (text : String) : Except Wire.Fault Violation := Json.read Wire.violation text

/-- The violation that a YAML text holds. -/
def Violation.ofYaml (text : String) : Except Wire.Fault Violation := Yaml.read Wire.violation text

/-- The report that a JSON text holds. -/
def Report.ofJson (text : String) : Except Wire.Fault Report := Json.read Wire.report text

end MakeLint
