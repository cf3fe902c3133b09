import MakeLint.Failure
import MakeLint.Json.Value
import MakeLint.Options

/-!
# Configurations

A configuration has a version and a section of options for each rule that it mentions. It is valid
if its version is supported and every option `disabled` writes a flag. `Config.build` starts from
the default configuration, makes a series of edits and then asks for validity.
-/

namespace MakeLint

/-- The key of the option that disables a rule. -/
def disabledKey : String := "disabled"

/-- The version of configurations that is supported. -/
def supportedVersion : String := "1.0"

/-- A version with the options of the rules. -/
structure Config where
  version : String := supportedVersion
  /-- The section of each rule that is mentioned. -/
  sections : Table Options := .empty
  deriving DecidableEq

namespace Config

/-- The options of a rule: those of its section, and none without a section. -/
def options (config : Config) (rule : String) : Options :=
  (config.sections.get? rule).getD .empty

/-- Whether a rule is disabled: its section has a `disabled` that writes true. -/
def disables (config : Config) (rule : String) : Bool :=
  ((config.options rule).flag? disabledKey).getD false

/-- The raw `disabled` of a section, if it is there and writes no flag. -/
def unreadableFlag? (options : Options) : Option String :=
  (options.get? disabledKey).filter fun raw => (Options.readFlag raw).isNone

/-- The first failure of a configuration: its version, or else the first section in the order of the
names whose `disabled` writes no flag. -/
def failure? (config : Config) : Option Failure :=
  if config.version ≠ supportedVersion then some (.unsupportedVersion config.version)
  else config.sections.toList.findSome? fun (rule, options) =>
    (unreadableFlag? options).map (Failure.unreadableFlag rule)

/-- The configuration itself, if it is valid. -/
def checked (config : Config) : Except Failure Config :=
  match config.failure? with
  | some failure => .error failure
  | none => .ok config

/-- One step of building a configuration. -/
inductive Edit where
  /-- Sets an option of a rule. -/
  | set (rule key value : String)
  /-- Disables a rule. -/
  | disable (rule : String)

/-- The configuration with an option of a rule set; the section comes into being if need be. -/
def set (config : Config) (rule key value : String) : Config :=
  { config with sections := config.sections.insert rule ((config.options rule).insert key value) }

/-- The configuration after an edit. -/
def apply (config : Config) : Edit → Config
  | .set rule key value => config.set rule key value
  | .disable rule => config.set rule disabledKey "true"

/-- The configuration that a series of edits builds, if it is valid. -/
def build (edits : List Edit) : Except Failure Config := (edits.foldl apply {}).checked

/-- The configuration as a JSON object. -/
def toJson (config : Config) : Json :=
  .object [("version", .text config.version), ("rules", .ofTable (.ofTable .text) config.sections)]

/-- The text of a configuration. -/
def text (config : Config) : String := config.toJson.pretty

end Config

end MakeLint
