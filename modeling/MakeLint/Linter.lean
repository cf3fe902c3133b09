import MakeLint.Registry

/-!
# Linters

A linter is a registry together with a configuration. It checks a build file and reports what its
enabled rules find, or many build files as independent jobs whose reports are merged in the order of
the files.
-/

namespace MakeLint

/-- Rules with the configuration that they are run under. -/
structure Linter where
  registry : Registry := .standard
  config : Config := {}

namespace Linter

/-- The report of one build file. -/
def validate (linter : Linter) (file : BuildFile) : Traced Report :=
  let found := linter.registry.run file linter.config
  let rulesRun := (linter.registry.names.filter fun name => !linter.config.disables name).length
  let report := (Report.empty.extend found.value).recordFile rulesRun
  { value := report
    events := found.events ++ [.validated file.name report.violations.length] }

/-- The reports of all build files, made on a schedule and merged in the order of the files. -/
def validateAll (linter : Linter) (files : List BuildFile) (schedule : Schedule files.length) :
    Report :=
  (schedule.collect fun i => (linter.validate files[i]).value).foldl Report.merge .empty

end Linter

end MakeLint
