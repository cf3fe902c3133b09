import MakeLint.Config
import MakeLint.Producer
import MakeLint.Report
import MakeLint.Rule.RequiredPhony
import MakeLint.Schedule

/-!
# Registries

A registry holds rules with distinct names in the order of their registration. It runs the rules
that a configuration leaves enabled: one after the other with events in between, or as independent
jobs on a schedule.
-/

namespace MakeLint

/-- Rules with distinct names, in the order of registration. -/
structure Registry where
  rules : List Rule
  /-- No name occurs twice. -/
  distinct : (rules.map (·.name)).Nodup

namespace Registry

/-- The registry without rules. -/
def empty : Registry := ⟨[], .nil⟩

/-- The registry of the rules that come with the library. -/
def standard : Registry := ⟨[RequiredPhony.toRule {}], by simp⟩

/-- The rule of a name. -/
def get? (registry : Registry) (name : String) : Option Rule :=
  registry.rules.find? (·.name == name)

/-- The names of the rules, in order. -/
def names (registry : Registry) : List String := registry.rules.map (·.name)

/-- The number of rules. -/
def size (registry : Registry) : Nat := registry.rules.length

/-- Whether there is no rule. -/
def isEmpty (registry : Registry) : Bool := registry.rules.isEmpty

/-- The names of the rules with their descriptions, in order. -/
def describe (registry : Registry) : List (String × String) :=
  registry.rules.map fun rule => (rule.name, rule.description)

theorem distinct_append {rules : List Rule} {rule : Rule} (distinct : (rules.map (·.name)).Nodup)
    (fresh : rule.name ∉ rules.map (·.name)) : ((rules ++ [rule]).map (·.name)).Nodup := by
  rw [List.map_append, List.nodup_append]
  refine ⟨distinct, by simp, fun a ha b hb => ?_⟩
  rintro rfl
  simp only [List.map_cons, List.map_nil, List.mem_singleton] at hb
  exact fresh (hb ▸ ha)

/-- The registry with a rule added at the end, unless its name is taken. -/
def register (registry : Registry) (rule : Rule) : Except Failure (Traced Registry) :=
  if fresh : rule.name ∉ registry.names then
    .ok { value := ⟨registry.rules ++ [rule], distinct_append registry.distinct fresh⟩
          events := [.registered rule.name] }
  else .error (.nameTaken rule.name)

/-- An attempt to register a rule in place: the failure, if there is one, and the registry
afterwards. A failed attempt leaves the registry as it was. -/
def attempt (registry : Registry) (rule : Rule) : Option Failure × Registry :=
  match registry.register rule with
  | .ok next => (none, next.value)
  | .error failure => (some failure, registry)

/-- The registry after a series of attempts. -/
def after (registry : Registry) (rules : List Rule) : Registry :=
  rules.foldl (fun registry rule => (registry.attempt rule).2) registry

/-- The registry after rules were registered one by one; the first failure ends it. -/
def registerAll (registry : Registry) (rules : List Rule) : Except Failure Registry :=
  rules.foldlM (fun registry rule => (registry.register rule).map (·.value)) registry

/-- Whether a configuration leaves a rule enabled; a warning tells if it does not. -/
def isEnabled (config : Config) (rule : Rule) : Traced Bool :=
  let disabled := config.disables rule.name
  ⟨!disabled, if disabled then [.skipped rule.name] else []⟩

/-- The rules that a configuration leaves enabled, one at a time and in order. -/
def enabledRules (registry : Registry) (config : Config) : Producer Rule :=
  (Producer.ofList registry.rules).filter (isEnabled config)

/-- The rules that a configuration leaves enabled, in order. -/
def enabled (registry : Registry) (config : Config) : Traced (List Rule) :=
  (registry.enabledRules config).collect

/-- The violations of one rule under its options, with a closing event. -/
def evaluate (file : BuildFile) (config : Config) (rule : Rule) : Traced (List Violation) :=
  let found := rule.check file (config.options rule.name)
  { found with events := found.events ++ [.evaluated rule.name found.value.length file.name] }

/-- The violations of all enabled rules, in the order of the rules. Each rule is evaluated when it
is found to be enabled, before the next one is looked at. -/
def run (registry : Registry) (file : BuildFile) (config : Config) : Traced (List Violation) :=
  ((registry.enabledRules config).flatMap (evaluate file config)).collect

/-- The violations of all enabled rules, evaluated on a schedule. -/
def runScheduled (registry : Registry) (file : BuildFile) (config : Config)
    (schedule : Schedule (registry.enabled config).value.length) : List Violation :=
  (schedule.collect fun i =>
    (evaluate file config (registry.enabled config).value[i]).value).flatten

end Registry

end MakeLint
