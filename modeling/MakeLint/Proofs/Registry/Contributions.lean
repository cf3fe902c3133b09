import MakeLint.Proofs.Linter.Validation
import MakeLint.Proofs.Schedule.Results

/-!
# What each rule contributes to a run

The violations of a run are the contributions of the rules in the order of registration: what a rule
finds under its options, and nothing if it is disabled (`Registry.value_run_eq_flatMap`). Running
the enabled rules as independent jobs gives the same list on every schedule, since each job leaves
its contribution in the slot of its rule (`Registry.runScheduled_eq_run`).
-/

namespace MakeLint.Registry

/-- What a rule contributes to a run: the violations that it finds under its options, and none if it
is disabled. -/
def contribution (file : BuildFile) (config : Config) (rule : Rule) : List Violation :=
  if config.disables rule.name then [] else (rule.check file (config.options rule.name)).value

/-- A run is the contributions of all rules in the order of registration. -/
theorem value_run_eq_flatMap (registry : Registry) (file : BuildFile) (config : Config) :
    (registry.run file config).value = registry.rules.flatMap (contribution file config) := by
  rw [run_eq]
  rfl

/-- While the enabled rules of a registry are run on a schedule, the slots of the rules that are
done hold their violations and the other slots are empty. Whatever the order was, the list at the
end is the one that running the rules one after the other gives. -/
theorem runScheduled_eq_run (registry : Registry) (file : BuildFile) (config : Config)
    (schedule : Schedule (registry.enabled config).value.length) :
    let rules := (registry.enabled config).value
    let job := fun i : Fin rules.length =>
      ((rules.get i).check file (config.options (rules.get i).name)).value
    (∀ (done : Nat) (i : Fin rules.length),
        (Schedule.fill job (Vector.replicate rules.length none) (schedule.order.take done)).get i =
          if i ∈ schedule.order.take done then some (job i) else none) ∧
      registry.runScheduled file config schedule = (registry.run file config).value := by
  intro rules job
  refine ⟨fun done i => schedule.get_fill_take job done i, ?_⟩
  have hcollect : schedule.collect job = rules.map fun rule =>
      (rule.check file (config.options rule.name)).value :=
    schedule.collect_getElem rules fun rule => (rule.check file (config.options rule.name)).value
  calc registry.runScheduled file config schedule
      = (schedule.collect job).flatten := rfl
    _ = rules.flatMap fun rule => (rule.check file (config.options rule.name)).value := by
      rw [hcollect, List.flatMap_def]
    _ = (registry.run file config).value := (registry.value_run file config).symm

end MakeLint.Registry
