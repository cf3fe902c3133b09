import MakeLint.Registry

/-!
# The order in which a registry works

A run asks the pipeline of enabled rules and their violations for one violation after the other
until there is none left. The test whether a rule is enabled stands in one stage of the pipeline and
the evaluation of the rule in another one. Both are done to a rule before the next rule is looked at
(`Producer.flatMap_filter`), so that consuming the pipeline tells the events rule by rule
(`Producer.collect_flatMap_ofList`, `Registry.run_eq`): the warning that a rule is passed over
stands between the events of the rules around it. Collecting the enabled rules alone tells all
warnings at once (`Registry.enabled_eq`).
-/

namespace MakeLint

namespace Producer

variable {α β : Type}

/-! ## One value -/

/-- What is told first of all stands before what is told next. -/
theorem telling_telling (first second : List Event) (producer : Producer α) :
    (producer.telling second).telling first = producer.telling (first ++ second) := by
  cases producer with
  | exhausted events => exact congrArg exhausted (List.append_assoc ..).symm
  | yields events value rest => exact congrArg (yields · value rest) (List.append_assoc ..).symm

/-- What a producer tells first, the stage behind it tells first as well. -/
theorem flatMap_telling (f : α → Traced (List β)) (told : List Event) (producer : Producer α) :
    (producer.telling told).flatMap f = (producer.flatMap f).telling told := by
  cases producer with
  | exhausted events => rfl
  | yields events value rest =>
    rw [telling, flatMap, flatMap, telling_telling, List.append_assoc]

/-- What is told first comes before all other events, and no value depends on it. -/
theorem collect_telling (told : List Event) (producer : Producer α) :
    (producer.telling told).collect =
      ⟨producer.collect.value, told ++ producer.collect.events⟩ := by
  cases producer with
  | exhausted events => rfl
  | yields events value rest =>
    rw [telling, collect, collect, List.append_assoc]

/-- Handing out the values of a list tells nothing. -/
theorem collect_yieldingAll (values : List α) (rest : Producer α) :
    (yieldingAll values rest).collect =
      ⟨values ++ rest.collect.value, rest.collect.events⟩ := by
  induction values with
  | nil => rfl
  | cons value values ih =>
    rw [yieldingAll, collect, ih]
    rfl

/-! ## A whole run -/

/-- A test and what is worked out for a value that passes, done to one value. -/
def testing (test : α → Traced Bool) (f : α → Traced (List β)) (value : α) : Traced (List β) :=
  let tested := test value
  if tested.value then ⟨(f value).value, tested.events ++ (f value).events⟩ else ⟨[], tested.events⟩

/-- A test in one stage and the work in the next are done to a value before the next value is looked
at: the two stages are one that does both. -/
theorem flatMap_filter (test : α → Traced Bool) (f : α → Traced (List β)) (producer : Producer α) :
    (producer.filter test).flatMap f = producer.flatMap (testing test f) := by
  induction producer with
  | exhausted events => rfl
  | yields events value rest ih =>
    unfold filter
    dsimp only
    cases h : (test value).value with
    | true =>
      have hwork : testing test f value =
          ⟨(f value).value, (test value).events ++ (f value).events⟩ := if_pos h
      rw [if_pos rfl, flatMap, flatMap, ih, hwork, List.append_assoc]
    | false =>
      have hwork : testing test f value = ⟨[], (test value).events⟩ :=
        if_neg (by rw [h]; exact Bool.false_ne_true)
      rw [if_neg Bool.false_ne_true, flatMap_telling, ih, flatMap, hwork, yieldingAll]

/-- Collecting what is worked out for the values of a list tells the events value by value, in the
order of the list. -/
theorem collect_flatMap_ofList (f : α → Traced (List β)) (values : List α) :
    ((ofList values).flatMap f).collect =
      ⟨values.flatMap fun value => (f value).value,
        values.flatMap fun value => (f value).events⟩ := by
  induction values with
  | nil => rfl
  | cons value values ih =>
    rw [ofList, flatMap, collect_telling, collect_yieldingAll, ih, List.flatMap_cons,
      List.flatMap_cons, List.nil_append]

/-- Collecting the values of a list that pass a test tells the events of all tests, in the order of
the list. -/
theorem collect_filter_ofList (test : α → Traced Bool) (values : List α) :
    ((ofList values).filter test).collect =
      ⟨values.filter fun value => (test value).value, values.flatMap fun value =>
        (test value).events⟩ := by
  induction values with
  | nil => rfl
  | cons value values ih =>
    rw [ofList, filter, List.flatMap_cons, List.nil_append]
    cases h : (test value).value with
    | true =>
      rw [if_pos rfl, collect, ih, List.filter_cons_of_pos (by rw [h])]
    | false =>
      rw [if_neg Bool.false_ne_true, collect_telling, ih, List.filter_cons_of_neg (by simp [h])]

end Producer

namespace Registry

/-- Collecting the enabled rules finds them in order, and tells a warning for each of the others. -/
theorem enabled_eq (registry : Registry) (config : Config) :
    registry.enabled config =
      ⟨registry.rules.filter fun rule => !config.disables rule.name,
        registry.rules.flatMap fun rule =>
          if config.disables rule.name then [.skipped rule.name] else []⟩ :=
  Producer.collect_filter_ofList (isEnabled config) registry.rules

/-- A run takes the rules one by one in the order of registration. A disabled rule is told and finds
nothing; any other rule tells its own events and then how much it found. -/
theorem run_eq (registry : Registry) (file : BuildFile) (config : Config) :
    registry.run file config =
      ⟨registry.rules.flatMap fun rule =>
          if config.disables rule.name then [] else (evaluate file config rule).value,
        registry.rules.flatMap fun rule =>
          if config.disables rule.name then [.skipped rule.name]
          else (evaluate file config rule).events⟩ := by
  have hrule (rule : Rule) : Producer.testing (isEnabled config) (evaluate file config) rule =
      if config.disables rule.name then ⟨[], [.skipped rule.name]⟩
      else evaluate file config rule := by
    unfold Producer.testing isEnabled
    cases config.disables rule.name with
    | true => rfl
    | false => rfl
  unfold run enabledRules
  rw [Producer.flatMap_filter, Producer.collect_flatMap_ofList]
  simp only [hrule, apply_ite]

end Registry

end MakeLint
