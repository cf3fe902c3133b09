import MakeLint.Proofs.FirstOccurrences
import MakeLint.Proofs.Linter.Validation

/-!
# Series of registrations

Rules are registered in place one after the other, and a registration that fails is passed over. Of
several rules with one name the first is registered and the others fail. So the names after a series
are the first occurrences among the names before it and those of the attempts
(`Registry.names_after`), each look-up finds the first rule of its name (`Registry.get?_after`), and
the attempts that succeed make up the same registry by themselves (`Registry.registerAll_accepted`).
The main result is `Registry.after_consistent`.
-/

namespace MakeLint.Registry

/-- The rules of a series of attempts whose attempts succeed. -/
def accepted (registry : Registry) : List Rule → List Rule
  | [] => []
  | rule :: rest =>
    let (failure?, next) := registry.attempt rule
    if failure?.isNone then rule :: next.accepted rest else next.accepted rest

/-! ## One attempt -/

/-- An attempt under a name that is taken fails, names it, and leaves the registry alone. -/
theorem attempt_taken {registry : Registry} {rule : Rule} (h : rule.name ∈ registry.names) :
    registry.attempt rule = (some (.nameTaken rule.name), registry) := by
  unfold attempt register
  rw [dif_neg (not_not_intro h)]

/-- An attempt under a fresh name succeeds, and puts the rule behind the others. -/
theorem attempt_fresh {registry : Registry} {rule : Rule} (h : rule.name ∉ registry.names) :
    registry.attempt rule =
      (none, ⟨registry.rules ++ [rule], distinct_append registry.distinct h⟩) := by
  unfold attempt register
  rw [dif_pos h]

/-- What goes wrong in an attempt, if anything does. -/
theorem attempt_fst (registry : Registry) (rule : Rule) :
    (registry.attempt rule).1 =
      if rule.name ∈ registry.names then some (.nameTaken rule.name) else none := by
  by_cases h : rule.name ∈ registry.names
  · rw [attempt_taken h, if_pos h]
  · rw [attempt_fresh h, if_neg h]

/-- An attempt changes the registry if it succeeds, and only then. -/
theorem attempt_snd_eq_iff (registry : Registry) (rule : Rule) :
    (registry.attempt rule).2 = registry ↔ rule.name ∈ registry.names := by
  by_cases h : rule.name ∈ registry.names
  · rw [attempt_taken h]
    exact iff_of_true rfl h
  · rw [attempt_fresh h]
    refine iff_of_false (fun heq => ?_) h
    have hlength := congrArg (fun registry => registry.rules.length) heq
    simp at hlength

/-- After an attempt the name of its rule is the last one, unless it was there before. -/
theorem names_attempt (registry : Registry) (rule : Rule) :
    (registry.attempt rule).2.names = (registry.names ++ [rule.name]).eraseDups := by
  have hdistinct : registry.names.Nodup := registry.distinct
  rw [eraseDups_append_singleton hdistinct]
  by_cases h : rule.name ∈ registry.names
  · rw [attempt_taken h, if_pos h]
  · rw [attempt_fresh h, if_neg h]
    exact List.map_append

/-- After an attempt a look-up finds what it found before, or else the rule of the attempt under its
name. -/
theorem get?_attempt (registry : Registry) (rule : Rule) (name : String) :
    (registry.attempt rule).2.get? name =
      (registry.get? name).or ([rule].find? (·.name == name)) := by
  by_cases h : rule.name ∈ registry.names
  · rw [attempt_taken h]
    by_cases hname : rule.name = name
    · -- The name is taken, so that a rule of the registry is found first.
      obtain ⟨other, hother, hsame⟩ := List.mem_map.1 h
      have hfound : (registry.get? name).isSome := by
        unfold get?
        rw [List.find?_isSome]
        exact ⟨other, hother, by simp [hsame, hname]⟩
      rw [Option.or_of_isSome hfound]
    · simp [hname]
  · rw [attempt_fresh h]
    exact List.find?_append

/-! ## Series of attempts -/

/-- The names after a series of attempts are the first occurrences among those before it and those
of the attempts. -/
theorem names_after (registry : Registry) (rules : List Rule) :
    (registry.after rules).names = (registry.names ++ rules.map (·.name)).eraseDups := by
  unfold after
  induction rules generalizing registry with
  | nil =>
    rw [List.map_nil, List.append_nil]
    exact (eraseDups_of_nodup registry.distinct).symm
  | cons rule rules ih =>
    rw [List.foldl_cons, ih, names_attempt, eraseDups_eraseDups_append, List.append_assoc]
    rfl

/-- After a series of attempts a look-up finds the first rule of the name among those before it and
those of the attempts. -/
theorem get?_after (registry : Registry) (rules : List Rule) (name : String) :
    (registry.after rules).get? name = (registry.rules ++ rules).find? (·.name == name) := by
  unfold after
  induction rules generalizing registry with
  | nil =>
    rw [List.append_nil]
    rfl
  | cons rule rules ih =>
    rw [List.foldl_cons, ih, List.find?_append]
    have hfirst : (registry.attempt rule).2.rules.find? (·.name == name) = _ :=
      registry.get?_attempt rule name
    have hcons : rule :: rules = [rule] ++ rules := rfl
    rw [hfirst, hcons, List.find?_append, List.find?_append, Option.or_assoc, get?]

/-- Registering the rules whose attempts succeed, and only these, makes the same registry without a
failure. -/
theorem registerAll_accepted (registry : Registry) (rules : List Rule) :
    registry.registerAll (registry.accepted rules) = .ok (registry.after rules) := by
  induction rules generalizing registry with
  | nil => rfl
  | cons rule rules ih =>
    have hafter : registry.after (rule :: rules) = (registry.attempt rule).2.after rules := rfl
    by_cases h : rule.name ∈ registry.names
    · have haccepted : registry.accepted (rule :: rules) = registry.accepted rules := by
        rw [accepted, attempt_taken h]
        rfl
      rw [haccepted, hafter, attempt_taken h, ih]
    · have haccepted : registry.accepted (rule :: rules) =
          rule :: (registry.attempt rule).2.accepted rules := by
        rw [accepted, attempt_fresh h]
        rfl
      have hregister : (registry.register rule).map (·.value) = .ok (registry.attempt rule).2 := by
        rw [attempt_fresh h]
        unfold register
        rw [dif_pos h]
        rfl
      rw [haccepted, hafter, ← ih]
      unfold registerAll
      rw [List.foldlM_cons, hregister]
      rfl

/-! ## What a registry shows -/

/-- A rule is found by its name exactly if it is in the registry. -/
theorem get?_eq_some_iff (registry : Registry) (name : String) (rule : Rule) :
    registry.get? name = some rule ↔ rule ∈ registry.rules ∧ rule.name = name := by
  constructor
  · intro h
    exact ⟨List.mem_of_find?_eq_some h, by simpa using List.find?_some h⟩
  · rintro ⟨hrule, rfl⟩
    -- The rule that is found has the same name, and names are distinct.
    have hfound : (registry.get? rule.name).isSome := by
      unfold get?
      rw [List.find?_isSome]
      exact ⟨rule, hrule, by simp⟩
    obtain ⟨other, hother⟩ := Option.isSome_iff_exists.1 hfound
    have hname : other.name = rule.name := by simpa using List.find?_some hother
    have hsame : other = rule :=
      List.inj_on_of_nodup_map registry.distinct (List.mem_of_find?_eq_some hother) hrule hname
    rw [hother, hsame]

/-- The descriptions stand under the names by which the rules are found. -/
theorem mem_describe_iff (registry : Registry) (name description : String) :
    (name, description) ∈ registry.describe ↔
      ∃ rule, registry.get? name = some rule ∧ rule.description = description := by
  unfold describe
  rw [List.mem_map]
  constructor
  · rintro ⟨rule, hrule, hpair⟩
    obtain ⟨rfl, rfl⟩ := Prod.mk.inj hpair
    exact ⟨rule, (registry.get?_eq_some_iff _ rule).2 ⟨hrule, rfl⟩, rfl⟩
  · rintro ⟨rule, hfound, rfl⟩
    obtain ⟨hrule, rfl⟩ := (registry.get?_eq_some_iff _ rule).1 hfound
    exact ⟨rule, hrule, rfl⟩

/-- The message of a failed attempt. -/
theorem message_nameTaken (name : String) :
    (Failure.nameTaken name).message =
      "Registry error: Rule '" ++ name ++ "' is already registered" := by
  have hheading : "Registry error" ++ ": " ++ "Rule '" = "Registry error: Rule '" := by decide
  calc (Failure.nameTaken name).message
      = "Registry error" ++ ": " ++ ("Rule '" ++ name ++ "' is already registered") := rfl
    _ = "Registry error" ++ ": " ++ "Rule '" ++ name ++ "' is already registered" := by
      simp only [String.append_assoc]
    _ = "Registry error: Rule '" ++ name ++ "' is already registered" := by rw [hheading]

/-- What a registry is after any series of attempts, from the empty registry or any other one on. A
further attempt fails exactly if its name is taken, with a failure that says so, and changes nothing
exactly if it fails. The names are distinct, and are the first occurrences among the names before
the series and those of the attempts; each look-up finds the first rule of its name among all of
these; and the descriptions and the size fit the names. Running the registry is running the one that
is made of the successful attempts alone, none of which fails then. -/
theorem after_consistent (start : Registry) (rules : List Rule) :
    let last := start.after rules
    (∀ rule, (last.attempt rule).1 =
        if rule.name ∈ last.names then some (.nameTaken rule.name) else none) ∧
      (∀ rule, (last.attempt rule).2 = last ↔ rule.name ∈ last.names) ∧
      (∀ name, (Failure.nameTaken name).message =
        "Registry error: Rule '" ++ name ++ "' is already registered") ∧
      last.names.Nodup ∧
      last.names = (start.names ++ rules.map (·.name)).eraseDups ∧
      (∀ name, last.get? name = (start.rules ++ rules).find? (·.name == name)) ∧
      last.describe.map (·.1) = last.names ∧
      (∀ name description, (name, description) ∈ last.describe ↔
        ∃ rule, last.get? name = some rule ∧ rule.description = description) ∧
      last.size = last.names.length ∧
      (last.isEmpty ↔ last.names = []) ∧
      ∃ built, start.registerAll (start.accepted rules) = .ok built ∧
        ∀ file config, last.run file config = built.run file config := by
  intro last
  refine ⟨last.attempt_fst, last.attempt_snd_eq_iff, message_nameTaken, last.distinct,
    start.names_after rules, start.get?_after rules, ?_, last.mem_describe_iff, ?_, ?_,
    last, start.registerAll_accepted rules, fun _ _ => rfl⟩
  · unfold describe names
    rw [List.map_map]
    rfl
  · unfold size names
    rw [List.length_map]
  · unfold isEmpty names
    rw [List.isEmpty_iff, List.map_eq_nil_iff]

end MakeLint.Registry
