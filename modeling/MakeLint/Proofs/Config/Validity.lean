import MakeLint.Loading
import MakeLint.Proofs.Table.Contents
import MakeLint.Proofs.Text.ByteOrder
import MakeLint.Proofs.Text.Splitting
import MakeLint.Proofs.Yaml.Exported

/-!
# Valid configurations

A text writes a flag if it is one of eight words, blanks at its two ends and the case of ASCII
letters aside (`Options.Writes`). A configuration is valid if its version is supported and every
`disabled` in its sections writes a flag; otherwise its failure is its version, or else the first
section whose `disabled` writes none (`Config.failure?_eq_some_iff`). Loading and building give
valid configurations only, and in these every rule is disabled or not as its section says. The main
result is `Config.checked_decides`.
-/

namespace MakeLint

namespace Options

/-- The words that write a flag. -/
def flagWords : Bool → List String
  | true => ["true", "yes", "on", "1"]
  | false => ["false", "no", "off", "0"]

/-- A text writes a flag: without the blanks at its two ends, and with its ASCII letters in lower
case, it is one of the words for the flag. -/
def Writes (raw : String) (flag : Bool) : Prop :=
  ∃ core, Text.Trims raw.toList core ∧ String.ofList (core.map Char.toLower) ∈ flagWords flag

/-- A text writes a flag if its trimmed form is a word for the flag. -/
theorem writes_iff {raw : String} {flag : Bool} : Writes raw flag ↔
    String.ofList ((Text.trim raw.toList).map Char.toLower) ∈ flagWords flag := by
  constructor
  · rintro ⟨core, hcore, hword⟩
    rw [hcore.trim_eq]
    exact hword
  · intro hword
    exact ⟨_, Text.trim_eq_iff.1 rfl, hword⟩

/-- The flag that is read from a text is the one that it writes. -/
theorem readFlag_eq_some_iff {raw : String} {flag : Bool} :
    readFlag raw = some flag ↔ Writes raw flag := by
  rw [writes_iff]
  unfold readFlag
  generalize String.ofList ((Text.trim raw.toList).map Char.toLower) = word
  -- No word is one for both flags.
  have hapart : word ∈ flagWords true → word ∉ flagWords false := by
    intro h
    simp only [flagWords, List.mem_cons, List.not_mem_nil, or_false] at h
    rcases h with rfl | rfl | rfl | rfl <;> decide
  change (if word ∈ flagWords true then some true
    else if word ∈ flagWords false then some false else none) = some flag ↔ word ∈ flagWords flag
  cases flag with
  | true => split <;> simp_all
  | false => split <;> simp_all

/-- Nothing is read from a text exactly if it writes no flag. -/
theorem readFlag_eq_none_iff {raw : String} :
    readFlag raw = none ↔ ∀ flag, ¬ Writes raw flag := by
  rw [Option.eq_none_iff_forall_ne_some]
  exact forall_congr' fun flag => not_congr readFlag_eq_some_iff

end Options

namespace Config

/-- The section of a rule holds a raw `disabled`. -/
def Holds (config : Config) (rule raw : String) : Prop :=
  ∃ options, config.sections.get? rule = some options ∧ options.get? "disabled" = some raw

/-- The section of a rule holds a raw `disabled` that writes no flag. -/
def Unreadable (config : Config) (rule raw : String) : Prop :=
  config.Holds rule raw ∧ ∀ flag, ¬ Options.Writes raw flag

/-- A configuration decides about a rule: it disables the rule if the section of the rule holds a
`disabled` that writes true, and leaves it enabled if there is none or it writes false. -/
structure Decides (config : Config) (rule : String) : Prop where
  disabled_iff : config.disables rule = true ↔
    ∃ raw, config.Holds rule raw ∧ Options.Writes raw true
  enabled_iff : config.disables rule = false ↔
    (∀ raw, ¬ config.Holds rule raw) ∨ ∃ raw, config.Holds rule raw ∧ Options.Writes raw false

/-! ## The first failure -/

/-- What is wrong with a section is its raw `disabled`, if it holds one that writes no flag. -/
theorem unreadableFlag?_eq_some_iff {options : Options} {raw : String} :
    unreadableFlag? options = some raw ↔
      options.get? "disabled" = some raw ∧ ∀ flag, ¬ Options.Writes raw flag := by
  unfold unreadableFlag? disabledKey
  rw [Option.filter_eq_some_iff, Option.isNone_iff_eq_none, Options.readFlag_eq_none_iff]

/-- A `disabled` that writes no flag is what is wrong with the section that holds it. -/
theorem unreadable_iff {config : Config} {rule raw : String} : config.Unreadable rule raw ↔
    ∃ options, config.sections.get? rule = some options ∧ unreadableFlag? options = some raw := by
  unfold Unreadable Holds
  simp only [unreadableFlag?_eq_some_iff]
  constructor
  · rintro ⟨⟨options, hsection, hraw⟩, hnone⟩
    exact ⟨options, hsection, hraw, hnone⟩
  · rintro ⟨options, hsection, hraw, hnone⟩
    exact ⟨⟨options, hsection, hraw⟩, hnone⟩

/-- The failure of the sections is that of the least name whose `disabled` writes no flag. -/
theorem findSome?_sections_eq_some_iff {config : Config} {failure : Failure} :
    (config.sections.toList.findSome? fun (rule, options) =>
      (unreadableFlag? options).map (Failure.unreadableFlag rule)) = some failure ↔
      ∃ rule raw, failure = .unreadableFlag rule raw ∧ config.Unreadable rule raw ∧
        ∀ other raw', config.Unreadable other raw' → other ≠ rule → rule < other := by
  rw [Table.findSome?_toList_eq_some_iff]
  simp only [Option.map_eq_some_iff, Option.map_eq_none_iff]
  constructor
  · rintro ⟨rule, options, hsection, ⟨raw, hraw, rfl⟩, hbelow⟩
    refine ⟨rule, raw, rfl, unreadable_iff.2 ⟨options, hsection, hraw⟩, fun other raw' h hne => ?_⟩
    obtain ⟨options', hsection', hraw'⟩ := unreadable_iff.1 h
    refine Table.lt_of_not_lt_of_ne (fun hlt => ?_) hne
    rw [hbelow other options' hsection' hlt] at hraw'
    cases hraw'
  · rintro ⟨rule, raw, rfl, hunreadable, hleast⟩
    obtain ⟨options, hsection, hraw⟩ := unreadable_iff.1 hunreadable
    refine ⟨rule, options, hsection, ⟨raw, hraw, rfl⟩, fun other options' hsection' hlt => ?_⟩
    rw [Option.eq_none_iff_forall_ne_some]
    intro raw' hraw'
    have habove := hleast other raw' (unreadable_iff.2 ⟨options', hsection', hraw'⟩)
      fun heq => String.lt_irrefl rule (heq ▸ hlt)
    exact String.lt_irrefl rule (String.lt_trans habove hlt)

/-- Nothing is wrong with a configuration exactly if its version is supported and every `disabled`
writes a flag. -/
theorem failure?_eq_none_iff {config : Config} : config.failure? = none ↔
    config.version = "1.0" ∧
      ∀ rule raw, config.Holds rule raw → ∃ flag, Options.Writes raw flag := by
  have hsections : (config.sections.toList.findSome? fun (rule, options) =>
      (unreadableFlag? options).map (Failure.unreadableFlag rule)) = none ↔
        ∀ rule raw, config.Holds rule raw → ∃ flag, Options.Writes raw flag := by
    rw [List.findSome?_eq_none_iff]
    simp only [Option.map_eq_none_iff]
    constructor
    · intro hnone rule raw hholds
      by_contra hwrites
      obtain ⟨options, hsection, hraw⟩ :=
        unreadable_iff.1 ⟨hholds, fun flag hflag => hwrites ⟨flag, hflag⟩⟩
      have hfound := hnone (rule, options) ((Table.get?_eq_some_iff _ rule options).1 hsection)
      rw [hraw] at hfound
      cases hfound
    · rintro hall ⟨rule, options⟩ hmem
      rw [Option.eq_none_iff_forall_ne_some]
      intro raw hraw
      have hsection := (Table.get?_eq_some_iff _ rule options).2 hmem
      obtain ⟨hholds, hnone⟩ := unreadable_iff.2 ⟨options, hsection, hraw⟩
      obtain ⟨flag, hflag⟩ := hall rule raw hholds
      exact hnone flag hflag
  unfold failure? supportedVersion
  split
  next hversion => simp [hversion]
  next hversion => rw [hsections, and_iff_right (not_not.1 hversion)]

/-- With a version that is not supported that is what fails, whatever the sections hold. -/
theorem failure?_of_version {config : Config} (h : config.version ≠ "1.0") :
    config.failure? = some (.unsupportedVersion config.version) := if_pos h

/-- With a supported version the sections fail. -/
theorem failure?_eq_some_iff {config : Config} (h : config.version = "1.0") {failure : Failure} :
    config.failure? = some failure ↔
      ∃ rule raw, failure = .unreadableFlag rule raw ∧ config.Unreadable rule raw ∧
        ∀ other raw', config.Unreadable other raw' → other ≠ rule → rule < other := by
  rw [← findSome?_sections_eq_some_iff]
  exact iff_of_eq (congrArg (· = some failure) (if_neg (not_not_intro h)))

/-! ## Checked configurations -/

/-- A check gives the configuration itself, if nothing is wrong with it. -/
theorem checked_eq_ok_iff {config other : Config} :
    config.checked = .ok other ↔ other = config ∧ config.failure? = none := by
  unfold checked
  cases config.failure? with
  | none => simp [eq_comm]
  | some failure => simp

/-- A check fails with what is wrong with the configuration. -/
theorem checked_eq_error_iff {config : Config} {failure : Failure} :
    config.checked = .error failure ↔ config.failure? = some failure := by
  unfold checked
  cases config.failure? with
  | none => simp
  | some failure => simp

/-- A configuration that is built was checked. -/
theorem failure?_of_build {edits : List Edit} {config : Config} (h : build edits = .ok config) :
    config.failure? = none := by
  obtain ⟨rfl, hnone⟩ := checked_eq_ok_iff.1 h
  exact hnone

/-- A configuration that is loaded was checked. -/
theorem failure?_of_ofYaml {text : String} {config : Config} (h : ofYaml text = .ok config) :
    config.failure? = none := by
  unfold ofYaml at h
  cases hread : (Yaml.read Wire.config text).mapError Failure.noConfig with
  | error failure =>
    rw [hread] at h
    cases h
  | ok read =>
    rw [hread] at h
    obtain ⟨rfl, hnone⟩ := checked_eq_ok_iff.1 h
    exact hnone

/-! ## Disabled rules -/

/-- The option `disabled` of a rule is the raw text that its section holds. -/
theorem get?_options_eq_some_iff {config : Config} {rule raw : String} :
    (config.options rule).get? "disabled" = some raw ↔ config.Holds rule raw := by
  unfold options Holds
  cases config.sections.get? rule <;> simp

/-- A rule whose `disabled` writes a flag is disabled or not as the flag says. -/
theorem disables_of_holds {config : Config} {rule raw : String} {flag : Bool}
    (h : config.Holds rule raw) (hflag : Options.Writes raw flag) :
    config.disables rule = flag := by
  unfold disables Options.flag? disabledKey
  rw [get?_options_eq_some_iff.2 h, Option.bind_some, Options.readFlag_eq_some_iff.2 hflag]
  rfl

/-- A rule without a `disabled` is not disabled. -/
theorem disables_of_not_holds {config : Config} {rule : String}
    (h : ∀ raw, ¬ config.Holds rule raw) : config.disables rule = false := by
  have hnone : (config.options rule).get? "disabled" = none := by
    rw [Option.eq_none_iff_forall_ne_some]
    exact fun raw hraw => h raw (get?_options_eq_some_iff.1 hraw)
  unfold disables Options.flag? disabledKey
  rw [hnone]
  rfl

/-- A configuration with nothing wrong decides about every rule. -/
theorem decides_of_failure? {config : Config} (h : config.failure? = none) (rule : String) :
    config.Decides rule := by
  obtain ⟨-, hreadable⟩ := failure?_eq_none_iff.1 h
  by_cases hholds : ∃ raw, config.Holds rule raw
  · -- The flag that is written is the one that decides, and there is only one.
    obtain ⟨raw, hraw⟩ := hholds
    obtain ⟨flag, hflag⟩ := hreadable rule raw hraw
    have hdisables := disables_of_holds hraw hflag
    constructor
    · constructor
      · intro htrue
        exact ⟨raw, hraw, hdisables.symm.trans htrue ▸ hflag⟩
      · rintro ⟨other, hother, htrue⟩
        exact disables_of_holds hother htrue
    · constructor
      · intro hfalse
        exact .inr ⟨raw, hraw, hdisables.symm.trans hfalse ▸ hflag⟩
      · rintro (hnone | ⟨other, hother, hfalse⟩)
        · exact absurd hraw (hnone raw)
        · exact disables_of_holds hother hfalse
  · have hnone : ∀ raw, ¬ config.Holds rule raw := fun raw hraw => hholds ⟨raw, hraw⟩
    have hdisables := disables_of_not_holds hnone
    constructor
    · rw [hdisables]
      refine iff_of_false (by simp) ?_
      rintro ⟨raw, hraw, -⟩
      exact hnone raw hraw
    · exact iff_of_true hdisables (.inl hnone)

/-! ## Failures of configurations -/

/-- What is wrong with a configuration is a failure of the configuration. -/
theorem area_of_failure? {config : Config} {failure : Failure}
    (h : config.failure? = some failure) : failure.area = .configuration := by
  by_cases hversion : config.version = "1.0"
  · obtain ⟨rule, raw, rfl, -⟩ := (failure?_eq_some_iff hversion).1 h
    rfl
  · rw [failure?_of_version hversion] at h
    cases h
    rfl

/-- The message of a failure of a configuration says so in front of the cause. -/
theorem message_of_area {failure : Failure} (h : failure.area = .configuration) :
    failure.message = "Configuration error: " ++ failure.cause := by
  have hheading : "Configuration error" ++ ": " = "Configuration error: " := by decide
  unfold Failure.message
  rw [h, Area.heading, hheading]

/-- What is accepted as a configuration, and what that is good for. A configuration is accepted
exactly if its version is `1.0` and every `disabled` in its sections writes a flag, and then as it
is. Otherwise it fails as a configuration: with its version if that is not supported, whatever its
sections hold, and else with the least name, by the bytes of the names, whose `disabled` writes no
flag, and with the raw text that it holds. So every configuration that is loaded from a text or
built by a series of edits decides about each rule: it disables the rule if the section of the rule
writes true, and leaves it enabled only if the section has no `disabled` or writes false. -/
theorem checked_decides :
    (∀ config : Config,
      (config.checked = .ok config ↔ config.version = "1.0" ∧
        ∀ rule raw, config.Holds rule raw → ∃ flag, Options.Writes raw flag) ∧
      (∀ other, config.checked = .ok other → other = config) ∧
      (∀ failure, config.checked = .error failure → failure.area = .configuration ∧
        failure.message = "Configuration error: " ++ failure.cause) ∧
      (config.version ≠ "1.0" →
        config.checked = .error (.unsupportedVersion config.version)) ∧
      (config.version = "1.0" → ∀ failure, config.checked = .error failure ↔
        ∃ rule raw, failure = .unreadableFlag rule raw ∧ config.Unreadable rule raw ∧
          ∀ other raw', config.Unreadable other raw' → other ≠ rule →
            Text.bytes rule < Text.bytes other)) ∧
      (∀ version, (Failure.unsupportedVersion version).cause =
        "Unsupported configuration version: " ++ version ++ ". Supported versions: 1.0") ∧
      (∀ rule raw, (Failure.unreadableFlag rule raw).cause =
        "Option 'disabled' of rule '" ++ rule ++ "' must be a boolean, got '" ++ raw ++ "'") ∧
      (∀ text config, ofYaml text = .ok config → ∀ rule, config.Decides rule) ∧
      ∀ edits config, build edits = .ok config → ∀ rule, config.Decides rule := by
  refine ⟨fun config => ⟨?_, ?_, ?_, ?_, ?_⟩, fun _ => rfl, fun _ _ => rfl,
    fun text config h => decides_of_failure? (failure?_of_ofYaml h),
    fun edits config h => decides_of_failure? (failure?_of_build h)⟩
  · rw [checked_eq_ok_iff, failure?_eq_none_iff]
    exact and_iff_right rfl
  · intro other h
    exact (checked_eq_ok_iff.1 h).1
  · intro failure h
    have harea := area_of_failure? (checked_eq_error_iff.1 h)
    exact ⟨harea, message_of_area harea⟩
  · intro hversion
    exact checked_eq_error_iff.2 (failure?_of_version hversion)
  · intro hversion failure
    rw [checked_eq_error_iff, failure?_eq_some_iff hversion]
    simp only [Text.lt_iff_bytes_lt]

/-- Of two sections that write no flag the one of the lesser name fails, though units of 16 bits
would order the names the other way; with another version the sections do not matter. A
configuration that was written and loaded, and one that was built, decide about their rules by what
the sections hold in the end. -/
theorem checked_decides_awkward :
    let broken := (({} : Config).set "😀" "disabled" "maybe").set "\uffff" "disabled" " No!\t"
    let sound := ({} : Config).set "minphony" "disabled" " YES "
    broken.Unreadable "\uffff" " No!\t" ∧
      (∀ other raw', broken.Unreadable other raw' → other ≠ "\uffff" →
        Text.bytes "\uffff" < Text.bytes other) ∧
      ({ broken with version := "2.0" } : Config).checked = .error (.unsupportedVersion "2.0") ∧
      ofYaml sound.text = .ok sound ∧
      (∃ raw, sound.Holds "minphony" raw ∧ Options.Writes raw true) ∧
      ∃ built,
        build [.set "m" "disabled" "never", .set "m" "disabled" "0", .disable "n"] = .ok built ∧
        ((∀ raw, ¬ built.Holds "m" raw) ∨ ∃ raw, built.Holds "m" raw ∧ Options.Writes raw false) ∧
        ∃ raw, built.Holds "n" raw ∧ Options.Writes raw true := by
  intro broken sound
  obtain ⟨hchecked, -, -, hloaded, hbuilt⟩ := checked_decides
  obtain ⟨-, -, -, -, hsections⟩ := hchecked broken
  have hfails : broken.checked = .error (.unreadableFlag "\uffff" " No!\t") := by decide
  obtain ⟨rule, raw, hsame, hunreadable, hleast⟩ := (hsections rfl _).1 hfails
  obtain ⟨rfl, rfl⟩ := Failure.unreadableFlag.inj hsame
  obtain ⟨-, -, -, hversion, -⟩ := hchecked { broken with version := "2.0" }
  have hportable : sound.Portable := ⟨by decide, by decide, by decide, by decide⟩
  have hload : ofYaml sound.text = .ok sound := hportable.ofYaml_text.trans (by decide)
  have hsound := hloaded sound.text sound hload "minphony"
  have hdecides := hbuilt [.set "m" "disabled" "never", .set "m" "disabled" "0", .disable "n"] _ rfl
  exact ⟨hunreadable, hleast, hversion (by decide), hload, hsound.disabled_iff.1 (by decide),
    _, rfl, (hdecides "m").enabled_iff.1 (by decide), (hdecides "n").disabled_iff.1 (by decide)⟩

end Config

end MakeLint
