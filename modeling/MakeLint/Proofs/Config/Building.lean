import MakeLint.Proofs.Config.Validity

/-!
# What a series of edits builds

An edit writes a text under a key of a rule, and of several writes to one key of a rule the last one
counts (`Config.Last`). The configuration that a series of edits makes has the sections of the rules
that are mentioned, with the last write to each key in them (`Config.get?_options_made`,
`Config.mem_keys_made`). So it depends on the last writes only, and whether it is valid is a
question about the last writes to `disabled`. The result is `Config.build_last_writes`.
-/

namespace MakeLint.Config

/-- The rule and the key that an edit writes to. -/
def Edit.place : Edit → String × String
  | .set rule key _ => (rule, key)
  | .disable rule => (rule, "disabled")

/-- The text that an edit writes. -/
def Edit.value : Edit → String
  | .set _ _ value => value
  | .disable _ => "true"

/-- The last edit in a series that writes to a key of a rule writes a value there. -/
def Last (edits : List Edit) (rule key value : String) : Prop :=
  ∃ before edit after, edits = before ++ edit :: after ∧ edit.place = (rule, key) ∧
    edit.value = value ∧ ∀ later ∈ after, later.place ≠ (rule, key)

/-- A rule is mentioned if an edit writes to one of its keys. -/
def Mentions (edits : List Edit) (rule : String) : Prop := ∃ edit ∈ edits, edit.place.1 = rule

/-- The last edit that writes to the `disabled` of a rule writes no flag there. -/
def LastUnreadable (edits : List Edit) (rule raw : String) : Prop :=
  Last edits rule "disabled" raw ∧ ∀ flag, ¬ Options.Writes raw flag

/-- The configuration that a series of edits makes, valid or not. -/
def made (edits : List Edit) : Config := edits.foldl apply {}

/-! ## The last write -/

/-- Without edits nothing is written. -/
theorem not_last_nil (rule key value : String) : ¬ Last [] rule key value := by
  rintro ⟨before, edit, after, h, -⟩
  simp at h

/-- A further edit is the last write to its own place, and to any other place the last write is the
one before. -/
theorem last_append_singleton {edits : List Edit} {edit : Edit} {rule key value : String} :
    Last (edits ++ [edit]) rule key value ↔
      if edit.place = (rule, key) then edit.value = value else Last edits rule key value := by
  constructor
  · rintro ⟨before, last, after, hedits, hplace, hvalue, hlater⟩
    rcases List.eq_nil_or_concat after with rfl | ⟨others, other, rfl⟩
    · obtain ⟨-, rfl⟩ := List.append_singleton_inj.1 hedits
      rw [if_pos hplace]
      exact hvalue
    · rw [List.concat_eq_append] at hedits hlater
      rw [← List.cons_append, ← List.append_assoc] at hedits
      obtain ⟨rfl, rfl⟩ := List.append_singleton_inj.1 hedits
      rw [if_neg (hlater edit (by simp))]
      exact ⟨before, last, others, rfl, hplace, hvalue,
        fun later h => hlater later (List.mem_append_left _ h)⟩
  · split
    next hplace =>
      intro hvalue
      exact ⟨edits, edit, [], rfl, hplace, hvalue, by simp⟩
    next hplace =>
      rintro ⟨before, last, after, rfl, hlast, hvalue, hlater⟩
      refine ⟨before, last, after ++ [edit], by simp, hlast, hvalue, fun later h => ?_⟩
      rcases List.mem_append.1 h with h | h
      · exact hlater later h
      · rw [List.mem_singleton.1 h]
        exact hplace

/-- A further edit mentions its own rule. -/
theorem mentions_append_singleton {edits : List Edit} {edit : Edit} {rule : String} :
    Mentions (edits ++ [edit]) rule ↔ Mentions edits rule ∨ edit.place.1 = rule := by
  unfold Mentions
  simp only [List.mem_append, List.mem_singleton, or_and_right, exists_or, exists_eq_left]

/-- A rule is mentioned exactly if one of its keys has a last write. -/
theorem mentions_iff {edits : List Edit} {rule : String} :
    Mentions edits rule ↔ ∃ key value, Last edits rule key value := by
  induction edits using List.reverseRecOn with
  | nil => simp [Mentions, not_last_nil]
  | append_singleton edits edit ih =>
    simp only [mentions_append_singleton, last_append_singleton, ih]
    constructor
    · rintro (⟨key, value, h⟩ | rfl)
      · by_cases hplace : edit.place = (rule, key)
        · exact ⟨key, edit.value, by rw [if_pos hplace]⟩
        · exact ⟨key, value, by rw [if_neg hplace]; exact h⟩
      · exact ⟨edit.place.2, edit.value, by rw [if_pos rfl]⟩
    · rintro ⟨key, value, h⟩
      split at h
      next hplace => exact .inr (by rw [hplace])
      next => exact .inl ⟨key, value, h⟩

/-- Two edits in a row that write to different places may change places. -/
theorem last_swap {a b : Edit} (h : a.place ≠ b.place) (before after : List Edit)
    (rule key value : String) : Last (before ++ a :: b :: after) rule key value ↔
      Last (before ++ b :: a :: after) rule key value := by
  have hsplit (a b : Edit) (after : List Edit) (last : Edit) :
      before ++ a :: b :: (after ++ [last]) = before ++ a :: b :: after ++ [last] := by simp
  induction after using List.reverseRecOn with
  | nil =>
    have hpair (a b : Edit) : before ++ [a, b] = before ++ [a] ++ [b] := by simp
    simp only [hpair, last_append_singleton]
    by_cases ha : a.place = (rule, key)
    · have hb : b.place ≠ (rule, key) := fun hb => h (ha.trans hb.symm)
      rw [if_neg hb, if_pos ha, if_pos ha]
    · simp only [if_neg ha]
  | append_singleton after last ih => simp only [hsplit, last_append_singleton, ih]

/-! ## The configuration that is made -/

/-- An edit sets the value that it writes at its place. -/
theorem apply_eq_set (config : Config) (edit : Edit) :
    config.apply edit = config.set edit.place.1 edit.place.2 edit.value := by
  cases edit <;> rfl

/-- The edits before the last one make a configuration, to which the last one is applied. -/
theorem made_append_singleton (edits : List Edit) (edit : Edit) :
    made (edits ++ [edit]) = (made edits).set edit.place.1 edit.place.2 edit.value := by
  unfold made
  rw [List.foldl_append, List.foldl_cons, List.foldl_nil, apply_eq_set]

/-- The sections after an option was set. -/
theorem get?_sections_set (config : Config) (rule key value other : String) :
    (config.set rule key value).sections.get? other =
      if other = rule then some ((config.options rule).insert key value)
      else config.sections.get? other :=
  Table.get?_insert _ _ _ _

/-- The options of a rule after one of some rule was set. -/
theorem get?_options_set (config : Config) (rule key value other name : String) :
    ((config.set rule key value).options other).get? name =
      if (rule, key) = (other, name) then some value else (config.options other).get? name := by
  unfold options
  rw [get?_sections_set]
  by_cases hrule : other = rule
  · subst hrule
    rw [if_pos rfl, Option.getD_some, Table.get?_insert]
    simp [options, eq_comm]
  · rw [if_neg hrule, if_neg fun h => hrule (congrArg Prod.fst h).symm]

/-- Edits leave the version alone. -/
theorem version_made (edits : List Edit) : (made edits).version = "1.0" := by
  induction edits using List.reverseRecOn with
  | nil => rfl
  | append_singleton edits edit ih =>
    rw [made_append_singleton]
    exact ih

/-- Each key of a rule has the value that was written last. -/
theorem get?_options_made (edits : List Edit) (rule key value : String) :
    ((made edits).options rule).get? key = some value ↔ Last edits rule key value := by
  induction edits using List.reverseRecOn with
  | nil => exact iff_of_false (by simp [made, options]) (not_last_nil rule key value)
  | append_singleton edits edit ih =>
    rw [made_append_singleton, get?_options_set, last_append_singleton, ← ih]
    split <;> simp

/-- There is a section for each rule that is mentioned, and for no other one. -/
theorem mem_keys_made (edits : List Edit) (rule : String) :
    rule ∈ (made edits).sections.keys ↔ Mentions edits rule := by
  rw [Table.mem_keys_iff]
  induction edits using List.reverseRecOn with
  | nil => simp [made, Mentions]
  | append_singleton edits edit ih =>
    rw [made_append_singleton, mentions_append_singleton, ← ih, get?_sections_set]
    by_cases hrule : rule = edit.place.1
    · simp [hrule]
    · simp [hrule, Ne.symm hrule]

/-- The section of a rule that has one holds the options of the rule. -/
theorem get?_sections_eq_some_iff {config : Config} {rule : String} {section' : Options} :
    config.sections.get? rule = some section' ↔
      rule ∈ config.sections.keys ∧ config.options rule = section' := by
  rw [Table.mem_keys_iff]
  unfold options
  cases config.sections.get? rule <;> simp

/-- Series of edits with the same last writes make the same configuration. -/
theorem made_congr {edits others : List Edit}
    (h : ∀ rule key value, Last edits rule key value ↔ Last others rule key value) :
    made edits = made others := by
  have hoptions (rule : String) : (made edits).options rule = (made others).options rule := by
    refine Table.ext_get? fun key => Option.ext fun value => ?_
    rw [get?_options_made, get?_options_made, h]
  have hkeys (rule : String) :
      rule ∈ (made edits).sections.keys ↔ rule ∈ (made others).sections.keys := by
    simp only [mem_keys_made, mentions_iff, h]
  have hsections : (made edits).sections = (made others).sections := by
    refine Table.ext_get? fun rule => Option.ext fun section' => ?_
    rw [get?_sections_eq_some_iff, get?_sections_eq_some_iff, hkeys, hoptions]
  have hversion : (made edits).version = (made others).version := by
    rw [version_made, version_made]
  calc made edits = ⟨(made edits).version, (made edits).sections⟩ := rfl
    _ = ⟨(made others).version, (made others).sections⟩ := by rw [hversion, hsections]
    _ = made others := rfl

/-! ## Building -/

/-- What the section of a rule holds as `disabled` is the last write to it. -/
theorem holds_made_iff {edits : List Edit} {rule raw : String} :
    (made edits).Holds rule raw ↔ Last edits rule "disabled" raw := by
  rw [← get?_options_eq_some_iff, get?_options_made]

/-- A series of edits builds the configuration that it makes, if every last write to a `disabled`
writes a flag. -/
theorem build_eq_ok_iff {edits : List Edit} {config : Config} :
    build edits = .ok config ↔ config = made edits ∧
      ∀ rule raw, Last edits rule "disabled" raw → ∃ flag, Options.Writes raw flag := by
  refine checked_eq_ok_iff.trans (and_congr_right fun _ => failure?_eq_none_iff.trans ?_)
  change (made edits).version = "1.0" ∧ (∀ rule raw, (made edits).Holds rule raw → _) ↔ _
  simp only [version_made, true_and, holds_made_iff]

/-- A series of edits fails with the least rule whose last write to `disabled` writes no flag. -/
theorem build_eq_error_iff {edits : List Edit} {failure : Failure} :
    build edits = .error failure ↔
      ∃ rule raw, failure = .unreadableFlag rule raw ∧ LastUnreadable edits rule raw ∧
        ∀ other raw', LastUnreadable edits other raw' → other ≠ rule → rule < other := by
  have hunreadable (rule raw : String) :
      (made edits).Unreadable rule raw ↔ LastUnreadable edits rule raw := by
    unfold Unreadable LastUnreadable
    rw [holds_made_iff]
  refine checked_eq_error_iff.trans ((failure?_eq_some_iff (version_made edits)).trans ?_)
  simp only [hunreadable]

/-- What a series of edits builds is a matter of the last write to each key of each rule. It builds
a configuration exactly if the last write to each `disabled` writes a flag, whatever was written
there before. Otherwise it fails with the least rule, by the bytes of the names, for which it
writes none, and never with the version. What is built has the sections of the rules that are
mentioned, and in them what was written last under each key and nothing else. So series with the
same last writes build the same configuration, of the same text to the byte, or fail alike, and two
edits in a row may change places if they write to different keys or rules. -/
theorem build_last_writes :
    (∀ edits : List Edit,
      ((∃ config, build edits = .ok config) ↔
        ∀ rule raw, Last edits rule "disabled" raw → ∃ flag, Options.Writes raw flag) ∧
      (∀ failure, build edits = .error failure ↔
        ∃ rule raw, failure = .unreadableFlag rule raw ∧ LastUnreadable edits rule raw ∧
          ∀ other raw', LastUnreadable edits other raw' → other ≠ rule →
            Text.bytes rule < Text.bytes other) ∧
      (∀ version, build edits ≠ .error (.unsupportedVersion version)) ∧
      ∀ config, build edits = .ok config → config.version = "1.0" ∧
        (∀ rule, rule ∈ config.sections.keys ↔ Mentions edits rule) ∧
        ∀ rule section', config.sections.get? rule = some section' →
          ∀ key value, section'.get? key = some value ↔ Last edits rule key value) ∧
      (∀ edits others : List Edit,
        (∀ rule key value, Last edits rule key value ↔ Last others rule key value) →
          build edits = build others ∧ ∀ config other, build edits = .ok config →
            build others = .ok other → Text.bytes config.text = Text.bytes other.text) ∧
      ∀ (before after : List Edit) (a b : Edit), a.place ≠ b.place →
        build (before ++ a :: b :: after) = build (before ++ b :: a :: after) := by
  have hbuild {edits others : List Edit}
      (h : ∀ rule key value, Last edits rule key value ↔ Last others rule key value) :
      build edits = build others := congrArg checked (made_congr h)
  refine ⟨fun edits => ⟨?_, ?_, ?_, ?_⟩, fun edits others h => ⟨hbuild h, ?_⟩,
    fun before after a b h => hbuild (last_swap h before after)⟩
  · simp only [build_eq_ok_iff, exists_eq_left]
  · intro failure
    simp only [build_eq_error_iff, Text.lt_iff_bytes_lt]
  · intro version hversion
    obtain ⟨rule, raw, h, -⟩ := build_eq_error_iff.1 hversion
    cases h
  · intro config hconfig
    obtain ⟨rfl, -⟩ := build_eq_ok_iff.1 hconfig
    refine ⟨version_made edits, mem_keys_made edits, fun rule section' hsection key value => ?_⟩
    obtain ⟨-, rfl⟩ := get?_sections_eq_some_iff.1 hsection
    exact get?_options_made edits rule key value
  · intro config other hconfig hother
    rw [hbuild h, hother] at hconfig
    rw [Except.ok.inj hconfig]

/-- An unreadable `disabled` that is overwritten does no harm, and leaving out what is overwritten
or exchanging edits of one rule to two keys builds the same. Where two rules keep an unreadable one
the lesser name fails, though units of 16 bits would order the names the other way. -/
theorem build_last_writes_overwritten :
    let edits : List Edit := [.set "n" "disabled" "maybe", .set "n" "required" "a", .disable "n"]
    let others : List Edit := [.set "n" "required" "a", .disable "n"]
    let broken : List Edit := [.set "😀" "disabled" "maybe", .set "\uffff" "disabled" " No!\t"]
    (∀ rule raw, Last edits rule "disabled" raw → ∃ flag, Options.Writes raw flag) ∧
      build edits = build others ∧
      (∃ config section', build edits = .ok config ∧ config.sections.get? "n" = some section' ∧
        Last edits "n" "disabled" "true" ∧ Last edits "n" "required" "a") ∧
      build [.disable "n", .set "n" "required" "a"] = build others ∧
      LastUnreadable broken "\uffff" " No!\t" := by
  intro edits others broken
  obtain ⟨hbuild, hsame, hswap⟩ := build_last_writes
  obtain ⟨hok, -, -, hsections⟩ := hbuild edits
  obtain ⟨-, herror, -, -⟩ := hbuild broken
  have hmade : made edits = made others := by decide
  have hlast (rule key value : String) :
      Last edits rule key value ↔ Last others rule key value := by
    rw [← get?_options_made, hmade, get?_options_made]
  have hedits : build edits = .ok (made edits) := by decide
  obtain ⟨-, -, hkeys⟩ := hsections _ hedits
  have hsection : (made edits).sections.get? "n" = some ((made edits).options "n") := by decide
  have hkey := hkeys "n" _ hsection
  have hfails : build broken = .error (.unreadableFlag "\uffff" " No!\t") := by decide
  obtain ⟨rule, raw, hfailure, hunreadable, -⟩ := (herror _).1 hfails
  obtain ⟨rfl, rfl⟩ := Failure.unreadableFlag.inj hfailure
  exact ⟨hok.1 ⟨_, hedits⟩, (hsame edits others hlast).1,
    ⟨_, _, hedits, hsection, (hkey _ _).1 (by decide), (hkey _ _).1 (by decide)⟩,
    hswap [] [] (.disable "n") (.set "n" "required" "a") (by decide), hunreadable⟩

end MakeLint.Config
