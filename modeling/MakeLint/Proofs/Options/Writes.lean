import MakeLint.Proofs.Json.Compact
import MakeLint.Proofs.RoundTrip
import MakeLint.Proofs.Text.ByteOrder
import MakeLint.Proofs.Wire.Records

/-!
# What a series of writes leaves

Options are written one after the other, and of several writes to one key the last one counts
(`Table.LastWrite`). What a series leaves (`Options.LeftBy`) is decided by its last writes alone:
each look-up, the entries in the order of their keys, and so the text. The results are collected in
`Options.written_last_writes`.
-/

namespace MakeLint

namespace Table

variable {α : Type}

/-- The last write to a key in a series writes a value there. -/
def LastWrite (writes : List (String × α)) (key : String) (value : α) : Prop :=
  ∃ before after, writes = before ++ (key, value) :: after ∧ ∀ later ∈ after, later.1 ≠ key

/-- The last write to a key is the last one among the writes to it. -/
theorem lastWrite_iff {writes : List (String × α)} {key : String} {value : α} :
    LastWrite writes key value ↔
      ((writes.filter (·.1 = key)).map (·.2)).getLast? = some value := by
  constructor
  · rintro ⟨before, after, rfl, hlater⟩
    have hnone : after.filter (·.1 = key) = [] := by
      rw [List.filter_eq_nil_iff]
      simpa using hlater
    rw [List.filter_append, List.filter_cons_of_pos (by simp), hnone]
    simp
  · intro h
    -- The last of the writes to the key splits the series at the write that it comes from.
    obtain ⟨values, hvalues⟩ := List.getLast?_eq_some_iff.1 h
    obtain ⟨earlier, last, hwrites, -, hlast⟩ := List.map_eq_append_iff.1 hvalues
    obtain ⟨before, behind, rfl, -, hbehind⟩ := List.filter_eq_append_iff.1 hwrites
    obtain ⟨⟨k, v⟩, rfl, rfl⟩ := List.map_eq_singleton_iff.1 hlast
    obtain ⟨between, after, rfl, -, hkey, hafter⟩ := List.filter_eq_cons_iff.1 hbehind
    obtain rfl : k = key := by simpa using hkey
    refine ⟨before ++ between, after, by simp, ?_⟩
    simpa [List.filter_eq_nil_iff] using hafter

/-- In the table of a series of writes a key has the value of the last write to it. -/
theorem get?_ofList_eq_some_iff (writes : List (String × α)) (key : String) (value : α) :
    (ofList writes).get? key = some value ↔ LastWrite writes key value := by
  rw [get?_ofList, lastWrite_iff]

/-- In the table of a series of writes a key has no value exactly if there is no write to it. -/
theorem get?_ofList_eq_none_iff (writes : List (String × α)) (key : String) :
    (ofList writes).get? key = none ↔ ∀ e ∈ writes, e.1 ≠ key := by
  rw [get?_ofList, List.getLast?_eq_none_iff, List.map_eq_nil_iff, List.filter_eq_nil_iff]
  simp

/-- A table is empty exactly if no key has a value. -/
theorem isEmpty_iff (t : Table α) : t.isEmpty = true ↔ ∀ key, t.get? key = none := by
  unfold isEmpty
  rw [List.isEmpty_iff]
  constructor
  · intro h key
    unfold get?
    rw [h, List.lookup_nil]
  · intro h
    rw [List.eq_nil_iff_forall_not_mem]
    rintro ⟨key, value⟩ he
    have hvalue := (t.get?_eq_some_iff key value).2 he
    rw [h key] at hvalue
    cases hvalue

end Table

namespace Options

open Table (LastWrite)

/-- The options that a series of pairs makes, after further writes. -/
def written (pairs writes : List (String × String)) : Options :=
  writes.foldl (fun o e => o.insert e.1 e.2) (.ofList pairs)

/-- The options are what a series of writes leaves: each key that was written has the value of the
last write to it, and stands at its place in the order of the keys. -/
structure LeftBy (writes : List (String × String)) (o : Options) : Prop where
  get?_eq_some_iff : ∀ key value, o.get? key = some value ↔ LastWrite writes key value
  get?_eq_none_iff : ∀ key, o.get? key = none ↔ ∀ e ∈ writes, e.1 ≠ key
  contains_iff : ∀ key, o.contains key = true ↔ ∃ e ∈ writes, e.1 = key
  mem_toList_iff : ∀ key value, (key, value) ∈ o.toList ↔ LastWrite writes key value
  mem_keys_iff : ∀ key, key ∈ o.keys ↔ ∃ e ∈ writes, e.1 = key
  nodup_keys : o.keys.Nodup
  /-- Keys ascend by the bytes of their encodings. -/
  bytes_lt : o.keys.Pairwise fun a b => Text.bytes a < Text.bytes b
  /-- Keys ascend by their code points. -/
  codePoints_lt : o.keys.Pairwise fun a b => Text.codePoints a < Text.codePoints b
  isEmpty_iff : o.isEmpty = true ↔ writes = []

/-! ## What is left -/

/-- Further writes continue the series of pairs. -/
theorem written_eq (pairs writes : List (String × String)) :
    written pairs writes = .ofList (pairs ++ writes) := by
  unfold written Table.ofList
  rw [List.foldl_append]

/-- The table of a series of writes is what they leave. -/
theorem leftBy_ofList (writes : List (String × String)) : LeftBy writes (.ofList writes) := by
  have hget := Table.get?_ofList_eq_some_iff writes
  have hnone := Table.get?_ofList_eq_none_iff writes
  -- Everything else follows from the look-ups, whatever the table is.
  generalize Table.ofList writes = o at hget hnone
  have hwritten (key : String) : (∃ value, o.get? key = some value) ↔ ∃ e ∈ writes, e.1 = key := by
    rw [← Option.ne_none_iff_exists', Ne, hnone]
    simp
  have hkeys : o.keys.Pairwise (· < ·) := List.pairwise_map.2 o.ascending
  refine ⟨hget, hnone, fun key => ?_, fun key value => ?_, fun key => ?_, ?_, ?_, ?_, ?_⟩
  · rw [← hwritten, Table.contains, Option.isSome_iff_exists]
  · rw [← o.get?_eq_some_iff, hget]
  · rw [o.mem_keys_iff, hwritten]
  · exact hkeys.imp ne_of_lt
  · exact hkeys.imp Text.lt_iff_bytes_lt.1
  · exact hkeys.imp Text.lt_iff_codePoints_lt.1
  · rw [o.isEmpty_iff]
    simp only [hnone]
    constructor
    · intro h
      exact List.eq_nil_iff_forall_not_mem.2 fun e he => h e.1 e he rfl
    · rintro rfl key e he
      cases he

/-- What is left does not depend on the series beyond its last writes. -/
theorem LeftBy.eq_iff {writes others : List (String × String)} {o other : Options}
    (h : LeftBy writes o) (hother : LeftBy others other) :
    o = other ↔ ∀ key value, LastWrite writes key value ↔ LastWrite others key value := by
  constructor
  · rintro rfl key value
    rw [← h.get?_eq_some_iff, hother.get?_eq_some_iff]
  · intro hlast
    refine Table.ext_get? fun key => Option.ext fun value => ?_
    rw [h.get?_eq_some_iff, hother.get?_eq_some_iff, hlast]

/-! ## Texts of options -/

/-- Options are read back from their texts. -/
theorem ofJson_text {o : Options} {text : String}
    (h : text = (Json.ofTable .text o).compact ∨ text = (Json.ofTable .text o).pretty) :
    ofJson text = .ok o := by
  have hspells : (Json.ofTable .text o).draft.SpellsWhole text := Json.spellsWhole_text h
  rw [Json.draft_ofTable] at hspells
  exact (Wire.read_eq _ hspells).trans (Wire.options_eq _ o)

/-- Options with one text are equal. -/
theorem eq_of_text {o other : Options} {text : String}
    (h : text = (Json.ofTable .text o).compact ∨ text = (Json.ofTable .text o).pretty)
    (hother : text = (Json.ofTable .text other).compact ∨
      text = (Json.ofTable .text other).pretty) : o = other :=
  Except.ok.inj ((ofJson_text h).symm.trans (ofJson_text hother))

/-! ## Series of writes -/

/-- Writes to different keys may be swapped. -/
theorem ofList_swap (before after : List (String × String)) {e f : String × String}
    (h : e.1 ≠ f.1) : (.ofList (before ++ e :: f :: after) : Options) =
      .ofList (before ++ f :: e :: after) := by
  refine Table.ext_get? fun key => ?_
  have hfilter : (before ++ e :: f :: after).filter (·.1 = key) =
      (before ++ f :: e :: after).filter (·.1 = key) := by
    simp only [List.filter_append, List.filter_cons]
    split <;> split
    next he hf => exact absurd ((of_decide_eq_true he).trans (of_decide_eq_true hf).symm) h
    all_goals rfl
  rw [Table.get?_ofList, Table.get?_ofList, hfilter]

/-- A write to a key that is written again may be left out. -/
theorem ofList_overwritten (before after : List (String × String)) {e : String × String}
    (h : ∃ later ∈ after, later.1 = e.1) : (.ofList (before ++ e :: after) : Options) =
      .ofList (before ++ after) := by
  refine Table.ext_get? fun key => ?_
  rw [Table.get?_ofList, Table.get?_ofList, List.filter_append, List.filter_append,
    List.filter_cons]
  split
  next he =>
    -- The last write to the key comes later.
    obtain ⟨later, hlater, hkey⟩ := h
    have hmem : later ∈ after.filter (·.1 = key) :=
      List.mem_filter.2 ⟨hlater, decide_eq_true (hkey.trans (of_decide_eq_true he))⟩
    obtain ⟨others, last, hlast⟩ :=
      (List.eq_nil_or_concat _).resolve_left (List.ne_nil_of_mem hmem)
    rw [hlast, List.concat_eq_append, ← List.cons_append]
    simp only [List.map_append, List.map_singleton, ← List.append_assoc, List.getLast?_concat]
  next => rfl

/-! ## Canonical form -/

/-- Options are a table in canonical form. Any series of writes, from nothing or from the options
of any pairs, leaves the last value of each key that was written, at its place in the order of the
keys. Options are equal exactly if they agree on every key, and also exactly if they have the same
entries or the same text; and series leave equal options exactly if they have the same last writes.
So writes to different keys may be swapped, and overwritten ones left out. -/
theorem written_last_writes :
    (∀ writes, written [] writes = writes.foldl (fun o e => o.insert e.1 e.2) .empty) ∧
      (∀ pairs writes, LeftBy (pairs ++ writes) (written pairs writes)) ∧
      (∀ o other : Options, (o = other ↔ ∀ key, o.get? key = other.get? key) ∧
        (o = other ↔ o.toList = other.toList) ∧
        (o = other ↔ (Json.ofTable .text o).compact = (Json.ofTable .text other).compact) ∧
        (o = other ↔ (Json.ofTable .text o).pretty = (Json.ofTable .text other).pretty)) ∧
      (∀ pairs writes pairs' writes', written pairs writes = written pairs' writes' ↔
        ∀ key value, LastWrite (pairs ++ writes) key value ↔
          LastWrite (pairs' ++ writes') key value) ∧
      (∀ pairs before after e f, e.1 ≠ f.1 →
        written pairs (before ++ e :: f :: after) = written pairs (before ++ f :: e :: after)) ∧
      ∀ pairs before after e, (∃ later ∈ after, later.1 = e.1) →
        written pairs (before ++ e :: after) = written pairs (before ++ after) := by
  have hleft (pairs writes : List (String × String)) :
      LeftBy (pairs ++ writes) (written pairs writes) := by
    rw [written_eq]
    exact leftBy_ofList _
  refine ⟨fun writes => rfl, hleft, fun o other => ⟨?_, ?_, ?_, ?_⟩,
    fun pairs writes pairs' writes' => (hleft pairs writes).eq_iff (hleft pairs' writes'),
    fun pairs before after e f h => ?_, fun pairs before after e h => ?_⟩
  · exact ⟨fun h key => h ▸ rfl, Table.ext_get?⟩
  · exact ⟨fun h => h ▸ rfl, Table.ext_toList⟩
  · exact ⟨fun h => h ▸ rfl, fun h => eq_of_text (.inl rfl) (.inl h)⟩
  · exact ⟨fun h => h ▸ rfl, fun h => eq_of_text (.inr rfl) (.inr h)⟩
  · rw [written_eq, written_eq, ← List.append_assoc, ← List.append_assoc]
    exact ofList_swap _ _ h
  · rw [written_eq, written_eq, ← List.append_assoc, ← List.append_assoc]
    exact ofList_overwritten _ _ h

/-- A key beyond `\uffff` stands behind that character, though its halves in UTF-16 are below it. An
overwritten value and the order of writes to different keys leave no trace. -/
theorem written_last_writes_unicode :
    let o := written [("😀", "1"), ("\uffff", "2")] [("z", "3"), ("\uffff", "4"), ("", "5")]
    o.toList = [("", "5"), ("z", "3"), ("\uffff", "4"), ("😀", "1")] ∧
      o = written [("😀", "1"), ("\uffff", "2")] [("\uffff", "4"), ("z", "3"), ("", "5")] ∧
      o = written [("😀", "1")] [("z", "3"), ("\uffff", "4"), ("", "5")] ∧
      LastWrite [("😀", "1"), ("\uffff", "2"), ("z", "3"), ("\uffff", "4"), ("", "5")]
        "\uffff" "4" := by
  intro o
  obtain ⟨-, hleft, -, -, hswap, hoverwritten⟩ := written_last_writes
  refine ⟨by decide, hswap _ [] [("", "5")] ("z", "3") ("\uffff", "4") (by decide), ?_, ?_⟩
  · exact hoverwritten [] [("😀", "1")] [("z", "3"), ("\uffff", "4"), ("", "5")] ("\uffff", "2")
      ⟨("\uffff", "4"), by decide, rfl⟩
  · exact ((hleft _ _).get?_eq_some_iff "\uffff" "4").1 (by decide : o.get? "\uffff" = some "4")

end Options

end MakeLint
