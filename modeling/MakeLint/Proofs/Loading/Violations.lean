import MakeLint.Proofs.Json.Compact
import MakeLint.Proofs.Json.Numbers
import MakeLint.Proofs.RoundTrip
import MakeLint.Proofs.Wire.Records

/-!
# Which JSON numbers are lines

The line of a violation is a number on the wire. A negative integer of 64 bits stands for no line,
and an integer of 32 bits without a sign for a line (`Draft.IsLine`). Every other literal is
refused, however long it is (`Literal.BeyondLines`), and so is everything that is no number. What is
written for a line is read as that line again. The result is `Violation.ofJson_line`.
-/

namespace MakeLint

open Json (Draft Literal Spot)

namespace Json

/-- A number that stands for a line, or for none. -/
inductive Draft.IsLine : Option UInt32 → Draft → Prop
  | absent {l : Literal} {n : Int} (value : l.IsInteger n) (fits : n ∈ Width.signed64)
      (negative : n < 0) : IsLine none (.number l)
  | line {l : Literal} {v : UInt32} (value : l.IsInteger v.toNat) : IsLine (some v) (.number l)

/-- A violation is a record of its rule, its message, its file and its line. -/
def Draft.IsViolation (v : Violation) : Draft → Prop :=
  IsRecord [("rule", required (IsText v.rule)), ("violation", required (IsText v.message)),
    ("file_name", required (IsText v.file)), ("line_number", required (IsLine v.line))]

/-- The parts of a violation of which the line is not known to be one. -/
def Draft.violationParts (rule message file : String) (line : Option Draft) :
    List (String × Option Draft) :=
  [("rule", some (.text (some rule))), ("violation", some (.text (some message))),
    ("file_name", some (.text (some file))), ("line_number", line)]

/-- The literals that stand neither for a line nor for none: there is a fraction, an exponent, a
minus sign in front of a zero, or an integer beyond the range. -/
inductive Literal.BeyondLines (l : Literal) : Prop
  | fraction (present : l.fraction ≠ none)
  | exponent (present : l.exponent ≠ none)
  | negativeZero (negative : l.negative = true) (zero : l.magnitude = 0)
  | below (negative : l.negative = true) (great : 2 ^ 63 < l.magnitude)
  | above (positive : l.negative = false) (great : 2 ^ 32 ≤ l.magnitude)

/-- With the parts of a violation, what stands in the place of the line decides which violation it
is, if any. -/
theorem Draft.HasParts.isViolation_iff {d : Draft} {rule message file : String}
    {line : Option Draft} (h : d.HasParts (violationParts rule message file line)) (v : Violation) :
    d.IsViolation v ↔ rule = v.rule ∧ message = v.message ∧ file = v.file ∧
      ∃ item, line = some item ∧ item.IsLine v.line := by
  have hline : required (IsLine v.line) line ↔ ∃ item, line = some item ∧ item.IsLine v.line := by
    cases line <;> simp [required, optional]
  rw [← hline]
  refine (h.isRecord_iff (by rfl)).trans ?_
  simp [violationParts, required, optional, IsText]

/-- A number below `2 ^ 32` is that of its line. -/
theorem toNat_line {n : Int} (low : 0 ≤ n) (high : n < 2 ^ 32) :
    ((UInt32.ofNat n.toNat).toNat : Int) = n := by
  rw [UInt32.toNat_ofNat']
  omega

/-- Only a number stands for a line or for none. -/
theorem Draft.IsLine.exists_number {line : Option UInt32} {d : Draft} (h : d.IsLine line) :
    ∃ l, d = .number l := by
  cases h <;> exact ⟨_, rfl⟩

/-- None is meant by the integers of 64 bits below zero. -/
theorem Draft.isLine_none_iff {l : Literal} :
    IsLine none (.number l) ↔ ∃ n, l.IsInteger n ∧ -2 ^ 63 ≤ n ∧ n ≤ -1 := by
  constructor
  · rintro ⟨value, fits, negative⟩
    rw [Width.mem_signed64] at fits
    exact ⟨_, value, by omega, by omega⟩
  · rintro ⟨n, value, low, high⟩
    exact .absent value (Width.mem_signed64.2 (by omega)) (by omega)

/-- A number stands for a line exactly if its literal writes it. -/
theorem Draft.isLine_some_iff {l : Literal} {v : UInt32} :
    IsLine (some v) (.number l) ↔ l.IsInteger v.toNat := by
  constructor
  · rintro ⟨⟩
    assumption
  · exact .line

/-- The numbers that stand for a line or for none are the integers from the least one of 64 bits to
the greatest one of 32 bits. -/
theorem Draft.exists_isLine_iff {l : Literal} :
    (∃ line, IsLine line (.number l)) ↔ ∃ n, l.IsInteger n ∧ -2 ^ 63 ≤ n ∧ n < 2 ^ 32 := by
  constructor
  · rintro ⟨_ | v, hline⟩
    · obtain ⟨n, value, low, high⟩ := isLine_none_iff.1 hline
      exact ⟨n, value, low, by omega⟩
    · have hlt := v.toNat_lt
      exact ⟨v.toNat, isLine_some_iff.1 hline, by omega, by omega⟩
  · rintro ⟨n, value, low, high⟩
    by_cases hn : n < 0
    · exact ⟨none, isLine_none_iff.2 ⟨n, value, low, by omega⟩⟩
    · refine ⟨some (UInt32.ofNat n.toNat), isLine_some_iff.2 ?_⟩
      rwa [toNat_line (by omega) high]

/-- The other literals are those that write no integer in this range. -/
theorem Literal.beyondLines_iff {l : Literal} :
    l.BeyondLines ↔ ¬ ∃ n, l.IsInteger n ∧ -2 ^ 63 ≤ n ∧ n < 2 ^ 32 := by
  constructor
  · rintro hbeyond ⟨n, value, low, high⟩
    have hn := value.eq_signed
    -- Each case contradicts one of the conditions on the literal of an integer in the range.
    cases hbeyond with
    | fraction present => exact present value.fraction
    | exponent present => exact present value.exponent
    | negativeZero negative zero =>
      rw [if_pos negative] at hn
      exact value.notNegativeZero negative (by omega)
    | below negative great =>
      rw [if_pos negative] at hn
      omega
    | above positive great =>
      rw [if_neg (by simp [positive])] at hn
      omega
  · intro hnone
    by_contra hbeyond
    have hfraction : l.fraction = none := not_not.1 fun h => hbeyond (.fraction h)
    have hexponent : l.exponent = none := not_not.1 fun h => hbeyond (.exponent h)
    cases hsign : l.negative with
    | true =>
      have hpos : l.magnitude ≠ 0 := fun h => hbeyond (.negativeZero hsign h)
      have hle : ¬ 2 ^ 63 < l.magnitude := fun h => hbeyond (.below hsign h)
      exact hnone ⟨-(l.magnitude : Int), ⟨hfraction, hexponent, by simp [hsign], fun _ => by omega⟩,
        by omega, by omega⟩
    | false =>
      have hlt : ¬ 2 ^ 32 ≤ l.magnitude := fun h => hbeyond (.above hsign h)
      exact hnone ⟨l.magnitude, ⟨hfraction, hexponent, by simp [hsign], by simp [hsign]⟩,
        by omega, by omega⟩

end Json

/-! ## Reading -/

namespace Wire

/-- An integer of 64 bits with a sign is read exactly where one stands. -/
theorem signed_eq_ok_iff {d : Draft} {room : Nat} {n : Int} :
    (Source.signed (⟨d, room⟩ : Spot) : Except Fault Int) = .ok n ↔
      ∃ l : Literal, d = .number l ∧ l.IsInteger n ∧ n ∈ Width.signed64 := by
  change Spot.signed ⟨d, room⟩ = .ok n ↔ _
  cases d with
  | number l =>
    constructor
    · intro h
      unfold Spot.signed at h
      dsimp only at h
      split at h
      next m hvalue =>
        have value : l.IsInteger m := ((l.value?_eq_some_integer_iff m).1 hvalue).1
        split at h
        next fits =>
          obtain rfl := Except.ok.inj h
          exact ⟨l, rfl, value, fits⟩
        next => cases h
      next => exact absurd h (wrongKind_ne_ok _ _)
    · rintro ⟨_, ⟨⟩, value, fits⟩
      have hvalue := (l.value?_eq_some_integer_iff n).2 ⟨value, .inl fits⟩
      unfold Spot.signed
      simp only [hvalue, if_pos fits]
  | _ => exact iff_of_false (wrongKind_ne_ok _ _) nofun

/-- A line is read exactly where a number stands for one, and none where one stands for none. -/
theorem line_eq_ok_iff {d : Draft} {room : Nat} {found : Option UInt32} :
    line (⟨d, room⟩ : Spot) = .ok found ↔ d.IsLine found := by
  refine bind_eq_ok_iff.trans ⟨?_, ?_⟩
  · rintro ⟨n, hread, hline⟩
    obtain ⟨l, rfl, value, fits⟩ := signed_eq_ok_iff.1 hread
    split at hline
    next negative =>
      obtain rfl := Except.ok.inj hline
      exact .absent value fits negative
    next =>
      split at hline
      next hmem =>
        rw [Width.mem_unsigned32] at hmem
        obtain rfl := Except.ok.inj hline
        refine .line ?_
        rwa [Json.toNat_line hmem.1 (by omega)]
      next => cases hline
  · rintro (⟨value, fits, negative⟩ | @⟨l, v, value⟩)
    · exact ⟨_, signed_eq_ok_iff.2 ⟨_, rfl, value, fits⟩, if_pos negative⟩
    · -- A line is not negative, and fits with a sign.
      have hlt := v.toNat_lt
      have fits : (v.toNat : Int) ∈ Width.signed64 := Width.mem_signed64.2 (by omega)
      have hmem : (v.toNat : Int) ∈ Width.unsigned32 := Width.mem_unsigned32.2 (by omega)
      refine ⟨_, signed_eq_ok_iff.2 ⟨_, rfl, value, fits⟩, ?_⟩
      rw [if_neg (by omega), if_pos hmem, Int.toNat_natCast, UInt32.ofNat_toNat]
      rfl

/-- A violation is read exactly where one stands. -/
theorem violation_eq_ok_iff {room : Nat} (v : Violation) (d : Draft) (hwhole : d.whole = true) :
    violation (⟨d, room + 1⟩ : Spot) = .ok v ↔ d.IsViolation v := by
  refine record_made_eq_ok_iff [String, String, String, Option UInt32]
    (fun values => Violation.mk values.1 values.2.1 values.2.2.1 values.2.2.2.1)
    (fun v => (v.rule, v.message, v.file, v.line, ())) (fun _ => rfl) (fun _ => rfl)
    (by decide) ?_ hwhole
  exact .cons (alike_required fun _ _ => text_eq_ok_iff)
    (.cons (alike_required fun _ _ => text_eq_ok_iff)
      (.cons (alike_required fun _ _ => text_eq_ok_iff)
        (.cons (alike_required fun _ _ => line_eq_ok_iff) .nil)))

end Wire

namespace Violation

section Parts

variable {d : Draft} {text rule message file : String} {line : Option Draft}

/-- A JSON text with the parts of a violation is read as the violation that has them, if there is
one. -/
theorem ofJson_eq_ok_iff (h : d.SpellsWhole text)
    (hparts : d.HasParts (Draft.violationParts rule message file line)) (v : Violation) :
    ofJson text = .ok v ↔ rule = v.rule ∧ message = v.message ∧ file = v.file ∧
      ∃ item, line = some item ∧ item.IsLine v.line := by
  have hread : ofJson text = Wire.violation (⟨d, Json.maxLevels⟩ : Spot) := Wire.read_eq _ h
  rw [hread, ← hparts.isViolation_iff]
  exact Wire.violation_eq_ok_iff v d h.whole_eq

/-- A violation whose line is a number is read with the lines that the number stands for. -/
theorem ofJson_number_eq_ok_iff (h : d.SpellsWhole text) {l : Literal}
    (hparts : d.HasParts (Draft.violationParts rule message file (some (.number l))))
    (found : Option UInt32) :
    ofJson text = .ok ⟨rule, message, file, found⟩ ↔ Draft.IsLine found (.number l) := by
  rw [ofJson_eq_ok_iff h hparts]
  simp

/-- A violation is refused exactly if what is in the place of its line stands neither for a line nor
for none. -/
theorem exists_error_iff (h : d.SpellsWhole text)
    (hparts : d.HasParts (Draft.violationParts rule message file line)) :
    (∃ fault, ofJson text = .error fault) ↔
      ¬ ∃ item found, line = some item ∧ item.IsLine found := by
  have hrefused : (∃ fault, ofJson text = .error fault) ↔ ∀ v, ofJson text ≠ .ok v := by
    cases ofJson text <;> simp
  -- The other fields are those of the text, so it is the line that is missing.
  rw [hrefused]
  constructor
  · rintro hnone ⟨item, found, hitem, hline⟩
    exact hnone ⟨rule, message, file, found⟩
      ((ofJson_eq_ok_iff h hparts _).2 ⟨rfl, rfl, rfl, item, hitem, hline⟩)
  · intro hnone v hv
    obtain ⟨-, -, -, item, hitem, hline⟩ := (ofJson_eq_ok_iff h hparts v).1 hv
    exact hnone ⟨item, v.line, hitem, hline⟩

end Parts

/-! ## Writing -/

/-- The numeral that is written for the line. -/
theorem decimalInt_wireLine (v : Violation) : Text.decimalInt v.wireLine =
    (v.line.elim "-1" fun n => toString n.toNat).toList := by
  have hnumeral := congrArg String.toList (Json.ofList_decimalInt v.wireLine)
  rw [String.toList_ofList] at hnumeral
  rw [hnumeral]
  unfold wireLine
  cases v.line <;> rfl

/-- The numeral of an integer of 64 bits writes that integer. -/
theorem isInteger_ofInt {n : Int} (h : n ∈ Width.signed64) : (Literal.ofInt n).IsInteger n :=
  ((Literal.value?_eq_some_integer_iff _ _).1 (Json.value?_ofInt (.inl h))).1

/-! ## Lines on the wire -/

/-- What a violation with a number in the place of its line is read as. An integer literal from
`-2 ^ 63` to `-1` is read as no line and one from `0` to `2 ^ 32 - 1` as that line; every other
literal is refused, and so is a violation with anything else in this place, or with nothing. A
violation is written with the numeral of its line, or with `-1`, and read back as it was. -/
theorem ofJson_line :
    (∀ (d : Draft) (text rule message file : String) (l : Literal), d.SpellsWhole text →
      d.HasParts (Draft.violationParts rule message file (some (.number l))) →
        (ofJson text = .ok ⟨rule, message, file, none⟩ ↔
          ∃ n, l.IsInteger n ∧ -2 ^ 63 ≤ n ∧ n ≤ -1) ∧
        (∀ v : UInt32, ofJson text = .ok ⟨rule, message, file, some v⟩ ↔ l.IsInteger v.toNat) ∧
        ((∃ fault, ofJson text = .error fault) ↔ l.BeyondLines)) ∧
      (∀ (d : Draft) (text rule message file : String) (part : Option Draft), d.SpellsWhole text →
        d.HasParts (Draft.violationParts rule message file part) →
          (∀ l, part ≠ some (.number l)) → ∃ fault, ofJson text = .error fault) ∧
      ∀ (v : Violation) (text : String), text = v.toJson.compact ∨ text = v.toJson.pretty →
        ofJson text = .ok v ∧ ∃ l : Literal,
          (Draft.object [(some "rule", .text (some v.rule)),
            (some "violation", .text (some v.message)), (some "file_name", .text (some v.file)),
            (some "line_number", .number l)] true).SpellsWhole text ∧
          l.Spells (v.line.elim "-1" fun n => toString n.toNat).toList ∧
          l.IsInteger v.wireLine := by
  refine ⟨fun d text rule message file l h hparts => ?_, fun d text rule message file part h hparts
    hnumber => ?_, fun v text htext => ?_⟩
  · have hread := ofJson_number_eq_ok_iff h hparts
    refine ⟨(hread none).trans Draft.isLine_none_iff,
      fun v => (hread (some v)).trans Draft.isLine_some_iff, ?_⟩
    rw [exists_error_iff h hparts, Literal.beyondLines_iff, ← Draft.exists_isLine_iff]
    simp
  · rw [exists_error_iff h hparts]
    rintro ⟨item, found, rfl, hline⟩
    obtain ⟨l, rfl⟩ := hline.exists_number
    exact hnumber l rfl
  · have hspells : v.toJson.draft.SpellsWhole text := Json.spellsWhole_text htext
    refine ⟨(Wire.read_eq _ hspells).trans (Wire.violation_eq v _), _, hspells, ?_,
      isInteger_ofInt (Wire.wireLine_mem_signed64 v)⟩
    rw [← decimalInt_wireLine]
    exact Json.spells_decimalInt _

/-! ## A violation with several lines -/

/-- The members of a violation other than its line. -/
def others : List (Option String × Draft) :=
  [(some "rule", .text (some "r")), (some "violation", .text (some "")),
    (some "file_name", .text (some "a.mk"))]

/-- The text of these members, up to the closing bracket. -/
def othersText : String := "\"rule\":\"r\",\"violation\":\"\",\"file_name\":\"a.mk\"\x7d"

/-- The violation with a value in the place of its line, in front of the other members, or with
nothing there. -/
def lined (line : Option Draft) : Draft :=
  .object (line.toList.map (some "line_number", ·) ++ others) true

/-- The text of the violation with a value in the place of its line. -/
def linedText (value : String) : String :=
  "\x7b\"line_number\":" ++ value ++ "," ++ othersText

/-- The text of the violation without a line. -/
def unlinedText : String := "\x7b" ++ othersText

/-- The text spells the members, behind what may stand before them. -/
theorem spells_others {first : Bool} {lead : List Char} (hlead : Json.Lead first lead) :
    Draft.SpellsMembers first others (lead ++ othersText.toList) := by
  have hspells := Json.spells_compactMembers
    [("rule", .text "r"), ("violation", .text ""), ("file_name", .text "a.mk")] hlead
  rw [if_neg (List.cons_ne_nil _ _), List.append_assoc] at hspells
  exact hspells

/-- The text spells the violation with a value in the place of its line. -/
theorem spells_lined {line : Draft} {value : String} (h : line.Spells value.toList) :
    (lined (some line)).SpellsWhole (linedText value) := by
  have hmembers := Json.spellsMembers_quote Json.lead_nil "line_number" h
    (spells_others Json.lead_comma)
  refine (Draft.spells_object hmembers).spellsWhole ?_
  unfold linedText
  simp only [String.toList_append, List.append_assoc]
  rfl

/-- The text spells the violation without a line. -/
theorem spells_unlined : (lined none).SpellsWhole unlinedText :=
  (Draft.spells_object (spells_others Json.lead_nil)).spellsWhole (by decide)

/-- The violation has its parts under their names. -/
theorem hasParts_lined (line : Option Draft) :
    (lined line).HasParts (Draft.violationParts "r" "" "a.mk" line) := by
  refine .named (by cases line <;> simp [others]) ?_
  simp only [Draft.violationParts, List.map_cons, List.map_nil, List.forall_mem_cons,
    List.not_mem_nil, false_implies, implies_true, and_true]
  cases line <;> exact ⟨⟨_, rfl, rfl⟩, ⟨_, rfl, rfl⟩, ⟨_, rfl, rfl⟩, ⟨_, rfl, rfl⟩⟩

/-- The literal `1e2`. -/
def hundred : Literal := ⟨false, [1], none, some (false, [2])⟩

/-- The literal `-0`. -/
def negativeZero : Literal := ⟨true, [0], none, none⟩

/-- The numeral spells the literal. -/
theorem spells_hundred : hundred.Spells "1e2".toList := by
  have hone : Json.SpellsDigits [1] ['1'] := ⟨nofun, by simp, rfl⟩
  have htwo : Json.SpellsDigits [2] ['2'] := ⟨nofun, by simp, rfl⟩
  exact Literal.spells_mk false hone nofun .absent (.present (.inl rfl) .bare htwo)

/-- The numeral spells the literal. -/
theorem spells_negativeZero : negativeZero.Spells "-0".toList := by
  have hzero : Json.SpellsDigits [0] ['0'] := ⟨nofun, by simp, rfl⟩
  exact Literal.spells_mk true hzero nofun .absent .absent

/-- The least integer of 64 bits is read as no line and the greatest one of 32 bits as a line. The
integers next to them are refused, and so are a zero with a minus sign, an exponent, `null` and a
violation without a line. -/
theorem ofJson_line_bounds :
    ofJson (linedText "-9223372036854775808") = .ok ⟨"r", "", "a.mk", none⟩ ∧
      ofJson (linedText "4294967295") = .ok ⟨"r", "", "a.mk", some 4294967295⟩ ∧
      (∀ value ∈ ["-9223372036854775809", "4294967296", "-0", "1e2", "null"],
        ∃ fault, ofJson (linedText value) = .error fault) ∧
      (∃ fault, ofJson unlinedText = .error fault) ∧
      ∀ line, ofJson (toJson ⟨"r", "", "a.mk", line⟩).compact = .ok ⟨"r", "", "a.mk", line⟩ := by
  obtain ⟨hnumber, hother, hwritten⟩ := ofJson_line
  have hread (l : Literal) (value : String) (h : l.Spells value.toList) :=
    hnumber (lined (some (.number l))) (linedText value) "r" "" "a.mk" l (spells_lined h)
      (hasParts_lined _)
  have hinteger (n : Int) (value : String) (hvalue : Text.decimalInt n = value.toList) :=
    hread (.ofInt n) value (hvalue ▸ Json.spells_decimalInt n)
  refine ⟨?_, ?_, ?_, ?_, fun line => (hwritten _ _ (.inl rfl)).1⟩
  · exact (hinteger (-9223372036854775808) _ (by decide)).1.2
      ⟨_, isInteger_ofInt (by decide), by decide, by decide⟩
  · exact ((hinteger 4294967295 _ (by decide)).2.1 4294967295).2 (isInteger_ofInt (by decide))
  · simp only [List.forall_mem_cons, List.not_mem_nil, false_implies, implies_true, and_true]
    refine ⟨?_, ?_, ?_, ?_, ?_⟩
    · exact (hinteger (-9223372036854775809) _ (by decide)).2.2.2 (.below (by decide) (by decide))
    · exact (hinteger 4294967296 _ (by decide)).2.2.2 (.above (by decide) (by decide))
    · exact (hread negativeZero _ spells_negativeZero).2.2.2 (.negativeZero rfl (by decide))
    · exact (hread hundred _ spells_hundred).2.2.2 (.exponent nofun)
    · have hnull : Draft.null.Spells "null".toList := rfl
      exact hother _ _ _ _ _ _ (spells_lined hnull) (hasParts_lined _) fun l => nofun
  · exact hother _ _ _ _ _ _ spells_unlined (hasParts_lined none) fun l => nofun

end Violation

end MakeLint
