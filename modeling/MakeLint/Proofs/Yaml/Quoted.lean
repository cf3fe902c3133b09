import MakeLint.Json.Value
import MakeLint.Yaml.QuotedText

/-!
# Quoted texts of JSON in YAML

A text of printable ASCII characters between the quotes of JSON is a double-quoted scalar of YAML
with the same text: both write a quote and a backslash with a backslash in front, and every other
character as it is. YAML reads the words of the scalar and the blanks between them in turn, so the
proof goes word by word (`QuotedText.scan_escaped`). The result is `QuotedText.ofCursor_quote`.

A key must be short as well, since YAML looks for the colon behind it within 1024 characters, quotes
and backslashes included (`Text.IsKey`).
-/

namespace MakeLint.Text

/-- The printable characters of ASCII, from the space to the tilde. -/
def Printable (c : Char) : Prop := 0x20 ≤ c.toNat ∧ c.toNat ≤ 0x7E

instance (c : Char) : Decidable (Printable c) :=
  inferInstanceAs (Decidable (0x20 ≤ c.toNat ∧ c.toNat ≤ 0x7E))

/-- All characters of a text are printable. -/
def IsPrintable (s : String) : Prop := ∀ c ∈ s.toList, Printable c

instance (s : String) : Decidable (IsPrintable s) := List.decidableBAll Printable s.toList

/-- The length up to which a text is sure to be found as a key. -/
def maxKeyLength : Nat := 500

/-- A text that YAML is sure to find as a key. -/
structure IsKey (s : String) : Prop where
  printable : IsPrintable s
  length_le : s.length ≤ maxKeyLength

instance (s : String) : Decidable (IsKey s) :=
  decidable_of_iff (IsPrintable s ∧ s.length ≤ maxKeyLength)
    ⟨fun h => ⟨h.1, h.2⟩, fun h => ⟨h.printable, h.length_le⟩⟩

end MakeLint.Text

namespace MakeLint.Yaml

open Json (escape)
open Text (IsPrintable Printable)

/-! ## Places -/

namespace Cursor

/-- Going on in two steps is going on in one. -/
theorem skip_skip (c : Cursor) (m n : Nat) : (c.skip m).skip n = c.skip (m + n) := by
  unfold skip
  simp only [List.drop_drop, Nat.add_assoc]

/-- Going on by nothing changes nothing. -/
theorem skip_zero (c : Cursor) : c.skip 0 = c := rfl

/-- What follows behind some characters that follow. -/
theorem rest_skip {c : Cursor} {before rest : List Char} (h : c.rest = before ++ rest) :
    (c.skip before.length).rest = rest := by
  unfold skip
  dsimp only
  rw [h, List.drop_left]

/-- What follows behind one character. -/
theorem rest_skip_one {c : Cursor} {d : Char} {rest : List Char} (h : c.rest = d :: rest) :
    (c.skip 1).rest = rest := by
  unfold skip
  dsimp only
  rw [h, List.drop_one, List.tail_cons]

/-- The place at which a rest follows is behind the characters before it. -/
theorem skipTo_eq {c : Cursor} {before rest : List Char} (h : c.rest = before ++ rest) :
    c.skipTo rest = c.skip before.length := by
  unfold skipTo
  rw [h, List.length_append, Nat.add_sub_cancel]

/-- Away from the start of a line there is no document mark. -/
theorem seesDocumentMark_eq_false {c : Cursor} (hcolumn : c.column ≠ 0) :
    c.seesDocumentMark = false := by
  simp [seesDocumentMark, seesMark, hcolumn]

end Cursor

/-! ## Printable characters -/

/-- A printable character ends no line. -/
theorem isBreak_of_printable {c : Char} (h : Printable c) : isBreak c = false := by
  obtain ⟨hlow, hhigh⟩ := h
  have hne (d : Char) (hd : d.toNat < 0x20 ∨ 0x7E < d.toNat) : c ≠ d := by
    rintro rfl
    omega
  have hkept : isKeptBreak c = false := by
    simp [isKeptBreak, hne '\u2028' (by decide), hne '\u2029' (by decide)]
  simp [isBreak, hkept, hne '\n' (by decide), hne '\r' (by decide), hne '\u0085' (by decide)]

/-- The space is the only printable blank. -/
theorem isBlank_of_printable {c : Char} (h : Printable c) (hspace : c ≠ ' ') :
    isBlank c = false := by
  have htab : c ≠ '\t' := by
    rintro rfl
    exact absurd h (by decide)
  simp [isBlank, hspace, htab]

/-- YAML admits printable characters. -/
theorem isAdmitted_of_printable {c : Char} (h : Printable c) : isAdmitted c = true := by
  obtain ⟨hlow, hhigh⟩ := h
  simp [isAdmitted, hlow, hhigh]

/-- A printable character is escaped if it is a quote or a backslash. -/
theorem escape_of_printable {c : Char} (h : Printable c) :
    escape c = if c = '"' ∨ c = '\\' then ['\\', c] else [c] := by
  obtain ⟨hlow, hhigh⟩ := h
  by_cases hquote : c = '"'
  · subst hquote
    rfl
  by_cases hbackslash : c = '\\'
  · subst hbackslash
    rfl
  have hne (d : Char) (hd : d.toNat < 0x20) : c ≠ d := by
    rintro rfl
    omega
  have hshort : Json.shortEscape? c = none := by
    simp [Json.shortEscape?, hne '\x08' (by decide), hne '\t' (by decide), hne '\n' (by decide),
      hne '\x0c' (by decide), hne '\r' (by decide)]
  have hcontrol : ¬ c.toNat < 0x20 := by omega
  simp [escape, hshort, hcontrol, hquote, hbackslash]

namespace QuotedText

/-! ## Words -/

/-- An escaped character other than a space goes to the run. -/
theorem doubleRun_escape {c : Char} (h : Printable c) (hspace : c ≠ ' ') (rest : List Char) :
    doubleRun (escape c ++ rest) = (doubleRun rest).bind (doubleRun.add c) := by
  have hblank := isBlank_of_printable h hspace
  have hbreak := isBreak_of_printable h
  rw [escape_of_printable h]
  split
  next hescaped =>
    rcases hescaped with rfl | rfl
    · simp [doubleRun, hbreak, letter?]
    · simp [doubleRun, hbreak, letter?]
  next hitself =>
    obtain ⟨hquote, hbackslash⟩ := not_or.1 hitself
    simp [doubleRun, hbackslash, hblank, hbreak]

/-- A word goes to the run in front of it. -/
theorem doubleRun_word {word : List Char} (h : ∀ c ∈ word, Printable c ∧ c ≠ ' ')
    (rest : List Char) :
    doubleRun (word.flatMap escape ++ rest) =
      (doubleRun rest).map fun run => (word ++ run.1, run.2) := by
  induction word with
  | nil => simp
  | cons c word ih =>
    obtain ⟨hprintable, hspace⟩ := h c List.mem_cons_self
    have ih := ih fun c hc => h c (List.mem_cons_of_mem _ hc)
    rw [List.flatMap_cons, List.append_assoc, doubleRun_escape hprintable hspace, ih]
    cases doubleRun rest with
    | none => rfl
    | some run => rfl

/-- A word before the closing quote is read up to the quote. -/
theorem doubleRun_quote {word : List Char} (h : ∀ c ∈ word, Printable c ∧ c ≠ ' ')
    (rest : List Char) :
    doubleRun (word.flatMap escape ++ '"' :: rest) = some (word, .quote, '"' :: rest) := by
  have hquote : doubleRun ('"' :: rest) = some ([], .quote, '"' :: rest) := by simp [doubleRun]
  rw [doubleRun_word h, hquote, Option.map_some, List.append_nil]

/-- A word before a space is read up to the space. -/
theorem doubleRun_space {word : List Char} (h : ∀ c ∈ word, Printable c ∧ c ≠ ' ')
    (rest : List Char) :
    doubleRun (word.flatMap escape ++ ' ' :: rest) = some (word, .gap, ' ' :: rest) := by
  have hspace : doubleRun (' ' :: rest) = some ([], .gap, ' ' :: rest) := by
    simp [doubleRun, isBlank]
  rw [doubleRun_word h, hspace, Option.map_some, List.append_nil]

end QuotedText

/-! ## Spaces between words -/

/-- A gap of spaces goes up to the next character that is no blank. -/
theorem Gap.scan_spaces (n fuel : Nat) (hfuel : n ≤ fuel) (run : List Char) {c : Cursor} {d : Char}
    {rest : List Char} (hrest : c.rest = List.replicate n ' ' ++ d :: rest)
    (hblank : isBlank d = false) (hbreak : isBreak d = false) :
    Gap.scan (-1) fuel (.blanks run) c =
      some (.blanks (run ++ List.replicate n ' '), c.skip n) := by
  induction n generalizing fuel run c with
  | zero =>
    rw [List.replicate_zero, List.nil_append] at hrest
    rw [List.replicate_zero, List.append_nil, Cursor.skip_zero]
    cases fuel with
    | zero => rfl
    | succ fuel => simp [scan, hrest, hblank, hbreak]
  | succ n ih =>
    obtain ⟨fuel, rfl⟩ : ∃ m, fuel = m + 1 := ⟨fuel - 1, by omega⟩
    rw [List.replicate_succ, List.cons_append] at hrest
    have hstep : scan (-1) (fuel + 1) (.blanks run) c =
        scan (-1) fuel (.blanks (run ++ [' '])) (c.skip 1) := by
      simp [scan, hrest, isBlank, isLines, addBlank]
    have hnext : (c.skip 1).rest = List.replicate n ' ' ++ d :: rest :=
      Cursor.rest_skip_one hrest
    rw [hstep, ih fuel (by omega) _ hnext, Cursor.skip_skip, Nat.add_comm 1 n, List.append_assoc,
      List.replicate_succ]
    rfl

namespace QuotedText

/-! ## Scalars -/

/-- A text is a row of spaces and a text that starts with no space. -/
theorem exists_spaces (s : List Char) :
    ∃ n others, s = List.replicate n ' ' ++ others ∧ others.head? ≠ some ' ' := by
  induction s with
  | nil => exact ⟨0, [], rfl, by simp⟩
  | cons c s ih =>
    by_cases hc : c = ' '
    · obtain ⟨n, others, rfl, hothers⟩ := ih
      exact ⟨n + 1, others, by rw [hc, List.replicate_succ, List.cons_append], hothers⟩
    · exact ⟨0, c :: s, rfl, by simpa using hc⟩

/-- Spaces are written as they are. -/
theorem escape_spaces (n : Nat) : (List.replicate n ' ').flatMap escape = List.replicate n ' ' := by
  induction n with
  | zero => rfl
  | succ n ih =>
    rw [List.replicate_succ, List.flatMap_cons, ih]
    rfl

/-- Behind spaces a scalar goes on with a character that is no blank, if only the closing quote. -/
theorem escape_head {s : List Char} (h : ∀ c ∈ s, Printable c) (hhead : s.head? ≠ some ' ')
    (rest : List Char) : ∃ d others, s.flatMap escape ++ '"' :: rest = d :: others ∧
      isBlank d = false ∧ isBreak d = false := by
  cases s with
  | nil => exact ⟨'"', rest, rfl, by decide, by decide⟩
  | cons c s =>
    have hprintable : Printable c := h c List.mem_cons_self
    have hspace : c ≠ ' ' := by simpa using hhead
    rw [List.flatMap_cons, escape_of_printable hprintable]
    split
    next => exact ⟨'\\', _, rfl, by decide, by decide⟩
    next =>
      exact ⟨c, _, rfl, isBlank_of_printable hprintable hspace, isBreak_of_printable hprintable⟩

/-- A scalar ends with a word before the closing quote. -/
theorem scan_quote {word : List Char} (h : ∀ c ∈ word, Printable c ∧ c ≠ ' ') {c : Cursor}
    (hcolumn : c.column ≠ 0) {rest : List Char}
    (hrest : c.rest = word.flatMap escape ++ '"' :: rest) (text : List Char) (fuel : Nat) :
    scan true (fuel + 1) text c =
      some (text ++ word, c.skip ((word.flatMap escape).length + 1)) := by
  have hrun := doubleRun_quote h rest
  rw [← hrest] at hrun
  have hmore : c.rest.isEmpty = false := by simp [hrest]
  rw [← Cursor.skip_skip, ← Cursor.skipTo_eq hrest]
  simp [scan, Cursor.seesDocumentMark_eq_false hcolumn, hmore, hrun]

/-- A scalar goes on behind a word with spaces before the next one. -/
theorem scan_spaces {word : List Char} (h : ∀ c ∈ word, Printable c ∧ c ≠ ' ') {c : Cursor}
    (hcolumn : c.column ≠ 0) {n : Nat} {d : Char} {rest : List Char}
    (hrest : c.rest = word.flatMap escape ++ (List.replicate (n + 1) ' ' ++ d :: rest))
    (hblank : isBlank d = false) (hbreak : isBreak d = false) (text : List Char) (fuel : Nat) :
    scan true (fuel + 1) text c = scan true fuel (text ++ (word ++ List.replicate (n + 1) ' '))
      (c.skip ((word.flatMap escape).length + (n + 1))) := by
  have hrun := doubleRun_space h (List.replicate n ' ' ++ d :: rest)
  rw [← List.cons_append, ← List.replicate_succ, ← hrest] at hrun
  have hmore : c.rest.isEmpty = false := by simp [hrest]
  have hgap : Gap.none.toWord (-1) (c.skip (word.flatMap escape).length) =
      some (.blanks (List.replicate (n + 1) ' '),
        c.skip ((word.flatMap escape).length + (n + 1))) := by
    have hleft := Cursor.rest_skip hrest
    have hfuel : n + 1 ≤ (c.skip (word.flatMap escape).length).rest.length := by
      rw [hleft, List.length_append, List.length_replicate]
      exact Nat.le_add_right _ _
    have hscan := Gap.scan_spaces (n + 1) _ hfuel [] hleft hblank hbreak
    rw [Cursor.skip_skip, List.nil_append] at hscan
    exact hscan
  rw [← Cursor.skipTo_eq hrest] at hgap
  simp [scan, Cursor.seesDocumentMark_eq_false hcolumn, hmore, hrun, hgap, Gap.text]

/-- Inside a scalar, not at the start of a line, the text is read up to the closing quote. -/
theorem scan_escaped (fuel : Nat) (s rest : List Char) (h : ∀ c ∈ s, Printable c) (c : Cursor)
    (text : List Char) (hfuel : s.length < fuel) (hcolumn : c.column ≠ 0)
    (hrest : c.rest = s.flatMap escape ++ '"' :: rest) :
    scan true fuel text c = some (text ++ s, c.skip ((s.flatMap escape).length + 1)) := by
  induction fuel generalizing s c text with
  | zero => omega
  | succ fuel ih =>
    by_cases hspace : ' ' ∈ s
    · -- A word and spaces take one round; what is left of the text is shorter.
      obtain ⟨word, tail, rfl, hword⟩ := List.eq_append_cons_of_mem hspace
      obtain ⟨n, others, rfl, hothers⟩ := exists_spaces tail
      have hsplit : word ++ ' ' :: (List.replicate n ' ' ++ others) =
          (word ++ List.replicate (n + 1) ' ') ++ others := by simp [List.replicate_succ]
      rw [hsplit] at h hfuel hrest ⊢
      have hprintable : ∀ c ∈ others, Printable c := fun c hc => h c (List.mem_append_right _ hc)
      obtain ⟨d, behind, hbehind, hblank, hbreak⟩ := escape_head hprintable hothers rest
      simp only [List.flatMap_append, escape_spaces, List.append_assoc] at hrest
      have hstep := scan_spaces (fun c hc => ⟨h c (by simp [hc]), fun heq => hword (heq ▸ hc)⟩)
        hcolumn (hrest.trans (by rw [hbehind])) hblank hbreak text fuel
      have hshorter : others.length < fuel := by
        simp at hfuel
        omega
      have hcolumn' : (c.skip ((word.flatMap escape).length + (n + 1))).column ≠ 0 :=
        Nat.succ_ne_zero _
      have hrest' : (c.skip ((word.flatMap escape).length + (n + 1))).rest =
          others.flatMap escape ++ '"' :: rest := by
        rw [← List.append_assoc] at hrest
        simpa using Cursor.rest_skip hrest
      rw [hstep, ih others hprintable _ _ hshorter hcolumn' hrest', Cursor.skip_skip,
        List.append_assoc, List.flatMap_append, List.flatMap_append, escape_spaces]
      simp only [List.length_append, List.length_replicate, Nat.add_assoc]
    · exact scan_quote (fun c hc => ⟨h c hc, fun heq => hspace (heq ▸ hc)⟩) hcolumn hrest text fuel

/-- Escapes make a text no shorter, and at most twice as long. -/
theorem length_le_escape {s : List Char} (h : ∀ c ∈ s, Printable c) :
    s.length ≤ (s.flatMap escape).length ∧ (s.flatMap escape).length ≤ 2 * s.length := by
  induction s with
  | nil => exact ⟨Nat.le_refl _, Nat.le_refl _⟩
  | cons c s ih =>
    have ih := ih fun c hc => h c (List.mem_cons_of_mem _ hc)
    have hc : 1 ≤ (escape c).length ∧ (escape c).length ≤ 2 := by
      rw [escape_of_printable (h c List.mem_cons_self)]
      split <;> simp
    rw [List.flatMap_cons, List.length_append, List.length_cons]
    omega

/-- A quoted text of printable characters is a double-quoted scalar of that text. -/
theorem ofCursor_quote {s : String} (h : IsPrintable s) {c : Cursor} {rest : List Char}
    (hrest : c.rest = Json.quote s ++ rest) :
    ofCursor true c = some (s.toList, c.skip (Json.quote s).length) := by
  have hquote : c.rest = ['"'] ++ (s.toList.flatMap escape ++ '"' :: rest) := by
    rw [hrest, Json.quote]
    simp
  have hfuel : s.toList.length < c.rest.length := by
    have hle := (length_le_escape h).1
    simp only [hquote, List.length_append, List.length_cons]
    omega
  have hscan := scan_escaped c.rest.length s.toList rest h (c.skip 1) [] hfuel
    (Nat.succ_ne_zero _) (Cursor.rest_skip hquote)
  have hlength : (Json.quote s).length = 1 + ((s.toList.flatMap escape).length + 1) := by
    rw [Json.quote, List.length_append, List.length_cons, List.length_singleton]
    omega
  rw [ofCursor, hscan, List.nil_append, Cursor.skip_skip, hlength]

/-- YAML admits the quoted text of printable characters. -/
theorem isAdmitted_quote {s : String} (h : IsPrintable s) :
    ∀ c ∈ Json.quote s, isAdmitted c = true := by
  intro c hc
  simp only [Json.quote, List.mem_append, List.mem_cons, List.mem_flatMap, List.not_mem_nil,
    or_false] at hc
  rcases hc with (rfl | ⟨e, he, hc⟩) | rfl
  · decide
  · rw [escape_of_printable (h e he)] at hc
    split at hc
    next =>
      rcases List.mem_cons.1 hc with rfl | hc
      · decide
      · rw [List.mem_singleton.1 hc]
        exact isAdmitted_of_printable (h e he)
    next =>
      rw [List.mem_singleton.1 hc]
      exact isAdmitted_of_printable (h e he)
  · decide

end QuotedText

end MakeLint.Yaml

namespace MakeLint.Text

/-- Behind a key its start is still within reach of a colon. -/
theorem IsKey.length_quote_le {s : String} (h : IsKey s) : (Json.quote s).length ≤ 1024 := by
  -- Every character takes two at most, and the quotes take one each.
  have htwice := (Yaml.QuotedText.length_le_escape h.printable).2
  have hshort : s.toList.length ≤ 500 := h.length_le
  rw [Json.quote, List.length_append, List.length_cons, List.length_singleton]
  omega

end MakeLint.Text
