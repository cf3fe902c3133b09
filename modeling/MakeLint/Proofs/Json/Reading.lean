import MakeLint.Proofs.Json.Grammar

/-!
# Reading follows the grammar

Each function of the reader takes what it is after from the front of a text and hands on the rest.
So each lemma here says what a function makes of characters that the grammar allows, with a rest
behind them, and that exactly this rest is handed on. Only the end of a number depends on what
follows (`EndsNumber`), since a digit, a point or an exponent would be part of it. The functions for
values run on fuel; the number of characters is always enough. The result is `Draft.ofText_eq`.
-/

namespace MakeLint.Json

open Draft

/-! ## Blanks -/

/-- Blanks in front of a text are skipped. -/
theorem Blanks.skipBlanks_append {blanks : List Char} (h : Blanks blanks) (s : List Char) :
    skipBlanks (blanks ++ s) = skipBlanks s := by
  unfold skipBlanks
  exact List.dropWhile_append_of_pos h

/-- Nothing is skipped in front of a character that is not blank. -/
theorem skipBlanks_cons {c : Char} (h : isBlank c = false) (s : List Char) :
    skipBlanks (c :: s) = c :: s := by
  unfold skipBlanks
  rw [List.dropWhile_cons, if_neg (by simp [h])]

/-- A text of blanks only is skipped as a whole. -/
theorem Blanks.skipBlanks_eq_nil {blanks : List Char} (h : Blanks blanks) :
    skipBlanks blanks = [] := by
  rw [← List.append_nil blanks, h.skipBlanks_append]
  rfl

/-! ## Numbers -/

/-- What may follow a number: a digit, a point or an exponent would be part of it. -/
def EndsNumber (rest : List Char) : Prop :=
  ∀ c ∈ rest.head?, c.isDigit = false ∧ c ≠ '.' ∧ c ≠ 'e' ∧ c ≠ 'E'

/-- Nothing may follow a number. -/
theorem endsNumber_nil : EndsNumber [] := by simp [EndsNumber]

/-- The digits of a run are read up to a character that is none. -/
theorem SpellsDigits.digits_append {ds : List Nat} {s rest : List Char} (h : SpellsDigits ds s)
    (hrest : ∀ c ∈ rest.head?, c.isDigit = false) : digits (s ++ rest) = (ds, rest) := by
  obtain ⟨-, hs, rfl⟩ := h
  -- The run stops where it ends, since no digit is next.
  have htake : rest.takeWhile Char.isDigit = [] := by
    cases rest with
    | nil => rfl
    | cons c t => simp [hrest c (by simp)]
  have hdrop : rest.dropWhile Char.isDigit = rest := by
    cases rest with
    | nil => rfl
    | cons c t => simp [hrest c (by simp)]
  unfold digits
  rw [List.takeWhile_append_of_pos hs, List.dropWhile_append_of_pos hs, htake, hdrop,
    List.append_nil]

/-- A run of digits writes at least one. -/
theorem SpellsDigits.digits_ne_nil {ds : List Nat} {s : List Char} (h : SpellsDigits ds s) :
    ds ≠ [] := by
  rw [h.eq_map]
  simpa using h.ne_nil

/-- A run of digits starts with a digit. -/
theorem SpellsDigits.exists_cons {ds : List Nat} {s : List Char} (h : SpellsDigits ds s) :
    ∃ c t, s = c :: t ∧ c.isDigit = true := by
  obtain ⟨c, t, rfl⟩ := List.exists_cons_of_ne_nil h.ne_nil
  exact ⟨c, t, rfl, h.isDigit c (by simp)⟩

/-- The whole part of a number is read as its digits. -/
theorem SpellsDigits.whole?_append {ds : List Nat} {s rest : List Char} (h : SpellsDigits ds s)
    (hzero : ∀ d others, ds ≠ 0 :: d :: others) (hrest : ∀ c ∈ rest.head?, c.isDigit = false) :
    whole? (s ++ rest) = some (ds, rest) := by
  unfold whole?
  rw [h.digits_append hrest]
  split
  next heq => exact absurd (congrArg Prod.fst heq) h.digits_ne_nil
  next heq => exact absurd (congrArg Prod.fst heq) (hzero _ _)
  next => rfl

/-- A fraction is read as its digits, up to a character that is none and no point. -/
theorem SpellsFraction.fraction?_append {f : Option (List Nat)} {s rest : List Char}
    (h : SpellsFraction f s) (hrest : ∀ c ∈ rest.head?, c.isDigit = false ∧ c ≠ '.') :
    fraction? (s ++ rest) = some (f, rest) := by
  cases h with
  | absent =>
    rw [List.nil_append]
    unfold fraction?
    split
    next => exact absurd rfl (hrest '.' rfl).2
    next => rfl
  | @present ds t digits =>
    have hread := digits.digits_append fun c hc => (hrest c hc).1
    rw [List.cons_append]
    unfold fraction?
    simp only [hread]
    split
    next heq => exact absurd (congrArg Prod.fst heq) digits.digits_ne_nil
    next heq => cases heq; rfl

/-- A fraction or what follows it starts with no digit. -/
theorem SpellsFraction.head_append {f : Option (List Nat)} {s rest : List Char}
    (h : SpellsFraction f s) (hrest : ∀ c ∈ rest.head?, c.isDigit = false) :
    ∀ c ∈ (s ++ rest).head?, c.isDigit = false := by
  cases h with
  | absent => exact hrest
  | present digits => simp

/-- The sign of an exponent is read up to the first digit. -/
theorem SpellsSign.exponentSign_append {negative : Bool} {sign : List Char}
    (h : SpellsSign negative sign) {c : Char} (hc : c.isDigit = true) (s : List Char) :
    exponentSign (sign ++ c :: s) = (negative, c :: s) := by
  cases h with
  | bare =>
    rw [List.nil_append]
    unfold exponentSign
    split
    next heq => cases heq; simp at hc
    next heq => cases heq; simp at hc
    next => rfl
  | plus => rfl
  | minus => rfl

/-- An exponent is read as its sign and its digits. -/
theorem SpellsExponent.exponent?_append {e : Option (Bool × List Nat)} {s rest : List Char}
    (h : SpellsExponent e s) (hrest : EndsNumber rest) :
    exponent? (s ++ rest) = some (e, rest) := by
  cases h with
  | absent =>
    rw [List.nil_append]
    unfold exponent?
    split
    next => exact absurd rfl (hrest 'e' rfl).2.2.1
    next => exact absurd rfl (hrest 'E' rfl).2.2.2
    next => rfl
  | @present letter negative ds sign t mark signed digits =>
    have hread := digits.digits_append fun c hc => (hrest c hc).1
    obtain ⟨d, others, rfl⟩ := List.exists_cons_of_ne_nil digits.digits_ne_nil
    -- The sign ends where the first digit stands.
    obtain ⟨c, u, rfl, hc⟩ := digits.exists_cons
    have hsign := signed.exponentSign_append hc (u ++ rest)
    rw [List.append_assoc, List.cons_append, List.cons_append]
    rw [List.cons_append] at hread
    unfold exponent?
    rcases mark with rfl | rfl <;> simp only [hsign, hread]

/-- An exponent or what follows it starts with no digit and no point. -/
theorem SpellsExponent.head_append {e : Option (Bool × List Nat)} {s rest : List Char}
    (h : SpellsExponent e s) (hrest : EndsNumber rest) :
    ∀ c ∈ (s ++ rest).head?, c.isDigit = false ∧ c ≠ '.' := by
  cases h with
  | absent => exact fun c hc => ⟨(hrest c hc).1, (hrest c hc).2.1⟩
  | present mark signed digits => rcases mark with rfl | rfl <;> simp

/-- A number without its sign is read up to what may follow it. -/
theorem Literal.Spells.unsigned?_eq {l : Literal} {s rest : List Char} (h : l.Spells s)
    (hrest : EndsNumber rest) :
    ∃ c t, s = signChars l.negative ++ c :: t ∧ c.isDigit = true ∧
      unsigned? l.negative (c :: t ++ rest) = some (l, rest) := by
  obtain ⟨whole, fraction, exponent, hwhole, hzero, hfraction, hexponent, rfl⟩ := h
  -- Where a part ends depends on the part behind it, so the last one comes first.
  have hexp := hexponent.exponent?_append hrest
  have hfrac := hfraction.fraction?_append (hexponent.head_append hrest)
  have hint := hwhole.whole?_append hzero
    (hfraction.head_append fun c hc => (hexponent.head_append hrest c hc).1)
  obtain ⟨c, t, rfl, hc⟩ := hwhole.exists_cons
  refine ⟨c, t ++ fraction ++ exponent, by simp, hc, ?_⟩
  have hsplit : c :: (t ++ fraction ++ exponent) ++ rest =
      c :: t ++ (fraction ++ (exponent ++ rest)) := by simp
  unfold unsigned?
  rw [hsplit, hint]
  simp only [Option.bind_eq_bind, Option.bind_some, hfrac, hexp]

/-- A number starts with a minus sign or a digit. -/
theorem Literal.Spells.exists_cons {l : Literal} {s : List Char} (h : l.Spells s) :
    ∃ c t, s = c :: t ∧ (c = '-' ∨ c.isDigit = true) := by
  obtain ⟨c, t, rfl, hc, -⟩ := h.unsigned?_eq endsNumber_nil
  unfold signChars
  split
  · exact ⟨'-', c :: t, rfl, .inl rfl⟩
  · exact ⟨c, t, rfl, .inr hc⟩

/-- A number is read as its literal. -/
theorem Literal.Spells.literal?_append {l : Literal} {s rest : List Char} (h : l.Spells s)
    (hrest : EndsNumber rest) : literal? (s ++ rest) = some (l, rest) := by
  obtain ⟨c, t, rfl, hc, hread⟩ := h.unsigned?_eq hrest
  unfold literal? signChars
  cases hsign : l.negative with
  | true =>
    rw [hsign] at hread
    exact hread
  | false =>
    rw [hsign] at hread
    rw [if_neg (by simp), List.nil_append]
    split
    next heq => cases heq; simp at hc
    next => exact hread

/-! ## Texts -/

/-- The units of a quoted text are read up to its closing quote. -/
theorem pieces_flatMap (rest : List Char) (units : List (Piece × List Char))
    (h : ∀ u ∈ units, u.1.Spells u.2) :
    pieces (units.flatMap (·.2) ++ '"' :: rest) = some (units.map (·.1), rest) := by
  induction units with
  | nil => rfl
  | cons u units ih =>
    obtain ⟨piece, chars⟩ := u
    have hu : piece.Spells chars := h (piece, chars) List.mem_cons_self
    have ih := ih fun v hv => h v (List.mem_cons_of_mem _ hv)
    rw [List.flatMap_cons, List.append_assoc]
    cases hu with
    | @itself c printable notQuote notBackslash =>
      have hplain : ¬(c.toNat < 0x20 ∨ c = '\\') := by
        rintro (h | h)
        · omega
        · exact notBackslash h
      -- The other equations of the reader are for a quote and for two kinds of escapes.
      rw [List.singleton_append, pieces, if_neg hplain, ih]
      · rfl
      · exact notQuote
      · rintro a b c d others rfl -
        exact notBackslash rfl
      · rintro letter others rfl -
        exact notBackslash rfl
    | @short letter c stands =>
      -- The letter is no `u`, which stands for no character.
      rw [List.cons_append, List.singleton_append, pieces]
      · simp [stands, ih]
      · rintro a b c d others rfl -
        simp [escaped?] at stands
    | @code a b c d n digits =>
      simp [pieces, digits, ih]

/-- A quoted text starts with its opening quote, and is read up to its closing quote. -/
theorem SpellsQuoted.quoted?_append {value : Option String} {s : List Char}
    (h : SpellsQuoted value s) (rest : List Char) :
    ∃ t, s = '"' :: t ∧ quoted? (t ++ rest) = some (value, rest) := by
  obtain ⟨units, hunits, rfl, rfl⟩ := h
  refine ⟨units.flatMap (·.2) ++ ['"'], rfl, ?_⟩
  unfold quoted?
  rw [List.append_assoc, List.singleton_append, pieces_flatMap rest units hunits, Option.map_some]

/-! ## Values without parts -/

/-- A character that is a minus sign or a digit starts no word, no text, no list and no object. -/
theorem numberStart_ne {c : Char} (h : c = '-' ∨ c.isDigit = true) :
    isBlank c = false ∧ c ≠ 'n' ∧ c ≠ 't' ∧ c ≠ 'f' ∧ c ≠ '"' ∧ c ≠ '[' ∧ c ≠ '{' ∧ c ≠ ']' ∧
      c ≠ '}' := by
  rcases h with rfl | h
  · decide
  · refine ⟨?_, ?_, ?_, ?_, ?_, ?_, ?_, ?_, ?_⟩
    · unfold isBlank
      rw [decide_eq_false_iff_not]
      rintro (rfl | rfl | rfl | rfl) <;> simp at h
    all_goals rintro rfl; simp at h

/-- A number is read where a value without parts stands. -/
theorem Literal.Spells.simple_append {l : Literal} {s rest : List Char} (h : l.Spells s)
    (hrest : EndsNumber rest) : simple (s ++ rest) = (.number l, rest) := by
  have hread := h.literal?_append hrest
  obtain ⟨c, t, rfl, hc⟩ := h.exists_cons
  obtain ⟨-, hn, ht, hf, hq, -⟩ := numberStart_ne hc
  unfold simple
  rw [hread]
  split
  next heq => exact absurd (List.cons.inj heq).1 hn
  next heq => exact absurd (List.cons.inj heq).1 ht
  next heq => exact absurd (List.cons.inj heq).1 hf
  next heq => exact absurd (List.cons.inj heq).1 hq
  next => rfl

/-- A quoted text is read where a value without parts stands. -/
theorem SpellsQuoted.simple_append {value : Option String} {s : List Char}
    (h : SpellsQuoted value s) (rest : List Char) : simple (s ++ rest) = (.text value, rest) := by
  obtain ⟨t, rfl, hread⟩ := h.quoted?_append rest
  simp [simple, hread]

/-! ## The way from part to part -/

/-- A character with which a value or a key may start: it is not blank and closes nothing. -/
def Opens (c : Char) : Prop := isBlank c = false ∧ c ≠ ']' ∧ c ≠ '}'

instance (c : Char) : Decidable (Opens c) :=
  inferInstanceAs (Decidable (isBlank c = false ∧ c ≠ ']' ∧ c ≠ '}'))

/-- A value starts with a character that opens it. -/
theorem Draft.Spells.exists_cons {d : Draft} {s : List Char} (h : d.Spells s) :
    ∃ c t, s = c :: t ∧ Opens c := by
  cases d with
  | broken => exact h.elim
  | null => exact ⟨_, _, h, by decide⟩
  | boolean b => cases b <;> exact ⟨_, _, h, by decide⟩
  | number l =>
    obtain ⟨c, t, rfl, hc⟩ := Literal.Spells.exists_cons h
    obtain ⟨hblank, -, -, -, -, -, -, hlist, hobject⟩ := numberStart_ne hc
    exact ⟨c, t, rfl, hblank, hlist, hobject⟩
  | text value =>
    obtain ⟨t, rfl, -⟩ := SpellsQuoted.quoted?_append h []
    exact ⟨_, t, rfl, by decide⟩
  | list items closed =>
    obtain ⟨-, inside, -, rfl⟩ := h
    exact ⟨_, inside, rfl, by decide⟩
  | object members closed =>
    obtain ⟨-, inside, -, rfl⟩ := h
    exact ⟨_, inside, rfl, by decide⟩

/-- The closing bracket ends a list or object, with blanks in front of it. -/
theorem Step.of_close {blanks : List Char} (h : Blanks blanks) {bracket : Char}
    (hbracket : isBlank bracket = false) (first : Bool) (rest : List Char) :
    Step.of bracket first (blanks ++ bracket :: rest) = .close rest := by
  unfold Step.of
  rw [h.skipBlanks_append, skipBlanks_cons hbracket]
  exact if_pos rfl

/-- What stands before a part leads to the start of the part. -/
theorem Step.of_lead {first : Bool} {lead : List Char} (h : Lead first lead) {bracket c : Char}
    (hbracket : bracket = ']' ∨ bracket = '}') (hc : Opens c) (rest : List Char) :
    Step.of bracket first (lead ++ c :: rest) = .next (c :: rest) := by
  obtain ⟨hblank, hlist, hobject⟩ := hc
  have hne : c ≠ bracket := by rcases hbracket with rfl | rfl <;> assumption
  unfold Lead at h
  unfold Step.of
  cases first with
  | true =>
    rw [if_pos rfl] at h
    rw [h.skipBlanks_append, skipBlanks_cons hblank]
    simp [hne]
  | false =>
    rw [if_neg (by simp)] at h
    obtain ⟨before, behind, hbefore, hbehind, rfl⟩ := h
    have hcomma : ',' ≠ bracket := by rcases hbracket with rfl | rfl <;> decide
    have hskip : skipBlanks (behind ++ c :: rest) = c :: rest := by
      rw [hbehind.skipBlanks_append, skipBlanks_cons hblank]
    rw [List.append_assoc, List.cons_append, hbefore.skipBlanks_append,
      skipBlanks_cons (by decide)]
    simp [hne, hcomma, hskip]

/-- A colon among blanks is passed, up to the value behind it. -/
theorem Colon.afterColon?_append {colon : List Char} (h : Colon colon) (rest : List Char) :
    ∃ behind, Blanks behind ∧ afterColon? (colon ++ rest) = some (behind ++ rest) := by
  obtain ⟨before, behind, hbefore, hbehind, rfl⟩ := h
  refine ⟨behind, hbehind, ?_⟩
  unfold afterColon?
  rw [List.append_assoc, List.cons_append, hbefore.skipBlanks_append, skipBlanks_cons (by decide)]
  rfl

/-! ## Values -/

/-- A blank is no part of a number. -/
theorem isBlank_ne {c : Char} (h : isBlank c = true) :
    c.isDigit = false ∧ c ≠ '.' ∧ c ≠ 'e' ∧ c ≠ 'E' := by
  unfold isBlank at h
  rw [decide_eq_true_iff] at h
  rcases h with rfl | rfl | rfl | rfl <;> decide

/-- Blanks in front of what may follow a number may follow it too. -/
theorem Blanks.endsNumber_append {blanks rest : List Char} (h : Blanks blanks)
    (hrest : EndsNumber rest) : EndsNumber (blanks ++ rest) := by
  cases blanks with
  | nil => exact hrest
  | cons b t =>
    intro c hc
    rw [List.cons_append, List.head?_cons, Option.mem_some_iff] at hc
    subst hc
    exact isBlank_ne (h b List.mem_cons_self)

/-- A comma or a closing bracket may follow a number. -/
theorem endsNumber_cons {c : Char} (h : c = ',' ∨ c = ']' ∨ c = '}') (rest : List Char) :
    EndsNumber (c :: rest) := by
  intro d hd
  rw [List.head?_cons, Option.mem_some_iff] at hd
  subst hd
  rcases h with rfl | rfl | rfl <;> decide

/-- What stands before a further part may follow a number. -/
theorem Lead.endsNumber_append {lead : List Char} (h : Lead false lead) (rest : List Char) :
    EndsNumber (lead ++ rest) := by
  unfold Lead at h
  rw [if_neg (by simp)] at h
  obtain ⟨before, behind, hbefore, -, rfl⟩ := h
  rw [List.append_assoc, List.cons_append]
  exact hbefore.endsNumber_append (endsNumber_cons (.inl rfl) _)

/-- What follows an item of a list has a closing bracket in it. -/
theorem Draft.SpellsItems.length_pos {items : List Draft} {first : Bool} {s : List Char}
    (h : SpellsItems first items s) : 0 < s.length := by
  cases items with
  | nil =>
    obtain ⟨blanks, -, rfl⟩ := h
    simp
  | cons item items =>
    obtain ⟨lead, value, others, -, hvalue, -, rfl⟩ := h
    obtain ⟨c, t, rfl, -⟩ := hvalue.exists_cons
    simp only [List.length_append, List.length_cons]
    omega

/-- What follows a member of an object has a closing bracket in it. -/
theorem Draft.SpellsMembers.length_pos {members : List (Option String × Draft)} {first : Bool}
    {s : List Char} (h : SpellsMembers first members s) : 0 < s.length := by
  cases members with
  | nil =>
    obtain ⟨blanks, -, rfl⟩ := h
    simp
  | cons member members =>
    obtain ⟨key, item⟩ := member
    obtain ⟨lead, quoted, colon, value, others, -, -, -, hvalue, -, rfl⟩ := h
    obtain ⟨c, t, rfl, -⟩ := hvalue.exists_cons
    simp only [List.length_append, List.length_cons]
    omega

/-- What follows an item of a list may follow a number. -/
theorem endsNumber_items {items : List Draft} {s : List Char} (h : SpellsItems false items s)
    (rest : List Char) : EndsNumber (s ++ rest) := by
  cases items with
  | nil =>
    obtain ⟨blanks, hblanks, rfl⟩ := h
    rw [List.append_assoc, List.singleton_append]
    exact hblanks.endsNumber_append (endsNumber_cons (.inr (.inl rfl)) rest)
  | cons item items =>
    obtain ⟨lead, value, others, hlead, -, -, rfl⟩ := h
    rw [List.append_assoc, List.append_assoc]
    exact hlead.endsNumber_append _

/-- What follows a member of an object may follow a number. -/
theorem endsNumber_members {members : List (Option String × Draft)} {s : List Char}
    (h : SpellsMembers false members s) (rest : List Char) : EndsNumber (s ++ rest) := by
  cases members with
  | nil =>
    obtain ⟨blanks, hblanks, rfl⟩ := h
    rw [List.append_assoc, List.singleton_append]
    exact hblanks.endsNumber_append (endsNumber_cons (.inr (.inr rfl)) rest)
  | cons member members =>
    obtain ⟨key, item⟩ := member
    obtain ⟨lead, quoted, colon, value, others, hlead, -, -, -, -, rfl⟩ := h
    rw [List.append_assoc, List.append_assoc, List.append_assoc, List.append_assoc]
    exact hlead.endsNumber_append _

/-- A value that starts with no bracket is read as one without parts. -/
theorem value_eq_simple {blanks : List Char} (h : Blanks blanks) {c : Char}
    (hblank : isBlank c = false) (hlist : c ≠ '[') (hobject : c ≠ '{') (fuel : Nat)
    (s : List Char) : value (fuel + 1) (blanks ++ c :: s) = simple (c :: s) := by
  unfold value
  rw [h.skipBlanks_append, skipBlanks_cons hblank]
  split
  next heq => exact absurd (List.cons.inj heq).1 hlist
  next heq => exact absurd (List.cons.inj heq).1 hobject
  next => rfl

mutual

/-- A value is read as its draft, up to what may follow a number. -/
theorem Draft.Spells.value_append (d : Draft) {s : List Char} (h : d.Spells s) {blanks : List Char}
    (hblanks : Blanks blanks) {fuel : Nat} (hfuel : s.length ≤ fuel) {rest : List Char}
    (hrest : EndsNumber rest) : value fuel (blanks ++ (s ++ rest)) = (d, rest) := by
  -- A value has a first character, so there is fuel for one step.
  obtain ⟨c, t, hs, hopens⟩ := h.exists_cons
  obtain ⟨fuel, rfl⟩ : ∃ n, fuel = n + 1 := by
    rw [hs, List.length_cons] at hfuel
    exact ⟨fuel - 1, by omega⟩
  cases d with
  | broken => exact h.elim
  | null =>
    rw [show s = ['n', 'u', 'l', 'l'] from h]
    exact value_eq_simple hblanks (by decide) (by decide) (by decide) fuel _
  | boolean b =>
    cases b with
    | true =>
      rw [show s = ['t', 'r', 'u', 'e'] from h]
      exact value_eq_simple hblanks (by decide) (by decide) (by decide) fuel _
    | false =>
      rw [show s = ['f', 'a', 'l', 's', 'e'] from h]
      exact value_eq_simple hblanks (by decide) (by decide) (by decide) fuel _
  | number l =>
    have hread := Literal.Spells.simple_append h hrest
    obtain ⟨c, t, rfl, hc⟩ := Literal.Spells.exists_cons h
    obtain ⟨hblank, -, -, -, -, hlist, hobject, -⟩ := numberStart_ne hc
    rw [List.cons_append, value_eq_simple hblanks hblank hlist hobject]
    exact hread
  | text v =>
    have hread := SpellsQuoted.simple_append h rest
    obtain ⟨t, rfl, -⟩ := SpellsQuoted.quoted?_append h rest
    rw [List.cons_append, value_eq_simple hblanks (by decide) (by decide) (by decide)]
    exact hread
  | list items closed =>
    obtain ⟨rfl, inside, hitems, rfl⟩ := h
    rw [List.length_cons] at hfuel
    have hinside : inside.length ≤ fuel := by omega
    have hread := Draft.SpellsItems.items_append items hitems hinside rest
    unfold value
    rw [hblanks.skipBlanks_append, List.cons_append, skipBlanks_cons (by decide)]
    simp only [hread]
  | object members closed =>
    obtain ⟨rfl, inside, hmembers, rfl⟩ := h
    rw [List.length_cons] at hfuel
    have hinside : inside.length ≤ fuel := by omega
    have hread := Draft.SpellsMembers.members_append members hmembers hinside rest
    unfold value
    rw [hblanks.skipBlanks_append, List.cons_append, skipBlanks_cons (by decide)]
    simp only [hread]

/-- The items of a list are read up to its closing bracket. -/
theorem Draft.SpellsItems.items_append (ds : List Draft) {first : Bool} {s : List Char}
    (h : SpellsItems first ds s) {fuel : Nat} (hfuel : s.length ≤ fuel) (rest : List Char) :
    items fuel first (s ++ rest) = (ds, true, rest) := by
  cases ds with
  | nil =>
    obtain ⟨blanks, hblanks, rfl⟩ := h
    obtain ⟨fuel, rfl⟩ : ∃ n, fuel = n + 1 := by
      rw [List.length_append, List.length_singleton] at hfuel
      exact ⟨fuel - 1, by omega⟩
    unfold items
    rw [List.append_assoc, List.singleton_append, Step.of_close hblanks (by decide)]
  | cons d ds =>
    obtain ⟨lead, v, others, hlead, hv, hothers, rfl⟩ := h
    have hlength := hothers.length_pos
    obtain ⟨c, t, hvs, hopens⟩ := hv.exists_cons
    rw [List.length_append, List.length_append] at hfuel
    -- Both the item and what follows it are shorter than the whole, by the other one of the two.
    have hvlength : 0 < v.length := by rw [hvs, List.length_cons]; omega
    obtain ⟨fuel, rfl⟩ : ∃ n, fuel = n + 1 := ⟨fuel - 1, by omega⟩
    have hvfuel : v.length ≤ fuel := by omega
    have hfuel' : others.length ≤ fuel := by omega
    have hvalue := hv.value_append d blanks_nil hvfuel (endsNumber_items hothers rest)
    have hread := hothers.items_append ds hfuel' rest
    -- The step to the item passes all blanks in front of it.
    have hstep : Step.of ']' first (lead ++ (v ++ (others ++ rest))) =
        .next (v ++ (others ++ rest)) := by
      rw [hvs]
      exact Step.of_lead hlead (.inl rfl) hopens _
    unfold items
    rw [List.append_assoc, List.append_assoc, hstep]
    rw [List.nil_append] at hvalue
    simp only [hvalue, hread]

/-- The members of an object are read up to its closing bracket. -/
theorem Draft.SpellsMembers.members_append (ds : List (Option String × Draft)) {first : Bool}
    {s : List Char} (h : SpellsMembers first ds s) {fuel : Nat} (hfuel : s.length ≤ fuel)
    (rest : List Char) : members fuel first (s ++ rest) = (ds, true, rest) := by
  cases ds with
  | nil =>
    obtain ⟨blanks, hblanks, rfl⟩ := h
    obtain ⟨fuel, rfl⟩ : ∃ n, fuel = n + 1 := by
      rw [List.length_append, List.length_singleton] at hfuel
      exact ⟨fuel - 1, by omega⟩
    unfold members
    rw [List.append_assoc, List.singleton_append, Step.of_close hblanks (by decide)]
  | cons d ds =>
    obtain ⟨key, d⟩ := d
    obtain ⟨lead, quoted, colon, v, others, hlead, hkey, hcolon, hv, hothers, rfl⟩ := h
    have hlength := hothers.length_pos
    obtain ⟨t, rfl, hquoted⟩ := hkey.quoted?_append (colon ++ (v ++ (others ++ rest)))
    -- The blanks behind the colon are left to the reader of the value.
    obtain ⟨behind, hbehind, hafter⟩ := hcolon.afterColon?_append (v ++ (others ++ rest))
    simp only [List.length_append, List.length_cons] at hfuel
    obtain ⟨fuel, rfl⟩ : ∃ n, fuel = n + 1 := ⟨fuel - 1, by omega⟩
    have hvfuel : v.length ≤ fuel := by omega
    have hfuel' : others.length ≤ fuel := by omega
    have hvalue := hv.value_append d hbehind hvfuel (endsNumber_members hothers rest)
    have hread := hothers.members_append ds hfuel' rest
    have hstep : Step.of '}' first (lead ++ ('"' :: t ++ (colon ++ (v ++ (others ++ rest))))) =
        .next ('"' :: t ++ (colon ++ (v ++ (others ++ rest)))) :=
      Step.of_lead hlead (.inr rfl) (by decide) _
    unfold members
    rw [List.append_assoc, List.append_assoc, List.append_assoc, List.append_assoc, hstep]
    simp only [List.cons_append, key?, hquoted, hafter, hvalue, hread]

end

/-- Reading a text that the grammar allows gives its draft, with nothing left over. -/
theorem Draft.ofText_eq {d : Draft} {text : String} (h : d.SpellsWhole text) :
    Draft.ofText text = (d, true) := by
  obtain ⟨before, v, behind, hbefore, hv, hbehind, htext⟩ := h
  have hends : EndsNumber behind := by
    rw [← List.append_nil behind]
    exact hbehind.endsNumber_append endsNumber_nil
  have hlength : v.length ≤ 2 * text.length + 2 := by
    rw [← String.length_toList, htext]
    simp only [List.length_append]
    omega
  have hread := hv.value_append d hbefore hlength hends
  unfold Draft.ofText
  rw [htext, List.append_assoc, hread]
  simp [hbehind.skipBlanks_eq_nil]

/-! ## Whole values -/

mutual

/-- A value with characters is whole. -/
theorem Draft.Spells.whole_eq (d : Draft) {s : List Char} (h : d.Spells s) : d.whole = true := by
  cases d with
  | broken => exact absurd h (by simp [Draft.Spells])
  | null | boolean | number | text => rfl
  | list items closed =>
    obtain ⟨rfl, inside, hitems, -⟩ := h
    exact Bool.and_eq_true_iff.2 ⟨hitems.wholeItems_eq items, rfl⟩
  | object members closed =>
    obtain ⟨rfl, inside, hmembers, -⟩ := h
    exact Bool.and_eq_true_iff.2 ⟨hmembers.wholeMembers_eq members, rfl⟩

/-- The items of a list with characters are whole. -/
theorem Draft.SpellsItems.wholeItems_eq (ds : List Draft) {first : Bool} {s : List Char}
    (h : SpellsItems first ds s) : wholeItems ds = true := by
  cases ds with
  | nil => rfl
  | cons d ds =>
    obtain ⟨_, _, _, -, hd, hds, -⟩ := h
    exact Bool.and_eq_true_iff.2 ⟨hd.whole_eq d, hds.wholeItems_eq ds⟩

/-- The members of an object with characters are whole. -/
theorem Draft.SpellsMembers.wholeMembers_eq (ds : List (Option String × Draft)) {first : Bool}
    {s : List Char} (h : SpellsMembers first ds s) : wholeMembers ds = true := by
  cases ds with
  | nil => rfl
  | cons d ds =>
    obtain ⟨key, d⟩ := d
    obtain ⟨_, _, _, _, _, -, -, -, hd, hds, -⟩ := h
    exact Bool.and_eq_true_iff.2 ⟨hd.whole_eq d, hds.wholeMembers_eq ds⟩

end

/-- What a text spells is whole. -/
theorem Draft.SpellsWhole.whole_eq {d : Draft} {text : String} (h : d.SpellsWhole text) :
    d.whole = true := by
  obtain ⟨_, _, _, -, hspells, -⟩ := h
  exact hspells.whole_eq d

end MakeLint.Json
