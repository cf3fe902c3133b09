import MakeLint.Json.Draft

/-!
# The grammar of JSON

`Draft.Spells d s` says that the characters `s` are a JSON value and that `d` is what they hold.
Blanks may stand around brackets, commas and colons; a character of a quoted text may stand for
itself or be escaped in one of two ways; a number has a whole part without leading zeros, perhaps a
fraction and perhaps an exponent. The relation goes through the draft and does not mention the
reader: `Draft.ofText_eq` (in `Proofs/Json/Reading`) says that the reader finds every value that the
grammar allows. There is one lemma for each production, from which spellings are put together.
-/

namespace MakeLint.Json

/-- Only blanks stand in a text. -/
def Blanks (s : List Char) : Prop := ∀ c ∈ s, Draft.isBlank c = true

/-! ## Numbers -/

/-- A run of at least one digit writes the digits `ds`. -/
structure SpellsDigits (ds : List Nat) (s : List Char) : Prop where
  /-- There is a digit. -/
  ne_nil : s ≠ []
  /-- There is nothing else. -/
  isDigit : ∀ c ∈ s, c.isDigit = true
  /-- The digits are taken in order. -/
  eq_map : ds = s.map fun c => c.toNat - '0'.toNat

/-- A fraction is a point with digits behind it. -/
inductive SpellsFraction : Option (List Nat) → List Char → Prop
  | absent : SpellsFraction none []
  | present {ds : List Nat} {s : List Char} (digits : SpellsDigits ds s) :
      SpellsFraction (some ds) ('.' :: s)

/-- The sign of an exponent: none, a plus sign or a minus sign. -/
inductive SpellsSign : Bool → List Char → Prop
  | bare : SpellsSign false []
  | plus : SpellsSign false ['+']
  | minus : SpellsSign true ['-']

/-- An exponent is a letter `e` of either case, a sign and digits. -/
inductive SpellsExponent : Option (Bool × List Nat) → List Char → Prop
  | absent : SpellsExponent none []
  | present {letter : Char} {negative : Bool} {ds : List Nat} {sign s : List Char}
      (mark : letter = 'e' ∨ letter = 'E') (signed : SpellsSign negative sign)
      (digits : SpellsDigits ds s) : SpellsExponent (some (negative, ds)) (letter :: sign ++ s)

/-- The sign of a number: a minus sign or nothing. -/
def signChars (negative : Bool) : List Char := if negative then ['-'] else []

/-- A number is a sign, a whole part, a fraction and an exponent. A whole part of several digits
does not start with a zero. -/
def Literal.Spells (l : Literal) (s : List Char) : Prop :=
  ∃ whole fraction exponent : List Char, SpellsDigits l.whole whole ∧
    (∀ d rest, l.whole ≠ 0 :: d :: rest) ∧ SpellsFraction l.fraction fraction ∧
    SpellsExponent l.exponent exponent ∧
    s = signChars l.negative ++ whole ++ fraction ++ exponent

/-! ## Texts -/

/-- A unit of a quoted text is a character that stands for itself, a letter behind a backslash, or
four hexadecimal digits behind `\u`. -/
inductive Draft.Piece.Spells : Draft.Piece → List Char → Prop
  | itself {c : Char} (printable : 0x20 ≤ c.toNat) (notQuote : c ≠ '"')
      (notBackslash : c ≠ '\\') : Spells (.char c) [c]
  | short {letter c : Char} (stands : Draft.escaped? letter = some c) :
      Spells (.char c) ['\\', letter]
  | code {a b c d : Char} {n : Nat} (digits : Text.numeral? 16 [a, b, c, d] = some n) :
      Spells (.ofCode n) ['\\', 'u', a, b, c, d]

/-- A quoted text is a row of units between quotes; its value joins the halves among the units. -/
def SpellsQuoted (value : Option String) (s : List Char) : Prop :=
  ∃ units : List (Draft.Piece × List Char), (∀ u ∈ units, u.1.Spells u.2) ∧
    value = (Draft.joinHalves (units.map (·.1))).map String.ofList ∧
    s = '"' :: units.flatMap (·.2) ++ ['"']

/-! ## Values -/

/-- What stands before a part of a list or object: blanks, and a comma unless the part is the
first. -/
def Lead (first : Bool) (s : List Char) : Prop :=
  if first then Blanks s
  else ∃ before behind, Blanks before ∧ Blanks behind ∧ s = before ++ ',' :: behind

/-- What stands between a key and its value: a colon among blanks. -/
def Colon (s : List Char) : Prop :=
  ∃ before behind, Blanks before ∧ Blanks behind ∧ s = before ++ ':' :: behind

namespace Draft

mutual

/-- The characters of a value. A draft with a fault in it has none. -/
def Spells : Draft → List Char → Prop
  | .broken, _ => False
  | .null, s => s = ['n', 'u', 'l', 'l']
  | .boolean true, s => s = ['t', 'r', 'u', 'e']
  | .boolean false, s => s = ['f', 'a', 'l', 's', 'e']
  | .number l, s => l.Spells s
  | .text value, s => SpellsQuoted value s
  | .list items closed, s =>
    closed = true ∧ ∃ inside, SpellsItems true items inside ∧ s = '[' :: inside
  | .object members closed, s =>
    closed = true ∧ ∃ inside, SpellsMembers true members inside ∧ s = '{' :: inside

/-- The characters of a list from one of its items on, up to its closing bracket. -/
def SpellsItems (first : Bool) : List Draft → List Char → Prop
  | [], s => ∃ blanks, Blanks blanks ∧ s = blanks ++ [']']
  | item :: rest, s => ∃ lead value others, Lead first lead ∧ Spells item value ∧
      SpellsItems false rest others ∧ s = lead ++ value ++ others

/-- The characters of an object from one of its members on, up to its closing bracket. -/
def SpellsMembers (first : Bool) : List (Option String × Draft) → List Char → Prop
  | [], s => ∃ blanks, Blanks blanks ∧ s = blanks ++ ['}']
  | (key, item) :: rest, s => ∃ lead quoted colon value others, Lead first lead ∧
      SpellsQuoted key quoted ∧ Colon colon ∧ Spells item value ∧
      SpellsMembers false rest others ∧ s = lead ++ quoted ++ colon ++ value ++ others

end

end Draft

/-- A JSON text is a value among blanks. -/
def Draft.SpellsWhole (d : Draft) (text : String) : Prop :=
  ∃ before value behind, Blanks before ∧ d.Spells value ∧ Blanks behind ∧
    text.toList = before ++ value ++ behind

/-! ## Productions -/

/-- There may be no blank at all. -/
theorem blanks_nil : Blanks [] := by simp [Blanks]

/-- The first part may stand right behind its bracket. -/
theorem lead_nil : Lead true [] := blanks_nil

/-- A further part may stand right behind a comma. -/
theorem lead_comma : Lead false [','] := ⟨[], [], blanks_nil, blanks_nil, rfl⟩

/-- A colon may stand right between a key and its value. -/
theorem colon_bare : Colon [':'] := ⟨[], [], blanks_nil, blanks_nil, rfl⟩

/-- The parts of a number stand one behind the other. -/
theorem Literal.spells_mk (negative : Bool) {whole : List Nat} {fraction : Option (List Nat)}
    {exponent : Option (Bool × List Nat)} {w f e : List Char} (hwhole : SpellsDigits whole w)
    (hzero : ∀ d rest, whole ≠ 0 :: d :: rest) (hfraction : SpellsFraction fraction f)
    (hexponent : SpellsExponent exponent e) :
    Literal.Spells ⟨negative, whole, fraction, exponent⟩ (signChars negative ++ w ++ f ++ e) :=
  ⟨w, f, e, hwhole, hzero, hfraction, hexponent, rfl⟩

namespace Draft

/-- A value may be a number. -/
theorem spells_number {l : Literal} {value : List Char} (h : l.Spells value) :
    Spells (.number l) value := h

/-- A value may be a text. -/
theorem spells_text {found : Option String} {value : List Char} (h : SpellsQuoted found value) :
    Spells (.text found) value := h

section Parts

variable {first : Bool} {blanks lead value others : List Char} {item : Draft}

/-- Behind the last item a list is closed. -/
theorem spellsItems_nil (hblanks : Blanks blanks) : SpellsItems first [] (blanks ++ [']']) :=
  ⟨blanks, hblanks, rfl⟩

/-- An item stands in front of the others. -/
theorem spellsItems_cons {rest : List Draft} (hlead : Lead first lead) (hitem : item.Spells value)
    (hrest : SpellsItems false rest others) :
    SpellsItems first (item :: rest) (lead ++ value ++ others) :=
  ⟨lead, value, others, hlead, hitem, hrest, rfl⟩

/-- Behind the last member an object is closed. -/
theorem spellsMembers_nil (hblanks : Blanks blanks) : SpellsMembers first [] (blanks ++ ['}']) :=
  ⟨blanks, hblanks, rfl⟩

/-- A member is a key and a value with a colon between them, in front of the other members. -/
theorem spellsMembers_cons {key : Option String} {quoted colon : List Char}
    {rest : List (Option String × Draft)} (hlead : Lead first lead)
    (hkey : SpellsQuoted key quoted) (hcolon : Colon colon) (hitem : item.Spells value)
    (hrest : SpellsMembers false rest others) :
    SpellsMembers first ((key, item) :: rest) (lead ++ quoted ++ colon ++ value ++ others) :=
  ⟨lead, quoted, colon, value, others, hlead, hkey, hcolon, hitem, hrest, rfl⟩

end Parts

/-- A list is opened in front of its items. -/
theorem spells_list {items : List Draft} {inside : List Char} (h : SpellsItems true items inside) :
    Spells (.list items true) ('[' :: inside) :=
  ⟨rfl, inside, h, rfl⟩

/-- An object is opened in front of its members. -/
theorem spells_object {members : List (Option String × Draft)} {inside : List Char}
    (h : SpellsMembers true members inside) : Spells (.object members true) ('{' :: inside) :=
  ⟨rfl, inside, h, rfl⟩

/-- A value may be the whole text. -/
theorem Spells.spellsWhole {d : Draft} {value : List Char} {text : String} (h : d.Spells value)
    (htext : text.toList = value) : d.SpellsWhole text :=
  ⟨[], value, [], blanks_nil, h, blanks_nil, by rw [htext, List.nil_append, List.append_nil]⟩

end Draft

end MakeLint.Json
