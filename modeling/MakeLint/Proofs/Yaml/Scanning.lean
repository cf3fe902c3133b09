import MakeLint.Proofs.Json.Writing
import MakeLint.Proofs.Yaml.Steps

/-!
# Written values are scanned as YAML

`Json.tokens` are the tokens of YAML for a JSON value of texts and objects: a flow mapping for each
object and a double-quoted scalar for each text. `Tokens.Scans` says that some characters are
scanned as some tokens from one state between two tokens to another; it composes by
`Tokens.Scans.append`, so what holds of the pieces of a value holds of the value by induction over
it (`Json.scans_prettyChars`). The result is `Json.tokens_pretty`.
-/

namespace MakeLint

open Yaml (Token Cursor isAdmitted)

/-! ## Values that YAML reads as they are -/

namespace Json

mutual

/-- A value of texts and objects that YAML reads as JSON does. -/
def Portable : Json → Prop
  | .number _ | .list _ => False
  | .text s => Text.IsPrintable s
  | .object members => PortableMembers members

/-- Members with keys and values that YAML reads as JSON does. -/
def PortableMembers : List (String × Json) → Prop
  | [] => True
  | (key, value) :: rest => Text.IsKey key ∧ value.Portable ∧ PortableMembers rest

end

mutual

/-- The tokens of a value of texts and objects. -/
def tokens : Json → List Token
  | .number _ | .list _ => []
  | .text s => [.scalar .double s.toList]
  | .object members => .flowMappingStart :: memberTokens true members

/-- The tokens of an object from one of its members on, up to its closing bracket. -/
def memberTokens (first : Bool) : List (String × Json) → List Token
  | [] => [.flowMappingEnd]
  | (key, value) :: rest =>
    (if first then [] else [.flowEntry]) ++ [.key, .scalar .double key.toList, .value]
      ++ value.tokens ++ memberTokens false rest

end

end Json

/-! ## Scanning piece by piece -/

namespace Yaml.Tokens

/-- Some characters are scanned as some tokens, from one state between two tokens to another. -/
structure Scans (depth : Nat) (keyAllowed : Bool) (chars : List Char) (tokens : List Token)
    (depth' : Nat) (keyAllowed' : Bool) : Prop where
  /-- YAML admits the characters. -/
  admitted : ∀ c ∈ chars, isAdmitted c = true
  /-- The tokens take a number of steps that is bounded by the number of characters. -/
  steps : ∀ (taken : Nat) (c : Cursor) (rest : List Char), c.rest = chars ++ rest →
    ∃ n taken' c', n ≤ 8 * chars.length ∧ c'.rest = rest ∧
      ∀ fuel, run (n + fuel) (between depth keyAllowed taken c) =
        tokens ++ run fuel (between depth' keyAllowed' taken' c')

/-- Two pieces are scanned one after the other. -/
theorem Scans.append {depth depth₁ depth₂ : Nat} {keyAllowed keyAllowed₁ keyAllowed₂ : Bool}
    {chars chars' : List Char} {tokens tokens' : List Token}
    (first : Scans depth keyAllowed chars tokens depth₁ keyAllowed₁)
    (second : Scans depth₁ keyAllowed₁ chars' tokens' depth₂ keyAllowed₂) :
    Scans depth keyAllowed (chars ++ chars') (tokens ++ tokens') depth₂ keyAllowed₂ where
  admitted c hc := (List.mem_append.1 hc).elim (first.admitted c) (second.admitted c)
  steps taken c rest hrest := by
    rw [List.append_assoc] at hrest
    obtain ⟨n, taken₁, c₁, hn, hrest₁, hrun₁⟩ := first.steps taken c _ hrest
    obtain ⟨m, taken₂, c₂, hm, hrest₂, hrun₂⟩ := second.steps taken₁ c₁ _ hrest₁
    refine ⟨n + m, taken₂, c₂, ?_, hrest₂, fun fuel => ?_⟩
    · rw [List.length_append]
      omega
    · rw [Nat.add_assoc, hrun₁, hrun₂, List.append_assoc]

/-- YAML admits the characters of gaps. -/
theorem isAdmitted_gap {gap : List Char} (hgap : IsGap gap) : ∀ c ∈ gap, isAdmitted c = true := by
  intro c hc
  rcases hgap c hc with rfl | rfl <;> decide

/-- A gap and a token behind it that nothing needs to be known about are scanned in two steps. -/
theorem Scans.of_addAt? {gap : List Char} (hgap : IsGap gap) {d : Char} {tail : List Char}
    {depth depth' : Nat} {keyAllowed keyAllowed' : Bool} {token : Token} (hd : isStart d = true)
    (hadmitted : (d :: tail).all isAdmitted = true)
    (hadd : ∀ (taken : Nat) (c : Cursor) (rest : List Char), c.rest = d :: (tail ++ rest) →
      (between (depth + 1) keyAllowed taken c).addAt? d (tail ++ rest) =
        some { between depth' keyAllowed' taken (c.skip (d :: tail).length) with
          queue := [token] }) :
    Scans (depth + 1) keyAllowed (gap ++ d :: tail) [token] depth' keyAllowed' where
  admitted c hc :=
    (List.mem_append.1 hc).elim (isAdmitted_gap hgap c) (List.all_eq_true.1 hadmitted c)
  steps taken c rest hrest := by
    rw [List.append_assoc, List.cons_append] at hrest
    obtain ⟨c', hc', hgo⟩ := between_add? hgap hd depth keyAllowed taken hrest
    -- One step adds the token, and in the next one it leaves the queue.
    refine ⟨2, taken + 1, c'.skip (d :: tail).length, ?_, Cursor.rest_skip hc', fun fuel => ?_⟩
    · simp only [List.length_append, List.length_cons]
      omega
    · rw [show 2 + fuel = 1 + fuel + 1 by omega,
        run_add rfl rfl (hgo.trans (hadd taken c' rest hc'))]
      exact run_queue depth' keyAllowed' taken _ [token] fuel

/-- A bracket behind a colon opens an object. -/
theorem scans_open {gap : List Char} (hgap : IsGap gap) (depth : Nat) :
    Scans (depth + 1) false (gap ++ ['{']) [.flowMappingStart] (depth + 2) true :=
  .of_addAt? hgap (by decide) (by decide) fun taken _ _ hrest =>
    addAt?_open (depth + 1) taken hrest

/-- A bracket closes an object. -/
theorem scans_close {gap : List Char} (hgap : IsGap gap) (depth : Nat) (keyAllowed : Bool) :
    Scans (depth + 1) keyAllowed (gap ++ ['}']) [.flowMappingEnd] depth false :=
  .of_addAt? hgap (by decide) (by decide) fun taken _ _ hrest =>
    addAt?_close depth keyAllowed taken hrest

/-- Behind a comma a key may start. -/
theorem scans_comma (depth : Nat) (keyAllowed : Bool) :
    Scans (depth + 1) keyAllowed [','] [.flowEntry] (depth + 1) true :=
  .of_addAt? isGap_nil (by decide) (by decide) fun taken _ _ hrest =>
    addAt?_comma (depth + 1) keyAllowed taken hrest

/-- A quoted text behind a colon is a scalar. -/
theorem scans_text {gap : List Char} (hgap : IsGap gap) {text : String} (h : Text.IsPrintable text)
    (depth : Nat) :
    Scans (depth + 1) false (gap ++ Json.quote text) [.scalar .double text.toList] (depth + 1)
      false :=
  .of_addAt? hgap (by decide) (List.all_eq_true.2 (QuotedText.isAdmitted_quote h))
    fun taken _ _ hrest => addAt?_text h (depth + 1) taken rfl hrest

/-- A quoted text with a colon behind it is a key. -/
theorem scans_key {gap : List Char} (hgap : IsGap gap) (hline : '\n' ∈ gap) {key : String}
    (h : Text.IsKey key) (depth : Nat) :
    Scans (depth + 1) true (gap ++ Json.quote key ++ [':'])
      [.key, .scalar .double key.toList, .value] (depth + 1) false where
  admitted c hc := by
    simp only [List.mem_append, List.mem_singleton] at hc
    rcases hc with (hc | hc) | rfl
    · exact isAdmitted_gap hgap c hc
    · exact QuotedText.isAdmitted_quote h.printable c hc
    · decide
  steps taken c rest hrest := by
    have hreach := h.length_quote_le
    rw [List.append_assoc, List.append_assoc] at hrest
    obtain ⟨start, hstart, hadd⟩ := add?_key hgap hline h.printable depth taken hrest
      (List.replicate (depth + 1) none) (by simp) (fun c' _ => mapM_refresh? c' (depth + 1)) []
    have hcolon := Cursor.rest_skip hstart
    -- One step adds the scalar, one the colon, and three tokens leave the queue.
    refine ⟨5, taken + 3, _, ?_, Cursor.rest_skip_one hcolon, fun fuel => ?_⟩
    · simp only [List.length_append, List.length_cons]
      omega
    · rw [show 5 + fuel = 4 + fuel + 1 by omega]
      exact (run_add rfl rfl hadd _).trans (run_behindKey depth taken hreach hcolon fuel)

end Yaml.Tokens

/-! ## Values -/

namespace Json

open Yaml.Tokens

/-- The start of a line is a gap. -/
theorem isGap_newLine (level : Nat) : IsGap (newLine level) := by
  intro c hc
  rcases List.mem_cons.1 hc with rfl | hc
  · exact .inr rfl
  · exact .inl (List.eq_of_mem_replicate hc)

/-- A key with what is written before it and the colon behind it. -/
theorem scans_lead {key : String} (h : Text.IsKey key) (depth level : Nat) (first : Bool) :
    Scans (depth + 1) first (leadChars first level ++ quote key ++ [':'])
      ((if first then [] else [.flowEntry]) ++ [.key, .scalar .double key.toList, .value])
      (depth + 1) false := by
  have hkey := scans_key (isGap_newLine level) List.mem_cons_self h depth
  cases first with
  | true => exact hkey
  | false => exact (scans_comma depth false).append hkey

mutual

/-- A value behind a colon is scanned as its tokens. -/
theorem scans_prettyChars (depth level : Nat) (v : Json) (h : v.Portable) :
    Scans (depth + 1) false (' ' :: v.prettyChars level) v.tokens (depth + 1) false := by
  have hspace : IsGap [' '] := by simp [IsGap]
  cases v with
  | number n => exact h.elim
  | list items => exact h.elim
  | text s => exact scans_text hspace h depth
  | object members =>
    have hopen := scans_open hspace depth
    cases members with
    | nil => exact hopen.append (scans_close isGap_nil (depth + 1) true)
    | cons member rest =>
      have hmembers := scans_membersFrom (depth + 1) level true (member :: rest) h
      rw [← prettyMembers_close] at hmembers
      exact hopen.append hmembers

/-- The members of an object are scanned as their tokens. -/
theorem scans_membersFrom (depth level : Nat) (first : Bool) (members : List (String × Json))
    (h : PortableMembers members) :
    Scans (depth + 1) first (membersFrom level first members) (memberTokens first members) depth
      false := by
  cases members with
  | nil => exact scans_close (isGap_newLine level) depth first
  | cons member rest =>
    obtain ⟨key, value⟩ := member
    obtain ⟨hkey, hvalue, hrest⟩ := h
    have hall := ((scans_lead hkey depth (level + 1) first).append
      (scans_prettyChars depth (level + 1) value hvalue)).append
        (scans_membersFrom depth level false rest hrest)
    simpa only [membersFrom, memberTokens, List.append_assoc, List.cons_append, List.nil_append]
      using hall

end

/-- The text of an object with members is scanned as its tokens. -/
theorem tokens_pretty {members : List (String × Json)} (hmembers : members ≠ [])
    (h : PortableMembers members) :
    ofText (object members).pretty.toList = (object members).tokens ++ [.streamEnd] := by
  obtain ⟨⟨key, value⟩, rest, rfl⟩ := List.exists_cons_of_ne_nil hmembers
  obtain ⟨hkey, hvalue, hrest⟩ := h
  -- The first key frees the bracket before it; what follows its colon is scanned piece by piece.
  have hbody := (scans_prettyChars 0 1 value hvalue).append (scans_membersFrom 0 0 false rest hrest)
  have hgap := isGap_newLine 1
  generalize hbodyChars : ' ' :: value.prettyChars 1 ++ membersFrom 0 false rest = body at hbody
  have hchars : (object ((key, value) :: rest)).pretty.toList =
      '{' :: (newLine 1 ++ (quote key ++ ':' :: body)) := by
    calc (object ((key, value) :: rest)).pretty.toList
        = '{' :: (prettyMembers (0 + 1) ((key, value) :: rest) ++ newLine 0 ++ ['}']) := by
          rw [pretty, String.toList_ofList]
          rfl
      _ = '{' :: membersFrom 0 true ((key, value) :: rest) := by rw [prettyMembers_close]
      _ = '{' :: (newLine 1 ++ (quote key ++ ':' :: body)) := by
          simp [membersFrom, leadChars, ← hbodyChars]
  generalize hlist : (object ((key, value) :: rest)).pretty.toList = chars at hchars ⊢
  have hadmitted : chars.all isAdmitted = true := by
    rw [List.all_eq_true, hchars]
    intro c hc
    simp only [List.mem_cons, List.mem_append] at hc
    rcases hc with rfl | hc | hc | rfl | hc
    · decide
    · exact isAdmitted_gap hgap c hc
    · exact Yaml.QuotedText.isAdmitted_quote hkey.printable c hc
    · decide
    · exact hbody.admitted c hc
  obtain ⟨c₁, hc₁, hfirst⟩ := run_first hgap List.mem_cons_self hkey.printable hkey.length_quote_le
    (c := ⟨chars, 0, 0, 0⟩) hchars
  obtain ⟨n, taken, c₂, hn, hc₂, hrun⟩ := hbody.steps 4 c₁ [] (by rw [hc₁, List.append_nil])
  have hlength : body.length + 4 ≤ chars.length := by
    rw [hchars, newLine, quote]
    simp only [List.length_append, List.length_cons]
    omega
  -- The pieces take at most eight steps for each character, so there is fuel left for the ends.
  obtain ⟨spare, hspare⟩ : ∃ spare, 8 * chars.length + 8 = 7 + (n + (3 + spare)) :=
    ⟨8 * chars.length + 8 - (7 + (n + 3)), by omega⟩
  calc ofText chars
      = run (8 * chars.length + 8) (between 0 true 0 ⟨chars, 0, 0, 0⟩) := by
        rw [ofText, if_pos hadmitted]
        rfl
    _ = [.flowMappingStart, .key, .scalar .double key.toList, .value] ++
          (value.tokens ++ memberTokens false rest ++ [.streamEnd]) := by
        rw [hspare, hfirst, hrun, run_end taken hc₂]
    _ = (object ((key, value) :: rest)).tokens ++ [.streamEnd] := by
        simp [tokens, memberTokens]

end Json

end MakeLint
