import MakeLint.Text.Pieces
import Mathlib

/-!
# What words, trimmed texts and items are

A word of a text is a maximal run of characters that are not blank (`Text.IsWord`), a text is
trimmed to what stands between the blanks at its two ends (`Text.Trims`), and a text lists the
trimmed non-empty parts between its commas (`Text.Lists`). None of this says how they are found;
`Text.mem_words_iff`, `Text.trim_eq_iff` and `Text.pieces_eq_iff` say that `words`, `trim` and
`pieces` find them.
-/

namespace MakeLint.Text

/-! ## Parts between separators -/

section Parts

variable {α : Type} {separates : α → Bool}

/-- A text with a separator has a first one. -/
theorem exists_eq_append_cons {s : List α} (h : ¬ ∀ c ∈ s, separates c = false) :
    ∃ first c rest, s = first ++ c :: rest ∧ (∀ d ∈ first, separates d = false) ∧
      separates c = true := by
  simp only [not_forall, Bool.not_eq_false] at h
  obtain ⟨c, hc, hseparates⟩ := h
  obtain ⟨b, hfind⟩ := Option.isSome_iff_exists.1 (List.find?_isSome.2 ⟨c, hc, hseparates⟩)
  obtain ⟨hb, first, rest, hs, hfirst⟩ := List.find?_eq_some_iff_append.1 hfind
  exact ⟨first, b, rest, hs, fun d hd => by simpa using hfirst d hd, hb⟩

/-- A part of a text holds no separator, and on each of its sides stands a separator or an end of
the text. -/
def IsPart (separates : α → Bool) (part s : List α) : Prop :=
  (∀ c ∈ part, separates c = false) ∧ ∃ left right, s = left ++ part ++ right ∧
    (∀ c ∈ left.getLast?, separates c = true) ∧ ∀ c ∈ right.head?, separates c = true

/-- The first part of a split is what stands in front of the first separator. -/
theorem mem_splitOnP_append {part right : List α} (hpart : ∀ c ∈ part, separates c = false)
    (hright : ∀ c ∈ right.head?, separates c = true) :
    part ∈ (part ++ right).splitOnP separates := by
  cases right with
  | nil =>
    rw [List.append_nil, List.splitOnP_eq_singleton hpart]
    exact List.mem_singleton_self part
  | cons c rest =>
    rw [List.splitOnP_append_cons_of_forall_mem hpart c (hright c rfl)]
    exact List.mem_cons_self

/-- Every part of a text is found by splitting it. -/
theorem IsPart.mem_splitOnP {part s : List α} (h : IsPart separates part s) :
    part ∈ s.splitOnP separates := by
  obtain ⟨hpart, left, right, rfl, hleft, hright⟩ := h
  have hfirst := mem_splitOnP_append hpart hright
  rw [List.append_assoc]
  rcases List.eq_nil_or_concat left with rfl | ⟨front, c, rfl⟩
  · exact hfirst
  · have hc : separates c = true := hleft c (by simp)
    rw [List.concat_eq_append, List.append_assoc, List.singleton_append,
      List.splitOnP_append_cons front _ hc]
    exact List.mem_append_right _ hfirst

/-- Splitting a text finds only its parts. -/
theorem isPart_of_mem_splitOnP : ∀ {s part : List α}, part ∈ s.splitOnP separates →
    IsPart separates part s
  | s, part, h => by
    by_cases hnone : ∀ c ∈ s, separates c = false
    · rw [List.splitOnP_eq_singleton hnone, List.mem_singleton] at h
      subst h
      exact ⟨hnone, [], [], by simp, by simp, by simp⟩
    · obtain ⟨first, c, rest, hs, hfirst, hc⟩ := exists_eq_append_cons hnone
      rw [hs, List.splitOnP_append_cons_of_forall_mem hfirst c hc, List.mem_cons] at h
      rcases h with rfl | h
      · exact ⟨hfirst, [], c :: rest, by simp [hs], by simp, by simp [hc]⟩
      · -- A part of the rest is one of the whole, with a separator in front of the rest.
        obtain ⟨hpart, left, right, hrest, hleft, hright⟩ := isPart_of_mem_splitOnP h
        refine ⟨hpart, first ++ c :: left, right, by simp [hs, hrest], ?_, hright⟩
        cases left with
        | nil => simp [hc]
        | cons d left => simpa [List.getLast?_cons_cons] using hleft
termination_by s => s.length
decreasing_by rw [hs]; simp; omega

/-- Splitting a text finds its parts and nothing else. -/
theorem mem_splitOnP_iff {s part : List α} :
    part ∈ s.splitOnP separates ↔ IsPart separates part s :=
  ⟨isPart_of_mem_splitOnP, IsPart.mem_splitOnP⟩

end Parts

/-! ## Words -/

/-- A word of a text: a maximal run of characters that are not blank. -/
def IsWord (word s : List Char) : Prop := word ≠ [] ∧ IsPart isBlank word s

/-- `words` finds the words of a text and nothing else. -/
theorem mem_words_iff {word s : List Char} : word ∈ words s ↔ IsWord word s := by
  unfold words IsWord
  rw [List.mem_filter, mem_splitOnP_iff, and_comm]
  simp

instance (word s : List Char) : Decidable (IsWord word s) :=
  decidable_of_iff (word ∈ words s) mem_words_iff

/-- The words on the two sides of a blank are the words of both sides. -/
theorem words_append_cons {c : Char} (h : isBlank c = true) (s t : List Char) :
    words (s ++ c :: t) = words s ++ words t := by
  unfold words
  rw [List.splitOnP_append_cons s t h, List.filter_append]

/-- Blanks in front of a text belong to no word. -/
theorem words_blanks_append {blanks : List Char} (h : ∀ c ∈ blanks, isBlank c = true)
    (t : List Char) : words (blanks ++ t) = words t := by
  induction blanks with
  | nil => rfl
  | cons c rest ih =>
    have hc : words ([] ++ c :: (rest ++ t)) = words [] ++ words (rest ++ t) :=
      words_append_cons (h c List.mem_cons_self) [] (rest ++ t)
    rw [List.cons_append, ← List.nil_append (c :: _), hc,
      ih fun d hd => h d (List.mem_cons_of_mem c hd)]
    rfl

/-- With blanks between them, two texts have the words of the one and then those of the other. -/
theorem words_append {blanks : List Char} (hne : blanks ≠ [])
    (hblanks : ∀ c ∈ blanks, isBlank c = true) (s t : List Char) :
    words (s ++ blanks ++ t) = words s ++ words t := by
  obtain ⟨c, rest, rfl⟩ := List.exists_cons_of_ne_nil hne
  have hrest : ∀ d ∈ rest, isBlank d = true := fun d hd => hblanks d (List.mem_cons_of_mem c hd)
  rw [List.append_assoc, List.cons_append, words_append_cons (hblanks c List.mem_cons_self),
    words_blanks_append hrest]

/-- The words of two texts with blanks between them are the words of either text. -/
theorem isWord_append_iff (word : List Char) {blanks : List Char} (hne : blanks ≠ [])
    (hblanks : ∀ c ∈ blanks, isBlank c = true) (s t : List Char) :
    IsWord word (s ++ blanks ++ t) ↔ IsWord word s ∨ IsWord word t := by
  simp only [← mem_words_iff, words_append hne hblanks, List.mem_append]

/-! ## Trimmed texts -/

/-- A text is trimmed to its core: around the core stand blanks only, and at its ends none. -/
def Trims (s core : List Char) : Prop :=
  ∃ left right, s = left ++ core ++ right ∧ (∀ c ∈ left, isBlank c = true) ∧
    (∀ c ∈ right, isBlank c = true) ∧ (∀ c ∈ core.head?, isBlank c = false) ∧
    ∀ c ∈ core.getLast?, isBlank c = false

/-- A text whose first character is not blank has nothing to drop in front. -/
theorem dropWhile_eq_self {s : List Char} (h : ∀ c ∈ s.head?, isBlank c = false) :
    s.dropWhile isBlank = s := by
  cases s with
  | nil => rfl
  | cons c rest => exact List.dropWhile_cons_of_neg (by simp [h c rfl])

/-- What is left when the blanks in front are dropped does not begin with one. -/
theorem isBlank_head?_dropWhile (s : List Char) :
    ∀ c ∈ (s.dropWhile isBlank).head?, isBlank c = false := by
  intro c hc
  have hnot := List.head?_dropWhile_not isBlank s
  rw [Option.mem_def.1 hc] at hnot
  exact hnot

/-- `trim` finds the core of a text. -/
theorem Trims.trim_eq {s core : List Char} (h : Trims s core) : trim s = core := by
  obtain ⟨left, right, rfl, hleft, hright, hhead, hlast⟩ := h
  have hright' : ∀ c ∈ right.reverse, isBlank c = true := fun c hc =>
    hright c (List.mem_reverse.1 hc)
  have hlast' : ∀ c ∈ core.reverse.head?, isBlank c = false := by
    rw [List.head?_reverse]
    exact hlast
  unfold trim trimEnd
  rw [List.append_assoc, List.dropWhile_append_of_pos hleft]
  cases core with
  | nil =>
    have hnone : right.dropWhile isBlank = [] := List.dropWhile_eq_nil_iff.2 hright
    rw [List.nil_append, hnone]
    rfl
  | cons c rest =>
    rw [dropWhile_eq_self (s := (c :: rest) ++ right) fun d hd => hhead d (by simpa using hd),
      List.reverse_append, List.dropWhile_append_of_pos hright', dropWhile_eq_self hlast',
      List.reverse_reverse]

/-- Every text has a core. -/
theorem exists_trims (s : List Char) : ∃ core, Trims s core := by
  -- Blanks are taken off in front first, and then at the end of what is left.
  let rest := s.dropWhile isBlank
  let core := (rest.reverse.dropWhile isBlank).reverse
  let right := (rest.reverse.takeWhile isBlank).reverse
  have hrest : rest = core ++ right := by
    rw [← List.reverse_append, List.takeWhile_append_dropWhile, List.reverse_reverse]
  refine ⟨core, s.takeWhile isBlank, right, ?_, ?_, ?_, ?_, ?_⟩
  · rw [List.append_assoc, ← hrest, List.takeWhile_append_dropWhile]
  · intro c hc
    exact List.mem_takeWhile_imp hc
  · intro c hc
    exact List.mem_takeWhile_imp (List.mem_reverse.1 hc)
  · intro c hc
    have hfront : c ∈ rest.head? := by
      rw [hrest, List.head?_append, Option.mem_def.1 hc]
      rfl
    exact isBlank_head?_dropWhile s c hfront
  · intro c hc
    rw [List.getLast?_reverse] at hc
    exact isBlank_head?_dropWhile _ c hc

/-- `trim` finds the core of a text and nothing else. -/
theorem trim_eq_iff {s core : List Char} : trim s = core ↔ Trims s core := by
  constructor
  · rintro rfl
    obtain ⟨core, hcore⟩ := exists_trims s
    rw [hcore.trim_eq]
    exact hcore
  · exact Trims.trim_eq

/-! ## Items between commas -/

/-- The items that a text lists: the text is made of parts without a comma, joined by commas; each
part is trimmed, and those with nothing left are no items. -/
def Lists (s : List Char) (items : List (List Char)) : Prop :=
  ∃ parts cores, parts ≠ [] ∧ (∀ part ∈ parts, ',' ∉ part) ∧ [','].intercalate parts = s ∧
    List.Forall₂ Trims parts cores ∧ items = cores.filter (· ≠ [])

/-- Parts are trimmed to cores exactly if the cores are what `trim` makes of the parts. -/
theorem forall₂_trims_iff {parts cores : List (List Char)} :
    List.Forall₂ Trims parts cores ↔ cores = parts.map trim := by
  constructor
  · intro h
    induction h with
    | nil => rfl
    | cons hfirst _ ih => rw [List.map_cons, ← ih, hfirst.trim_eq]
  · rintro rfl
    rw [List.forall₂_map_right_iff, List.forall₂_same]
    intro part _
    exact trim_eq_iff.1 rfl

/-- `pieces` finds the items that a text lists and nothing else. -/
theorem pieces_eq_iff {s : List Char} {items : List (List Char)} :
    pieces s = items ↔ Lists s items := by
  have hfilter (cores : List (List Char)) :
      cores.filter (!·.isEmpty) = cores.filter (· ≠ []) := by
    refine List.filter_congr fun core _ => ?_
    cases core <;> rfl
  unfold pieces
  rw [hfilter]
  constructor
  · rintro rfl
    refine ⟨s.splitOn ',', (s.splitOn ',').map trim, List.splitOn_ne_nil _ _, ?_,
      List.intercalate_splitOn ',', forall₂_trims_iff.2 rfl, rfl⟩
    intro part hpart hcomma
    have hfree := (mem_splitOnP_iff.1 hpart).1 ',' hcomma
    simp at hfree
  · rintro ⟨parts, cores, hne, hfree, rfl, hcores, rfl⟩
    rw [List.splitOn_intercalate ',' hfree hne, forall₂_trims_iff.1 hcores]

/-- A text of blanks and commas lists nothing. -/
theorem pieces_eq_nil {s : List Char} (h : ∀ c ∈ s, isBlank c = true ∨ c = ',') :
    pieces s = [] := by
  unfold pieces
  rw [List.filter_eq_nil_iff]
  intro core hcore
  obtain ⟨part, hpart, rfl⟩ := List.mem_map.1 hcore
  obtain ⟨hfree, left, right, rfl, -⟩ := mem_splitOnP_iff.1 hpart
  have hblank : ∀ c ∈ part, isBlank c = true := by
    intro c hc
    rcases h c (by simp [hc]) with hc' | rfl
    · exact hc'
    · simpa using hfree ',' hc
  have htrims : Trims part [] := ⟨part, [], by simp, hblank, by simp, by simp, by simp⟩
  simp [htrims.trim_eq]

/-- An item is not empty, has no comma in it, and no blank at either end. -/
structure IsItem (item : List Char) : Prop where
  ne_nil : item ≠ []
  noComma : ',' ∉ item
  head : ∀ c ∈ item.head?, isBlank c = false
  last : ∀ c ∈ item.getLast?, isBlank c = false

/-- What a text lists are items. -/
theorem isItem_of_mem_pieces {s item : List Char} (h : item ∈ pieces s) : IsItem item := by
  obtain ⟨hmem, hne⟩ := List.mem_filter.1 h
  obtain ⟨part, hpart, htrim⟩ := List.mem_map.1 hmem
  obtain ⟨hfree, -⟩ := mem_splitOnP_iff.1 hpart
  obtain ⟨left, right, rfl, -, -, hhead, hlast⟩ := trim_eq_iff.1 htrim
  refine ⟨by simpa using hne, fun hcomma => ?_, hhead, hlast⟩
  have hpart := hfree ',' (by simp [hcomma])
  simp at hpart

/-- The items on the two sides of a comma are the items of both sides. -/
theorem pieces_append_comma (s t : List Char) : pieces (s ++ ',' :: t) = pieces s ++ pieces t := by
  unfold pieces
  rw [List.splitOn_append_cons_self, List.map_append, List.filter_append]

/-- Texts that are joined by commas list what each of them lists, in their order. -/
theorem pieces_intercalate (texts : List (List Char)) :
    pieces ([','].intercalate texts) = texts.flatMap pieces := by
  induction texts with
  | nil => rfl
  | cons s texts ih =>
    cases texts with
    | nil => simp
    | cons t texts =>
      rw [List.intercalate_cons_cons, List.append_assoc, List.singleton_append,
        pieces_append_comma, ih]
      rfl

/-- An item between blanks is listed alone. -/
theorem IsItem.pieces_eq {left item right : List Char} (h : IsItem item)
    (hleft : ∀ c ∈ left, isBlank c = true) (hright : ∀ c ∈ right, isBlank c = true) :
    pieces (left ++ item ++ right) = [item] := by
  have hblank {blanks : List Char} (hblanks : ∀ c ∈ blanks, isBlank c = true) : ',' ∉ blanks :=
    fun hcomma => absurd (hblanks ',' hcomma) (by decide)
  have hfree : ',' ∉ left ++ item ++ right := by
    simp [hblank hleft, h.noComma, hblank hright]
  have htrims : Trims (left ++ item ++ right) item :=
    ⟨left, right, rfl, hleft, hright, h.head, h.last⟩
  unfold pieces
  rw [List.splitOn_eq_singleton hfree, List.map_singleton, htrims.trim_eq]
  simp [h.ne_nil]

end MakeLint.Text
