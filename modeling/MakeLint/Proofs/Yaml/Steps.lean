import MakeLint.Proofs.Yaml.Quoted
import MakeLint.Yaml.Tokens

/-!
# The tokens of JSON punctuation in YAML

The characters that structure a JSON text are tokens of YAML too, as long as quoted texts are its
only scalars: brackets, commas, and colons behind quoted keys. Between two of them nothing waits and
there is no candidate, so the state is one of `Tokens.between`, and each character takes one such
state to another. Only a key is different: behind its text the scanner is in the state
`Tokens.behindKey` and waits for the colon, which must come within 1024 characters
(`Tokens.run_behindKey`).
-/

namespace MakeLint.Yaml.Tokens

open Text (IsPrintable)

/-! ## Gaps -/

/-- The characters that tokens start with here. -/
def isStart (d : Char) : Bool := d ∈ ['{', '}', ',', ':', '"']

/-- Only spaces and line ends stand in a text. -/
def IsGap (gap : List Char) : Prop := ∀ c ∈ gap, c = ' ' ∨ c = '\n'

/-- A gap may be empty. -/
theorem isGap_nil : IsGap [] := by
  intro c hc
  cases hc

/-- A character that neither is part of a gap nor starts a comment. -/
def endsGap (d : Char) : Bool := d ∉ [' ', '\t', '#', '\ufeff']

/-- A token's first character is no part of a gap. -/
theorem endsGap_of_isStart {d : Char} (h : isStart d = true) :
    endsGap d = true ∧ isBreak d = false := by
  simp only [isStart, List.mem_cons, List.not_mem_nil, or_false, decide_eq_true_eq] at h
  rcases h with rfl | rfl | rfl | rfl | rfl <;> decide

/-- Spaces are gone over up to the next character of another kind. -/
theorem skipWhile_spaces {p : Char → Bool} (hspace : p ' ' = true) {c : Cursor} {n : Nat} {d : Char}
    {rest : List Char} (hrest : c.rest = List.replicate n ' ' ++ d :: rest) (hd : p d = false) :
    c.skipWhile p = c.skip n := by
  have htake : c.rest.takeWhile p = List.replicate n ' ' := by
    rw [hrest, List.takeWhile_append_of_pos (by simp [hspace]),
      List.takeWhile_cons_of_neg (by simp [hd]), List.append_nil]
  rw [Cursor.skipWhile, htake, List.length_replicate]

/-- The spaces at the start of a line are gone over, and perhaps the end of the line. -/
theorem skipGap_spaces {s : Tokens} {n : Nat} {d : Char} {rest : List Char}
    (hrest : s.cursor.rest = List.replicate n ' ' ++ d :: rest) (hd : endsGap d = true)
    (fuel : Nat) : skipGap (fuel + 1) s =
      if isBreak d then
        skipGap fuel { s with
          cursor := (s.cursor.skip n).takeBreak.2, keyAllowed := s.keyAllowed || !s.inFlow }
      else { s with cursor := s.cursor.skip n } := by
  simp only [endsGap, List.mem_cons, List.not_mem_nil, or_false, not_or, decide_eq_true_eq] at hd
  obtain ⟨hspace, htab, hcomment, hmark⟩ := hd
  have hskipMark : skipMark s.cursor = s.cursor := by
    have hsees : s.cursor.sees '\ufeff' = false := by
      cases n <;> simp [Cursor.sees, hrest, List.replicate_succ, hmark]
    simp [skipMark, hsees]
  have hleft : (s.cursor.skip n).rest = d :: rest := by simpa using Cursor.rest_skip hrest
  have hskip : s.cursor.skipWhile (fun ch => ch = ' ' ∨ ((s.inFlow ∨ ¬s.keyAllowed) ∧ ch = '\t')) =
      s.cursor.skip n := skipWhile_spaces (by simp) hrest (by simp [hspace, htab])
  have hnone : (s.cursor.skip n).sees '#' = false := by simp [Cursor.sees, hleft, hcomment]
  simp only [skipGap, hskipMark, hskip, hnone, hleft, startsBreak, Bool.false_eq_true, if_false]

/-- At a token there is no gap to go over. -/
theorem skipGap_start {s : Tokens} {d : Char} {rest : List Char} (hrest : s.cursor.rest = d :: rest)
    (hd : isStart d = true) (fuel : Nat) : skipGap (fuel + 1) s = s := by
  obtain ⟨hends, hbreak⟩ := endsGap_of_isStart hd
  rw [skipGap_spaces (n := 0) hrest hends fuel, hbreak]
  rfl

/-- Inside a flow collection, a gap is gone over up to the next token. -/
theorem skipGap_gap (fuel : Nat) {gap : List Char} (hgap : IsGap gap) {s : Tokens}
    (hflow : s.inFlow = true) {d : Char} {rest : List Char}
    (hrest : s.cursor.rest = gap ++ d :: rest) (hd : isStart d = true)
    (hfuel : gap.length < fuel) :
    ∃ c, skipGap fuel s = { s with cursor := c } ∧ c.rest = d :: rest ∧
      s.cursor.line ≤ c.line ∧ ('\n' ∈ gap → s.cursor.line < c.line) := by
  induction fuel generalizing gap s with
  | zero => omega
  | succ fuel ih =>
    obtain ⟨hends, hbreak⟩ := endsGap_of_isStart hd
    obtain ⟨n, others, rfl, hothers⟩ := QuotedText.exists_spaces gap
    rw [List.append_assoc] at hrest
    cases others with
    | nil =>
      refine ⟨s.cursor.skip n, ?_, by simpa using Cursor.rest_skip hrest, Nat.le_refl _, ?_⟩
      · rw [skipGap_spaces hrest hends fuel, hbreak]
        rfl
      · simp
    | cons e others =>
      obtain rfl : e = '\n' := by
        rcases hgap e (by simp) with rfl | rfl
        · simp at hothers
        · rfl
      -- The line ends here, and the rest of the gap starts on the next line.
      have hleft : (s.cursor.skip n).rest = '\n' :: (others ++ d :: rest) := by
        simpa using Cursor.rest_skip hrest
      have htake : (s.cursor.skip n).takeBreak.2 =
          ⟨others ++ d :: rest, s.cursor.index + n + 1, s.cursor.line + 1, 0⟩ := by
        simp only [Cursor.takeBreak, hleft]
        rfl
      have hkey : (s.keyAllowed || !s.inFlow) = s.keyAllowed := by simp [hflow]
      have hothers : IsGap others := fun c hc => hgap c (by simp [hc])
      have hshorter : others.length < fuel := by
        simp at hfuel
        omega
      obtain ⟨c, hskip, hc, hline, -⟩ :=
        ih (s := { s with cursor := (s.cursor.skip n).takeBreak.2 }) hothers hflow (by rw [htake])
          hshorter
      have hline' : s.cursor.line < c.line := by
        rw [htake] at hline
        exact hline
      refine ⟨c, ?_, hc, Nat.le_of_lt hline', fun _ => hline'⟩
      rw [skipGap_spaces hrest (by decide) fuel, if_pos (by decide), hkey, hskip]

/-! ## Steps -/

/-- With nothing in the queue a token is added. -/
theorem run_add {s s' : Tokens} (hqueue : s.queue = []) (hended : s.ended = false)
    (hadd : s.add? = some s') (fuel : Nat) : run (fuel + 1) s = run fuel s' := by
  simp [run, hqueue, hended, hadd, run.next]

/-- As long as the first token of the queue waits, tokens are added behind it. -/
theorem run_wait {s s' s'' : Tokens} {t : Token} {queue : List Token}
    (hqueue : s.queue = t :: queue) (hrefresh : s.refreshAll? = some s') (hwaits : s'.waits = true)
    (hadd : s'.add? = some s'') (fuel : Nat) : run (fuel + 1) s = run fuel s'' := by
  simp [run, hqueue, hrefresh, hwaits, hadd, run.next]

/-- A first token that does not wait leaves the queue. -/
theorem run_leave {s s' : Tokens} {t : Token} {queue : List Token} (hqueue : s.queue = t :: queue)
    (hrefresh : s.refreshAll? = some s') (hwaits : s'.waits = false) (fuel : Nat) :
    run (fuel + 1) s = t :: run fuel { s' with queue, taken := s'.taken + 1 } := by
  simp [run, hqueue, hrefresh, hwaits]

/-! ## Tokens -/

/-- The state between two tokens inside of some flow collections, with nothing to wait for. -/
def between (depth : Nat) (keyAllowed : Bool) (taken : Nat) (c : Cursor) : Tokens :=
  { cursor := c, outer := List.replicate depth none, keyAllowed, taken }

/-- Where there are no candidates, none is given up. -/
theorem mapM_refresh? (c : Cursor) (depth : Nat) :
    (List.replicate depth none).mapM (refresh? c) = some (List.replicate depth none) := by
  induction depth with
  | zero => rfl
  | succ depth ih =>
    rw [List.replicate_succ, List.mapM_cons, ih]
    rfl

/-- Tokens that do not wait leave the queue one after the other. -/
theorem run_queue (depth : Nat) (keyAllowed : Bool) (taken : Nat) (c : Cursor) (queue : List Token)
    (fuel : Nat) : run (queue.length + fuel) { between depth keyAllowed taken c with queue } =
      queue ++ run fuel (between depth keyAllowed (taken + queue.length) c) := by
  induction queue generalizing taken with
  | nil =>
    rw [List.length_nil, Nat.zero_add]
    rfl
  | cons t queue ih =>
    have hrefresh : { between depth keyAllowed taken c with queue := t :: queue }.refreshAll? =
        some { between depth keyAllowed taken c with queue := t :: queue } := by
      simp [refreshAll?, between, mapM_refresh?, refresh?]
    have hstep : run (queue.length + fuel + 1)
        { between depth keyAllowed taken c with queue := t :: queue } =
          t :: run (queue.length + fuel) { between depth keyAllowed (taken + 1) c with queue } :=
      run_leave rfl hrefresh (by simp [waits, between]) _
    rw [List.length_cons, Nat.add_right_comm, hstep, ih, Nat.add_assoc, Nat.add_comm 1]
    rfl

/-- No document mark starts as a token does here. -/
theorem seesMark_eq_false {c : Cursor} {d : Char} {rest : List Char} (hrest : c.rest = d :: rest)
    (hd : isStart d = true) : c.seesMark '-' = false ∧ c.seesMark '.' = false := by
  have hhyphen : d ≠ '-' := by
    rintro rfl
    exact absurd hd (by decide)
  have hpoint : d ≠ '.' := by
    rintro rfl
    exact absurd hd (by decide)
  simp [Cursor.seesMark, hrest, hhyphen, hpoint]

/-- Outside of block collections none is closed. -/
theorem dedentTo_eq {s : Tokens} (hindents : s.indents = []) (column : Int) :
    s.dedentTo column = s := by
  unfold dedentTo
  split
  · rfl
  · rw [hindents, closeBlocks]

/-- The next token is the one behind the gap, once the candidates out of reach are given up. -/
theorem add?_eq {s s₁ s₂ : Tokens} {d : Char} {rest : List Char}
    (hskip : skipGap (s.cursor.rest.length + 1) s = s₁) (hrefresh : s₁.refreshAll? = some s₂)
    (hindents : s₂.indents = []) (hrest : s₂.cursor.rest = d :: rest) :
    s.add? = s₂.addAt? d rest := by
  simp [add?, hskip, hrefresh, dedentTo_eq hindents, hrest]

/-- Between two tokens inside of a flow collection, the next token is the one behind the gap. -/
theorem between_add? {gap : List Char} (hgap : IsGap gap) {d : Char} {rest : List Char}
    (hd : isStart d = true) (depth : Nat) (keyAllowed : Bool) (taken : Nat) {c : Cursor}
    (hrest : c.rest = gap ++ d :: rest) :
    ∃ c', c'.rest = d :: rest ∧ (between (depth + 1) keyAllowed taken c).add? =
      (between (depth + 1) keyAllowed taken c').addAt? d rest := by
  have hfuel : gap.length < c.rest.length + 1 := by
    rw [hrest, List.length_append]
    omega
  obtain ⟨c', hskip, hc', -, -⟩ := skipGap_gap (s := between (depth + 1) keyAllowed taken c)
    (c.rest.length + 1) hgap rfl hrest hd hfuel
  refine ⟨c', hc', add?_eq hskip ?_ rfl hc'⟩
  simp [refreshAll?, between, mapM_refresh?, refresh?]

/-- A bracket behind a colon opens an object. -/
theorem addAt?_open (depth taken : Nat) {c : Cursor} {rest : List Char}
    (hrest : c.rest = '{' :: rest) : (between depth false taken c).addAt? '{' rest =
      some { between (depth + 1) true taken (c.skip 1) with queue := [.flowMappingStart] } := by
  have hmark := seesMark_eq_false hrest (by decide)
  simp [addAt?, between, hmark, openFlow?, markCandidate?, emit, List.replicate_succ]

/-- A bracket closes the innermost object. -/
theorem addAt?_close (depth : Nat) (keyAllowed : Bool) (taken : Nat) {c : Cursor} {rest : List Char}
    (hrest : c.rest = '}' :: rest) : (between (depth + 1) keyAllowed taken c).addAt? '}' rest =
      some { between depth false taken (c.skip 1) with queue := [.flowMappingEnd] } := by
  have hmark := seesMark_eq_false hrest (by decide)
  simp [addAt?, between, hmark, closeFlow?, dropCandidate?, emit, List.replicate_succ]

/-- Behind a comma a key may start. -/
theorem addAt?_comma (depth : Nat) (keyAllowed : Bool) (taken : Nat) {c : Cursor} {rest : List Char}
    (hrest : c.rest = ',' :: rest) : (between depth keyAllowed taken c).addAt? ',' rest =
      some { between depth true taken (c.skip 1) with queue := [.flowEntry] } := by
  have hmark := seesMark_eq_false hrest (by decide)
  simp [addAt?, between, hmark, flowEntry?, dropCandidate?, emit]

/-- A quoted text behind a colon is a scalar. -/
theorem addAt?_text {text : String} (h : IsPrintable text) (depth taken : Nat)
    {c : Cursor} {tail rest : List Char} (hquote : Json.quote text ++ rest = '"' :: tail)
    (hrest : c.rest = '"' :: tail) :
    (between depth false taken c).addAt? '"' tail =
      some { between depth false taken (c.skip (Json.quote text).length) with
        queue := [.scalar .double text.toList] } := by
  have hmark := seesMark_eq_false hrest (by decide)
  have hread := QuotedText.ofCursor_quote h (hrest.trans hquote.symm)
  simp [addAt?, between, hmark, quoted?, nodePart?, markCandidate?, hread, emit]

/-! ## Keys -/

/-- The state behind a quoted text that may turn out to be a key. -/
def behindKey (depth taken : Nat) (start : Cursor) (text : String) : Tokens :=
  { between depth false taken (start.skip (Json.quote text).length) with
    candidate := some ⟨false, taken, start.index, start.line, start.column⟩
    queue := [.scalar .double text.toList] }

/-- Where a key may start, a quoted text on a new line may turn out to be one. The tokens that wait
for other candidates are freed, since these are out of reach behind the line end. -/
theorem add?_key {gap : List Char} (hgap : IsGap gap) (hline : '\n' ∈ gap) {text : String}
    (h : IsPrintable text) (depth taken : Nat) {c : Cursor} {rest : List Char}
    (hrest : c.rest = gap ++ (Json.quote text ++ rest)) (outer : List (Option Candidate))
    (hflow : outer ≠ []) (houter : ∀ c' : Cursor, c.line < c'.line →
      outer.mapM (refresh? c') = some (List.replicate (depth + 1) none)) (queue : List Token) :
    ∃ start, start.rest = Json.quote text ++ rest ∧
      { between 0 true taken c with outer, queue }.add? =
        some { behindKey (depth + 1) (taken + queue.length) start text with
          taken, queue := queue ++ [.scalar .double text.toList] } := by
  obtain ⟨tail, htail⟩ : ∃ tail, Json.quote text ++ rest = '"' :: tail := ⟨_, rfl⟩
  rw [htail] at hrest
  have hfuel : gap.length < c.rest.length + 1 := by
    rw [hrest, List.length_append]
    omega
  have hin : { between 0 true taken c with outer, queue }.inFlow = true := by simp [inFlow, hflow]
  -- The gap ends on a later line, where nothing before it is within reach.
  obtain ⟨start, hskip, hstart, -, hlater⟩ :=
    skipGap_gap (c.rest.length + 1) hgap hin hrest (by decide) hfuel
  have hrefresh : { between 0 true taken start with outer, queue }.refreshAll? =
      some { between (depth + 1) true taken start with queue } := by
    simp [refreshAll?, between, houter start (hlater hline), refresh?]
  have hmark := seesMark_eq_false hstart (by decide)
  have hread := QuotedText.ofCursor_quote h (hstart.trans htail.symm)
  refine ⟨start, hstart.trans htail.symm, (add?_eq hskip hrefresh rfl hstart).trans ?_⟩
  simp [addAt?, between, behindKey, hmark, quoted?, nodePart?, markCandidate?, dropCandidate?,
    hread, emit, inFlow]

/-- Behind a text of at most 1024 characters its start is still within reach of a colon. -/
theorem refreshAll?_behindKey (depth number : Nat) (start : Cursor) {text : String}
    (hreach : (Json.quote text).length ≤ 1024) (taken : Nat) (queue : List Token) :
    { behindKey depth number start text with taken, queue }.refreshAll? =
      some { behindKey depth number start text with taken, queue } := by
  have hindex : ¬ start.index + 1024 < start.index + (Json.quote text).length := by omega
  have hstale : Candidate.isStale ⟨false, number, start.index, start.line, start.column⟩
      (start.skip (Json.quote text).length) = false := by
    simp [Candidate.isStale, Cursor.skip, hindex]
  simp [refreshAll?, behindKey, between, mapM_refresh?, refresh?, hstale]

/-- A colon behind a quoted text within reach makes it a key. -/
theorem run_behindKey (depth taken : Nat) {start : Cursor} {text : String} {rest : List Char}
    (hreach : (Json.quote text).length ≤ 1024)
    (hrest : (start.skip (Json.quote text).length).rest = ':' :: rest) (fuel : Nat) :
    run (4 + fuel) (behindKey (depth + 1) taken start text) =
      [.key, .scalar .double text.toList, .value] ++
        run fuel (between (depth + 1) false (taken + 3)
          ((start.skip (Json.quote text).length).skip 1)) := by
  have hrefresh : (behindKey (depth + 1) taken start text).refreshAll? =
      some (behindKey (depth + 1) taken start text) :=
    refreshAll?_behindKey (depth + 1) taken start hreach taken [.scalar .double text.toList]
  have hwaits : (behindKey (depth + 1) taken start text).waits = true := by
    simp [waits, behindKey, between]
  -- The colon puts the mark of a key in front of the scalar that waits.
  have hadd : (behindKey (depth + 1) taken start text).add? =
      some { between (depth + 1) false taken ((start.skip (Json.quote text).length).skip 1) with
        queue := [.key, .scalar .double text.toList, .value] } := by
    have hmark := seesMark_eq_false hrest (by decide)
    rw [add?_eq (skipGap_start hrest (by decide) _) hrefresh rfl hrest]
    simp [addAt?, behindKey, between, hmark, inFlow, value?, emitAt, emit, indentTo]
  have hstep := run_wait rfl hrefresh hwaits hadd (3 + fuel)
  rw [show 4 + fuel = 3 + fuel + 1 by omega, hstep]
  exact run_queue (depth + 1) false taken _ [.key, .scalar .double text.toList, .value] fuel

/-! ## The start and the end of a text -/

/-- The first bracket of a text could be the start of a key. It waits for the first key inside,
which is on another line. -/
theorem run_first {gap : List Char} (hgap : IsGap gap) (hline : '\n' ∈ gap) {text : String}
    (h : IsPrintable text) (hreach : (Json.quote text).length ≤ 1024) {c : Cursor}
    {rest : List Char} (hrest : c.rest = '{' :: (gap ++ (Json.quote text ++ ':' :: rest))) :
    ∃ c', c'.rest = rest ∧ ∀ fuel, run (7 + fuel) (between 0 true 0 c) =
      [.flowMappingStart, .key, .scalar .double text.toList, .value] ++
        run fuel (between 1 false 4 c') := by
  let bracket : Candidate := ⟨false, 0, c.index, c.line, c.column⟩
  let opened : Tokens :=
    { between 0 true 0 (c.skip 1) with outer := [some bracket], queue := [.flowMappingStart] }
  have hopen : (between 0 true 0 c).add? = some opened := by
    have hmark := seesMark_eq_false hrest (by decide)
    rw [add?_eq (skipGap_start hrest (by decide) _) rfl rfl hrest]
    simp [addAt?, between, hmark, openFlow?, markCandidate?, dropCandidate?, emit, opened, bracket,
      inFlow]
  have hleft : (c.skip 1).rest = gap ++ (Json.quote text ++ ':' :: rest) :=
    Cursor.rest_skip_one hrest
  -- Behind the line end the bracket is out of reach of a colon.
  have hstale (c' : Cursor) (hc' : c.line < c'.line) :
      [some bracket].mapM (refresh? c') = some (List.replicate (0 + 1) none) := by
    have : bracket.isStale c' = true := by simp [Candidate.isStale, bracket, hc']
    simp [refresh?, this, bracket]
  obtain ⟨start, hstart, hkey⟩ :=
    add?_key hgap hline h 0 0 hleft [some bracket] (List.cons_ne_nil _ _) hstale [.flowMappingStart]
  have hcolon := Cursor.rest_skip hstart
  refine ⟨(start.skip (Json.quote text).length).skip 1,
    Cursor.rest_skip_one hcolon, fun fuel => ?_⟩
  have hwait : opened.refreshAll? = some opened ∧ opened.waits = true := by
    have : bracket.isStale (c.skip 1) = false := by simp [Candidate.isStale, bracket, Cursor.skip]
    simp [refreshAll?, waits, opened, between, refresh?, this, bracket]
  calc run (7 + fuel) (between 0 true 0 c)
      = run (6 + fuel) opened := by
        rw [show 7 + fuel = 6 + fuel + 1 by omega]
        exact run_add rfl rfl hopen _
    _ = run (5 + fuel) { behindKey 1 1 start text with
          taken := 0, queue := [.flowMappingStart, .scalar .double text.toList] } := by
        rw [show 6 + fuel = 5 + fuel + 1 by omega]
        exact run_wait rfl hwait.1 hwait.2 hkey _
    _ = .flowMappingStart :: run (4 + fuel) (behindKey 1 1 start text) := by
        rw [show 5 + fuel = 4 + fuel + 1 by omega]
        exact run_leave rfl (refreshAll?_behindKey 1 1 start hreach 0 _) rfl _
    _ = [.flowMappingStart, .key, .scalar .double text.toList, .value] ++
          run fuel (between 1 false 4 ((start.skip (Json.quote text).length).skip 1)) := by
        rw [run_behindKey 0 1 hreach hcolon]
        rfl

/-- The end of the text ends the tokens. -/
theorem run_end (taken : Nat) {c : Cursor} (hrest : c.rest = []) (fuel : Nat) :
    run (3 + fuel) (between 0 false taken c) = [.streamEnd] := by
  have hskip : skipGap (c.rest.length + 1) (between 0 false taken c) = between 0 false taken c := by
    have hmark : skipMark c = c := by simp [skipMark, Cursor.sees, hrest]
    have hspaces (p : Char → Bool) : c.skipWhile p = c := by
      simp [Cursor.skipWhile, hrest, Cursor.skip_zero]
    simp [skipGap, between, hmark, hspaces, Cursor.sees, hrest, startsBreak]
  have hadd : (between 0 false taken c).add? = (between 0 false taken c).endText? := by
    have hrefresh : (between 0 false taken c).refreshAll? = some (between 0 false taken c) := rfl
    have hrest' : (between 0 false taken c).cursor.rest = [] := hrest
    unfold add?
    rw [show (between 0 false taken c).cursor = c from rfl, hskip, hrefresh]
    simp [dedentTo_eq (s := between 0 false taken c) rfl, hrest']
  let c' : Cursor := if c.column = 0 then c else { c with line := c.line + 1, column := 0 }
  have hend : (between 0 false taken c).endText? =
      some { between 0 false taken c' with queue := [.streamEnd], ended := true } := by
    simp only [endText?, dedentTo_eq, between, dropCandidate?, emit, Option.any_none,
      Bool.false_eq_true, if_false, Option.map_some]
    rfl
  have hrefresh :
      { between 0 false taken c' with queue := [.streamEnd], ended := true }.refreshAll? =
        some { between 0 false taken c' with queue := [.streamEnd], ended := true } := rfl
  calc run (3 + fuel) (between 0 false taken c)
      = run (2 + fuel)
          { between 0 false taken c' with queue := [.streamEnd], ended := true } := by
        rw [show 3 + fuel = 2 + fuel + 1 by omega]
        exact run_add rfl rfl (hadd.trans hend) _
    _ = .streamEnd :: run (1 + fuel) { between 0 false (taken + 1) c' with ended := true } := by
        rw [show 2 + fuel = 1 + fuel + 1 by omega]
        exact run_leave rfl hrefresh rfl _
    _ = [.streamEnd] := by
        rw [show 1 + fuel = fuel + 1 by omega]
        simp [run, between]

end MakeLint.Yaml.Tokens
