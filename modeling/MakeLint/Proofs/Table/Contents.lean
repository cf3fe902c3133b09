import MakeLint.Table

/-!
# The contents of a table

Look-ups and keys after an insertion, what a search in the order of the keys finds, the sum of the
values of a table of numbers, and the fact that a table is the table of its own entries
(`Table.ofList_toList`).
-/

namespace MakeLint.Table

variable {α : Type}

/-- After an insertion the key has the new value, and every other key the value that it had. -/
theorem get?_insert (t : Table α) (key other : String) (value : α) :
    (t.insert key value).get? other = if other = key then some value else t.get? other := by
  split
  next h => rw [h, get?_insert_self]
  next h => exact get?_insert_of_ne h t value

/-- The keys of a table are the texts that have a value. -/
theorem mem_keys_iff (t : Table α) (key : String) :
    key ∈ t.keys ↔ ∃ value, t.get? key = some value := by
  unfold keys
  rw [List.mem_map]
  constructor
  · rintro ⟨⟨k, value⟩, h, rfl⟩
    exact ⟨value, (get?_eq_some_iff t k value).2 h⟩
  · rintro ⟨value, h⟩
    exact ⟨(key, value), (get?_eq_some_iff t key value).1 h, rfl⟩

/-- Going through a table in the order of its keys finds what the least key gives for which anything
is found. -/
theorem findSome?_toList_eq_some_iff {β : Type} (t : Table α) (find : String × α → Option β)
    (found : β) : t.toList.findSome? find = some found ↔
      ∃ key value, t.get? key = some value ∧ find (key, value) = some found ∧
        ∀ other value', t.get? other = some value' → other < key → find (other, value') = none := by
  rw [List.findSome?_eq_some_iff]
  constructor
  · rintro ⟨before, ⟨key, value⟩, behind, hentries, hfound, hbefore⟩
    have hascending := t.ascending
    rw [hentries] at hascending
    have habove := (List.pairwise_cons.1 (List.pairwise_append.1 hascending).2.1).1
    refine ⟨key, value, (t.get?_eq_some_iff key value).2 (by simp [hentries]), hfound, ?_⟩
    intro other value' hother hlt
    have hmem := (t.get?_eq_some_iff other value').1 hother
    rw [hentries, List.mem_append, List.mem_cons] at hmem
    rcases hmem with h | h | h
    · exact hbefore _ h
    · cases h
      exact absurd hlt (String.lt_irrefl key)
    · exact absurd (String.lt_trans hlt (habove _ h)) (String.lt_irrefl other)
  · rintro ⟨key, value, hvalue, hfound, hbelow⟩
    obtain ⟨before, behind, hentries⟩ :=
      List.append_of_mem ((t.get?_eq_some_iff key value).1 hvalue)
    refine ⟨before, (key, value), behind, hentries, hfound, ?_⟩
    rintro ⟨other, value'⟩ hother
    have hascending := t.ascending
    rw [hentries] at hascending
    have hlt := (List.pairwise_append.1 hascending).2.2 _ hother _ List.mem_cons_self
    have hmem : (other, value') ∈ t.toList := by simp [hentries, hother]
    exact hbelow other value' ((t.get?_eq_some_iff other value').2 hmem) hlt

/-! ## Tables of lists -/

/-- After insertions one after the other a key has the last value that was inserted for it. -/
theorem get?_foldl_insert (pairs : List (String × α)) (t : Table α) (key : String) :
    (pairs.foldl (fun t e => t.insert e.1 e.2) t).get? key =
      ((pairs.filter (·.1 = key)).map (·.2)).getLast?.or (t.get? key) := by
  induction pairs generalizing t with
  | nil => rfl
  | cons e rest ih =>
    rw [List.foldl_cons, ih, get?_insert]
    by_cases h : key = e.1
    · rw [if_pos h, List.filter_cons_of_pos (by simp [h]), List.map_cons, List.getLast?_cons]
      cases ((rest.filter (·.1 = key)).map (·.2)).getLast? <;> rfl
    · rw [if_neg h, List.filter_cons_of_neg (by simpa using Ne.symm h)]

/-- In the table of a list of pairs a key has its last value in the list. -/
theorem get?_ofList (pairs : List (String × α)) (key : String) :
    (ofList pairs).get? key = ((pairs.filter (·.1 = key)).map (·.2)).getLast? := by
  rw [ofList, get?_foldl_insert, get?_empty, Option.or_none]

/-! ## Tables of their own entries -/

/-- An entry whose key is above all others has its place at the end. -/
theorem place_of_lt {key : String} {value : α} {entries : List (String × α)}
    (h : ∀ e ∈ entries, e.1 < key) : place key value entries = entries ++ [(key, value)] := by
  induction entries with
  | nil => rfl
  | cons e rest ih =>
    obtain ⟨k, v⟩ := e
    have hk : k < key := h (k, v) List.mem_cons_self
    have hnot : ¬ key < k := fun hlt => String.lt_irrefl k (String.lt_trans hk hlt)
    have hne : key ≠ k := fun heq => String.lt_irrefl k (heq ▸ hk)
    rw [place, if_neg hnot, if_neg hne, ih fun e he => h e (List.mem_cons_of_mem _ he),
      List.cons_append]

/-- Ascending entries above all keys of a table are inserted behind them. -/
theorem toList_foldl_insert {entries : List (String × α)} {t : Table α}
    (h : (t.toList ++ entries).Pairwise (fun a b => a.1 < b.1)) :
    (entries.foldl (fun t e => t.insert e.1 e.2) t).toList = t.toList ++ entries := by
  induction entries generalizing t with
  | nil => rw [List.foldl_nil, List.append_nil]
  | cons e rest ih =>
    -- The next entry is above all that are there, so it goes to the end.
    have hlast : (t.insert e.1 e.2).toList = t.toList ++ [e] :=
      place_of_lt fun a ha => (List.pairwise_append.1 h).2.2 a ha e List.mem_cons_self
    rw [List.foldl_cons, ih, hlast, List.append_assoc, List.singleton_append]
    rw [hlast, List.append_assoc, List.singleton_append]
    exact h

/-- Tables with the same entries are equal. -/
theorem ext_toList {s t : Table α} (h : s.toList = t.toList) : s = t := by
  obtain ⟨xs, hx⟩ := s
  obtain ⟨ys, hy⟩ := t
  subst h
  rfl

/-- A table is the table of its own entries. -/
theorem ofList_toList (t : Table α) : ofList t.toList = t := by
  apply ext_toList
  exact toList_foldl_insert (t := empty) (by rw [empty, List.nil_append]; exact t.ascending)

/-! ## Sums of values -/

/-- Among ascending entries, a key below the first one has no value. -/
theorem lookup_eq_none_of_lt {key : String} {entries : List (String × α)}
    (h : ∀ e ∈ entries, key < e.1) : entries.lookup key = none := by
  rw [List.lookup_eq_none_iff]
  intro e he
  have hne : key ≠ e.1 := fun heq => String.lt_irrefl e.1 (heq ▸ h e he)
  simpa using hne

/-- Putting a number in its place adds it to the sum of the values, less the number that gives
way. -/
theorem sum_place (key : String) (n : Nat) {entries : List (String × Nat)}
    (h : entries.Pairwise (fun a b => a.1 < b.1)) :
    ((place key n entries).map (·.2)).foldr (· + ·) 0 + (entries.lookup key).getD 0 =
      (entries.map (·.2)).foldr (· + ·) 0 + n := by
  induction entries with
  | nil => simp [place]
  | cons e rest ih =>
    obtain ⟨k, v⟩ := e
    obtain ⟨first, others⟩ := List.pairwise_cons.1 h
    unfold place
    split
    next below =>
      -- A key below the first one is below all of them, so no number gives way.
      have hnone : ((k, v) :: rest).lookup key = none := by
        apply lookup_eq_none_of_lt
        intro e he
        rcases List.mem_cons.1 he with rfl | he
        · exact below
        · exact String.lt_trans below (first e he)
      rw [hnone]
      simp only [List.map_cons, List.foldr_cons, Option.getD_none]
      omega
    next above =>
      split
      next same =>
        subst same
        rw [List.lookup_cons_self]
        simp only [List.map_cons, List.foldr_cons, Option.getD_some]
        omega
      next differs =>
        have ih := ih others
        rw [List.lookup_cons, beq_false_of_ne differs]
        simp only [List.map_cons, List.foldr_cons] at ih ⊢
        omega

/-- After an insertion the sum of the values has the new number in it instead of the old one. -/
theorem sum_values_insert (t : Table Nat) (key : String) (n : Nat) :
    (t.insert key n).values.foldr (· + ·) 0 + (t.get? key).getD 0 =
      t.values.foldr (· + ·) 0 + n :=
  sum_place key n t.ascending

end MakeLint.Table
