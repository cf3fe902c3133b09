/-!
# Tables ordered by key

A `Table` holds one value under each of its keys, in ascending order of the keys. Texts are ordered
by code point. A table has one form for each content: `Table.ext_get?` says that two tables with
the same look-ups are equal, so neither the order of insertion nor an overwritten value leaves a
trace.
-/

namespace MakeLint

/-- Values under text keys, in ascending order of the keys. -/
structure Table (α : Type) where
  /-- The keys with their values. -/
  toList : List (String × α)
  /-- Keys ascend, so none occurs twice. -/
  ascending : toList.Pairwise (fun a b => a.1 < b.1)
  deriving DecidableEq

namespace Table

variable {α : Type}

/-- The table without keys. -/
def empty : Table α := ⟨[], .nil⟩

instance : Inhabited (Table α) := ⟨empty⟩

/-- Puts a value in its place among entries in ascending order; a value under the same key gives
way. -/
def place (key : String) (value : α) : List (String × α) → List (String × α)
  | [] => [(key, value)]
  | (k, v) :: rest =>
    if key < k then (key, value) :: (k, v) :: rest
    else if key = k then (key, value) :: rest
    else (k, v) :: place key value rest

theorem eq_or_mem_of_mem_place {key : String} {value : α} {e : String × α} :
    ∀ {entries : List (String × α)}, e ∈ place key value entries → e = (key, value) ∨ e ∈ entries
  | [], h => by simpa [place] using h
  | (k, v) :: rest, h => by
    unfold place at h
    split at h
    · simpa using h
    · split at h
      · rcases List.mem_cons.1 h with h | h
        · exact .inl h
        · exact .inr (.tail _ h)
      · rcases List.mem_cons.1 h with h | h
        · exact .inr (h ▸ .head _)
        · exact (eq_or_mem_of_mem_place h).imp id (.tail _)

/-- A key that is neither below another nor equal to it is above it. -/
theorem lt_of_not_lt_of_ne {a b : String} (h : ¬ a < b) (hne : a ≠ b) : b < a :=
  Std.lt_of_le_of_ne (Std.not_lt.1 h) hne.symm

theorem ascending_place (key : String) (value : α) :
    ∀ {entries : List (String × α)}, entries.Pairwise (fun a b => a.1 < b.1) →
      (place key value entries).Pairwise (fun a b => a.1 < b.1)
  | [], _ => List.pairwise_singleton ..
  | (k, v) :: rest, h => by
    obtain ⟨first, others⟩ := List.pairwise_cons.1 h
    unfold place
    split
    next below =>
      refine List.pairwise_cons.2 ⟨fun e he => ?_, h⟩
      rcases List.mem_cons.1 he with rfl | he
      · exact below
      · exact String.lt_trans below (first e he)
    next above =>
      split
      next same => exact List.pairwise_cons.2 ⟨fun e he => same ▸ first e he, others⟩
      next differs =>
        refine List.pairwise_cons.2 ⟨fun e he => ?_, ascending_place key value others⟩
        rcases eq_or_mem_of_mem_place he with rfl | he
        · exact lt_of_not_lt_of_ne above differs
        · exact first e he

/-- Sets the value of a key; an earlier value of the key is lost. -/
def insert (t : Table α) (key : String) (value : α) : Table α :=
  ⟨place key value t.toList, ascending_place key value t.ascending⟩

/-- The value of a key. -/
def get? (t : Table α) (key : String) : Option α := t.toList.lookup key

/-- Whether a key has a value. -/
def contains (t : Table α) (key : String) : Bool := (t.get? key).isSome

/-- Whether the table has no key. -/
def isEmpty (t : Table α) : Bool := t.toList.isEmpty

/-- The keys, ascending. -/
def keys (t : Table α) : List String := t.toList.map (·.1)

/-- The values, in the order of their keys. -/
def values (t : Table α) : List α := t.toList.map (·.2)

/-- The table of a list of pairs: of two pairs with one key, the later counts. -/
def ofList (pairs : List (String × α)) : Table α :=
  pairs.foldl (fun t e => t.insert e.1 e.2) empty

theorem lookup_place_self (key : String) (value : α) (entries : List (String × α)) :
    (place key value entries).lookup key = some value := by
  induction entries with
  | nil => simp [place]
  | cons e rest ih =>
    obtain ⟨k, v⟩ := e
    unfold place
    split
    · rw [List.lookup_cons_self]
    · split
      · rw [List.lookup_cons_self]
      next differs => rw [List.lookup_cons, beq_false_of_ne differs]; exact ih

theorem lookup_place_of_ne {key other : String} (h : other ≠ key) (value : α)
    (entries : List (String × α)) :
    (place key value entries).lookup other = entries.lookup other := by
  have apart : (other == key) = false := beq_false_of_ne h
  induction entries with
  | nil => simp [place, List.lookup_cons, apart]
  | cons e rest ih =>
    obtain ⟨k, v⟩ := e
    unfold place
    split
    · simp [List.lookup_cons, apart]
    · split
      next same => subst same; simp [List.lookup_cons, apart]
      next => simp [List.lookup_cons, ih]

@[simp]
theorem get?_empty (key : String) : (empty : Table α).get? key = none := rfl

@[simp]
theorem get?_insert_self (t : Table α) (key : String) (value : α) :
    (t.insert key value).get? key = some value :=
  lookup_place_self key value t.toList

theorem get?_insert_of_ne {key other : String} (h : other ≠ key) (t : Table α) (value : α) :
    (t.insert key value).get? other = t.get? other :=
  lookup_place_of_ne h value t.toList

/-- Among ascending entries an entry is found under its key. -/
theorem lookup_eq_some_iff_mem {key : String} {value : α} :
    ∀ {entries : List (String × α)}, entries.Pairwise (fun a b => a.1 < b.1) →
      (entries.lookup key = some value ↔ (key, value) ∈ entries)
  | [], _ => by simp
  | (k, v) :: rest, h => by
    obtain ⟨first, others⟩ := List.pairwise_cons.1 h
    by_cases hk : key = k
    · subst hk
      have absent : ∀ w, (key, w) ∉ rest := fun w hw => String.lt_irrefl key (first _ hw)
      simp [absent, eq_comm]
    · simp [List.lookup_cons, beq_false_of_ne hk, hk, lookup_eq_some_iff_mem others]

theorem get?_eq_some_iff (t : Table α) (key : String) (value : α) :
    t.get? key = some value ↔ (key, value) ∈ t.toList :=
  lookup_eq_some_iff_mem t.ascending

/-- Two ascending lists with the same entries are equal. -/
theorem eq_of_mem_iff : ∀ {xs ys : List (String × α)}, xs.Pairwise (fun a b => a.1 < b.1) →
    ys.Pairwise (fun a b => a.1 < b.1) → (∀ e, e ∈ xs ↔ e ∈ ys) → xs = ys
  | [], [], _, _, _ => rfl
  | [], y :: _, _, _, h => absurd ((h y).2 (.head _)) (by simp)
  | x :: _, [], _, _, h => absurd ((h x).1 (.head _)) (by simp)
  | x :: xs, y :: ys, hx, hy, h => by
    obtain ⟨firstX, restX⟩ := List.pairwise_cons.1 hx
    obtain ⟨firstY, restY⟩ := List.pairwise_cons.1 hy
    have same : x = y := by
      rcases List.mem_cons.1 ((h x).1 (.head _)) with e | inY
      · exact e
      · rcases List.mem_cons.1 ((h y).2 (.head _)) with e | inX
        · exact e.symm
        · exact absurd (String.lt_trans (firstX _ inX) (firstY _ inY)) (String.lt_irrefl _)
    subst same
    refine congrArg (x :: ·) (eq_of_mem_iff restX restY fun e => ⟨fun he => ?_, fun he => ?_⟩)
    · rcases List.mem_cons.1 ((h e).1 (.tail _ he)) with rfl | he'
      · exact absurd (firstX _ he) (String.lt_irrefl _)
      · exact he'
    · rcases List.mem_cons.1 ((h e).2 (.tail _ he)) with rfl | he'
      · exact absurd (firstY _ he) (String.lt_irrefl _)
      · exact he'

/-- Tables with the same look-ups are equal. -/
theorem ext_get? {s t : Table α} (h : ∀ key, s.get? key = t.get? key) : s = t := by
  obtain ⟨xs, hx⟩ := s
  obtain ⟨ys, hy⟩ := t
  have : xs = ys := eq_of_mem_iff hx hy fun e => by
    rw [← lookup_eq_some_iff_mem hx, ← lookup_eq_some_iff_mem hy]
    exact iff_of_eq (congrArg (· = some e.2) (h e.1))
  subst this
  rfl

end Table

end MakeLint
