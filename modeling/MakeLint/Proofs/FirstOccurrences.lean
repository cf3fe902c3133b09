import Mathlib

/-!
# First occurrences

`List.eraseDups` keeps the first of several equal items and drops the others. What is left has no
duplicates, and there is as much of it as the list has distinct items.
-/

namespace MakeLint

variable {α : Type} [BEq α] [LawfulBEq α]

/-- The first occurrences are distinct. -/
theorem nodup_eraseDups : ∀ xs : List α, xs.eraseDups.Nodup
  | [] => List.nodup_nil
  | x :: rest => by
    have hrest := nodup_eraseDups (rest.filter fun y => !y == x)
    rw [List.eraseDups_cons, List.nodup_cons]
    refine ⟨fun hmem => ?_, hrest⟩
    have hdiffers := (List.mem_filter.1 (List.mem_eraseDups.1 hmem)).2
    simp at hdiffers
termination_by xs => xs.length
decreasing_by exact Nat.lt_succ_of_le (List.length_filter_le _ _)

/-- Of a list without duplicates everything is kept. -/
theorem eraseDups_of_nodup {xs : List α} (h : xs.Nodup) : xs.eraseDups = xs := by
  induction xs with
  | nil => rfl
  | cons x rest ih =>
    obtain ⟨hx, hrest⟩ := List.nodup_cons.1 h
    have hkept : (rest.filter fun y => !y == x) = rest := by
      refine List.filter_eq_self.2 fun y hy => ?_
      have hne : y ≠ x := fun heq => hx (heq ▸ hy)
      simpa using hne
    rw [List.eraseDups_cons, hkept, ih hrest]

/-- Items that are dropped do not matter to what is kept of the items behind them. -/
theorem eraseDups_eraseDups_append (xs ys : List α) :
    (xs.eraseDups ++ ys).eraseDups = (xs ++ ys).eraseDups := by
  have hsame : ys.removeAll xs.eraseDups = ys.removeAll xs := by
    unfold List.removeAll
    refine List.filter_congr fun y _ => ?_
    congr 1
    rw [Bool.eq_iff_iff, List.elem_iff, List.elem_iff, List.mem_eraseDups]
  rw [List.eraseDups_append, List.eraseDups_append, hsame, eraseDups_of_nodup (nodup_eraseDups xs)]

/-- An item behind others that are distinct is kept unless it is among them. -/
theorem eraseDups_append_singleton [DecidableEq α] {xs : List α} (h : xs.Nodup) (x : α) :
    (xs ++ [x]).eraseDups = if x ∈ xs then xs else xs ++ [x] := by
  rw [List.eraseDups_append, eraseDups_of_nodup h]
  split
  next hmem => simp [List.removeAll, hmem]
  next hnot => simp [List.removeAll, hnot, List.eraseDups_cons]

end MakeLint
