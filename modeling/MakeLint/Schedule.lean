/-!
# Schedules

Jobs that do not depend on each other may be done in any order, as long as each leaves its result in
the slot of its own index. A schedule of `n` jobs is such an order.
-/

namespace MakeLint

/-- An order in which `n` jobs are done, each exactly once. -/
structure Schedule (n : Nat) where
  order : List (Fin n)
  complete : order.Perm (List.finRange n)

namespace Schedule

/-- The schedule that does the jobs in the order of their indices. -/
def inOrder (n : Nat) : Schedule n := ⟨List.finRange n, .refl _⟩

/-- The slots after the jobs of a list were done, each in its turn. -/
def fill {n : Nat} {α : Type} (job : Fin n → α) (slots : Vector (Option α) n) :
    List (Fin n) → Vector (Option α) n
  | [] => slots
  | i :: rest => fill job (slots.set i (some (job i))) rest

/-- The results of all jobs in the order of the slots. -/
def collect {n : Nat} {α : Type} (schedule : Schedule n) (job : Fin n → α) : List α :=
  (fill job (Vector.replicate n none) schedule.order).toList.filterMap id

end Schedule

end MakeLint
