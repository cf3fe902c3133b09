import MakeLint.Schedule
import Mathlib.Data.List.OfFn

/-!
# A schedule does not show in the results

Each job leaves its result in the slot of its own index, and every slot is filled once all jobs are
done. So the results stand in the order of the indices, whatever the order of the jobs was
(`Schedule.collect_eq_ofFn`).
-/

namespace MakeLint.Schedule

variable {n : Nat} {α : Type}

/-- After the jobs of a list were done, the slots of these jobs hold their results, and every other
slot holds what it held before. -/
theorem getElem_fill (job : Fin n → α) (order : List (Fin n)) (slots : Vector (Option α) n)
    (i : Nat) (hi : i < n) :
    (⟨i, hi⟩ ∈ order → (fill job slots order)[i] = some (job ⟨i, hi⟩)) ∧
      (⟨i, hi⟩ ∉ order → (fill job slots order)[i] = slots[i]) := by
  induction order generalizing slots with
  | nil => exact ⟨fun h => absurd h List.not_mem_nil, fun _ => rfl⟩
  | cons j rest ih =>
    obtain ⟨hdone, hkept⟩ := ih (slots.set j (some (job j)))
    rw [fill]
    refine ⟨fun h => ?_, fun h => ?_⟩
    · -- The slot of the first job is not touched again except by the same job.
      by_cases hrest : ⟨i, hi⟩ ∈ rest
      · exact hdone hrest
      · obtain rfl : ⟨i, hi⟩ = j := (List.mem_cons.1 h).resolve_right hrest
        rw [hkept hrest]
        simp
    · rw [List.mem_cons, not_or] at h
      have hne : (j : Nat) ≠ i := fun heq => h.1 (Fin.ext heq.symm)
      rw [hkept h.2]
      simp [hne]

/-- As long as a schedule is under way, the slots of the jobs that are done hold their results, and
the others are empty. -/
theorem get_fill_take (schedule : Schedule n) (job : Fin n → α) (done : Nat) (i : Fin n) :
    (fill job (Vector.replicate n none) (schedule.order.take done)).get i =
      if i ∈ schedule.order.take done then some (job i) else none := by
  obtain ⟨hdone, hkept⟩ :=
    getElem_fill job (schedule.order.take done) (Vector.replicate n none) i i.isLt
  split
  next hmem => exact hdone hmem
  next hnot => exact (hkept hnot).trans (Vector.getElem_replicate i.isLt)

/-- When all jobs of a schedule are done, every slot holds the result of its job. -/
theorem fill_order (schedule : Schedule n) (job : Fin n → α) (slots : Vector (Option α) n) :
    fill job slots schedule.order = Vector.ofFn fun i => some (job i) := by
  refine Vector.ext fun i hi => ?_
  have hmem : (⟨i, hi⟩ : Fin n) ∈ schedule.order :=
    schedule.complete.mem_iff.2 (List.mem_finRange _)
  have hslot := (getElem_fill job schedule.order slots i hi).1 hmem
  rw [Vector.getElem_ofFn]
  exact hslot

/-- The results of all jobs stand in the order of the jobs' indices on every schedule. -/
theorem collect_eq_ofFn (schedule : Schedule n) (job : Fin n → α) :
    schedule.collect job = List.ofFn job := by
  have hsome : (List.ofFn fun i => some (job i)) = (List.ofFn job).map some := by
    rw [List.map_ofFn]
    rfl
  calc schedule.collect job
      = (fill job (Vector.replicate n none) schedule.order).toList.filterMap id := rfl
    _ = (Vector.ofFn fun i => some (job i)).toList.filterMap id := by rw [fill_order]
    _ = (List.ofFn job).filterMap some := by
      rw [Vector.toList_ofFn, hsome, List.filterMap_map]
      rfl
    _ = List.ofFn job := List.filterMap_some

/-- Jobs that work on the items of a list give the results of the items in their order. -/
theorem collect_getElem {β : Type} (items : List β) (schedule : Schedule items.length)
    (work : β → α) : (schedule.collect fun i => work items[i]) = items.map work := by
  rw [collect_eq_ofFn]
  exact List.ofFn_getElem_eq_map items work

end MakeLint.Schedule
