import Mathlib.Data.List.Induction

/-!
# Histories

What something holds after a sequence of operations is often what the last operation of one
kind has put there. A function on operations selects those of the kind, with what they put.
-/

namespace Playstation

/-- The last value which is selected from a sequence is that of its last element, if there
is one. -/
theorem getLast?_filterMap_concat {α β : Type} (select : α → Option β) (elements : List α)
    (last : α) :
    ((elements ++ [last]).filterMap select).getLast? =
      (select last).or (elements.filterMap select).getLast? := by
  have hlast : ([last].filterMap select).getLast? = select last := by
    rw [List.filterMap_cons]
    cases select last <;> rfl
  rw [List.filterMap_append, List.getLast?_append, hlast]

/-- The last value may be changed before or after it is selected. -/
theorem getLast?_filterMap_map {α β γ : Type} (change : β → γ) (select : α → Option β)
    (elements : List α) :
    (elements.filterMap fun element => (select element).map change).getLast? =
      (elements.filterMap select).getLast?.map change := by
  rw [← List.getLast?_map, List.map_filterMap]

/-- An observation which every operation sets or leaves shows what has been set last. -/
theorem observe_foldl {σ ο α : Type} {perform : σ → ο → σ} {observe : σ → α}
    {set? : ο → Option α}
    (h : ∀ state operation,
      observe (perform state operation) = (set? operation).getD (observe state))
    (start : σ) (operations : List ο) :
    observe (operations.foldl perform start) =
      (operations.filterMap set?).getLast?.getD (observe start) := by
  induction operations using List.reverseRecOn with
  | nil => rfl
  | append_singleton operations operation ih =>
    rw [List.foldl_append, List.foldl_cons, List.foldl_nil, h, ih, getLast?_filterMap_concat,
      Option.getD_or]

end Playstation
