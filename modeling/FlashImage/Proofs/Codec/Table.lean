/-!
Tables that give an entry for every number, with one value for all numbers beyond their end.
-/

set_option autoImplicit false
set_option relaxedAutoImplicit false

namespace FlashImage

theorem forall_getD_setIfInBounds {α : Type} {p : α → Prop} {table : Array α} {absent : α}
    (h : ∀ i, p (table.getD i absent)) (entry : Nat) {value : α} (hvalue : p value) (i : Nat) :
    p ((table.setIfInBounds entry value).getD i absent) := by
  have hi := h i
  simp only [Array.getD_eq_getD_getElem?, Array.getElem?_setIfInBounds] at hi ⊢
  split
  · split
    · exact hvalue
    · rename_i heq hsize
      rw [← heq, Array.getElem?_eq_none (Nat.le_of_not_lt hsize)] at hi
      exact hi
  · exact hi

end FlashImage
