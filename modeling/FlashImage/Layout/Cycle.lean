import FlashImage.Layout.Tree

/-!
The search for containers that embed one another.

The search goes from a container to the containers that it embeds, and holds the path on which it
came. It passes over containers that it has left before, and it ends when it meets a container of
its path. A path holds no container twice, so the containers off the path bound the depth.
-/

set_option autoImplicit false
set_option relaxedAutoImplicit false

namespace FlashImage.LayoutTree

def offPath (t : LayoutTree) (path : List String) : Nat := t.names.countP (· ∉ path)

private theorem countP_append_lt {names path : List String} {name : String} (hn : name ∈ names)
    (hp : name ∉ path) : names.countP (· ∉ path ++ [name]) < names.countP (· ∉ path) := by
  induction names with
  | nil => simp at hn
  | cons n rest ih =>
    have hle : rest.countP (· ∉ path ++ [name]) ≤ rest.countP (· ∉ path) := by
      apply List.countP_mono_left
      intro x _ hx
      simp only [decide_eq_true_eq, List.mem_append, not_or] at hx ⊢
      exact hx.1
    by_cases hnn : n = name
    · subst hnn
      simp only [List.countP_cons, List.mem_append, List.mem_singleton, or_true, not_true_eq_false,
        decide_false, hp, not_false_eq_true, decide_true] at hle ⊢
      simp only [Bool.false_eq_true, if_false, if_true]
      omega
    · have hr : name ∈ rest := (List.mem_cons.1 hn).resolve_left fun h => hnn h.symm
      have := ih hr
      simp only [List.countP_cons, List.mem_append, List.mem_singleton, hnn, or_false] at this ⊢
      omega

theorem offPath_append_lt {t : LayoutTree} {path : List String} {name : String} {c : Container}
    (hc : t.find? name = some c) (hp : name ∉ path) :
    t.offPath (path ++ [name]) < t.offPath path :=
  countP_append_lt (mem_names_of_find? hc) hp

theorem offPath_cons_lt {t : LayoutTree} {seen : List String} {name : String} {c : Container}
    (hc : t.find? name = some c) (hs : name ∉ seen) :
    t.offPath (name :: seen) < t.offPath seen := by
  have h := offPath_append_lt hc hs
  have heq : t.offPath (name :: seen) = t.offPath (seen ++ [name]) := by
    unfold offPath
    congr 1
    funext x
    simp [or_comm]
  exact heq ▸ h

/-- The containers from the first occurrence of a name on, and the name once more. -/
def cycleAt (path : List String) (name : String) : List String :=
  path.dropWhile (· ≠ name) ++ [name]

mutual

/-- Searches from one container on. The result is the list of the containers that have been left,
or a cycle. -/
def visit (t : LayoutTree) (left path : List String) (name : String) :
    Except (List String) (List String) :=
  if name ∈ left then .ok left
  else if hp : name ∈ path then .error (cycleAt path name)
  else
    match hc : t.find? name with
    | none => .ok (name :: left)
    | some c =>
      have := offPath_append_lt hc hp
      match visitAll t left (path ++ [name]) c.children with
      | .error cycle => .error cycle
      | .ok left => .ok (name :: left)
termination_by (t.offPath path, 0)

def visitAll (t : LayoutTree) (left path : List String) :
    List String → Except (List String) (List String)
  | [] => .ok left
  | name :: rest =>
    match visit t left path name with
    | .error cycle => .error cycle
    | .ok left => visitAll t left path rest
termination_by names => (t.offPath path, names.length + 1)

end

def cycle? (t : LayoutTree) : Option (List String) :=
  match visitAll t [] [] t.names with
  | .error cycle => some cycle
  | .ok _ => none

end FlashImage.LayoutTree
