import FlashImage.Proofs.Layout.Embedding

/-!
The search for cycles finds one exactly if there is one.

The containers that the search has left behind are settled: each stands before all that it embeds,
so none of them is on a cycle. The path on which the search came is a chain of embeddings, so
meeting it again closes a cycle.
-/

set_option autoImplicit false
set_option relaxedAutoImplicit false

namespace FlashImage.LayoutTree

open Relation (ReflTransGen TransGen)

/-- A list in which every name stands before the names that it embeds, and stands once. -/
def Settled (t : LayoutTree) : List String → Prop
  | [] => True
  | name :: left => name ∉ left ∧ (∀ child ∈ t.children name, child ∈ left) ∧ t.Settled left

namespace Settled

variable {t : LayoutTree} {left : List String} {name inner : String}

private theorem embeds (h : t.Settled left) (hn : name ∈ left) (he : t.Embeds name inner) :
    inner ∈ left := by
  induction left with
  | nil => cases hn
  | cons head left ih =>
    obtain ⟨-, hchildren, hleft⟩ := h
    rcases List.mem_cons.1 hn with rfl | hn
    · exact List.mem_cons_of_mem _ (hchildren inner (embeds_iff.1 he))
    · exact List.mem_cons_of_mem _ (ih hleft hn)

theorem reaches (h : t.Settled left) (hn : name ∈ left) (hr : ReflTransGen t.Embeds name inner) :
    inner ∈ left := by
  induction hr with
  | refl => exact hn
  | tail _ he ih => exact h.embeds ih he

/-- No settled name is on a cycle. -/
theorem not_transGen (h : t.Settled left) (hn : name ∈ left) : ¬ TransGen t.Embeds name name := by
  induction left with
  | nil => cases hn
  | cons head left ih =>
    obtain ⟨hhead, hchildren, hleft⟩ := h
    rcases List.mem_cons.1 hn with rfl | hn
    · intro hcycle
      obtain ⟨child, he, hr⟩ := TransGen.head'_iff.1 hcycle
      exact hhead (hleft.reaches (hchildren child (embeds_iff.1 he)) hr)
    · exact ih hleft hn

end Settled

structure Explored (t : LayoutTree) (left path names left' : List String) : Prop where
  grown : ∀ x ∈ left, x ∈ left'
  reached : ∀ x ∈ names, x ∈ left'
  offPath : ∀ x ∈ left', x ∈ left ∨ x ∉ path
  settled : t.Settled left → t.Settled left'

/-- What the result of a search from names on says. -/
def Outcome (t : LayoutTree) (left path names : List String) :
    Except (List String) (List String) → Prop
  | .ok left' => t.Explored left path names left'
  | .error cycle => (∀ name ∈ names, t.IsPath path name) → t.IsCycle cycle

namespace Explored

variable {t : LayoutTree} {left path left₁ left₂ : List String} {name : String}

theorem leave (h : t.Explored left (path ++ [name]) (t.children name) left₁) (hl : name ∉ left)
    (hp : name ∉ path) : t.Explored left path [name] (name :: left₁) := by
  have hn : name ∉ left₁ := by
    intro hn
    rcases h.offPath name hn with hn | hn
    · exact hl hn
    · exact hn (List.mem_append_right path (List.mem_singleton.2 rfl))
  refine ⟨?_, ?_, ?_, ?_⟩
  · intro x hx
    exact List.mem_cons_of_mem name (h.grown x hx)
  · intro x hx
    exact List.mem_singleton.1 hx ▸ List.mem_cons_self
  · intro x hx
    rcases List.mem_cons.1 hx with rfl | hx
    · exact .inr hp
    · exact (h.offPath x hx).imp_right fun hx hmem => hx (List.mem_append_left _ hmem)
  · intro hleft
    exact ⟨hn, h.reached, h.settled hleft⟩

theorem trans {names : List String} (h₁ : t.Explored left path [name] left₁)
    (h₂ : t.Explored left₁ path names left₂) : t.Explored left path (name :: names) left₂ := by
  refine ⟨?_, ?_, ?_, fun hleft => h₂.settled (h₁.settled hleft)⟩
  · intro x hx
    exact h₂.grown x (h₁.grown x hx)
  · intro x hx
    rcases List.mem_cons.1 hx with rfl | hx
    · exact h₂.grown x (h₁.reached x (List.mem_singleton.2 rfl))
    · exact h₂.reached x hx
  · intro x hx
    rcases h₂.offPath x hx with hx | hx
    · exact h₁.offPath x hx
    · exact .inr hx

end Explored

theorem visit_of_find?_none {t : LayoutTree} {left path : List String} {name : String}
    (hl : name ∉ left) (hp : name ∉ path) (hc : t.find? name = none) :
    t.visit left path name = .ok (name :: left) := by
  rw [visit, if_neg hl, dif_neg hp]
  split
  · rfl
  · rename_i c hc'
    rw [hc] at hc'
    cases hc'

theorem visit_of_find? {t : LayoutTree} {left path : List String} {name : String} {c : Container}
    (hl : name ∉ left) (hp : name ∉ path) (hc : t.find? name = some c) :
    t.visit left path name =
      (t.visitAll left (path ++ [name]) c.children).map (name :: ·) := by
  rw [visit, if_neg hl, dif_neg hp]
  split
  · rename_i hc'
    rw [hc] at hc'
    cases hc'
  · rename_i d hd
    obtain rfl : c = d := Option.some.inj (hc.symm.trans hd)
    cases t.visitAll left (path ++ [name]) c.children <;> rfl

/-- Every search ends with settled names or with a cycle. -/
theorem search_outcome (t : LayoutTree) :
    (∀ left path name, t.Outcome left path [name] (t.visit left path name)) ∧
      ∀ left path names, t.Outcome left path names (t.visitAll left path names) := by
  -- The cases are the equations of the two functions, in their order.
  refine visit.mutual_induct t
    (fun left path name => t.Outcome left path [name] (t.visit left path name))
    (fun left path names => t.Outcome left path names (t.visitAll left path names))
    ?known ?met ?dangling ?below ?left ?nil ?first ?cons
  case known =>
    intro left path name hl
    rw [visit, if_pos hl]
    exact ⟨fun x hx => hx, fun x hx => List.mem_singleton.1 hx ▸ hl, fun x hx => .inl hx, id⟩
  case met =>
    intro left path name hl hp
    rw [visit, if_neg hl, dif_pos hp]
    intro hpath
    exact (hpath name (List.mem_singleton.2 rfl)).isCycle hp
  case dangling =>
    intro left path name hl hp hc
    rw [visit_of_find?_none hl hp hc]
    refine Explored.leave ⟨fun x hx => hx, ?_, fun x hx => .inl hx, id⟩ hl hp
    simp [children_of_find?_none hc]
  case below =>
    intro left path name hl hp c hc _ cycle hrun ih
    rw [visit_of_find? hl hp hc, hrun]
    rw [hrun] at ih
    intro hpath
    refine ih fun child hchild => ?_
    have he : t.Embeds name child := by rwa [embeds_iff, children_of_find? hc]
    exact (hpath name (List.mem_singleton.2 rfl)).push hp he
  case left =>
    intro left path name hl hp c hc _ left' hrun ih
    rw [visit_of_find? hl hp hc, hrun]
    rw [hrun, ← children_of_find? hc] at ih
    exact Explored.leave ih hl hp
  case nil =>
    intro left path
    rw [visitAll]
    exact ⟨fun x hx => hx, by simp, fun x hx => .inl hx, id⟩
  case first =>
    intro left path name rest cycle hrun ih
    rw [hrun] at ih
    simp only [visitAll, hrun]
    exact fun hpath => ih fun n hn => hpath n (List.mem_singleton.1 hn ▸ List.mem_cons_self)
  case cons =>
    intro left path name rest left' hrun ih₁ ih₂
    rw [hrun] at ih₁
    simp only [visitAll, hrun]
    cases hrest : t.visitAll left' path rest with
    | error cycle =>
      rw [hrest] at ih₂
      exact fun hpath => ih₂ fun n hn => hpath n (List.mem_cons_of_mem name hn)
    | ok left₂ =>
      rw [hrest] at ih₂
      exact ih₁.trans ih₂

theorem isCycle_of_cycle? {t : LayoutTree} {cycle : List String} (h : t.cycle? = some cycle) :
    t.IsCycle cycle := by
  have houtcome := (search_outcome t).2 [] [] t.names
  unfold cycle? at h
  split at h
  · rename_i found hfound
    obtain rfl : found = cycle := Option.some.inj h
    rw [hfound] at houtcome
    exact houtcome fun name _ => .nil t name
  · cases h

theorem cycle?_eq_none_iff (t : LayoutTree) : t.cycle? = none ↔ t.Acyclic := by
  constructor
  · intro h name hcycle
    have houtcome := (search_outcome t).2 [] [] t.names
    unfold cycle? at h
    split at h
    · cases h
    · rename_i left hleft
      rw [hleft] at houtcome
      obtain ⟨child, he, -⟩ := TransGen.head'_iff.1 hcycle
      obtain ⟨c, hc, -⟩ := exists_of_embeds he
      have hname := houtcome.reached name (mem_names_of_find? hc)
      exact (houtcome.settled trivial).not_transGen hname hcycle
  · intro h
    cases hcycle : t.cycle? with
    | none => rfl
    | some cycle => exact absurd h (isCycle_of_cycle? hcycle).not_acyclic

end FlashImage.LayoutTree
