import FlashImage.Layout.Cycle
import Mathlib.Data.List.Chain
import Mathlib.Data.List.Nodup
import Mathlib.Logic.Relation

/-!
Which containers of a layout embed which.

A name that a region refers to is embedded even if the layout has no container of that name; such a
name embeds nothing. A path is a chain of embeddings without repetition, and a cycle is a chain that
ends where it starts. A path that meets one of its own containers closes a cycle there.
-/

set_option autoImplicit false
set_option relaxedAutoImplicit false

namespace FlashImage.LayoutTree

open Relation (ReflTransGen TransGen)

/-- A container has a region with the bytes of another one. -/
def Embeds (t : LayoutTree) (outer inner : String) : Prop :=
  ∃ c ∈ t.containers, c.name = outer ∧ ∃ r ∈ c.regions, r.source = .container inner

/-- No container embeds itself, be it through others. -/
def Acyclic (t : LayoutTree) : Prop := ∀ name, ¬ TransGen t.Embeds name name

/-- A way down to a name: each container of the path embeds the next, and the last one the name. -/
structure IsPath (t : LayoutTree) (path : List String) (name : String) : Prop where
  chain : List.IsChain t.Embeds (path ++ [name])
  distinct : path.Nodup

structure IsCycle (t : LayoutTree) (cycle : List String) : Prop where
  two_le : 2 ≤ cycle.length
  closed : cycle.head? = cycle.getLast?
  distinct : cycle.dropLast.Nodup
  chain : List.IsChain t.Embeds cycle

theorem children_of_find? {t : LayoutTree} {name : String} {c : Container}
    (hc : t.find? name = some c) : t.children name = c.children := by
  simp only [children, hc]

theorem children_of_find?_none {t : LayoutTree} {name : String} (hc : t.find? name = none) :
    t.children name = [] := by
  simp only [children, hc]

theorem name_of_find? {t : LayoutTree} {name : String} {c : Container}
    (hc : t.find? name = some c) : c.name = name := by
  simpa using List.find?_some hc

theorem mem_of_find? {t : LayoutTree} {name : String} {c : Container}
    (hc : t.find? name = some c) : c ∈ t.containers :=
  List.mem_of_find?_eq_some hc

theorem find?_name {t : LayoutTree} {c : Container} (hc : c ∈ t.containers) :
    t.find? c.name = some c := by
  have hex : (t.find? c.name).isSome := by
    rw [find?, List.find?_isSome]
    exact ⟨c, hc, by simp⟩
  obtain ⟨d, hd⟩ := Option.isSome_iff_exists.1 hex
  have hdc : d = c :=
    List.inj_on_of_nodup_map t.distinct (mem_of_find? hd) hc (name_of_find? hd)
  rw [hd, hdc]

theorem mem_children_iff {c : Container} {child : String} :
    child ∈ c.children ↔ ∃ r ∈ c.regions, r.source = .container child := by
  simp only [Container.children, List.mem_filterMap]
  refine exists_congr fun r => and_congr_right fun _ => ?_
  cases r.source <;> simp [Source.container?]

theorem embeds_iff {t : LayoutTree} {outer inner : String} :
    t.Embeds outer inner ↔ inner ∈ t.children outer := by
  constructor
  · rintro ⟨c, hc, rfl, hsource⟩
    rw [children_of_find? (find?_name hc)]
    exact mem_children_iff.2 hsource
  · intro h
    cases hc : t.find? outer with
    | none =>
      rw [children_of_find?_none hc] at h
      cases h
    | some c =>
      rw [children_of_find? hc] at h
      exact ⟨c, mem_of_find? hc, name_of_find? hc, mem_children_iff.1 h⟩

theorem exists_of_embeds {t : LayoutTree} {outer inner : String} (h : t.Embeds outer inner) :
    ∃ c, t.find? outer = some c ∧ ∃ r ∈ c.regions, r.source = .container inner := by
  obtain ⟨c, hc, rfl, hsource⟩ := h
  exact ⟨c, find?_name hc, hsource⟩

theorem embeds_of_region {t : LayoutTree} {outer inner : String} {c : Container} {r : Region}
    (hc : t.find? outer = some c) (hr : r ∈ c.regions) (hs : r.source = .container inner) :
    t.Embeds outer inner :=
  ⟨c, mem_of_find? hc, name_of_find? hc, r, hr, hs⟩

theorem mem_names_of_embeds {t : LayoutTree} {outer inner : String} (h : t.Embeds outer inner) :
    outer ∈ t.names := by
  obtain ⟨c, hc, rfl, -⟩ := h
  exact List.mem_map_of_mem hc

namespace IsPath

variable {t : LayoutTree} {path : List String} {name child : String}

theorem nil (t : LayoutTree) (name : String) : t.IsPath [] name := ⟨by simp, .nil⟩

theorem push (h : t.IsPath path name) (hp : name ∉ path) (hn : t.Embeds name child) :
    t.IsPath (path ++ [name]) child := by
  refine ⟨?_, ?_⟩
  · rw [List.append_assoc, List.singleton_append, List.isChain_split]
    exact ⟨h.chain, List.isChain_pair.2 hn⟩
  · exact List.nodup_append.2 ⟨h.distinct, List.nodup_singleton name, by
      intro x hx y hy hxy
      exact hp (List.mem_singleton.1 hy ▸ hxy ▸ hx)⟩

theorem leads (h : t.IsPath path name) {x : String} (hx : x ∈ path) :
    TransGen t.Embeds x name := by
  have hchain : List.IsChain (TransGen t.Embeds) (path ++ [name]) :=
    h.chain.imp fun _ _ => TransGen.single
  have hpair := List.isChain_iff_pairwise.1 hchain
  exact (List.pairwise_append.1 hpair).2.2 x hx name (List.mem_singleton.2 rfl)

theorem isCycle (h : t.IsPath path name) (hp : name ∈ path) : t.IsCycle (cycleAt path name) := by
  obtain ⟨before, after, heq, hbefore⟩ := List.eq_append_cons_of_mem hp
  have hcycle : cycleAt path name = name :: after ++ [name] := by
    have hdrop : ∀ x ∈ before, decide (x ≠ name) = true := by
      intro x hx
      exact decide_eq_true fun hxn => hbefore (hxn ▸ hx)
    rw [cycleAt, heq, List.dropWhile_append_of_pos hdrop, List.dropWhile_cons_of_neg (by simp)]
  have hchain : List.IsChain t.Embeds (before ++ name :: (after ++ [name])) := by
    simpa [heq] using h.chain
  have hdistinct : (before ++ name :: after).Nodup := heq ▸ h.distinct
  refine ⟨?_, ?_, ?_, ?_⟩
  · simp [hcycle]
  · rw [hcycle, List.getLast?_concat, List.cons_append, List.head?_cons]
  · rw [hcycle, List.dropLast_concat]
    exact (List.nodup_append.1 hdistinct).2.1
  · rw [hcycle, List.cons_append]
    exact (List.isChain_split.1 hchain).2

end IsPath

theorem IsCycle.not_acyclic {t : LayoutTree} {cycle : List String} (h : t.IsCycle cycle) :
    ¬ t.Acyclic := by
  obtain ⟨htwo, hclosed, -, hchain⟩ := h
  match cycle, htwo with
  | first :: second :: rest, _ =>
    intro hacyclic
    have hpair := List.isChain_iff_pairwise.1 (hchain.imp fun _ _ => TransGen.single)
    have hlast : first ∈ second :: rest := by
      apply List.mem_of_getLast?
      simpa using hclosed.symm
    exact hacyclic first ((List.pairwise_cons.1 hpair).1 first hlast)

theorem IsCycle.mem_names {t : LayoutTree} {cycle : List String} (h : t.IsCycle cycle)
    {name : String} (hname : name ∈ cycle) : name ∈ t.names := by
  obtain ⟨htwo, hclosed, -, hchain⟩ := h
  obtain ⟨i, hi, rfl⟩ := List.mem_iff_getElem.1 hname
  by_cases hnext : i + 1 < cycle.length
  · exact mem_names_of_embeds (List.isChain_iff_getElem.1 hchain i hnext)
  · -- The last name is the first one, and that embeds the second one.
    obtain rfl : i = cycle.length - 1 := by omega
    rw [List.head?_eq_getElem?, List.getLast?_eq_getElem?, List.getElem?_eq_getElem hi,
      List.getElem?_eq_getElem (by omega), Option.some_inj] at hclosed
    exact hclosed ▸ mem_names_of_embeds (List.isChain_iff_getElem.1 hchain 0 htwo)

end FlashImage.LayoutTree
