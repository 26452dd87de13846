import FlashImage.Proofs.Layout.Search
import Mathlib.Logic.ExistsUnique
import Std.Data.HashMap

/-!
A search for cycles that marks the names it comes to.

The search of a layout is handed its path and the names that have been left. Here both are parts of
one state: a stack of the names on the way, and a mark for each name that the search has come to.
The two are changed one after the other and never compared, so that they agree is an invariant: the
names with the mark `active` are those of the stack at every call. From this follows that the search
does what the search of the layout does, that a name with the mark `done` may be passed over, and
that what is cut out of the stack is a cycle.
-/

set_option autoImplicit false
set_option relaxedAutoImplicit false

namespace FlashImage

open Relation (ReflTransGen TransGen)

/-- How far a search has come with a name. -/
inductive Mark
  | unvisited
  /-- The search is at the name or at something that it embeds. -/
  | active
  /-- The search has left the name. -/
  | done
  deriving DecidableEq, Repr

/-- What a search with marks holds. -/
structure MarkState where
  marks : Std.HashMap String Mark
  /-- The names on the way, the innermost last. -/
  stack : List String

namespace MarkState

def start : MarkState := ⟨∅, []⟩

/-- The mark of a name; a name that has not been come to is unvisited. -/
def mark (s : MarkState) (name : String) : Mark := s.marks.getD name .unvisited

def enter (s : MarkState) (name : String) : MarkState :=
  ⟨s.marks.insert name .active, s.stack ++ [name]⟩

def leave (s : MarkState) (name : String) : MarkState :=
  ⟨s.marks.insert name .done, s.stack.dropLast⟩

def position? (s : MarkState) (name : String) : Option Nat := s.stack.findIdx? (· = name)

/-- The stack from the place of a name on, and the name once more. A name that is not on the stack
counts as its first one. -/
def cycleAt (s : MarkState) (name : String) : List String :=
  s.stack.drop ((s.position? name).getD 0) ++ [name]

variable {s : MarkState} {name x : String} {left : List String}

@[simp] theorem mark_start : start.mark name = .unvisited := by simp [start, mark]

@[simp] theorem stack_start : start.stack = [] := rfl

@[simp] theorem mark_enter : (s.enter name).mark x = if name = x then .active else s.mark x := by
  simp [enter, mark, Std.HashMap.getD_insert]

@[simp] theorem mark_leave : (s.leave name).mark x = if name = x then .done else s.mark x := by
  simp [leave, mark, Std.HashMap.getD_insert]

@[simp] theorem stack_enter : (s.enter name).stack = s.stack ++ [name] := rfl

@[simp] theorem stack_leave : (s.leave name).stack = s.stack.dropLast := rfl

private theorem isSome_position?_iff : (s.position? name).isSome ↔ name ∈ s.stack := by
  simp [position?, List.findIdx?_isSome]

private theorem cycleAt_eq (hname : name ∈ s.stack) :
    s.cycleAt name = LayoutTree.cycleAt s.stack name := by
  obtain ⟨before, after, hstack, hbefore⟩ := List.eq_append_cons_of_mem hname
  have hnone : before.findIdx? (· = name) = none := by
    rw [List.findIdx?_eq_none_iff]
    intro y hy
    exact decide_eq_false fun heq => hbefore (heq ▸ hy)
  have hposition : s.position? name = some before.length := by
    simp [position?, hstack, List.findIdx?_append, hnone, List.findIdx?_cons]
  have hdrop : ∀ y ∈ before, decide (y ≠ name) = true := by
    intro y hy
    exact decide_eq_true fun heq => hbefore (heq ▸ hy)
  rw [cycleAt, LayoutTree.cycleAt, hposition, Option.getD_some, hstack, List.drop_left,
    List.dropWhile_append_of_pos hdrop, List.dropWhile_cons_of_neg (by simp)]

/-- The marks say which names have been left and which are on the stack. -/
structure Agrees (s : MarkState) (left : List String) : Prop where
  done_iff : ∀ x, s.mark x = .done ↔ x ∈ left
  active_iff : ∀ x, s.mark x = .active ↔ x ∈ s.stack

namespace Agrees

theorem start : start.Agrees [] := ⟨by simp, by simp⟩

private theorem not_mem_left (h : s.Agrees left) (hmark : s.mark name = .unvisited) :
    name ∉ left := by
  intro hmem
  rw [← h.done_iff, hmark] at hmem
  cases hmem

private theorem not_mem_stack (h : s.Agrees left) (hmark : s.mark name = .unvisited) :
    name ∉ s.stack := by
  intro hmem
  rw [← h.active_iff, hmark] at hmem
  cases hmem

theorem enter (h : s.Agrees left) (hmark : s.mark name = .unvisited) :
    (s.enter name).Agrees left := by
  refine ⟨fun x => ?_, fun x => ?_⟩
  · rw [mark_enter, ← h.done_iff]
    split
    · rename_i heq
      simp [← heq, hmark]
    · rfl
  · rw [mark_enter, stack_enter, List.mem_append, List.mem_singleton, ← h.active_iff]
    split
    · rename_i heq
      simp [heq]
    · rename_i hne
      rw [or_iff_left (Ne.symm hne)]

theorem leave {path : List String} (h : s.Agrees left) (hstack : s.stack = path ++ [name])
    (hpath : name ∉ path) : (s.leave name).Agrees (name :: left) := by
  refine ⟨fun x => ?_, fun x => ?_⟩
  · rw [mark_leave, List.mem_cons, ← h.done_iff]
    split
    · rename_i heq
      simp [heq]
    · rename_i hne
      rw [or_iff_right (Ne.symm hne)]
  · rw [mark_leave, stack_leave, hstack, List.dropLast_concat]
    split
    · rename_i heq
      simp [← heq, hpath]
    · rename_i hne
      rw [h.active_iff, hstack, List.mem_append, List.mem_singleton, or_iff_left (Ne.symm hne)]

end Agrees
end MarkState

/-- A call of a search for one name: the state in which it is made, and the name. -/
structure MarkCall where
  state : MarkState
  name : String

/-- At a call, the marks agree with the stack, the stack is the way to the name, and what has been
left needs no second search. -/
structure MarkCall.Consistent (t : LayoutTree) (call : MarkCall) : Prop where
  active_iff : ∀ x, call.state.mark x = .active ↔ x ∈ call.state.stack
  distinct : call.state.stack.Nodup
  chain : List.IsChain t.Embeds (call.state.stack ++ [call.name])
  done : ∀ x y, call.state.mark x = .done → ReflTransGen t.Embeds x y →
    call.state.mark y = .done ∧ ¬ TransGen t.Embeds y y
  position : call.state.mark call.name = .active → (call.state.position? call.name).isSome

/-- What a search is at: one name, or several names one after another. -/
inductive MarkTask
  | visit (name : String)
  | visitAll (names : List String)

def MarkTask.names : MarkTask → List String
  | .visit name => [name]
  | .visitAll names => names

namespace LayoutTree

/-- The ways in which a search with marks can go, with the calls that it makes for one name each and
the cycle or the state with which it ends. -/
inductive MarkRun (t : LayoutTree) :
    MarkState → MarkTask → List MarkCall → Except (List String) MarkState → Prop
  | done {s : MarkState} {name : String} (mark : s.mark name = .done) :
      MarkRun t s (.visit name) [⟨s, name⟩] (.ok s)
  | met {s : MarkState} {name : String} (mark : s.mark name = .active) :
      MarkRun t s (.visit name) [⟨s, name⟩] (.error (s.cycleAt name))
  | failed {s : MarkState} {name : String} {calls : List MarkCall} {cycle : List String}
      (mark : s.mark name = .unvisited)
      (inner : MarkRun t (s.enter name) (.visitAll (t.children name)) calls (.error cycle)) :
      MarkRun t s (.visit name) (⟨s, name⟩ :: calls) (.error cycle)
  | left {s s₁ : MarkState} {name : String} {calls : List MarkCall}
      (mark : s.mark name = .unvisited)
      (inner : MarkRun t (s.enter name) (.visitAll (t.children name)) calls (.ok s₁)) :
      MarkRun t s (.visit name) (⟨s, name⟩ :: calls) (.ok (s₁.leave name))
  | nil (s : MarkState) : MarkRun t s (.visitAll []) [] (.ok s)
  | first {s : MarkState} {name : String} {rest : List String} {calls : List MarkCall}
      {cycle : List String} (head : MarkRun t s (.visit name) calls (.error cycle)) :
      MarkRun t s (.visitAll (name :: rest)) calls (.error cycle)
  | cons {s s₁ : MarkState} {name : String} {rest : List String} {calls₁ calls₂ : List MarkCall}
      {result : Except (List String) MarkState}
      (head : MarkRun t s (.visit name) calls₁ (.ok s₁))
      (tail : MarkRun t s₁ (.visitAll rest) calls₂ result) :
      MarkRun t s (.visitAll (name :: rest)) (calls₁ ++ calls₂) result

variable {t : LayoutTree} {s s' : MarkState} {task : MarkTask} {calls : List MarkCall}
  {result : Except (List String) MarkState}

theorem MarkRun.unique {calls' : List MarkCall} {result' : Except (List String) MarkState}
    (run : t.MarkRun s task calls result) (run' : t.MarkRun s task calls' result') :
    calls = calls' ∧ result = result' := by
  -- The mark of the name decides which way a call goes.
  induction run generalizing calls' result' with
  | done mark =>
    cases run' with
    | done => exact ⟨rfl, rfl⟩
    | met mark' => cases mark.symm.trans mark'
    | failed mark' => cases mark.symm.trans mark'
    | left mark' => cases mark.symm.trans mark'
  | met mark =>
    cases run' with
    | done mark' => cases mark.symm.trans mark'
    | met => exact ⟨rfl, rfl⟩
    | failed mark' => cases mark.symm.trans mark'
    | left mark' => cases mark.symm.trans mark'
  | failed mark _ ih =>
    cases run' with
    | done mark' => cases mark.symm.trans mark'
    | met mark' => cases mark.symm.trans mark'
    | failed _ inner' =>
      obtain ⟨rfl, heq⟩ := ih inner'
      cases heq
      exact ⟨rfl, rfl⟩
    | left _ inner' => cases (ih inner').2
  | left mark _ ih =>
    cases run' with
    | done mark' => cases mark.symm.trans mark'
    | met mark' => cases mark.symm.trans mark'
    | failed _ inner' => cases (ih inner').2
    | left _ inner' =>
      obtain ⟨rfl, heq⟩ := ih inner'
      cases heq
      exact ⟨rfl, rfl⟩
  | nil s =>
    cases run'
    exact ⟨rfl, rfl⟩
  | first _ ih =>
    cases run' with
    | first head' =>
      obtain ⟨rfl, heq⟩ := ih head'
      cases heq
      exact ⟨rfl, rfl⟩
    | cons head' => cases (ih head').2
  | cons _ _ ih₁ ih₂ =>
    cases run' with
    | first head' => cases (ih₁ head').2
    | cons head' tail' =>
      obtain ⟨rfl, heq⟩ := ih₁ head'
      cases heq
      obtain ⟨rfl, rfl⟩ := ih₂ tail'
      exact ⟨rfl, rfl⟩

private theorem MarkRun.visited (run : t.MarkRun s task calls (.ok s')) {x : String}
    (visited : s.mark x ≠ .unvisited) : s'.mark x ≠ .unvisited := by
  generalize hresult : Except.ok s' = result at run
  induction run generalizing s' with
  | done =>
    cases hresult
    exact visited
  | met => cases hresult
  | failed => cases hresult
  | @left s s₁ name calls mark inner ih =>
    cases hresult
    have hinner : s₁.mark x ≠ .unvisited := by
      apply ih _ rfl
      rw [MarkState.mark_enter]
      split <;> simp [visited]
    rw [MarkState.mark_leave]
    split <;> simp [hinner]
  | nil =>
    cases hresult
    exact visited
  | first => cases hresult
  | cons _ _ ih₁ ih₂ => exact ih₂ (ih₁ visited rfl) hresult

private theorem exists_markRun_visitAll (seen : List String)
    (hvisit : ∀ s : MarkState, (∀ x ∈ seen, s.mark x ≠ .unvisited) →
      ∀ name, ∃ calls result, t.MarkRun s (.visit name) calls result)
    (names : List String) (hs : ∀ x ∈ seen, s.mark x ≠ .unvisited) :
    ∃ calls result, t.MarkRun s (.visitAll names) calls result := by
  induction names generalizing s with
  | nil => exact ⟨[], _, .nil s⟩
  | cons name rest ih =>
    obtain ⟨calls₁, result₁, head⟩ := hvisit s hs name
    cases result₁ with
    | error cycle => exact ⟨calls₁, _, .first head⟩
    | ok s₁ =>
      obtain ⟨calls₂, result₂, tail⟩ := ih fun x hx => head.visited (hs x hx)
      exact ⟨_, _, .cons head tail⟩

private theorem exists_markRun_visit (seen : List String) (hs : ∀ x ∈ seen, s.mark x ≠ .unvisited)
    (name : String) : ∃ calls result, t.MarkRun s (.visit name) calls result := by
  -- On the containers that may be unvisited: to enter one of them makes them fewer.
  induction hoff : t.offPath seen using Nat.strong_induction_on generalizing seen s name with
  | _ off ih =>
    cases hmark : s.mark name with
    | done => exact ⟨_, _, .done hmark⟩
    | active => exact ⟨_, _, .met hmark⟩
    | unvisited =>
      have hinner : ∃ calls result,
          t.MarkRun (s.enter name) (.visitAll (t.children name)) calls result := by
        cases hc : t.find? name with
        | none =>
          rw [children_of_find?_none hc]
          exact ⟨_, _, .nil _⟩
        | some c =>
          have hnew : name ∉ seen := fun hname => hs name hname hmark
          refine exists_markRun_visitAll (name :: seen) (fun s₁ hs₁ name₁ => ?_) _ ?_
          · exact ih _ (hoff ▸ offPath_cons_lt hc hnew) _ hs₁ name₁ rfl
          · intro x hx
            rw [MarkState.mark_enter]
            split
            · simp
            · rename_i hne
              exact hs x ((List.mem_cons.1 hx).resolve_left (Ne.symm hne))
      obtain ⟨calls, result, inner⟩ := hinner
      cases result with
      | error cycle => exact ⟨_, _, .failed hmark inner⟩
      | ok s₁ => exact ⟨_, _, .left hmark inner⟩

private theorem exists_markRun (t : LayoutTree) (s : MarkState) (task : MarkTask) :
    ∃ calls result, t.MarkRun s task calls result := by
  have hvisit (s : MarkState) (name : String) :
      ∃ calls result, t.MarkRun s (.visit name) calls result :=
    exists_markRun_visit [] (by simp) name
  cases task with
  | visit name => exact hvisit s name
  | visitAll names =>
    exact exists_markRun_visitAll [] (fun s _ => hvisit s) names (by simp)

def searchTask (t : LayoutTree) (left path : List String) :
    MarkTask → Except (List String) (List String)
  | .visit name => t.visit left path name
  | .visitAll names => t.visitAll left path names

/-- Two searches end with the same cycle, or with the same names left and the stack as it was. -/
inductive SameEnd (stack : List String) :
    Except (List String) (List String) → Except (List String) MarkState → Prop
  | cycle (cycle : List String) : SameEnd stack (.error cycle) (.error cycle)
  | left {left : List String} {s : MarkState} (kept : s.stack = stack) (agrees : s.Agrees left) :
      SameEnd stack (.ok left) (.ok s)

variable {left stack path : List String} {name : String}

private theorem SameEnd.eq_error {end₁ : Except (List String) (List String)} {cycle : List String}
    (h : SameEnd stack end₁ (.error cycle)) : end₁ = .error cycle := by
  cases h
  rfl

private theorem SameEnd.exists_left {end₁ : Except (List String) (List String)}
    (h : SameEnd stack end₁ (.ok s)) :
    ∃ left, end₁ = .ok left ∧ s.stack = stack ∧ s.Agrees left := by
  cases h with
  | left kept agrees => exact ⟨_, rfl, kept, agrees⟩

private theorem visit_of_new (hl : name ∉ left) (hp : name ∉ path) : t.visit left path name =
    (t.visitAll left (path ++ [name]) (t.children name)).map (name :: ·) := by
  cases hc : t.find? name with
  | none =>
    rw [visit_of_find?_none hl hp hc, children_of_find?_none hc, visitAll]
    rfl
  | some c => rw [visit_of_find? hl hp hc, children_of_find? hc]

private theorem MarkRun.sameEnd (run : t.MarkRun s task calls result) (agrees : s.Agrees left) :
    SameEnd s.stack (t.searchTask left s.stack task) result := by
  induction run generalizing left with
  | @done s name mark =>
    rw [searchTask, visit, if_pos ((agrees.done_iff name).1 mark)]
    exact .left rfl agrees
  | @met s name mark =>
    have hl : name ∉ left := by
      intro hmem
      cases mark.symm.trans ((agrees.done_iff name).2 hmem)
    have hp : name ∈ s.stack := (agrees.active_iff name).1 mark
    rw [searchTask, visit, if_neg hl, dif_pos hp, MarkState.cycleAt_eq hp]
    exact .cycle _
  | failed mark _ ih =>
    have hinner := (ih (agrees.enter mark)).eq_error
    rw [searchTask, MarkState.stack_enter] at hinner
    rw [searchTask, visit_of_new (agrees.not_mem_left mark) (agrees.not_mem_stack mark), hinner]
    exact .cycle _
  | @left s s₁ name calls mark _ ih =>
    obtain ⟨left₁, hinner, hstack, hagrees⟩ := (ih (agrees.enter mark)).exists_left
    rw [searchTask, MarkState.stack_enter] at hinner
    rw [MarkState.stack_enter] at hstack
    rw [searchTask, visit_of_new (agrees.not_mem_left mark) (agrees.not_mem_stack mark), hinner]
    refine .left ?_ (hagrees.leave hstack (agrees.not_mem_stack mark))
    rw [MarkState.stack_leave, hstack, List.dropLast_concat]
  | nil s =>
    rw [searchTask, visitAll]
    exact .left rfl agrees
  | first _ ih =>
    have hhead := (ih agrees).eq_error
    rw [searchTask] at hhead
    simp only [searchTask, visitAll, hhead]
    exact .cycle _
  | @cons s s₁ name rest _ _ result _ _ ih₁ ih₂ =>
    obtain ⟨left₁, hhead, hstack, hagrees⟩ := (ih₁ agrees).exists_left
    have htail := ih₂ hagrees
    rw [searchTask] at hhead
    rw [searchTask, hstack] at htail
    simp only [searchTask, visitAll, hhead]
    exact htail

private theorem consistent_of_agrees (agrees : s.Agrees left) (settled : t.Settled left)
    (way : t.IsPath s.stack name) : MarkCall.Consistent t ⟨s, name⟩ where
  active_iff := agrees.active_iff
  distinct := way.distinct
  chain := way.chain
  done := by
    intro x y hdone hreaches
    have hy := settled.reaches ((agrees.done_iff x).1 hdone) hreaches
    exact ⟨(agrees.done_iff y).2 hy, settled.not_transGen hy⟩
  position := by
    intro hactive
    exact MarkState.isSome_position?_iff.2 ((agrees.active_iff name).1 hactive)

private theorem isPath_enter (agrees : s.Agrees left) (mark : s.mark name = .unvisited)
    (way : t.IsPath s.stack name) :
    ∀ child ∈ (MarkTask.visitAll (t.children name)).names, t.IsPath (s.enter name).stack child :=
  fun _ hchild => way.push (agrees.not_mem_stack mark) (embeds_iff.2 hchild)

/-- What holds at the first call of a search holds at all of its calls. -/
theorem MarkRun.consistent (run : t.MarkRun s task calls result) (agrees : s.Agrees left)
    (settled : t.Settled left) (way : ∀ name ∈ task.names, t.IsPath s.stack name) :
    ∀ call ∈ calls, call.Consistent t := by
  induction run generalizing left with
  | @done s name mark =>
    have hway := way name (List.mem_singleton.2 rfl)
    exact List.forall_mem_singleton.2 (consistent_of_agrees agrees settled hway)
  | @met s name mark =>
    have hway := way name (List.mem_singleton.2 rfl)
    exact List.forall_mem_singleton.2 (consistent_of_agrees agrees settled hway)
  | @failed s name calls cycle mark _ ih =>
    have hway := way name (List.mem_singleton.2 rfl)
    have hinner := ih (agrees.enter mark) settled (isPath_enter agrees mark hway)
    exact List.forall_mem_cons.2 ⟨consistent_of_agrees agrees settled hway, hinner⟩
  | @left s s₁ name calls mark _ ih =>
    have hway := way name (List.mem_singleton.2 rfl)
    have hinner := ih (agrees.enter mark) settled (isPath_enter agrees mark hway)
    exact List.forall_mem_cons.2 ⟨consistent_of_agrees agrees settled hway, hinner⟩
  | nil => simp
  | @first s name rest _ _ _ ih =>
    exact ih agrees settled fun x hx =>
      way x (List.mem_singleton.1 hx ▸ List.mem_cons_self)
  | @cons s s₁ name rest calls₁ calls₂ result head _ ih₁ ih₂ =>
    obtain ⟨left₁, hhead, hstack, hagrees⟩ := (head.sameEnd agrees).exists_left
    have hexplored := (search_outcome t).1 left s.stack name
    rw [searchTask] at hhead
    rw [hhead] at hexplored
    have hcalls₁ := ih₁ agrees settled fun x hx =>
      way x (List.mem_singleton.1 hx ▸ List.mem_cons_self)
    -- The names that the first search has left are settled, so the others start as the first did.
    have hcalls₂ := ih₂ hagrees (hexplored.settled settled) fun x hx =>
      hstack ▸ way x (List.mem_cons_of_mem name hx)
    exact List.forall_mem_append.2 ⟨hcalls₁, hcalls₂⟩

/-- Every search with marks ends, in one way. The search from all containers in turn is consistent
at each of its calls and ends with the cycle that the search of the layout finds, which is a cycle
of containers. -/
theorem consistent_of_search (t : LayoutTree) :
    (∀ s task, ∃! run : List MarkCall × Except (List String) MarkState,
      t.MarkRun s task run.1 run.2) ∧
    ∃ calls result, t.MarkRun .start (.visitAll t.names) calls result ∧
      (∀ call ∈ calls, call.Consistent t) ∧
      (∀ path, result = .error path ↔ t.cycle? = some path) ∧
      ∀ path, t.cycle? = some path → t.IsCycle path ∧ ∀ name ∈ path, name ∈ t.names := by
  refine ⟨fun s task => ?_, ?_⟩
  · obtain ⟨calls, result, run⟩ := exists_markRun t s task
    refine ⟨(calls, result), run, fun other hother => ?_⟩
    obtain ⟨hcalls, hresult⟩ := hother.unique run
    exact Prod.ext hcalls hresult
  · obtain ⟨calls, result, run⟩ := exists_markRun t .start (.visitAll t.names)
    have hend := run.sameEnd MarkState.Agrees.start
    rw [searchTask, MarkState.stack_start] at hend
    refine ⟨calls, result, run, ?_, fun path => ?_, fun path hpath => ?_⟩
    · exact run.consistent MarkState.Agrees.start trivial fun name _ => IsPath.nil t name
    · rw [cycle?]
      generalize t.visitAll [] [] t.names = found at hend
      cases hend <;> simp
    · have hcycle := isCycle_of_cycle? hpath
      exact ⟨hcycle, fun _ => hcycle.mem_names⟩

/-- The way to a cycle is no part of it. -/
example : (LayoutTree.cycle? ⟨none, 4096, none,
    [⟨"TOP", [.ofContainer "MISSING" 4096, .ofContainer "A" 4096]⟩,
      ⟨"A", [.ofContainer "B" 4096]⟩, ⟨"B", [.ofContainer "A" 4096]⟩], by decide⟩) =
    some ["A", "B", "A"] := by
  cbv

end LayoutTree
end FlashImage
