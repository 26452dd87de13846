import FlashImage.Proofs.Stitch.Calls
import FlashImage.Proofs.Stitch.Determinism

/-!
A stitcher that holds its path as a stack.

The path of a stitcher goes down as an argument. Here it is a part of the state: a container is put
on the stack before its regions are built, and it is taken off when they are done, whether they have
succeeded or failed. This stitcher calls itself to a limited depth only. With one level more than
there are containers off the stack, it does what the stitcher does below the path, and it leaves the
stack as it was.
-/

set_option autoImplicit false
set_option relaxedAutoImplicit false

namespace FlashImage

structure StackState where
  memory : StitchMemory
  /-- The containers that are being built, the innermost last. -/
  active : List String

/-- A step of a stitcher with a stack. It has no outcome if it needs more depth than it may use. -/
abbrev Stacking (α : Type) := ExceptT Error (StateT StackState (StateT Workspace Option)) α

namespace Stacking

variable {α β : Type}

def tooDeep : Stacking α := fun _ _ => none

def ofStitching (step : Stitching α) : Stacking α := fun s w =>
  some (((step s.memory w).1.1, { s with memory := (step s.memory w).1.2 }), (step s.memory w).2)

def active : Stacking (List String) := fun s w => some ((.ok s.active, s), w)

def push (name : String) : Stacking Unit := fun s w =>
  some ((.ok (), { s with active := s.active ++ [name] }), w)

def pop : Stacking Unit := fun s w =>
  some ((.ok (), { s with active := s.active.dropLast }), w)

def attempt (step : Stacking α) : Stacking (Except Error α) := fun s w =>
  match step s w with
  | none => none
  | some ((result, s), w) => some ((.ok result, s), w)

def within (name : String) (step : Stacking α) : Stacking α := do
  push name
  let result ← attempt step
  pop
  ofStitching (Stitching.ofBuild (Build.ofExcept result))

theorem bind_ok {step : Stacking α} {next : α → Stacking β} {s s₁ : StackState}
    {w w₁ : Workspace} {a : α} (h : step s w = some ((.ok a, s₁), w₁)) :
    (step >>= next) s w = next a s₁ w₁ := by
  simp only [bind, ExceptT.bind, ExceptT.mk, StateT.bind, h]
  rfl

theorem bind_error {step : Stacking α} {next : α → Stacking β} {s s₁ : StackState}
    {w w₁ : Workspace} {e : Error} (h : step s w = some ((.error e, s₁), w₁)) :
    (step >>= next) s w = some ((.error e, s₁), w₁) := by
  simp only [bind, ExceptT.bind, ExceptT.mk, StateT.bind, h]
  rfl

/-- From a given stack, a step has the outcome of another one without a stack, and it leaves the
stack as it was. -/
def Follows (active : List String) (step : Stacking α) (plain : Stitching α) : Prop :=
  ∀ m w, step ⟨m, active⟩ w =
    some (((plain m w).1.1, ⟨(plain m w).1.2, active⟩), (plain m w).2)

private theorem follows_ofStitching (active : List String) (step : Stitching α) :
    Follows active (ofStitching step) step := fun _ _ => rfl

private theorem follows_pure (active : List String) (a : α) :
    Follows active (pure a) (pure a) := fun _ _ => rfl

theorem follows_throw (active : List String) (e : Error) :
    Follows (α := α) active (throw e) (throw e) := fun _ _ => rfl

theorem Follows.bind {active : List String} {step : Stacking α} {plain : Stitching α}
    {next : α → Stacking β} {following : α → Stitching β} (h : Follows active step plain)
    (hnext : ∀ a, Follows active (next a) (following a)) :
    Follows active (step >>= next) (plain >>= following) := by
  intro m w
  rcases hplain : plain m w with ⟨⟨e | a, m₁⟩, w₁⟩
  · have hstep : step ⟨m, active⟩ w = some ((.error e, ⟨m₁, active⟩), w₁) := by rw [h m w, hplain]
    rw [bind_error hstep, Stitching.bind_error hplain]
  · have hstep : step ⟨m, active⟩ w = some ((.ok a, ⟨m₁, active⟩), w₁) := by rw [h m w, hplain]
    rw [bind_ok hstep, Stitching.bind_ok hplain]
    exact hnext a m₁ w₁

private theorem Follows.of_active {active : List String} {next : List String → Stacking α}
    {plain : Stitching α} (h : Follows active (next active) plain) :
    Follows active (Stacking.active >>= next) plain := by
  intro m w
  have hactive : Stacking.active ⟨m, active⟩ w = some ((.ok active, ⟨m, active⟩), w) := rfl
  rw [bind_ok hactive]
  exact h m w

theorem Follows.within {active : List String} {name : String} {step : Stacking α}
    {plain : Stitching α} (h : Follows (active ++ [name]) step plain) :
    Follows active (within name step) plain := by
  intro m w
  rcases hplain : plain m w with ⟨⟨result, m₁⟩, w₁⟩
  have hpush : push name ⟨m, active⟩ w = some ((.ok (), ⟨m, active ++ [name]⟩), w) := rfl
  have hattempt : attempt step ⟨m, active ++ [name]⟩ w =
      some ((.ok result, ⟨m₁, active ++ [name]⟩), w₁) := by
    rw [attempt, h m w, hplain]
  have hpop : pop ⟨m₁, active ++ [name]⟩ w₁ = some ((.ok (), ⟨m₁, active⟩), w₁) := by
    rw [pop, List.dropLast_concat]
  rw [Stacking.within, bind_ok hpush, bind_ok hattempt, bind_ok hpop]
  cases result <;> rfl

end Stacking

namespace StitchJob

open Stacking (Follows)

/-- The slot of a region, where other containers are built by `child`. -/
def stackRegion (job : StitchJob) (child : String → Stacking Bytes) (container : String)
    (r : Region) : Stacking Bytes := do
  if r.size = 0 then throw (.region container r.name .zeroSize)
  let content ←
    match r.source with
    | .artifact artifact => Stacking.ofStitching (job.artifactContent container r artifact)
    | .container name => do
      let raw ← child name
      some <$> Stacking.ofStitching (Stitching.ofBuild (job.compressed r.codec raw))
  Stacking.ofStitching (Stitching.ofBuild (Build.ofExcept (job.slot container r content)))

def stackRegions (job : StitchJob) (child : String → Stacking Bytes) (container : String) :
    List Region → Stacking Bytes
  | [] => return []
  | r :: rest => do
    let first ← job.stackRegion child container r
    let others ← stackRegions job child container rest
    return first ++ others

def stackStitch (job : StitchJob) : (depth : Nat) → String → Stacking Bytes
  | 0, _ => Stacking.tooDeep
  | depth + 1, name => do
    match (← Stacking.ofStitching Stitching.memory).built? name with
    | some data => return data
    | none =>
      let active ← Stacking.active
      if name ∈ active then throw (.cycle (LayoutTree.cycleAt active name))
      else
        match job.tree.find? name with
        | none => throw (unknownContainer name)
        | some c =>
          let data ← Stacking.within name
            (job.stackRegions (stackStitch job depth) c.name c.regions)
          Stacking.ofStitching (Stitching.update (·.keepBuilt name data))
          return data

variable {job : StitchJob} {active : List String} {child : String → Stacking Bytes}
  {container : String}

private theorem stackRegion_of_artifact {artifact : String} {r : Region} (size : r.size ≠ 0)
    (source : r.source = .artifact artifact) :
    job.stackRegion child container r = (do
      let content ← Stacking.ofStitching (job.artifactContent container r artifact)
      Stacking.ofStitching (Stitching.ofBuild (Build.ofExcept (job.slot container r content)))) := by
  rw [stackRegion, if_neg size]
  simp only [source]

private theorem stackRegion_of_container {name : String} {r : Region} (size : r.size ≠ 0)
    (source : r.source = .container name) :
    job.stackRegion child container r = (do
      let raw ← child name
      let data ← Stacking.ofStitching (Stitching.ofBuild (job.compressed r.codec raw))
      Stacking.ofStitching
        (Stitching.ofBuild (Build.ofExcept (job.slot container r (some data))))) := by
  rw [stackRegion, if_neg size]
  simp only [source, map_eq_pure_bind, bind_assoc, pure_bind]

private theorem follows_stackRegion
    (hchild : ∀ name, Follows active (child name) (job.stitchBelow active name)) (r : Region) :
    Follows active (job.stackRegion child container r) (job.stitchRegion active container r) := by
  by_cases hsize : r.size = 0
  · rw [stackRegion, stitchRegion, if_pos hsize, if_pos hsize]
    exact Stacking.follows_throw _ _
  cases hsource : r.source with
  | artifact artifact =>
    rw [stackRegion_of_artifact hsize hsource, stitchRegion_of_artifact hsize hsource]
    exact (Stacking.follows_ofStitching _ _).bind fun _ => Stacking.follows_ofStitching _ _
  | container name =>
    rw [stackRegion_of_container hsize hsource, stitchRegion_of_container hsize hsource]
    refine (hchild name).bind fun raw => ?_
    exact (Stacking.follows_ofStitching _ _).bind fun _ => Stacking.follows_ofStitching _ _

private theorem follows_stackRegions
    (hchild : ∀ name, Follows active (child name) (job.stitchBelow active name))
    (regions : List Region) :
    Follows active (job.stackRegions child container regions)
      (job.stitchRegions active container regions) := by
  induction regions with
  | nil =>
    rw [stackRegions, stitchRegions]
    exact Stacking.follows_pure _ _
  | cons r rest ih =>
    rw [stackRegions, stitchRegions_cons]
    refine (follows_stackRegion hchild r).bind fun first => ?_
    exact ih.bind fun others => Stacking.follows_pure _ _

/-- With more levels than there are containers off the stack, a stitcher with a stack does what the
stitcher does below the path. -/
theorem follows_stackStitch {depth : Nat} (hdepth : job.tree.offPath active < depth)
    (name : String) :
    Follows active (job.stackStitch depth name) (job.stitchBelow active name) := by
  induction depth generalizing active name with
  | zero => exact absurd hdepth (Nat.not_lt_zero _)
  | succ depth ih =>
    rw [stackStitch, stitchBelow_eq]
    refine (Stacking.follows_ofStitching _ _).bind fun m => ?_
    cases m.built? name with
    | some data => exact Stacking.follows_pure _ _
    | none =>
      refine Stacking.Follows.of_active ?_
      by_cases hactive : name ∈ active
      · simp only [if_pos hactive]
        exact Stacking.follows_throw _ _
      simp only [if_neg hactive]
      cases hc : job.tree.find? name with
      | none => exact Stacking.follows_throw _ _
      | some c =>
        -- One level is used up, and one container less is off the stack.
        have hless : job.tree.offPath (active ++ [name]) < depth :=
          Nat.lt_of_lt_of_le (LayoutTree.offPath_append_lt hc hactive) (Nat.le_of_lt_succ hdepth)
        refine (follows_stackRegions (fun child => ih hless child) _).within.bind fun data => ?_
        exact (Stacking.follows_ofStitching _ _).bind fun _ => Stacking.follows_pure _ _

def stackDepth (job : StitchJob) : Nat := job.tree.containers.length + 1

theorem offPath_nil (t : LayoutTree) : t.offPath [] = t.containers.length := by
  simp [LayoutTree.offPath, LayoutTree.names]

def stackEach (job : StitchJob) : List String → Stacking (List (String × Bytes))
  | [] => return []
  | name :: rest => do
    let data ← job.stackStitch job.stackDepth name
    Stacking.ofStitching (Stitching.ofBuild (Build.record (.containerDone name data.length)))
    let others ← stackEach job rest
    return (name, data) :: others

def stackAll (job : StitchJob) : Stacking (List (String × Bytes)) := do
  Stacking.ofStitching
    (Stitching.ofBuild (Build.record (.started job.tree.containers.length)))
  let outputs ← job.stackEach job.tree.names
  Stacking.ofStitching (Stitching.ofBuild (Build.record .finished))
  return outputs

private theorem follows_call (job : StitchJob) (name : String) :
    Follows [] (job.stackStitch job.stackDepth name) (job.stitch name) :=
  follows_stackStitch (by rw [offPath_nil]; exact Nat.lt_succ_self _) name

private theorem follows_stackAll (job : StitchJob) : Follows [] job.stackAll job.stitchAll := by
  have heach (names : List String) : Follows [] (job.stackEach names) (job.stitchEach names) := by
    induction names with
    | nil => exact Stacking.follows_pure _ _
    | cons name rest ih =>
      refine (follows_call job name).bind fun data => ?_
      refine (Stacking.follows_ofStitching _ _).bind fun _ => ?_
      exact ih.bind fun others => Stacking.follows_pure _ _
  refine (Stacking.follows_ofStitching _ _).bind fun _ => ?_
  refine (heach _).bind fun outputs => ?_
  exact (Stacking.follows_ofStitching _ _).bind fun _ => Stacking.follows_pure _ _

/-- The states to which calls of a new stitcher with a stack lead. Between the calls the files
become any others. -/
inductive StackReachable (job : StitchJob) : StackState → Workspace → Prop
  | start (w : Workspace) : StackReachable job ⟨.empty, []⟩ w
  | stitched {s s' : StackState} {w w' : Workspace} {name : String}
      {result : Except Error Bytes} (prior : StackReachable job s w)
      (call : job.stackStitch job.stackDepth name s w = some ((result, s'), w')) :
      StackReachable job s' w'
  | allStitched {s s' : StackState} {w w' : Workspace}
      {result : Except Error (List (String × Bytes))} (prior : StackReachable job s w)
      (call : job.stackAll s w = some ((result, s'), w')) : StackReachable job s' w'
  | changed {s : StackState} {w : Workspace} (prior : StackReachable job s w) (fs : Files) :
      StackReachable job s { w with files := fs }

theorem StackReachable.idle {s : StackState} {w : Workspace} (reachable : job.StackReachable s w) :
    s.active = [] ∧ job.Reachable (fun _ => True) s.memory w := by
  induction reachable with
  | start w => exact ⟨rfl, .start trivial⟩
  | @stitched s s' w w' name result _ call ih =>
    obtain ⟨m, active⟩ := s
    obtain ⟨rfl, hprior⟩ := ih
    rw [follows_call job name m w] at call
    cases call
    exact ⟨rfl, hprior.stitched rfl⟩
  | @allStitched s s' w w' result _ call ih =>
    obtain ⟨m, active⟩ := s
    obtain ⟨rfl, hprior⟩ := ih
    rw [follows_stackAll job m w] at call
    cases call
    exact ⟨rfl, hprior.allStitched rfl⟩
  | changed _ fs ih => exact ⟨ih.1, ih.2.changed trivial⟩

theorem stackReachable_of_reachable {m : StitchMemory} {w : Workspace}
    (reachable : job.Reachable (fun _ => True) m w) : job.StackReachable ⟨m, []⟩ w := by
  induction reachable with
  | start => exact .start _
  | @stitched m m' w w' name result _ call ih =>
    have hcall : job.stackStitch job.stackDepth name ⟨m, []⟩ w =
        some ((result, ⟨m', []⟩), w') := by rw [follows_call, call]
    exact ih.stitched hcall
  | @allStitched m m' w w' result _ call ih =>
    have hcall : job.stackAll ⟨m, []⟩ w = some ((result, ⟨m', []⟩), w') := by
      rw [follows_stackAll, call]
    exact ih.allStitched hcall
  | changed _ _ ih => exact ih.changed _

end StitchJob
end FlashImage
