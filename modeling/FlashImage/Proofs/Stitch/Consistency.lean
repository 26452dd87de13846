import FlashImage.Proofs.Layout.Search
import FlashImage.Proofs.Stitch.Composition
import FlashImage.Proofs.Stitch.Stack

/-!
What holds of a stitcher between its calls, whatever layout it has and whatever happens to the
files.

The containers that have been built stand, the last one first, in an order in which each stands
before all that it embeds. So what they embed has been built too, and none of them is on a cycle. A
call that fails has not built its container, and so nothing that embeds it.
-/

set_option autoImplicit false
set_option relaxedAutoImplicit false

namespace FlashImage

open Relation (ReflTransGen TransGen)

namespace StitchMemory

/-- The containers that have been built, the last one first. -/
def names (m : StitchMemory) : List String := m.built.map (·.1)

private theorem not_mem_names_iff {m : StitchMemory} {name : String} :
    name ∉ m.names ↔ m.built? name = none := by
  rw [built?, List.lookup_eq_none_iff, names, List.mem_map, not_exists]
  refine forall_congr' fun p => ?_
  rw [not_and, bne_iff_ne, ne_comm]

theorem mem_names_iff {m : StitchMemory} {name : String} :
    name ∈ m.names ↔ ∃ data, m.built? name = some data := by
  rw [← Option.ne_none_iff_exists', Ne, ← not_mem_names_iff, not_not]

end StitchMemory

namespace StitchJob

variable {job : StitchJob} {files : Files → Prop} {m m' : StitchMemory} {w w' : Workspace}

theorem Assembled.mem_names {container : String} {regions : List Region}
    {contents : List (Option Bytes)} {data : Bytes}
    (h : job.Assembled files m container regions contents data) {r : Region} (hr : r ∈ regions)
    {child : String} (source : r.source = .container child) : child ∈ m.names := by
  induction h with
  | nil => cases hr
  | cons resolved _ _ ih =>
    rcases List.mem_cons.1 hr with rfl | hr
    · cases resolved with
      | leftOut source' => cases source.symm.trans source'
      | artifact source' => cases source.symm.trans source'
      | container source' built =>
        cases source.symm.trans source'
        exact StitchMemory.mem_names_iff.2 ⟨_, built⟩
    · exact ih hr

theorem ContentRun.names {container artifact : String} {r : Region}
    {result : Except Error (Option Bytes)}
    (run : job.ContentRun container r artifact m w result m' w') : m'.names = m.names := by
  cases run <;> rfl

/-- A run keeps the order in which containers stand before all that they embed. -/
theorem StitchRun.settled (keeps : job.Keeps files) {task : Task} {result : Except Error Bytes}
    (run : job.StitchRun task m w result m' w') (sound : job.Sound files m w)
    (settled : job.tree.Settled m.names) : job.tree.Settled m'.names := by
  induction run with
  | kept | cycle | unknown | zeroSize | nil => exact settled
  | failed _ _ _ _ ih => exact ih sound settled
  | @built path name c _ m₁ _ _ _ new _ found regions ih =>
    -- The regions have been made of containers that were built by then.
    obtain ⟨-, hdone⟩ := stitchRun_sound keeps regions sound
    obtain ⟨contents, hassembled⟩ := hdone _ rfl
    have hnew : name ∉ m₁.names := StitchMemory.not_mem_names_iff.2 (regions.new_of_regions new)
    refine ⟨hnew, fun child hchild => ?_, ih sound settled⟩
    rw [LayoutTree.children_of_find? found] at hchild
    obtain ⟨r, hr, source⟩ := LayoutTree.mem_children_iff.1 hchild
    exact hassembled.mem_names hr source
  | noContent _ _ content => exact content.names ▸ settled
  | artifact _ _ run => exact run.names ▸ settled
  | noChild _ _ _ ih => exact ih sound settled
  | incompressible _ _ _ _ ih => exact ih sound settled
  | child _ _ _ _ ih => exact ih sound settled
  | firstFailed _ ih => exact ih sound settled
  | restFailed first _ ihFirst ihRest =>
    exact ihRest (stitchRun_sound keeps first sound).1 (ihFirst sound settled)
  | cons first _ ihFirst ihRest =>
    exact ihRest (stitchRun_sound keeps first sound).1 (ihFirst sound settled)

theorem settled_of_reachable (keeps : job.Keeps files) (reachable : job.Reachable files m w) :
    job.tree.Settled m.names := by
  have hboth : job.Sound files m w ∧ job.tree.Settled m.names := by
    refine reachable.invariant (fun m w => job.Sound files m w ∧ job.tree.Settled m.names)
      ?_ ?_ ?_ ?_
    · intro w hw
      exact ⟨sound_empty hw, trivial⟩
    · intro name m w result m' w' h call
      have run := stitchRun call
      exact ⟨(stitchRun_sound keeps run h.1).1, run.settled keeps h.1 h.2⟩
    · intro m w e h
      exact ⟨h.1.withFiles h.1.met, h.2⟩
    · intro m w fs h hfs
      exact ⟨h.1.withFiles hfs, h.2⟩
  exact hboth.2

private theorem StitchRun.built?_of_error {path : List String} {name : String} {e : Error}
    (run : job.StitchRun (.container path name) m w (.error e) m' w') :
    m.built? name = none ∧ m'.built? name = none := by
  cases run with
  | cycle new => exact ⟨new, new⟩
  | unknown new => exact ⟨new, new⟩
  | failed new _ _ regions => exact ⟨new, regions.new_of_regions new⟩

/-- What holds of the containers that a stitcher keeps. -/
structure Consistent (job : StitchJob) (m : StitchMemory) : Prop where
  container : ∀ name data, m.built? name = some data →
    ∃ c ∈ job.tree.containers, c.name = name ∧ data.length ≤ c.allocated
  closed : ∀ name data, m.built? name = some data →
    ∀ inner, ReflTransGen job.tree.Embeds name inner → ∃ data', m.built? inner = some data'
  acyclic : ∀ name data, m.built? name = some data →
    ∀ inner, ReflTransGen job.tree.Embeds name inner → ¬ TransGen job.tree.Embeds inner inner

theorem Sound.consistent (sound : job.Sound files m w) (settled : job.tree.Settled m.names) :
    job.Consistent m := by
  have hreached {name inner : String} {data : Bytes} (built : m.built? name = some data)
      (h : ReflTransGen job.tree.Embeds name inner) : inner ∈ m.names :=
    settled.reaches (StitchMemory.mem_names_iff.2 ⟨data, built⟩) h
  refine ⟨?_, ?_, ?_⟩
  · intro name data built
    obtain ⟨c, contents, hc, hassembled⟩ := sound.built name data built
    refine ⟨c, LayoutTree.mem_of_find? hc, LayoutTree.name_of_find? hc, ?_⟩
    exact Nat.le.intro hassembled.length_add_leftOut
  · intro name data built inner h
    exact StitchMemory.mem_names_iff.1 (hreached built h)
  · intro name data built inner h
    exact settled.not_transGen (hreached built h)

/-- After any calls, with any changes of the files, a stitcher with a stack gets to the memory of a
stitcher with the empty stack and with no other. The containers that have been built are containers
of the layout and no longer than allocated; what they embed has been built too, and none of that is
on a cycle. A call that fails keeps what has been built and builds neither its container nor one
that embeds it. -/
theorem consistent_of_reachable (reachable : job.Reachable (fun _ => True) m w) :
    (∀ active, job.StackReachable ⟨m, active⟩ w ↔ active = []) ∧
    job.Consistent m ∧
    ∀ name e m' w', job.stitch name m w = ((.error e, m'), w') →
      m.Within m' ∧ ∀ outer, ReflTransGen job.tree.Embeds outer name →
        m.built? outer = none ∧ m'.built? outer = none := by
  have keeps : job.Keeps (fun _ => True) := fun _ _ _ _ => trivial
  have hconsistent {m : StitchMemory} {w : Workspace}
      (reachable : job.Reachable (fun _ => True) m w) : job.Consistent m :=
    (sound_of_reachable keeps reachable).consistent (settled_of_reachable keeps reachable)
  refine ⟨fun active => ?stack, hconsistent reachable, ?failing⟩
  case stack =>
    constructor
    · exact fun h => h.idle.1
    · rintro rfl
      exact stackReachable_of_reachable reachable
  case failing =>
    intro name e m' w' call
    have run := stitchRun call
    obtain ⟨hbefore, hafter⟩ := run.built?_of_error
    -- What embeds the container would have to be built after it.
    have hnone {m : StitchMemory} (consistent : job.Consistent m) (new : m.built? name = none)
        {outer : String} (h : ReflTransGen job.tree.Embeds outer name) : m.built? outer = none := by
      refine Option.eq_none_iff_forall_ne_some.2 fun data built => ?_
      obtain ⟨data', hdata⟩ := consistent.closed outer data built name h
      rw [new] at hdata
      cases hdata
    refine ⟨run.within, fun outer h => ?_⟩
    exact ⟨hnone (hconsistent reachable) hbefore h,
      hnone (hconsistent (reachable.stitched call)) hafter h⟩

def loopTree : LayoutTree where
  name := none
  blockSize := 4
  padByte := none
  containers := [
    ⟨"LEAF", [Region.ofArtifact "a" 4]⟩,
    ⟨"LEFT", [Region.ofContainer "LEAF" 4, Region.ofContainer "RIGHT" 4]⟩,
    ⟨"RIGHT", [Region.ofContainer "LEFT" 4]⟩]
  distinct := by decide

def loopJob : StitchJob := ⟨loopTree, sampleStore, fun _ raw => return raw, 0xFF⟩

theorem stitch_loop :
    let first := loopJob.stitch "RIGHT" .empty sampleWorkspace
    first.1.1 = .error (.cycle ["RIGHT", "LEFT", "RIGHT"]) ∧
      first.1.2.built = [("LEAF", [1, 2, 3, 0xFF])] ∧
      (loopJob.stitch "LEFT" first.1.2 first.2).1.1 =
        .error (.cycle ["LEFT", "RIGHT", "LEFT"]) := by
  refine ⟨?_, ?_, ?_⟩ <;> cbv

theorem consistent_of_reachable_loop :
    let first := loopJob.stitch "RIGHT" .empty sampleWorkspace
    let second := loopJob.stitch "LEFT" first.1.2 first.2
    first.1.1 = .error (.cycle ["RIGHT", "LEFT", "RIGHT"]) ∧
      first.1.2.built = [("LEAF", [1, 2, 3, 0xFF])] ∧
      loopJob.Reachable (fun _ => True) first.1.2 first.2 ∧
      second.1.1 = .error (.cycle ["LEFT", "RIGHT", "LEFT"]) ∧
      (∀ active, loopJob.StackReachable ⟨first.1.2, active⟩ first.2 ↔ active = []) ∧
      loopJob.Consistent first.1.2 ∧ first.1.2.Within second.1.2 ∧
      second.1.2.built? "RIGHT" = none := by
  obtain ⟨hfirst, hbuilt, hsecond⟩ := stitch_loop
  have hreachable : loopJob.Reachable (fun _ => True)
      (loopJob.stitch "RIGHT" .empty sampleWorkspace).1.2
      (loopJob.stitch "RIGHT" .empty sampleWorkspace).2 := .stitched (.start trivial) rfl
  have hembeds : loopJob.tree.Embeds "RIGHT" "LEFT" := by
    rw [LayoutTree.embeds_iff]
    decide
  obtain ⟨hstack, hconsistent, hfailing⟩ := consistent_of_reachable hreachable
  obtain ⟨hwithin, hnone⟩ := hfailing "LEFT" _ _ _ (Prod.ext (Prod.ext hsecond rfl) rfl)
  exact ⟨hfirst, hbuilt, hreachable, hsecond, hstack, hconsistent, hwithin,
    (hnone "RIGHT" (.single hembeds)).2⟩

end StitchJob
end FlashImage
