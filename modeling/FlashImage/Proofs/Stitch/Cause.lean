import FlashImage.Proofs.Stitch.Consistency
import FlashImage.Proofs.Stitch.Failure

/-!
Why building a container fails, in every layout and from every state.

A failure is told by where the stitcher was: on a way down from the container that was asked for, or
at a region of a container of the layout. So a cycle that is reported is one among the containers
that the call has come to. A stitcher goes down no further than there are containers, and it fails
wherever it would have to go round in a cycle.
-/

set_option autoImplicit false
set_option relaxedAutoImplicit false

namespace FlashImage

open Relation (ReflTransGen TransGen)

namespace LayoutTree

/-- A way down from a container to a name, on which no container is met twice. -/
structure ComesTo (t : LayoutTree) (root : String) (path : List String) (name : String) :
    Prop where
  isPath : t.IsPath path name
  reached : ∀ x ∈ path ++ [name], ReflTransGen t.Embeds root x

/-- Among the containers that a container reaches, one embeds itself, be it through others. -/
def CycleBelow (t : LayoutTree) (name : String) : Prop :=
  ∃ inner, ReflTransGen t.Embeds name inner ∧ TransGen t.Embeds inner inner

variable {t : LayoutTree} {root name child : String} {path : List String}

private theorem comesTo_nil (t : LayoutTree) (name : String) : t.ComesTo name [] name := by
  refine ⟨.nil t name, fun x hx => ?_⟩
  rw [List.mem_singleton.1 hx]

theorem ComesTo.push (h : t.ComesTo root path name) (offPath : name ∉ path)
    (he : t.Embeds name child) : t.ComesTo root (path ++ [name]) child := by
  refine ⟨h.isPath.push offPath he, fun x hx => ?_⟩
  rcases List.mem_append.1 hx with hx | hx
  · exact h.reached x hx
  · rw [List.mem_singleton.1 hx]
    exact (h.reached name (by simp)).tail he

theorem ComesTo.isCycle (h : t.ComesTo root path name) (onPath : name ∈ path) :
    t.CycleBelow root ∧ t.IsCycle (cycleAt path name) ∧
      ∀ x ∈ cycleAt path name, x ∈ t.names ∧ ReflTransGen t.Embeds root x := by
  have hreached : ReflTransGen t.Embeds root name := h.reached name (by simp)
  refine ⟨⟨name, hreached, h.isPath.leads onPath⟩, h.isPath.isCycle onPath, fun x hx => ?_⟩
  have hpath : x ∈ path := by
    rcases List.mem_append.1 hx with hx | hx
    · exact (List.dropWhile_sublist _).subset hx
    · exact List.mem_singleton.1 hx ▸ onPath
  obtain ⟨inner, he, -⟩ := TransGen.head'_iff.1 (h.isPath.leads hpath)
  exact ⟨mem_names_of_embeds he, h.reached x (List.mem_append_left _ hpath)⟩

end LayoutTree

namespace StitchJob

variable {job : StitchJob} {files : Files → Prop} {root : String} {m m' : StitchMemory}
  {w w' : Workspace} {e : Error} {calls : Codec → Bytes → Workspace → Prop}

structure Stands (t : LayoutTree) (root : String) (path : List String) (container : String)
    (siblings : List Region) : Prop where
  owner : ∃ c ∈ t.containers, c.name = container ∧ ∀ r ∈ siblings, r ∈ c.regions
  child : ∀ r ∈ siblings, ∀ child, r.source = .container child → t.ComesTo root path child

/-- A task to which a call for a container has come. -/
def Task.ReachedFrom (t : LayoutTree) (root : String) : Task → Prop
  | .container path name => t.ComesTo root path name
  | .region path owner r => Stands t root path owner [r]
  | .regions path owner siblings => Stands t root path owner siblings

theorem Stands.mono {t : LayoutTree} {path : List String} {container : String}
    {siblings fewer : List Region} (h : Stands t root path container siblings)
    (hsub : ∀ r ∈ fewer, r ∈ siblings) : Stands t root path container fewer := by
  obtain ⟨c, hc, hname, hregions⟩ := h.owner
  exact ⟨⟨c, hc, hname, fun r hr => hregions r (hsub r hr)⟩, fun r hr => h.child r (hsub r hr)⟩

private theorem Stands.of_found {t : LayoutTree} {path : List String} {name : String}
    {c : Container}
    (way : t.ComesTo root path name) (offPath : name ∉ path) (found : t.find? name = some c) :
    Stands t root (path ++ [name]) c.name c.regions := by
  refine ⟨⟨c, LayoutTree.mem_of_find? found, rfl, fun _ hr => hr⟩, fun r hr child source => ?_⟩
  exact way.push offPath (LayoutTree.embeds_of_region found hr source)

/-- The causes for which a call for a container fails, if it makes some calls of the compressor and
leaves a workspace behind. The files have a property whenever an artifact is loaded. -/
inductive Cause (job : StitchJob) (files : Files → Prop) (root : String)
    (calls : Codec → Bytes → Workspace → Prop) (w : Workspace) : Error → Prop
  | cycle {path : List String} {name : String} (way : job.tree.ComesTo root path name)
      (onPath : name ∈ path) : Cause job files root calls w (.cycle (LayoutTree.cycleAt path name))
  | unknown {name : String} (lacking : job.tree.find? name = none) :
      Cause job files root calls w (unknownContainer name)
  | zeroSize {c : Container} {r : Region} (container : c ∈ job.tree.containers)
      (region : r ∈ c.regions) (size : r.size = 0) :
      Cause job files root calls w (.region c.name r.name .zeroSize)
  | unread {artifact path : String} {fault : FileFault} (met : files w.files)
      (load : job.store.load w.files artifact = .error (.file path fault)) :
      Cause job files root calls w (.file path fault)
  | missing {c : Container} {r : Region} {artifact : String} (container : c ∈ job.tree.containers)
      (region : r ∈ c.regions) (source : r.source = .artifact artifact)
      (policy : r.policy ≠ .ignore) (met : files w.files)
      (load : job.store.load w.files artifact = .ok none) :
      Cause job files root calls w (missingArtifact c.name r artifact)
  | tooLarge {c : Container} {r : Region} {content : Bytes} {m₁ : StitchMemory} {w₁ : Workspace}
      (container : c ∈ job.tree.containers) (region : r ∈ c.regions)
      (sound : job.Sound files m₁ w₁) (resolved : job.Resolved files m₁ r (some content))
      (place : r.place c.name content job.pad = .error (r.sizeViolation c.name content)) :
      Cause job files root calls w (r.sizeViolation c.name content)
  | compressor {e : Error} (fails : job.CompressorFails calls w e) : Cause job files root calls w e

theorem Cause.mono {calls' : Codec → Bytes → Workspace → Prop} (h : job.Cause files root calls w e)
    (more : ∀ codec raw before, calls codec raw before → calls' codec raw before) :
    job.Cause files root calls' w e := by
  cases h with
  | cycle way onPath => exact .cycle way onPath
  | unknown lacking => exact .unknown lacking
  | zeroSize container region size => exact .zeroSize container region size
  | unread met load => exact .unread met load
  | missing container region source policy met load =>
    exact .missing container region source policy met load
  | tooLarge container region sound resolved place =>
    exact .tooLarge container region sound resolved place
  | compressor fails => exact .compressor (fails.mono more)

theorem ContentRun.cause {path : List String} {c : Container} {r : Region} {artifact : String}
    (container : c ∈ job.tree.containers) (region : r ∈ c.regions) (size : r.size ≠ 0)
    (source : r.source = .artifact artifact) (met : files w.files)
    (run : job.ContentRun c.name r artifact m w (.error e) m' w') :
    job.Cause files root (job.Compresses (.region path c.name r) m w) w' e := by
  cases run with
  | unread _ load =>
    obtain ⟨path, -, fault, -, rfl⟩ := ArtifactStore.path_of_load_error load
    exact .unread met load
  | missing _ load policy => exact .missing container region source policy met load
  | failed new load compress =>
    exact .compressor (compressorFails_of_compressed compress
      fun codec => .artifact size source codec new load)

private theorem cause_of_slot {container : String} {path : List String} {r : Region}
    {content : Option Bytes} {m₁ : StitchMemory} {w₁ : Workspace}
    (stands : Stands job.tree root path container [r]) (sound : job.Sound files m₁ w₁)
    (resolved : job.Resolved files m₁ r content) (h : job.slot container r content = .error e) :
    job.Cause files root calls w e := by
  obtain ⟨c, hc, rfl, hregions⟩ := stands.owner
  cases content with
  | none => cases h
  | some content =>
    obtain rfl := Region.eq_sizeViolation_of_place h
    exact .tooLarge hc (hregions r List.mem_cons_self) sound resolved h

/-- A run that fails does so for one of the causes. -/
theorem StitchRun.cause (keeps : job.Keeps files) {task : Task} {result : Except Error Bytes}
    (run : job.StitchRun task m w result m' w') (sound : job.Sound files m w)
    (reached : task.ReachedFrom job.tree root) (h : result = .error e) :
    job.Cause files root (job.Compresses task m w) w' e := by
  induction run with
  | kept | built | nil | cons => cases h
  | cycle _ onPath =>
    cases h
    exact .cycle reached onPath
  | unknown _ _ lacking =>
    cases h
    exact .unknown lacking
  | failed new offPath found _ ih =>
    have hcause := ih sound (Stands.of_found reached offPath found) h
    exact hcause.mono fun _ _ _ => .container new offPath found
  | zeroSize size =>
    cases h
    obtain ⟨c, hc, rfl, hregions⟩ := reached.owner
    exact .zeroSize hc (hregions _ List.mem_cons_self) size
  | noContent size source content =>
    cases h
    obtain ⟨c, hc, rfl, hregions⟩ := reached.owner
    exact content.cause hc (hregions _ List.mem_cons_self) size source sound.met
  | artifact _ source run =>
    obtain ⟨hsound, hresolved⟩ := contentRun_sound keeps source run sound
    exact cause_of_slot reached hsound (hresolved _ rfl) h
  | noChild size source _ ih =>
    have hcause := ih sound (reached.child _ List.mem_cons_self _ source) h
    exact hcause.mono fun _ _ _ => .embedded size source
  | incompressible size source below compress =>
    cases h
    exact .compressor (compressorFails_of_compressed compress
      fun codec => .child size source codec below)
  | child _ source below compress =>
    obtain ⟨hsound, hdone⟩ := stitchRun_sound keeps below sound
    exact cause_of_slot reached hsound (.container source (hdone _ rfl) hsound.met compress) h
  | firstFailed _ ih =>
    have hcause :=
      ih sound (reached.mono fun _ hr => List.mem_singleton.1 hr ▸ List.mem_cons_self) h
    exact hcause.mono fun _ _ _ => .first
  | restFailed first _ _ ihRest =>
    have hcause := ihRest (stitchRun_sound keeps first sound).1
      (reached.mono fun _ hr => List.mem_cons_of_mem _ hr) h
    exact hcause.mono fun _ _ _ => .rest first

theorem cause_of_stitch (keeps : job.Keeps files) (sound : job.Sound files m w) {name : String}
    (call : job.stitch name m w = ((.error e, m'), w')) :
    job.Cause files name (job.callsOf name m w) w' e :=
  (stitchRun call).cause keeps sound (LayoutTree.comesTo_nil _ name) rfl

theorem EachRun.cause (keeps : job.Keeps files) {names : List String}
    {result : Except Error (List (String × Bytes))} (run : job.EachRun names m w result m' w')
    (sound : job.Sound files m w) (h : result = .error e) :
    ∃ name ∈ names, job.Cause files name (job.EachCompresses names m w) w' e := by
  induction run with
  | nil | cons => cases h
  | failed first =>
    cases h
    have hcause := cause_of_stitch keeps sound first
    exact ⟨_, List.mem_cons_self, hcause.mono fun _ _ _ => .first⟩
  | restFailed first _ ih =>
    have hsound := (stitchRun_sound keeps (stitchRun first) sound).1
    obtain ⟨name, hname, cause⟩ := ih (hsound.withFiles hsound.met) h
    exact ⟨name, List.mem_cons_of_mem _ hname, cause.mono fun _ _ _ => .rest first⟩

theorem cause_of_stitchAll (keeps : job.Keeps files) (sound : job.Sound files m w)
    (call : job.stitchAll m w = ((.error e, m'), w')) :
    ∃ name ∈ job.tree.names, job.Cause files name (job.callsOfAll m w) w' e := by
  obtain ⟨w₁, rfl, run⟩ := eachRun_of_stitchAll call
  exact run.cause keeps (sound.withFiles sound.met) rfl

private theorem not_cycleBelow_of_stitch (keeps : job.Keeps files)
    (reachable : job.Reachable files m w)
    {name : String} {data : Bytes} (call : job.stitch name m w = ((.ok data, m'), w')) :
    ¬ job.tree.CycleBelow name := by
  have hsettled := settled_of_reachable keeps (reachable.stitched call)
  obtain ⟨-, hdone⟩ := stitchRun_sound keeps (stitchRun call) (sound_of_reachable keeps reachable)
  have hname : name ∈ m'.names := StitchMemory.mem_names_iff.2 ⟨data, hdone data rfl⟩
  rintro ⟨inner, hreached, hcycle⟩
  exact hsettled.not_transGen (hsettled.reaches hname hreached) hcycle

/-- A stitcher with a stack, in any state between its calls, ends every call with one level more
than there are containers in the layout, and more levels make no difference. The call fails if there
is a cycle below its container. If it reports a cycle that the compressor has not reported, the
cycle is one below its container: it is closed, repeats nothing else, and each of its containers is
reached and embeds the next. -/
theorem ends_of_reachable {job : StitchJob} {s : StackState} {w : Workspace}
    (reachable : job.StackReachable s w) (name : String) :
    ∃ result m' w',
      (∀ depth, job.tree.containers.length + 1 ≤ depth →
        job.stackStitch depth name s w = some ((result, ⟨m', []⟩), w')) ∧
      job.stitch name s.memory w = ((result, m'), w') ∧
      (job.tree.CycleBelow name → ∃ e, result = .error e) ∧
      ∀ cycle, result = .error (.cycle cycle) →
        job.CompressorFails (job.callsOf name s.memory w) w' (.cycle cycle) ∨
        job.tree.CycleBelow name ∧ job.tree.IsCycle cycle ∧
          ∀ x ∈ cycle, x ∈ job.tree.names ∧ ReflTransGen job.tree.Embeds name x := by
  have keeps : job.Keeps fun _ => True := fun _ _ _ _ => trivial
  obtain ⟨m, active⟩ := s
  obtain ⟨rfl, hreachable⟩ := reachable.idle
  rcases hcall : job.stitch name m w with ⟨⟨result, m'⟩, w'⟩
  refine ⟨result, m', w', fun depth hdepth => ?depth, rfl, fun hcycle => ?fails,
    fun cycle hcycle => ?genuine⟩
  case depth =>
    have hless : job.tree.offPath [] < depth := by
      rw [offPath_nil]
      exact hdepth
    have hfollows := follows_stackStitch hless name m w
    change job.stackStitch depth name ⟨m, []⟩ w = _ at hfollows
    change job.stitchBelow [] name m w = _ at hcall
    rw [hfollows, hcall]
  case fails =>
    cases result with
    | error e => exact ⟨e, rfl⟩
    | ok data => exact absurd hcycle (not_cycleBelow_of_stitch keeps hreachable hcall)
  case genuine =>
    subst hcycle
    have hcause := cause_of_stitch keeps (sound_of_reachable keeps hreachable) hcall
    generalize he : Error.cycle cycle = e at hcause
    cases hcause with
    | cycle way onPath =>
      cases he
      exact .inr (way.isCycle onPath)
    | compressor fails => exact .inl (he ▸ fails)
    | unknown | zeroSize | unread | missing | tooLarge => cases he

/-- In the loop, a call fails with two levels fewer than there could be, and what it reports is the
loop, also after a call that has failed. -/
theorem ends_of_reachable_loop :
    let first := loopJob.stitch "RIGHT" .empty sampleWorkspace
    loopJob.StackReachable ⟨first.1.2, []⟩ first.2 ∧ loopJob.tree.CycleBelow "LEFT" ∧
      ∃ m' w', loopJob.stackStitch 4 "LEFT" ⟨first.1.2, []⟩ first.2 =
          some ((.error (.cycle ["LEFT", "RIGHT", "LEFT"]), ⟨m', []⟩), w') ∧
        loopJob.tree.IsCycle ["LEFT", "RIGHT", "LEFT"] := by
  obtain ⟨-, -, hsecond⟩ := stitch_loop
  have hreachable : loopJob.StackReachable
      ⟨(loopJob.stitch "RIGHT" .empty sampleWorkspace).1.2, []⟩
      (loopJob.stitch "RIGHT" .empty sampleWorkspace).2 :=
    stackReachable_of_reachable (.stitched (.start trivial) rfl)
  obtain ⟨result, m', w', hdepth, hcall, -, hgenuine⟩ := ends_of_reachable hreachable "LEFT"
  have hresult : result = .error (.cycle ["LEFT", "RIGHT", "LEFT"]) := by
    simpa [hcall] using hsecond
  rcases hgenuine _ hresult with ⟨codec, raw, before, -, hfails⟩ | ⟨hbelow, hcycle, -⟩
  · cases hfails
  · exact ⟨hreachable, hbelow, m', w', hresult ▸ hdepth 4 (Nat.le_refl _), hcycle⟩

end StitchJob
end FlashImage
