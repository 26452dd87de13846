import FlashImage.Proofs.Files.Walk
import FlashImage.Proofs.Stitch.Determinism
import FlashImage.Proofs.Stitch.Output

/-!
What a stitcher keeps, it keeps for good.

A receipt says which bytes the stitcher has taken as the content of a region with an artifact. The
bytes that were taken first are kept, and are taken again for every region with this artifact and
this codec, also in another container, after an error, or when the file has changed in between.
-/

set_option autoImplicit false
set_option relaxedAutoImplicit false

namespace FlashImage.StitchJob

/-- A region of a container has been given bytes as the content of its artifact. -/
structure Receipt where
  container : String
  region : Region
  artifact : String
  content : Bytes

/-- The receipts that a task gives on its way, whether it succeeds or fails. -/
inductive Receives (job : StitchJob) : Task → StitchMemory → Workspace → Receipt → Prop
  | content {path : List String} {container artifact : String} {r : Region} {data : Bytes}
      {m m₁ : StitchMemory} {w w₁ : Workspace}
      (size : r.size ≠ 0) (source : r.source = .artifact artifact)
      (run : job.ContentRun container r artifact m w (.ok (some data)) m₁ w₁) :
      Receives job (.region path container r) m w ⟨container, r, artifact, data⟩
  | child {path : List String} {container child : String} {r : Region} {m : StitchMemory}
      {w : Workspace} {p : Receipt}
      (size : r.size ≠ 0) (source : r.source = .container child)
      (below : Receives job (.container path child) m w p) :
      Receives job (.region path container r) m w p
  | regions {path : List String} {name : String} {c : Container} {m : StitchMemory}
      {w : Workspace} {p : Receipt}
      (new : m.built? name = none) (offPath : name ∉ path) (found : job.tree.find? name = some c)
      (below : Receives job (.regions (path ++ [name]) c.name c.regions) m w p) :
      Receives job (.container path name) m w p
  | first {path : List String} {container : String} {r : Region} {rest : List Region}
      {m : StitchMemory} {w : Workspace} {p : Receipt}
      (first : Receives job (.region path container r) m w p) :
      Receives job (.regions path container (r :: rest)) m w p
  | others {path : List String} {container : String} {r : Region} {rest : List Region}
      {m m₁ : StitchMemory} {w w₁ : Workspace} {slot : Bytes} {p : Receipt}
      (run : job.StitchRun (.region path container r) m w (.ok slot) m₁ w₁)
      (others : Receives job (.regions path container rest) m₁ w₁ p) :
      Receives job (.regions path container (r :: rest)) m w p

inductive EachReceives (job : StitchJob) :
    List String → StitchMemory → Workspace → Receipt → Prop
  | first {name : String} {rest : List String} {m : StitchMemory} {w : Workspace} {p : Receipt}
      (first : job.Receives (.container [] name) m w p) : EachReceives job (name :: rest) m w p
  | others {name : String} {rest : List String} {m m₁ : StitchMemory} {w w₁ : Workspace}
      {data : Bytes} {p : Receipt} (call : job.stitch name m w = ((.ok data, m₁), w₁))
      (others : EachReceives job rest m₁ (w₁.recorded (.containerDone name data.length)) p) :
      EachReceives job (name :: rest) m w p

/-- Calls of a stitcher from a given state on, with the receipts that they have given. Between the
calls the files become any others. -/
inductive Course (job : StitchJob) (m₀ : StitchMemory) (w₀ : Workspace) :
    Set Receipt → StitchMemory → Workspace → Prop
  | start : Course job m₀ w₀ ∅ m₀ w₀
  | stitched {ps : Set Receipt} {m m' : StitchMemory} {w w' : Workspace} {name : String}
      {result : Except Error Bytes} (prior : Course job m₀ w₀ ps m w)
      (call : job.stitch name m w = ((result, m'), w')) :
      Course job m₀ w₀ (ps ∪ {p | job.Receives (.container [] name) m w p}) m' w'
  | allStitched {ps : Set Receipt} {m m' : StitchMemory} {w w' : Workspace}
      {result : Except Error (List (String × Bytes))} (prior : Course job m₀ w₀ ps m w)
      (call : job.stitchAll m w = ((result, m'), w')) :
      Course job m₀ w₀ (ps ∪ {p | job.EachReceives job.tree.names m
        (w.recorded (.started job.tree.containers.length)) p}) m' w'
  | changed {ps : Set Receipt} {m : StitchMemory} {w : Workspace}
      (prior : Course job m₀ w₀ ps m w) (fs : Files) :
      Course job m₀ w₀ ps m { w with files := fs }

/-- Regions of a container with the bytes of their slots together, where a region with an artifact
that is not left out holds what one of the receipts says. -/
inductive MadeFrom (job : StitchJob) (ps : Set Receipt) (container : String) :
    List Region → Bytes → Prop
  | nil : MadeFrom job ps container [] []
  | artifact {r : Region} {artifact : String} {content first others : Bytes} {rest : List Region}
      (source : r.source = .artifact artifact)
      (received : ⟨container, r, artifact, content⟩ ∈ ps)
      (slot : job.slot container r (some content) = .ok first)
      (following : MadeFrom job ps container rest others) :
      MadeFrom job ps container (r :: rest) (first ++ others)
  | leftOut {r : Region} {artifact : String} {others : Bytes} {rest : List Region}
      (source : r.source = .artifact artifact) (policy : r.policy = .ignore)
      (following : MadeFrom job ps container rest others) :
      MadeFrom job ps container (r :: rest) others
  | container {r : Region} {child : String} {content first others : Bytes} {rest : List Region}
      (source : r.source = .container child)
      (slot : job.slot container r (some content) = .ok first)
      (following : MadeFrom job ps container rest others) :
      MadeFrom job ps container (r :: rest) (first ++ others)

variable {job : StitchJob} {ps qs : Set Receipt} {m m' : StitchMemory} {w w' : Workspace}
  {container : String}

theorem MadeFrom.mono {regions : List Region} {data : Bytes}
    (h : job.MadeFrom ps container regions data) (hps : ps ⊆ qs) :
    job.MadeFrom qs container regions data := by
  induction h with
  | nil => exact .nil
  | artifact source received slot _ ih => exact .artifact source (hps received) slot ih
  | leftOut source policy _ ih => exact .leftOut source policy ih
  | container source slot _ ih => exact .container source slot ih

theorem MadeFrom.cons {r : Region} {rest : List Region} {first others : Bytes}
    (hfirst : job.MadeFrom ps container [r] first)
    (hrest : job.MadeFrom ps container rest others) :
    job.MadeFrom ps container (r :: rest) (first ++ others) := by
  cases hfirst with
  | artifact source received slot following =>
    cases following
    rw [List.append_nil]
    exact .artifact source received slot hrest
  | leftOut source policy following =>
    cases following
    exact .leftOut source policy hrest
  | container source slot following =>
    cases following
    rw [List.append_nil]
    exact .container source slot hrest

private theorem ContentRun.content?_mono {artifact artifact' : String} {codec : Codec} {r : Region}
    {data : Bytes} {result : Except Error (Option Bytes)}
    (run : job.ContentRun container r artifact m w result m' w')
    (kept : m.content? artifact' codec = some data) : m'.content? artifact' codec = some data := by
  cases run with
  | kept | unread | leftOut | missing | failed => exact kept
  | loaded new =>
    rw [StitchMemory.content?_keepContent, if_neg]
    · exact kept
    · rintro ⟨rfl, rfl⟩
      rw [new] at kept
      cases kept

private theorem ContentRun.content?_of_ok {artifact : String} {r : Region} {data : Bytes}
    (run : job.ContentRun container r artifact m w (.ok (some data)) m' w') :
    m'.content? artifact r.codec = some data := by
  cases run with
  | kept kept => exact kept
  | loaded => exact (StitchMemory.content?_keepContent _ _ _ _ _ _).trans (if_pos ⟨rfl, rfl⟩)

private theorem StitchRun.content?_mono {task : Task} {result : Except Error Bytes}
    {artifact : String}
    {codec : Codec} {data : Bytes} (run : job.StitchRun task m w result m' w')
    (kept : m.content? artifact codec = some data) : m'.content? artifact codec = some data := by
  induction run with
  | kept | cycle | unknown | zeroSize | nil => exact kept
  | failed _ _ _ _ ih => exact ih kept
  | built _ _ _ _ ih => exact (StitchMemory.content?_keepBuilt _ _ _ _ _).trans (ih kept)
  | noContent _ _ content => exact content.content?_mono kept
  | artifact _ _ run => exact run.content?_mono kept
  | noChild _ _ _ ih => exact ih kept
  | incompressible _ _ _ _ ih => exact ih kept
  | child _ _ _ _ ih => exact ih kept
  | firstFailed _ ih => exact ih kept
  | restFailed _ _ ihFirst ihRest => exact ihRest (ihFirst kept)
  | cons _ _ ihFirst ihRest => exact ihRest (ihFirst kept)

theorem Receives.content? {task : Task} {result : Except Error Bytes} {p : Receipt}
    (receives : job.Receives task m w p) (run : job.StitchRun task m w result m' w') :
    m'.content? p.artifact p.region.codec = some p.content := by
  -- The run is cut where the receipt was given: up to there both go the same way, as a task can go
  -- in one way only, and from there on nothing that is kept is replaced.
  induction receives generalizing result m' w' with
  | content size source content =>
    cases run with
    | zeroSize zero => exact absurd zero size
    | noContent _ source' content' =>
      cases source.symm.trans source'
      cases content.artifactContent_eq.symm.trans content'.artifactContent_eq
    | artifact _ source' content' =>
      cases source.symm.trans source'
      cases content.artifactContent_eq.symm.trans content'.artifactContent_eq
      exact content.content?_of_ok
    | noChild _ source' => cases source.symm.trans source'
    | incompressible _ source' => cases source.symm.trans source'
    | child _ source' => cases source.symm.trans source'
  | child size source _ ih =>
    cases run with
    | zeroSize zero => exact absurd zero size
    | noContent _ source' => cases source.symm.trans source'
    | artifact _ source' => cases source.symm.trans source'
    | noChild _ source' below =>
      cases source.symm.trans source'
      exact ih below
    | incompressible _ source' below =>
      cases source.symm.trans source'
      exact ih below
    | child _ source' below =>
      cases source.symm.trans source'
      exact ih below
  | regions new offPath found _ ih =>
    cases run with
    | kept kept => cases new.symm.trans kept
    | cycle _ onPath => exact absurd onPath offPath
    | unknown _ _ lacking => cases lacking.symm.trans found
    | failed _ _ found' regions =>
      cases found.symm.trans found'
      exact ih regions
    | built _ _ found' regions =>
      cases found.symm.trans found'
      exact (StitchMemory.content?_keepBuilt _ _ _ _ _).trans (ih regions)
  | first _ ih =>
    cases run with
    | firstFailed first => exact ih first
    | restFailed first others => exact others.content?_mono (ih first)
    | cons first others => exact others.content?_mono (ih first)
  | others first _ ih =>
    cases run with
    | firstFailed first' => cases (first.unique first').1
    | restFailed first' others =>
      obtain ⟨-, rfl, rfl⟩ := first.unique first'
      exact ih others
    | cons first' others =>
      obtain ⟨-, rfl, rfl⟩ := first.unique first'
      exact ih others

def AllMadeFrom (job : StitchJob) (ps : Set Receipt) (m : StitchMemory) : Prop :=
  ∀ name data, m.built? name = some data →
    ∃ c, job.tree.find? name = some c ∧ job.MadeFrom ps c.name c.regions data

theorem AllMadeFrom.mono (h : job.AllMadeFrom ps m) (hps : ps ⊆ qs) : job.AllMadeFrom qs m := by
  intro name data built
  obtain ⟨c, found, made⟩ := h name data built
  exact ⟨c, found, made.mono hps⟩

private theorem AllMadeFrom.of_contentRun {artifact : String} {r : Region}
    {result : Except Error (Option Bytes)} (h : job.AllMadeFrom ps m)
    (run : job.ContentRun container r artifact m w result m' w') : job.AllMadeFrom ps m' :=
  fun name data built => h name data ((run.built? name).symm.trans built)

def Task.MadeFrom (job : StitchJob) (ps : Set Receipt) (data : Bytes) : Task → Prop
  | .container _ _ => True
  | .region _ container r => job.MadeFrom ps container [r] data
  | .regions _ container siblings => job.MadeFrom ps container siblings data

private theorem ContentRun.madeFrom {path : List String} {artifact : String} {r : Region}
    {content : Option Bytes} {data : Bytes} (size : r.size ≠ 0)
    (source : r.source = .artifact artifact)
    (run : job.ContentRun container r artifact m w (.ok content) m' w')
    (hps : ∀ p, job.Receives (.region path container r) m w p → p ∈ ps)
    (slot : job.slot container r content = .ok data) : job.MadeFrom ps container [r] data := by
  cases content with
  | none =>
    have policy : r.policy = .ignore := by
      cases run with
      | leftOut _ _ policy => exact policy
    cases slot
    exact .leftOut source policy .nil
  | some content =>
    have received := hps _ (.content size source run)
    have made := MadeFrom.artifact source received slot .nil
    rwa [List.append_nil] at made

private theorem StitchRun.madeFrom {task : Task} {result : Except Error Bytes}
    (run : job.StitchRun task m w result m' w') (hps : ∀ p, job.Receives task m w p → p ∈ ps)
    (initial : job.AllMadeFrom ps m) :
    job.AllMadeFrom ps m' ∧ ∀ data, result = .ok data → task.MadeFrom job ps data := by
  -- Only `built` puts a container into the memory. What it puts there is what its regions have
  -- given, so the claim on the bytes of a task goes along.
  induction run with
  | kept => exact ⟨initial, fun _ _ => trivial⟩
  | cycle | unknown | zeroSize => exact ⟨initial, fun _ h => (nomatch h)⟩
  | failed new offPath found _ ih =>
    exact ⟨(ih (fun p hp => hps p (.regions new offPath found hp)) initial).1,
      fun _ h => (nomatch h)⟩
  | @built _ name c _ _ _ _ data new offPath found _ ih =>
    obtain ⟨hall, hregions⟩ := ih (fun p hp => hps p (.regions new offPath found hp)) initial
    refine ⟨fun name' data' built => ?_, fun _ _ => trivial⟩
    rcases StitchMemory.of_built?_keepBuilt built with ⟨rfl, rfl⟩ | kept
    · exact ⟨c, found, hregions _ rfl⟩
    · exact hall name' data' kept
  | noContent _ _ content => exact ⟨initial.of_contentRun content, fun _ h => (nomatch h)⟩
  | artifact size source run =>
    exact ⟨initial.of_contentRun run, fun _ slot => run.madeFrom size source hps slot⟩
  | noChild size source _ ih =>
    exact ⟨(ih (fun p hp => hps p (.child size source hp)) initial).1, fun _ h => (nomatch h)⟩
  | incompressible size source _ _ ih =>
    exact ⟨(ih (fun p hp => hps p (.child size source hp)) initial).1, fun _ h => (nomatch h)⟩
  | child size source _ _ ih =>
    refine ⟨(ih (fun p hp => hps p (.child size source hp)) initial).1, fun _ slot => ?_⟩
    have made := MadeFrom.container source slot (.nil : job.MadeFrom ps _ [] [])
    rwa [List.append_nil] at made
  | nil =>
    refine ⟨initial, fun _ h => ?_⟩
    cases h
    exact MadeFrom.nil
  | firstFailed _ ih =>
    exact ⟨(ih (fun p hp => hps p (.first hp)) initial).1, fun _ h => (nomatch h)⟩
  | restFailed first _ ihFirst ihRest =>
    have hfirst := (ihFirst (fun p hp => hps p (.first hp)) initial).1
    exact ⟨(ihRest (fun p hp => hps p (.others first hp)) hfirst).1, fun _ h => (nomatch h)⟩
  | cons first _ ihFirst ihRest =>
    obtain ⟨hall, hfirst⟩ := ihFirst (fun p hp => hps p (.first hp)) initial
    obtain ⟨hall, hothers⟩ := ihRest (fun p hp => hps p (.others first hp)) hall
    refine ⟨hall, fun _ h => ?_⟩
    cases h
    exact MadeFrom.cons (hfirst _ rfl) (hothers _ rfl)

private theorem EachRun.content?_mono {names : List String}
    {result : Except Error (List (String × Bytes))}
    {artifact : String} {codec : Codec} {data : Bytes} (run : job.EachRun names m w result m' w')
    (kept : m.content? artifact codec = some data) : m'.content? artifact codec = some data :=
  have hkeeps := @EachRun.keeps job (fun m _ => m.content? artifact codec = some data)
    (fun kept call => (stitchRun call).content?_mono kept) (fun _ kept => kept)
  hkeeps run kept

theorem EachReceives.content? {names : List String}
    {result : Except Error (List (String × Bytes))} {p : Receipt}
    (receives : job.EachReceives names m w p) (run : job.EachRun names m w result m' w') :
    m'.content? p.artifact p.region.codec = some p.content := by
  induction receives generalizing result m' w' with
  | first hp =>
    cases run with
    | failed call => exact hp.content? (stitchRun call)
    | restFailed call others => exact others.content?_mono (hp.content? (stitchRun call))
    | cons call others => exact others.content?_mono (hp.content? (stitchRun call))
  | others call _ ih =>
    cases run with
    | failed call' => cases call.symm.trans call'
    | restFailed call' others =>
      cases call.symm.trans call'
      exact ih others
    | cons call' others =>
      cases call.symm.trans call'
      exact ih others

private theorem EachRun.madeFrom {names : List String}
    {result : Except Error (List (String × Bytes))}
    (run : job.EachRun names m w result m' w') (hps : ∀ p, job.EachReceives names m w p → p ∈ ps)
    (initial : job.AllMadeFrom ps m) : job.AllMadeFrom ps m' := by
  induction run with
  | nil => exact initial
  | failed call => exact ((stitchRun call).madeFrom (fun p hp => hps p (.first hp)) initial).1
  | restFailed call _ ih =>
    have hfirst := ((stitchRun call).madeFrom (fun p hp => hps p (.first hp)) initial).1
    exact ih (fun p hp => hps p (.others call hp)) hfirst
  | cons call _ ih =>
    have hfirst := ((stitchRun call).madeFrom (fun p hp => hps p (.first hp)) initial).1
    exact ih (fun p hp => hps p (.others call hp)) hfirst

theorem Course.within {m₀ : StitchMemory} {w₀ : Workspace} (course : job.Course m₀ w₀ ps m w) :
    m₀.Within m := by
  intro name data built
  induction course with
  | start => exact built
  | stitched _ call ih => exact (stitchRun call).within name data ih
  | allStitched _ call ih =>
    obtain ⟨_, -, run⟩ := eachRun_of_stitchAll call
    exact run.within name data ih
  | changed _ _ ih => exact ih

theorem Course.content? {m₀ : StitchMemory} {w₀ : Workspace} (course : job.Course m₀ w₀ ps m w)
    {p : Receipt} (hp : p ∈ ps) : m.content? p.artifact p.region.codec = some p.content := by
  induction course with
  | start => cases hp
  | stitched _ call ih =>
    have run := stitchRun call
    rcases hp with prior | new
    · exact run.content?_mono (ih prior)
    · exact new.content? run
  | allStitched _ call ih =>
    obtain ⟨_, -, run⟩ := eachRun_of_stitchAll call
    rcases hp with prior | new
    · exact run.content?_mono (ih prior)
    · exact new.content? run
  | changed _ _ ih => exact ih hp

private theorem Course.madeFrom {w₀ : Workspace} (course : job.Course .empty w₀ ps m w) :
    job.AllMadeFrom ps m := by
  induction course with
  | start => exact fun _ _ built => nomatch built
  | stitched _ call ih =>
    exact ((stitchRun call).madeFrom (fun _ hp => .inr hp) (ih.mono Set.subset_union_left)).1
  | allStitched _ call ih =>
    obtain ⟨_, -, run⟩ := eachRun_of_stitchAll call
    exact run.madeFrom (fun _ hp => .inr hp) (ih.mono Set.subset_union_left)
  | changed _ _ ih => exact ih

private theorem stitch_of_built? {name : String} {data : Bytes} (built : m.built? name = some data)
    (other : StitchJob) (u : Workspace) : other.stitch name m u = ((.ok data, m), u) :=
  (StitchRun.kept built).perform_eq

/-- What a stitcher keeps, it keeps for good. After any calls, with any changes of the files, a
container that has been built stays as it is through all later calls and changes, and a call for it
gives its bytes and does nothing else. The regions of the containers that have been built hold what
receipts say, and receipts for one artifact and one codec agree. -/
theorem permanent_of_course {w₀ : Workspace} (course : job.Course .empty w₀ ps m w) :
    (∀ name data, m.built? name = some data →
      ∀ qs m' w', job.Course m w qs m' w' →
        m'.built? name = some data ∧
          ∀ (other : StitchJob) (u : Workspace), other.stitch name m' u = ((.ok data, m'), u)) ∧
    (∀ name data, m.built? name = some data →
      ∃ c, job.tree.find? name = some c ∧ job.MadeFrom ps c.name c.regions data) ∧
    ∀ p ∈ ps, ∀ q ∈ ps, p.artifact = q.artifact → p.region.codec = q.region.codec →
      p.content = q.content := by
  refine ⟨?kept, course.madeFrom, ?agree⟩
  case kept =>
    intro name data built qs m' w' later
    have hlater := later.within name data built
    exact ⟨hlater, stitch_of_built? hlater⟩
  case agree =>
    intro p hp q hq artifact codec
    have hkept := course.content? hp
    rw [artifact, codec, course.content? hq] at hkept
    exact (Option.some.inj hkept).symm

def twinTree : LayoutTree where
  name := none
  blockSize := 1
  padByte := none
  containers := [⟨"FIRST", [Region.ofArtifact "KEY" 2]⟩, ⟨"SECOND", [Region.ofArtifact "KEY" 2]⟩]
  distinct := by decide

def twinJob : StitchJob :=
  ⟨twinTree, .ofDirectories ["/in"], fun _ raw => return raw, 0xFF⟩

def twinWorkspace (component : Bytes) : Workspace :=
  { sampleWorkspace with
    files := {
      entries := [(["in", "KEY"], .file component), (["in"], .directory)]
      current := [] } }

def twinMemory : StitchMemory :=
  (((StitchMemory.empty.keepContent "KEY" .none [1, 2]).keepBuilt "FIRST" [1, 2])).keepBuilt
    "SECOND" [1, 2]

private theorem load_twinWorkspace (component : Bytes) :
    twinJob.store.load (twinWorkspace component).files "KEY" = .ok (some component) := by
  have hjoin : Path.join "/in" "KEY" = "/in/KEY" := by cbv
  have hfind : (twinWorkspace component).files.find "/in/KEY" =
      .ok (["in", "KEY"], .file component) :=
    Files.find_of_leads (d := ["in"]) (by decide)
      (by decide : Path.splitLast "/in/KEY" = (["", "in"], .name "KEY" false))
      (.idle (.inl rfl) (.enter (by decide) (by decide) (.inl rfl) .done)) (by decide) rfl (by simp)
  have hread : (twinWorkspace component).files.read "/in/KEY" = .ok component := by
    rw [Files.read, hfind]
  simp only [twinJob, ArtifactStore.load, ArtifactStore.blob?, ArtifactStore.ofDirectories,
    List.lookup_nil, ArtifactStore.candidates, List.map_cons, List.map_nil,
    ArtifactStore.loadFirst, hjoin, hread]

private theorem stitch_twin {name : String} {m₁ : StitchMemory} {data component : Bytes}
    (found : twinJob.tree.find? name = some ⟨name, [Region.ofArtifact "KEY" 2]⟩)
    (new : m.built? name = none) (length : data.length = 2)
    (run : twinJob.ContentRun name (Region.ofArtifact "KEY" 2) "KEY" m (twinWorkspace component)
      (.ok (some data)) m₁ (twinWorkspace component)) :
    twinJob.stitch name m (twinWorkspace component) =
      ((.ok data, m₁.keepBuilt name data), twinWorkspace component) := by
  have hslot : twinJob.slot name (Region.ofArtifact "KEY" 2) (some data) = .ok data := by
    simp [slot, Region.place, Region.ofArtifact, InsertPosition.fill, length]
  have hregion : twinJob.StitchRun (.region [name] name (Region.ofArtifact "KEY" 2)) m
      (twinWorkspace component) (.ok data) m₁ (twinWorkspace component) :=
    hslot ▸ .artifact (by decide) rfl run
  have hcontainer := StitchRun.built new (List.not_mem_nil) found (.cons hregion .nil)
  rw [List.append_nil] at hcontainer
  exact hcontainer.perform_eq

/-- The component changes between two calls, and the second container has the old one for good. -/
theorem permanent_of_course_twins :
    twinJob.stitch "SECOND" .empty (twinWorkspace [3, 4]) =
      ((.ok [3, 4], (StitchMemory.empty.keepContent "KEY" .none [3, 4]).keepBuilt "SECOND" [3, 4]),
        twinWorkspace [3, 4]) ∧
    ∃ ps, twinJob.Course .empty (twinWorkspace [1, 2]) ps twinMemory (twinWorkspace [3, 4]) ∧
      ∀ qs m' w', twinJob.Course twinMemory (twinWorkspace [3, 4]) qs m' w' →
        m'.built? "SECOND" = some [1, 2] ∧
          ∀ (other : StitchJob) (u : Workspace),
            other.stitch "SECOND" m' u = ((.ok [1, 2], m'), u) := by
  have hnew : twinJob.stitch "SECOND" .empty (twinWorkspace [3, 4]) =
      ((.ok [3, 4], (StitchMemory.empty.keepContent "KEY" .none [3, 4]).keepBuilt "SECOND" [3, 4]),
        twinWorkspace [3, 4]) :=
    stitch_twin (by decide) rfl rfl (.loaded rfl (load_twinWorkspace _) rfl)
  have hfirst : twinJob.stitch "FIRST" .empty (twinWorkspace [1, 2]) =
      ((.ok [1, 2], (StitchMemory.empty.keepContent "KEY" .none [1, 2]).keepBuilt "FIRST" [1, 2]),
        twinWorkspace [1, 2]) :=
    stitch_twin (by decide) rfl rfl (.loaded rfl (load_twinWorkspace _) rfl)
  have hsecond : twinJob.stitch "SECOND"
      ((StitchMemory.empty.keepContent "KEY" .none [1, 2]).keepBuilt "FIRST" [1, 2])
      (twinWorkspace [3, 4]) = ((.ok [1, 2], twinMemory), twinWorkspace [3, 4]) :=
    stitch_twin (by decide) (by decide) rfl (.kept (by decide))
  have hcourse := ((Course.start.stitched hfirst).changed (twinWorkspace [3, 4]).files).stitched
    hsecond
  exact ⟨hnew, _, hcourse, (permanent_of_course hcourse).1 "SECOND" [1, 2] (by decide)⟩

end FlashImage.StitchJob
