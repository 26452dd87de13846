import FlashImage.Proofs.Stitch.Calls
import FlashImage.Proofs.Stitch.Preflight

/-!
How building can still fail after the checks have passed.

Three causes are left: a content that does not fit its region, a file that cannot be read, and the
compressor. The checks go through a work list and ask whether artifacts are there, and building goes
down from container to container and loads them. What carries over is that the containers to build
are among those that have been checked, and that the artifacts that were there stay there.
-/

set_option autoImplicit false
set_option relaxedAutoImplicit false

namespace FlashImage

/-- Every artifact that is there among some files is there among others too. -/
def ArtifactStore.Stays (s : ArtifactStore) (fs fs' : Files) : Prop :=
  ∀ name, s.contains fs name = true → s.contains fs' name = true

theorem Region.eq_sizeViolation_of_place {container : String} {r : Region} {content : Bytes}
    {pad : UInt8} {e : Error} (h : r.place container content pad = .error e) :
    e = r.sizeViolation container content := by
  unfold place at h
  cases hpolicy : r.policy with
  | noOp =>
    simp only [hpolicy] at h
    split at h <;> cases h
    rfl
  | pad =>
    simp only [hpolicy] at h
    split at h <;> cases h
    rfl
  | ignore =>
    simp only [hpolicy] at h
    split at h <;> cases h
    rfl

namespace StitchJob

variable {job : StitchJob} {fs : Files} {names : List String} {m m' : StitchMemory}
  {w w' : Workspace} {e : Error} {calls calls' : Codec → Bytes → Workspace → Prop}

/-- One of the calls of the compressor that a run makes has returned an error and left a workspace.
Nothing follows such a call, so it is the last one of the run. -/
def CompressorFails (job : StitchJob) (calls : Codec → Bytes → Workspace → Prop) (w : Workspace)
    (e : Error) : Prop :=
  ∃ codec raw before, calls codec raw before ∧ job.compress codec raw before = (.error e, w)

theorem CompressorFails.mono (h : job.CompressorFails calls w e)
    (more : ∀ codec raw before, calls codec raw before → calls' codec raw before) :
    job.CompressorFails calls' w e := by
  obtain ⟨codec, raw, before, call, fails⟩ := h
  exact ⟨codec, raw, before, more _ _ _ call, fails⟩

/-- The causes for which building fails after a passed check, if it makes some calls of the
compressor and leaves a workspace behind. -/
inductive Fault (job : StitchJob) (calls : Codec → Bytes → Workspace → Prop) (w : Workspace) :
    Error → Prop
  | tooLarge {c : Container} {r : Region} {content : Bytes} (container : c ∈ job.tree.containers)
      (region : r ∈ c.regions)
      (place : r.place c.name content job.pad = .error (r.sizeViolation c.name content)) :
      Fault job calls w (r.sizeViolation c.name content)
  | unread {c : Container} {r : Region} {artifact path : String} {fault : FileFault}
      (container : c ∈ job.tree.containers) (region : r ∈ c.regions)
      (source : r.source = .artifact artifact) (candidate : path ∈ job.store.candidates artifact)
      (read : w.files.read path = .error fault) : Fault job calls w (.file path fault)
  | compressor {e : Error} (fails : job.CompressorFails calls w e) : Fault job calls w e

/-- The errors that a passed check rules out. -/
inductive Structural : Error → Prop
  | missingArtifact (container region artifact : String) :
      Structural (.missingArtifact container region artifact)
  | cycle (path : List String) : Structural (.cycle path)
  | unknownContainer (name : String) : Structural (unknownContainer name)
  | zeroSize (container region : String) : Structural (.region container region .zeroSize)

/-- A failure that no check could foresee: for one of the causes that are left, and with an error
that is ruled out only if the compressor returned it. -/
structure Unforeseen (job : StitchJob) (calls : Codec → Bytes → Workspace → Prop) (w : Workspace)
    (e : Error) : Prop where
  fault : job.Fault calls w e
  structural : Structural e → job.CompressorFails calls w e

/-- A step that fails only unforeseen, from any memory, as long as the artifacts stay that were
there among some files. The calls of the compressor to which it comes go with it. -/
def FailsUnforeseen {α : Type} (job : StitchJob) (fs : Files) (step : Stitching α)
    (calls : StitchMemory → Workspace → Codec → Bytes → Workspace → Prop) : Prop :=
  ∀ m w e m' w', job.store.Stays fs w.files → step m w = ((.error e, m'), w') →
    job.Unforeseen (calls m w) w' e

theorem Fault.mono (h : job.Fault calls w e)
    (more : ∀ codec raw before, calls codec raw before → calls' codec raw before) :
    job.Fault calls' w e := by
  cases h with
  | tooLarge container region place => exact .tooLarge container region place
  | unread container region source candidate read =>
    exact .unread container region source candidate read
  | compressor fails => exact .compressor (fails.mono more)

private theorem Fault.unforeseen (h : job.Fault calls w e) : job.Unforeseen calls w e := by
  refine ⟨h, fun hstructural => ?_⟩
  cases h with
  | tooLarge => cases hstructural
  | unread => cases hstructural
  | compressor fails => exact fails

theorem compressorFails_of_compressed {codec : Codec} {raw : Bytes}
    (h : job.compressed codec raw w = (.error e, w'))
    (call : codec ≠ .none → calls codec raw (w.recorded (.compression codec raw.length))) :
    job.CompressorFails calls w' e := by
  by_cases hcodec : codec = .none
  · subst hcodec
    rw [compressed_none] at h
    cases h
  · rw [compressed_of_ne hcodec] at h
    exact ⟨codec, raw, _, call hcodec, h⟩

/-- A region of a container of the layout that has its artifact or embeds a checked container. -/
structure RegionPrepared (job : StitchJob) (fs : Files) (names : List String) (container : String)
    (r : Region) : Prop where
  owner : ∃ c ∈ job.tree.containers, c.name = container ∧ r ∈ c.regions
  provided : Provided job.store fs r
  child : ∀ child, r.source = .container child → child ∈ names

def Task.Prepared (job : StitchJob) (fs : Files) (names : List String) : Task → Prop
  | .container _ name => name ∈ names
  | .region _ name r => job.RegionPrepared fs names name r
  | .regions _ name siblings => ∀ r ∈ siblings, job.RegionPrepared fs names name r

theorem Checked.prepared (checked : Checked job.tree job.store fs names) {path : List String}
    {name : String} {c : Container} (hname : name ∈ names) (found : job.tree.find? name = some c) :
    (Task.regions path c.name c.regions).Prepared job fs names := by
  intro r hr
  obtain ⟨d, hd, hprovided⟩ := checked.supplied name hname
  obtain rfl : c = d := Option.some.inj (found.symm.trans hd)
  refine ⟨⟨c, LayoutTree.mem_of_find? found, rfl, hr⟩, hprovided r hr, fun child hsource => ?_⟩
  exact checked.closed name hname child (LayoutTree.embeds_of_region found hr hsource)

private theorem fault_of_slot {container : String} {r : Region} {content : Option Bytes}
    (owner : ∃ c ∈ job.tree.containers, c.name = container ∧ r ∈ c.regions)
    (h : job.slot container r content = .error e) : job.Fault calls w e := by
  obtain ⟨c, hc, rfl, hr⟩ := owner
  cases content with
  | none => cases h
  | some content =>
    obtain rfl := Region.eq_sizeViolation_of_place h
    exact .tooLarge hc hr h

private theorem contentRun_fault {path : List String} {container artifact : String} {r : Region}
    (prepared : job.RegionPrepared fs names container r) (size : r.size ≠ 0)
    (source : r.source = .artifact artifact) (stays : job.store.Stays fs w.files)
    (run : job.ContentRun container r artifact m w (.error e) m' w') :
    job.Fault (job.Compresses (.region path container r) m w) w' e := by
  obtain ⟨c, hc, rfl, hr⟩ := prepared.owner
  cases run with
  | unread _ load =>
    obtain ⟨path, hpath, fault, hread, rfl⟩ := ArtifactStore.path_of_load_error load
    exact .unread hc hr source hpath hread
  | missing _ load policy =>
    have hthere := (prepared.provided artifact source).resolve_left policy
    exact absurd load (ArtifactStore.load_ne_none (stays artifact hthere))
  | failed new load compress =>
    exact .compressor (compressorFails_of_compressed compress
      fun codec => .artifact size source codec new load)

private theorem stitchRun_fault (keeps : job.Keeps (job.store.Stays fs))
    (wellFormed : job.tree.WellFormed)
    (checked : Checked job.tree job.store fs names) {task : Task} {result : Except Error Bytes}
    (run : job.StitchRun task m w result m' w') (placed : task.Placed job.tree)
    (prepared : task.Prepared job fs names) (stays : job.store.Stays fs w.files)
    (h : result = .error e) : job.Fault (job.Compresses task m w) w' e := by
  induction run with
  | kept | built | nil | cons => cases h
  -- The layout is acyclic, complete and without empty regions, so these do not occur.
  | cycle _ onPath =>
    exact absurd (LayoutTree.IsPath.leads placed onPath) (wellFormed.acyclic _)
  | unknown _ _ lacking =>
    obtain ⟨c, hc, -⟩ := checked.supplied _ prepared
    rw [lacking] at hc
    cases hc
  | failed new offPath found _ ih =>
    have hfault := ih (placed.below offPath found) (checked.prepared prepared found) stays h
    exact hfault.mono fun _ _ _ => .container new offPath found
  | zeroSize size =>
    obtain ⟨c, hc, -, hr⟩ := prepared.owner
    have hpos := (wellFormed.regionFits c hc _ hr).pos
    simp [size] at hpos
  | noContent size source content =>
    cases h
    exact contentRun_fault prepared size source stays content
  | artifact => exact fault_of_slot prepared.owner h
  | noChild size source _ ih =>
    have hfault := ih (placed _ source) (prepared.child _ source) stays h
    exact hfault.mono fun _ _ _ => .embedded size source
  | incompressible size source below compress =>
    cases h
    exact .compressor (compressorFails_of_compressed compress
      fun codec => .child size source codec below)
  | child => exact fault_of_slot prepared.owner h
  | firstFailed _ ih =>
    have hfault := ih (placed _ List.mem_cons_self) (prepared _ List.mem_cons_self) stays h
    exact hfault.mono fun _ _ _ => .first
  | restFailed first _ _ ihRest =>
    have hfault := ihRest (fun r hr => placed r (List.mem_cons_of_mem _ hr))
      (fun r hr => prepared r (List.mem_cons_of_mem _ hr)) (first.files keeps stays) h
    exact hfault.mono fun _ _ _ => .rest first

private theorem failsUnforeseen_stitch (keeps : job.Keeps (job.store.Stays fs))
    (wellFormed : job.tree.WellFormed) (checked : Checked job.tree job.store fs names)
    {name : String} (hname : name ∈ names) :
    job.FailsUnforeseen fs (job.stitch name) (job.callsOf name) := by
  intro m w e m' w' stays call
  exact (stitchRun_fault keeps wellFormed checked (stitchRun call) (.nil _ name) hname stays
    rfl).unforeseen

private theorem eachRun_fault (keeps : job.Keeps (job.store.Stays fs)) {siblings : List String}
    {result : Except Error (List (String × Bytes))}
    (run : job.EachRun siblings m w result m' w')
    (each : ∀ name ∈ siblings, job.FailsUnforeseen fs (job.stitch name) (job.callsOf name))
    (stays : job.store.Stays fs w.files) (h : result = .error e) :
    job.Fault (job.EachCompresses siblings m w) w' e := by
  induction run with
  | nil | cons => cases h
  | failed first =>
    cases h
    have hfault := (each _ List.mem_cons_self _ _ _ _ _ stays first).fault
    exact hfault.mono fun _ _ _ => .first
  | restFailed first _ ih =>
    have hfault := ih (fun name hname => each name (List.mem_cons_of_mem _ hname))
      ((stitchRun first).files keeps stays) h
    exact hfault.mono fun _ _ _ => .rest first

private theorem failsUnforeseen_stitchAll (keeps : job.Keeps (job.store.Stays fs))
    (each : ∀ name ∈ job.tree.names, job.FailsUnforeseen fs (job.stitch name) (job.callsOf name)) :
    job.FailsUnforeseen fs job.stitchAll job.callsOfAll := by
  intro m w e m' w' stays call
  obtain ⟨w₁, rfl, run⟩ := eachRun_of_stitchAll call
  exact (eachRun_fault keeps run each stays rfl).unforeseen

/-- After the check of everything, every container and all of them together fail only unforeseen.
After the check of one container, that one does, whatever is missing elsewhere. -/
theorem failsUnforeseen_of_preflight {job : StitchJob} {fs : Files}
    (keeps : job.Keeps (job.store.Stays fs)) :
    (job.preflight fs = .ok () →
      (∀ c ∈ job.tree.containers,
          job.FailsUnforeseen fs (job.stitch c.name) (job.callsOf c.name)) ∧
        job.FailsUnforeseen fs job.stitchAll job.callsOfAll) ∧
    ∀ name, job.preflightFor fs name = .ok () →
      job.FailsUnforeseen fs (job.stitch name) (job.callsOf name) := by
  constructor
  · intro hpreflight
    obtain ⟨wellFormed, checked⟩ := checked_of_preflight hpreflight
    have heach : ∀ name ∈ job.tree.names,
        job.FailsUnforeseen fs (job.stitch name) (job.callsOf name) :=
      fun name hname => failsUnforeseen_stitch keeps wellFormed checked hname
    refine ⟨fun c hc => heach c.name (List.mem_map.2 ⟨c, hc, rfl⟩), ?_⟩
    exact failsUnforeseen_stitchAll keeps heach
  · intro name hpreflight
    obtain ⟨wellFormed, names, hname, checked⟩ := checked_of_preflightFor hpreflight
    exact failsUnforeseen_stitch keeps wellFormed checked hname

def stockedJob : StitchJob :=
  { sampleJob with store := ⟨[("c", [1, 2, 3, 4, 5]), ("a", [1, 2, 3])], []⟩ }

/-- The sample can be checked for its image although another container lacks its artifact. With that
artifact everything passes, and what fails then is a size. -/
theorem failsUnforeseen_of_preflight_sample :
    let fs := sampleWorkspace.files
    let call := stockedJob.stitchAll .empty sampleWorkspace
    sampleJob.preflight fs = .error (.missingArtifact "SPARE" "c" "c") ∧
      sampleJob.preflightFor fs "IMAGE" = .ok () ∧
      sampleJob.FailsUnforeseen fs (sampleJob.stitch "IMAGE") (sampleJob.callsOf "IMAGE") ∧
      stockedJob.preflight fs = .ok () ∧
      call.1.1 = .error (.sizeViolation "SPARE" "c" 5 4 .pad) ∧
      stockedJob.Unforeseen (stockedJob.callsOfAll .empty sampleWorkspace) call.2
        (.sizeViolation "SPARE" "c" 5 4 .pad) := by
  have hsample : sampleJob.Keeps (sampleJob.store.Stays sampleWorkspace.files) :=
    fun _ _ _ hw => hw
  have hstocked : stockedJob.Keeps (stockedJob.store.Stays sampleWorkspace.files) :=
    fun _ _ _ hw => hw
  have hvalid : sampleJob.tree.validate = .ok () := sampleTree_validate
  have hvalid' : stockedJob.tree.validate = .ok () := sampleTree_validate
  have hlacking : sampleJob.preflight sampleWorkspace.files =
      .error (.missingArtifact "SPARE" "c" "c") := by
    simp only [preflight, hvalid]
    cbv
  have hfor : sampleJob.preflightFor sampleWorkspace.files "IMAGE" = .ok () := by
    simp only [preflightFor, hvalid]
    cbv
  have hall : stockedJob.preflight sampleWorkspace.files = .ok () := by
    simp only [preflight, hvalid']
    cbv
  have hfails : (stockedJob.stitchAll .empty sampleWorkspace).1.1 =
      .error (.sizeViolation "SPARE" "c" 5 4 .pad) := by cbv
  refine ⟨hlacking, hfor, ?_, hall, hfails, ?_⟩
  · exact (failsUnforeseen_of_preflight hsample).2 "IMAGE" hfor
  · exact ((failsUnforeseen_of_preflight hstocked).1 hall).2 _ _ _ _ _ (fun _ h => h)
      (Prod.ext (Prod.ext hfails rfl) rfl)

end StitchJob
end FlashImage
