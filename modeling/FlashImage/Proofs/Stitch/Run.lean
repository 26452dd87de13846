import FlashImage.Proofs.Layout.Embedding
import FlashImage.Proofs.Workspace
import FlashImage.Stitch.Stitcher

/-!
What a stitcher can do, as a relation between what it is given and what it leaves.

Each way in which a task can go is one constructor of `StitchRun`, failures included. Every call of
a stitcher is such a run, so what holds of all runs holds of all calls. The states of a stitcher are
those to which calls lead, with changes of the files in between.
-/

set_option autoImplicit false
set_option relaxedAutoImplicit false

namespace FlashImage

def Workspace.recorded (w : Workspace) (e : Event) : Workspace := { w with events := e :: w.events }

@[simp] theorem Workspace.files_recorded (w : Workspace) (e : Event) :
    (w.recorded e).files = w.files := rfl

namespace StitchMemory

variable {m : StitchMemory} {name name' artifact artifact' : String} {codec codec' : Codec}
  {data data' : Bytes}

theorem of_built?_keepBuilt (h : (m.keepBuilt name data).built? name' = some data') :
    (name' = name ∧ data' = data) ∨ m.built? name' = some data' := by
  rw [built?_keepBuilt] at h
  split at h
  · rename_i heq
    exact .inl ⟨heq, (Option.some.inj h).symm⟩
  · exact .inr h

theorem of_content?_keepContent
    (h : (m.keepContent artifact codec data).content? artifact' codec' = some data') :
    (artifact' = artifact ∧ codec' = codec ∧ data' = data) ∨
      m.content? artifact' codec' = some data' := by
  rw [content?_keepContent] at h
  split at h
  · rename_i heq
    exact .inl ⟨heq.1, heq.2, (Option.some.inj h).symm⟩
  · exact .inr h

end StitchMemory

namespace Stitching

variable {α β : Type} {step : Stitching α} {next : α → Stitching β} {m m₁ : StitchMemory}
  {w w₁ : Workspace}

theorem bind_ok {a : α} (h : step m w = ((.ok a, m₁), w₁)) :
    (step >>= next) m w = next a m₁ w₁ := by
  simp only [bind, ExceptT.bind, ExceptT.mk, StateT.bind, h]
  rfl

theorem bind_error {e : Error} (h : step m w = ((.error e, m₁), w₁)) :
    (step >>= next) m w = ((.error e, m₁), w₁) := by
  simp only [bind, ExceptT.bind, ExceptT.mk, StateT.bind, h]
  rfl

theorem memory_eq (m : StitchMemory) (w : Workspace) : memory m w = ((.ok m, m), w) := rfl

theorem ofBuild_eq {step : Build α} {result : Except Error α} (h : step w = (result, w₁)) :
    ofBuild step m w = ((result, m), w₁) := by
  rw [ofBuild, h]

theorem of_once {result : Except Error α} (h : once step w = (result, w₁)) :
    ∃ m₁, step .empty w = ((result, m₁), w₁) := by
  refine ⟨(step .empty w).1.2, ?_⟩
  rw [once] at h
  cases h
  rfl

end Stitching

namespace StitchJob

theorem compressed_none (job : StitchJob) (raw : Bytes) (w : Workspace) :
    job.compressed .none raw w = (.ok raw, w) := rfl

theorem compressed_of_ne {codec : Codec} (h : codec ≠ .none) (job : StitchJob) (raw : Bytes)
    (w : Workspace) : job.compressed codec raw w =
      job.compress codec raw (w.recorded (.compression codec raw.length)) := by
  rw [compressed, if_neg h]
  exact bind_eq_of_ok rfl

/-- The compressor leads from files with a property to files with it. -/
def Keeps (job : StitchJob) (files : Files → Prop) : Prop :=
  ∀ codec raw w, files w.files → files (job.compress codec raw w).2.files

theorem Keeps.compressed {job : StitchJob} {files : Files → Prop} (keeps : job.Keeps files)
    {codec : Codec} {raw : Bytes} {w w' : Workspace} {result : Except Error Bytes}
    (h : job.compressed codec raw w = (result, w')) (hw : files w.files) : files w'.files := by
  by_cases hcodec : codec = .none
  · subst hcodec
    rw [compressed_none] at h
    cases h
    exact hw
  · rw [compressed_of_ne hcodec] at h
    have hfiles := keeps codec raw (w.recorded (.compression codec raw.length)) hw
    rw [h] at hfiles
    exact hfiles

/-- The ways in which the content of a region with an artifact comes about. -/
inductive ContentRun (job : StitchJob) (container : String) (r : Region) (artifact : String)
    (m : StitchMemory) (w : Workspace) :
    Except Error (Option Bytes) → StitchMemory → Workspace → Prop
  | kept {data : Bytes} (kept : m.content? artifact r.codec = some data) :
      ContentRun job container r artifact m w (.ok (some data)) m w
  | unread {e : Error} (new : m.content? artifact r.codec = none)
      (load : job.store.load w.files artifact = .error e) :
      ContentRun job container r artifact m w (.error e) m w
  | leftOut (new : m.content? artifact r.codec = none)
      (load : job.store.load w.files artifact = .ok none) (policy : r.policy = .ignore) :
      ContentRun job container r artifact m w (.ok none) m w
  | missing (new : m.content? artifact r.codec = none)
      (load : job.store.load w.files artifact = .ok none) (policy : r.policy ≠ .ignore) :
      ContentRun job container r artifact m w
        (.error (missingArtifact container r artifact)) m w
  | failed {raw : Bytes} {e : Error} {w₁ : Workspace}
      (new : m.content? artifact r.codec = none)
      (load : job.store.load w.files artifact = .ok (some raw))
      (compress : job.compressed r.codec raw w = (.error e, w₁)) :
      ContentRun job container r artifact m w (.error e) m w₁
  | loaded {raw data : Bytes} {w₁ : Workspace}
      (new : m.content? artifact r.codec = none)
      (load : job.store.load w.files artifact = .ok (some raw))
      (compress : job.compressed r.codec raw w = (.ok data, w₁)) :
      ContentRun job container r artifact m w (.ok (some data))
        (m.keepContent artifact r.codec data) w₁

theorem contentRun {job : StitchJob} {container artifact : String} {r : Region}
    {m m' : StitchMemory} {w w' : Workspace} {result : Except Error (Option Bytes)}
    (h : job.artifactContent container r artifact m w = ((result, m'), w')) :
    job.ContentRun container r artifact m w result m' w' := by
  have hfiles : Stitching.ofBuild Build.files m w = ((.ok w.files, m), w) := rfl
  rw [artifactContent, Stitching.bind_ok (Stitching.memory_eq m w)] at h
  cases hkept : m.content? artifact r.codec with
  | some data =>
    rw [hkept] at h
    cases h
    exact .kept hkept
  | none =>
    rw [hkept] at h
    simp only at h
    rw [Stitching.bind_ok hfiles] at h
    cases hload : job.store.load w.files artifact with
    | error e =>
      rw [hload] at h
      cases h
      exact .unread hkept hload
    | ok found =>
      have hfound : Stitching.ofBuild (Build.ofExcept (.ok found)) m w = ((.ok found, m), w) := rfl
      rw [hload, Stitching.bind_ok hfound] at h
      cases found with
      | none =>
        simp only at h
        split at h
        · rename_i hpolicy
          cases h
          exact .leftOut hkept hload hpolicy
        · rename_i hpolicy
          cases h
          exact .missing hkept hload hpolicy
      | some raw =>
        simp only at h
        rcases hcompress : job.compressed r.codec raw w with ⟨e | data, w₁⟩
        · rw [Stitching.bind_error (Stitching.ofBuild_eq hcompress)] at h
          cases h
          exact .failed hkept hload hcompress
        · rw [Stitching.bind_ok (Stitching.ofBuild_eq hcompress)] at h
          cases h
          exact .loaded hkept hload hcompress

/-- What a stitcher is at: a container below a path, the slot of one region of the container at the
end of a path, or the slots of several regions of it. -/
inductive Task
  | container (path : List String) (name : String)
  | region (path : List String) (container : String) (r : Region)
  | regions (path : List String) (container : String) (regions : List Region)

/-- A task stands at the end of a chain of embeddings, without repetition. -/
def Task.Placed (t : LayoutTree) : Task → Prop
  | .container path name => t.IsPath path name
  | .region path _ r => ∀ child, r.source = .container child → t.IsPath path child
  | .regions path _ siblings =>
    ∀ r ∈ siblings, ∀ child, r.source = .container child → t.IsPath path child

theorem Task.Placed.below {t : LayoutTree} {path : List String} {name : String} {c : Container}
    (placed : (Task.container path name).Placed t) (offPath : name ∉ path)
    (found : t.find? name = some c) :
    (Task.regions (path ++ [name]) c.name c.regions).Placed t := by
  intro r hr child hs
  exact LayoutTree.IsPath.push placed offPath (LayoutTree.embeds_of_region found hr hs)

/-- The ways in which a task can go: from a memory and a workspace to a result and to the memory and
the workspace that it leaves. -/
inductive StitchRun (job : StitchJob) : Task → StitchMemory → Workspace →
    Except Error Bytes → StitchMemory → Workspace → Prop
  | kept {path : List String} {name : String} {m : StitchMemory} {w : Workspace} {data : Bytes}
      (kept : m.built? name = some data) :
      StitchRun job (.container path name) m w (.ok data) m w
  | cycle {path : List String} {name : String} {m : StitchMemory} {w : Workspace}
      (new : m.built? name = none) (onPath : name ∈ path) :
      StitchRun job (.container path name) m w (.error (.cycle (LayoutTree.cycleAt path name))) m w
  | unknown {path : List String} {name : String} {m : StitchMemory} {w : Workspace}
      (new : m.built? name = none) (offPath : name ∉ path) (lacking : job.tree.find? name = none) :
      StitchRun job (.container path name) m w (.error (unknownContainer name)) m w
  | failed {path : List String} {name : String} {c : Container} {m m₁ : StitchMemory}
      {w w₁ : Workspace} {e : Error}
      (new : m.built? name = none) (offPath : name ∉ path) (found : job.tree.find? name = some c)
      (regions : StitchRun job (.regions (path ++ [name]) c.name c.regions) m w (.error e) m₁ w₁) :
      StitchRun job (.container path name) m w (.error e) m₁ w₁
  | built {path : List String} {name : String} {c : Container} {m m₁ : StitchMemory}
      {w w₁ : Workspace} {data : Bytes}
      (new : m.built? name = none) (offPath : name ∉ path) (found : job.tree.find? name = some c)
      (regions : StitchRun job (.regions (path ++ [name]) c.name c.regions) m w (.ok data) m₁ w₁) :
      StitchRun job (.container path name) m w (.ok data) (m₁.keepBuilt name data) w₁
  | zeroSize {path : List String} {container : String} {r : Region} {m : StitchMemory}
      {w : Workspace} (size : r.size = 0) :
      StitchRun job (.region path container r) m w (.error (.region container r.name .zeroSize)) m w
  | noContent {path : List String} {container artifact : String} {r : Region}
      {m m₁ : StitchMemory} {w w₁ : Workspace} {e : Error}
      (size : r.size ≠ 0) (source : r.source = .artifact artifact)
      (content : job.ContentRun container r artifact m w (.error e) m₁ w₁) :
      StitchRun job (.region path container r) m w (.error e) m₁ w₁
  | artifact {path : List String} {container artifact : String} {r : Region}
      {m m₁ : StitchMemory} {w w₁ : Workspace} {content : Option Bytes}
      (size : r.size ≠ 0) (source : r.source = .artifact artifact)
      (run : job.ContentRun container r artifact m w (.ok content) m₁ w₁) :
      StitchRun job (.region path container r) m w (job.slot container r content) m₁ w₁
  | noChild {path : List String} {container child : String} {r : Region}
      {m m₁ : StitchMemory} {w w₁ : Workspace} {e : Error}
      (size : r.size ≠ 0) (source : r.source = .container child)
      (below : StitchRun job (.container path child) m w (.error e) m₁ w₁) :
      StitchRun job (.region path container r) m w (.error e) m₁ w₁
  | incompressible {path : List String} {container child : String} {r : Region}
      {m m₁ : StitchMemory} {w w₁ w₂ : Workspace} {raw : Bytes} {e : Error}
      (size : r.size ≠ 0) (source : r.source = .container child)
      (below : StitchRun job (.container path child) m w (.ok raw) m₁ w₁)
      (compress : job.compressed r.codec raw w₁ = (.error e, w₂)) :
      StitchRun job (.region path container r) m w (.error e) m₁ w₂
  | child {path : List String} {container child : String} {r : Region}
      {m m₁ : StitchMemory} {w w₁ w₂ : Workspace} {raw data : Bytes}
      (size : r.size ≠ 0) (source : r.source = .container child)
      (below : StitchRun job (.container path child) m w (.ok raw) m₁ w₁)
      (compress : job.compressed r.codec raw w₁ = (.ok data, w₂)) :
      StitchRun job (.region path container r) m w (job.slot container r (some data)) m₁ w₂
  | nil {path : List String} {container : String} {m : StitchMemory} {w : Workspace} :
      StitchRun job (.regions path container []) m w (.ok []) m w
  | firstFailed {path : List String} {container : String} {r : Region} {rest : List Region}
      {m m₁ : StitchMemory} {w w₁ : Workspace} {e : Error}
      (first : StitchRun job (.region path container r) m w (.error e) m₁ w₁) :
      StitchRun job (.regions path container (r :: rest)) m w (.error e) m₁ w₁
  | restFailed {path : List String} {container : String} {r : Region} {rest : List Region}
      {m m₁ m₂ : StitchMemory} {w w₁ w₂ : Workspace} {slot : Bytes} {e : Error}
      (first : StitchRun job (.region path container r) m w (.ok slot) m₁ w₁)
      (others : StitchRun job (.regions path container rest) m₁ w₁ (.error e) m₂ w₂) :
      StitchRun job (.regions path container (r :: rest)) m w (.error e) m₂ w₂
  | cons {path : List String} {container : String} {r : Region} {rest : List Region}
      {m m₁ m₂ : StitchMemory} {w w₁ w₂ : Workspace} {slot slots : Bytes}
      (first : StitchRun job (.region path container r) m w (.ok slot) m₁ w₁)
      (others : StitchRun job (.regions path container rest) m₁ w₁ (.ok slots) m₂ w₂) :
      StitchRun job (.regions path container (r :: rest)) m w (.ok (slot ++ slots)) m₂ w₂

/-- The calls of the compressor to which a task comes: with which codec and which data, and in which
workspace. -/
inductive Compresses (job : StitchJob) : Task → StitchMemory → Workspace →
    Codec → Bytes → Workspace → Prop
  | artifact {path : List String} {container artifact : String} {r : Region} {m : StitchMemory}
      {w : Workspace} {raw : Bytes}
      (size : r.size ≠ 0) (source : r.source = .artifact artifact) (codec : r.codec ≠ .none)
      (new : m.content? artifact r.codec = none)
      (load : job.store.load w.files artifact = .ok (some raw)) :
      Compresses job (.region path container r) m w r.codec raw
        (w.recorded (.compression r.codec raw.length))
  | child {path : List String} {container child : String} {r : Region} {m m₁ : StitchMemory}
      {w w₁ : Workspace} {raw : Bytes}
      (size : r.size ≠ 0) (source : r.source = .container child) (codec : r.codec ≠ .none)
      (below : StitchRun job (.container path child) m w (.ok raw) m₁ w₁) :
      Compresses job (.region path container r) m w r.codec raw
        (w₁.recorded (.compression r.codec raw.length))
  | embedded {path : List String} {container child : String} {r : Region} {m : StitchMemory}
      {w before : Workspace} {codec : Codec} {raw : Bytes}
      (size : r.size ≠ 0) (source : r.source = .container child)
      (call : Compresses job (.container path child) m w codec raw before) :
      Compresses job (.region path container r) m w codec raw before
  | container {path : List String} {name : String} {c : Container} {m : StitchMemory}
      {w before : Workspace} {codec : Codec} {raw : Bytes}
      (new : m.built? name = none) (offPath : name ∉ path) (found : job.tree.find? name = some c)
      (call : Compresses job (.regions (path ++ [name]) c.name c.regions) m w codec raw before) :
      Compresses job (.container path name) m w codec raw before
  | first {path : List String} {container : String} {r : Region} {rest : List Region}
      {m : StitchMemory} {w before : Workspace} {codec : Codec} {raw : Bytes}
      (call : Compresses job (.region path container r) m w codec raw before) :
      Compresses job (.regions path container (r :: rest)) m w codec raw before
  | rest {path : List String} {container : String} {r : Region} {rest : List Region}
      {m m₁ : StitchMemory} {w w₁ before : Workspace} {slot : Bytes} {codec : Codec} {raw : Bytes}
      (first : StitchRun job (.region path container r) m w (.ok slot) m₁ w₁)
      (call : Compresses job (.regions path container rest) m₁ w₁ codec raw before) :
      Compresses job (.regions path container (r :: rest)) m w codec raw before

abbrev callsOf (job : StitchJob) (name : String) (m : StitchMemory) (w : Workspace) :
    Codec → Bytes → Workspace → Prop :=
  job.Compresses (.container [] name) m w

theorem ContentRun.files {job : StitchJob} {files : Files → Prop} (keeps : job.Keeps files)
    {container artifact : String} {r : Region} {m m' : StitchMemory} {w w' : Workspace}
    {result : Except Error (Option Bytes)}
    (run : job.ContentRun container r artifact m w result m' w') (hw : files w.files) :
    files w'.files := by
  cases run with
  | kept | unread | leftOut | missing => exact hw
  | failed _ _ compress => exact keeps.compressed compress hw
  | loaded _ _ compress => exact keeps.compressed compress hw

theorem StitchRun.files {job : StitchJob} {files : Files → Prop} (keeps : job.Keeps files)
    {task : Task} {m m' : StitchMemory} {w w' : Workspace} {result : Except Error Bytes}
    (run : job.StitchRun task m w result m' w') (hw : files w.files) : files w'.files := by
  induction run with
  | kept | cycle | unknown | zeroSize | nil => exact hw
  | failed _ _ _ _ ih => exact ih hw
  | built _ _ _ _ ih => exact ih hw
  | noContent _ _ content => exact content.files keeps hw
  | artifact _ _ run => exact run.files keeps hw
  | noChild _ _ _ ih => exact ih hw
  | incompressible _ _ _ compress ih => exact keeps.compressed compress (ih hw)
  | child _ _ _ compress ih => exact keeps.compressed compress (ih hw)
  | firstFailed _ ih => exact ih hw
  | restFailed _ _ ihFirst ihRest => exact ihRest (ihFirst hw)
  | cons _ _ ihFirst ihRest => exact ihRest (ihFirst hw)

def stitchRegion (job : StitchJob) (path : List String) (container : String) (r : Region) :
    Stitching Bytes := do
  if r.size = 0 then throw (.region container r.name .zeroSize)
  let content ←
    match r.source with
    | .artifact artifact => artifactContent job container r artifact
    | .container child => do
      let raw ← stitchBelow job path child
      some <$> Stitching.ofBuild (job.compressed r.codec raw)
  Stitching.ofBuild (Build.ofExcept (job.slot container r content))

theorem stitchBelow_eq (job : StitchJob) (path : List String) (name : String) :
    job.stitchBelow path name = (do
      match (← Stitching.memory).built? name with
      | some data => return data
      | none =>
        if name ∈ path then throw (.cycle (LayoutTree.cycleAt path name))
        else
          match job.tree.find? name with
          | none => throw (unknownContainer name)
          | some c =>
            let data ← job.stitchRegions (path ++ [name]) c.name c.regions
            Stitching.update (·.keepBuilt name data)
            return data) := by
  rw [stitchBelow]
  refine bind_congr fun m => ?_
  cases m.built? name with
  | some data => rfl
  | none =>
    by_cases hp : name ∈ path
    · simp only [dif_pos hp, if_pos hp]
    · simp only [dif_neg hp, if_neg hp]
      split <;> rename_i hc <;> simp only [hc]

theorem stitchRegions_cons (job : StitchJob) (path : List String) (container : String) (r : Region)
    (rest : List Region) :
    job.stitchRegions path container (r :: rest) = (do
      let first ← job.stitchRegion path container r
      let others ← job.stitchRegions path container rest
      return first ++ others) := by
  rw [stitchRegions]
  unfold stitchRegion
  split
  · rfl
  · cases r.source <;> simp only [bind_assoc]

section

variable {job : StitchJob} {path : List String} {container name : String} {r : Region}
  {m m' : StitchMemory} {w w' : Workspace} {result : Except Error Bytes}

private theorem ofSlot_eq (content : Option Bytes) :
    Stitching.ofBuild (Build.ofExcept (job.slot container r content)) m w =
      ((job.slot container r content, m), w) := by
  cases job.slot container r content <;> rfl

private theorem stitchRun_region
    (below : ∀ child m w result m' w', job.stitchBelow path child m w = ((result, m'), w') →
      job.StitchRun (.container path child) m w result m' w')
    (h : job.stitchRegion path container r m w = ((result, m'), w')) :
    job.StitchRun (.region path container r) m w result m' w' := by
  unfold stitchRegion at h
  by_cases hsize : r.size = 0
  · rw [if_pos hsize] at h
    cases h
    exact .zeroSize hsize
  rw [if_neg hsize] at h
  cases hsource : r.source with
  | artifact artifact =>
    simp only [hsource] at h
    rcases hcontent : job.artifactContent container r artifact m w with ⟨⟨e | content, m₁⟩, w₁⟩
    · rw [Stitching.bind_error hcontent] at h
      cases h
      exact .noContent hsize hsource (contentRun hcontent)
    · rw [Stitching.bind_ok hcontent, ofSlot_eq] at h
      cases h
      exact .artifact hsize hsource (contentRun hcontent)
  | container child =>
    simp only [hsource] at h
    rcases hraw : job.stitchBelow path child m w with ⟨⟨e | raw, m₁⟩, w₁⟩
    · rw [Stitching.bind_error hraw] at h
      cases h
      exact .noChild hsize hsource (below child m w _ _ _ hraw)
    rw [Stitching.bind_ok hraw, map_eq_pure_bind, bind_assoc] at h
    rcases hcompress : job.compressed r.codec raw w₁ with ⟨e | data, w₂⟩
    · rw [Stitching.bind_error (Stitching.ofBuild_eq hcompress)] at h
      cases h
      exact .incompressible hsize hsource (below child m w _ _ _ hraw) hcompress
    · rw [Stitching.bind_ok (Stitching.ofBuild_eq hcompress), pure_bind, ofSlot_eq] at h
      cases h
      exact .child hsize hsource (below child m w _ _ _ hraw) hcompress

end

private theorem stitchRun_all (job : StitchJob) :
    (∀ path name m w result m' w', job.stitchBelow path name m w = ((result, m'), w') →
      job.StitchRun (.container path name) m w result m' w') ∧
    ∀ path container regions m w result m' w',
      job.stitchRegions path container regions m w = ((result, m'), w') →
        job.StitchRun (.regions path container regions) m w result m' w' := by
  refine stitchBelow.mutual_induct job
    (fun path name => ∀ m w result m' w',
      job.stitchBelow path name m w = ((result, m'), w') →
        job.StitchRun (.container path name) m w result m' w')
    (fun path container regions => ∀ m w result m' w',
      job.stitchRegions path container regions m w = ((result, m'), w') →
        job.StitchRun (.regions path container regions) m w result m' w')
    ?container ?nil ?zeroSize ?cons
  case container =>
    intro path name ih m w result m' w' h
    rw [stitchBelow_eq, Stitching.bind_ok (Stitching.memory_eq m w)] at h
    cases hkept : m.built? name with
    | some data =>
      rw [hkept] at h
      cases h
      exact .kept hkept
    | none =>
      rw [hkept] at h
      simp only at h
      by_cases hpath : name ∈ path
      · rw [if_pos hpath] at h
        cases h
        exact .cycle hkept hpath
      rw [if_neg hpath] at h
      cases hc : job.tree.find? name with
      | none =>
        simp only [hc] at h
        cases h
        exact .unknown hkept hpath hc
      | some c =>
        simp only [hc] at h
        rcases hregions : job.stitchRegions (path ++ [name]) c.name c.regions m w with
          ⟨⟨e | data, m₁⟩, w₁⟩
        · rw [Stitching.bind_error hregions] at h
          cases h
          exact .failed hkept hpath hc (ih hpath c hc m w _ _ _ hregions)
        · rw [Stitching.bind_ok hregions] at h
          cases h
          exact .built hkept hpath hc (ih hpath c hc m w _ _ _ hregions)
  case nil =>
    intro path container m w result m' w' h
    rw [stitchRegions] at h
    cases h
    exact .nil
  case zeroSize =>
    intro path container r rest hsize _ _ m w result m' w' h
    rw [stitchRegions, if_pos hsize] at h
    cases h
    exact .firstFailed (.zeroSize hsize)
  case cons =>
    intro path container r rest _ ihRest ihChild m w result m' w' h
    rw [stitchRegions_cons] at h
    rcases hfirst : job.stitchRegion path container r m w with ⟨⟨e | slot, m₁⟩, w₁⟩
    · rw [Stitching.bind_error hfirst] at h
      cases h
      exact .firstFailed (stitchRun_region ihChild hfirst)
    rw [Stitching.bind_ok hfirst] at h
    rcases hothers : job.stitchRegions path container rest m₁ w₁ with ⟨⟨e | slots, m₂⟩, w₂⟩
    · rw [Stitching.bind_error hothers] at h
      cases h
      exact .restFailed (stitchRun_region ihChild hfirst) (ihRest m₁ w₁ _ _ _ hothers)
    · rw [Stitching.bind_ok hothers] at h
      cases h
      exact .cons (stitchRun_region ihChild hfirst) (ihRest m₁ w₁ _ _ _ hothers)

theorem stitchRun {job : StitchJob} {name : String} {m m' : StitchMemory} {w w' : Workspace}
    {result : Except Error Bytes} (h : job.stitch name m w = ((result, m'), w')) :
    job.StitchRun (.container [] name) m w result m' w' :=
  (stitchRun_all job).1 [] name m w result m' w' h

end StitchJob
end FlashImage
