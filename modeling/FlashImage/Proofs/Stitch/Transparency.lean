import FlashImage.Proofs.Stitch.Calls
import FlashImage.Proofs.Stitch.Meaning

/-!
What a stitcher keeps does not show.

While nothing changes, a stitcher in any state gives each container the bytes or the error that it
means. The invariant: containers that have been built hold the bytes that they mean, and contents of
artifacts are those that would be loaded and compressed again. A container that has been built is on
no cycle, so it means the same below any path on which it is met.
-/

set_option autoImplicit false
set_option relaxedAutoImplicit false

namespace FlashImage.StitchSetting

open StitchJob (Task StitchRun ContentRun)

variable {s : StitchSetting} {m m' : StitchMemory} {w w' : Workspace}

/-- All that is kept is what would be made again. -/
structure Faithful (s : StitchSetting) (m : StitchMemory) (w : Workspace) : Prop where
  files : w.files = s.files
  built : ∀ name data, m.built? name = some data → s.meaning name = .ok data
  content : ∀ artifact codec data, m.content? artifact codec = some data →
    ∃ raw, s.store.load s.files artifact = .ok (some raw) ∧ s.compressed codec raw = .ok data

theorem faithful_empty (hw : w.files = s.files) : s.Faithful .empty w :=
  ⟨hw, fun _ _ h => (nomatch h), fun _ _ _ h => (nomatch h)⟩

theorem Faithful.withFiles (h : s.Faithful m w) (hw : w'.files = w.files) : s.Faithful m w' :=
  ⟨hw.trans h.files, h.built, h.content⟩

theorem Faithful.keepBuilt (h : s.Faithful m w) {name : String} {data : Bytes}
    (hdata : s.meaning name = .ok data) : s.Faithful (m.keepBuilt name data) w := by
  refine ⟨h.files, ?_, h.content⟩
  intro name' data' hkept
  rcases StitchMemory.of_built?_keepBuilt hkept with ⟨rfl, rfl⟩ | hkept
  · exact hdata
  · exact h.built name' data' hkept

theorem Faithful.keepContent (h : s.Faithful m w) {artifact : String} {codec : Codec}
    {raw data : Bytes} (hraw : s.store.load s.files artifact = .ok (some raw))
    (hdata : s.compressed codec raw = .ok data) :
    s.Faithful (m.keepContent artifact codec data) w := by
  refine ⟨h.files, h.built, ?_⟩
  intro artifact' codec' data' hkept
  rcases StitchMemory.of_content?_keepContent hkept with ⟨rfl, rfl, rfl⟩ | hkept
  · exact ⟨raw, hraw, hdata⟩
  · exact h.content artifact' codec' data' hkept

theorem compressed_run {codec : Codec} {raw : Bytes} {result : Except Error Bytes}
    (h : s.job.compressed codec raw w = (result, w')) :
    result = s.compressed codec raw ∧ w'.files = w.files := by
  by_cases hcodec : codec = .none
  · subst hcodec
    rw [StitchJob.compressed_none] at h
    cases h
    exact ⟨rfl, rfl⟩
  · rw [StitchJob.compressed_of_ne hcodec] at h
    rw [compressed, if_neg hcodec]
    change Build.ofExcept (s.compress codec raw) _ = _ at h
    cases hresult : s.compress codec raw with
    | error e =>
      rw [hresult] at h
      cases h
      exact ⟨rfl, rfl⟩
    | ok data =>
      rw [hresult] at h
      cases h
      exact ⟨rfl, rfl⟩

private theorem contentRun_faithful {container artifact : String} {r : Region}
    {result : Except Error (Option Bytes)}
    (run : s.job.ContentRun container r artifact m w result m' w') (faithful : s.Faithful m w) :
    result = s.artifactContent container r artifact ∧ s.Faithful m' w' := by
  have hfiles : s.job.store.load w.files artifact = s.store.load s.files artifact := by
    rw [faithful.files]
    rfl
  unfold artifactContent
  cases run with
  | kept kept =>
    obtain ⟨raw, hraw, hdata⟩ := faithful.content _ _ _ kept
    simp only [hraw, hdata]
    exact ⟨rfl, faithful⟩
  | unread _ load =>
    refine ⟨?_, faithful⟩
    simp only [← hfiles, load]
  | leftOut _ load policy =>
    refine ⟨?_, faithful⟩
    simp only [← hfiles, load, if_pos policy]
  | missing _ load policy =>
    refine ⟨?_, faithful⟩
    simp only [← hfiles, load, if_neg policy]
  | failed _ load compress =>
    obtain ⟨hresult, hw⟩ := compressed_run compress
    simp only [← hfiles, load, ← hresult]
    exact ⟨rfl, faithful.withFiles hw⟩
  | loaded _ load compress =>
    obtain ⟨hresult, hw⟩ := compressed_run compress
    rw [hfiles] at load
    simp only [load, ← hresult]
    exact ⟨rfl, (faithful.withFiles hw).keepContent load hresult.symm⟩

/-- The meaning of a task. -/
def meaningOfTask (s : StitchSetting) : Task → Except Error Bytes
  | .container path name => s.meaningBelow path name
  | .region path container r => s.meaningOfRegion path container r
  | .regions path container siblings => s.meaningOfRegions path container siblings

/-- A run at the end of a chain of embeddings gives what the task means, and keeps what is
faithful. -/
theorem stitchRun_faithful {task : Task} {result : Except Error Bytes}
    (run : s.job.StitchRun task m w result m' w') (placed : task.Placed s.tree)
    (faithful : s.Faithful m w) : result = s.meaningOfTask task ∧ s.Faithful m' w' := by
  induction run with
  | kept kept =>
    exact ⟨(meaningBelow_of_meaning_ok (faithful.built _ _ kept) placed).symm, faithful⟩
  | cycle _ onPath =>
    rw [meaningOfTask, meaningBelow_eq, if_pos onPath]
    exact ⟨rfl, faithful⟩
  | unknown _ offPath lacking =>
    replace lacking : s.tree.find? _ = none := lacking
    refine ⟨?_, faithful⟩
    rw [meaningOfTask, meaningBelow_eq, if_neg offPath]
    simp only [lacking]
  | failed _ offPath found _ ih =>
    replace found : s.tree.find? _ = some _ := found
    obtain ⟨hmeaning, hfaithful⟩ := ih (placed.below offPath found) faithful
    refine ⟨?_, hfaithful⟩
    rw [meaningOfTask, meaningBelow_eq, if_neg offPath]
    simp only [found]
    exact hmeaning
  | @built path name c _ _ _ _ data _ offPath found _ ih =>
    replace found : s.tree.find? _ = some _ := found
    obtain ⟨hmeaning, hfaithful⟩ := ih (placed.below offPath found) faithful
    have hbelow : s.meaningBelow path name = .ok data := by
      rw [meaningBelow_eq, if_neg offPath]
      simp only [found]
      exact hmeaning.symm
    exact ⟨hbelow.symm, hfaithful.keepBuilt (meaning_of_meaningBelow_ok hbelow)⟩
  | zeroSize size =>
    rw [meaningOfTask, meaningOfRegion, if_pos size]
    exact ⟨rfl, faithful⟩
  | noContent size source content =>
    obtain ⟨hcontent, hfaithful⟩ := contentRun_faithful content faithful
    refine ⟨?_, hfaithful⟩
    rw [meaningOfTask, meaningOfRegion_of_artifact size source, ← hcontent]
    rfl
  | artifact size source run =>
    obtain ⟨hcontent, hfaithful⟩ := contentRun_faithful run faithful
    refine ⟨?_, hfaithful⟩
    rw [meaningOfTask, meaningOfRegion_of_artifact size source, ← hcontent]
    rfl
  | noChild size source _ ih =>
    obtain ⟨hchild, hfaithful⟩ := ih (placed _ source) faithful
    refine ⟨?_, hfaithful⟩
    rw [meaningOfTask] at hchild
    rw [meaningOfTask, meaningOfRegion_of_container size source, ← hchild]
    rfl
  | incompressible size source _ compress ih =>
    obtain ⟨hchild, hfaithful⟩ := ih (placed _ source) faithful
    obtain ⟨hcompress, hw⟩ := compressed_run compress
    refine ⟨?_, hfaithful.withFiles hw⟩
    rw [meaningOfTask] at hchild
    rw [meaningOfTask, meaningOfRegion_of_container size source, ← hchild]
    simp only [bind, Except.bind, ← hcompress]
  | child size source _ compress ih =>
    obtain ⟨hchild, hfaithful⟩ := ih (placed _ source) faithful
    obtain ⟨hcompress, hw⟩ := compressed_run compress
    refine ⟨?_, hfaithful.withFiles hw⟩
    rw [meaningOfTask] at hchild
    rw [meaningOfTask, meaningOfRegion_of_container size source, ← hchild]
    simp only [bind, Except.bind, ← hcompress]
  | nil =>
    rw [meaningOfTask, meaningOfRegions]
    exact ⟨rfl, faithful⟩
  | firstFailed _ ih =>
    obtain ⟨hfirst, hfaithful⟩ := ih (placed _ List.mem_cons_self) faithful
    refine ⟨?_, hfaithful⟩
    rw [meaningOfTask] at hfirst
    rw [meaningOfTask, meaningOfRegions_cons, ← hfirst]
    rfl
  | restFailed _ _ ihFirst ihRest =>
    obtain ⟨hfirst, hfaithful⟩ := ihFirst (placed _ List.mem_cons_self) faithful
    obtain ⟨hrest, hfaithful⟩ := ihRest (fun r hr => placed r (List.mem_cons_of_mem _ hr)) hfaithful
    refine ⟨?_, hfaithful⟩
    simp only [meaningOfTask] at hfirst hrest
    rw [meaningOfTask, meaningOfRegions_cons, ← hfirst, ← hrest]
    rfl
  | cons _ _ ihFirst ihRest =>
    obtain ⟨hfirst, hfaithful⟩ := ihFirst (placed _ List.mem_cons_self) faithful
    obtain ⟨hrest, hfaithful⟩ := ihRest (fun r hr => placed r (List.mem_cons_of_mem _ hr)) hfaithful
    refine ⟨?_, hfaithful⟩
    simp only [meaningOfTask] at hfirst hrest
    rw [meaningOfTask, meaningOfRegions_cons, ← hfirst, ← hrest]
    rfl

theorem stitch_faithful {name : String} {result : Except Error Bytes} (faithful : s.Faithful m w)
    (call : s.job.stitch name m w = ((result, m'), w')) :
    result = s.meaning name ∧ s.Faithful m' w' :=
  stitchRun_faithful (StitchJob.stitchRun call) (.nil _ name) faithful

def meanings (s : StitchSetting) : List String → Except Error (List (String × Bytes))
  | [] => .ok []
  | name :: rest => do
    let data ← s.meaning name
    let others ← s.meanings rest
    return (name, data) :: others

private theorem eachRun_faithful {names : List String}
    {result : Except Error (List (String × Bytes))}
    (run : s.job.EachRun names m w result m' w') (faithful : s.Faithful m w) :
    result = s.meanings names := by
  induction run with
  | nil => rfl
  | failed first =>
    obtain ⟨hfirst, -⟩ := stitch_faithful faithful first
    rw [meanings, ← hfirst]
    rfl
  | restFailed first _ ih =>
    obtain ⟨hfirst, hfaithful⟩ := stitch_faithful faithful first
    rw [meanings, ← hfirst, ← ih (hfaithful.withFiles rfl)]
    rfl
  | cons first _ ih =>
    obtain ⟨hfirst, hfaithful⟩ := stitch_faithful faithful first
    rw [meanings, ← hfirst, ← ih (hfaithful.withFiles rfl)]
    rfl

theorem faithful_of_reachable (reachable : s.job.Reachable (· = s.files) m w) : s.Faithful m w := by
  refine reachable.invariant s.Faithful faithful_empty ?_ ?_ ?_
  · intro name m w result m' w' faithful call
    exact (stitch_faithful faithful call).2
  · intro m w e faithful
    exact faithful.withFiles rfl
  · intro m w fs faithful hfs
    exact faithful.withFiles (hfs.trans faithful.files.symm)

/-- While nothing changes, a stitcher gives a container the bytes or the error that it means, and
all containers theirs, whatever it has been called for before. -/
theorem stitch_eq_meaning {s : StitchSetting} {m : StitchMemory} {w : Workspace}
    (reachable : s.job.Reachable (· = s.files) m w) :
    (∀ name, (s.job.stitch name m w).1.1 = s.meaning name) ∧
      (s.job.stitchAll m w).1.1 = s.meanings s.tree.names := by
  have hfaithful := faithful_of_reachable reachable
  refine ⟨fun name => (stitch_faithful hfaithful rfl).1, ?_⟩
  have hcall : s.job.stitchAll m w =
      (((s.job.stitchAll m w).1.1, (s.job.stitchAll m w).1.2), (s.job.stitchAll m w).2) := rfl
  obtain ⟨w₁, -, run⟩ := StitchJob.eachRun_of_stitchAll hcall
  exact eachRun_faithful run (hfaithful.withFiles rfl)

def sample : StitchSetting where
  tree := sampleTree
  store := sampleStore
  files := sampleWorkspace.files
  compress := fun _ raw => .ok (raw.take 2)
  pad := 0xFF

/-- A call that has failed on a missing artifact shows in no later call. -/
theorem stitch_eq_meaning_after_failure :
    let left := sample.job.stitchAll .empty sampleWorkspace
    left.1.1 = .error (.missingArtifact "SPARE" "c" "c") ∧
      sample.job.Reachable (· = sample.files) left.1.2 left.2 ∧
      (∀ name, (sample.job.stitch name left.1.2 left.2).1.1 = sample.meaning name) ∧
      sample.meaning "IMAGE" = .ok [0xFF, 0xFF, 0xFF, 0xFF, 1, 2, 0xFF, 0xFF] := by
  have hreachable : sample.job.Reachable (· = sample.files)
      (sample.job.stitchAll .empty sampleWorkspace).1.2
      (sample.job.stitchAll .empty sampleWorkspace).2 :=
    .allStitched (.start rfl) rfl
  exact ⟨by cbv, hreachable, (stitch_eq_meaning hreachable).1, by cbv⟩

end FlashImage.StitchSetting
