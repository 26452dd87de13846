import FlashImage.Command.Run
import FlashImage.Proofs.Board.Plan
import FlashImage.Proofs.Command.Session
import FlashImage.Proofs.Files.Fresh

/-!
What stages with external tools do to an area that the tools leave alone.

A compressor works in a directory that it makes and takes away again, so only its programs could
change an area. Assembling a reset vector makes directories and removes two files. Whether these are
in the area is a matter of where their paths lead.
-/

set_option autoImplicit false
set_option relaxedAutoImplicit false

namespace FlashImage

open Files (Elsewhere Aside)

variable {run : ToolRunner} {area : Location → Prop} {fs₀ : Files}

/-- Tools that change nothing in an area. -/
def ToolRunner.Spares (run : ToolRunner) (area : Location → Prop) : Prop :=
  ∀ program arguments directory w, w.files.WellFormed →
    Elsewhere area w.files (run program arguments directory w).2.files

private theorem sends_change {pre post : Files → Prop} {path : String}
    {f : Files → Except FileFault Files}
    (changed : ∀ fs fs', pre fs → f fs = .ok fs' → post fs') (stop : ∀ fs, pre fs → post fs) :
    Sends pre (Build.change path f) post := by
  intro w hw
  rw [Build.change_eq]
  split
  · rename_i hf
    exact changed _ _ hw hf
  · exact stop _ hw

private theorem plainName_scratchName : PlainName scratchName := isFileName_iff.1 (by decide)

private theorem sends_runCompressionTool (spares : run.Spares area) {fs fs₁ : Files}
    {scratch : String} {before : List String} {d : Location} (wellFormed : fs.WellFormed)
    (hparts : Path.parts (Path.join scratch scratchName) = before ++ [scratchName])
    (fresh : Files.Fresh fs fs₁ (Path.join scratch scratchName) scratchName before d)
    (program : String) (raw : Bytes) :
    Sends (· = fs₁) (runCompressionTool run program (Path.join scratch scratchName) raw)
      (Aside area (d ++ [scratchName]) fs) := by
  have hstart : ∀ fs', fs' = fs₁ → Aside area (d ++ [scratchName]) fs fs' := by
    rintro _ rfl
    exact fresh.aside wellFormed
  refine .andKeeps (sends_change ?_ hstart) fun _ => ?_
  · rintro _ fs₂ rfl hwrite
    rw [fresh.write wellFormed hparts plainName_scratchName (isFileName_iff.1 (by decide)) hwrite]
    exact (fresh.aside wellFormed).put fresh.entryAt? (fresh.empty wellFormed _)
  refine .andKeeps (.still fun _ => rfl) fun _ => ?_
  refine .andKeeps (fun w hw => hw.trans (spares _ _ _ w hw.wellFormed)) fun _ => ?_
  refine .andKeeps (.still fun _ => rfl) fun fs' => ?_
  split <;> exact .still fun _ => rfl

private theorem keeps_ofTools (spares : run.Spares area) (tools : CompressionTools) :
    (Compressor.ofTools tools run).Keeps (Elsewhere area fs₀) := by
  intro codec raw w hw
  rw [Compressor.ofTools]
  rcases tools.program? codec with _ | program
  · exact hw
  · dsimp only
    have hscratch : (get : Build Workspace) w = (.ok w, w) := rfl
    rw [bind_eq_of_ok hscratch]
    rcases hmake : w.files.makeDirectory (Path.join w.scratch scratchName) with fault | fs₁
    · have hchange : Build.change w.scratch
          (·.makeDirectory (Path.join w.scratch scratchName)) w =
            (.error (.file w.scratch fault), w) := by
        rw [Build.change_eq, hmake]
      rw [bind_eq_of_error hchange]
      exact hw
    · obtain ⟨before, d, hparts, fresh⟩ :=
        Files.fresh_of_makeDirectory hw.wellFormed plainName_scratchName hmake
      have hchange : Build.change w.scratch
          (·.makeDirectory (Path.join w.scratch scratchName)) w =
            (.ok (), { w with files := fs₁ }) := by
        rw [Build.change_eq, hmake]
      have hlook : Build.look (Path.join w.scratch scratchName)
          (·.find (Path.join w.scratch scratchName)) { w with files := fs₁ } =
            (.ok (d ++ [scratchName], .directory), { w with files := fs₁ }) := by
        rw [Build.look_eq, fresh.find]
        rfl
      rw [bind_eq_of_ok hchange, bind_eq_of_ok hlook, Build.files_ensuring]
      have hinner : Sends (· = fs₁) (do
          let payload ← runCompressionTool run program (Path.join w.scratch scratchName) raw
          Build.ofExcept (CompressedHeader.wrap codec raw.length payload) : Build Bytes)
          (Aside area (d ++ [scratchName]) w.files) :=
        .andKeeps (sends_runCompressionTool spares hw.wellFormed hparts fresh program raw)
          fun _ => .ofExcept _
      have haside := hinner { w with files := fs₁ } rfl
      exact hw.trans (fresh.removeAll hw.wellFormed haside)

theorem keeps_builtIn (files : Files → Prop) : Compressor.builtIn.Keeps files := by
  intro codec raw w hw
  rwa [Compressor.builtIn, Build.ofExcept_eq]

theorem keeps_choose (spares : run.Spares area) (tools : Option CompressionTools) :
    (Compressor.choose run tools).Keeps (Elsewhere area fs₀) := by
  cases tools with
  | some tools => exact keeps_ofTools spares tools
  | none => exact keeps_builtIn _

/-- A path that does not lead into an area. -/
def Files.Apart (fs : Files) (area : Location → Prop) (path : String) : Prop :=
  ∀ l, fs.Site false path l → ¬ area l

namespace ResetVectorBuild

/-- A reset vector is assembled apart from an area: none of the directories on the way to the
results is missing there, the blob and the object file are not put there, and the tools do not turn
the path of the object file to it. -/
structure Avoids (r : ResetVectorBuild) (run : ToolRunner) (area : Location → Prop)
    (fs : Files) : Prop where
  directories : ∀ path l, Path.OnWay r.resultDirectory path → fs.Site true path l → area l →
    fs.entryAt? l ≠ none
  output : ∀ l, fs.Site true r.outputPath l → ¬ area l
  object : ∀ l, fs.Site true r.objectPath l → ¬ area l
  tools : ∀ program arguments directory w, w.files.WellFormed →
    w.files.Apart area r.objectPath → (run program arguments directory w).2.files.Apart area
      r.objectPath

theorem endsWith_outputPath (r : ResetVectorBuild) : r.outputPath.endsWith "/" = false := by
  refine Path.endsWith_join _ (c := 'w') ?_ ?_ (by decide)
  · rw [Path.isAbsolute, rawName, String.toList_append, String.toList_append]
    rfl
  · rw [rawName, String.toList_append, List.getLast?_append]
    rfl

theorem endsWith_objectPath (r : ResetVectorBuild) : r.objectPath.endsWith "/" = false :=
  Path.endsWith_join _ (c := 'o') (by decide) (by decide) (by decide)

section

variable {pre post : Files → Prop} {path : String}

theorem sends_removeStale
    (removed : ∀ fs fs', pre fs → fs.removeFile path = .ok fs' → post fs')
    (stop : ∀ fs, pre fs → post fs) : Sends pre (removeStale path) post := by
  intro w hw
  rw [removeStale, bind_eq_of_ok (Build.files_eq w)]
  rcases hremove : w.files.removeFile path with fault | fs'
  · cases fault <;> exact stop _ hw
  · exact removed _ _ hw hremove

theorem sends_removeQuietly
    (removed : ∀ fs fs', pre fs → fs.removeFile path = .ok fs' → post fs')
    (stop : ∀ fs, pre fs → post fs) : Sends pre (removeQuietly path) post := by
  intro w hw
  rw [removeQuietly, bind_eq_of_ok (Build.files_eq w)]
  rcases hremove : w.files.removeFile path with fault | fs'
  · exact stop _ hw
  · exact removed _ _ hw hremove

end

theorem sends_runEach {inv : Files → Prop}
    (kept : ∀ program arguments directory w, inv w.files →
      inv (run program arguments directory w).2.files)
    (directory : String) (commands : List ToolCommand) :
    Sends inv (runEach run directory commands) inv := by
  induction commands with
  | nil => exact .still fun _ => rfl
  | cons c rest ih =>
    refine .andKeeps (.still fun _ => rfl) fun _ => ?_
    exact .andKeeps (fun w hw => kept _ _ _ w hw) fun _ => ih

variable {r : ResetVectorBuild}

/-- Assembling a reset vector changes files in four places: it makes directories, removes an old
blob, runs the programs, and removes the object file. -/
theorem sends_run {before made cleaned after : Files → Prop} (allocated : UInt32)
    (make : Sends before (Build.makeDirectories r.resultDirectory) made)
    (clean : Sends made (removeStale r.outputPath) cleaned)
    (programs : Sends cleaned (runEach run r.directory r.commands) cleaned)
    (tidy : Sends cleaned (removeQuietly r.objectPath) after)
    (stopMade : ∀ fs, made fs → after fs) (stopCleaned : ∀ fs, cleaned fs → after fs) :
    Sends before (r.run run allocated) after := by
  refine Sends.bind make (fun _ => ?_) stopMade
  refine Sends.bind clean (fun _ => ?_) stopCleaned
  refine Sends.bind programs (fun _ => ?_) stopCleaned
  refine Sends.bind (.still fun _ => rfl) (fun fs => ?_) stopCleaned
  split
  · exact .strengthen stopCleaned (.still fun _ => rfl)
  refine Sends.bind (.look _ _) (fun blob => ?_) stopCleaned
  refine .andKeeps tidy fun _ => ?_
  exact .andKeeps (.ofExcept _) fun _ => .still fun _ => rfl

theorem Avoids.elsewhere (avoids : r.Avoids run area fs₀) (spares : run.Spares area)
    (wellFormed : fs₀.WellFormed) (allocated : UInt32) :
    Sends (· = fs₀) (r.run run allocated) (Elsewhere area fs₀) := by
  -- The paths of the two files are followed without gaps from here on, for removing a link could
  -- turn a path with gaps.
  have hmake : Sends (· = fs₀) (Build.makeDirectories r.resultDirectory) fun fs =>
      Elsewhere area fs₀ fs ∧ fs.Apart area r.outputPath ∧ fs.Apart area r.objectPath := by
    rintro w rfl
    rw [Build.makeDirectories_eq]
    have hgrown := w.files.grown_of_makeDirectories r.resultDirectory
    refine ⟨hgrown.elsewhere wellFormed ?_, fun l site => ?_, fun l site => ?_⟩
    · rintro l ⟨path, onWay, site⟩
      exact avoids.directories path l onWay site
    · exact avoids.output l (hgrown.site_iff.1 site.withGaps)
    · exact avoids.object l (hgrown.site_iff.1 site.withGaps)
  have hclean : Sends (fun fs => Elsewhere area fs₀ fs ∧ fs.Apart area r.outputPath ∧
      fs.Apart area r.objectPath) (removeStale r.outputPath)
      fun fs => Elsewhere area fs₀ fs ∧ fs.Apart area r.objectPath := by
    refine sends_removeStale ?_ fun fs => And.imp_right And.right
    rintro fs fs' ⟨here, output, object⟩ hremove
    obtain ⟨further, within⟩ := Files.elsewhere_of_removeFile here.wellFormed
      r.endsWith_outputPath output hremove
    exact ⟨here.trans further, fun l site => object l (site.mono further.current.symm within)⟩
  have hprograms : Sends (fun fs => Elsewhere area fs₀ fs ∧ fs.Apart area r.objectPath)
      (runEach run r.directory r.commands)
      fun fs => Elsewhere area fs₀ fs ∧ fs.Apart area r.objectPath := by
    refine sends_runEach ?_ r.directory r.commands
    rintro program arguments directory w ⟨here, object⟩
    exact ⟨here.trans (spares program arguments directory w here.wellFormed),
      avoids.tools program arguments directory w here.wellFormed object⟩
  have htidy : Sends (fun fs => Elsewhere area fs₀ fs ∧ fs.Apart area r.objectPath)
      (removeQuietly r.objectPath) (Elsewhere area fs₀) := by
    refine sends_removeQuietly ?_ fun fs => And.left
    rintro fs fs' ⟨here, object⟩ hremove
    exact here.trans (Files.elsewhere_of_removeFile here.wellFormed r.endsWith_objectPath object
      hremove).1
  exact sends_run allocated hmake hclean hprograms htidy (fun _ => And.left) fun _ => And.left

end ResetVectorBuild
section

variable {job : StitchJob} {files : Files → Prop}

theorem StitchJob.Keeps.sends_stitch (keeps : job.Keeps files) (name : String) :
    Sends files (Stitching.once (job.stitch name)) files := by
  intro w hw
  rcases honce : Stitching.once (job.stitch name) w with ⟨result, w'⟩
  obtain ⟨m, call⟩ := Stitching.of_once honce
  exact (StitchJob.stitchRun call).files keeps hw

theorem StitchJob.Keeps.sends_stitchAll (keeps : job.Keeps files) :
    Sends files (Stitching.once job.stitchAll) files := by
  intro w hw
  rcases honce : Stitching.once job.stitchAll w with ⟨result, w'⟩
  obtain ⟨m, call⟩ := Stitching.of_once honce
  obtain ⟨w₁, rfl, each⟩ := StitchJob.eachRun_of_stitchAll call
  have hstitch : ∀ {name : String} {m : StitchMemory} {w : Workspace}
      {result : Except Error Bytes} {m' : StitchMemory} {w' : Workspace}, files w.files →
      job.stitch name m w = ((result, m'), w') → files w'.files :=
    fun hw call => (StitchJob.stitchRun call).files keeps hw
  have hfiles : files w₁.files := StitchJob.EachRun.keeps hstitch (fun _ hw => hw) each hw
  cases result <;> exact hfiles

end

private theorem sends_provide (spares : run.Spares area) (wellFormed : fs₀.WellFormed) (b : Board)
    (store : ArtifactStore) (source : ResetVectorSource)
    (avoids : ∀ directory toolPrefix, source = .assembled directory toolPrefix →
      (ResetVectorBuild.ofBoard b directory toolPrefix).Avoids run area fs₀) :
    Sends (· = fs₀) (source.provide run b store) (Elsewhere area fs₀) := by
  have hstart : ∀ fs, fs = fs₀ → Elsewhere area fs₀ fs := by
    rintro _ rfl
    exact .refl wellFormed
  cases source with
  | artifact => exact .strengthen hstart (.still fun _ => rfl)
  | prebuilt path =>
    refine .strengthen hstart (.andKeeps ?_ fun _ => .still fun _ => rfl)
    refine .andKeeps (.look _ _) fun blob => ?_
    exact .andKeeps (.ofExcept _) fun _ => .still fun _ => rfl
  | assembled directory toolPrefix =>
    refine .andKeeps ?_ fun _ => .still fun _ => rfl
    exact (avoids directory toolPrefix rfl).elsewhere spares wellFormed b.sizes.reset

theorem sends_stitch {files : Files → Prop} {compress : Compressor} (keeps : compress.Keeps files)
    (b : Board) (t : LayoutTree) (store : ArtifactStore) :
    Sends files (b.stitch t store compress) files := by
  have hjob : StitchJob.Keeps ⟨t, store, compress, b.padByte⟩ files := keeps
  refine .andKeeps (.still fun _ => rfl) fun fs => ?_
  refine .andKeeps (.ofExcept _) fun _ => ?_
  exact .andKeeps hjob.sends_stitchAll fun _ => .still fun _ => rfl

theorem sends_assemble (spares : run.Spares area) (wellFormed : fs₀.WellFormed) (b : Board)
    (artifacts : List String) (source : ResetVectorSource) (tools : Option CompressionTools)
    (avoids : ∀ directory toolPrefix, source = .assembled directory toolPrefix →
      (ResetVectorBuild.ofBoard b directory toolPrefix).Avoids run area fs₀) :
    Sends (· = fs₀) (b.assemble run artifacts source tools) (Elsewhere area fs₀) := by
  refine Sends.bind (.ofExcept _) (fun t => ?_) ?_
  · exact .andKeeps (sends_provide spares wellFormed b _ source avoids)
      fun store => sends_stitch (keeps_choose spares tools) b t store
  · rintro _ rfl
    exact .refl wellFormed

end FlashImage
