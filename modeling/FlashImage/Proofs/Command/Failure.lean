import FlashImage.Proofs.Command.Stages
import FlashImage.Proofs.Layout.RoundTrip

/-!
Failed commands do no damage.

A command that fails before it is to write leaves the output directory as it was. One that fails
later leaves the file of the final container as it was, unless it has only failed to print what it
has written.
-/

set_option autoImplicit false
set_option relaxedAutoImplicit false

namespace FlashImage

open Files (Elsewhere)

namespace Command

variable {area : Location → Prop} {w w' : Workspace}

/-- What a failed command has left of an area. Before it writes containers into the directory
`out`, it prepares them. -/
structure Undamaged (area : Location → Prop) (out : String) (intermediates : Bool)
    (final : String → Prop) (preparation : Except CommandFault StitchOutput × Workspace)
    (fault : CommandFault) (fs fs' : Files) : Prop where
  /-- Nothing has changed if the command has failed before it was to write. -/
  unprepared : ∀ e, preparation.1 = .error e → ∀ l, area l → fs'.entryAt? l = fs.entryAt? l
  /-- What is there under the name of the final container has not changed. Where nothing was, a
  directory may have been made on the way of `out` itself. -/
  entry : ¬ fault.OfOutput → ∀ name, final name → ∀ l, area l → l.getLast? = some name →
    fs'.entryAt? l = fs.entryAt? l ∨ fs.entryAt? l = none ∧ fs'.entryAt? l = some .directory ∧
      preparation.2.files.OnWay out l
  /-- The file of the final container is read as before, if the way to it is in the area and does
  not meet the containers that are written before. -/
  read : ¬ fault.OfOutput → ∀ name content, final name →
    fs.read (Path.join out name) = .ok content →
    (∀ m, fs.Visits Files.linkLimit fs.current (Path.join out name) m → area m) →
    (∀ o, preparation.1 = .ok o →
      ¬ fs.Meets (Path.join out name) out (o.written intermediates).dropLast) →
    fs'.read (Path.join out name) = .ok content
  /-- A command that could not print what it has written has written all of it. -/
  printed : fault.OfOutput → ∀ o, preparation.1 = .ok o →
    Files.Delivered out (preparation.2.files.makeDirectories out).2 fs' (o.written intermediates)

theorem Interrupted.sublist {out : String} {order : List (String × Bytes)} {fault : CommandFault}
    {fs fs' : Files} {k : Nat} (h : Interrupted out order fault fs fs' k)
    (notOutput : ¬ fault.OfOutput) : ∀ c ∈ order.take k, c ∈ order.dropLast := by
  intro c hc
  have hless := h.less notOutput
  rw [List.dropLast_eq_take]
  exact (List.take_sublist_take_left (Nat.le_sub_one_of_lt hless)).subset hc

private theorem undamaged_of_stages {prepare : Session StitchOutput}
    {deliver : StitchOutput → Session Unit} {out : String} {intermediates : Bool}
    {final : String → Prop} {fault : CommandFault}
    (elsewhere : Elsewhere area w.files (prepare w).2.files)
    (writable : ∀ o w₁, prepare w = (.ok o, w₁) → ∀ name, final name → o.Writable name)
    (interrupted : ∀ o w₁, prepare w = (.ok o, w₁) → deliver o w₁ = (.error fault, w') →
      ∃ k, Interrupted out (o.written intermediates) fault w₁.files w'.files k)
    (h : (prepare >>= deliver) w = (.error fault, w')) :
    Undamaged area out intermediates final (prepare w) fault w.files w'.files := by
  rcases of_bind h with ⟨_, hprepare, -⟩ | ⟨o, w₁, hprepare, hdeliver⟩
  · rw [hprepare] at elsewhere ⊢
    refine ⟨fun _ _ => elsewhere.same, fun _ _ _ l hl _ => .inl (elsewhere.same l hl),
      fun _ name content _ hread hvisits _ => ?_, fun _ _ ho' => by cases ho'⟩
    rw [Files.read, Files.find_congr elsewhere.current fun m hm => elsewhere.same m (hvisits m hm)]
    exact hread
  · obtain ⟨k, hinterrupted⟩ := interrupted o w₁ hprepare hdeliver
    have hwritable := writable o w₁ hprepare
    rw [hprepare] at elsewhere ⊢
    have hgrown := w₁.files.grown_of_makeDirectories out
    refine ⟨fun _ he => (by cases he), fun hnot name hname l hl hlast => ?_,
      fun hnot name content hname hread hvisits hclear => ?_, fun hof o' ho' => ?_⟩
    · have hsame := hinterrupted.delivered.others l fun c hc child => by
        refine (hwritable name hname).name_ne (hinterrupted.sublist hnot c hc) ?_
        obtain ⟨d, -, rfl⟩ := child
        rw [List.getLast?_concat] at hlast
        exact Option.some.inj hlast
      rw [hsame, ← elsewhere.same l hl]
      exact hgrown.entry l
    · have hplain := (hwritable name hname).plain
      refine hinterrupted.delivered.read_eq hplain hread (hgrown.current.trans elsewhere.current)
        (fun m hm => ?_) fun hmeets => hclear o rfl (hmeets.mono (hinterrupted.sublist hnot))
      obtain ⟨r, hfind⟩ := Files.exists_find_of_read hread
      obtain ⟨e, he⟩ := Files.exists_entry_of_find hfind hm
      rw [he]
      exact hgrown.within m e ((elsewhere.same m (hvisits m hm)).trans he)
    · cases ho'
      have hdelivered := hinterrupted.delivered
      rwa [hinterrupted.all hof, List.take_length] at hdelivered

private theorem runBuild_of_plan_error {b : Board} {e : Error} (plan : b.plan = .error e)
    (artifacts : List String) (out : String) (source : ResetVectorSource)
    (tools : Option CompressionTools) (w : Workspace) :
    ∃ fault w', (∀ run, runBuild run b artifacts out source tools w = (.error fault, w')) ∧
      (fault = .build e ∨ fault.OfOutput) ∧ w'.files = w.files ∧ w'.events = w.events := by
  rcases hprint : Session.printLine b.announcement w with ⟨fault | _, w₁⟩ <;>
    obtain ⟨hfiles, hevents, hof⟩ := Session.prints_printLine _ _ _ _ hprint
  · exact ⟨fault, w₁, fun run => bind_eq_of_error hprint, .inr (hof fault rfl), hfiles, hevents⟩
  · refine ⟨.build e, w₁, fun run => ?_, .inl rfl, hfiles, hevents⟩
    have hassemble : b.assemble run artifacts source tools w₁ = (.error e, w₁) := by
      refine bind_eq_of_error ?_
      rw [Build.ofExcept_eq, plan]
    rw [runBuild, bind_eq_of_ok hprint]
    refine bind_eq_of_error ?_
    rw [Session.ofBuild_eq hassemble]
    rfl

/-- A failed command does no damage to an area, such as the output directory with all that is below
it. The area is avoided by the stages that assemble a reset vector, and spared by the tools: the
command prepares the same with tools that never change it.

* If a build or the stitching of a layout fails before it is to write, nothing in the area has
  changed.
* If it fails at all, but for printing, what is in the area under the name of the final container
  has not changed, except that a directory may have been made on the way of the output directory. It
  is read as before, if the way to it is in the area and does not meet the containers that are
  written before it.
* If it could not print what it has written, all of it is there.
* A build of a board that is rejected changes no files and starts no tool, whatever the tools
  are. -/
theorem undamaged_of_failure (runTool : ToolRunner) (w : Workspace) :
    (∀ b artifacts out source tools area sparing fault w',
      w.files.WellFormed → ToolRunner.Spares sparing area →
      (∀ directory toolPrefix, source = .assembled directory toolPrefix →
        (ResetVectorBuild.ofBoard b directory toolPrefix).Avoids sparing area w.files) →
      prepareBuild sparing b artifacts source tools w =
        prepareBuild runTool b artifacts source tools w →
      runBuild runTool b artifacts out source tools w = (.error fault, w') →
      Undamaged area out true (· = b.imageName)
        (prepareBuild runTool b artifacts source tools w) fault w.files w'.files) ∧
    (∀ boardDirectory layout artifacts out padByte blockSize goal tools area sparing fault w',
      w.files.WellFormed → ToolRunner.Spares sparing area →
      prepareStitch sparing layout artifacts padByte blockSize goal tools w =
        prepareStitch runTool layout artifacts padByte blockSize goal tools w →
      (Command.stitch layout artifacts out padByte blockSize goal tools).run runTool boardDirectory
        w = (.error fault, w') →
      Undamaged area out goal.intermediates
        (fun name => ∃ t, (LayoutTree.load layout w).1 = .ok t ∧ goal.finalName? t = some name)
        (prepareStitch runTool layout artifacts padByte blockSize goal tools w) fault
        w.files w'.files) ∧
    ∀ b artifacts out source tools e, b.plan = .error e →
      ∃ fault w', (∀ run, runBuild run b artifacts out source tools w = (.error fault, w')) ∧
        (fault = .build e ∨ fault.OfOutput) ∧ w'.files = w.files ∧ w'.events = w.events := by
  refine ⟨?_, ?_, fun b artifacts out source tools e plan =>
    runBuild_of_plan_error plan artifacts out source tools w⟩
  · intro b artifacts out source tools area sparing fault w' wellFormed spares avoids same h
    rw [runBuild_eq] at h
    have hwritable : ∀ o w₁, prepareBuild runTool b artifacts source tools w = (.ok o, w₁) →
        o.Writable b.imageName := by
      intro o w₁ hprepare
      obtain ⟨_, _, -, hassemble⟩ := of_bind_ok hprepare
      exact Board.writable_of_assemble (Session.of_ofBuild_ok hassemble)
    -- The given tools prepare the same as the sparing ones do.
    refine undamaged_of_stages ?_ (fun o w₁ hprepare name hname => ?_)
      (fun o w₁ hprepare hdeliver => ?_) h
    · rw [← same]
      exact elsewhere_of_prepareBuild spares wellFormed b artifacts source tools avoids
    · exact hname ▸ hwritable o w₁ hprepare
    · exact interrupted_of_deliverBuild (hwritable o w₁ hprepare) hdeliver
  · intro boardDirectory layout artifacts out padByte blockSize goal tools area sparing fault w'
      wellFormed spares same h
    rw [run_stitch] at h
    refine undamaged_of_stages ?_ (fun o w₁ hprepare name hname => ?_)
      (fun o w₁ hprepare hdeliver => ?_) h
    · rw [← same]
      exact elsewhere_of_prepareStitch spares wellFormed layout artifacts padByte blockSize goal
        tools
    · obtain ⟨t, hload, hfinal⟩ := hname
      exact writable_of_prepareStitch hprepare hload hfinal
    · obtain ⟨t, final, hload, hfinal⟩ := exists_finalName_of_prepareStitch hprepare
      refine interrupted_of_deliverStitch (writable_of_prepareStitch hprepare hload hfinal) ?_
        hdeliver
      rintro name rfl
      exact single_of_prepareStitch hprepare

def failingTools : ToolRunner := fun program _ _ => throw (.toolFailure program (.exited 1))

private theorem spares_failingTools (area : Location → Prop) : failingTools.Spares area :=
  fun _ _ _ _ wellFormed => .refl wellFormed

private theorem exists_error_of_failingTools (b : Board) (artifacts : List String)
    (directory toolPrefix : String) (tools : Option CompressionTools) (w : Workspace) :
    ∃ fault, (prepareBuild failingTools b artifacts (.assembled directory toolPrefix) tools w).1 =
      .error fault := by
  rcases hrun : prepareBuild failingTools b artifacts (.assembled directory toolPrefix) tools w
    with ⟨fault | output, w'⟩
  · exact ⟨fault, rfl⟩
  · -- If it were, the first program would have succeeded.
    exfalso
    obtain ⟨_, _, -, hassemble⟩ := of_bind_ok hrun
    obtain ⟨t, _, -, hrest⟩ := of_bind_ok (Session.of_ofBuild_ok hassemble)
    obtain ⟨store, _, hprovide, -⟩ := of_bind_ok hrest
    obtain ⟨blob, _, hassembled, -⟩ := of_bind_ok hprovide
    obtain ⟨_, _, -, hstale⟩ := of_bind_ok hassembled
    obtain ⟨_, _, -, htools⟩ := of_bind_ok hstale
    obtain ⟨_, _, hcommands, -⟩ := of_bind_ok htools
    obtain ⟨_, _, -, hcommand⟩ := of_bind_ok hcommands
    cases hcommand

/-- The directory of a reset vector's source, beside an image in an output directory. -/
def sampleFiles : Files where
  entries := [(["vtf"], .directory), (["out"], .directory), (["out", "IMAGE"], .file [1, 2])]
  current := []

private theorem wellFormed_sampleFiles : sampleFiles.WellFormed :=
  Files.wellFormed_of_entries (by decide) rfl

private theorem noLinks_sampleFiles (m : Location) (path : String) :
    sampleFiles.entryAt? m ≠ some (.link path) := by
  intro h
  rw [Files.entryAt?] at h
  split at h
  · cases h
  · obtain ⟨before, after, heq, -⟩ := List.lookup_eq_some_iff.1 h
    have hmem : (m, Entry.link path) ∈ sampleFiles.entries := by
      rw [heq]
      exact List.mem_append_right before List.mem_cons_self
    simp [sampleFiles] at hmem

private theorem apart_sampleFiles {path : String} (before : List String) (name : String)
    (split : Path.splitLast path = (before, .name name false))
    (named : ∀ part ∈ before, Files.IsName part) (relative : Path.isAbsolute path = false)
    (apart : ¬ ["out"] <+: before ++ [name]) (l : Location)
    (site : sampleFiles.Site true path l) : ¬ ["out"] <+: l := by
  rw [site.eq_of_noLinks noLinks_sampleFiles split named, Files.startOf, relative]
  exact apart

private theorem avoids_sampleFiles :
    (ResetVectorBuild.ofBoard Board.sample "vtf" "").Avoids failingTools (["out"] <+: ·)
      sampleFiles where
  directories := by
    intro path l honWay hsite hl
    have hresult :
        (ResetVectorBuild.ofBoard Board.sample "vtf" "").resultDirectory = "vtf/Bin" := by decide
    rw [hresult] at honWay
    rcases honWay.eq_or_onWay (by decide : _ = some "vtf") with rfl | honWay
    · exact absurd hl (apart_sampleFiles ["vtf"] "Bin" (by decide) (by decide)
        (by decide) (by decide) l hsite)
    rcases honWay.eq_or_onWay (by decide : _ = some "") with rfl | honWay
    · exact absurd hl (apart_sampleFiles [] "vtf" (by decide) (by decide)
        (by decide) (by decide) l hsite)
    · obtain rfl := honWay.eq_of_parent?_eq_none (by decide)
      obtain ⟨before, name, slash, d, hsplit, -⟩ := hsite
      cases hsplit
  output := apart_sampleFiles ["vtf", "Bin"] "ResetVector.aarch64.raw" (by decide)
    (by decide) (by decide) (by decide)
  object := apart_sampleFiles ["vtf", "Bin"] "ResetVector.o" (by decide)
    (by decide) (by decide) (by decide)
  tools _ _ _ _ _ apart := apart

def largeBoard : Board := { Board.sample with flashSize := 32 }

private theorem plan_largeBoard :
    largeBoard.plan = .error (largeBoard.error (.areasMismatch 33 32)) := by
  rfl

def sourceWorkspace : Workspace := { sampleWorkspace with files := sampleFiles }

private theorem load_sourceWorkspace : LayoutTree.load "layout.toml" sourceWorkspace =
    (.error (.file "layout.toml" .notFound), sourceWorkspace) := by
  have htarget : sampleFiles.targetFrom sampleFiles.current "layout.toml" =
      .ok ⟨[], .name "layout.toml" false⟩ := Files.targetFrom_of_leads (by decide) .done
  have hreach : sampleFiles.reach "layout.toml" = .ok ⟨[], .name "layout.toml" false⟩ :=
    Files.reach_of_targetFrom (by decide) htarget (noLinks_sampleFiles _)
  have hread : sampleFiles.readText "layout.toml" = .error .notFound := by
    rw [Files.readText, Files.read, Files.find, hreach]
    rfl
  refine bind_eq_of_error ?_
  rw [Build.look_eq, sourceWorkspace, hread]
  rfl

/-- With tools that fail at once, a build keeps the image that is there, and so does a layout that
cannot be read. A board that is larger than the flash starts no tool. -/
theorem undamaged_of_failure_sample :
    (∃ fault w', runBuild failingTools Board.sample [] "out" (.assembled "vtf" "") none
        sourceWorkspace = (.error fault, w') ∧
      Undamaged (["out"] <+: ·) "out" true (· = "IMAGE") (prepareBuild failingTools Board.sample []
        (.assembled "vtf" "") none sourceWorkspace) fault sampleFiles w'.files) ∧
    (∃ fault w', (Command.stitch "layout.toml" [] "out" none none (.container "IMAGE") none).run
        failingTools none sourceWorkspace = (.error fault, w') ∧
      Undamaged (["out"] <+: ·) "out" false (fun name => ∃ t,
          (LayoutTree.load "layout.toml" sourceWorkspace).1 = .ok t ∧
            (StitchGoal.container "IMAGE").finalName? t = some name)
        (prepareStitch failingTools "layout.toml" [] none none (.container "IMAGE") none
          sourceWorkspace) fault sampleFiles w'.files) ∧
    ∃ fault w', runBuild failingTools largeBoard [] "out" (.assembled "vtf" "") none
        sourceWorkspace = (.error fault, w') ∧
      (fault = .build (largeBoard.error (.areasMismatch 33 32)) ∨ fault.OfOutput) ∧
        w'.files = sampleFiles ∧ w'.events = [] := by
  obtain ⟨hbuild, hstitch, hplan⟩ := undamaged_of_failure failingTools sourceWorkspace
  have hspares := spares_failingTools (["out"] <+: ·)
  refine ⟨?_, ?_, ?_⟩
  · obtain ⟨fault, hfault⟩ := exists_error_of_failingTools Board.sample [] "vtf" "" none
      sourceWorkspace
    have hrun : runBuild failingTools Board.sample [] "out" (.assembled "vtf" "") none
        sourceWorkspace = (.error fault, (prepareBuild failingTools Board.sample []
          (.assembled "vtf" "") none sourceWorkspace).2) := by
      rw [runBuild_eq]
      exact bind_eq_of_error (Prod.ext hfault rfl)
    refine ⟨fault, _, hrun, ?_⟩
    refine hbuild _ _ _ _ _ _ failingTools fault _ wellFormed_sampleFiles hspares ?_ rfl hrun
    rintro _ _ ⟨⟩
    exact avoids_sampleFiles
  · have hrun : (Command.stitch "layout.toml" [] "out" none none (.container "IMAGE") none).run
        failingTools none sourceWorkspace =
          (.error (.build (.file "layout.toml" .notFound)), sourceWorkspace) := by
      rw [run_stitch]
      exact bind_eq_of_error (bind_eq_of_error (Session.ofBuild_eq load_sourceWorkspace))
    exact ⟨_, _, hrun, hstitch _ _ _ _ _ _ _ _ _ failingTools _ _ wellFormed_sampleFiles
      hspares rfl hrun⟩
  · obtain ⟨fault, w', hrun, hcause, hfiles, hevents⟩ :=
      hplan largeBoard [] "out" (.assembled "vtf" "") none _ plan_largeBoard
    exact ⟨fault, w', hrun failingTools, hcause, hfiles, hevents⟩

def sourceFiles : Files where
  entries := [(["vtf"], .directory)]
  current := []

private theorem isDirectory_of_makeDirectories_sourceFiles :
    (sourceFiles.makeDirectories "out/../vtf/Bin").2.entryAt? ["out"] = some .directory := by
  have hout : sourceFiles.makeDirectory "out" = .ok (sourceFiles.put ["out"] .directory) :=
    Files.makeDirectory_of_leads (by decide)
      (by decide : Path.splitLast "out" = ([], .name "out" false)) .done (by decide) rfl rfl
  have hfirst : (sourceFiles.makeDirectories "out").2.entryAt? ["out"] = some .directory := by
    rw [Files.makeDirectories_of_makeDirectory (by decide) hout]
    rfl
  -- None of the longer paths leads anywhere before `out` is there.
  have hup : sourceFiles.makeDirectory "out/.." = .error .notFound :=
    Files.makeDirectory_of_missing (by decide)
      (by decide : Path.splitLast "out/.." = (["out"], .up)) (by decide) (by decide) rfl
  have hsource : sourceFiles.makeDirectory "out/../vtf" = .error .notFound :=
    Files.makeDirectory_of_missing (by decide)
      (by decide : Path.splitLast "out/../vtf" = (["out", ".."], .name "vtf" false)) (by decide)
      (by decide) rfl
  have hresult : sourceFiles.makeDirectory "out/../vtf/Bin" = .error .notFound :=
    Files.makeDirectory_of_missing (by decide)
      (by decide : Path.splitLast "out/../vtf/Bin" = (["out", "..", "vtf"], .name "Bin" false))
      (by decide) (by decide) rfl
  have hwithin := Files.within_makeDirectories (by decide) hup (by decide : _ = some "out")
  have hwithin' := Files.within_makeDirectories (by decide) hsource (by decide : _ = some "out/..")
  have hwithin'' :=
    Files.within_makeDirectories (by decide) hresult (by decide : _ = some "out/../vtf")
  exact hwithin'' _ _ (hwithin' _ _ (hwithin _ _ hfirst))

private theorem sends_run_sourceFiles (allocated : UInt32) :
    Sends (· = sourceFiles)
      ((ResetVectorBuild.ofBoard Board.sample "out/../vtf" "").run failingTools allocated)
      fun fs => fs.entryAt? ["out"] = some .directory := by
  have hresult : (ResetVectorBuild.ofBoard Board.sample "out/../vtf" "").resultDirectory =
      "out/../vtf/Bin" := by decide
  have hmade : Sends (· = sourceFiles) (Build.makeDirectories "out/../vtf/Bin")
      fun fs => fs.entryAt? ["out"] = some .directory := by
    rintro w hw
    rw [Build.makeDirectories_eq, hw]
    exact isDirectory_of_makeDirectories_sourceFiles
  have hkept : ∀ path, path.endsWith "/" = false → ∀ fs fs' : Files,
      fs.entryAt? ["out"] = some .directory → fs.removeFile path = .ok fs' →
        fs'.entryAt? ["out"] = some .directory :=
    fun path ending fs fs' hfs h => Files.isDirectory_of_removeFile ending h hfs
  refine ResetVectorBuild.sends_run allocated (hresult ▸ hmade)
    (ResetVectorBuild.sends_removeStale (hkept _ (ResetVectorBuild.endsWith_outputPath _))
      fun _ => id) (ResetVectorBuild.sends_runEach (fun _ _ _ _ hw => hw) _ _)
    (ResetVectorBuild.sends_removeQuietly (hkept _ (ResetVectorBuild.endsWith_objectPath _))
      fun _ => id) (fun _ => id) fun _ => id

private theorem runBuild_through_output :
    let w : Workspace := { sampleWorkspace with files := sourceFiles }
    let call := runBuild failingTools Board.sample [] "out" (.assembled "out/../vtf" "") none w
    let preparation :=
      prepareBuild failingTools Board.sample [] (.assembled "out/../vtf" "") none w
    sourceFiles.WellFormed ∧ failingTools.Spares (["out"] <+: ·) ∧
      sourceFiles.Site true "out/../vtf" ["vtf"] ∧
      (∃ fault, preparation.1 = .error fault ∧ call.1 = .error fault) ∧
      sourceFiles.entryAt? ["out"] = none ∧ call.2.files.entryAt? ["out"] = some .directory := by
  intro w call preparation
  have hpreparation : preparation.2.files.entryAt? ["out"] = some .directory := by
    have hplan : ∀ w, Build.ofExcept Board.sample.plan w = (.ok Board.sampleLayout, w) := by
      intro w
      rw [Build.ofExcept_eq, Board.plan_sample]
    have hassemble : Sends (· = sourceFiles)
        (Board.sample.assemble failingTools [] (.assembled "out/../vtf" "") none)
        fun fs => fs.entryAt? ["out"] = some .directory := by
      intro w hw
      rw [Board.assemble, bind_eq_of_ok (hplan w)]
      refine Sends.andKeeps (Sends.andKeeps (sends_run_sourceFiles _) fun _ => ?_)
        (fun store => sends_stitch (keeps_builtIn _) _ _ store) w hw
      exact .still fun _ => rfl
    exact hassemble.ofBuild { w with printed := _ } rfl
  obtain ⟨fault, hfault⟩ :=
    exists_error_of_failingTools Board.sample [] "out/../vtf" "" none w
  have hcall : call = (.error fault, preparation.2) := by
    refine (congrFun (runBuild_eq failingTools Board.sample [] "out" _ none) w).trans ?_
    exact bind_eq_of_error (Prod.ext hfault rfl)
  refine ⟨Files.wellFormed_of_entries (by decide) rfl, spares_failingTools _, ?_,
    ⟨fault, hfault, by rw [hcall]⟩, rfl, by rw [hcall]; exact hpreparation⟩
  exact ⟨["out", ".."], "vtf", false, [], by decide,
    .enter (by decide) (by decide) (.inr ⟨rfl, rfl⟩) (.up .done), rfl⟩

def blankTree : LayoutTree where
  name := none
  blockSize := 4
  padByte := some 0xFF
  containers := ["FIRST", "SECOND", "IMAGE"].map fun name =>
    ⟨name, [{ Region.ofArtifact "a" 4 with policy := .ignore }]⟩
  distinct := by decide

def blankOutput : StitchOutput where
  containers := [("FIRST", []), ("SECOND", []), ("IMAGE", [])]

def blankFiles (others : List (Location × Entry)) : Files where
  entries := (["layout.toml"], .file (Bytes.ofText blankTree.document)) :: others
  current := []

def stitchBlank (out : String) (intermediates : Bool) (fs : Files) :
    Except CommandFault Unit × Workspace :=
  (Command.stitch "layout.toml" [] out none none (.image intermediates) none).run failingTools none
    { sampleWorkspace with files := fs }

section

variable {fs : Files}

/-- A layout is loaded from a file with its document, if the document reads as it. -/
private theorem load_of_document {t : LayoutTree} {text : String}
    (read : LayoutTree.read text = .ok t) (current : fs.current = [])
    (layout : fs.entryAt? ["layout.toml"] = some (.file (Bytes.ofText text))) :
    LayoutTree.load "layout.toml" { sampleWorkspace with files := fs } =
      (.ok t, { sampleWorkspace with files := fs }) := by
  have hfind : fs.find "layout.toml" = .ok (["layout.toml"], .file (Bytes.ofText text)) := by
    refine Files.find_of_leads (d := []) (by decide)
      (by decide : Path.splitLast "layout.toml" = ([], .name "layout.toml" false)) ?_ (by decide)
      layout (by simp)
    rw [current]
    exact .done
  have hread : fs.readText "layout.toml" = .ok text := by
    simp only [Files.readText, Files.read, hfind, Bytes.toText?_ofText]
  have hlook : Build.look "layout.toml" (·.readText "layout.toml")
      { sampleWorkspace with files := fs } = (.ok text, { sampleWorkspace with files := fs }) := by
    rw [Build.look_eq]
    simp only [hread]
    rfl
  rw [LayoutTree.load, bind_eq_of_ok hlook, Build.ofExcept_eq, read]

private theorem read_blankTree : LayoutTree.read blankTree.document = .ok blankTree :=
  LayoutTree.read_document_of_plain (by decide) (by decide) (by decide) (by decide)

theorem stitchBlank_eq (out : String) (intermediates : Bool) (current : fs.current = [])
    (layout : fs.entryAt? ["layout.toml"] = some (.file (Bytes.ofText blankTree.document))) :
    ∃ w, w.files = fs ∧ stitchBlank out intermediates fs =
      deliverStitch out (.image intermediates) blankOutput w := by
  let job : StitchJob := ⟨blankTree, .ofDirectories [], Compressor.builtIn, 0xFF⟩
  have hpreflight : job.preflight fs = .ok () := by
    have hvalid : blankTree.validate = .ok () :=
      LayoutTree.validate_eq_ok_iff_checks.2 ⟨by decide, by decide, rfl, by cbv⟩
    simp only [job, StitchJob.preflight, hvalid]
    rfl
  have hstitch : (Stitching.once job.stitchAll { sampleWorkspace with files := fs }).1 =
      .ok blankOutput.containers := by cbv
  have hfiles :
      (Stitching.once job.stitchAll { sampleWorkspace with files := fs }).2.files = fs := by cbv
  have hgoal : stitchGoal job (.image intermediates) { sampleWorkspace with files := fs } =
      (.ok blankOutput, (Stitching.once job.stitchAll { sampleWorkspace with files := fs }).2) := by
    have hlook : Session.files { sampleWorkspace with files := fs } =
        (.ok fs, { sampleWorkspace with files := fs }) := rfl
    have hchecked : Session.ofExcept (job.preflight fs) { sampleWorkspace with files := fs } =
        (.ok (), { sampleWorkspace with files := fs }) := by
      rw [hpreflight]
      rfl
    rw [stitchGoal, bind_eq_of_ok hlook, bind_eq_of_ok hchecked,
      bind_eq_of_ok (Session.ofBuild_eq (Prod.ext hstitch rfl))]
    rfl
  refine ⟨_, hfiles, ?_⟩
  rw [stitchBlank, run_stitch, prepareStitch]
  refine bind_eq_of_ok ?_
  rw [bind_eq_of_ok (Session.ofBuild_eq (load_of_document read_blankTree current layout))]
  exact hgoal

end

private theorem named_blankOutput : StitchOutput.PlainlyNamed blankOutput.containers where
  plain c hc := by
    have hnames : ∀ c ∈ blankOutput.containers, isFileName c.1 = true := by decide
    exact isFileName_iff.1 (hnames c hc)
  distinct := by decide

private theorem stitch_through_final :
    ∃ fault, ¬ fault.OfOutput ∧ (stitchBlank "X/IMAGE/.." false (blankFiles [])).1 = .error fault ∧
      (blankFiles []).entryAt? ["X", "IMAGE"] = none ∧
      (stitchBlank "X/IMAGE/.." false (blankFiles [])).2.files.entryAt? ["X", "IMAGE"] =
        some .directory := by
  obtain ⟨w, hw, hstitch⟩ :=
    stitchBlank_eq "X/IMAGE/.." false (rfl : (blankFiles []).current = []) rfl
  have hfirst : (blankFiles []).makeDirectory "X" = .ok ((blankFiles []).put ["X"] .directory) :=
    Files.makeDirectory_of_leads (by decide)
      (by decide : Path.splitLast "X" = ([], .name "X" false)) .done (by decide) rfl rfl
  have hmissing : (blankFiles []).makeDirectory "X/IMAGE" = .error .notFound :=
    Files.makeDirectory_of_missing (by decide)
      (by decide : Path.splitLast "X/IMAGE" = (["X"], .name "IMAGE" false)) (by decide) (by decide)
      rfl
  have hmissing' : (blankFiles []).makeDirectory "X/IMAGE/.." = .error .notFound :=
    Files.makeDirectory_of_missing (by decide)
      (by decide : Path.splitLast "X/IMAGE/.." = (["X", "IMAGE"], .up)) (by decide) (by decide) rfl
  have hsecond : ((blankFiles []).put ["X"] .directory).makeDirectory "X/IMAGE" =
      .ok (((blankFiles []).put ["X"] .directory).put ["X", "IMAGE"] .directory) :=
    Files.makeDirectory_of_leads (by decide)
      (by decide : Path.splitLast "X/IMAGE" = (["X"], .name "IMAGE" false))
      (.enter (by decide) (by decide) (.inl rfl) .done) (by decide) rfl rfl
  have hmade : (blankFiles []).makeDirectories "X/IMAGE" = (.ok (), _) :=
    Files.makeDirectories_of_missing (by decide) hmissing (by decide : _ = some "X")
      (Files.makeDirectories_of_makeDirectory (by decide) hfirst) hsecond
  have hwithin :=
    Files.within_makeDirectories (by decide) hmissing' (by decide : _ = some "X/IMAGE")
  rw [hmade] at hwithin
  have houter := hwithin ["X"] .directory rfl
  have hinner := hwithin ["X", "IMAGE"] .directory rfl
  have hcurrent := ((blankFiles []).grown_of_makeDirectories "X/IMAGE/..").current
  have hleads : ((blankFiles []).makeDirectories "X/IMAGE/..").2.LeadsTo "X/IMAGE/.." ["X"] := by
    rw [Files.LeadsTo, hcurrent, (by decide : Path.parts "X/IMAGE/.." = ["X", "IMAGE", ".."])]
    refine Files.Leads.follow (.enter (by decide) (by decide) (.inl houter) ?_)
    exact .enter (by decide) (by decide) (.inl hinner) (.up .done)
  rcases hwrite : blankOutput.write "X/IMAGE/.." false w with ⟨e | paths, w'⟩ <;>
    obtain ⟨k, hdelivered, hall, hless⟩ :=
      StitchOutput.delivered_of_write (by decide) named_blankOutput hwrite <;>
    rw [hw] at hdelivered
  · obtain rfl : k = 0 := Nat.lt_one_iff.1 (hless e rfl)
    have hcall : stitchBlank "X/IMAGE/.." false (blankFiles []) = (.error (.build e), w') :=
      hstitch.trans (bind_eq_of_error (Session.ofBuild_eq hwrite))
    refine ⟨_, CommandFault.not_ofOutput_build e, by rw [hcall], rfl, ?_⟩
    rw [hcall, hdelivered.others _ (by simp)]
    exact hinner
  · -- The final container cannot have been put in the place of the directory.
    obtain ⟨rfl, -⟩ := hall paths rfl
    exact absurd rfl (hdelivered.name_ne hleads hinner ("IMAGE", []) (by decide))

/-- An output directory on a machine that refuses to print. -/
def muteFiles : Files :=
  { blankFiles [(["out"], .directory), (["out", "IMAGE"], .file [1, 1, 1])] with
    machine := {
      temporaryName := Machine.sound.temporaryName
      refusal? := fun _ request =>
        match request with
        | .print _ _ => some (.described "No space left on device")
        | _ => none } }

private theorem stitch_without_output :
    ∃ fault, fault.OfOutput ∧ (stitchBlank "out" false muteFiles).1 = .error fault ∧
      muteFiles.entryAt? ["out", "IMAGE"] = some (.file [1, 1, 1]) ∧
      (stitchBlank "out" false muteFiles).2.files.entryAt? ["out", "IMAGE"] = some (.file []) := by
  obtain ⟨w, hw, hstitch⟩ := stitchBlank_eq "out" false (rfl : muteFiles.current = []) rfl
  have hleads : muteFiles.LeadsTo "out" ["out"] := StitchOutput.leadsTo_out rfl rfl
  have hadmits : muteFiles.Admits "out" "IMAGE" ["out", "IMAGE"] :=
    ⟨⟨_, hleads, rfl⟩, by decide, by decide, by decide⟩
  have hprepares : muteFiles.Prepares (Files.preparation (Path.join "out" "IMAGE")) ["out"] :=
    ⟨by decide, by decide +kernel, by decide +kernel, by decide +kernel⟩
  have hpermits : muteFiles.machine.Permits := by
    intro entries request hchange
    cases request with
    | print before more => exact absurd rfl (hchange before more)
    | _ => rfl
  have hwrite : blankOutput.write "out" false w =
      (.ok ["out/IMAGE"], { w with files := muteFiles.put ["out", "IMAGE"] (.file []) }) := by
    rw [← hw] at hleads hadmits hprepares hpermits ⊢
    exact StitchOutput.write_of_admits (isFileName_iff.1 (by decide)) rfl
      (StitchOutput.find_out (hw ▸ rfl) (hw ▸ rfl)) hleads hadmits hprepares hpermits
  have hprint : Session.printLines ["Wrote out/IMAGE"]
      { w with files := muteFiles.put ["out", "IMAGE"] (.file []) } =
        (.error (.output (.described "No space left on device")), _) := bind_eq_of_error rfl
  have hcall : stitchBlank "out" false muteFiles = (.error _, _) :=
    hstitch.trans ((bind_eq_of_ok (Session.ofBuild_eq hwrite)).trans hprint)
  exact ⟨_, ⟨_, rfl⟩, by rw [hcall], rfl, by rw [hcall]; rfl⟩

/-- An output directory in which the final container is a link to the first one, and a directory is
in the place of the second one. -/
def linkFiles : Files := blankFiles [
  (["out"], .directory), (["out", "FIRST"], .file [1, 1, 1]), (["out", "SECOND"], .directory),
  (["out", "IMAGE"], .link "FIRST")]

private theorem read_link {fs : Files} {content : Bytes} (current : fs.current = [])
    (directory : fs.entryAt? ["out"] = some .directory)
    (link : fs.entryAt? ["out", "IMAGE"] = some (.link "FIRST"))
    (file : fs.entryAt? ["out", "FIRST"] = some (.file content)) :
    fs.read "out/IMAGE" = .ok content := by
  have hover : fs.targetOver Files.linkLimit fs.current "out/IMAGE" =
      .ok (⟨["out"], .name "IMAGE" false⟩, 39 + 1) := by
    have hadvance : fs.advance Files.linkLimit [] ["out"] = .ok (["out"], 40) := by
      rw [Files.advance_name (by decide), Files.inDirectory_of_size _ _ (by decide),
        List.nil_append, directory]
      exact Files.advance.eq_1 ..
    rw [Files.targetOver_eq
      (by decide : Path.splitLast "out/IMAGE" = (["out"], .name "IMAGE" false)), current]
    exact congrArg (Except.map _) hadvance
  have hover' : fs.targetOver 39 ["out"] "FIRST" = .ok (⟨["out"], .name "FIRST" false⟩, 39) := by
    have hadvance : fs.advance 39 ["out"] [] = .ok (["out"], 39) := Files.advance.eq_1 ..
    rw [Files.targetOver_eq (by decide : Path.splitLast "FIRST" = ([], .name "FIRST" false))]
    exact congrArg (Except.map _) hadvance
  have hreach' : fs.reachFrom ["out"] "FIRST" 39 = .ok ⟨["out"], .name "FIRST" false⟩ := by
    refine Files.reachFrom_of_targetOver hover' fun d s slash way heq => ?_
    cases heq
    rw [List.singleton_append, file]
    simp
  have hreach : fs.reach "out/IMAGE" = .ok ⟨["out"], .name "FIRST" false⟩ := by
    rw [Files.reach, (by decide : Files.checkPath "out/IMAGE" = .ok ())]
    dsimp only
    rw [Files.reachFrom_of_link hover link, hreach']
    rfl
  have hfind : fs.find "out/IMAGE" = .ok (["out", "FIRST"], .file content) := by
    rw [Files.find, hreach]
    exact Files.entryOf_name_eq_ok_iff.2 ⟨by decide, rfl, file, by simp⟩
  rw [Files.read, hfind]

private theorem stitch_over_link :
    ∃ fault, ¬ fault.OfOutput ∧ (stitchBlank "out" true linkFiles).1 = .error fault ∧
      linkFiles.read "out/IMAGE" = .ok [1, 1, 1] ∧
      (stitchBlank "out" true linkFiles).2.files.read "out/IMAGE" = .ok [] := by
  obtain ⟨w, hw, hstitch⟩ := stitchBlank_eq "out" true (rfl : linkFiles.current = []) rfl
  have hleads : linkFiles.LeadsTo "out" ["out"] := StitchOutput.leadsTo_out rfl rfl
  have hadmits : linkFiles.Admits "out" "FIRST" ["out", "FIRST"] :=
    ⟨⟨_, hleads, rfl⟩, by decide, by decide, by decide⟩
  have hprepares : linkFiles.Prepares (Files.preparation (Path.join "out" "FIRST")) ["out"] :=
    ⟨by decide, by decide +kernel, by decide +kernel, by decide +kernel⟩
  have hmake : Build.makeDirectories "out" w = (.ok (), w) :=
    Build.makeDirectories_of_find (StitchOutput.find_out (hw ▸ rfl) (hw ▸ rfl))
  have hfirst : Build.writeWhole (Path.join "out" "FIRST") [] w =
      (.ok (), { w with files := linkFiles.put ["out", "FIRST"] (.file []) }) := by
    rw [← hw] at hleads hadmits hprepares ⊢
    exact Build.writeWhole_of_admits (isFileName_iff.1 (by decide)) hleads hadmits hprepares
      (hw ▸ fun _ _ _ => rfl)
  have hleads' : (linkFiles.put ["out", "FIRST"] (.file [])).LeadsTo "out" ["out"] :=
    StitchOutput.leadsTo_out rfl rfl
  obtain ⟨failure, hwhole⟩ : ∃ failure, (linkFiles.put ["out", "FIRST"] (.file [])).writeWhole
      (Path.join "out" "SECOND") [] =
        (.error failure, linkFiles.put ["out", "FIRST"] (.file [])) :=
    Files.exists_failure_of_isDirectory (isFileName_iff.1 (by decide)) hleads' rfl
  have hsecond : Build.writeWhole (Path.join "out" "SECOND") []
      { w with files := linkFiles.put ["out", "FIRST"] (.file []) } =
        (.error (.file failure.1 failure.2),
          { w with files := linkFiles.put ["out", "FIRST"] (.file []) }) := by
    rw [Build.writeWhole_eq]
    simp only [hwhole]
    rfl
  have hwrite : blankOutput.write "out" true w = (.error (.file failure.1 failure.2),
      { w with files := linkFiles.put ["out", "FIRST"] (.file []) }) := by
    rw [StitchOutput.write, if_neg (by decide), bind_eq_of_ok hmake]
    refine (bind_eq_of_ok hfirst).trans (bind_eq_of_error ?_)
    exact bind_eq_of_error hsecond
  have hcall : stitchBlank "out" true linkFiles =
      (.error (.build (.file failure.1 failure.2)), _) :=
    hstitch.trans (bind_eq_of_error (Session.ofBuild_eq hwrite))
  refine ⟨_, CommandFault.not_ofOutput_build _, by rw [hcall], read_link rfl rfl rfl rfl, ?_⟩
  rw [hcall]
  exact read_link rfl rfl rfl rfl

/-- What a command that fails may still change: it makes the output directory if its source is
reached through that, replaces what a final container that is a link leads to, makes a directory in
the place of the final container if the path of the output directory goes through it, and writes all
if it only cannot print. -/
theorem changes_of_failure :
    (let w : Workspace := { sampleWorkspace with files := sourceFiles }
      let call := runBuild failingTools Board.sample [] "out" (.assembled "out/../vtf" "") none w
      (∃ fault, (prepareBuild failingTools Board.sample [] (.assembled "out/../vtf" "") none w).1 =
          .error fault ∧ call.1 = .error fault) ∧
        sourceFiles.entryAt? ["out"] = none ∧
        call.2.files.entryAt? ["out"] = some .directory) ∧
    (∃ fault, ¬ fault.OfOutput ∧ (stitchBlank "out" true linkFiles).1 = .error fault ∧
      linkFiles.read "out/IMAGE" = .ok [1, 1, 1] ∧
      (stitchBlank "out" true linkFiles).2.files.read "out/IMAGE" = .ok []) ∧
    (∃ fault, ¬ fault.OfOutput ∧ (stitchBlank "X/IMAGE/.." false (blankFiles [])).1 = .error fault ∧
      (blankFiles []).entryAt? ["X", "IMAGE"] = none ∧
      (stitchBlank "X/IMAGE/.." false (blankFiles [])).2.files.entryAt? ["X", "IMAGE"] =
        some .directory) ∧
    ∃ fault, fault.OfOutput ∧ (stitchBlank "out" false muteFiles).1 = .error fault ∧
      muteFiles.entryAt? ["out", "IMAGE"] = some (.file [1, 1, 1]) ∧
      (stitchBlank "out" false muteFiles).2.files.entryAt? ["out", "IMAGE"] = some (.file []) := by
  obtain ⟨-, -, -, hfails, hmissing, hmade⟩ := runBuild_through_output
  exact ⟨⟨hfails, hmissing, hmade⟩, stitch_over_link, stitch_through_final, stitch_without_output⟩

end Command
end FlashImage
