import FlashImage.Proofs.Command.Tools
import FlashImage.Proofs.Stitch.Preflight
import FlashImage.Proofs.Stitch.Writing

/-!
The two stages of a command that builds containers.

A command first prepares containers: it plans, runs tools and stitches. Then it delivers them: it
makes the output directory, writes the containers one after another, each one in a whole and the
final one last, and prints what it has written. Preparing changes nothing in an area that the tools
spare. Delivering that fails before it prints has not come to the final container.
-/

set_option autoImplicit false
set_option relaxedAutoImplicit false

namespace FlashImage

open Files (Elsewhere)

/-- Whether the containers that come before the final one are written, too. -/
def StitchGoal.intermediates : StitchGoal → Bool
  | .image intermediates => intermediates
  | .container _ => false

def StitchGoal.finalName? (t : LayoutTree) : StitchGoal → Option String
  | .image _ => t.final?.map (·.name)
  | .container name => some name

namespace Command

def prepareBuild (run : ToolRunner) (b : Board) (artifacts : List String)
    (source : ResetVectorSource) (tools : Option CompressionTools) : Session StitchOutput := do
  Session.printLine b.announcement
  Session.ofBuild (b.assemble run artifacts source tools)

def deliverBuild (b : Board) (out : String) (output : StitchOutput) : Session Unit := do
  let paths ← Session.ofBuild (output.write out true)
  Session.printLines (paths.map ("  " ++ ·))
  match output.final? with
  | some (_, image) => Session.printLine (imageSummary b.imageName image.length)
  | none => return ()

def stitchGoal (job : StitchJob) : StitchGoal → Session StitchOutput
  | .container name => do
    let fs ← Session.files
    Session.ofExcept (job.preflightFor fs name)
    let data ← Session.ofBuild (Stitching.once (job.stitch name))
    return ⟨[(name, data)]⟩
  | .image _ => do
    let fs ← Session.files
    Session.ofExcept (job.preflight fs)
    return ⟨← Session.ofBuild (Stitching.once job.stitchAll)⟩

def prepareStitch (run : ToolRunner) (layout : String) (artifacts : List String)
    (padByte : Option UInt8) (blockSize : Option UInt32) (goal : StitchGoal)
    (tools : Option CompressionTools) : Session StitchOutput := do
  let t ← Session.ofBuild (LayoutTree.load layout)
  let job ← stitchJob run t artifacts padByte blockSize tools
  stitchGoal job goal

def deliverContainer (out name : String) (data : Bytes) : Session Unit := do
  Session.makeDirectories out
  let path := Path.join out name
  Session.ofBuild (Build.writeWhole path data)
  Session.printLine ("Wrote " ++ path ++ " (" ++ toString data.length ++ " bytes)")

def deliverStitch (out : String) (goal : StitchGoal) (output : StitchOutput) : Session Unit :=
  match goal, output.final? with
  | .container _, some (name, data) => deliverContainer out name data
  | .container _, none => return ()
  | .image intermediates, _ => do
    let paths ← Session.ofBuild (output.write out intermediates)
    Session.printLines (paths.map ("Wrote " ++ ·))

theorem runBuild_eq (run : ToolRunner) (b : Board) (artifacts : List String) (out : String)
    (source : ResetVectorSource) (tools : Option CompressionTools) :
    runBuild run b artifacts out source tools =
      prepareBuild run b artifacts source tools >>= deliverBuild b out := by
  simp only [runBuild, prepareBuild, bind_assoc]
  rfl

theorem run_stitch (run : ToolRunner) (boardDirectory : Option String) (layout : String)
    (artifacts : List String) (out : String) (padByte : Option UInt8) (blockSize : Option UInt32)
    (goal : StitchGoal) (tools : Option CompressionTools) :
    (Command.stitch layout artifacts out padByte blockSize goal tools).run run boardDirectory =
      prepareStitch run layout artifacts padByte blockSize goal tools >>=
        deliverStitch out goal := by
  simp only [Command.run, prepareStitch, bind_assoc]
  refine bind_congr fun t => bind_congr fun job => ?_
  cases goal with
  | image intermediates =>
    simp only [stitchGoal, stitchImage, bind_assoc, pure_bind]
    rfl
  | container name =>
    simp only [stitchGoal, stitchContainer, bind_assoc, pure_bind]
    rfl

end Command

/-- Containers that can be written under their names, the last one under the given name. -/
structure StitchOutput.Writable (o : StitchOutput) (final : String) : Prop where
  named : PlainlyNamed o.containers
  last : ∃ data, o.final? = some (final, data)

theorem StitchOutput.Writable.plain {o : StitchOutput} {final : String} (h : o.Writable final) :
    PlainName final := by
  obtain ⟨data, hlast⟩ := h.last
  exact h.named.plain _ (List.mem_of_getLast? hlast)

theorem StitchOutput.Writable.name_ne {o : StitchOutput} {final : String} (h : o.Writable final)
    {intermediates : Bool} {c : String × Bytes} (hc : c ∈ (o.written intermediates).dropLast) :
    c.1 ≠ final := by
  obtain ⟨data, hlast⟩ := h.last
  rw [← o.getLast?_written intermediates] at hlast
  obtain ⟨before, horder⟩ := List.getLast?_eq_some_iff.1 hlast
  have hdistinct := (h.named.sublist (o.written_sublist intermediates)).distinct
  rw [horder, List.map_append, List.nodup_append] at hdistinct
  rw [horder, List.dropLast_concat] at hc
  exact hdistinct.2.2 c.1 (List.mem_map_of_mem hc) final (by simp)

private theorem StitchOutput.writable_of_names {o : StitchOutput} {t : LayoutTree} {c : Container}
    (wellFormed : t.WellFormed) (names : o.containers.map (·.1) = t.names)
    (final : t.final? = some c) : o.Writable c.name := by
  refine ⟨⟨wellFormed.plainName_of_names names, names ▸ t.distinct⟩, ?_⟩
  have hlast : (o.containers.map (·.1)).getLast? = some c.name := by
    rw [names, LayoutTree.names, List.getLast?_map]
    exact congrArg _ final
  rw [List.getLast?_map, Option.map_eq_some_iff] at hlast
  obtain ⟨⟨name, data⟩, hfinal, rfl⟩ := hlast
  exact ⟨data, hfinal⟩

theorem Board.Planned.final {b : Board} {t : LayoutTree} (h : b.Planned t) :
    ∃ c, t.final? = some c ∧ c.name = b.imageName := by
  by_cases hb : b.isRedundant
  · exact ⟨_, (h.redundant hb).2.1, rfl⟩
  · exact ⟨_, (h.simple hb).2.2.1, rfl⟩

theorem Board.writable_of_assemble {b : Board} {run : ToolRunner} {artifacts : List String}
    {source : ResetVectorSource} {tools : Option CompressionTools} {output : StitchOutput}
    {w w' : Workspace} (h : b.assemble run artifacts source tools w = (.ok output, w')) :
    output.Writable b.imageName := by
  obtain ⟨t, _, hstart, hrest⟩ := of_bind_ok h
  obtain ⟨hplan, rfl⟩ := Build.of_ofExcept_ok hstart
  obtain ⟨store, _, -, hstitch⟩ := of_bind_ok hrest
  obtain ⟨hpreflight, m, hall⟩ := of_stitch hstitch
  obtain ⟨c, hfinal, hname⟩ := (planned_of_plan hplan).final
  rw [← hname]
  exact StitchOutput.writable_of_names (StitchJob.checked_of_preflight hpreflight).1
    (StitchJob.names_of_stitchAll hall) hfinal

namespace Command

variable {run : ToolRunner} {area : Location → Prop} {w w' : Workspace}

theorem elsewhere_of_prepareBuild (spares : run.Spares area) (wellFormed : w.files.WellFormed)
    (b : Board) (artifacts : List String) (source : ResetVectorSource)
    (tools : Option CompressionTools)
    (avoids : ∀ directory toolPrefix, source = .assembled directory toolPrefix →
      (ResetVectorBuild.ofBoard b directory toolPrefix).Avoids run area w.files) :
    Elsewhere area w.files (prepareBuild run b artifacts source tools w).2.files := by
  have hbuild : Sends (· = w.files) (Session.ofBuild (b.assemble run artifacts source tools))
      (Elsewhere area w.files) :=
    Sends.ofBuild (sends_assemble spares wellFormed b artifacts source tools avoids)
  have hstart : ∀ fs, fs = w.files → Elsewhere area w.files fs := by
    rintro _ rfl
    exact .refl wellFormed
  exact Sends.bind (.ofPrints (Session.prints_printLine _)) (fun _ => hbuild) hstart w rfl

theorem elsewhere_of_prepareStitch (spares : run.Spares area) (wellFormed : w.files.WellFormed)
    (layout : String) (artifacts : List String) (padByte : Option UInt8)
    (blockSize : Option UInt32) (goal : StitchGoal) (tools : Option CompressionTools) :
    Elsewhere area w.files
      (prepareStitch run layout artifacts padByte blockSize goal tools w).2.files := by
  have hstitch : ∀ job : StitchJob, job.Keeps (Elsewhere area w.files) →
      Sends (Elsewhere area w.files) (stitchGoal job goal) (Elsewhere area w.files) := by
    intro job keeps
    cases goal with
    | container name =>
      refine .andKeeps (.still fun _ => rfl) fun fs => ?_
      refine .andKeeps (.ofResult _) fun _ => ?_
      exact .andKeeps (.ofBuild (keeps.sends_stitch name)) fun _ => .still fun _ => rfl
    | image _ =>
      refine .andKeeps (.still fun _ => rfl) fun fs => ?_
      refine .andKeeps (.ofResult _) fun _ => ?_
      exact .andKeeps (.ofBuild keeps.sends_stitchAll) fun _ => .still fun _ => rfl
  have hload : Sends (Elsewhere area w.files) (Session.ofBuild (LayoutTree.load layout))
      (Elsewhere area w.files) :=
    .ofBuild (.andKeeps (.look _ _) fun _ => .ofExcept _)
  refine Sends.andKeeps hload (fun t => ?_) w (.refl wellFormed)
  rw [stitchJob]
  split
  · exact hstitch _ (keeps_choose spares tools)
  · exact .still fun _ => rfl

/-- Containers have been written into a directory until a fault: all of them if only printing has
failed, and else some of the first ones, but not the last one. -/
structure Interrupted (out : String) (order : List (String × Bytes)) (fault : CommandFault)
    (fs fs' : Files) (k : Nat) : Prop where
  delivered : Files.Delivered out (fs.makeDirectories out).2 fs' (order.take k)
  all : fault.OfOutput → k = order.length
  less : ¬ fault.OfOutput → k < order.length

section

variable {fault : CommandFault} {final out : String}

private theorem interrupted_of_write {output : StitchOutput} {intermediates : Bool}
    {next : List String → Session Unit} (writable : output.Writable final)
    (prints : ∀ paths, Session.Prints (next paths))
    (h : (Session.ofBuild (output.write out intermediates) >>= next) w = (.error fault, w')) :
    ∃ k, Interrupted out (output.written intermediates) fault w.files w'.files k := by
  obtain ⟨data, hlast⟩ := writable.last
  have nonempty : output.containers ≠ [] := List.ne_nil_of_mem (List.mem_of_getLast? hlast)
  rcases of_bind h with ⟨_, hwrite, heq⟩ | ⟨paths, w₁, hwrite, hprint⟩
  · cases heq
    obtain ⟨e, rfl, hfails⟩ := Session.of_ofBuild_error hwrite
    obtain ⟨k, hdelivered, -, hless⟩ :=
      StitchOutput.delivered_of_write nonempty writable.named hfails
    exact ⟨k, hdelivered, fun hof => absurd hof (CommandFault.not_ofOutput_build e),
      fun _ => hless e rfl⟩
  · obtain ⟨k, hdelivered, hall, -⟩ := StitchOutput.delivered_of_write nonempty writable.named
      (Session.of_ofBuild_ok hwrite)
    obtain ⟨hfiles, -, hof⟩ := prints paths _ _ _ hprint
    exact ⟨k, hfiles ▸ hdelivered, fun _ => (hall paths rfl).1, fun hnot => absurd (hof _ rfl) hnot⟩

theorem interrupted_of_deliverBuild {b : Board} {output : StitchOutput}
    (writable : output.Writable final) (h : deliverBuild b out output w = (.error fault, w')) :
    ∃ k, Interrupted out (output.written true) fault w.files w'.files k := by
  refine interrupted_of_write writable (fun paths => ?_) h
  refine (Session.prints_printLines _).bind fun _ => ?_
  cases output.final? with
  | none => exact Session.prints_return ()
  | some => exact Session.prints_printLine _

private theorem interrupted_of_deliverContainer {name : String} {data : Bytes}
    (plain : PlainName name)
    (h : deliverContainer out name data w = (.error fault, w')) :
    ∃ k, Interrupted out [(name, data)] fault w.files w'.files k := by
  rcases of_bind h with ⟨_, hmake, heq⟩ | ⟨_, w₁, hmake, hrest⟩
  · cases heq
    obtain ⟨hfiles, hnot⟩ := Session.of_makeDirectories hmake
    exact ⟨0, hfiles ▸ Files.delivered_nil out _, fun hof => absurd hof (hnot _ rfl),
      fun _ => Nat.one_pos⟩
  obtain ⟨hmade, -⟩ := Session.of_makeDirectories hmake
  rcases of_bind hrest with ⟨_, hwrite, heq⟩ | ⟨_, w₂, hwrite, hprint⟩
  · cases heq
    obtain ⟨e, rfl, hfails⟩ := Session.of_ofBuild_error hwrite
    obtain ⟨failure, hwhole⟩ := Build.of_writeWhole_error hfails
    have hfiles := (Files.eq_of_writeWhole_error hwhole).trans hmade
    exact ⟨0, hfiles ▸ Files.delivered_nil out _,
      fun hof => absurd hof (CommandFault.not_ofOutput_build e), fun _ => Nat.one_pos⟩
  · obtain ⟨l, hadmits, hput⟩ := Files.admits_of_writeWhole plain
      (Build.of_writeWhole_ok (Session.of_ofBuild_ok hwrite))
    obtain ⟨hfiles, -, hof⟩ := Session.prints_printLine _ _ _ _ hprint
    rw [hmade] at hadmits hput
    rw [hfiles, hput]
    refine ⟨1, ?_, fun _ => rfl, fun hnot => absurd (hof _ rfl) hnot⟩
    exact hadmits.delivered_singleton

theorem interrupted_of_deliverStitch {goal : StitchGoal} {output : StitchOutput}
    (writable : output.Writable final)
    (single : ∀ name, goal = .container name → ∃ data, output.containers = [(name, data)])
    (h : deliverStitch out goal output w = (.error fault, w')) :
    ∃ k, Interrupted out (output.written goal.intermediates) fault w.files w'.files k := by
  cases goal with
  | container name =>
    obtain ⟨data, hcontainers⟩ := single name rfl
    have hfinal : output.final? = some (name, data) := by
      rw [StitchOutput.final?, hcontainers]
      rfl
    have hplain : PlainName name :=
      writable.named.plain _ (hcontainers ▸ List.mem_singleton_self (name, data))
    simp only [deliverStitch, hfinal] at h
    have hwritten : output.written (StitchGoal.container name).intermediates = [(name, data)] := by
      simp [StitchGoal.intermediates, StitchOutput.written, hfinal]
    rw [hwritten]
    exact interrupted_of_deliverContainer hplain h
  | image intermediates =>
    refine interrupted_of_write writable (fun paths => ?_) h
    exact Session.prints_printLines _

end

private theorem containers_of_stitchJob {t : LayoutTree} {artifacts : List String}
    {padByte : Option UInt8}
    {blockSize : Option UInt32} {tools : Option CompressionTools} {job : StitchJob}
    (h : stitchJob run t artifacts padByte blockSize tools w = (.ok job, w')) :
    job.tree.containers = t.containers := by
  rcases hpad : padByte.or t.padByte with _ | pad <;> simp only [stitchJob, hpad] at h <;> cases h
  rfl

private theorem finalName?_of_containers {t t' : LayoutTree} (h : t'.containers = t.containers)
    (goal : StitchGoal) : goal.finalName? t' = goal.finalName? t := by
  cases goal with
  | container name => rfl
  | image intermediates => rw [StitchGoal.finalName?, LayoutTree.final?, h]; rfl

theorem single_of_prepareStitch {layout name : String} {artifacts : List String}
    {padByte : Option UInt8} {blockSize : Option UInt32} {tools : Option CompressionTools}
    {output : StitchOutput}
    (h : prepareStitch run layout artifacts padByte blockSize (.container name) tools w =
      (.ok output, w')) : ∃ data, output.containers = [(name, data)] := by
  obtain ⟨t, _, -, hrest⟩ := of_bind_ok h
  obtain ⟨job, _, -, hgoal⟩ := of_bind_ok hrest
  obtain ⟨fs, _, -, hrest⟩ := of_bind_ok hgoal
  obtain ⟨_, _, -, hrest⟩ := of_bind_ok hrest
  obtain ⟨data, _, -, hreturn⟩ := of_bind_ok hrest
  cases hreturn
  exact ⟨data, rfl⟩

private theorem writable_of_stitchGoal {job : StitchJob} {goal : StitchGoal} {output : StitchOutput}
    {final : String} (h : stitchGoal job goal w = (.ok output, w'))
    (named : goal.finalName? job.tree = some final) : output.Writable final := by
  cases goal with
  | container name =>
    obtain rfl : name = final := Option.some.inj named
    obtain ⟨fs, _, -, hrest⟩ := of_bind_ok h
    obtain ⟨_, _, hpreflight, hrest⟩ := of_bind_ok hrest
    obtain ⟨hpreflight, -⟩ := Session.of_ofExcept_ok hpreflight
    obtain ⟨data, _, -, hreturn⟩ := of_bind_ok hrest
    cases hreturn
    obtain ⟨wellFormed, names, hname, checked⟩ := StitchJob.checked_of_preflightFor hpreflight
    obtain ⟨c, hc, -⟩ := checked.supplied name hname
    refine ⟨⟨fun entry hentry => ?_, List.nodup_singleton name⟩, ⟨data, rfl⟩⟩
    rw [List.mem_singleton.1 hentry, ← LayoutTree.name_of_find? hc]
    exact wellFormed.plainName c (LayoutTree.mem_of_find? hc)
  | image intermediates =>
    obtain ⟨c, hfinal, rfl⟩ := Option.map_eq_some_iff.1 named
    obtain ⟨fs, _, -, hrest⟩ := of_bind_ok h
    obtain ⟨_, _, hpreflight, hrest⟩ := of_bind_ok hrest
    obtain ⟨hpreflight, -⟩ := Session.of_ofExcept_ok hpreflight
    obtain ⟨outputs, _, honce, hreturn⟩ := of_bind_ok hrest
    cases hreturn
    obtain ⟨m, hall⟩ := Stitching.of_once (Session.of_ofBuild_ok honce)
    exact StitchOutput.writable_of_names (StitchJob.checked_of_preflight hpreflight).1
      (StitchJob.names_of_stitchAll hall) hfinal

theorem exists_finalName_of_prepareStitch {layout : String} {artifacts : List String}
    {padByte : Option UInt8} {blockSize : Option UInt32} {goal : StitchGoal}
    {tools : Option CompressionTools} {output : StitchOutput}
    (h : prepareStitch run layout artifacts padByte blockSize goal tools w = (.ok output, w')) :
    ∃ t final, (LayoutTree.load layout w).1 = .ok t ∧ goal.finalName? t = some final := by
  obtain ⟨t, w₁, hload, hrest⟩ := of_bind_ok h
  obtain ⟨job, w₂, hjob, hgoal⟩ := of_bind_ok hrest
  have hload' : (LayoutTree.load layout w).1 = .ok t := by rw [Session.of_ofBuild_ok hload]
  cases goal with
  | container name => exact ⟨t, name, hload', rfl⟩
  | image intermediates =>
    obtain ⟨fs, _, -, hrest⟩ := of_bind_ok hgoal
    obtain ⟨_, _, hpreflight, -⟩ := of_bind_ok hrest
    obtain ⟨hpreflight, -⟩ := Session.of_ofExcept_ok hpreflight
    have hnonempty := (StitchJob.checked_of_preflight hpreflight).1.containers_ne_nil
    rw [containers_of_stitchJob hjob] at hnonempty
    obtain ⟨before, c, hcontainers⟩ := List.eq_nil_or_concat t.containers |>.resolve_left hnonempty
    refine ⟨t, c.name, hload', ?_⟩
    rw [StitchGoal.finalName?, LayoutTree.final?, hcontainers, List.concat_eq_append,
      List.getLast?_concat]
    rfl

theorem writable_of_prepareStitch {layout : String} {artifacts : List String}
    {padByte : Option UInt8} {blockSize : Option UInt32} {goal : StitchGoal}
    {tools : Option CompressionTools} {output : StitchOutput} {t : LayoutTree} {final : String}
    (h : prepareStitch run layout artifacts padByte blockSize goal tools w = (.ok output, w'))
    (load : (LayoutTree.load layout w).1 = .ok t) (named : goal.finalName? t = some final) :
    output.Writable final := by
  obtain ⟨t', w₁, hload, hrest⟩ := of_bind_ok h
  obtain ⟨job, w₂, hjob, hgoal⟩ := of_bind_ok hrest
  obtain rfl : t' = t := by
    rw [Session.of_ofBuild_ok hload] at load
    exact Except.ok.inj load
  exact writable_of_stitchGoal hgoal
    ((finalName?_of_containers (containers_of_stitchJob hjob) goal).trans named)

end Command
end FlashImage
