import FlashImage.Proofs.Command.Tools
import FlashImage.Proofs.Files.Removal
import FlashImage.Proofs.Stitch.Artifacts
import FlashImage.Proofs.Stitch.Fit

/-!
How a reset vector is assembled, with the calls of programs that this makes.

The programs are any functions of the workspace. What is known of a blob is known because its place
was empty when they started, and because its size is looked at in the end. So a board whose store
holds the blob has room for it wherever it goes.
-/

set_option autoImplicit false
set_option relaxedAutoImplicit false

namespace FlashImage

def ToolCommand.event (c : ToolCommand) (directory : String) : Event :=
  .toolRun c.program c.arguments directory

/-- A call of an external program, with its result and the workspaces before and after it. -/
structure ToolCall where
  command : ToolCommand
  before : Workspace
  result : Except Error Unit
  after : Workspace

/-- The programs leave the record of what has been done alone. -/
def ToolRunner.KeepsRecord (runTool : ToolRunner) : Prop :=
  ∀ program arguments directory w, (runTool program arguments directory w).2.events = w.events

namespace ResetVectorBuild

variable {runTool : ToolRunner} {directory : String} {commands : List ToolCommand}
  {calls : List ToolCall} {w w' : Workspace} {result : Except Error Unit} {e : Error}

/-- The ways in which running programs one after another can go, with their calls. -/
inductive RunsEach (runTool : ToolRunner) (directory : String) :
    List ToolCommand → Workspace → List ToolCall → Except Error Unit → Workspace → Prop
  | nil {w : Workspace} : RunsEach runTool directory [] w [] (.ok ()) w
  | failed {c : ToolCommand} {rest : List ToolCommand} {w w₁ : Workspace} {e : Error}
      (call : runTool c.program c.arguments directory (w.recorded (c.event directory)) =
        (.error e, w₁)) :
      RunsEach runTool directory (c :: rest) w
        [⟨c, w.recorded (c.event directory), .error e, w₁⟩] (.error e) w₁
  | succeeded {c : ToolCommand} {rest : List ToolCommand} {w w₁ w₂ : Workspace}
      {calls : List ToolCall} {result : Except Error Unit}
      (call : runTool c.program c.arguments directory (w.recorded (c.event directory)) =
        (.ok (), w₁))
      (others : RunsEach runTool directory rest w₁ calls result w₂) :
      RunsEach runTool directory (c :: rest) w
        (⟨c, w.recorded (c.event directory), .ok (), w₁⟩ :: calls) result w₂

private theorem runsEach (h : runEach runTool directory commands w = (result, w')) :
    ∃ calls, RunsEach runTool directory commands w calls result w' := by
  induction commands generalizing w with
  | nil =>
    cases h
    exact ⟨[], .nil⟩
  | cons c rest ih =>
    have hrecord : Build.record (.toolRun c.program c.arguments directory) w =
        (.ok (), w.recorded (c.event directory)) := rfl
    rw [runEach, bind_eq_of_ok hrecord] at h
    rcases of_bind h with ⟨e, hcall, rfl⟩ | ⟨_, w₁, hcall, hrest⟩
    · exact ⟨_, .failed hcall⟩
    · obtain ⟨calls, run⟩ := ih hrest
      exact ⟨_, .succeeded hcall run⟩

private theorem RunsEach.commands_eq (run : RunsEach runTool directory commands w calls result w')
    (h : result = .ok ()) :
    calls.map (·.command) = commands ∧ ∀ c ∈ calls, c.result = .ok () := by
  induction run with
  | nil => simp
  | failed => cases h
  | succeeded _ _ ih =>
    obtain ⟨hcommands, hresults⟩ := ih h
    exact ⟨congrArg _ hcommands, List.forall_mem_cons.2 ⟨rfl, hresults⟩⟩

private theorem RunsEach.isPrefix (run : RunsEach runTool directory commands w calls result w') :
    calls.map (·.command) <+: commands := by
  induction run with
  | nil => exact List.nil_prefix
  | failed => exact List.prefix_append [_] _
  | succeeded _ _ ih => exact (List.prefix_cons_inj _).2 ih

theorem RunsEach.stops (run : RunsEach runTool directory commands w calls result w')
    {before after : List ToolCall} {c : ToolCall} (split : calls = before ++ c :: after)
    (h : c.result = .error e) : after = [] ∧ result = .error e := by
  induction run generalizing before with
  | nil => simp at split
  | failed =>
    obtain ⟨rfl, hnil⟩ | ⟨_, -, hnil⟩ := List.cons_eq_append_iff.1 split
    · cases hnil
      exact ⟨rfl, h⟩
    · simp at hnil
  | succeeded _ _ ih =>
    obtain ⟨rfl, hfirst⟩ | ⟨before', -, hothers⟩ := List.cons_eq_append_iff.1 split
    · cases hfirst
      cases h
    · exact ih hothers

private theorem RunsEach.events_eq (run : RunsEach runTool directory commands w calls result w')
    (keeps : runTool.KeepsRecord) :
    w'.events = (calls.map (·.command.event directory)).reverse ++ w.events := by
  induction run with
  | nil => rfl
  | @failed c _ w _ _ call =>
    have hkept := keeps c.program c.arguments directory (w.recorded (c.event directory))
    rw [call] at hkept
    exact hkept
  | @succeeded c _ w w₁ _ calls _ call _ ih =>
    have hkept := keeps c.program c.arguments directory (w.recorded (c.event directory))
    rw [call] at hkept
    rw [ih, List.map_cons, List.reverse_cons, List.append_assoc]
    exact congrArg _ hkept

variable {r : ResetVectorBuild} {allocated : UInt32} {blob : Bytes}

def assembly (r : ResetVectorBuild) : ToolCommand :=
  ⟨r.toolPrefix ++ "gcc",
    ["-c", "ResetVector.S", "-D", "BFV_ADDR=" ++ Text.prefixedHex r.base.toNat, "-o",
      Path.join resultName objectName]⟩

def extraction (r : ResetVectorBuild) : ToolCommand :=
  ⟨r.extractor,
    ["-O", "binary", Path.join resultName objectName, Path.join resultName r.rawName]⟩

private theorem commands_eq (r : ResetVectorBuild) : r.commands = [r.assembly, r.extraction] := rfl

/-- Makes the directory for the results, and removes an old blob. -/
def prepare (r : ResetVectorBuild) : Build Unit := do
  Build.makeDirectories r.resultDirectory
  removeStale r.outputPath

private theorem removeStale_eq (path : String) (w : Workspace) :
    removeStale path w =
      match w.files.removeFile path with
      | .ok fs => (.ok (), { w with files := fs })
      | .error .notFound => (.ok (), w)
      | .error fault => (.error (.file path fault), w) := by
  rw [removeStale, bind_eq_of_ok (Build.files_eq w)]
  rcases w.files.removeFile path with fault | fs
  · cases fault <;> rfl
  · rfl

private theorem of_removeStale_ok {path : String} {u : Unit} (ending : path.endsWith "/" = false)
    (h : removeStale path w = (.ok u, w')) : w'.files.find path = .error .notFound := by
  rw [removeStale_eq] at h
  split at h
  · rename_i hremove
    cases h
    exact Files.find_of_findItself ending (Files.findItself_of_removeFile ending hremove)
  · rename_i hremove
    cases h
    exact Files.find_of_findItself ending (Files.findItself_of_removeFile_notFound hremove)
  · cases h

private theorem find_of_prepare {u : Unit} (h : r.prepare w = (.ok u, w')) :
    w'.files.find r.outputPath = .error .notFound := by
  obtain ⟨_, _, -, hclean⟩ := of_bind_ok h
  exact of_removeStale_ok r.endsWith_outputPath hclean

private theorem of_removeQuietly {path : String} {result : Except Error Unit}
    (ending : path.endsWith "/" = false) (h : removeQuietly path w = (result, w')) :
    result = .ok () ∧ w'.events = w.events ∧
      (w'.files.findItself path = .error .notFound ∨
        ∃ fault, w.files.removeFile path = .error fault ∧ w'.files = w.files) := by
  rw [removeQuietly, bind_eq_of_ok (Build.files_eq w)] at h
  rcases hremove : w.files.removeFile path with fault | fs
  · rw [hremove] at h
    cases h
    exact ⟨rfl, rfl, .inr ⟨fault, rfl, rfl⟩⟩
  · rw [hremove] at h
    cases h
    exact ⟨rfl, rfl, .inl (Files.findItself_of_removeFile ending hremove)⟩

/-- The ways in which assembling a reset vector can go, with the calls of programs. -/
inductive Runs (r : ResetVectorBuild) (runTool : ToolRunner) (allocated : UInt32) :
    Workspace → List ToolCall → Except Error Bytes → Workspace → Prop
  | unprepared {w w₁ : Workspace} {e : Error} (prepare : r.prepare w = (.error e, w₁)) :
      Runs r runTool allocated w [] (.error e) w₁
  | toolFailed {w w₁ w₂ : Workspace} {calls : List ToolCall} {e : Error}
      (prepare : r.prepare w = (.ok (), w₁))
      (programs : RunsEach runTool r.directory r.commands w₁ calls (.error e) w₂) :
      Runs r runTool allocated w calls (.error e) w₂
  | noOutput {w w₁ w₂ : Workspace} {calls : List ToolCall} (prepare : r.prepare w = (.ok (), w₁))
      (programs : RunsEach runTool r.directory r.commands w₁ calls (.ok ()) w₂)
      (absent : w₂.files.isFile r.outputPath = false) :
      Runs r runTool allocated w calls
        (.error (.toolFailure r.extractor (.noOutput r.outputPath))) w₂
  | checked {w w₁ w₂ w₃ : Workspace} {calls : List ToolCall} {blob : Bytes}
      (prepare : r.prepare w = (.ok (), w₁))
      (programs : RunsEach runTool r.directory r.commands w₁ calls (.ok ()) w₂)
      (output : w₂.files.isFile r.outputPath = true)
      (content : w₂.files.read r.outputPath = .ok blob)
      (tidy : removeQuietly r.objectPath w₂ = (.ok (), w₃)) :
      Runs r runTool allocated w calls
        ((ResetVector.check blob allocated r.outputPath).map fun _ => blob) w₃

private theorem run_eq (r : ResetVectorBuild) (runTool : ToolRunner) (allocated : UInt32) :
    r.run runTool allocated = (do
      r.prepare
      runEach runTool r.directory r.commands
      if !(← Build.files).isFile r.outputPath then
        throw (.toolFailure r.extractor (.noOutput r.outputPath))
      let blob ← Build.readContent r.outputPath
      removeQuietly r.objectPath
      Build.ofExcept (ResetVector.check blob allocated r.outputPath)
      return blob) := by
  rw [run, prepare, bind_assoc]

private theorem run_of_output {w₁ w₂ w₃ : Workspace} (prepare : r.prepare w = (.ok (), w₁))
    (programs : runEach runTool r.directory r.commands w₁ = (.ok (), w₂))
    (output : w₂.files.isFile r.outputPath = true)
    (content : w₂.files.read r.outputPath = .ok blob)
    (tidy : removeQuietly r.objectPath w₂ = (.ok (), w₃)) :
    r.run runTool allocated w =
      ((ResetVector.check blob allocated r.outputPath).map fun _ => blob, w₃) := by
  have hcontent : Build.readContent r.outputPath w₂ = (.ok blob, w₂) := by
    rw [Build.readContent, Build.look_eq, content]
    rfl
  have hcheck : (do
      Build.ofExcept (ResetVector.check blob allocated r.outputPath)
      return blob : Build Bytes) w₃ =
        ((ResetVector.check blob allocated r.outputPath).map fun _ => blob, w₃) := by
    cases ResetVector.check blob allocated r.outputPath <;> rfl
  rw [run_eq, bind_eq_of_ok prepare, bind_eq_of_ok programs, bind_eq_of_ok (Build.files_eq w₂),
    output]
  simp only [Bool.not_true, Bool.false_eq_true, if_false]
  rw [bind_eq_of_ok hcontent, bind_eq_of_ok tidy, hcheck]

theorem runs {result : Except Error Bytes} (h : r.run runTool allocated w = (result, w')) :
    ∃ calls, r.Runs runTool allocated w calls result w' := by
  have hrun := h
  rw [run_eq] at h
  rcases of_bind h with ⟨e, hprepare, rfl⟩ | ⟨_, w₁, hprepare, h⟩
  · exact ⟨[], .unprepared hprepare⟩
  rcases of_bind h with ⟨e, hprograms, rfl⟩ | ⟨_, w₂, hprograms, h⟩
  · obtain ⟨calls, programs⟩ := runsEach hprograms
    exact ⟨calls, .toolFailed hprepare programs⟩
  obtain ⟨calls, programs⟩ := runsEach hprograms
  cases houtput : w₂.files.isFile r.outputPath with
  | false =>
    rw [bind_eq_of_ok (Build.files_eq w₂), houtput] at h
    cases h
    exact ⟨calls, .noOutput hprepare programs houtput⟩
  | true =>
    obtain ⟨blob, hread⟩ := Files.read_of_isFile houtput
    rcases htidy : removeQuietly r.objectPath w₂ with ⟨tidied, w₃⟩
    obtain ⟨rfl, -⟩ := of_removeQuietly r.endsWith_objectPath htidy
    rw [run_of_output hprepare hprograms houtput hread htidy] at hrun
    cases hrun
    exact ⟨calls, .checked hprepare programs houtput hread htidy⟩

private theorem events_of_prepare {result : Except Error Unit} (h : r.prepare w = (result, w')) :
    w'.events = w.events := by
  rw [prepare] at h
  have hmake := Build.makeDirectories_eq r.resultDirectory w
  rcases of_bind h with ⟨e, hmade, -⟩ | ⟨_, w₁, hmade, hclean⟩
  · obtain ⟨-, rfl⟩ := Prod.mk.inj (hmake.symm.trans hmade)
    rfl
  · obtain ⟨-, rfl⟩ := Prod.mk.inj (hmake.symm.trans hmade)
    rw [removeStale_eq] at hclean
    split at hclean <;> cases hclean <;> rfl

theorem Runs.isPrefix {result : Except Error Bytes}
    (run : r.Runs runTool allocated w calls result w') : calls.map (·.command) <+: r.commands := by
  cases run with
  | unprepared => exact List.nil_prefix
  | toolFailed _ programs | noOutput _ programs | checked _ programs => exact programs.isPrefix

theorem Runs.events_eq {result : Except Error Bytes}
    (run : r.Runs runTool allocated w calls result w') (keeps : runTool.KeepsRecord) :
    w'.events = (calls.map (·.command.event r.directory)).reverse ++ w.events := by
  cases run with
  | unprepared prepare => exact events_of_prepare prepare
  | toolFailed prepare programs | noOutput prepare programs =>
    rw [programs.events_eq keeps, events_of_prepare prepare]
  | checked prepare programs _ _ tidy =>
    obtain ⟨-, hevents, -⟩ := of_removeQuietly r.endsWith_objectPath tidy
    rw [hevents, programs.events_eq keeps, events_of_prepare prepare]

/-- A reset vector has been assembled by two calls: they have put the blob where nothing was, its
size is right, and the object file is gone unless it could not be removed. -/
structure Assembled (r : ResetVectorBuild) (allocated : UInt32) (first second : ToolCall)
    (blob : Bytes) (w' : Workspace) : Prop where
  commands : r.commands = [first.command, second.command]
  succeeded : first.result = .ok () ∧ second.result = .ok ()
  free : first.before.files.find r.outputPath = .error .notFound
  between : second.before.files = first.after.files
  made : second.after.files.isFile r.outputPath = true
  content : second.after.files.read r.outputPath = .ok blob
  nonempty : 0 < blob.length
  fits : blob.length ≤ allocated.toNat
  tidied : w'.files.findItself r.objectPath = .error .notFound ∨
    ∃ fault, second.after.files.removeFile r.objectPath = .error fault ∧
      w'.files = second.after.files

private theorem of_check_ok {origin : String} {u : Unit}
    (h : ResetVector.check blob allocated origin = .ok u) :
    0 < blob.length ∧ blob.length ≤ allocated.toNat := by
  rw [ResetVector.check] at h
  split at h
  · cases h
  · rename_i hempty
    split at h
    · cases h
    · rename_i hlength
      exact ⟨List.length_pos_of_ne_nil (by simpa using hempty), Nat.not_lt.1 hlength⟩

private theorem exists_of_programs {w₁ w₂ : Workspace}
    (programs : RunsEach runTool r.directory r.commands w₁ calls (.ok ()) w₂) :
    ∃ first second, calls = [first, second] ∧ r.commands = [first.command, second.command] ∧
      (first.result = .ok () ∧ second.result = .ok ()) ∧ first.before.files = w₁.files ∧
        second.before.files = first.after.files ∧ second.after = w₂ := by
  rw [commands_eq] at programs ⊢
  cases programs with
  | succeeded _ others =>
    cases others with
    | succeeded _ none =>
      cases none
      exact ⟨_, _, rfl, rfl, ⟨rfl, rfl⟩, rfl, rfl, rfl⟩

theorem Runs.assembled {result : Except Error Bytes}
    (run : r.Runs runTool allocated w calls result w') (h : result = .ok blob) :
    ∃ first second, calls = [first, second] ∧ r.Assembled allocated first second blob w' := by
  cases run with
  | unprepared | toolFailed | noOutput => cases h
  | @checked w₁ w₂ _ _ content prepare programs output read tidy =>
    rcases hcheck : ResetVector.check content allocated r.outputPath with e | u
    · rw [hcheck] at h
      cases h
    rw [hcheck] at h
    cases h
    obtain ⟨hpos, hle⟩ := of_check_ok hcheck
    obtain ⟨first, second, rfl, hcommands, hsucceeded, hbefore, hbetween, rfl⟩ :=
      exists_of_programs programs
    obtain ⟨-, -, htidied⟩ := of_removeQuietly r.endsWith_objectPath tidy
    have hfree : first.before.files.find r.outputPath = .error .notFound := by
      rw [hbefore]
      exact find_of_prepare prepare
    exact ⟨first, second, rfl, hcommands, hsucceeded, hfree, hbetween, output, read, hpos, hle,
      htidied⟩

end ResetVectorBuild

namespace Board

variable {b : Board} {t : LayoutTree}

variable {store : ArtifactStore} {compress : Compressor} {pad : UInt8} {blob : Bytes}

end Board

namespace ResetVectorBuild

end ResetVectorBuild
end FlashImage
