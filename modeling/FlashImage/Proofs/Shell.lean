import FlashImage.Proofs.Board.ResetVector
import FlashImage.Shell.Start

/-!
The programs that a shell starts, as the external programs of a build.

Whatever such programs are, they leave the record of the build alone, and they do not move it to
another directory. So what holds of a build with programs of that kind holds in a shell.
-/

set_option autoImplicit false
set_option relaxedAutoImplicit false

namespace FlashImage.Shell

variable (host : Host)

/-- What a program in a shell can change of a workspace. -/
private theorem exists_after_runner (program : String) (arguments : List String)
    (directory : String) (w : Workspace) :
    ∃ (fs : Files) (printed complaints : Bytes), (runner host program arguments directory w).2 =
      { w with
        files := { fs with current := w.files.current }
        printed := printed
        complaints := complaints } := by
  rw [runner, bind_eq_of_ok (Build.files_eq w)]
  rcases startIn host w.files directory program arguments with fault | ⟨exit, after⟩
  · exact ⟨w.files, w.printed, w.complaints, rfl⟩
  · refine ⟨after.files, w.printed ++ after.printed, w.complaints ++ after.complaints, ?_⟩
    rcases exit with (_ | _) | _ <;> rfl

theorem keepsRecord_runner : (runner host).KeepsRecord := by
  intro program arguments directory w
  obtain ⟨_, _, _, hafter⟩ := exists_after_runner host program arguments directory w
  rw [hafter]

theorem current_runner (program : String) (arguments : List String) (directory : String)
    (w : Workspace) :
    (runner host program arguments directory w).2.files.current = w.files.current := by
  obtain ⟨_, _, _, hafter⟩ := exists_after_runner host program arguments directory w
  rw [hafter]

/-- While a reset vector is assembled in a shell, some of the first commands are recorded, in order,
and nothing else. -/
theorem exists_events_of_run (r : ResetVectorBuild) (allocated : UInt32) (w : Workspace) :
    ∃ commands, commands <+: r.commands ∧
      (r.run (runner host) allocated w).2.events =
        (commands.map (·.event r.directory)).reverse ++ w.events := by
  obtain ⟨calls, run⟩ :=
    ResetVectorBuild.runs (Prod.mk.eta (p := r.run (runner host) allocated w)).symm
  refine ⟨_, run.isPrefix, ?_⟩
  rw [run.events_eq (keepsRecord_runner host), List.map_map]
  rfl

end FlashImage.Shell
