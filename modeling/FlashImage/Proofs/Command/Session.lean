import FlashImage.Command.Session
import FlashImage.Proofs.Workspace

/-!
What the steps of a command do.
-/

set_option autoImplicit false
set_option relaxedAutoImplicit false

namespace FlashImage

theorem CommandFault.not_ofOutput_build (e : Error) : ¬ (CommandFault.build e).OfOutput := by
  rintro ⟨_, heq⟩
  cases heq

namespace Session

variable {α : Type} {step : Build α} {w w' : Workspace}

theorem ofBuild_eq {result : Except Error α} (h : step w = (result, w')) :
    ofBuild step w = (result.mapError .build, w') := by
  rw [ofBuild, h]
  cases result <;> rfl

theorem of_ofBuild_ok {a : α} (h : ofBuild step w = (.ok a, w')) : step w = (.ok a, w') := by
  rw [ofBuild] at h
  split at h
  · rename_i heq
    cases h
    exact heq
  · cases h

theorem of_ofBuild_error {fault : CommandFault} (h : ofBuild step w = (.error fault, w')) :
    ∃ e, fault = .build e ∧ step w = (.error e, w') := by
  rw [ofBuild] at h
  split at h
  · cases h
  · rename_i e _ heq
    cases h
    exact ⟨e, rfl, heq⟩

theorem of_ofExcept_ok {result : Except Error α} {a : α} (h : ofExcept result w = (.ok a, w')) :
    result = .ok a ∧ w' = w :=
  Build.of_ofExcept_ok (of_ofBuild_ok h)

theorem makeDirectories_eq (path : String) (w : Workspace) :
    makeDirectories path w =
      ((w.files.makeDirectories path).1.mapError .outputDirectory,
        { w with files := (w.files.makeDirectories path).2 }) := by
  have hfiles : files w = (.ok w.files, w) := rfl
  rw [makeDirectories, bind_eq_of_ok hfiles]
  rcases hmake : w.files.makeDirectories path with ⟨fault | _, fs⟩ <;> rfl

theorem of_makeDirectories {path : String} {result : Except CommandFault Unit}
    (h : makeDirectories path w = (result, w')) :
    w'.files = (w.files.makeDirectories path).2 ∧
      ∀ fault, result = .error fault → ¬ fault.OfOutput := by
  rw [makeDirectories_eq] at h
  rcases hmake : w.files.makeDirectories path with ⟨fault | _, fs⟩ <;> rw [hmake] at h <;> cases h
  · refine ⟨rfl, fun _ hfails hof => ?_⟩
    cases hfails
    obtain ⟨_, hof⟩ := hof
    cases hof
  · exact ⟨rfl, nofun⟩

/-- A step that only prints does nothing else, and fails only if it cannot print. -/
def Prints {α : Type} (step : Session α) : Prop :=
  ∀ w result w', step w = (result, w') → w'.files = w.files ∧ w'.events = w.events ∧
    ∀ fault, result = .error fault → fault.OfOutput

theorem Prints.bind {β : Type} {step : Session α} {next : α → Session β} (first : Prints step)
    (second : ∀ a, Prints (next a)) : Prints (step >>= next) := by
  intro w result w' h
  rcases of_bind h with ⟨fault, hstep, rfl⟩ | ⟨a, w₁, hstep, hnext⟩
  · obtain ⟨hfiles, hevents, hfault⟩ := first _ _ _ hstep
    refine ⟨hfiles, hevents, fun _ hfails => ?_⟩
    cases hfails
    exact hfault fault rfl
  · obtain ⟨hfiles, hevents, -⟩ := first _ _ _ hstep
    obtain ⟨hfiles', hevents', hfault⟩ := second a _ _ _ hnext
    exact ⟨hfiles'.trans hfiles, hevents'.trans hevents, hfault⟩

theorem prints_return (a : α) : Prints (pure a) := by
  intro w result w' h
  cases h
  exact ⟨rfl, rfl, nofun⟩

theorem prints_printLine (s : String) : Prints (printLine s) := by
  intro w result w' h
  unfold printLine at h
  dsimp only at h
  split at h <;> cases h
  · exact ⟨rfl, rfl, nofun⟩
  · refine ⟨rfl, rfl, fun fault hfails => ?_⟩
    cases hfails
    exact ⟨_, rfl⟩

theorem prints_printLines (lines : List String) : Prints (printLines lines) := by
  induction lines with
  | nil => exact prints_return ()
  | cons line rest ih => exact (prints_printLine line).bind fun _ => ih

end Session

namespace Sends

variable {α : Type} {pre post : Files → Prop}

theorem ofBuild {step : Build α} (h : Sends pre step post) :
    Sends pre (Session.ofBuild step) post := by
  intro w hw
  have hstep := h w hw
  rw [Session.ofBuild]
  split <;> rename_i heq <;> rwa [heq] at hstep

theorem ofPrints {step : Session α} (h : Session.Prints step) : Sends post step post :=
  still fun w => (h w _ _ rfl).1

theorem ofResult (result : Except Error α) : Sends post (Session.ofExcept result) post :=
  ofBuild (.ofExcept result)

end Sends
end FlashImage
