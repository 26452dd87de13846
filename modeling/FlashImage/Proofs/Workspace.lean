import FlashImage.Workspace

/-!
What steps over a workspace do, and what they do to the files.

A step of a build and one of a command differ in their faults only. What a step does to the files is
told by the properties that the files have before it and after it, whether it succeeds or fails. Two
steps one after the other go by the property in between.
-/

set_option autoImplicit false
set_option relaxedAutoImplicit false

namespace FlashImage

section

variable {σ ε α β : Type} {step : ExceptT ε (StateM σ) α} {next : α → ExceptT ε (StateM σ) β}
  {w w₁ w' : σ}

theorem bind_eq_of_ok {a : α} (h : step w = (.ok a, w₁)) : (step >>= next) w = next a w₁ := by
  simp only [bind, ExceptT.bind, ExceptT.mk, StateT.bind, h]
  rfl

theorem bind_eq_of_error {e : ε} (h : step w = (.error e, w₁)) :
    (step >>= next) w = (.error e, w₁) := by
  simp only [bind, ExceptT.bind, ExceptT.mk, StateT.bind, h]
  rfl

/-- The first of two steps fails, or the second goes on where it has ended. -/
theorem of_bind {result : Except ε β} (h : (step >>= next) w = (result, w')) :
    (∃ e, step w = (.error e, w') ∧ result = .error e) ∨
      ∃ a w₁, step w = (.ok a, w₁) ∧ next a w₁ = (result, w') := by
  rcases hstep : step w with ⟨e | a, w₁⟩
  · rw [bind_eq_of_error hstep] at h
    cases h
    exact .inl ⟨e, rfl, rfl⟩
  · rw [bind_eq_of_ok hstep] at h
    exact .inr ⟨a, w₁, rfl, h⟩

theorem of_bind_ok {b : β} (h : (step >>= next) w = (.ok b, w')) :
    ∃ a w₁, step w = (.ok a, w₁) ∧ next a w₁ = (.ok b, w') := by
  rcases of_bind h with ⟨e, -, hfails⟩ | succeeds
  · cases hfails
  · exact succeeds

end

namespace Build

variable {α : Type} {w w' : Workspace}

theorem ofExcept_eq (result : Except Error α) (w : Workspace) :
    ofExcept result w = (result, w) := by
  cases result <;> rfl

theorem of_ofExcept_ok {result : Except Error α} {a : α}
    (h : ofExcept result w = (.ok a, w')) : result = .ok a ∧ w' = w := by
  rw [ofExcept_eq] at h
  cases h
  exact ⟨rfl, rfl⟩

theorem files_eq (w : Workspace) : files w = (.ok w.files, w) := rfl

theorem look_eq (path : String) (f : Files → Except FileFault α) (w : Workspace) :
    look path f w = ((f w.files).mapError (Error.file path), w) := by
  rw [look, bind_eq_of_ok (files_eq w)]
  cases f w.files <;> rfl

theorem change_eq (path : String) (f : Files → Except FileFault Files) (w : Workspace) :
    change path f w =
      match f w.files with
      | .ok fs => (.ok (), { w with files := fs })
      | .error fault => (.error (.file path fault), w) := by
  rcases hf : f w.files with fault | fs
  · have hlook : look path f w = (.error (.file path fault), w) := by
      rw [look_eq, hf]
      rfl
    rw [change, bind_eq_of_error hlook]
  · have hlook : look path f w = (.ok fs, w) := by
      rw [look_eq, hf]
      rfl
    rw [change, bind_eq_of_ok hlook]
    rfl

theorem makeDirectories_eq (path : String) (w : Workspace) :
    makeDirectories path w =
      ((w.files.makeDirectories path).1.mapError (Error.file path),
        { w with files := (w.files.makeDirectories path).2 }) := by
  rw [makeDirectories, bind_eq_of_ok (files_eq w)]
  rcases hmake : w.files.makeDirectories path with ⟨fault | _, fs⟩ <;> rfl

theorem writeWhole_eq (path : String) (content : Bytes) (w : Workspace) :
    writeWhole path content w =
      ((w.files.writeWhole path content).1.mapError fun failure => .file failure.1 failure.2,
        { w with files := (w.files.writeWhole path content).2 }) := by
  rw [writeWhole, bind_eq_of_ok (files_eq w)]
  rcases hwrite : w.files.writeWhole path content with ⟨⟨origin, fault⟩ | _, fs⟩ <;> rfl

theorem of_writeWhole_ok {path : String} {content : Bytes} {u : Unit}
    (h : writeWhole path content w = (.ok u, w')) :
    w.files.writeWhole path content = (.ok (), w'.files) := by
  rw [writeWhole_eq] at h
  rcases hwrite : w.files.writeWhole path content with ⟨failure | _, fs⟩ <;> rw [hwrite] at h <;>
    cases h
  rfl

theorem of_writeWhole_error {path : String} {content : Bytes} {e : Error}
    (h : writeWhole path content w = (.error e, w')) :
    ∃ failure, w.files.writeWhole path content = (.error failure, w'.files) := by
  rw [writeWhole_eq] at h
  rcases hwrite : w.files.writeWhole path content with ⟨failure | _, fs⟩ <;> rw [hwrite] at h <;>
    cases h
  exact ⟨failure, rfl⟩

theorem files_ensuring (last : Files → Files) (step : Build α) (w : Workspace) :
    (ensuring last step w).2.files = last (step w).2.files := rfl

end Build

/-- A step leads from files with one property to files with another one, even if it fails. -/
def Sends {β : Type} (pre : Files → Prop) (step : Workspace → β × Workspace)
    (post : Files → Prop) : Prop :=
  ∀ w, pre w.files → post (step w).2.files

namespace Sends

variable {ε α β : Type} {pre mid post : Files → Prop}

/-- A property that a failure leaves behind has to hold at the end, too. -/
theorem bind {step : ExceptT ε (StateM Workspace) α}
    {next : α → ExceptT ε (StateM Workspace) β} (first : Sends pre step mid)
    (second : ∀ a, Sends mid (next a) post) (stop : ∀ fs, mid fs → post fs) :
    Sends pre (step >>= next) post := by
  intro w hw
  have hfirst := first w hw
  rcases hrun : (step >>= next) w with ⟨result, w'⟩
  rcases of_bind hrun with ⟨e, hstep, -⟩ | ⟨a, w₁, hstep, hnext⟩
  · rw [hstep] at hfirst
    exact stop _ hfirst
  · rw [hstep] at hfirst
    have hsecond := second a w₁ hfirst
    rwa [hnext] at hsecond

theorem andKeeps {step : ExceptT ε (StateM Workspace) α}
    {next : α → ExceptT ε (StateM Workspace) β} (first : Sends pre step post)
    (second : ∀ a, Sends post (next a) post) : Sends pre (step >>= next) post :=
  first.bind second fun _ => id

theorem strengthen {step : Workspace → β × Workspace} {pre' : Files → Prop}
    (stronger : ∀ fs, pre fs → pre' fs) (h : Sends pre' step post) : Sends pre step post :=
  fun w hw => h w (stronger _ hw)

theorem still {step : Workspace → β × Workspace} (h : ∀ w, (step w).2.files = w.files) :
    Sends post step post :=
  fun w hw => (h w).symm ▸ hw

theorem ofExcept (result : Except Error α) : Sends post (Build.ofExcept result) post :=
  still fun w => by rw [Build.ofExcept_eq]

theorem look (path : String) (f : Files → Except FileFault α) :
    Sends post (Build.look path f) post :=
  still fun w => by rw [Build.look_eq]

end Sends
end FlashImage
