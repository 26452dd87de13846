import FlashImage.Proofs.Layout.WellFormed
import FlashImage.Stitch.Job

/-!
What the checks before building establish.

A passed check leaves containers that are all in the layout, that embed no others, and whose
artifacts are there unless they may be left out. For the check of one container these are the ones
that it has come to from the work list.
-/

set_option autoImplicit false
set_option relaxedAutoImplicit false

namespace FlashImage

theorem Files.read_of_isFile {fs : Files} {path : String} (h : fs.isFile path = true) :
    ∃ data, fs.read path = .ok data := by
  unfold isFile at h
  split at h
  · rename_i l content hfind
    refine ⟨content, ?_⟩
    simp only [read, hfind]
  · cases h

namespace ArtifactStore

variable {s : ArtifactStore} {fs : Files} {name : String}

private theorem loadFirst_ne_none {paths : List String}
    (h : ∃ path ∈ paths, fs.isFile path = true) :
    loadFirst fs paths ≠ .ok none := by
  obtain ⟨path, hpath, hfile⟩ := h
  induction paths with
  | nil => cases hpath
  | cons first rest ih =>
    cases hread : fs.read first with
    | ok data => simp [loadFirst, hread]
    | error fault =>
      have hrest : path ∈ rest := by
        refine (List.mem_cons.1 hpath).resolve_left fun heq => ?_
        obtain ⟨data, hdata⟩ := Files.read_of_isFile hfile
        rw [heq, hread] at hdata
        cases hdata
      cases fault <;> simp [loadFirst, hread, ih hrest]

theorem load_ne_none (h : s.contains fs name = true) : s.load fs name ≠ .ok none := by
  unfold load
  cases hblob : s.blob? name with
  | some data => simp
  | none =>
    apply loadFirst_ne_none
    have hlocate : (s.locate fs name).isSome = true := by simpa [contains, hblob] using h
    rw [locate, List.find?_isSome] at hlocate
    exact hlocate

private theorem path_of_loadFirst_error {paths : List String} {e : Error}
    (h : loadFirst fs paths = .error e) :
    ∃ path ∈ paths, ∃ fault, fs.read path = .error fault ∧ e = .file path fault := by
  induction paths with
  | nil => cases h
  | cons first rest ih =>
    unfold loadFirst at h
    split at h
    · cases h
    · obtain ⟨path, hpath, hfault⟩ := ih h
      exact ⟨path, List.mem_cons_of_mem first hpath, hfault⟩
    · rename_i fault _ hread
      cases h
      exact ⟨first, List.mem_cons_self, fault, hread, rfl⟩

theorem path_of_load_error {e : Error} (h : s.load fs name = .error e) :
    ∃ path ∈ s.candidates name, ∃ fault, fs.read path = .error fault ∧ e = .file path fault := by
  unfold load at h
  split at h
  · cases h
  · exact path_of_loadFirst_error h

end ArtifactStore

namespace StitchJob

/-- The artifact of a region is there, unless the region can be left out. -/
def Provided (store : ArtifactStore) (fs : Files) (r : Region) : Prop :=
  ∀ artifact, r.source = .artifact artifact →
    r.policy = .ignore ∨ store.contains fs artifact = true

variable {tree : LayoutTree} {store : ArtifactStore} {fs : Files}

private theorem checkArtifacts_eq_ok_iff {container : String} {regions : List Region} :
    checkArtifacts store fs container regions = .ok () ↔ ∀ r ∈ regions, Provided store fs r := by
  induction regions with
  | nil => simp [checkArtifacts]
  | cons r rest ih =>
    unfold checkArtifacts
    rw [List.forall_mem_cons, ← ih]
    cases hsource : r.source with
    | container child => simp [Provided, hsource]
    | artifact artifact =>
      by_cases hprovided : r.policy = .ignore ∨ store.contains fs artifact = true
      · simp [Provided, hsource, hprovided]
      · simp [Provided, hsource, hprovided]

theorem exists_of_checkArtifacts_error {container : String} {regions : List Region} {e : Error}
    (h : checkArtifacts store fs container regions = .error e) :
    ∃ r ∈ regions, ∃ artifact, r.source = .artifact artifact ∧ r.policy ≠ .ignore ∧
      store.contains fs artifact = false ∧ e = missingArtifact container r artifact := by
  induction regions with
  | nil => cases h
  | cons r rest ih =>
    rw [checkArtifacts] at h
    split at h
    · obtain ⟨s, hs, hlacks⟩ := ih h
      exact ⟨s, List.mem_cons_of_mem r hs, hlacks⟩
    · rename_i artifact source
      split at h
      · obtain ⟨s, hs, hlacks⟩ := ih h
        exact ⟨s, List.mem_cons_of_mem r hs, hlacks⟩
      · rename_i hlacks
        rw [not_or, Bool.not_eq_true] at hlacks
        cases h
        exact ⟨r, List.mem_cons_self, artifact, source, hlacks.1, hlacks.2, rfl⟩

theorem checkAll_eq_ok_iff {containers : List Container} :
    checkAll store fs containers = .ok () ↔
      ∀ c ∈ containers, ∀ r ∈ c.regions, Provided store fs r := by
  induction containers with
  | nil => simp [checkAll]
  | cons c rest ih =>
    rw [List.forall_mem_cons, ← ih, ← @checkArtifacts_eq_ok_iff store fs c.name]
    cases hc : checkArtifacts store fs c.name c.regions with
    | error e => simp [checkAll, hc]
    | ok u => simp [checkAll, hc]

/-- A container of the layout whose artifacts are all there. -/
def Supplied (tree : LayoutTree) (store : ArtifactStore) (fs : Files) (name : String) : Prop :=
  ∃ c, tree.find? name = some c ∧ ∀ r ∈ c.regions, Provided store fs r

/-- Containers that have their artifacts and embed none but one another. -/
structure Checked (tree : LayoutTree) (store : ArtifactStore) (fs : Files) (names : List String) :
    Prop where
  supplied : ∀ name ∈ names, Supplied tree store fs name
  closed : ∀ name ∈ names, ∀ inner, tree.Embeds name inner → inner ∈ names

/-- The work list comes to containers that embed none but one another. What has been seen embeds
only what has been seen or is pending. -/
theorem checked_of_checkReached {seen pending : List String}
    (h : checkReached tree store fs seen pending = .ok ())
    (supplied : ∀ name ∈ seen, Supplied tree store fs name)
    (closed : ∀ name ∈ seen, ∀ inner, tree.Embeds name inner → inner ∈ seen ∨ inner ∈ pending) :
    ∃ names, seen ⊆ names ∧ pending ⊆ names ∧ Checked tree store fs names := by
  fun_induction checkReached tree store fs seen pending with
  | case1 seen =>
    refine ⟨seen, List.Subset.refl seen, List.nil_subset seen, supplied, ?_⟩
    intro name hname inner he
    exact (closed name hname inner he).resolve_right List.not_mem_nil
  | case2 seen name rest hs ih =>
    have hclosed : ∀ name' ∈ seen, ∀ inner, tree.Embeds name' inner →
        inner ∈ seen ∨ inner ∈ rest := by
      intro name' hname inner he
      rcases closed name' hname inner he with hinner | hinner
      · exact .inl hinner
      · rcases List.mem_cons.1 hinner with rfl | hinner
        · exact .inl hs
        · exact .inr hinner
    obtain ⟨names, hseen, hrest, hchecked⟩ := ih h supplied hclosed
    exact ⟨names, hseen, List.cons_subset.2 ⟨hseen hs, hrest⟩, hchecked⟩
  | case3 => cases h
  | case4 => cases h
  | case5 seen name rest hs c hc hartifacts _ ih =>
    have hsupplied : ∀ name' ∈ name :: seen, Supplied tree store fs name' :=
      List.forall_mem_cons.2 ⟨⟨c, hc, checkArtifacts_eq_ok_iff.1 hartifacts⟩, supplied⟩
    have hclosed : ∀ name' ∈ name :: seen, ∀ inner, tree.Embeds name' inner →
        inner ∈ name :: seen ∨ inner ∈ c.children.reverse ++ rest := by
      intro name' hname inner he
      rcases List.mem_cons.1 hname with rfl | hname
      · rw [LayoutTree.embeds_iff, LayoutTree.children_of_find? hc] at he
        exact .inr (List.mem_append_left rest (List.mem_reverse.2 he))
      · rcases closed name' hname inner he with hinner | hinner
        · exact .inl (List.mem_cons_of_mem name hinner)
        · rcases List.mem_cons.1 hinner with rfl | hinner
          · exact .inl List.mem_cons_self
          · exact .inr (List.mem_append_right _ hinner)
    obtain ⟨names, hseen, hrest, hchecked⟩ := ih h hsupplied hclosed
    obtain ⟨hname, hseen⟩ := List.cons_subset.1 hseen
    obtain ⟨-, hrest⟩ := List.append_subset.1 hrest
    exact ⟨names, hseen, List.cons_subset.2 ⟨hname, hrest⟩, hchecked⟩

theorem checked_of_preflight {job : StitchJob} (h : job.preflight fs = .ok ()) :
    job.tree.WellFormed ∧ Checked job.tree job.store fs job.tree.names := by
  unfold preflight at h
  split at h
  · cases h
  rename_i hvalid
  have hwell := LayoutTree.WellFormed.of_validate hvalid
  refine ⟨hwell, ?_, ?_⟩
  · intro name hname
    obtain ⟨c, hc, rfl⟩ := List.mem_map.1 hname
    exact ⟨c, LayoutTree.find?_name hc, checkAll_eq_ok_iff.1 h c hc⟩
  · intro name _ inner he
    obtain ⟨c, hc, r, hr, hsource⟩ := LayoutTree.exists_of_embeds he
    obtain ⟨d, hd, rfl, -⟩ :=
      (hwell.regionFits c (LayoutTree.mem_of_find? hc) r hr).holds inner hsource
    exact List.mem_map.2 ⟨d, hd, rfl⟩

theorem checked_of_preflightFor {job : StitchJob} {name : String}
    (h : job.preflightFor fs name = .ok ()) :
    job.tree.WellFormed ∧ ∃ names, name ∈ names ∧ Checked job.tree job.store fs names := by
  unfold preflightFor at h
  split at h
  · cases h
  rename_i hvalid
  obtain ⟨names, -, hname, hchecked⟩ :=
    checked_of_checkReached h (fun _ hname => absurd hname List.not_mem_nil)
      fun _ hname => absurd hname List.not_mem_nil
  exact ⟨LayoutTree.WellFormed.of_validate hvalid, names, hname List.mem_cons_self, hchecked⟩

end StitchJob
end FlashImage
