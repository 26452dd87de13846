import FlashImage.Proofs.Files.Walk
import FlashImage.Proofs.Stitch.Preflight

/-!
Where the check for an artifact and its lookup agree.

The check passes over all that is no regular file. The lookup passes over what is missing only, and
it fails at the first path on which it meets something else than a file. So the two agree exactly if
the first thing that is met is a file.
-/

set_option autoImplicit false
set_option relaxedAutoImplicit false

namespace FlashImage

namespace Files

variable {fs : Files} {path : String}

def NoDevices (fs : Files) : Prop := ∀ l, fs.entryAt? l ≠ some .null

private theorem noDevices_of_entries (h : ∀ entry ∈ fs.entries, entry.2 ≠ .null) :
    fs.NoDevices := by
  intro l hl
  unfold entryAt? at hl
  split at hl
  · cases hl
  · obtain ⟨before, after, heq, -⟩ := List.lookup_eq_some_iff.1 hl
    have hmem : (l, Entry.null) ∈ fs.entries := by simp [heq]
    exact h _ hmem rfl

private theorem entry_of_find {l : Location} {e : Entry} (h : fs.find path = .ok (l, e)) :
    e = .directory ∨ fs.entryAt? l = some e ∧ ∀ way, e ≠ .link way := by
  unfold find at h
  split at h
  · cases h
  rename_i t hreach
  unfold entryOf at h
  split at h
  · cases h
    exact .inl rfl
  · cases h
    exact .inl rfl
  rename_i d name slash
  have hlink : ∀ way, fs.entryAt? (d ++ [name]) ≠ some (.link way) := by
    unfold reach at hreach
    split at hreach
    · cases hreach
    · exact ne_link_of_reachFrom hreach
  split at h
  · cases h
  · cases h
  · cases h
    exact .inl rfl
  · rename_i l' entry _ hin
    split at h
    · cases h
    cases h
    obtain ⟨-, rfl, hentry⟩ := entryAt?_of_inDirectory hin
    refine .inr ⟨hentry, fun way heq => hlink way ?_⟩
    rw [hentry, heq]

private theorem NoDevices.isFile_of_read {data : Bytes} (h : fs.NoDevices)
    (hread : fs.read path = .ok data) : fs.isFile path = true := by
  unfold read at hread
  unfold isFile
  split at hread
  · cases hread
  · cases hread
  · rename_i hfind
    simp only [hfind]
  · rename_i l e hdirectory hfile hfind
    exfalso
    rcases entry_of_find hfind with rfl | ⟨hentry, hlink⟩
    · exact hdirectory rfl
    · cases e with
      | file content => exact hfile content rfl
      | directory => exact hdirectory rfl
      | link way => exact hlink way rfl
      | null => exact h l hentry

end Files

namespace ArtifactStore

variable {s : ArtifactStore} {fs : Files} {name : String}

/-- The first path of an artifact on which something is met. -/
def met? (s : ArtifactStore) (fs : Files) (name : String) : Option String :=
  (s.candidates name).find? fun path => decide (fs.read path ≠ .error .notFound)

/-- The check for an artifact and its lookup agree on whether it is there. If it is, the lookup
gives the blob of its name or else the content of its file. -/
structure Agrees (s : ArtifactStore) (fs : Files) (name : String) : Prop where
  found : s.contains fs name = true ↔ ∃ data, s.load fs name = .ok (some data)
  content : ∀ data, s.load fs name = .ok (some data) →
    s.blob? name = some data ∨ s.blob? name = none ∧
      ∃ path, s.locate fs name = some path ∧ fs.read path = .ok data
  lacking : s.contains fs name = false ↔ s.load fs name = .ok none

private theorem loadFirst_eq (fs : Files) (paths : List String) :
    loadFirst fs paths =
      match paths.find? fun path => decide (fs.read path ≠ .error .notFound) with
      | none => .ok none
      | some path => ((fs.read path).map some).mapError (Error.file path) := by
  induction paths with
  | nil => rfl
  | cons first rest ih =>
    rw [List.find?_cons]
    cases hread : fs.read first with
    | ok data => simp [loadFirst, hread, Except.map, Except.mapError]
    | error fault =>
      by_cases hfault : fault = .notFound
      · subst hfault
        simp [loadFirst, hread, ih]
      · simp [loadFirst, hread, hfault, Except.map, Except.mapError]

theorem load_of_blob (fs : Files) {data : Bytes} (h : s.blob? name = some data) :
    s.load fs name = .ok (some data) := by
  simp only [load, h]

private theorem load_of_met {path : String} (blob : s.blob? name = none)
    (met : s.met? fs name = some path) :
    s.load fs name = ((fs.read path).map some).mapError (Error.file path) := by
  unfold met? at met
  simp only [load, blob, loadFirst_eq, met]

private theorem load_of_met_eq_none (blob : s.blob? name = none) (met : s.met? fs name = none) :
    s.load fs name = .ok none := by
  unfold met? at met
  simp only [load, blob, loadFirst_eq, met]

private theorem contains_of_blob_eq_none (blob : s.blob? name = none) :
    s.contains fs name = (s.locate fs name).isSome := by
  simp [contains, blob]

private theorem read_ne_notFound_of_isFile {path : String} (h : fs.isFile path = true) :
    fs.read path ≠ .error .notFound := by
  obtain ⟨data, hdata⟩ := Files.read_of_isFile h
  rw [hdata]
  exact fun heq => nomatch heq

private theorem locate_of_met_eq_none (met : s.met? fs name = none) : s.locate fs name = none := by
  rw [met?, List.find?_eq_none] at met
  rw [locate, List.find?_eq_none]
  intro path hpath hfile
  exact met path hpath (decide_eq_true (read_ne_notFound_of_isFile hfile))

private theorem locate_of_met {path : String} (met : s.met? fs name = some path)
    (file : fs.isFile path = true) : s.locate fs name = some path := by
  obtain ⟨-, before, after, heq, hbefore⟩ := List.find?_eq_some_iff_append.1 met
  refine List.find?_eq_some_iff_append.2 ⟨file, before, after, heq, fun q hq => ?_⟩
  have hmissing := hbefore q hq
  by_contra hfile
  simp only [Bool.not_eq_true', Bool.not_eq_false] at hfile
  simp [read_ne_notFound_of_isFile hfile] at hmissing

private theorem agrees_of_some {data : Bytes} (contains : s.contains fs name = true)
    (load : s.load fs name = .ok (some data))
    (source : s.blob? name = some data ∨ s.blob? name = none ∧
      ∃ path, s.locate fs name = some path ∧ fs.read path = .ok data) : s.Agrees fs name := by
  refine ⟨by simp [contains, load], fun data' hdata => ?_, by simp [contains, load]⟩
  rw [load] at hdata
  cases hdata
  exact source

private theorem agrees_of_none (contains : s.contains fs name = false)
    (load : s.load fs name = .ok none) : s.Agrees fs name :=
  ⟨by simp [contains, load], fun data hdata => by simp [load] at hdata, by simp [contains, load]⟩

private theorem agrees_of_blob {data : Bytes} (blob : s.blob? name = some data) :
    s.Agrees fs name :=
  agrees_of_some (by simp [contains, blob]) (load_of_blob fs blob) (.inl blob)

private theorem agrees_of_met_eq_none (blob : s.blob? name = none) (met : s.met? fs name = none) :
    s.Agrees fs name := by
  refine agrees_of_none ?_ (load_of_met_eq_none blob met)
  rw [contains_of_blob_eq_none blob, locate_of_met_eq_none met]
  rfl

private theorem agrees_of_file {path : String} (blob : s.blob? name = none)
    (met : s.met? fs name = some path) (file : fs.isFile path = true) : s.Agrees fs name := by
  obtain ⟨data, hread⟩ := Files.read_of_isFile file
  have hlocate := locate_of_met met file
  have hcontains : s.contains fs name = true := by
    rw [contains_of_blob_eq_none blob, hlocate]
    rfl
  have hload : s.load fs name = .ok (some data) := by
    rw [load_of_met blob met, hread]
    rfl
  exact agrees_of_some hcontains hload (.inr ⟨blob, path, hlocate, hread⟩)

private theorem Agrees.load_ne_error (h : s.Agrees fs name) (e : Error) :
    s.load fs name ≠ .error e := by
  intro hload
  cases hcontains : s.contains fs name with
  | true =>
    obtain ⟨data, hdata⟩ := h.found.1 hcontains
    rw [hload] at hdata
    cases hdata
  | false =>
    have hnone := h.lacking.1 hcontains
    rw [hload] at hnone
    cases hnone

private theorem load_error_of_met (noDevices : fs.NoDevices) {path : String}
    (blob : s.blob? name = none) (met : s.met? fs name = some path)
    (other : ¬ fs.isFile path = true) :
    ∃ fault, s.load fs name = .error (.file path fault) := by
  cases hread : fs.read path with
  | ok data => exact absurd (noDevices.isFile_of_read hread) other
  | error fault =>
    refine ⟨fault, ?_⟩
    rw [load_of_met blob met, hread]
    rfl

/-- The check for an artifact and its lookup agree exactly if there is a blob of the name, or
nothing is met on the paths of the artifact, or the first thing that is met is a file. Otherwise the
lookup fails on that thing, whatever the check says. -/
theorem agrees_iff {s : ArtifactStore} {fs : Files} {name : String} (noDevices : fs.NoDevices) :
    (s.Agrees fs name ↔
      (s.blob? name).isSome = true ∨
        ∀ path, s.met? fs name = some path → fs.isFile path = true) ∧
    (¬ s.Agrees fs name ↔
      ∃ path fault, s.met? fs name = some path ∧ s.load fs name = .error (.file path fault)) := by
  cases hblob : s.blob? name with
  | some data =>
    have hagrees : s.Agrees fs name := agrees_of_blob hblob
    simp [hagrees, load_of_blob fs hblob]
  | none =>
    cases hmet : s.met? fs name with
    | none =>
      have hagrees := agrees_of_met_eq_none hblob hmet
      simp [hagrees]
    | some path =>
      by_cases hfile : fs.isFile path = true
      · have hagrees := agrees_of_file hblob hmet hfile
        have hload := hagrees.load_ne_error
        simp [hagrees, hfile, hload]
      · obtain ⟨fault, hfails⟩ := load_error_of_met noDevices hblob hmet hfile
        have hdisagrees : ¬ s.Agrees fs name := fun h => h.load_ne_error _ hfails
        simp [hdisagrees, hfile, hfails]

def shadowedFiles : Files where
  entries := [
    (["first", "KEY"], .directory), (["second", "KEY"], .file [7]), (["first"], .directory),
    (["second"], .directory)]
  current := []

private theorem read_shadowedFiles : shadowedFiles.read "/first/KEY" = .error .isDirectory ∧
    shadowedFiles.isFile "/first/KEY" = false ∧ shadowedFiles.isFile "/second/KEY" = true := by
  have hfirst : shadowedFiles.find "/first/KEY" = .ok (["first", "KEY"], .directory) :=
    Files.find_of_leads (d := ["first"]) (by decide)
      (by decide : Path.splitLast "/first/KEY" = (["", "first"], .name "KEY" false))
      (.idle (.inl rfl) (.enter (by decide) (by decide) (.inl rfl) .done)) (by decide) rfl nofun
  have hsecond : shadowedFiles.find "/second/KEY" = .ok (["second", "KEY"], .file [7]) :=
    Files.find_of_leads (d := ["second"]) (by decide)
      (by decide : Path.splitLast "/second/KEY" = (["", "second"], .name "KEY" false))
      (.idle (.inl rfl) (.enter (by decide) (by decide) (.inl rfl) .done)) (by decide) rfl nofun
  refine ⟨?_, ?_, ?_⟩
  · rw [Files.read, hfirst]
  · rw [Files.isFile, hfirst]
  · rw [Files.isFile, hsecond]

private theorem candidates_shadowed : (ofDirectories ["/first", "/second"]).candidates "KEY" =
    ["/first/KEY", "/second/KEY"] ∧
      (ofDirectories ["/second", "/first"]).candidates "KEY" = ["/second/KEY", "/first/KEY"] := by
  constructor <;> cbv

/-- The directory that hides the artifact lets the check pass and the lookup fail. -/
theorem not_agrees_shadowed :
    let s := ofDirectories ["/first", "/second"]
    shadowedFiles.NoDevices ∧ s.contains shadowedFiles "KEY" = true ∧
      s.load shadowedFiles "KEY" = .error (.file "/first/KEY" .isDirectory) ∧
      ¬ s.Agrees shadowedFiles "KEY" := by
  obtain ⟨hread, hdirectory, hfile⟩ := read_shadowedFiles
  have hcontains : (ofDirectories ["/first", "/second"]).contains shadowedFiles "KEY" = true := by
    rw [contains_of_blob_eq_none rfl, locate, candidates_shadowed.1]
    simp [hdirectory, hfile]
  have hload : (ofDirectories ["/first", "/second"]).load shadowedFiles "KEY" =
      .error (.file "/first/KEY" .isDirectory) := by
    simp only [load, ofDirectories, blob?, List.lookup_nil]
    rw [← ofDirectories, candidates_shadowed.1]
    simp [loadFirst, hread]
  exact ⟨Files.noDevices_of_entries (by decide), hcontains, hload, fun h => h.load_ne_error _ hload⟩

/-- With the directories the other way round, the artifact is met first. -/
theorem agrees_iff_shadowed :
    let s := ofDirectories ["/second", "/first"]
    shadowedFiles.NoDevices ∧ s.Agrees shadowedFiles "KEY" := by
  have hdevices : shadowedFiles.NoDevices := Files.noDevices_of_entries (by decide)
  obtain ⟨-, hdirectory, hfile⟩ := read_shadowedFiles
  have hmet : (ofDirectories ["/second", "/first"]).met? shadowedFiles "KEY" =
      some "/second/KEY" := by
    rw [met?, candidates_shadowed.2]
    exact List.find?_cons_of_pos (decide_eq_true (read_ne_notFound_of_isFile hfile))
  refine ⟨hdevices, (agrees_iff hdevices).1.2 (.inr fun path hpath => ?_)⟩
  rw [hmet] at hpath
  cases hpath
  exact hfile

end ArtifactStore
end FlashImage
