import FlashImage.Proofs.Files.Staging
import FlashImage.Proofs.Stitch.Output

/-!
What is written of an output, and what is left alone, on success and on failure.

The containers are put into one directory, one after another. Putting one there changes no way to
the directory but for a link in its place, so all of them go to the same directory, and each stays
there while the others are put beside it.
-/

set_option autoImplicit false
set_option relaxedAutoImplicit false

namespace FlashImage

namespace Files

variable {fs fs' : Files} {directory name name' : String} {l l' : Location} {content : Bytes}

private theorem Child.name_eq (h : fs.Child directory name l) (h' : fs.Child directory name' l) :
    name = name' := by
  obtain ⟨d, -, rfl⟩ := h
  obtain ⟨d', -, heq⟩ := h'
  exact List.singleton_inj.1 (List.append_inj' heq rfl).2

namespace Admits

variable (admits : fs.Admits directory name l)

include admits

theorem entryAt?_put (m : Location) :
    (fs.put l (.file content)).entryAt? m =
      if m = l then some (.file content) else fs.entryAt? m := by
  obtain ⟨d, -, rfl⟩ := admits.child
  exact Files.entryAt?_put fs _ m _ (append_singleton_ne_nil d name)

private theorem entryAt?_of_put {m : Location} {e : Entry} (notFile : e ≠ .file content)
    (h : (fs.put l (.file content)).entryAt? m = some e) : fs.entryAt? m = some e := by
  rw [admits.entryAt?_put] at h
  split at h
  · exact absurd (Option.some.inj h).symm notFile
  · exact h

private theorem child_of_put (h : (fs.put l (.file content)).Child directory name' l') :
    fs.Child directory name' l' := by
  obtain ⟨d, hleads, rfl⟩ := h
  exact ⟨d, hleads.transfer rfl (fun m => admits.entryAt?_of_put (by simp))
    fun m p => admits.entryAt?_of_put (by simp), rfl⟩

private theorem of_put (h : (fs.put l (.file content)).Admits directory name' l') :
    fs.Admits directory name' l' := by
  refine ⟨admits.child_of_put h.child, h.valid, h.size, fun hdirectory => h.notDirectory ?_⟩
  rw [admits.entryAt?_put, if_neg]
  · exact hdirectory
  · rintro rfl
    exact admits.notDirectory hdirectory

end Admits

/-- Containers have been put into the directory of a path, and nothing else has changed. -/
structure Delivered (directory : String) (before after : Files)
    (containers : List (String × Bytes)) : Prop where
  held : ∀ c ∈ containers, ∃ l, before.Admits directory c.1 l ∧
    after.entryAt? l = some (.file c.2)
  others : ∀ l, (∀ c ∈ containers, ¬ before.Child directory c.1 l) →
    after.entryAt? l = before.entryAt? l
  current : after.current = before.current

theorem delivered_nil (directory : String) (fs : Files) : Delivered directory fs fs [] :=
  ⟨fun _ hc => (nomatch hc), fun _ _ => rfl, rfl⟩

theorem Admits.delivered (admits : fs.Admits directory name l) {rest : List (String × Bytes)}
    (others : ∀ c ∈ rest, c.1 ≠ name)
    (h : Delivered directory (fs.put l (.file content)) fs' rest) :
    Delivered directory fs fs' ((name, content) :: rest) := by
  refine ⟨List.forall_mem_cons.2 ⟨⟨l, admits, ?_⟩, fun c hc => ?_⟩, fun m hm => ?_, h.current⟩
  · rw [h.others l, admits.entryAt?_put, if_pos rfl]
    intro c hc hchild
    exact others c hc ((admits.child_of_put hchild).name_eq admits.child)
  · obtain ⟨l', hadmits, hentry⟩ := h.held c hc
    exact ⟨l', admits.of_put hadmits, hentry⟩
  · obtain ⟨hfirst, hrest⟩ := List.forall_mem_cons.1 hm
    rw [h.others m fun c hc hchild => hrest c hc (admits.child_of_put hchild),
      admits.entryAt?_put, if_neg]
    rintro rfl
    exact hfirst admits.child

theorem Admits.delivered_singleton (admits : fs.Admits directory name l) :
    Delivered directory fs (fs.put l (.file content)) [(name, content)] :=
  admits.delivered (fun _ hc => nomatch hc) (delivered_nil directory _)

/-- No container is delivered in the place of a directory. -/
theorem Delivered.name_ne {containers : List (String × Bytes)} {d : Location}
    (h : Delivered directory fs fs' containers) (leadsTo : fs.LeadsTo directory d)
    (blocked : fs.entryAt? (d ++ [name]) = some .directory) : ∀ c ∈ containers, c.1 ≠ name := by
  rintro c hc rfl
  obtain ⟨l, hadmits, -⟩ := h.held c hc
  obtain ⟨d', hd, rfl⟩ := hadmits.child
  rw [← hd.unique leadsTo] at hadmits
  exact hadmits.notDirectory blocked

private theorem Delivered.entryAt?_of_child {containers rest : List (String × Bytes)}
    (h : Delivered directory fs fs' containers)
    (distinct : ((containers ++ rest).map (·.1)).Nodup) {c : String × Bytes} (hc : c ∈ rest)
    (child : fs.Child directory c.1 l) : fs'.entryAt? l = fs.entryAt? l := by
  refine h.others l fun c' hc' child' => ?_
  rw [List.map_append, List.nodup_append] at distinct
  exact distinct.2.2 c'.1 (List.mem_map_of_mem hc') c.1 (List.mem_map_of_mem hc)
    (child'.name_eq child)

private theorem Delivered.entryAt?_cases {containers : List (String × Bytes)}
    (h : Delivered directory fs fs' containers) (m : Location) :
    fs'.entryAt? m = fs.entryAt? m ∨
      fs.entryAt? m ≠ some .directory ∧ ∃ content, fs'.entryAt? m = some (.file content) := by
  by_cases hplace : ∃ c ∈ containers, fs.Child directory c.1 m
  · obtain ⟨c, hc, d, hleads, rfl⟩ := hplace
    obtain ⟨l, hadmits, hentry⟩ := h.held c hc
    obtain ⟨d', hleads', rfl⟩ := hadmits.child
    rw [hleads.unique hleads'] at hadmits hentry
    exact .inr ⟨hadmits.notDirectory, c.2, hentry⟩
  · exact .inl (h.others m fun c hc child => hplace ⟨c, hc, child⟩)

/-- A location at which a name is looked up on the way to a directory. -/
def Crosses (fs : Files) (directory : String) (m : Location) : Prop :=
  fs.Passes linkLimit (startOf directory fs.current) (Path.parts directory) m

/-- The way to a directory goes over a link that is in the place of one of some containers there. -/
def CutBy (fs : Files) (directory : String) (containers : List (String × Bytes)) : Prop :=
  ∃ c ∈ containers, ∃ l way, fs.Child directory c.1 l ∧ fs.Crosses directory l ∧
    fs.entryAt? l = some (.link way)

/-- A way on which a name is looked up leads nowhere once a file stands there, if all that is new
on it are files. -/
private theorem Passes.not_leads {links : Nat} {m d : Location} {parts : List String}
    (h : fs.Passes links l parts m) (file : fs'.entryAt? m = some (.file content))
    (cases : ∀ m, fs'.entryAt? m = fs.entryAt? m ∨
      ∃ content, fs'.entryAt? m = some (.file content)) :
    ¬ fs'.Leads false links l parts d := by
  have hold {m : Location} {e : Entry} (he : ∀ content, e ≠ .file content)
      (h : fs'.entryAt? m = some e) : fs.entryAt? m = some e := by
    rcases cases m with same | ⟨content, hfile⟩
    · exact same.symm.trans h
    · exact absurd (Option.some.inj (h.symm.trans hfile)) (he content)
  intro leads
  induction h with
  | idle idle _ ih => exact ih file (leads.of_idle idle)
  | up _ ih => exact ih file leads.of_up
  | name named =>
    rcases leads.of_name named with ⟨hentry, -⟩ | ⟨_, _, -, hentry, -⟩ <;>
      cases file.symm.trans hentry
  | enter named directory _ ih =>
    rcases leads.of_name named with ⟨-, onward⟩ | ⟨_, _, -, link, -⟩
    · exact ih file onward
    · cases directory.symm.trans (hold (by simp) link)
  | link named link _ ih =>
    rcases leads.of_name named with ⟨directory, -⟩ | ⟨_, _, heq, link', onward⟩
    · cases link.symm.trans (hold (by simp) directory)
    · cases heq
      cases link.symm.trans (hold (by simp) link')
      exact ih file onward

private theorem exists_leadsTo_of_find {r : Location × Entry} (plain : PlainName name)
    (h : fs.find (Path.join directory name) = .ok r) :
    ∃ d, fs.LeadsTo directory d ∧
      fs.target (Path.join directory name) = .ok ⟨d, .name name false⟩ := by
  rcases htarget : fs.target (Path.join directory name) with fault | t
  · rw [find, reach_of_target_error htarget] at h
    cases h
  · obtain ⟨-, d, hleads, rfl⟩ := (target_join_eq_ok_iff plain).1 htarget
    exact ⟨d, hleads, rfl⟩

/-- What is looked up to reach a path is in the place of one of some containers, and is no
directory. -/
def Meets (fs : Files) (path directory : String) (containers : List (String × Bytes)) : Prop :=
  ∃ c ∈ containers, ∃ l, fs.Child directory c.1 l ∧ fs.Visits linkLimit fs.current path l ∧
    fs.entryAt? l ≠ some .directory

theorem Meets.mono {path : String} {containers more : List (String × Bytes)}
    (h : fs.Meets path directory containers) (subset : ∀ c ∈ containers, c ∈ more) :
    fs.Meets path directory more := by
  obtain ⟨c, hc, meets⟩ := h
  exact ⟨c, subset c hc, meets⟩

theorem exists_find_of_read {path : String} (h : fs.read path = .ok content) :
    ∃ r, fs.find path = .ok r := by
  rcases hfind : fs.find path with fault | r
  · rw [Files.read, hfind] at h
    cases h
  · exact ⟨r, rfl⟩

section

variable {containers : List (String × Bytes)} {c : String × Bytes}

/-- A file that is read by a path in a directory is read as before once containers have been put
there, if the way to it does not meet any of them. -/
theorem Delivered.read_eq {before : Files} (plain : PlainName name)
    (read : before.read (Path.join directory name) = .ok content)
    (current : fs.current = before.current)
    (same : ∀ m, before.Visits linkLimit before.current (Path.join directory name) m →
      fs.entryAt? m = before.entryAt? m)
    (h : Delivered directory fs fs' containers)
    (clear : ¬ before.Meets (Path.join directory name) directory containers) :
    fs'.read (Path.join directory name) = .ok content := by
  obtain ⟨r, hfind⟩ := exists_find_of_read read
  have hafter : ∀ m, before.Visits linkLimit before.current (Path.join directory name) m →
      fs'.entryAt? m = before.entryAt? m := by
    intro m hm
    rw [← same m hm]
    rcases h.entryAt?_cases m with hsame | ⟨hnot, -⟩
    · exact hsame
    refine h.others m fun c hc ⟨d, hleads, hplace⟩ => clear ⟨c, hc, m, ⟨d, ?_, hplace⟩, hm, ?_⟩
    · -- The path leads over the same directory among the files before.
      obtain ⟨d', hd', htarget⟩ := exists_leadsTo_of_find plain hfind
      rw [← target_congr current same] at htarget
      obtain ⟨-, d'', hd'', heq⟩ := (target_join_eq_ok_iff plain).1 htarget
      cases heq
      rwa [hd''.unique hleads]
    · rwa [← same m hm]
  rw [Files.read, find_congr (h.current.trans current) hafter, ← Files.read]
  exact read

theorem Delivered.leadsTo {d : Location} (h : Delivered directory fs fs' containers)
    (leadsTo : fs.LeadsTo directory d) (whole : ¬ fs.CutBy directory containers) :
    fs'.LeadsTo directory d := by
  have hsame : ∀ m, fs.Crosses directory m → fs'.entryAt? m = fs.entryAt? m := by
    intro m hcrosses
    rcases leadsTo.leads.entry_of_passes hcrosses with hdirectory | ⟨way, hlink⟩
    · exact (h.entryAt?_cases m).resolve_right fun hfile => hfile.1 hdirectory
    · exact h.others m fun c hc child => whole ⟨c, hc, m, way, child, hcrosses, hlink⟩
  rw [LeadsTo, follow, h.current, advance_congr hsame]
  exact leadsTo

private theorem Delivered.read_iff (h : Delivered directory fs fs' containers)
    (plain : ∀ c ∈ containers, PlainName c.1) (hc : c ∈ containers) :
    fs'.read (Path.join directory c.1) = .ok c.2 ↔ ¬ fs.CutBy directory containers := by
  obtain ⟨l, hadmits, hentry⟩ := h.held c hc
  obtain ⟨d, hleads, rfl⟩ := hadmits.child
  constructor
  · rintro hread ⟨c', hc', m, way, ⟨_, hleads', rfl⟩, hcrosses, -⟩
    obtain ⟨r, hfind⟩ := exists_find_of_read hread
    obtain ⟨d', hleads'', -⟩ := exists_leadsTo_of_find (plain c hc) hfind
    have hleads'' := hleads''.leads
    obtain ⟨_, hadmits', hfile⟩ := h.held c' hc'
    obtain ⟨_, hplace, rfl⟩ := hadmits'.child
    rw [hplace.unique hleads'] at hcrosses
    rw [h.current] at hleads''
    exact hcrosses.not_leads hfile (fun m => (h.entryAt?_cases m).imp_right And.right) hleads''
  · intro whole
    have htarget := (target_join_eq_ok_iff (plain c hc)).2
      ⟨hadmits.valid, d, h.leadsTo hleads whole, rfl⟩
    have hreach : fs'.reach (Path.join directory c.1) = .ok ⟨d, .name c.1 false⟩ := by
      refine reach_of_target htarget fun d' s slash way heq => ?_
      cases heq
      rw [hentry]
      nofun
    rw [Files.read, find, hreach]
    simp only [entryOf, inDirectory_of_size _ _ hadmits.size, hentry]
    rfl

end

end Files

namespace Build

variable {w : Workspace} {directory name : String} {d : Location}

theorem makeDirectories_of_find (found : w.files.find directory = .ok (d, .directory)) :
    makeDirectories directory w = (.ok (), w) := by
  rw [makeDirectories_eq, Files.makeDirectories_of_find found]
  rfl

theorem writeWhole_of_admits {content : Bytes} (plain : PlainName name)
    (leadsTo : w.files.LeadsTo directory d)
    (admits : w.files.Admits directory name (d ++ [name]))
    (prepares : w.files.Prepares (Files.preparation (Path.join directory name)) d)
    (permits : w.files.machine.Permits) :
    writeWhole (Path.join directory name) content w =
      (.ok (), { w with files := w.files.put (d ++ [name]) (.file content) }) := by
  rw [writeWhole_eq, Files.writeWhole_of_admits plain leadsTo admits prepares permits]
  rfl

end Build

namespace StitchOutput

structure PlainlyNamed (containers : List (String × Bytes)) : Prop where
  plain : ∀ c ∈ containers, PlainName c.1
  distinct : (containers.map (·.1)).Nodup

namespace PlainlyNamed

variable {containers fewer : List (String × Bytes)}

theorem sublist (h : PlainlyNamed containers) (hsub : fewer.Sublist containers) :
    PlainlyNamed fewer :=
  ⟨fun c hc => h.plain c (hsub.subset hc), (hsub.map _).nodup h.distinct⟩

private theorem nodup_paths (h : PlainlyNamed containers) (directory : String) :
    (containers.map fun c => Path.join directory c.1).Nodup := by
  have hpaths : ((containers.map (·.1)).map (Path.join directory)).Nodup := by
    refine h.distinct.map_on fun name hname name' hname' heq => ?_
    obtain ⟨c, hc, rfl⟩ := List.mem_map.1 hname
    obtain ⟨c', hc', rfl⟩ := List.mem_map.1 hname'
    exact Path.eq_of_join_eq (h.plain c hc).noSlash (h.plain c' hc').noSlash heq
  rwa [List.map_map] at hpaths

end PlainlyNamed

variable {directory : String} {w w' : Workspace} {containers : List (String × Bytes)}

private theorem writeEach_cons (directory name : String) (data : Bytes)
    (rest : List (String × Bytes)) :
    writeEach directory ((name, data) :: rest) = (do
      Build.writeWhole (Path.join directory name) data
      let paths ← writeEach directory rest
      return Path.join directory name :: paths) := rfl

private theorem delivered_of_writeEach {result : Except Error (List String)}
    (named : PlainlyNamed containers) (h : writeEach directory containers w = (result, w')) :
    ∃ k, Files.Delivered directory w.files w'.files (containers.take k) ∧
      (∀ paths, result = .ok paths →
        k = containers.length ∧ paths = containers.map fun c => Path.join directory c.1) ∧
      ∀ e, result = .error e → k < containers.length := by
  induction containers generalizing w result with
  | nil =>
    cases h
    refine ⟨0, Files.delivered_nil directory _, fun paths hpaths => ?_, nofun⟩
    cases hpaths
    exact ⟨rfl, rfl⟩
  | cons c rest ih =>
    obtain ⟨name, data⟩ := c
    have hplain : PlainName name := named.plain _ List.mem_cons_self
    have hnew : name ∉ rest.map (·.1) := (List.nodup_cons.1 named.distinct).1
    have hnamed := named.sublist (List.sublist_cons_self _ rest)
    rw [writeEach_cons] at h
    rcases of_bind h with ⟨e, hfails, rfl⟩ | ⟨_, w₁, hfirst, hothers⟩
    · obtain ⟨failure, hwrite⟩ := Build.of_writeWhole_error hfails
      have hfiles := Files.eq_of_writeWhole_error hwrite
      exact ⟨0, hfiles ▸ Files.delivered_nil directory _, nofun, fun _ _ => Nat.succ_pos _⟩
    obtain ⟨l, hadmits, hput⟩ := Files.admits_of_writeWhole hplain (Build.of_writeWhole_ok hfirst)
    -- What follows has other names, so the first container stays in its place.
    have hnext {k : Nat} {fs : Files}
        (delivered : Files.Delivered directory w₁.files fs (rest.take k)) :
        Files.Delivered directory w.files fs (((name, data) :: rest).take (k + 1)) := by
      rw [hput] at delivered
      refine hadmits.delivered (fun c hc heq => hnew ?_) delivered
      exact heq ▸ List.mem_map_of_mem (List.mem_of_mem_take hc)
    rcases of_bind hothers with ⟨e, hfails, rfl⟩ | ⟨paths, w₂, hsucceeds, hreturn⟩
    · obtain ⟨k, hdelivered, -, hless⟩ := ih hnamed hfails
      exact ⟨k + 1, hnext hdelivered, nofun, fun _ _ => Nat.succ_lt_succ (hless e rfl)⟩
    · cases hreturn
      obtain ⟨k, hdelivered, hall, -⟩ := ih hnamed hsucceeds
      obtain ⟨rfl, rfl⟩ := hall paths rfl
      refine ⟨rest.length + 1, hnext hdelivered, fun _ hpaths => ?_, nofun⟩
      cases hpaths
      exact ⟨rfl, rfl⟩

variable {o : StitchOutput} {intermediates : Bool}

theorem written_sublist (o : StitchOutput) (intermediates : Bool) :
    (o.written intermediates).Sublist o.containers := by
  cases intermediates with
  | true => exact List.Sublist.refl _
  | false =>
    cases hlast : o.containers.getLast? with
    | none => simp [written, final?, hlast]
    | some c => simpa [written, final?, hlast] using List.mem_of_getLast? hlast

theorem getLast?_written (o : StitchOutput) (intermediates : Bool) :
    (o.written intermediates).getLast? = o.final? := by
  cases intermediates with
  | true => rfl
  | false => cases hlast : o.containers.getLast? <;> simp [written, final?, hlast]

private theorem names_written (o : StitchOutput) (intermediates : Bool) :
    (o.written intermediates).map (·.1) =
      if intermediates then o.containers.map (·.1)
      else (o.containers.map (·.1)).getLast?.toList := by
  cases intermediates with
  | true => rfl
  | false =>
    rw [List.getLast?_map]
    exact Option.toList_map.symm

/-- Writing makes the directory, and then delivers all containers that are asked for, or fewer if it
fails. -/
theorem delivered_of_write {result : Except Error (List String)} (nonempty : o.containers ≠ [])
    (named : PlainlyNamed o.containers)
    (h : o.write directory intermediates w = (result, w')) :
    ∃ k, Files.Delivered directory (w.files.makeDirectories directory).2 w'.files
        ((o.written intermediates).take k) ∧
      (∀ paths, result = .ok paths → k = (o.written intermediates).length ∧
        paths = (o.written intermediates).map fun c => Path.join directory c.1) ∧
      ∀ e, result = .error e → k < (o.written intermediates).length := by
  have hempty : ¬ o.containers.isEmpty = true := by simpa using nonempty
  rw [write, if_neg hempty] at h
  rcases of_bind h with ⟨e, hfails, rfl⟩ | ⟨_, w₁, hmade, heach⟩
  · rw [Build.makeDirectories_eq] at hfails
    obtain ⟨-, rfl⟩ := Prod.mk.inj hfails
    refine ⟨0, Files.delivered_nil directory _, nofun, fun _ _ => List.length_pos_iff.2 ?_⟩
    rw [← List.getLast?_isSome, getLast?_written, final?, List.getLast?_isSome]
    exact nonempty
  · rw [Build.makeDirectories_eq] at hmade
    obtain ⟨-, rfl⟩ := Prod.mk.inj hmade
    exact delivered_of_writeEach (named.sublist (o.written_sublist intermediates)) heach

/-- The containers of a layout that has been validated are written into a directory, in the order of
the layout and the final one last, whatever the machine refuses on the way.

* The directory is made first. This makes directories where nothing was on the way of its path, and
  no other change.
* On success all of them are in their places in that directory with their bytes, and nothing else
  has changed. They are read by the paths that are returned, if and only if the way to the directory
  does not go over a link in the place of one of them.
* On failure those before some container are in their places, and not the final one. The others and
  all else are as they were; no file that has been prepared is left. -/
theorem write_of_validate {job : StitchJob} {m m' : StitchMemory} {w₀ w₁ : Workspace}
    {o : StitchOutput} (valid : job.tree.validate = .ok ())
    (call : job.stitchAll m w₀ = ((.ok o.containers, m'), w₁)) (directory : String)
    (intermediates : Bool) (w : Workspace) :
    let order := o.written intermediates
    let made := (w.files.makeDirectories directory).2
    order.map (·.1) =
        (if intermediates then job.tree.names else job.tree.names.getLast?.toList) ∧
      Files.Grown (w.files.OnWay directory) w.files made ∧
      (∀ paths w', o.write directory intermediates w = (.ok paths, w') →
        paths = order.map (fun c => Path.join directory c.1) ∧ paths.Nodup ∧
          Files.Delivered directory made w'.files order ∧
          ∀ c ∈ order, w'.files.read (Path.join directory c.1) = .ok c.2 ↔
            ¬ made.CutBy directory order) ∧
      ∀ e w', o.write directory intermediates w = (.error e, w') →
        ∃ k < order.length, Files.Delivered directory made w'.files (order.take k) ∧
          ∀ c ∈ order.drop k, ∀ l, made.Child directory c.1 l →
            w'.files.entryAt? l = made.entryAt? l := by
  have wellFormed := LayoutTree.WellFormed.of_validate valid
  have hnames : o.containers.map (·.1) = job.tree.names := StitchJob.names_of_stitchAll call
  have named : PlainlyNamed o.containers :=
    ⟨wellFormed.plainName_of_names hnames, hnames ▸ job.tree.distinct⟩
  have nonempty : o.containers ≠ [] := by
    intro hnil
    rw [hnil] at hnames
    exact wellFormed.containers_ne_nil (List.map_eq_nil_iff.1 hnames.symm)
  have hordered := named.sublist (o.written_sublist intermediates)
  refine ⟨hnames ▸ o.names_written intermediates, w.files.grown_of_makeDirectories directory,
    ?success, ?failure⟩
  case success =>
    intro paths w' hwrite
    obtain ⟨k, hdelivered, hall, -⟩ := delivered_of_write nonempty named hwrite
    obtain ⟨rfl, rfl⟩ := hall paths rfl
    rw [List.take_length] at hdelivered
    exact ⟨rfl, hordered.nodup_paths directory, hdelivered,
      fun c hc => hdelivered.read_iff hordered.plain hc⟩
  case failure =>
    intro e w' hwrite
    obtain ⟨k, hdelivered, -, hless⟩ := delivered_of_write nonempty named hwrite
    refine ⟨k, hless e rfl, hdelivered, fun c hc l child => ?_⟩
    have hdistinct := hordered.distinct
    rw [← List.take_append_drop k (o.written intermediates)] at hdistinct
    exact hdelivered.entryAt?_of_child hdistinct hc child

private theorem write_eq_of_find {name : String} {data : Bytes} {d : Location}
    (final : o.final? = some (name, data))
    (found : w.files.find directory = .ok (d, .directory)) :
    o.write directory false w =
      (do
        Build.writeWhole (Path.join directory name) data
        return [Path.join directory name]) w := by
  have hnonempty : ¬ o.containers.isEmpty = true := by
    intro hempty
    rw [final?, List.isEmpty_iff.1 hempty] at final
    cases final
  have hwritten : o.written false = [(name, data)] := by
    simp [written, final]
  rw [write, if_neg hnonempty, bind_eq_of_ok (Build.makeDirectories_of_find found), hwritten,
    writeEach_cons]
  rfl

/-- The final container is written into a directory that is there, if a file can be put there and no
change is refused. -/
theorem write_of_admits {name : String} {data : Bytes} {d : Location} (plain : PlainName name)
    (final : o.final? = some (name, data)) (found : w.files.find directory = .ok (d, .directory))
    (leadsTo : w.files.LeadsTo directory d)
    (admits : w.files.Admits directory name (d ++ [name]))
    (prepares : w.files.Prepares (Files.preparation (Path.join directory name)) d)
    (permits : w.files.machine.Permits) :
    o.write directory false w = (.ok [Path.join directory name],
      { w with files := w.files.put (d ++ [name]) (.file data) }) := by
  rw [write_eq_of_find final found,
    bind_eq_of_ok (Build.writeWhole_of_admits plain leadsTo admits prepares permits)]
  rfl

def suppliedJob : StitchJob :=
  { sampleJob with store := ⟨[("c", [9]), ("a", [1, 2, 3])], []⟩ }

def suppliedOutput : StitchOutput where
  containers := [
    ("STAGE", [1, 2, 0xFF, 0xFF]), ("IMAGE", [0xFF, 0xFF, 0xFF, 0xFF, 1, 2, 0xFF, 0xFF]),
    ("SPARE", [9, 0xFF, 0xFF, 0xFF])]

private theorem stitchAll_suppliedJob :
    (suppliedJob.stitchAll .empty sampleWorkspace).1.1 = .ok suppliedOutput.containers := by
  cbv

def oldFiles : Files where
  entries := [(["out"], .directory), (["out", "SPARE"], .file [7])]
  current := []

theorem leadsTo_out {fs : Files} (current : fs.current = [])
    (directory : fs.entryAt? ["out"] = some .directory) : fs.LeadsTo "out" ["out"] := by
  have hstart : Files.startOf "out" fs.current = [] := by
    rw [current]
    rfl
  rw [Files.LeadsTo, hstart, (by decide : Path.parts "out" = ["out"])]
  exact Files.Leads.follow (.enter (by decide) (by decide) (.inl directory) .done)

theorem find_out {fs : Files} (current : fs.current = [])
    (directory : fs.entryAt? ["out"] = some .directory) :
    fs.find "out" = .ok (["out"], .directory) := by
  refine Files.find_of_leads (d := []) (by decide)
    (by decide : Path.splitLast "out" = ([], .name "out" false)) ?_ (by decide) directory nofun
  rw [current]
  exact .done

def blockedFiles : Files := oldFiles.put ["out", "IMAGE"] .directory

/-- The old files on a machine on which files can be made, but not be filled. -/
def fullFiles : Files where
  entries := oldFiles.entries
  current := []
  machine := {
    temporaryName := Machine.sound.temporaryName
    refusal? := fun _ request =>
      match request with
      | .fill _ _ => some (.described "No space left on device")
      | _ => none }

def linkedFiles : Files where
  entries := [(["out"], .directory), (["out", "sub"], .directory), (["out", "SPARE"], .link "sub")]
  current := []

private theorem leads_linkedFiles :
    linkedFiles.Leads false Files.linkLimit [] ["out", "SPARE"] ["out", "sub"] := by
  refine .enter (by decide) (by decide) (.inl rfl) (.link (by decide) (by decide) rfl ?_)
  exact .enter (by decide) (by decide) (.inl rfl) .done

private theorem exists_error_of_refused {path : String} {content : Bytes} {fault : FileFault}
    (refuses : ∀ entries source,
      w.files.machine.refusal? entries (.fill source content) = some fault) :
    ∃ e w', Build.writeWhole path content w = (.error e, w') := by
  rcases hwrite : Build.writeWhole path content w with ⟨e | _, w'⟩
  · exact ⟨e, w', rfl⟩
  · obtain ⟨source, made, hmade, hfill⟩ :=
      Files.granted_of_writeWhole (Build.of_writeWhole_ok hwrite)
    obtain ⟨d, -, -, -, rfl⟩ := Files.of_createTemporary hmade
    simp only [Files.ask, Files.put, refuses] at hfill
    cases hfill

/-- The final container is written in place of its old file. Into the directory with another one in
the place of the second container, and on the machine on which no file can be filled, writing fails,
and the old file stays. -/
theorem write_of_validate_sample :
    suppliedJob.tree.validate = .ok () ∧
      (suppliedJob.stitchAll .empty sampleWorkspace).1.1 = .ok suppliedOutput.containers ∧
      (∃ w', suppliedOutput.write "out" false { sampleWorkspace with files := oldFiles } =
          (.ok ["out/SPARE"], w') ∧ w'.files.read "out/SPARE" = .ok [9, 0xFF, 0xFF, 0xFF]) ∧
      (∃ e w', suppliedOutput.write "out" true { sampleWorkspace with files := blockedFiles } =
          (.error e, w') ∧ w'.files.entryAt? ["out", "IMAGE"] = some .directory ∧
        w'.files.entryAt? ["out", "SPARE"] = some (.file [7])) ∧
      ∃ e w', suppliedOutput.write "out" false
          { sampleWorkspace with files := fullFiles } =
            (.error e, w') ∧ ∀ l, w'.files.entryAt? l = fullFiles.entryAt? l := by
  have hplain : PlainName "SPARE" := isFileName_iff.1 (by decide)
  have hwritten := write_of_validate (o := suppliedOutput)
    (sampleTree_validate : suppliedJob.tree.validate = .ok ())
    (Prod.ext (Prod.ext stitchAll_suppliedJob rfl) rfl) "out"
  refine ⟨sampleTree_validate, stitchAll_suppliedJob, ?written, ?blocked, ?refused⟩
  case written =>
    have hleads : oldFiles.LeadsTo "out" ["out"] := leadsTo_out rfl rfl
    have hfind : oldFiles.find "out" = .ok (["out"], .directory) := find_out rfl rfl
    have hadmits : oldFiles.Admits "out" "SPARE" ["out", "SPARE"] :=
      ⟨⟨_, hleads, rfl⟩, by decide, by decide, by decide⟩
    have hprepares : oldFiles.Prepares (Files.preparation (Path.join "out" "SPARE")) ["out"] :=
      ⟨by decide, by decide +kernel, by decide +kernel, by decide +kernel⟩
    have hwrite : suppliedOutput.write "out" false { sampleWorkspace with files := oldFiles } =
        (.ok ["out/SPARE"], _) :=
      write_of_admits hplain rfl hfind hleads hadmits hprepares fun _ _ _ => rfl
    obtain ⟨-, -, hsuccess, -⟩ := hwritten false { sampleWorkspace with files := oldFiles }
    simp only [Files.makeDirectories_of_find hfind] at hsuccess
    obtain ⟨-, -, -, hread⟩ := hsuccess _ _ hwrite
    refine ⟨_, hwrite, (hread _ List.mem_cons_self).2 ?_⟩
    rintro ⟨c, hc, l, way, ⟨d, hd, rfl⟩, -, hlink⟩
    obtain rfl : c = ("SPARE", [9, 0xFF, 0xFF, 0xFF]) := List.mem_singleton.1 hc
    rw [hleads.unique hd] at hlink
    cases hlink
  case blocked =>
    have hleads : blockedFiles.LeadsTo "out" ["out"] := leadsTo_out rfl rfl
    have hfind : blockedFiles.find "out" = .ok (["out"], .directory) := find_out rfl rfl
    obtain ⟨-, -, hsuccess, hfailure⟩ :=
      hwritten true { sampleWorkspace with files := blockedFiles }
    simp only [Files.makeDirectories_of_find hfind] at hsuccess hfailure
    have himage : ("IMAGE", [0xFF, 0xFF, 0xFF, 0xFF, 1, 2, 0xFF, 0xFF]) ∈
        suppliedOutput.written true := List.mem_cons_of_mem _ List.mem_cons_self
    rcases hwrite : suppliedOutput.write "out" true { sampleWorkspace with files := blockedFiles }
      with ⟨e | paths, w'⟩
    · obtain ⟨k, hk, hdelivered, hrest⟩ := hfailure e w' hwrite
      have hspare : ("SPARE", [9, 0xFF, 0xFF, 0xFF]) ∈ (suppliedOutput.written true).drop k := by
        change k < 3 at hk
        interval_cases k <;> decide
      rw [← List.take_append_drop k (suppliedOutput.written true), List.mem_append] at himage
      refine ⟨e, w', rfl, ?_, hrest _ hspare _ ⟨_, hleads, rfl⟩⟩
      rcases himage with himage | himage
      · exact absurd rfl (hdelivered.name_ne hleads rfl _ himage)
      · exact hrest _ himage _ ⟨_, hleads, rfl⟩
    · exact absurd rfl ((hsuccess paths w' hwrite).2.2.1.name_ne hleads rfl _ himage)
  case refused =>
    have hfind : fullFiles.find "out" = .ok (["out"], .directory) := find_out rfl rfl
    obtain ⟨-, -, -, hfailure⟩ := hwritten false { sampleWorkspace with files := fullFiles }
    simp only [Files.makeDirectories_of_find hfind] at hfailure
    obtain ⟨e, w', hrefused⟩ : ∃ e w', Build.writeWhole "out/SPARE" [9, 0xFF, 0xFF, 0xFF]
        { sampleWorkspace with files := fullFiles } = (.error e, w') :=
      exists_error_of_refused fun _ _ => rfl
    have hwrite : suppliedOutput.write "out" false { sampleWorkspace with files := fullFiles } =
        (.error e, w') := by
      rw [write_eq_of_find rfl hfind]
      exact bind_eq_of_error hrefused
    obtain ⟨k, hk, hdelivered, -⟩ := hfailure e w' hwrite
    obtain rfl : k = 0 := Nat.lt_one_iff.1 hk
    exact ⟨e, w', hwrite, fun l => hdelivered.others l nofun⟩

/-- A way over a link that is replaced on the way leads nowhere then, so that a container is written
without a failure and cannot be read by the path that is returned. -/
theorem write_through_link :
    let w : Workspace := { sampleWorkspace with files := linkedFiles }
    suppliedJob.tree.validate = .ok () ∧
      (suppliedJob.stitchAll .empty sampleWorkspace).1.1 = .ok suppliedOutput.containers ∧
      ∃ w', suppliedOutput.write "out/SPARE/.." false w = (.ok ["out/SPARE/../SPARE"], w') ∧
        w'.files.read "out/SPARE/../SPARE" ≠ .ok [9, 0xFF, 0xFF, 0xFF] := by
  intro w
  have hparts : Path.parts "out/SPARE/.." = ["out", "SPARE", ".."] := by decide
  have hleads : linkedFiles.LeadsTo "out/SPARE/.." ["out"] := by
    rw [Files.LeadsTo, hparts]
    refine Files.Leads.follow (.enter (by decide) (by decide) (.inl rfl) ?_)
    refine .link (by decide) (by decide) rfl ?_
    exact .enter (by decide) (by decide) (.inl rfl) (.up .done)
  have hcrosses : linkedFiles.Crosses "out/SPARE/.." ["out", "SPARE"] := by
    rw [Files.Crosses, hparts]
    exact .enter (by decide) rfl (.name (by decide))
  have hfind : linkedFiles.find "out/SPARE/.." = .ok (["out"], .directory) := by
    have htarget : linkedFiles.target "out/SPARE/.." = .ok ⟨["out", "sub"], .up⟩ := by
      rw [Files.target, (by decide : Files.checkPath "out/SPARE/.." = .ok ())]
      exact Files.targetFrom_of_leads (by decide) leads_linkedFiles
    rw [Files.find, Files.reach_of_target htarget (by simp)]
    rfl
  have hadmits : linkedFiles.Admits "out/SPARE/.." "SPARE" ["out", "SPARE"] :=
    ⟨⟨_, hleads, rfl⟩, by decide, by decide, by decide⟩
  have hprepares : linkedFiles.Prepares
      (Files.preparation (Path.join "out/SPARE/.." "SPARE")) ["out"] :=
    ⟨by decide, by decide +kernel, by decide +kernel, by decide +kernel⟩
  have hplain : PlainName "SPARE" := isFileName_iff.1 (by decide)
  have hwrite : suppliedOutput.write "out/SPARE/.." false w =
      (.ok ["out/SPARE/../SPARE"], { w with files := _ }) :=
    write_of_admits hplain rfl hfind hleads hadmits hprepares fun _ _ _ => rfl
  have hdelivered : Files.Delivered "out/SPARE/.." linkedFiles
      (linkedFiles.put ["out", "SPARE"] (.file [9, 0xFF, 0xFF, 0xFF]))
      [("SPARE", [9, 0xFF, 0xFF, 0xFF])] :=
    hadmits.delivered_singleton
  refine ⟨sampleTree_validate, stitchAll_suppliedJob, _, hwrite, fun hread => ?_⟩
  refine (hdelivered.read_iff (by simpa using hplain) List.mem_cons_self).1 hread ?_
  exact ⟨_, List.mem_cons_self, ["out", "SPARE"], "sub", ⟨_, hleads, rfl⟩, hcrosses, rfl⟩

end StitchOutput
end FlashImage
