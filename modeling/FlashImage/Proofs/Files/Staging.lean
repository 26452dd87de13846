import FlashImage.Proofs.Files.Directory

/-!
Replacing a file by way of another one that is prepared beside it.

A new file is made in the same directory, gets the content and is moved to its place in one step.
Whatever fails on the way, the new file is taken away, and all is as it was. If nothing fails, the
content has been put at its place and nothing else has changed, whatever name the new file had.
-/

set_option autoImplicit false
set_option relaxedAutoImplicit false

namespace FlashImage

def Machine.Permits (m : Machine) : Prop :=
  ∀ entries request, (∀ before more, request ≠ .print before more) →
    m.refusal? entries request = none

namespace Files

variable {fs fs' : Files} {l d source : Location}
  {directory name temporary path sourcePath : String}
  {content : Bytes} {e : Entry}

private theorem filter_of_free (hl : l ≠ []) (free : fs.entryAt? l = none) :
    fs.entries.filter (·.1 ≠ l) = fs.entries := by
  rw [entryAt?, if_neg hl, List.lookup_eq_none_iff] at free
  exact List.filter_eq_self.2 fun entry hentry =>
    decide_eq_true fun heq => by simpa [heq] using free entry hentry

private theorem remove_put_of_free (hl : l ≠ []) (free : fs.entryAt? l = none) :
    (fs.put l e).remove l = fs := by
  have hkeeps := filter_of_free hl free
  rw [put, remove]
  simp only [hkeeps]
  rw [List.filter_cons_of_neg (by simp), hkeeps]

private theorem put_put (fs : Files) (l : Location) (e e' : Entry) :
    (fs.put l e).put l e' = fs.put l e' := by
  rw [put, put, put]
  simp

private theorem LeadsTo.put_of_free (h : fs.LeadsTo path d) {place : Location}
    (free : fs.entryAt? (place ++ [name]) = none) :
    (fs.put (place ++ [name]) e).LeadsTo path d := by
  have hstays : ∀ m e', fs.entryAt? m = some e' →
      (fs.put (place ++ [name]) e).entryAt? m = some e' := by
    intro m e' he
    rw [entryAt?_put_of_ne, he]
    rintro rfl
    rw [free] at he
    cases he
  exact h.transfer rfl (fun m => hstays m _) fun m p => hstays m _

/-- A location is that of a name in the directory to which a path leads. -/
def Child (fs : Files) (directory name : String) (l : Location) : Prop :=
  ∃ d, fs.LeadsTo directory d ∧ l = d ++ [name]

/-- A file can be put at a location by the path of a directory and a name. -/
structure Admits (fs : Files) (directory name : String) (l : Location) : Prop where
  child : fs.Child directory name l
  valid : checkPath (Path.join directory name) = .ok ()
  size : name.utf8ByteSize ≤ nameLimit
  notDirectory : fs.entryAt? l ≠ some .directory

private theorem admits_of_move (plain : PlainName name) (leadsTo : fs.LeadsTo directory d)
    (free : fs.entryAt? (d ++ [temporary]) = none)
    (h : (fs.put (d ++ [temporary]) (.file content)).move (d ++ [temporary])
      (Path.join directory name) = .ok fs') :
    fs.Admits directory name (d ++ [name]) ∧ fs' = fs.put (d ++ [name]) (.file content) := by
  have hfree := remove_put_of_free (e := .file content) (append_singleton_ne_nil d temporary) free
  rw [move] at h
  split at h
  · cases h
  · rename_i d' s slash htarget
    obtain ⟨hvalid, _, hleads, heq⟩ := (target_join_eq_ok_iff plain).1 htarget
    cases heq
    obtain rfl := (leadsTo.put_of_free free).unique hleads
    split at h
    · cases h
    · rename_i hentry
      obtain ⟨hsize, rfl, rfl⟩ := entryAt?_of_inDirectory hentry
      rw [entryAt?_put_self, hfree] at h
      simp only [Bool.false_eq_true, if_false] at h
      split at h
      · cases h
      · rename_i hnot
        split at h
        · cases h
        · cases h
        · rename_i heq _
          cases h
          obtain rfl := Option.some.inj heq
          refine ⟨⟨⟨_, leadsTo, rfl⟩, hvalid, hsize, fun hdirectory => hnot ?_⟩, rfl⟩
          -- The file that has been prepared is no directory, should it have the name itself.
          rw [entryAt?_put_of_ne, hdirectory]
          intro hsame
          rw [hsame, free] at hdirectory
          cases hdirectory
  · cases h

private theorem move_of_fillAndMove (h : fs.fillAndMove source sourcePath path content = .ok fs') :
    (fs.put source (.file content)).move source path = .ok fs' := by
  unfold fillAndMove at h
  split at h
  · cases h
  · dsimp only at h
    split at h <;> cases h
    assumption

theorem granted_of_writeWhole (h : fs.writeWhole path content = (.ok (), fs')) :
    ∃ source made, fs.createTemporary (preparation path) = .ok (source, made) ∧
      made.ask (.fill source content) = .ok () := by
  unfold writeWhole at h
  dsimp only at h
  split at h
  · cases h
  · rename_i source made hmade
    refine ⟨source, made, hmade, ?_⟩
    unfold fillAndMove at h
    cases hfill : made.ask (.fill source content) with
    | ok => rfl
    | error fault =>
      rw [hfill] at h
      cases h

/-- Replacing a file that fails changes nothing, and leaves no other file behind. -/
theorem eq_of_writeWhole_error {failure : String × FileFault}
    (h : fs.writeWhole path content = (.error failure, fs')) : fs' = fs := by
  unfold writeWhole at h
  dsimp only at h
  split at h
  · cases h
    rfl
  · rename_i hmade
    obtain ⟨d, -, rfl, free, rfl⟩ := of_createTemporary hmade
    split at h <;> cases h
    exact remove_put_of_free (append_singleton_ne_nil d _) free

/-- Replacing a file puts the content at its place, and does nothing else. -/
theorem admits_of_writeWhole (plain : PlainName name)
    (h : fs.writeWhole (Path.join directory name) content = (.ok (), fs')) :
    ∃ l, fs.Admits directory name l ∧ fs' = fs.put l (.file content) := by
  obtain ⟨hsteps, habsolute⟩ := steps_preparation directory plain
  unfold writeWhole at h
  dsimp only at h
  split at h
  · cases h
  · rename_i hmade
    obtain ⟨d, hprepared, rfl, free, rfl⟩ := of_createTemporary hmade
    have hleads : fs.LeadsTo directory d := hprepared.congr hsteps.symm habsolute.symm
    split at h
    · cases h
    · rename_i hmoved
      cases h
      have hmove := move_of_fillAndMove hmoved
      rw [put_put] at hmove
      exact ⟨_, admits_of_move plain hleads free hmove⟩

theorem exists_failure_of_isDirectory (plain : PlainName name) (leadsTo : fs.LeadsTo directory d)
    (isDirectory : fs.entryAt? (d ++ [name]) = some .directory) :
    ∃ failure, fs.writeWhole (Path.join directory name) content = (.error failure, fs) := by
  rcases hwrite : fs.writeWhole (Path.join directory name) content with ⟨failure | _, fs'⟩
  · exact ⟨failure, by rw [eq_of_writeWhole_error hwrite]⟩
  · obtain ⟨l, hadmits, -⟩ := admits_of_writeWhole plain hwrite
    obtain ⟨d', hleads, rfl⟩ := hadmits.child
    rw [leadsTo.unique hleads] at hadmits
    exact absurd isDirectory hadmits.notDirectory

/-- The name that the machine gives to a new file is one for which there is room at a path and in a
directory. -/
structure Prepares (fs : Files) (path : String) (d : Location) : Prop where
  valid : checkPath (Path.join path ".") = .ok ()
  short : (fs.preparedPath path).utf8ByteSize < pathLimit
  size : (fs.machine.temporaryName fs.entries).utf8ByteSize ≤ nameLimit
  free : fs.entryAt? (d ++ [fs.machine.temporaryName fs.entries]) = none

private theorem ask_of_permits (permits : fs.machine.Permits) {request : Request}
    (change : ∀ before more, request ≠ .print before more) : fs.ask request = .ok () := by
  rw [ask, permits _ _ change]

private theorem createTemporary_of_leadsTo (prepares : fs.Prepares path d)
    (leadsTo : fs.LeadsTo path d)
    (permits : fs.machine.Permits) :
    fs.createTemporary path =
      .ok (d ++ [fs.machine.temporaryName fs.entries],
        fs.put (d ++ [fs.machine.temporaryName fs.entries]) (.file [])) := by
  have hcreate : fs.ask (.create (d ++ [fs.machine.temporaryName fs.entries])) = .ok () :=
    ask_of_permits permits nofun
  unfold createTemporary
  rw [find_dot_of_leadsTo prepares.valid leadsTo]
  simp only [if_neg (Nat.not_le_of_lt prepares.short), inDirectory_of_size _ _ prepares.size,
    prepares.free, hcreate]

private theorem move_of_admits (plain : PlainName name) (leadsTo : fs.LeadsTo directory d)
    (admits : fs.Admits directory name (d ++ [name]))
    (free : fs.entryAt? (d ++ [temporary]) = none) (permits : fs.machine.Permits) :
    (fs.put (d ++ [temporary]) (.file content)).move (d ++ [temporary])
      (Path.join directory name) = .ok (fs.put (d ++ [name]) (.file content)) := by
  have htarget := (target_join_eq_ok_iff plain).2
    ⟨admits.valid, d, leadsTo.put_of_free (e := .file content) free, rfl⟩
  have hdirectory : (fs.put (d ++ [temporary]) (.file content)).entryAt? (d ++ [name]) ≠
      some .directory := by
    by_cases heq : d ++ [name] = d ++ [temporary]
    · rw [heq, entryAt?_put_self]
      nofun
    · rw [entryAt?_put_of_ne heq]
      exact admits.notDirectory
  have hpermits : (fs.put (d ++ [temporary]) (.file content)).machine.Permits := permits
  have hrename : (fs.put (d ++ [temporary]) (.file content)).ask
      (.rename (d ++ [temporary]) (d ++ [name])) = .ok () := ask_of_permits hpermits nofun
  rw [move, htarget]
  simp only [inDirectory_of_size _ _ admits.size, Bool.false_eq_true, if_false, hdirectory,
    entryAt?_put_self, hrename,
    remove_put_of_free (append_singleton_ne_nil d temporary) free]

private theorem fillAndMove_of_move {moved : Files} (fill : fs.ask (.fill source content) = .ok ())
    (sync : (fs.put source (.file content)).ask (.sync source) = .ok ())
    (move : (fs.put source (.file content)).move source path = .ok moved) :
    fs.fillAndMove source sourcePath path content = .ok moved := by
  unfold fillAndMove
  rw [fill]
  dsimp only
  rw [sync, move]

private theorem writeWhole_of_fillAndMove {made moved : Files}
    (create : fs.createTemporary (preparation path) = .ok (source, made))
    (move : made.fillAndMove source (fs.preparedPath (preparation path)) path content = .ok moved) :
    fs.writeWhole path content = (.ok (), moved) := by
  unfold writeWhole
  dsimp only
  rw [create]
  dsimp only
  rw [move]

/-- A file is replaced where it can be put, if one can be prepared and the machine refuses no
change. -/
theorem writeWhole_of_admits (plain : PlainName name) (leadsTo : fs.LeadsTo directory d)
    (admits : fs.Admits directory name (d ++ [name]))
    (prepares : fs.Prepares (preparation (Path.join directory name)) d)
    (permits : fs.machine.Permits) :
    fs.writeWhole (Path.join directory name) content =
      (.ok (), fs.put (d ++ [name]) (.file content)) := by
  obtain ⟨hsteps, habsolute⟩ := steps_preparation directory plain
  have hmade := createTemporary_of_leadsTo prepares (leadsTo.congr hsteps habsolute) permits
  have hpermits (l : Location) (e : Entry) : (fs.put l e).machine.Permits := permits
  refine writeWhole_of_fillAndMove hmade
    (fillAndMove_of_move (ask_of_permits (hpermits _ _) nofun) ?_ ?_) <;> rw [put_put]
  · exact ask_of_permits (hpermits _ _) nofun
  · exact move_of_admits plain leadsTo admits prepares.free permits

end Files
end FlashImage
