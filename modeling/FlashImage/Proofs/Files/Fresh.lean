import FlashImage.Proofs.Files.Change

/-!
A directory that has just been made, and files that are put into directories.

A plain name that is appended to the path of a directory leads to the directory with that name
appended. In a new directory nothing is there yet.
-/

set_option autoImplicit false
set_option relaxedAutoImplicit false

namespace FlashImage

theorem PlainName.isName {name : String} (plain : PlainName name) : Files.IsName name :=
  ⟨not_or.2 ⟨plain.1, plain.2.1⟩, plain.2.2.1⟩

namespace Files

variable {fs fs' : Files} {l d : Location} {name inner path directory : String} {content : Bytes}

private theorem leads_of_target_join {s : String} {slash : Bool} (plain : PlainName name)
    (h : fs.target (Path.join directory name) = .ok ⟨d, .name s slash⟩) :
    s = name ∧ slash = false ∧ ∃ before, Path.parts (Path.join directory name) = before ++ [name] ∧
      Path.splitLast (Path.join directory name) = (before, .name name false) ∧
      fs.Leads false linkLimit (startOf (Path.join directory name) fs.current) before d := by
  obtain ⟨before, hparts, -⟩ := Path.exists_parts_join directory plain.noSlash
  have hsplit := Path.splitLast_of_parts plain hparts
  obtain ⟨before', hsplit', hleads⟩ := leads_of_target h
  obtain ⟨rfl, hlast⟩ := Prod.mk.inj (hsplit.symm.trans hsplit')
  obtain ⟨rfl, rfl⟩ := LastPart.name.inj hlast
  exact ⟨rfl, rfl, before, hparts, hsplit, hleads⟩

/-- Where a new directory is: where nothing was, and where its path then leads. -/
structure Fresh (fs fs' : Files) (path name : String) (before : List String) (d : Location) :
    Prop where
  free : fs.entryAt? (d ++ [name]) = none
  made : fs' = fs.put (d ++ [name]) .directory
  size : name.utf8ByteSize ≤ nameLimit
  parent : fs.entryAt? d = some .directory
  valid : checkPath path = .ok ()
  split : Path.splitLast path = (before, .name name false)
  leads : fs.Leads false linkLimit (startOf path fs.current) before d

theorem fresh_of_makeDirectory (wellFormed : fs.WellFormed) (plain : PlainName name)
    (h : fs.makeDirectory (Path.join directory name) = .ok fs') :
    ∃ before d, Path.parts (Path.join directory name) = before ++ [name] ∧
      Fresh fs fs' (Path.join directory name) name before d := by
  rw [makeDirectory] at h
  split at h
  · cases h
  · rename_i d s slash htarget
    obtain ⟨rfl, rfl, before, hparts, hsplit, hleads⟩ := leads_of_target_join plain htarget
    split at h
    · cases h
    · cases h
    · rename_i hfree
      split at h <;> cases h
      obtain ⟨hsize, rfl, free⟩ := entryAt?_of_inDirectory hfree
      exact ⟨before, d, hparts, free, rfl, hsize, isDirectory_of_target wellFormed htarget,
        checkPath_of_target htarget, hsplit, hleads⟩
  · cases h

variable {before : List String}

theorem Fresh.within (h : Fresh fs fs' path name before d) : fs.Within fs' := by
  intro m e he
  rw [h.made, entryAt?_put_of_ne]
  · exact he
  · rintro rfl
    rw [h.free] at he
    cases he

theorem Fresh.entryAt? (h : Fresh fs fs' path name before d) :
    fs'.entryAt? (d ++ [name]) = some .directory := by
  rw [h.made, entryAt?_put_self]

theorem Fresh.wellFormed (h : Fresh fs fs' path name before d) (wellFormed : fs.WellFormed) :
    fs'.WellFormed := by
  rw [h.made]
  exact wellFormed.put h.parent fun _ => rfl

private theorem Fresh.leads' (h : Fresh fs fs' path name before d) :
    fs'.Leads false linkLimit (startOf path fs'.current) before d := by
  have hleads := h.leads.mono h.within
  rwa [h.made] at hleads ⊢

theorem Fresh.find (h : Fresh fs fs' path name before d) :
    fs'.find path = .ok (d ++ [name], .directory) := by
  have hreach : fs'.reach path = .ok ⟨d, .name name false⟩ := by
    refine reach_of_targetFrom h.valid (targetFrom_of_leads h.split h.leads') fun p => ?_
    rw [h.entryAt?]
    exact fun hlink => by cases hlink
  rw [Files.find, hreach]
  simp only [entryOf, inDirectory_of_size _ _ h.size, h.entryAt?]

theorem Fresh.empty (h : Fresh fs fs' path name before d) (wellFormed : fs.WellFormed)
    (inner : String) : fs'.entryAt? (d ++ [name] ++ [inner]) = none := by
  rw [h.made, entryAt?_put_of_ne (by simp)]
  exact wellFormed.entryAt?_eq_none h.free (List.prefix_append _ _)

theorem Fresh.write (h : Fresh fs fs' (Path.join directory name) name before d)
    (wellFormed : fs.WellFormed) (hparts : Path.parts (Path.join directory name) = before ++ [name])
    (plain : PlainName name) (plainInner : PlainName inner) {fs₂ : Files}
    (hwrite : fs'.write (Path.join (Path.join directory name) inner) content = .ok fs₂) :
    fs₂ = fs'.put (d ++ [name] ++ [inner]) (.file content) := by
  have free := h.empty wellFormed inner
  have noLink : ∀ p, fs'.entryAt? (d ++ [name] ++ [inner]) ≠ some (.link p) := by
    intro p hlink
    rw [free] at hlink
    cases hlink
  -- The name of the new directory is not empty, so the path of the file goes on right behind it.
  obtain ⟨before', hinner, hdirectory⟩ :=
    Path.exists_parts_join (Path.join directory name) plainInner.noSlash
  have hbefore : before' = before ++ [name] := by
    rcases hdirectory with heq | heq
    · exact heq.symm.trans hparts
    · have hlast := (List.append_inj' (hparts.symm.trans heq) rfl).2
      exact absurd (List.singleton_inj.1 hlast) plain.1
  subst hbefore
  have hleads : fs'.Leads false linkLimit
      (startOf (Path.join (Path.join directory name) inner) fs'.current) (before ++ [name])
      (d ++ [name]) := by
    rw [startOf, Path.isAbsolute_join _ plainInner.noSlash]
    exact h.leads'.concat plain.isName h.size (.inl h.entryAt?)
  have htarget := targetFrom_of_leads (Path.splitLast_of_parts plainInner hinner) hleads
  rw [Files.write] at hwrite
  split at hwrite
  · cases hwrite
  · rename_i d' s hreach
    have hvalid : checkPath (Path.join (Path.join directory name) inner) = .ok () := by
      rw [reach] at hreach
      split at hreach
      · cases hreach
      · assumption
    rw [reach_of_targetFrom hvalid htarget noLink] at hreach
    cases hreach
    split at hwrite
    · cases hwrite
    · cases hwrite
    · rename_i hentry
      obtain ⟨-, -, hentry⟩ := entryAt?_of_inDirectory hentry
      rw [free] at hentry
      cases hentry
    · rename_i hentry
      obtain ⟨-, rfl, -⟩ := entryAt?_of_inDirectory hentry
      split at hwrite <;> cases hwrite
      rfl
  · cases hwrite

/-- Files that have changed elsewhere than in an area, or at and below a location. -/
structure Aside (area : Location → Prop) (l : Location) (fs fs' : Files) : Prop where
  same : ∀ m, area m → ¬ l <+: m → fs'.entryAt? m = fs.entryAt? m
  wellFormed : fs'.WellFormed
  current : fs'.current = fs.current

variable {area : Location → Prop} {fs₁ fs₂ : Files}

theorem Aside.trans (h : Aside area l fs fs₁) (further : Elsewhere area fs₁ fs₂) :
    Aside area l fs fs₂ where
  same m hm hl := (further.same m hm).trans (h.same m hm hl)
  wellFormed := further.wellFormed
  current := further.current.trans h.current

theorem Fresh.aside (h : Fresh fs fs' path name before d) (wellFormed : fs.WellFormed) :
    Aside area (d ++ [name]) fs fs' := by
  refine ⟨fun m _ hl => ?_, h.wellFormed wellFormed, ?_⟩
  · rw [h.made, entryAt?_put_of_ne]
    rintro rfl
    exact hl List.prefix_rfl
  · rw [h.made]
    rfl

theorem Aside.put (h : Aside area l fs fs₁) (parent : fs₁.entryAt? l = some .directory)
    (free : fs₁.entryAt? (l ++ [inner]) = none) :
    Aside area l fs (fs₁.put (l ++ [inner]) (.file content)) := by
  refine ⟨fun m hm hl => ?_, h.wellFormed.put parent fun hdirectory => ?_, h.current⟩
  · rw [entryAt?_put_of_ne]
    · exact h.same m hm hl
    · rintro rfl
      exact hl (List.prefix_append l [inner])
  · rw [free] at hdirectory
    cases hdirectory

theorem Fresh.removeAll (h : Fresh fs fs₁ path name before d) (wellFormed : fs.WellFormed)
    (aside : Aside area (d ++ [name]) fs fs₂) :
    Elsewhere area fs (fs₂.removeAll (d ++ [name])) := by
  have hl := append_singleton_ne_nil d name
  refine ⟨fun m hm => ?_, aside.wellFormed.removeAll hl fun hcurrent => ?_, aside.current⟩
  · rw [entryAt?_removeAll hl]
    split
    · rename_i hbelow
      exact (wellFormed.entryAt?_eq_none h.free hbelow).symm
    · rename_i hbelow
      exact aside.same m hm hbelow
  · have hnone := wellFormed.entryAt?_eq_none h.free (aside.current ▸ hcurrent)
    rw [wellFormed.current] at hnone
    cases hnone

end Files
end FlashImage
