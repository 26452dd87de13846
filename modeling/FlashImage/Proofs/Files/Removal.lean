import FlashImage.Proofs.Files.Fresh

/-!
What is left at a path from which a file has been removed: nothing, whatever links there are.

Taking away what is no directory closes ways and opens none. So the path leads to the place of what
has been removed, or it ends before that.
-/

set_option autoImplicit false
set_option relaxedAutoImplicit false

namespace FlashImage.Files

variable {fs fs' : Files} {l d m : Location} {path : String} {links : Nat} {parts : List String}

private theorem Leads.follow_remove (h : fs.Leads false links l parts d)
    (notDirectory : fs.entryAt? m ≠ some .directory) :
    (fs.remove m).follow links l parts = .ok d ∨
      (fs.remove m).follow links l parts = .error .notFound := by
  have hm : m ≠ [] := by
    rintro rfl
    exact notDirectory (entryAt?_nil fs)
  induction h with
  | done => exact .inl follow_nil
  | idle idle _ ih => rwa [follow_idle idle]
  | up _ ih => rwa [follow_up]
  | @enter links l d part rest named size enters _ ih =>
    have hdirectory : fs.entryAt? (l ++ [part]) = some .directory := by
      rcases enters with directory | ⟨gaps, -⟩
      · exact directory
      · cases gaps
    have hne : l ++ [part] ≠ m := by
      rintro rfl
      exact notDirectory hdirectory
    rw [follow_name named, inDirectory_of_size _ _ size, entryAt?_remove fs m _ hm, if_neg hne,
      hdirectory]
    exact ih
  | @link links l d part path rest named size link _ ih =>
    rw [follow_name named, inDirectory_of_size _ _ size, entryAt?_remove fs m _ hm]
    by_cases heq : l ++ [part] = m
    · rw [if_pos heq]
      exact .inr rfl
    · rw [if_neg heq, link]
      exact ih

theorem findItself_of_removeFile (ending : path.endsWith "/" = false)
    (h : fs.removeFile path = .ok fs') : fs'.findItself path = .error .notFound := by
  rw [removeFile] at h
  split at h
  · cases h
  · cases h
  · rename_i l e notDirectory hfound
    cases h
    obtain ⟨d, name, slash, htarget, size, rfl, hentry⟩ :=
      target_of_findItself ending hfound notDirectory
    obtain ⟨before, hsplit, hleads⟩ := leads_of_target htarget
    have hnot : fs.entryAt? (d ++ [name]) ≠ some .directory := by
      rw [hentry]
      exact fun heq => notDirectory (Option.some.inj heq)
    have hfree : (fs.remove (d ++ [name])).entryAt? (d ++ [name]) = none := by
      rw [entryAt?_remove fs _ _ (append_singleton_ne_nil d name), if_pos rfl]
    have hcurrent : (fs.remove (d ++ [name])).current = fs.current := rfl
    rw [findItself, ending]
    simp only [Bool.false_eq_true, if_false, target, checkPath_of_target htarget,
      targetFrom_eq hsplit, hcurrent]
    rcases hleads.follow_remove hnot with hfollow | hfollow
    · simp only [hfollow, Except.map, entryOf, inDirectory_of_size _ _ size, hfree]
    · simp only [hfollow, Except.map]

theorem find_of_findItself (ending : path.endsWith "/" = false)
    (h : fs.findItself path = .error .notFound) : fs.find path = .error .notFound := by
  rw [findItself, ending] at h
  simp only [Bool.false_eq_true, if_false] at h
  rw [find]
  rcases htarget : fs.target path with fault | ⟨d, last⟩
  · rw [htarget] at h
    cases h
    rw [reach_of_target_error htarget]
  · rw [htarget] at h
    -- Only a gap is not found; a link would have been.
    have hreach : fs.reach path = .ok ⟨d, last⟩ := by
      refine reach_of_target htarget fun d' s slash way heq hlink => ?_
      cases heq
      by_cases hlong : nameLimit < s.utf8ByteSize <;>
        cases slash <;> simp [entryOf, inDirectory, hlink, hlong] at h
    rw [hreach]
    exact h

theorem findItself_of_removeFile_notFound (h : fs.removeFile path = .error .notFound) :
    fs.findItself path = .error .notFound := by
  rw [removeFile] at h
  split at h <;> cases h
  assumption

end FlashImage.Files
