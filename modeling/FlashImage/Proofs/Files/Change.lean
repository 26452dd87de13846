import FlashImage.Files.Operation
import FlashImage.Proofs.Files.Walk

/-!
What the operations change, and what they leave alone.

Everything here is said about locations. An area is a set of them, such as a location with all that
is below it. What an operation on a path does to an area depends on where the path leads only.
-/

set_option autoImplicit false
set_option relaxedAutoImplicit false

namespace FlashImage

/-- The paths of the directories that are made with a path: its own, and those that lead to it. -/
inductive Path.OnWay : String → String → Prop
  | self {path : String} : OnWay path path
  | parent {path directory q : String} (parent : parent? path = some directory)
      (onWay : OnWay directory q) : OnWay path q

theorem Path.OnWay.eq_or_onWay {path directory q : String} (h : OnWay path q)
    (parent : parent? path = some directory) : q = path ∨ OnWay directory q := by
  cases h with
  | self => exact .inl rfl
  | parent parent' onWay =>
    obtain rfl := Option.some.inj (parent.symm.trans parent')
    exact .inr onWay

theorem Path.OnWay.eq_of_parent?_eq_none {path q : String} (h : OnWay path q)
    (none : parent? path = none) : q = path := by
  cases h with
  | self => rfl
  | parent parent' => rw [none] at parent'; cases parent'

namespace Files

variable {fs fs' fs₁ fs₂ : Files} {area : Location → Prop} {l d : Location}
  {name path : String} {e : Entry}

private theorem lookup_filter_key (keeps : Location → Bool) (m : Location)
    (entries : List (Location × Entry)) :
    (entries.filter fun entry => keeps entry.1).lookup m =
      if keeps m then entries.lookup m else none := by
  induction entries with
  | nil => simp
  | cons entry rest ih =>
    obtain ⟨k, e⟩ := entry
    rw [List.filter_cons, List.lookup_cons]
    by_cases hm : m = k
    · subst hm
      cases hkeeps : keeps m <;> simp [hkeeps, ih]
    · have hne : (m == k) = false := beq_eq_false_iff_ne.2 hm
      cases hkeeps : keeps k <;> simp [hne, List.lookup_cons, ih]

theorem entryAt?_removeAll (hl : l ≠ []) (m : Location) :
    (fs.removeAll l).entryAt? m = if l <+: m then none else fs.entryAt? m := by
  by_cases hm : m = []
  · subst hm
    have hnot : ¬ l <+: [] := fun h => hl (List.prefix_nil.1 h)
    rw [if_neg hnot]
    rfl
  · rw [entryAt?, if_neg hm, entryAt?, if_neg hm, removeAll]
    rw [lookup_filter_key (fun k => !l.isPrefixOf k)]
    by_cases hbelow : l <+: m
    · have hbelow' : l.isPrefixOf m = true := List.isPrefixOf_iff_prefix.2 hbelow
      rw [hbelow', if_pos hbelow]
      rfl
    · have hbelow' : l.isPrefixOf m = false :=
        Bool.eq_false_iff.2 fun h => hbelow (List.isPrefixOf_iff_prefix.1 h)
      rw [hbelow', if_neg hbelow]
      rfl

theorem append_singleton_ne_nil (d : Location) (name : String) : d ++ [name] ≠ [] := by simp

theorem entryAt?_put_self : (fs.put (d ++ [name]) e).entryAt? (d ++ [name]) = some e := by
  rw [entryAt?_put fs _ _ _ (append_singleton_ne_nil d name), if_pos rfl]

theorem entryAt?_put_of_ne (h : l ≠ d ++ [name]) :
    (fs.put (d ++ [name]) e).entryAt? l = fs.entryAt? l := by
  rw [entryAt?_put fs _ _ _ (append_singleton_ne_nil d name), if_neg h]

theorem WellFormed.put (h : fs.WellFormed) (parent : fs.entryAt? d = some .directory)
    (stays : fs.entryAt? (d ++ [name]) = some .directory → e = .directory) :
    (fs.put (d ++ [name]) e).WellFormed := by
  have hdirectory : ∀ m, fs.entryAt? m = some .directory →
      (fs.put (d ++ [name]) e).entryAt? m = some .directory := by
    intro m hm
    by_cases heq : m = d ++ [name]
    · subst heq
      rw [entryAt?_put_self, stays hm]
    · rwa [entryAt?_put_of_ne heq]
  refine ⟨fun l n e' he => hdirectory l ?_, hdirectory _ h.current⟩
  by_cases heq : l ++ [n] = d ++ [name]
  · rwa [(List.append_inj_left' heq rfl : l = d)]
  · rw [entryAt?_put_of_ne heq] at he
    exact h.parent l n e' he

theorem WellFormed.remove (h : fs.WellFormed) (notDirectory : fs.entryAt? l ≠ some .directory) :
    (fs.remove l).WellFormed := by
  have hl : l ≠ [] := by
    rintro rfl
    exact notDirectory (entryAt?_nil fs)
  have hdirectory : ∀ m, fs.entryAt? m = some .directory →
      (fs.remove l).entryAt? m = some .directory := by
    intro m hm
    rw [entryAt?_remove fs l m hl, if_neg]
    · exact hm
    · rintro rfl
      exact notDirectory hm
  refine ⟨fun k n e' he => hdirectory k ?_, hdirectory _ h.current⟩
  rw [entryAt?_remove fs l _ hl] at he
  split at he
  · cases he
  · exact h.parent k n e' he

theorem WellFormed.removeAll (h : fs.WellFormed) (hl : l ≠ []) (outside : ¬ l <+: fs.current) :
    (fs.removeAll l).WellFormed := by
  constructor
  · intro k n e' he
    rw [entryAt?_removeAll hl] at he ⊢
    split at he
    · cases he
    · rename_i hnot
      rw [if_neg fun hbelow => hnot (hbelow.trans (List.prefix_append k [n]))]
      exact h.parent k n e' he
  · rw [entryAt?_removeAll hl]
    exact (if_neg outside).trans h.current

/-- Files that have changed elsewhere than in an area. -/
structure Elsewhere (area : Location → Prop) (fs fs' : Files) : Prop where
  same : ∀ l, area l → fs'.entryAt? l = fs.entryAt? l
  wellFormed : fs'.WellFormed
  current : fs'.current = fs.current

theorem Elsewhere.refl (wellFormed : fs.WellFormed) : Elsewhere area fs fs :=
  ⟨fun _ _ => rfl, wellFormed, rfl⟩

theorem Elsewhere.trans (h₁ : Elsewhere area fs fs₁) (h₂ : Elsewhere area fs₁ fs₂) :
    Elsewhere area fs fs₂ :=
  ⟨fun l hl => (h₂.same l hl).trans (h₁.same l hl), h₂.wellFormed, h₂.current.trans h₁.current⟩

/-- Directories have been made where nothing was, all at places of some kind. -/
structure Grown (places : Location → Prop) (fs fs' : Files) : Prop where
  entry : ∀ l, fs'.entryAt? l = fs.entryAt? l ∨
    fs.entryAt? l = none ∧ fs'.entryAt? l = some .directory ∧ places l
  wellFormed : fs.WellFormed → fs'.WellFormed
  current : fs'.current = fs.current

variable {places places' : Location → Prop}

theorem Grown.refl (fs : Files) : Grown places fs fs := ⟨fun _ => .inl rfl, id, rfl⟩

theorem Grown.weaken (h : Grown places fs fs') (weaker : ∀ l, places l → places' l) :
    Grown places' fs fs' where
  entry l := (h.entry l).imp_right (And.imp_right (And.imp_right (weaker l)))
  wellFormed := h.wellFormed
  current := h.current

theorem Grown.trans (h₁ : Grown places fs fs₁) (h₂ : Grown places fs₁ fs₂) :
    Grown places fs fs₂ := by
  refine ⟨fun l => ?_, h₂.wellFormed ∘ h₁.wellFormed, h₂.current.trans h₁.current⟩
  rcases h₂.entry l with same | ⟨free, made, place⟩
  · rw [same]
    exact h₁.entry l
  · rcases h₁.entry l with same | ⟨-, made', -⟩
    · exact .inr ⟨same ▸ free, made, place⟩
    · rw [made'] at free
      cases free

theorem Grown.within (h : Grown places fs fs') : fs.Within fs' := by
  intro l e he
  rcases h.entry l with same | ⟨free, -, -⟩
  · rw [same, he]
  · rw [free] at he
    cases he

theorem Grown.site_iff (h : Grown places fs fs') :
    fs'.Site true path l ↔ fs.Site true path l := by
  constructor
  · refine Site.transfer h.current.symm (fun m => ?_) fun m q => ?_
    · rcases h.entry m with same | ⟨free, -, -⟩
      · rw [same]
        exact id
      · exact fun _ => .inr ⟨rfl, free⟩
    · rcases h.entry m with same | ⟨-, made, -⟩
      · rw [same]
        exact id
      · intro hlink
        rw [made] at hlink
        cases hlink
  · refine Site.transfer h.current (fun m => ?_) fun m q => h.within m (.link q)
    rcases h.entry m with same | ⟨-, made, -⟩
    · rw [same]
      exact id
    · exact fun _ => .inl made

theorem Grown.elsewhere (h : Grown places fs fs') (wellFormed : fs.WellFormed)
    (avoids : ∀ l, places l → area l → fs.entryAt? l ≠ none) : Elsewhere area fs fs' := by
  refine ⟨fun l hl => ?_, h.wellFormed wellFormed, h.current⟩
  rcases h.entry l with same | ⟨free, -, place⟩
  · exact same
  · exact absurd free (avoids l place hl)

private theorem grown_of_makeDirectory (h : fs.makeDirectory path = .ok fs') :
    Grown (fs.Site true path) fs fs' := by
  rw [makeDirectory] at h
  split at h
  · cases h
  · rename_i d name slash htarget
    split at h
    · cases h
    · cases h
    · rename_i hfree
      split at h <;> cases h
      obtain ⟨-, rfl, free⟩ := entryAt?_of_inDirectory hfree
      refine ⟨fun m => ?_, fun wellFormed => ?_, rfl⟩
      · by_cases heq : m = d ++ [name]
        · subst heq
          exact .inr ⟨free, entryAt?_put_self, (site_of_target htarget).withGaps⟩
        · exact .inl (entryAt?_put_of_ne heq)
      · exact wellFormed.put (isDirectory_of_target wellFormed htarget) fun _ => rfl
  · cases h

private theorem grown_of_makeDirectoriesTo (fs : Files) (path : List Char) :
    Grown (fun l => ∃ q, Path.OnWay (String.ofList path.reverse) q ∧ fs.Site true q l) fs
      (fs.makeDirectoriesTo path).2 := by
  have hmade : ∀ {fs₁ fs₂ : Files}, fs₁.makeDirectory (String.ofList path.reverse) = .ok fs₂ →
      Grown (fun l => ∃ q, Path.OnWay (String.ofList path.reverse) q ∧ fs₁.Site true q l)
        fs₁ fs₂ :=
    fun h => (grown_of_makeDirectory h).weaken fun l site => ⟨_, .self, site⟩
  -- If the path itself cannot be made, those above it are made first, and then it is tried again.
  -- What has been made above does not change where the path leads with gaps.
  rw [makeDirectoriesTo]
  split
  · exact .refl fs
  · simp only
    split
    · rename_i hmake
      exact hmade hmake
    · split
      · exact .refl fs
      · rename_i parent hparent
        have honWay : Path.parent? (String.ofList path.reverse) =
            some (String.ofList parent.reverse) := by
          rw [Path.parent?, String.toList_ofList, List.reverse_reverse, hparent]
          rfl
        have hgrown : Grown
            (fun l => ∃ q, Path.OnWay (String.ofList path.reverse) q ∧ fs.Site true q l) fs
            (fs.makeDirectoriesTo parent).2 := by
          refine (grown_of_makeDirectoriesTo fs parent).weaken ?_
          rintro l ⟨q, onWay, site⟩
          exact ⟨q, .parent honWay onWay, site⟩
        split
        · rename_i hrest
          rwa [hrest] at hgrown
        · rename_i hrest
          rw [hrest] at hgrown
          split
          · rename_i hmake
            refine hgrown.trans ((hmade hmake).weaken ?_)
            rintro l ⟨q, onWay, site⟩
            exact ⟨q, onWay, hgrown.site_iff.1 site⟩
          · exact hgrown
    · exact .refl fs
termination_by path.length
decreasing_by exact Path.length_reverseParent?_lt (by assumption)

/-- The location of a path, or of one that leads to it, where it leads with gaps. -/
def OnWay (fs : Files) (path : String) (l : Location) : Prop :=
  ∃ q, Path.OnWay path q ∧ fs.Site true q l

/-- Making directories makes some of those on the way of a path, where the path has led. -/
theorem grown_of_makeDirectories (fs : Files) (path : String) :
    Grown (fs.OnWay path) fs (fs.makeDirectories path).2 := by
  have hgrown := grown_of_makeDirectoriesTo fs path.toList.reverse
  rwa [List.reverse_reverse, String.ofList_toList] at hgrown

theorem makeDirectory_of_leads {before : List String} {slash : Bool}
    (valid : checkPath path = .ok ()) (split : Path.splitLast path = (before, .name name slash))
    (leads : fs.Leads false linkLimit (startOf path fs.current) before d)
    (size : name.utf8ByteSize ≤ nameLimit) (free : fs.entryAt? (d ++ [name]) = none)
    (granted : fs.ask (.makeDirectory (d ++ [name])) = .ok ()) :
    fs.makeDirectory path = .ok (fs.put (d ++ [name]) .directory) := by
  have htarget : fs.target path = .ok ⟨d, .name name slash⟩ := by
    rw [target, valid]
    exact targetFrom_of_leads split leads
  rw [makeDirectory, htarget]
  simp only [inDirectory_of_size _ _ size, free, granted]

theorem makeDirectories_of_makeDirectory (nonempty : path ≠ "")
    (h : fs.makeDirectory path = .ok fs') : fs.makeDirectories path = (.ok (), fs') := by
  have hpath : path.toList.reverse.isEmpty = false := by simpa using nonempty
  have hmake : fs.makeDirectory (String.ofList path.toList.reverse.reverse) = .ok fs' := by
    rw [List.reverse_reverse, String.ofList_toList, h]
  rw [makeDirectories, makeDirectoriesTo, hpath]
  simp only [Bool.false_eq_true, if_false, hmake]

private theorem exists_fault_of_find {r : Location × Entry} (found : fs.find path = .ok r) :
    ∃ fault ≠ .notFound, fs.makeDirectory path = .error fault := by
  have hreach : ∃ t, fs.reach path = .ok t := by
    rw [find] at found
    split at found
    · cases found
    · exact ⟨_, by assumption⟩
  rcases htarget : fs.target path with fault | ⟨d, last⟩
  · rw [reach_of_target_error htarget] at hreach
    obtain ⟨t, ht⟩ := hreach
    cases ht
  · cases last with
    | here | up => exact ⟨.alreadyExists, by decide, by rw [makeDirectory, htarget]⟩
    | name s slash =>
      obtain ⟨left, hover⟩ := exists_targetOver_of_target htarget
      obtain ⟨e, he⟩ := exists_entry_of_find found (.last hover)
      by_cases hsize : s.utf8ByteSize ≤ nameLimit
      · refine ⟨.alreadyExists, by decide, ?_⟩
        simp only [makeDirectory, htarget, inDirectory_of_size _ _ hsize, he]
      · refine ⟨.nameTooLong, by decide, ?_⟩
        simp only [makeDirectory, htarget, inDirectory, if_pos (Nat.lt_of_not_le hsize)]

theorem makeDirectories_of_find (found : fs.find path = .ok (d, .directory)) :
    fs.makeDirectories path = (.ok (), fs) := by
  obtain ⟨fault, hne, hmake⟩ := exists_fault_of_find found
  have hmake' : fs.makeDirectory (String.ofList path.toList.reverse.reverse) = .error fault := by
    rw [List.reverse_reverse, String.ofList_toList, hmake]
  have hdirectory : fs.isDirectory (String.ofList path.toList.reverse.reverse) = true := by
    rw [List.reverse_reverse, String.ofList_toList, isDirectory, found]
  rw [makeDirectories, makeDirectoriesTo]
  split
  · rfl
  · simp only [hmake', if_pos hdirectory]

theorem makeDirectory_of_missing {part : String} {rest : List String} {last : LastPart}
    (valid : checkPath path = .ok ()) (split : Path.splitLast path = (part :: rest, last))
    (named : IsName part) (size : part.utf8ByteSize ≤ nameLimit)
    (free : fs.entryAt? (startOf path fs.current ++ [part]) = none) :
    fs.makeDirectory path = .error .notFound := by
  have htarget : fs.target path = .error .notFound := by
    rw [target, valid]
    dsimp only
    rw [targetFrom_eq split, follow_name named, inDirectory_of_size _ _ size, free]
    rfl
  rw [makeDirectory, htarget]

/-- A directory on a way with a gap is made once the one that holds it has been made. -/
theorem makeDirectories_of_missing {parent : String} (nonempty : path ≠ "")
    (missing : fs.makeDirectory path = .error .notFound)
    (hparent : Path.parent? path = some parent) (made : fs.makeDirectories parent = (.ok (), fs₁))
    (make : fs₁.makeDirectory path = .ok fs₂) : fs.makeDirectories path = (.ok (), fs₂) := by
  obtain ⟨s, hs, rfl⟩ := Option.map_eq_some_iff.1 hparent
  have hpath : path.toList.reverse.isEmpty = false := by simpa using nonempty
  rw [makeDirectories, String.toList_ofList, List.reverse_reverse] at made
  rw [makeDirectories, makeDirectoriesTo.eq_def, hpath]
  simp only [Bool.false_eq_true, if_false, List.reverse_reverse, String.ofList_toList, missing]
  split
  · rename_i hnone
    rw [hs] at hnone
    cases hnone
  · rename_i s' hs'
    obtain rfl : s = s' := Option.some.inj (hs.symm.trans hs')
    simp only [made, make]

theorem within_makeDirectories {parent : String} (nonempty : path ≠ "")
    (missing : fs.makeDirectory path = .error .notFound)
    (hparent : Path.parent? path = some parent) :
    (fs.makeDirectories parent).2.Within (fs.makeDirectories path).2 := by
  obtain ⟨s, hs, rfl⟩ := Option.map_eq_some_iff.1 hparent
  have hmissing : fs.makeDirectory (String.ofList path.toList.reverse.reverse) =
      .error .notFound := by
    rw [List.reverse_reverse, String.ofList_toList, missing]
  have hpath : path.toList.reverse.isEmpty = false := by
    simpa using nonempty
  rw [makeDirectories, makeDirectories, String.toList_ofList, List.reverse_reverse,
    makeDirectoriesTo.eq_def fs path.toList.reverse, hpath]
  simp only [Bool.false_eq_true, if_false, hmissing]
  split
  · rename_i hnone
    rw [hs] at hnone
    cases hnone
  · rename_i s' hs'
    obtain rfl : s = s' := Option.some.inj (hs.symm.trans hs')
    split
    · rename_i hrest
      rw [hrest]
      exact fun _ _ h => h
    · rename_i hrest
      rw [hrest]
      split
      · rename_i hmake
        exact (grown_of_makeDirectory hmake).within
      · exact fun _ _ h => h

private theorem of_removeFile (ending : path.endsWith "/" = false)
    (h : fs.removeFile path = .ok fs') :
    ∃ l, fs.Site false path l ∧ fs.entryAt? l ≠ some .directory ∧ fs' = fs.remove l ∧
      ∀ m, fs'.entryAt? m = if m = l then none else fs.entryAt? m := by
  rw [removeFile] at h
  split at h
  · cases h
  · cases h
  · rename_i l e notDirectory hfind
    cases h
    obtain ⟨hentry, hsite⟩ := site_of_findItself ending hfind notDirectory
    have hnot : fs.entryAt? l ≠ some .directory := by
      rw [hentry]
      exact fun heq => notDirectory (Option.some.inj heq)
    have hl : l ≠ [] := by
      rintro rfl
      exact hnot (entryAt?_nil fs)
    exact ⟨l, hsite, hnot, rfl, fun m => entryAt?_remove fs l m hl⟩

theorem elsewhere_of_removeFile (wellFormed : fs.WellFormed) (ending : path.endsWith "/" = false)
    (avoids : ∀ l, fs.Site false path l → ¬ area l) (h : fs.removeFile path = .ok fs') :
    Elsewhere area fs fs' ∧ fs'.Within fs := by
  obtain ⟨l, hsite, hnot, rfl, hremove⟩ := of_removeFile ending h
  refine ⟨⟨fun m hm => ?_, wellFormed.remove hnot, rfl⟩, fun m e' he => ?_⟩
  · rw [hremove, if_neg]
    rintro rfl
    exact avoids m hsite hm
  · rw [hremove] at he
    split at he
    · cases he
    · exact he

theorem isDirectory_of_removeFile (ending : path.endsWith "/" = false)
    (h : fs.removeFile path = .ok fs') (hl : fs.entryAt? l = some .directory) :
    fs'.entryAt? l = some .directory := by
  obtain ⟨m, -, hnot, -, hremove⟩ := of_removeFile ending h
  rw [hremove, if_neg]
  · exact hl
  · rintro rfl
    exact hnot hl

end Files
end FlashImage
