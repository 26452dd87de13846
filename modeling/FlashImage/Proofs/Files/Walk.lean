import FlashImage.Proofs.Files.Path

/-!
Where paths lead while files come and go.

In a file system everything stands in a directory. A path leads through directories and links. If it
is read with gaps, what is missing counts as a directory, so that making directories does not change
where a path leads. The site of a path is where something can be made or removed by it.
-/

set_option autoImplicit false
set_option relaxedAutoImplicit false

namespace FlashImage.Files

/-- Everything stands in a directory, and so does the program. -/
structure WellFormed (fs : Files) : Prop where
  parent : ∀ l name e, fs.entryAt? (l ++ [name]) = some e → fs.entryAt? l = some .directory
  current : fs.entryAt? fs.current = some .directory

theorem entryAt?_nil (fs : Files) : fs.entryAt? [] = some .directory := rfl

theorem WellFormed.dropLast {fs : Files} (h : fs.WellFormed) {l : Location}
    (hl : fs.entryAt? l = some .directory) : fs.entryAt? l.dropLast = some .directory := by
  by_cases hnil : l = []
  · subst hnil
    exact hl
  · rw [← List.dropLast_append_getLast hnil] at hl
    exact h.parent _ _ _ hl

private theorem WellFormed.ancestor {fs : Files} (h : fs.WellFormed) {l k : Location} {e : Entry}
    (hk : k ≠ []) (hl : fs.entryAt? (l ++ k) = some e) : fs.entryAt? l = some .directory := by
  -- From the last name upwards, each location holds a directory as something stands in it.
  induction k using List.reverseRecOn generalizing e with
  | nil => exact absurd rfl hk
  | append_singleton k name ih =>
    rw [← List.append_assoc] at hl
    have hdirectory := h.parent _ _ _ hl
    by_cases hnil : k = []
    · subst hnil
      rwa [List.append_nil] at hdirectory
    · exact ih hnil hdirectory

theorem WellFormed.entryAt?_eq_none {fs : Files} (h : fs.WellFormed) {l m : Location}
    (free : fs.entryAt? l = none) (below : l <+: m) : fs.entryAt? m = none := by
  obtain ⟨k, rfl⟩ := below
  by_cases hk : k = []
  · subst hk
    rwa [List.append_nil]
  · refine Option.eq_none_iff_forall_ne_some.2 fun e he => ?_
    rw [h.ancestor hk he] at free
    cases free

theorem wellFormed_of_entries {fs : Files}
    (entries : ∀ entry ∈ fs.entries, fs.entryAt? entry.1.dropLast = some .directory)
    (current : fs.entryAt? fs.current = some .directory) : fs.WellFormed := by
  refine ⟨fun l name e he => ?_, current⟩
  rw [entryAt?, if_neg (by simp)] at he
  obtain ⟨before, after, heq, -⟩ := List.lookup_eq_some_iff.1 he
  have hmem : (l ++ [name], e) ∈ fs.entries := by
    rw [heq]
    exact List.mem_append_right before List.mem_cons_self
  have hparent := entries _ hmem
  rwa [List.dropLast_concat] at hparent

theorem entryAt?_of_inDirectory {fs : Files} {directory l : Location} {name : String}
    {entry : Option Entry} (h : fs.inDirectory directory name = .ok (l, entry)) :
    name.utf8ByteSize ≤ nameLimit ∧ l = directory ++ [name] ∧
      fs.entryAt? (directory ++ [name]) = entry := by
  rw [inDirectory] at h
  split at h
  · cases h
  · rename_i hsize
    cases h
    exact ⟨Nat.le_of_not_lt hsize, rfl, rfl⟩

theorem inDirectory_of_size (fs : Files) (directory : Location) {name : String}
    (h : name.utf8ByteSize ≤ nameLimit) :
    fs.inDirectory directory name = .ok (directory ++ [name], fs.entryAt? (directory ++ [name])) :=
  if_neg (Nat.not_lt_of_le h)

def IsName (part : String) : Prop := ¬(part = "" ∨ part = ".") ∧ part ≠ ".."

instance (part : String) : Decidable (IsName part) := inferInstanceAs (Decidable (_ ∧ _))

section

variable {fs : Files} {links : Nat} {l d : Location} {part : String} {parts rest : List String}

private theorem advance_idle (idle : part = "" ∨ part = ".") :
    fs.advance links l (part :: rest) = fs.advance links l rest := by
  rw [advance.eq_def]
  exact if_pos idle

private theorem advance_up :
    fs.advance links l (".." :: rest) = fs.advance links l.dropLast rest := by
  rw [advance.eq_def]
  exact (if_neg (by decide)).trans (if_pos rfl)

theorem advance_name (named : IsName part) :
    fs.advance links l (part :: rest) =
      match fs.inDirectory l part, links with
      | .error fault, _ => .error fault
      | .ok (_, none), _ => .error .notFound
      | .ok (l, some .directory), links => fs.advance links l rest
      | .ok (_, some (.link _)), 0 => .error .tooManyLinks
      | .ok (_, some (.link path)), links + 1 =>
        fs.advance links (startOf path l) (Path.parts path ++ rest)
      | .ok (_, some _), _ => .error .notDirectory := by
  rw [advance.eq_def]
  exact (if_neg named.1).trans (if_neg named.2)

theorem follow_nil : fs.follow links l [] = .ok l := by
  rw [follow, advance]
  rfl

theorem follow_idle (idle : part = "" ∨ part = ".") :
    fs.follow links l (part :: rest) = fs.follow links l rest := by
  rw [follow, follow, advance_idle idle]

theorem follow_up : fs.follow links l (".." :: rest) = fs.follow links l.dropLast rest := by
  rw [follow, follow, advance_up]

theorem follow_name (named : IsName part) :
    fs.follow links l (part :: rest) =
      match fs.inDirectory l part, links with
      | .error fault, _ => .error fault
      | .ok (_, none), _ => .error .notFound
      | .ok (l, some .directory), links => fs.follow links l rest
      | .ok (_, some (.link _)), 0 => .error .tooManyLinks
      | .ok (_, some (.link path)), links + 1 =>
        fs.follow links (startOf path l) (Path.parts path ++ rest)
      | .ok (_, some _), _ => .error .notDirectory := by
  rw [follow, advance_name named]
  split <;> rfl

/-- What a path goes through: a directory and, if it is read with gaps, what is missing. -/
def Enters (gaps : Bool) (entry : Option Entry) : Prop :=
  entry = some .directory ∨ gaps = true ∧ entry = none

/-- The ways in which parts of a path lead to a directory, over so many links at most. -/
inductive Leads (fs : Files) (gaps : Bool) :
    (links : Nat) → Location → List String → Location → Prop
  | done {links : Nat} {l : Location} : Leads fs gaps links l [] l
  | idle {links : Nat} {l d : Location} {part : String} {rest : List String}
      (idle : part = "" ∨ part = ".") (onward : Leads fs gaps links l rest d) :
      Leads fs gaps links l (part :: rest) d
  | up {links : Nat} {l d : Location} {rest : List String}
      (onward : Leads fs gaps links l.dropLast rest d) : Leads fs gaps links l (".." :: rest) d
  | enter {links : Nat} {l d : Location} {part : String} {rest : List String}
      (named : IsName part) (size : part.utf8ByteSize ≤ nameLimit)
      (enters : Enters gaps (fs.entryAt? (l ++ [part])))
      (onward : Leads fs gaps links (l ++ [part]) rest d) :
      Leads fs gaps links l (part :: rest) d
  | link {links : Nat} {l d : Location} {part path : String} {rest : List String}
      (named : IsName part) (size : part.utf8ByteSize ≤ nameLimit)
      (link : fs.entryAt? (l ++ [part]) = some (.link path))
      (onward : Leads fs gaps links (startOf path l) (Path.parts path ++ rest) d) :
      Leads fs gaps (links + 1) l (part :: rest) d

theorem Leads.of_idle {gaps : Bool} (h : fs.Leads gaps links l (part :: rest) d)
    (idle : part = "" ∨ part = ".") : fs.Leads gaps links l rest d := by
  cases h with
  | idle _ onward => exact onward
  | up => simp at idle
  | enter named | link named => exact absurd idle named.1

theorem Leads.of_up {gaps : Bool} (h : fs.Leads gaps links l (".." :: rest) d) :
    fs.Leads gaps links l.dropLast rest d := by
  cases h with
  | idle idle => simp at idle
  | up onward => exact onward
  | enter named | link named => exact absurd rfl named.2

/-- A name leads on through a directory, or over a link. -/
theorem Leads.of_name (h : fs.Leads false links l (part :: rest) d) (named : IsName part) :
    fs.entryAt? (l ++ [part]) = some .directory ∧ fs.Leads false links (l ++ [part]) rest d ∨
      ∃ left way, links = left + 1 ∧ fs.entryAt? (l ++ [part]) = some (.link way) ∧
        fs.Leads false left (startOf way l) (Path.parts way ++ rest) d := by
  cases h with
  | idle idle => exact absurd idle named.1
  | up => exact absurd rfl named.2
  | enter _ _ enters onward =>
    rcases enters with directory | ⟨gaps, -⟩
    · exact .inl ⟨directory, onward⟩
    · cases gaps
  | link _ _ link onward => exact .inr ⟨_, _, rfl, link, onward⟩

theorem leads_of_follow (h : fs.follow links l parts = .ok d) : fs.Leads false links l parts d := by
  -- The cases are those of `advance`. Each one that goes on is a constructor of `Leads`.
  induction links, l, parts using advance.induct fs with
  | case1 links l =>
    rw [follow_nil] at h
    cases h
    exact .done
  | case2 links l part rest idle ih =>
    rw [follow_idle idle] at h
    exact .idle idle (ih h)
  | case3 links l rest named ih =>
    rw [follow_up] at h
    exact .up (ih h)
  | case4 links l part rest named notUp fault entry =>
    rw [follow_name ⟨named, notUp⟩, entry] at h
    cases h
  | case5 links l part rest named notUp _ entry =>
    rw [follow_name ⟨named, notUp⟩, entry] at h
    cases h
  | case6 l part rest named notUp l' links entry ih =>
    rw [follow_name ⟨named, notUp⟩, entry] at h
    obtain ⟨size, rfl, directory⟩ := entryAt?_of_inDirectory entry
    exact .enter ⟨named, notUp⟩ size (.inl directory) (ih h)
  | case7 l part rest named notUp _ path entry =>
    rw [follow_name ⟨named, notUp⟩, entry] at h
    cases h
  | case8 l part rest named notUp _ path links entry ih =>
    rw [follow_name ⟨named, notUp⟩, entry] at h
    obtain ⟨size, -, link⟩ := entryAt?_of_inDirectory entry
    exact .link ⟨named, notUp⟩ size link (ih h)
  | case9 links l part rest named notUp _ e notDirectory entry notLink notLink' =>
    rw [follow_name ⟨named, notUp⟩, entry] at h
    cases e with
    | directory => exact (notDirectory rfl).elim
    | link path =>
      cases links with
      | zero => exact (notLink path rfl rfl).elim
      | succ links => exact (notLink' path links rfl rfl).elim
    | file content => cases h
    | null => cases h

theorem Leads.follow (h : fs.Leads false links l parts d) : fs.follow links l parts = .ok d := by
  induction h with
  | done => exact follow_nil
  | idle idle _ ih => rw [follow_idle idle, ih]
  | up _ ih => rw [follow_up, ih]
  | enter named size enters _ ih =>
    rcases enters with directory | ⟨gaps, -⟩
    · rw [follow_name named, inDirectory_of_size _ _ size, directory]
      exact ih
    · cases gaps
  | link named size link _ ih =>
    rw [follow_name named, inDirectory_of_size _ _ size, link]
    exact ih

private theorem isDirectory_startOf (hl : fs.entryAt? l = some .directory) (path : String) :
    fs.entryAt? (startOf path l) = some .directory := by
  rw [startOf]
  split
  · rfl
  · exact hl

theorem Leads.isDirectory (wellFormed : fs.WellFormed) (h : fs.Leads false links l parts d)
    (hl : fs.entryAt? l = some .directory) : fs.entryAt? d = some .directory := by
  induction h with
  | done => exact hl
  | idle _ _ ih => exact ih hl
  | up _ ih => exact ih (wellFormed.dropLast hl)
  | enter _ _ enters _ ih =>
    rcases enters with directory | ⟨gaps, -⟩
    · exact ih directory
    · cases gaps
  | link _ _ _ _ ih => exact ih (isDirectory_startOf hl _)

theorem Leads.concat {gaps : Bool} {name : String} (h : fs.Leads gaps links l parts d)
    (named : IsName name) (size : name.utf8ByteSize ≤ nameLimit)
    (enters : Enters gaps (fs.entryAt? (d ++ [name]))) :
    fs.Leads gaps links l (parts ++ [name]) (d ++ [name]) := by
  induction h with
  | done => exact .enter named size enters .done
  | idle idle _ ih => exact .idle idle (ih enters)
  | up _ ih => exact .up (ih enters)
  | enter named' size' enters' _ ih => exact .enter named' size' enters' (ih enters)
  | link named' size' link _ ih =>
    refine .link named' size' link ?_
    have honward := ih enters
    rwa [List.append_assoc] at honward

theorem Leads.transfer {fs' : Files} {gaps gaps' : Bool}
    (enters : ∀ m, Enters gaps (fs.entryAt? m) → Enters gaps' (fs'.entryAt? m))
    (keeps : ∀ m path, fs.entryAt? m = some (.link path) → fs'.entryAt? m = some (.link path))
    (h : fs.Leads gaps links l parts d) : fs'.Leads gaps' links l parts d := by
  induction h with
  | done => exact .done
  | idle idle _ ih => exact .idle idle ih
  | up _ ih => exact .up ih
  | enter named size entered _ ih => exact .enter named size (enters _ entered) ih
  | link named size link _ ih => exact .link named size (keeps _ _ link) ih

theorem Leads.eq_of_noLinks {gaps : Bool} (noLinks : ∀ m path, fs.entryAt? m ≠ some (.link path))
    (named : ∀ part ∈ parts, IsName part) (h : fs.Leads gaps links l parts d) : d = l ++ parts := by
  induction h with
  | done => exact (List.append_nil _).symm
  | idle idle => exact absurd idle (named _ List.mem_cons_self).1
  | up => exact absurd rfl (named _ List.mem_cons_self).2
  | enter _ _ _ _ ih =>
    rw [ih fun part hpart => named part (List.mem_cons_of_mem _ hpart), List.append_assoc]
    rfl
  | link _ _ link => exact absurd link (noLinks _ _)

end

/-- All that stands in one file system stands in another one. -/
def Within (fs fs' : Files) : Prop :=
  ∀ l e, fs.entryAt? l = some e → fs'.entryAt? l = some e

theorem Leads.mono {fs fs' : Files} (within : fs.Within fs') {links : Nat} {l d : Location}
    {parts : List String} (h : fs.Leads false links l parts d) :
    fs'.Leads false links l parts d := by
  refine h.transfer (fun m => ?_) fun m path => within m (.link path)
  rintro (directory | ⟨gaps, -⟩)
  · exact .inl (within m .directory directory)
  · cases gaps

/-- A location at which something can be made or removed by a path. -/
def Site (fs : Files) (gaps : Bool) (path : String) (l : Location) : Prop :=
  ∃ before name slash d, Path.splitLast path = (before, .name name slash) ∧
    fs.Leads gaps linkLimit (startOf path fs.current) before d ∧ l = d ++ [name]

variable {fs fs' : Files} {path : String} {l d : Location} {name : String} {slash : Bool}

theorem Site.transfer {gaps gaps' : Bool} (current : fs'.current = fs.current)
    (enters : ∀ m, Enters gaps (fs.entryAt? m) → Enters gaps' (fs'.entryAt? m))
    (keeps : ∀ m path, fs.entryAt? m = some (.link path) → fs'.entryAt? m = some (.link path))
    (h : fs.Site gaps path l) : fs'.Site gaps' path l := by
  obtain ⟨before, name, slash, d, hsplit, hleads, rfl⟩ := h
  rw [← current] at hleads
  exact ⟨before, name, slash, d, hsplit, hleads.transfer enters keeps, rfl⟩

theorem Site.withGaps (h : fs.Site false path l) : fs.Site true path l := by
  refine h.transfer rfl (fun m => ?_) fun _ _ h => h
  rintro (directory | ⟨gaps, -⟩)
  · exact .inl directory
  · cases gaps

theorem Site.eq_of_noLinks {gaps : Bool} {before : List String}
    (noLinks : ∀ m path, fs.entryAt? m ≠ some (.link path))
    (split : Path.splitLast path = (before, .name name slash))
    (named : ∀ part ∈ before, IsName part) (h : fs.Site gaps path l) :
    l = startOf path fs.current ++ before ++ [name] := by
  obtain ⟨before', name', slash', d, hsplit, hleads, rfl⟩ := h
  obtain ⟨rfl, hlast⟩ := Prod.mk.inj (split.symm.trans hsplit)
  obtain ⟨rfl, -⟩ := LastPart.name.inj hlast
  rw [hleads.eq_of_noLinks noLinks named]

theorem Site.mono (current : fs'.current = fs.current) (within : fs.Within fs')
    (h : fs.Site false path l) : fs'.Site false path l := by
  obtain ⟨before, name, slash, d, hsplit, hleads, rfl⟩ := h
  rw [← current] at hleads
  exact ⟨before, name, slash, d, hsplit, hleads.mono within, rfl⟩

theorem targetOver_eq {before : List String} {last : LastPart}
    (split : Path.splitLast path = (before, last)) (links : Nat) (directory : Location) :
    fs.targetOver links directory path =
      (fs.advance links (startOf path directory) before).map fun r => (⟨r.1, last⟩, r.2) := by
  rw [targetOver, split]
  dsimp only
  cases fs.advance links (startOf path directory) before <;> rfl

theorem targetFrom_eq {before : List String} {last : LastPart}
    (split : Path.splitLast path = (before, last)) (directory : Location) :
    fs.targetFrom directory path =
      (fs.follow linkLimit (startOf path directory) before).map (⟨·, last⟩) := by
  rw [targetFrom, targetOver_eq split, follow]
  cases fs.advance linkLimit (startOf path directory) before <;> rfl

theorem leads_of_target {last : LastPart} (h : fs.target path = .ok ⟨d, last⟩) :
    ∃ before, Path.splitLast path = (before, last) ∧
      fs.Leads false linkLimit (startOf path fs.current) before d := by
  rw [target] at h
  split at h
  · cases h
  · rcases hsplit : Path.splitLast path with ⟨before, last'⟩
    rw [targetFrom_eq hsplit] at h
    rcases hfollow : fs.follow linkLimit (startOf path fs.current) before with fault | d' <;>
      rw [hfollow] at h <;> cases h
    exact ⟨before, rfl, leads_of_follow hfollow⟩

theorem targetFrom_of_leads {directory : Location} {before : List String} {last : LastPart}
    (hsplit : Path.splitLast path = (before, last))
    (h : fs.Leads false linkLimit (startOf path directory) before d) :
    fs.targetFrom directory path = .ok ⟨d, last⟩ := by
  rw [targetFrom_eq hsplit, h.follow]
  rfl

private theorem exists_targetOver {directory : Location} {t : Target}
    (h : fs.targetFrom directory path = .ok t) :
    ∃ left, fs.targetOver linkLimit directory path = .ok (t, left) := by
  rw [targetFrom] at h
  rcases hover : fs.targetOver linkLimit directory path with fault | ⟨t', left⟩ <;>
    rw [hover] at h <;> cases h
  exact ⟨left, rfl⟩

section

variable {links left : Nat} {directory : Location} {t : Target}

theorem reachFrom_of_targetOver (h : fs.targetOver links directory path = .ok (t, left))
    (noLink : ∀ d s slash way, t = ⟨d, .name s slash⟩ →
      fs.entryAt? (d ++ [s]) ≠ some (.link way)) : fs.reachFrom directory path links = .ok t := by
  rw [reachFrom]
  split <;> rename_i h' <;> rw [h] at h' <;> cases h'
  · split
    · rename_i way hlink
      exact absurd hlink (noLink _ _ _ way rfl)
    · rfl
  · rfl

private theorem reachFrom_of_error {fault : FileFault}
    (h : fs.targetOver links directory path = .error fault) :
    fs.reachFrom directory path links = .error fault := by
  rw [reachFrom]
  split <;> rename_i h' <;> rw [h] at h' <;> cases h'
  rfl

theorem reachFrom_of_link {s way : String} {slash : Bool}
    (h : fs.targetOver links directory path = .ok (⟨d, .name s slash⟩, left + 1))
    (link : fs.entryAt? (d ++ [s]) = some (.link way)) :
    fs.reachFrom directory path links =
      match fs.reachFrom d way left with
      | .ok ⟨directory, .name s slash'⟩ => .ok ⟨directory, .name s (slash || slash')⟩
      | result => result := by
  rw [reachFrom]
  split <;> rename_i h' <;> rw [h] at h' <;> cases h'
  · simp only [link]
    exact dif_neg (Nat.succ_ne_zero left)
  · rename_i hother
    exact absurd rfl (hother d s slash)

private theorem not_reachFrom_of_link {s way : String} {slash : Bool}
    (h : fs.targetOver links directory path = .ok (⟨d, .name s slash⟩, 0))
    (link : fs.entryAt? (d ++ [s]) = some (.link way)) :
    fs.reachFrom directory path links = .error .tooManyLinks := by
  rw [reachFrom]
  split <;> rename_i h' <;> rw [h] at h' <;> cases h'
  · simp only [link, dite_true]
  · rename_i hother
    exact absurd rfl (hother d s slash)

theorem ne_link_of_reachFrom (h : fs.reachFrom directory path links = .ok ⟨d, .name name slash⟩)
    (way : String) : fs.entryAt? (d ++ [name]) ≠ some (.link way) := by
  fun_induction reachFrom fs directory path links generalizing slash with
  | case1 | case2 => cases h
  | case3 _ _ _ _ _ _ _ _ _ _ _ _ _ _ _ hreach ih =>
    cases h
    exact ih hreach
  | case4 _ _ _ _ _ _ _ _ _ _ _ _ _ ih => exact ih h
  | case5 _ _ _ _ _ _ _ _ noLink =>
    cases h
    exact noLink way
  | case6 _ _ _ _ _ noName =>
    cases h
    exact absurd rfl (noName d name slash)

end

theorem checkPath_of_target {t : Target} (h : fs.target path = .ok t) :
    checkPath path = .ok () := by
  rw [target] at h
  split at h
  · cases h
  · assumption

theorem exists_targetOver_of_target {t : Target} (h : fs.target path = .ok t) :
    ∃ left, fs.targetOver linkLimit fs.current path = .ok (t, left) := by
  rw [target, checkPath_of_target h] at h
  exact exists_targetOver h

theorem reach_of_target {t : Target} (h : fs.target path = .ok t)
    (noLink : ∀ d s slash way, t = ⟨d, .name s slash⟩ →
      fs.entryAt? (d ++ [s]) ≠ some (.link way)) : fs.reach path = .ok t := by
  obtain ⟨left, hover⟩ := exists_targetOver_of_target h
  rw [reach, checkPath_of_target h]
  exact reachFrom_of_targetOver hover noLink

theorem reach_of_target_error {fault : FileFault} (h : fs.target path = .error fault) :
    fs.reach path = .error fault := by
  rw [target] at h
  rw [reach]
  cases hvalid : checkPath path with
  | error fault' =>
    rw [hvalid] at h
    exact h
  | ok =>
    simp only [hvalid, targetFrom] at h ⊢
    rcases hover : fs.targetOver linkLimit fs.current path with fault' | r <;>
      rw [hover] at h <;> cases h
    exact reachFrom_of_error hover

theorem entryOf_name_eq_ok_iff {r : Location × Entry} :
    fs.entryOf ⟨d, .name name slash⟩ = .ok r ↔
      name.utf8ByteSize ≤ nameLimit ∧ r.1 = d ++ [name] ∧ fs.entryAt? (d ++ [name]) = some r.2 ∧
        (slash = true → r.2 = .directory) := by
  obtain ⟨l, e⟩ := r
  by_cases hsize : name.utf8ByteSize ≤ nameLimit
  · simp only [entryOf, inDirectory_of_size _ _ hsize, hsize, true_and]
    rcases fs.entryAt? (d ++ [name]) with _ | e'
    · simp
    · cases e' <;> cases slash <;> grind
  · simp only [entryOf, inDirectory, if_pos (Nat.lt_of_not_le hsize), hsize, false_and, iff_false]
    nofun

theorem reach_of_targetFrom {slash : Bool} (valid : checkPath path = .ok ())
    (h : fs.targetFrom fs.current path = .ok ⟨d, .name name slash⟩)
    (noLink : ∀ p, fs.entryAt? (d ++ [name]) ≠ some (.link p)) :
    fs.reach path = .ok ⟨d, .name name slash⟩ := by
  have htarget : fs.target path = .ok ⟨d, .name name slash⟩ := by
    rw [target, valid]
    exact h
  refine reach_of_target htarget fun d' s slash' way heq => ?_
  cases heq
  exact noLink way

theorem find_of_targetFrom {e : Entry} (valid : checkPath path = .ok ())
    (h : fs.targetFrom fs.current path = .ok ⟨d, .name name false⟩)
    (size : name.utf8ByteSize ≤ nameLimit) (entry : fs.entryAt? (d ++ [name]) = some e)
    (noLink : ∀ p, e ≠ .link p) : fs.find path = .ok (d ++ [name], e) := by
  have hreach : fs.reach path = .ok ⟨d, .name name false⟩ := by
    refine reach_of_targetFrom valid h fun p hlink => noLink p ?_
    exact Option.some.inj (entry.symm.trans hlink)
  rw [find, hreach]
  simp only [entryOf, inDirectory_of_size _ _ size, entry]
  cases e <;> rfl

theorem find_of_leads {before : List String} {e : Entry} (valid : checkPath path = .ok ())
    (split : Path.splitLast path = (before, .name name false))
    (leads : fs.Leads false linkLimit (startOf path fs.current) before d)
    (size : name.utf8ByteSize ≤ nameLimit) (entry : fs.entryAt? (d ++ [name]) = some e)
    (noLink : ∀ p, e ≠ .link p) : fs.find path = .ok (d ++ [name], e) :=
  find_of_targetFrom valid (targetFrom_of_leads split leads) size entry noLink

theorem site_of_target (h : fs.target path = .ok ⟨d, .name name slash⟩) :
    fs.Site false path (d ++ [name]) := by
  obtain ⟨before, hsplit, hleads⟩ := leads_of_target h
  exact ⟨before, name, slash, d, hsplit, hleads, rfl⟩

theorem isDirectory_of_target {last : LastPart} (wellFormed : fs.WellFormed)
    (h : fs.target path = .ok ⟨d, last⟩) : fs.entryAt? d = some .directory := by
  obtain ⟨before, -, hleads⟩ := leads_of_target h
  exact hleads.isDirectory wellFormed (isDirectory_startOf wellFormed.current path)

theorem target_of_findItself {e : Entry} (ending : path.endsWith "/" = false)
    (h : fs.findItself path = .ok (l, e)) (notDirectory : e ≠ .directory) :
    ∃ d name slash, fs.target path = .ok ⟨d, .name name slash⟩ ∧
      name.utf8ByteSize ≤ nameLimit ∧ l = d ++ [name] ∧ fs.entryAt? l = some e := by
  rw [findItself, ending] at h
  simp only [Bool.false_eq_true, if_false] at h
  split at h
  · cases h
  · rename_i t htarget
    obtain ⟨d, last⟩ := t
    cases last with
    | here | up =>
      cases h
      exact absurd rfl notDirectory
    | name s slash =>
      obtain ⟨size, rfl, hentry, -⟩ := entryOf_name_eq_ok_iff.1 h
      exact ⟨d, s, slash, htarget, size, rfl, hentry⟩

theorem site_of_findItself {e : Entry} (ending : path.endsWith "/" = false)
    (h : fs.findItself path = .ok (l, e)) (notDirectory : e ≠ .directory) :
    fs.entryAt? l = some e ∧ fs.Site false path l := by
  obtain ⟨d, name, slash, htarget, -, rfl, hentry⟩ := target_of_findItself ending h notDirectory
  exact ⟨hentry, site_of_target htarget⟩

/-! ### What a path passes -/

/-- The locations of the names that are looked up while parts of a path are followed. -/
inductive Passes (fs : Files) : (links : Nat) → Location → List String → Location → Prop
  | idle {links : Nat} {l m : Location} {part : String} {rest : List String}
      (idle : part = "" ∨ part = ".") (onward : Passes fs links l rest m) :
      Passes fs links l (part :: rest) m
  | up {links : Nat} {l m : Location} {rest : List String}
      (onward : Passes fs links l.dropLast rest m) : Passes fs links l (".." :: rest) m
  | name {links : Nat} {l : Location} {part : String} {rest : List String} (named : IsName part) :
      Passes fs links l (part :: rest) (l ++ [part])
  | enter {links : Nat} {l m : Location} {part : String} {rest : List String}
      (named : IsName part) (directory : fs.entryAt? (l ++ [part]) = some .directory)
      (onward : Passes fs links (l ++ [part]) rest m) : Passes fs links l (part :: rest) m
  | link {links : Nat} {l m : Location} {part path : String} {rest : List String}
      (named : IsName part) (link : fs.entryAt? (l ++ [part]) = some (.link path))
      (onward : Passes fs links (startOf path l) (Path.parts path ++ rest) m) :
      Passes fs (links + 1) l (part :: rest) m

/-- The locations of the names that are looked up to reach a path, the last one included. -/
inductive Visits (fs : Files) : (links : Nat) → Location → String → Location → Prop
  | way {links : Nat} {directory m : Location} {path : String} {before : List String}
      {last : LastPart} (split : Path.splitLast path = (before, last))
      (passes : fs.Passes links (startOf path directory) before m) :
      Visits fs links directory path m
  | last {links left : Nat} {directory d : Location} {path s : String} {slash : Bool}
      (target : fs.targetOver links directory path = .ok (⟨d, .name s slash⟩, left)) :
      Visits fs links directory path (d ++ [s])
  | link {links left : Nat} {directory d m : Location} {path s way : String} {slash : Bool}
      (target : fs.targetOver links directory path = .ok (⟨d, .name s slash⟩, left + 1))
      (link : fs.entryAt? (d ++ [s]) = some (.link way)) (onward : Visits fs left d way m) :
      Visits fs links directory path m

section

variable {links left : Nat} {m directory : Location} {parts : List String} {t : Target}

private theorem inDirectory_congr (same : fs'.entryAt? (l ++ [name]) = fs.entryAt? (l ++ [name])) :
    fs'.inDirectory l name = fs.inDirectory l name := by
  rw [inDirectory, inDirectory, same]

/-- Parts of a path lead to the same place among files that are the same where they pass. -/
theorem advance_congr (same : ∀ m, fs.Passes links l parts m → fs'.entryAt? m = fs.entryAt? m) :
    fs'.advance links l parts = fs.advance links l parts := by
  fun_induction advance fs links l parts with
  | case1 => rw [advance]
  | case2 links l part rest idle ih =>
    rw [advance_idle idle]
    exact ih fun m h => same m (.idle idle h)
  | case3 links l rest named ih =>
    rw [advance_up]
    exact ih fun m h => same m (.up h)
  | case4 links l part rest named notUp fault entry =>
    rw [advance_name ⟨named, notUp⟩, inDirectory_congr (same _ (.name ⟨named, notUp⟩)), entry]
  | case5 links l part rest named notUp _ entry =>
    rw [advance_name ⟨named, notUp⟩, inDirectory_congr (same _ (.name ⟨named, notUp⟩)), entry]
  | case6 l part rest named notUp l' links entry ih =>
    rw [advance_name ⟨named, notUp⟩, inDirectory_congr (same _ (.name ⟨named, notUp⟩)), entry]
    obtain ⟨-, rfl, directory⟩ := entryAt?_of_inDirectory entry
    exact ih fun m h => same m (.enter ⟨named, notUp⟩ directory h)
  | case7 l part rest named notUp _ path entry =>
    rw [advance_name ⟨named, notUp⟩, inDirectory_congr (same _ (.name ⟨named, notUp⟩)), entry]
  | case8 l part rest named notUp _ path links entry ih =>
    rw [advance_name ⟨named, notUp⟩, inDirectory_congr (same _ (.name ⟨named, notUp⟩)), entry]
    obtain ⟨-, -, link⟩ := entryAt?_of_inDirectory entry
    exact ih fun m h => same m (.link ⟨named, notUp⟩ link h)
  | case9 links l part rest named notUp _ e notDirectory entry notLink notLink' =>
    rw [advance_name ⟨named, notUp⟩, inDirectory_congr (same _ (.name ⟨named, notUp⟩)), entry]
    cases e with
    | directory => exact absurd rfl notDirectory
    | link path =>
      cases links with
      | zero => exact absurd rfl (notLink path rfl)
      | succ links => exact absurd rfl (notLink' path links rfl)
    | file content => rfl
    | null => rfl

private theorem targetOver_congr
    (same : ∀ m, fs.Visits links directory path m → fs'.entryAt? m = fs.entryAt? m) :
    fs'.targetOver links directory path = fs.targetOver links directory path := by
  rcases hsplit : Path.splitLast path with ⟨before, last⟩
  rw [targetOver_eq hsplit, targetOver_eq hsplit, advance_congr fun m h => same m (.way hsplit h)]

theorem target_congr (current : fs'.current = fs.current)
    (same : ∀ m, fs.Visits linkLimit fs.current path m → fs'.entryAt? m = fs.entryAt? m) :
    fs'.target path = fs.target path := by
  rw [target, target, targetFrom, targetFrom, current, targetOver_congr same]

private theorem reachFrom_congr
    (same : ∀ m, fs.Visits links directory path m → fs'.entryAt? m = fs.entryAt? m) :
    fs'.reachFrom directory path links = fs.reachFrom directory path links := by
  have htarget := targetOver_congr same
  fun_induction reachFrom fs directory path links with
  | case1 _ _ _ _ h => exact reachFrom_of_error (htarget.trans h)
  | case2 _ _ _ _ _ _ way link h =>
    exact not_reachFrom_of_link (htarget.trans h) ((same _ (.last h)).trans link)
  | case3 _ _ _ _ _ _ left h way link nonzero _ _ _ _ hreach ih =>
    obtain ⟨left, rfl⟩ := Nat.exists_eq_add_one_of_ne_zero nonzero
    rw [Nat.add_sub_cancel] at hreach ih
    have honward : ∀ m, fs.Visits left _ way m → fs'.entryAt? m = fs.entryAt? m :=
      fun m hm => same m (.link h link hm)
    rw [reachFrom_of_link (htarget.trans h) ((same _ (.last h)).trans link),
      ih honward (targetOver_congr honward), hreach]
  | case4 _ _ _ _ _ _ left h way link nonzero _ other ih =>
    obtain ⟨left, rfl⟩ := Nat.exists_eq_add_one_of_ne_zero nonzero
    rw [Nat.add_sub_cancel] at other ih
    have honward : ∀ m, fs.Visits left _ way m → fs'.entryAt? m = fs.entryAt? m :=
      fun m hm => same m (.link h link hm)
    rw [reachFrom_of_link (htarget.trans h) ((same _ (.last h)).trans link),
      ih honward (targetOver_congr honward), Nat.add_sub_cancel]
    split
    · rename_i hname
      exact absurd hname (other _ _ _)
    · rfl
  | case5 _ _ _ _ _ _ _ h noLink =>
    refine reachFrom_of_targetOver (htarget.trans h) fun d s slash way heq => ?_
    cases heq
    rw [same _ (.last h)]
    exact noLink way
  | case6 _ _ _ _ _ noName h =>
    refine reachFrom_of_targetOver (htarget.trans h) fun d s slash way heq => ?_
    exact absurd heq (noName d s slash)

private theorem visits_of_reachFrom
    (h : fs.reachFrom directory path links = .ok ⟨d, .name name slash⟩) :
    fs.Visits links directory path (d ++ [name]) := by
  fun_induction reachFrom fs directory path links generalizing slash with
  | case1 | case2 => cases h
  | case3 _ _ _ _ _ _ left hover way link nonzero _ _ _ _ hreach ih =>
    cases h
    obtain ⟨left, rfl⟩ := Nat.exists_eq_add_one_of_ne_zero nonzero
    rw [Nat.add_sub_cancel] at hreach ih
    exact .link hover link (ih hreach)
  | case4 _ _ _ _ _ _ left hover way link nonzero _ _ ih =>
    obtain ⟨left, rfl⟩ := Nat.exists_eq_add_one_of_ne_zero nonzero
    rw [Nat.add_sub_cancel] at h ih
    exact .link hover link (ih h)
  | case5 _ _ _ _ _ _ _ hover =>
    cases h
    exact .last hover
  | case6 _ _ _ _ _ noName =>
    cases h
    exact absurd rfl (noName d name slash)

theorem find_congr (current : fs'.current = fs.current)
    (same : ∀ m, fs.Visits linkLimit fs.current path m → fs'.entryAt? m = fs.entryAt? m) :
    fs'.find path = fs.find path := by
  rw [find, find, reach, reach, current]
  cases checkPath path with
  | error fault => rfl
  | ok =>
    simp only [reachFrom_congr same]
    rcases hreach : fs.reachFrom fs.current path linkLimit with fault | ⟨d, last⟩
    · rfl
    · cases last with
      | here | up => rfl
      | name s slash =>
        simp only [entryOf, inDirectory_congr (same _ (visits_of_reachFrom hreach))]

/-- On a way to a directory there are directories and links only. -/
theorem Leads.entry_of_passes (h : fs.Leads false links l parts d)
    (passes : fs.Passes links l parts m) :
    fs.entryAt? m = some .directory ∨ ∃ way, fs.entryAt? m = some (.link way) := by
  induction passes with
  | idle idle _ ih => exact ih (h.of_idle idle)
  | up _ ih => exact ih h.of_up
  | name named =>
    rcases h.of_name named with ⟨directory, -⟩ | ⟨_, way, -, link, -⟩
    · exact .inl directory
    · exact .inr ⟨way, link⟩
  | enter named directory _ ih =>
    rcases h.of_name named with ⟨-, onward⟩ | ⟨_, _, -, link, -⟩
    · exact ih onward
    · cases directory.symm.trans link
  | link named link _ ih =>
    rcases h.of_name named with ⟨directory, -⟩ | ⟨_, _, heq, link', onward⟩
    · cases directory.symm.trans link
    · cases heq
      cases link.symm.trans link'
      exact ih onward

private theorem exists_entry_of_visits {r : Location × Entry}
    (visits : fs.Visits links directory path m)
    (h : fs.reachFrom directory path links = .ok t) (found : fs.entryOf t = .ok r) :
    ∃ e, fs.entryAt? m = some e := by
  induction visits generalizing t with
  | @way links directory m path before last split passes =>
    rcases hadvance : fs.advance links (startOf path directory) before with fault | ⟨d, left⟩
    · have hover : fs.targetOver links directory path = .error fault := by
        rw [targetOver_eq split, hadvance]
        rfl
      rw [reachFrom_of_error hover] at h
      cases h
    · have hfollow : fs.follow links (startOf path directory) before = .ok d := by
        rw [follow, hadvance]
        rfl
      rcases (leads_of_follow hfollow).entry_of_passes passes with hentry | ⟨_, hentry⟩ <;>
        exact ⟨_, hentry⟩
  | @last links left directory d path s slash target =>
    cases hentry : fs.entryAt? (d ++ [s]) with
    | some e => exact ⟨e, rfl⟩
    | none =>
      have hreach := reachFrom_of_targetOver target fun d' s' slash' way heq => by
        cases heq
        rw [hentry]
        nofun
      obtain rfl := Except.ok.inj (hreach.symm.trans h)
      obtain ⟨-, -, hsome, -⟩ := entryOf_name_eq_ok_iff.1 found
      exact ⟨_, hentry.symm.trans hsome⟩
  | @link links left directory d m path s way slash target link onward ih =>
    rw [reachFrom_of_link target link] at h
    rcases honward : fs.reachFrom d way left with fault | ⟨d', last⟩ <;> rw [honward] at h
    · cases h
    · cases last with
      | here | up =>
        cases h
        exact ih honward found
      | name s' slash' =>
        cases h
        obtain ⟨size, hl, hentry, hdirectory⟩ := entryOf_name_eq_ok_iff.1 found
        refine ih honward (entryOf_name_eq_ok_iff.2 ⟨size, hl, hentry, fun hslash => ?_⟩)
        exact hdirectory (by rw [hslash, Bool.or_true])

theorem exists_entry_of_find {r : Location × Entry} (h : fs.find path = .ok r)
    (visits : fs.Visits linkLimit fs.current path m) : ∃ e, fs.entryAt? m = some e := by
  rw [find, reach] at h
  cases hvalid : checkPath path with
  | error fault =>
    rw [hvalid] at h
    cases h
  | ok =>
    simp only [hvalid] at h
    split at h
    · cases h
    · rename_i hreach
      exact exists_entry_of_visits visits hreach h

end

end FlashImage.Files
