import FlashImage.Proofs.Files.Fresh

/-!
The directory into which a file is put under a plain name.

Empty parts of a path and dots lead nowhere, so paths that are the same but for these lead to the
same place. A directory, the way to a name that is appended to it, and the place where a file of
that name is prepared are such paths.
-/

set_option autoImplicit false
set_option relaxedAutoImplicit false

namespace FlashImage

namespace Path

def isStep (part : String) : Bool := part ≠ "" ∧ part ≠ "."

def steps (s : List Char) : List String := ((splitSlash s).map String.ofList).filter isStep

private theorem steps_nil : steps [] = [] := rfl

private theorem steps_dot : steps ['.'] = [] := rfl

private theorem steps_append (s rest : List Char) :
    steps (s ++ '/' :: rest) = steps s ++ steps rest := by
  rw [steps, splitSlash_append, List.map_append, List.filter_append]
  rfl

private theorem steps_slash (s : List Char) : steps (s ++ ['/']) = steps s := by
  rw [steps_append, steps_nil, List.append_nil]

private theorem steps_dropIdle (r : List Char) : steps (dropIdle r).reverse = steps r.reverse := by
  fun_induction dropIdle r with
  | case1 c rest ih =>
    have hslash : ('/' :: c :: rest).reverse = (c :: rest).reverse ++ ['/'] := List.reverse_cons
    rw [ih, hslash, steps_slash]
  | case2 rest ih =>
    have hdot : ('.' :: '/' :: rest).reverse = rest.reverse ++ '/' :: ['.'] := by simp
    rw [ih, hdot, List.reverse_cons, steps_slash, steps_append, steps_dot, List.append_nil]
  | case3 => rfl

private theorem getLast?_dropIdle (r : List Char) : (dropIdle r).getLast? = r.getLast? := by
  fun_induction dropIdle r with
  | case1 c rest ih => rw [ih, List.getLast?_cons_cons]
  | case2 rest ih => rw [ih, List.getLast?_cons_cons]
  | case3 => rfl

variable {directory name name' : String}

theorem eq_of_join_eq (noSlash : '/' ∉ name.toList) (noSlash' : '/' ∉ name'.toList)
    (h : join directory name = join directory name') : name = name' := by
  obtain ⟨before, hparts, -⟩ := exists_parts_join directory noSlash
  obtain ⟨before', hparts', -⟩ := exists_parts_join directory noSlash'
  rw [h, hparts'] at hparts
  exact (List.singleton_inj.1 (List.append_inj' hparts rfl).2).symm

private theorem exists_reverse_of_plainName (plain : PlainName name) :
    ∃ c s, name.toList.reverse = c :: s ∧ '/' ∉ c :: s ∧ (c = '.' → s ≠ []) := by
  obtain ⟨c, s, hname⟩ : ∃ c s, name.toList.reverse = c :: s :=
    List.exists_cons_of_ne_nil (by simpa using plain.1)
  refine ⟨c, s, hname, ?_, ?_⟩
  · rw [← hname, List.mem_reverse]
    exact plain.noSlash
  · rintro rfl rfl
    exact plain.2.1 (String.toList_injective (List.reverse_injective hname))

private theorem dropIdle_of_plainName (plain : PlainName name) (before : List Char) :
    dropIdle (name.toList.reverse ++ before) = name.toList.reverse ++ before := by
  obtain ⟨c, s, hname, hslash, hdot⟩ := exists_reverse_of_plainName plain
  rw [hname, List.cons_append]
  refine dropIdle.eq_3 _ (fun d rest h => ?_) fun rest h => ?_
  · obtain ⟨rfl, -⟩ := List.cons.inj h
    exact hslash List.mem_cons_self
  · obtain ⟨hc, hrest⟩ := List.cons.inj h
    obtain ⟨d, s', rfl⟩ := List.exists_cons_of_ne_nil (hdot hc)
    obtain ⟨rfl, -⟩ := List.cons.inj hrest
    exact hslash (List.mem_cons_of_mem _ List.mem_cons_self)

private theorem exists_before_join (directory : String) (plain : PlainName name) :
    ∃ before, (join directory name).toList = before ++ name.toList ∧
      (before = [] ∨ ∃ s, before = s ++ ['/']) ∧ steps before = steps directory.toList ∧
      (before.head? == some '/') = isAbsolute directory := by
  rcases join_cases directory (not_isAbsolute_of_not_mem plain.noSlash) with
    ⟨rfl, hjoin⟩ | ⟨s, hs, hjoin⟩ | ⟨hne, hjoin⟩
  · exact ⟨[], by rw [hjoin, List.nil_append], .inl rfl, rfl, rfl⟩
  · refine ⟨s ++ ['/'], by rw [hjoin, List.append_assoc, List.singleton_append], .inr ⟨s, rfl⟩, ?_⟩
    rw [isAbsolute, hs]
    exact ⟨rfl, rfl⟩
  · refine ⟨directory.toList ++ ['/'], by rw [hjoin, List.append_assoc, List.singleton_append],
      .inr ⟨_, rfl⟩, steps_slash _, ?_⟩
    rw [isAbsolute, List.head?_append_of_ne_nil _ hne]

private theorem parent?_of_toList {path : String} (plain : PlainName name) {before : List Char}
    (h : path.toList = before ++ name.toList) (hbefore : before = [] ∨ ∃ s, before = s ++ ['/']) :
    parent? path = some (String.ofList (dropIdle before.reverse).reverse) := by
  obtain ⟨c, s, hname, hslash, -⟩ := exists_reverse_of_plainName plain
  have hreverse : path.toList.reverse = c :: (s ++ before.reverse) := by
    rw [h, List.reverse_append, hname, List.cons_append]
  have hidle : dropIdle (c :: (s ++ before.reverse)) = c :: (s ++ before.reverse) := by
    rw [← List.cons_append, ← hname]
    exact dropIdle_of_plainName plain _
  have hdrop : (s ++ before.reverse).dropWhile (· ≠ '/') = before.reverse := by
    have hs : ∀ d ∈ s, decide (d ≠ '/') = true := fun d hd =>
      decide_eq_true fun heq => hslash (List.mem_cons_of_mem _ (heq ▸ hd))
    rw [List.dropWhile_append_of_pos hs]
    rcases hbefore with rfl | ⟨t, rfl⟩
    · rfl
    · rw [List.reverse_append]
      exact List.dropWhile_cons_of_neg (by simp)
  have hparent : reverseParent? path.toList.reverse = some (dropIdle before.reverse) := by
    rw [reverseParent?, hreverse, hidle]
    split
    · rename_i heq
      cases heq
    · rename_i heq
      exact absurd (List.cons.inj heq).1 fun hc => hslash (hc ▸ List.mem_cons_self)
    · rename_i rest _ heq
      obtain ⟨-, rfl⟩ := List.cons.inj heq
      rw [hdrop]
  rw [parent?, hparent]
  rfl

end Path

namespace Files

variable {fs fs' : Files} {links : Nat} {l d d' : Location} {gaps : Bool}
  {parts parts' : List String} {path directory name : String}

private theorem Leads.idles (idles : ∀ part ∈ parts, Path.isStep part = false)
    (onward : fs.Leads gaps links l parts' d) : fs.Leads gaps links l (parts ++ parts') d := by
  induction parts with
  | nil => exact onward
  | cons part rest ih =>
    refine .idle ?_ (ih fun part hpart => idles part (List.mem_cons_of_mem _ hpart))
    have hidle := idles part List.mem_cons_self
    simp only [Path.isStep, decide_eq_false_iff_not, not_and_or, not_not] at hidle
    exact hidle

theorem Leads.congr (h : fs.Leads gaps links l parts d)
    (steps : parts'.filter Path.isStep = parts.filter Path.isStep) :
    fs.Leads gaps links l parts' d := by
  -- A part that is a step stands among the others behind idle parts only.
  have hstep {part : String} {rest before : List String} (step : Path.isStep part = true)
      (same : before.filter Path.isStep = (part :: rest).filter Path.isStep) :
      ∃ idles onward, before = idles ++ part :: onward ∧
        (∀ x ∈ idles, Path.isStep x = false) ∧
        onward.filter Path.isStep = rest.filter Path.isStep := by
    rw [List.filter_cons_of_pos step] at same
    obtain ⟨idles, onward, rfl, hidles, -, honward⟩ := List.filter_eq_cons_iff.1 same
    exact ⟨idles, onward, rfl, fun x hx => Bool.eq_false_iff.2 (hidles x hx), honward⟩
  induction h generalizing parts' with
  | done =>
    have hidles := List.filter_eq_nil_iff.1 steps
    rw [← List.append_nil parts']
    exact .idles (fun part hpart => Bool.eq_false_iff.2 (hidles part hpart)) .done
  | idle idle _ ih =>
    refine ih (steps.trans (List.filter_cons_of_neg ?_))
    simpa [Path.isStep, or_iff_not_imp_left] using idle
  | up _ ih =>
    obtain ⟨idles, onward, rfl, hidles, honward⟩ := hstep (by decide) steps
    exact .idles hidles (.up (ih honward))
  | @enter _ _ _ part _ named size enters _ ih =>
    have step : Path.isStep part = true := by simpa [Path.isStep] using named.1
    obtain ⟨idles, onward, rfl, hidles, honward⟩ := hstep step steps
    exact .idles hidles (.enter named size enters (ih honward))
  | @link _ _ _ part _ _ named size link _ ih =>
    have step : Path.isStep part = true := by simpa [Path.isStep] using named.1
    obtain ⟨idles, onward, rfl, hidles, honward⟩ := hstep step steps
    refine .idles hidles (.link named size link (ih ?_))
    rw [List.filter_append, List.filter_append, honward]

/-- All parts of a path lead to a directory. -/
def LeadsTo (fs : Files) (path : String) (d : Location) : Prop :=
  fs.follow linkLimit (startOf path fs.current) (Path.parts path) = .ok d

theorem LeadsTo.unique (h : fs.LeadsTo path d) (h' : fs.LeadsTo path d') : d' = d :=
  Except.ok.inj (h'.symm.trans h)

theorem LeadsTo.leads (h : fs.LeadsTo path d) :
    fs.Leads false linkLimit (startOf path fs.current) (Path.parts path) d := leads_of_follow h

private theorem leadsTo_of_leads (steps : parts.filter Path.isStep = Path.steps path.toList)
    (h : fs.Leads false linkLimit (startOf path fs.current) parts d) : fs.LeadsTo path d := by
  have hsteps : (Path.parts path).filter Path.isStep = parts.filter Path.isStep := steps.symm
  exact (h.congr hsteps).follow

theorem LeadsTo.transfer (h : fs.LeadsTo path d) (current : fs'.current = fs.current)
    (enters : ∀ m, fs.entryAt? m = some .directory → fs'.entryAt? m = some .directory)
    (keeps : ∀ m p, fs.entryAt? m = some (.link p) → fs'.entryAt? m = some (.link p)) :
    fs'.LeadsTo path d := by
  have hleads : fs'.Leads false linkLimit (startOf path fs.current) (Path.parts path) d := by
    refine h.leads.transfer (fun m => ?_) keeps
    rintro (directory | ⟨gaps, -⟩)
    · exact .inl (enters m directory)
    · cases gaps
  rw [LeadsTo, current]
  exact hleads.follow

private theorem steps_before_join {last : String} {before : List String}
    (noSlash : '/' ∉ last.toList)
    (h : Path.parts (Path.join directory last) = before ++ [last]) :
    before.filter Path.isStep = Path.steps directory.toList := by
  obtain ⟨before', hparts, hdirectory⟩ := Path.exists_parts_join directory noSlash
  obtain rfl : before = before' := (List.append_inj' (h.symm.trans hparts) rfl).1
  change _ = (Path.parts directory).filter Path.isStep
  rcases hdirectory with heq | heq
  · rw [heq]
  · rw [heq, List.filter_append]
    exact (List.append_nil _).symm

private theorem startOf_join (noSlash : '/' ∉ name.toList) (current : Location) :
    startOf (Path.join directory name) current = startOf directory current := by
  rw [startOf, startOf, Path.isAbsolute_join directory noSlash]

/-- A path to which a name has been appended has that name in the directory as its target. -/
theorem target_join_eq_ok_iff (plain : PlainName name) {t : Target} :
    fs.target (Path.join directory name) = .ok t ↔
      checkPath (Path.join directory name) = .ok () ∧
        ∃ d, fs.LeadsTo directory d ∧ t = ⟨d, .name name false⟩ := by
  obtain ⟨before, hparts, -⟩ := Path.exists_parts_join directory plain.noSlash
  have hsteps := steps_before_join plain.noSlash hparts
  have hsplit := Path.splitLast_of_parts plain hparts
  have hstart : startOf (Path.join directory name) fs.current = startOf directory fs.current :=
    startOf_join plain.noSlash fs.current
  constructor
  · intro h
    obtain ⟨d, last⟩ := t
    obtain ⟨before', hsplit', hleads⟩ := leads_of_target h
    obtain ⟨rfl, rfl⟩ := Prod.mk.inj (hsplit.symm.trans hsplit')
    exact ⟨checkPath_of_target h, d, leadsTo_of_leads hsteps (hstart ▸ hleads), rfl⟩
  · rintro ⟨hvalid, d, hd, rfl⟩
    have hleads : fs.Leads false linkLimit (startOf directory fs.current) before d :=
      hd.leads.congr hsteps
    rw [target, hvalid]
    exact targetFrom_of_leads hsplit (hstart ▸ hleads)

private theorem target_of_find_here {before : List String} {e : Entry}
    (hsplit : Path.splitLast path = (before, .here)) (h : fs.find path = .ok (d, e)) :
    fs.target path = .ok ⟨d, .here⟩ := by
  rw [find] at h
  rcases htarget : fs.target path with fault | ⟨d', last⟩
  · rw [reach_of_target_error htarget] at h
    cases h
  · obtain ⟨before', hsplit', -⟩ := leads_of_target htarget
    obtain ⟨-, rfl⟩ := Prod.mk.inj (hsplit.symm.trans hsplit')
    rw [reach_of_target htarget (by simp)] at h
    cases h
    rfl

private theorem exists_splitLast_join_dot (directory : String) :
    ∃ before, Path.parts (Path.join directory ".") = before ++ ["."] ∧
      Path.splitLast (Path.join directory ".") = (before, .here) := by
  obtain ⟨before, hparts, -⟩ := Path.exists_parts_join directory (by decide : '/' ∉ ".".toList)
  refine ⟨before, hparts, ?_⟩
  rw [Path.splitLast, hparts, List.reverse_append]
  simp

private theorem leadsTo_of_find_dot {e : Entry}
    (h : fs.find (Path.join directory ".") = .ok (d, e)) :
    fs.LeadsTo directory d := by
  have hdot : '/' ∉ (".".toList : List Char) := by decide
  obtain ⟨before, hparts, hsplit⟩ := exists_splitLast_join_dot directory
  obtain ⟨before', hsplit', hleads⟩ := leads_of_target (target_of_find_here hsplit h)
  obtain ⟨rfl, -⟩ := Prod.mk.inj (hsplit.symm.trans hsplit')
  exact leadsTo_of_leads (steps_before_join hdot hparts) (startOf_join hdot fs.current ▸ hleads)

theorem find_dot_of_leadsTo (valid : checkPath (Path.join directory ".") = .ok ())
    (h : fs.LeadsTo directory d) : fs.find (Path.join directory ".") = .ok (d, .directory) := by
  have hdot : '/' ∉ (".".toList : List Char) := by decide
  obtain ⟨before, hparts, hsplit⟩ := exists_splitLast_join_dot directory
  have hleads := h.leads.congr (steps_before_join hdot hparts)
  rw [← startOf_join hdot fs.current] at hleads
  have htarget : fs.target (Path.join directory ".") = .ok ⟨d, .here⟩ := by
    rw [target, valid]
    exact targetFrom_of_leads hsplit hleads
  rw [find, reach_of_target htarget (by simp)]
  rfl

theorem LeadsTo.congr (h : fs.LeadsTo path d) {path' : String}
    (steps : Path.steps path'.toList = Path.steps path.toList)
    (absolute : Path.isAbsolute path' = Path.isAbsolute path) : fs.LeadsTo path' d := by
  have hstart : startOf path' fs.current = startOf path fs.current := by
    rw [startOf, startOf, absolute]
  exact leadsTo_of_leads steps.symm (hstart ▸ h.leads)

theorem steps_preparation (directory : String) (plain : PlainName name) :
    Path.steps (preparation (Path.join directory name)).toList = Path.steps directory.toList ∧
      Path.isAbsolute (preparation (Path.join directory name)) = Path.isAbsolute directory := by
  obtain ⟨before, htext, hbefore, hsteps, habsolute⟩ := Path.exists_before_join directory plain
  have hparent := Path.parent?_of_toList plain htext hbefore
  have hsame : Path.steps (Path.dropIdle before.reverse).reverse = Path.steps directory.toList := by
    rw [Path.steps_dropIdle, List.reverse_reverse, hsteps]
  have hhead : ((Path.dropIdle before.reverse).reverse.head? == some '/') =
      Path.isAbsolute directory := by
    rw [List.head?_reverse, Path.getLast?_dropIdle, List.getLast?_reverse, habsolute]
  rw [preparation, hparent]
  split
  · rename_i heq
    cases heq
  · rename_i heq
    have hnil : (Path.dropIdle before.reverse).reverse = [] := by
      simpa using Option.some.inj heq
    rw [hnil] at hsame hhead
    exact ⟨hsame, hhead⟩
  · rename_i parent _ heq
    obtain rfl := Option.some.inj heq
    rw [Path.isAbsolute, String.toList_ofList]
    exact ⟨hsame, hhead⟩

theorem of_createTemporary {l : Location} (h : fs.createTemporary directory = .ok (l, fs')) :
    ∃ d, fs.LeadsTo directory d ∧ l = d ++ [fs.machine.temporaryName fs.entries] ∧
      fs.entryAt? l = none ∧ fs' = fs.put l (.file []) := by
  unfold createTemporary at h
  split at h
  · cases h
  split at h
  · cases h
  split at h
  · cases h
  rename_i d _ hfind
  split at h
  · cases h
  · cases h
  rename_i hfree
  split at h
  · cases h
  cases h
  obtain ⟨-, rfl, free⟩ := entryAt?_of_inDirectory hfree
  exact ⟨d, leadsTo_of_find_dot hfind, rfl, free, rfl⟩

end Files
end FlashImage
