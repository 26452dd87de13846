import FlashImage.Proofs.Stitch.Consistency
import FlashImage.Proofs.Stitch.Work

/-!
How often a stitcher calls the compressor.

A history is a sequence of calls of a stitcher with their work and their errors. No work is repeated
in it. Without errors the calls of the compressor can be counted by looking at the layout: each
region of a container that has been built was come to once. One call is made for every artifact with
a codec, and one for every compressed region with a container.
-/

set_option autoImplicit false
set_option relaxedAutoImplicit false

namespace FlashImage

def LayoutTree.regionsOf (t : LayoutTree) (name : String) : List Region :=
  match t.find? name with
  | some c => c.regions
  | none => []

/-- The key of a region whose artifact is present. -/
def Region.presentKey? (present : String → Bool) (r : Region) : Option (String × Codec) :=
  match r.source with
  | .artifact artifact => if present artifact then r.key? else none
  | .container _ => none

def Workspace.compressions (w : Workspace) : List (Codec × Nat) :=
  w.events.filterMap fun
    | .compression codec length => some (codec, length)
    | _ => none

/-- The compressor leaves the compressions in the record alone. -/
def Compressor.KeepsRecord (compress : Compressor) : Prop :=
  ∀ codec raw w, (compress codec raw w).2.compressions = w.compressions

namespace Work

def isCall : Work → Bool
  | .call _ _ _ => true
  | _ => false

def isChildCall : Work → Bool
  | .call r _ _ => r.isCompressedChild
  | _ => false

def called? : Work → Option (String × Codec)
  | .call r _ _ => r.key?
  | _ => none

/-- The region that has been come to. -/
def region? : Work → Option Region
  | .region r _ => some r
  | _ => none

def built? : Work → Option String
  | .built name => some name
  | _ => none

variable {x : Work} {works : List Work}

private theorem goal?_eq_content_iff {k : String × Codec} :
    x.goal? = some (.content k) ↔ x.called? = some k := by
  cases x <;> simp [goal?, called?]

private theorem goal?_eq_container_iff {name : String} :
    x.goal? = some (.container name) ↔ x.built? = some name := by
  cases x <;> simp [goal?, built?]

/-- What the record holds about a call. -/
def entry? : Work → Option (Codec × Nat)
  | .call r raw _ => some (r.codec, raw.length)
  | _ => none

private theorem countP_isCall (codec : ∀ x ∈ works, x.codec? ≠ some .none) :
    works.countP isCall = (works.filterMap called?).length + works.countP isChildCall := by
  induction works with
  | nil => rfl
  | cons x rest ih =>
    obtain ⟨hcodec, hrest⟩ := List.forall_mem_cons.1 codec
    rw [List.countP_cons, List.countP_cons, List.filterMap_cons, ih hrest]
    cases x with
    | region | built => rfl
    | call r raw result =>
      have hne : r.codec ≠ .none := by simpa [codec?] using hcodec
      cases hsource : r.source with
      | artifact artifact =>
        simp only [isCall, isChildCall, called?, Region.key?, Region.isCompressedChild, hsource,
          if_neg hne, List.length_cons]
        simp
        omega
      | container child =>
        simp only [isCall, isChildCall, called?, Region.key?, Region.isCompressedChild, hsource]
        simp [hne]
        omega

end Work

namespace StitchJob

variable {job : StitchJob} {files : Files → Prop} {t : LayoutTree} {task : Task}
  {m m' m₁ : StitchMemory} {w₀ w w' : Workspace} {own others : List Region}
  {works following : List Work} {errors : List Error}

/-- Work without failures that has come to some regions and to those of the containers that it has
built, to each of them once. -/
structure Clean (t : LayoutTree) (own : List Region) (works : List Work) : Prop where
  succeeds : ∀ x ∈ works, x.fails = false
  regions : (works.filterMap Work.region?).Perm
    (own ++ (works.filterMap Work.built?).flatMap t.regionsOf)
  children : works.countP Work.isChildCall =
    (works.filterMap Work.region?).countP Region.isCompressedChild

private theorem clean_nil (t : LayoutTree) : Clean t [] [] := ⟨by simp, .nil, rfl⟩

theorem Clean.append (first : Clean t own works) (second : Clean t others following) :
    Clean t (own ++ others) (works ++ following) := by
  refine ⟨List.forall_mem_append.2 ⟨first.succeeds, second.succeeds⟩, ?_, ?_⟩
  · rw [List.filterMap_append, List.filterMap_append, List.flatMap_append]
    refine (first.regions.append second.regions).trans ?_
    rw [List.append_assoc, List.append_assoc]
    refine List.Perm.append_left own ?_
    rw [← List.append_assoc, ← List.append_assoc]
    exact List.Perm.append_right _ List.perm_append_comm
  · rw [List.countP_append, List.filterMap_append, List.countP_append, first.children,
      second.children]

theorem Clean.built {name : String} {c : Container} (found : t.find? name = some c)
    (h : Clean t c.regions works) : Clean t [] (works ++ [.built name]) := by
  have hregions : t.regionsOf name = c.regions := by simp only [LayoutTree.regionsOf, found]
  refine ⟨?_, ?_, ?_⟩
  · exact List.forall_mem_append.2 ⟨h.succeeds, List.forall_mem_singleton.2 rfl⟩
  · rw [List.filterMap_append, List.filterMap_append, List.flatMap_append, List.nil_append]
    have hlast : ([Work.built name].filterMap Work.built?).flatMap t.regionsOf = c.regions := by
      simp [Work.built?, hregions]
    have hnone : [Work.built name].filterMap Work.region? = [] := rfl
    rw [hlast, hnone, List.append_nil]
    exact h.regions.trans List.perm_append_comm
  · rw [List.countP_append, List.filterMap_append, List.countP_append, h.children]
    rfl

private theorem clean_region {r : Region} (h : r.isCompressedChild = false) (present : Bool) :
    Clean t [r] [.region r present] := by
  refine ⟨by simp [Work.fails], by simp [Work.region?, Work.built?], ?_⟩
  simp [Work.region?, Work.isChildCall, h]

private theorem clean_callFor (t : LayoutTree) (r : Region) (raw data : Bytes) :
    Clean t [r] (Work.callFor r raw (.ok data) ++ [.region r true]) := by
  rw [Work.callFor]
  by_cases hcodec : r.codec = .none
  · have hchild : r.isCompressedChild = false := by
      cases hsource : r.source <;> simp [Region.isCompressedChild, hsource, hcodec]
    rw [if_pos hcodec]
    exact clean_region hchild true
  · rw [if_neg hcodec, List.singleton_append]
    have hregions : [Work.call r raw (.ok data), .region r true].filterMap Work.region? = [r] := rfl
    refine ⟨by simp [Work.fails], .refl _, ?_⟩
    rw [hregions]
    cases hchild : r.isCompressedChild <;> simp [Work.isChildCall, hchild]

theorem ContentRun.clean {container artifact : String} {r : Region} {content : Option Bytes}
    (source : r.source = .artifact artifact)
    (run : job.ContentRun container r artifact m w (.ok content) m' w') :
    Clean t [r] (job.contentWorks r artifact m w) := by
  have hchild : r.isCompressedChild = false := by simp [Region.isCompressedChild, source]
  cases run with
  | kept kept =>
    simp only [contentWorks, kept]
    exact clean_region hchild true
  | leftOut new load policy =>
    simp only [contentWorks, new, load, if_pos policy]
    exact clean_region hchild false
  | loaded new load compress =>
    simp only [contentWorks, new, load, compress]
    exact clean_callFor t r _ _

def Task.ownRegions : Task → List Region
  | .container _ _ => []
  | .region _ _ r => [r]
  | .regions _ _ siblings => siblings

/-- A run that succeeds has come to each region once. -/
theorem WorkRun.clean {result : Except Error Bytes} {data : Bytes}
    (run : job.WorkRun task m w works result m' w') (h : result = .ok data) :
    Clean job.tree task.ownRegions works := by
  induction run generalizing data with
  | kept | nil => exact clean_nil _
  | cycle | unknown | failed | zeroSize | noContent | noChild | incompressible | firstFailed
  | restFailed => cases h
  | built _ _ found _ ih => exact (ih rfl).built found
  | artifact _ source run => exact run.clean source
  | child _ _ _ _ ih => exact (ih rfl).append (clean_callFor _ _ _ _)
  | cons _ _ ihFirst ihRest => exact (ihFirst rfl).append (ihRest rfl)

inductive EachWorks (job : StitchJob) : List String → StitchMemory → Workspace → List Work →
    Except Error (List (String × Bytes)) → StitchMemory → Workspace → Prop
  | nil {m : StitchMemory} {w : Workspace} : EachWorks job [] m w [] (.ok []) m w
  | failed {name : String} {rest : List String} {m m₁ : StitchMemory} {w w₁ : Workspace}
      {works : List Work} {e : Error}
      (first : job.WorkRun (.container [] name) m w works (.error e) m₁ w₁) :
      EachWorks job (name :: rest) m w works (.error e) m₁ w₁
  | succeeded {name : String} {rest : List String} {m m₁ m₂ : StitchMemory}
      {w w₁ w₂ : Workspace} {works following : List Work} {data : Bytes}
      {result : Except Error (List (String × Bytes))}
      (first : job.WorkRun (.container [] name) m w works (.ok data) m₁ w₁)
      (others : EachWorks job rest m₁ (w₁.recorded (.containerDone name data.length)) following
        result m₂ w₂) :
      EachWorks job (name :: rest) m w (works ++ following)
        (result.map fun outputs => (name, data) :: outputs) m₂ w₂

private theorem EachRun.exists_eachWorks {names : List String}
    {result : Except Error (List (String × Bytes))} (run : job.EachRun names m w result m' w') :
    ∃ works, job.EachWorks names m w works result m' w' := by
  induction run with
  | nil => exact ⟨[], .nil⟩
  | failed first =>
    obtain ⟨works, hfirst⟩ := (stitchRun first).exists_workRun
    exact ⟨works, .failed hfirst⟩
  | restFailed first _ ih =>
    obtain ⟨works, hfirst⟩ := (stitchRun first).exists_workRun
    obtain ⟨following, hothers⟩ := ih
    exact ⟨_, .succeeded hfirst hothers⟩
  | cons first _ ih =>
    obtain ⟨works, hfirst⟩ := (stitchRun first).exists_workRun
    obtain ⟨following, hothers⟩ := ih
    exact ⟨_, .succeeded hfirst hothers⟩

theorem EachWorks.thrifty {names : List String} {result : Except Error (List (String × Bytes))}
    (run : job.EachWorks names m w works result m' w') : Thrifty m works m' := by
  induction run with
  | nil => exact thrifty_nil _
  | failed first => exact first.thrifty
  | succeeded first _ ih => exact first.thrifty.append ih

theorem EachWorks.clean {names : List String} {result : Except Error (List (String × Bytes))}
    {outputs : List (String × Bytes)} (run : job.EachWorks names m w works result m' w')
    (h : result = .ok outputs) : Clean job.tree [] works := by
  induction run generalizing outputs with
  | nil => exact clean_nil _
  | failed => cases h
  | @succeeded _ _ _ _ _ _ _ _ _ _ _ result first _ ih =>
    cases result with
    | error e => cases h
    | ok rest => exact (first.clean rfl).append (ih rfl)

def errorOf {α : Type} : Except Error α → List Error
  | .ok _ => []
  | .error e => [e]

private theorem errorOf_eq_nil_iff {α : Type} {result : Except Error α} :
    errorOf result = [] ↔ ∃ a, result = .ok a := by
  cases result <;> simp [errorOf]

inductive History (job : StitchJob) (files : Files → Prop) (w₀ : Workspace) :
    List Work → List Error → StitchMemory → Workspace → Prop
  | start (initial : files w₀.files) : History job files w₀ [] [] .empty w₀
  | stitched {works done : List Work} {errors : List Error} {m m' : StitchMemory}
      {w w' : Workspace} {name : String} {result : Except Error Bytes}
      (prior : History job files w₀ works errors m w)
      (call : job.stitch name m w = ((result, m'), w'))
      (run : job.WorkRun (.container [] name) m w done result m' w') :
      History job files w₀ (works ++ done) (errors ++ errorOf result) m' w'
  | allStitched {works done : List Work} {errors : List Error} {m m' : StitchMemory}
      {w w₁ w' : Workspace} {result : Except Error (List (String × Bytes))}
      (prior : History job files w₀ works errors m w)
      (call : job.stitchAll m w = ((result, m'), w'))
      (run : job.EachWorks job.tree.names m (w.recorded (.started job.tree.containers.length)) done
        result m' w₁) (ends : w' = finished w₁ result) :
      History job files w₀ (works ++ done) (errors ++ errorOf result) m' w'
  | changed {works : List Work} {errors : List Error} {m : StitchMemory} {w : Workspace}
      {fs : Files} (prior : History job files w₀ works errors m w) (change : files fs) :
      History job files w₀ works errors m { w with files := fs }

private theorem Reachable.exists_history (reachable : job.Reachable files m w) :
    ∃ w₀ works errors, job.History files w₀ works errors m w := by
  induction reachable with
  | @start w initial => exact ⟨w, [], [], .start initial⟩
  | stitched _ call ih =>
    obtain ⟨w₀, works, errors, prior⟩ := ih
    obtain ⟨done, run⟩ := (stitchRun call).exists_workRun
    exact ⟨w₀, _, _, .stitched prior call run⟩
  | allStitched _ call ih =>
    obtain ⟨w₀, works, errors, prior⟩ := ih
    obtain ⟨w₁, ends, each⟩ := eachRun_of_stitchAll call
    obtain ⟨done, run⟩ := each.exists_eachWorks
    exact ⟨w₀, _, _, .allStitched prior call run ends⟩
  | changed _ change ih =>
    obtain ⟨w₀, works, errors, prior⟩ := ih
    exact ⟨w₀, works, errors, .changed prior change⟩

theorem History.reachable (h : job.History files w₀ works errors m w) :
    job.Reachable files m w := by
  induction h with
  | start initial => exact .start initial
  | stitched _ call _ ih => exact .stitched ih call
  | allStitched _ call _ _ ih => exact .allStitched ih call
  | changed _ change ih => exact .changed ih change

theorem History.thrifty (h : job.History files w₀ works errors m w) : Thrifty .empty works m := by
  induction h with
  | start => exact thrifty_nil _
  | stitched _ _ run ih => exact ih.append run.thrifty
  | allStitched _ _ run _ ih => exact ih.append run.thrifty
  | changed _ _ ih => exact ih

theorem History.clean (h : job.History files w₀ works errors m w) (succeeds : errors = []) :
    Clean job.tree [] works := by
  induction h with
  | start => exact clean_nil _
  | stitched _ _ run ih =>
    obtain ⟨hprior, hresult⟩ := List.append_eq_nil_iff.1 succeeds
    obtain ⟨data, hdata⟩ := errorOf_eq_nil_iff.1 hresult
    exact (ih hprior).append (run.clean hdata)
  | allStitched _ _ run _ ih =>
    obtain ⟨hprior, hresult⟩ := List.append_eq_nil_iff.1 succeeds
    obtain ⟨outputs, houtputs⟩ := errorOf_eq_nil_iff.1 hresult
    exact (ih hprior).append (run.clean houtputs)
  | changed _ _ ih => exact ih succeeds

def builtRegions (job : StitchJob) (m : StitchMemory) : List Region :=
  (job.tree.containers.filter fun c => (m.built? c.name).isSome).flatMap (·.regions)

private theorem Thrifty.nodup_built (thrifty : Thrifty m works m') :
    (works.filterMap Work.built?).Nodup := by
  rw [List.Nodup, List.pairwise_filterMap]
  refine thrifty.once.imp fun {x y} once name hx name' hy => ?_
  rintro rfl
  refine once (.container name) ⟨Work.goal?_eq_container_iff.2 hx, ?_⟩
    (Work.goal?_eq_container_iff.2 hy)
  cases x with
  | built => rfl
  | call | region => cases hx

private theorem Thrifty.nodup_called (thrifty : Thrifty m works m')
    (succeeds : ∀ x ∈ works, x.fails = false) : (works.filterMap Work.called?).Nodup := by
  rw [List.Nodup, List.pairwise_filterMap]
  refine thrifty.once.imp_of_mem fun {x y} hxmem _ once k hx k' hy => ?_
  rintro rfl
  exact once (.content k) ⟨Work.goal?_eq_content_iff.2 hx, succeeds x hxmem⟩
    (Work.goal?_eq_content_iff.2 hy)

private theorem Thrifty.mem_called_iff (thrifty : Thrifty .empty works m)
    (succeeds : ∀ x ∈ works, x.fails = false) {k : String × Codec} :
    k ∈ works.filterMap Work.called? ↔ k ∈ works.filterMap Work.given? := by
  rw [List.mem_filterMap, List.mem_filterMap]
  constructor
  · rintro ⟨x, hx, hk⟩
    exact thrifty.used x hx k ⟨Work.goal?_eq_content_iff.2 hk, succeeds x hx⟩
  · rintro ⟨x, hx, hk⟩
    have hhas := (thrifty.has _).1 (thrifty.given x hx k hk)
    obtain ⟨y, hy, hachieves⟩ := hhas.resolve_left (StitchMemory.not_has_empty _)
    exact ⟨y, hy, Work.goal?_eq_content_iff.1 hachieves.1⟩

private theorem Clean.perm_builtRegions (clean : Clean job.tree [] works)
    (thrifty : Thrifty .empty works m) (consistent : job.Consistent m) :
    (works.filterMap Work.region?).Perm (job.builtRegions m) := by
  have hmem (name : String) : name ∈ works.filterMap Work.built? ↔
      name ∈ (job.tree.containers.filter fun c => (m.built? c.name).isSome).map (·.name) := by
    have hhas : m.Has (.container name) ↔ name ∈ works.filterMap Work.built? := by
      rw [thrifty.has, or_iff_right (StitchMemory.not_has_empty _), List.mem_filterMap]
      refine exists_congr fun x => and_congr_right fun hx => ?_
      rw [Work.Achieves, Work.goal?_eq_container_iff]
      exact and_iff_left (clean.succeeds x hx)
    rw [← hhas, List.mem_map]
    constructor
    · intro h
      obtain ⟨data, hdata⟩ := Option.ne_none_iff_exists'.1 h
      obtain ⟨c, hc, rfl, -⟩ := consistent.container name data hdata
      exact ⟨c, List.mem_filter.2 ⟨hc, by simp [hdata]⟩, rfl⟩
    · rintro ⟨c, hc, rfl⟩
      exact Option.isSome_iff_ne_none.1 (List.mem_filter.1 hc).2
  have hnodup : ((job.tree.containers.filter fun c => (m.built? c.name).isSome).map
      (·.name)).Nodup := job.tree.distinct.sublist (List.filter_sublist.map _)
  have hnames := (List.perm_ext_iff_of_nodup thrifty.nodup_built hnodup).2 hmem
  have hregions : ∀ c ∈ job.tree.containers, job.tree.regionsOf c.name = c.regions := by
    intro c hc
    simp only [LayoutTree.regionsOf, LayoutTree.find?_name hc]
  have hflat : ((job.tree.containers.filter fun c => (m.built? c.name).isSome).map
      (·.name)).flatMap job.tree.regionsOf = job.builtRegions m := by
    rw [List.flatMap_map, builtRegions]
    exact List.flatMap_congr fun c hc => hregions c (List.mem_filter.1 hc).1
  have hperm := hnames.flatMap_right job.tree.regionsOf
  rw [hflat] at hperm
  exact clean.regions.trans hperm

private theorem countP_isCall_of_clean (thrifty : Thrifty .empty works m)
    (clean : Clean job.tree [] works)
    (consistent : job.Consistent m) :
    works.countP Work.isCall = (works.filterMap Work.given?).dedup.length +
      (job.builtRegions m).countP Region.isCompressedChild := by
  have hperm : (works.filterMap Work.called?).Perm (works.filterMap Work.given?).dedup := by
    refine (List.perm_ext_iff_of_nodup (thrifty.nodup_called clean.succeeds)
      (List.nodup_dedup _)).2 fun k => ?_
    rw [List.mem_dedup, thrifty.mem_called_iff clean.succeeds]
  rw [Work.countP_isCall thrifty.codec, hperm.length_eq, clean.children,
    (clean.perm_builtRegions thrifty consistent).countP_eq]

/-- Whether an artifact is present does not change with the files. -/
def Steady (job : StitchJob) (files : Files → Prop) (present : String → Bool) : Prop :=
  ∀ fs artifact, files fs →
    (present artifact = true ↔ ∃ raw, job.store.load fs artifact = .ok (some raw))

def Truthful (present : String → Bool) (x : Work) : Prop :=
  ∀ r found artifact, x = .region r found → r.source = .artifact artifact → found = present artifact

variable {present : String → Bool}

private theorem truthful_callFor (r : Region) (raw : Bytes) (result : Except Error Bytes) :
    ∀ x ∈ Work.callFor r raw result, Truthful present x := by
  intro x hx
  rw [Work.callFor] at hx
  split at hx
  · cases hx
  · obtain rfl := List.mem_singleton.1 hx
    intro _ _ _ h
    cases h

private theorem truthful_region {r : Region} {found : Bool}
    (h : ∀ artifact, r.source = .artifact artifact → found = present artifact) :
    ∀ x ∈ [Work.region r found], Truthful present x := by
  refine List.forall_mem_singleton.2 fun r' found' artifact heq source => ?_
  cases heq
  exact h artifact source

private theorem ContentRun.truthful (steady : job.Steady files present)
    {container artifact : String}
    {r : Region} {result : Except Error (Option Bytes)} (source : r.source = .artifact artifact)
    (run : job.ContentRun container r artifact m w result m' w') (sound : job.Sound files m w) :
    ∀ x ∈ job.contentWorks r artifact m w, Truthful present x := by
  have hregion {found : Bool} (h : found = present artifact) :
      ∀ x ∈ [Work.region r found], Truthful present x := by
    refine truthful_region fun artifact' source' => ?_
    cases source.symm.trans source'
    exact h
  cases run with
  | kept kept =>
    obtain ⟨raw, w₁, -, met, load, -⟩ := sound.content _ _ _ kept
    simp only [contentWorks, kept]
    exact hregion ((steady _ _ met).2 ⟨raw, load⟩).symm
  | unread new load =>
    simp only [contentWorks, new, load]
    exact List.forall_mem_nil _
  | leftOut new load policy =>
    simp only [contentWorks, new, load, if_pos policy]
    refine hregion (Bool.eq_false_iff.2 fun h => ?_).symm
    obtain ⟨raw, hload⟩ := (steady _ _ sound.met).1 h
    cases load.symm.trans hload
  | missing new load policy =>
    simp only [contentWorks, new, load, if_neg policy]
    exact List.forall_mem_nil _
  | failed new load compress =>
    simp only [contentWorks, new, load, compress]
    exact truthful_callFor _ _ _
  | loaded new load compress =>
    simp only [contentWorks, new, load, compress]
    exact List.forall_mem_append.2 ⟨truthful_callFor _ _ _,
      hregion ((steady _ _ sound.met).2 ⟨_, load⟩).symm⟩

private theorem WorkRun.truthful (keeps : job.Keeps files) (steady : job.Steady files present)
    {result : Except Error Bytes} (run : job.WorkRun task m w works result m' w')
    (sound : job.Sound files m w) : ∀ x ∈ works, Truthful present x := by
  induction run with
  | kept | cycle | unknown | zeroSize | nil => exact List.forall_mem_nil _
  | failed _ _ _ _ ih => exact ih sound
  | built _ _ _ _ ih =>
    refine List.forall_mem_append.2 ⟨ih sound, List.forall_mem_singleton.2 ?_⟩
    intro _ _ _ h
    cases h
  | noContent _ source content => exact content.truthful steady source sound
  | artifact _ source run => exact run.truthful steady source sound
  | noChild _ _ _ ih => exact ih sound
  | incompressible _ _ _ _ ih =>
    exact List.forall_mem_append.2 ⟨ih sound, truthful_callFor _ _ _⟩
  | child _ source _ _ ih =>
    refine List.forall_mem_append.2
      ⟨ih sound, List.forall_mem_append.2 ⟨truthful_callFor _ _ _, ?_⟩⟩
    exact truthful_region fun _ source' => by cases source.symm.trans source'
  | firstFailed _ ih => exact ih sound
  | restFailed first _ ihFirst ihRest =>
    have hsound := (stitchRun_sound keeps first.stitchRun sound).1
    exact List.forall_mem_append.2 ⟨ihFirst sound, ihRest hsound⟩
  | cons first _ ihFirst ihRest =>
    have hsound := (stitchRun_sound keeps first.stitchRun sound).1
    exact List.forall_mem_append.2 ⟨ihFirst sound, ihRest hsound⟩

private theorem EachWorks.truthful (keeps : job.Keeps files) (steady : job.Steady files present)
    {names : List String} {result : Except Error (List (String × Bytes))}
    (run : job.EachWorks names m w works result m' w') (sound : job.Sound files m w) :
    ∀ x ∈ works, Truthful present x := by
  induction run with
  | nil => exact List.forall_mem_nil _
  | failed first => exact first.truthful keeps steady sound
  | succeeded first _ ih =>
    have hsound := (stitchRun_sound keeps first.stitchRun sound).1
    exact List.forall_mem_append.2
      ⟨first.truthful keeps steady sound, ih (hsound.withFiles hsound.met)⟩

private theorem History.truthful (keeps : job.Keeps files) (steady : job.Steady files present)
    (h : job.History files w₀ works errors m w) : ∀ x ∈ works, Truthful present x := by
  induction h with
  | start => exact List.forall_mem_nil _
  | stitched prior _ run ih =>
    have hsound := sound_of_reachable keeps prior.reachable
    exact List.forall_mem_append.2 ⟨ih, run.truthful keeps steady hsound⟩
  | allStitched prior _ run _ ih =>
    have hsound := sound_of_reachable keeps prior.reachable
    exact List.forall_mem_append.2
      ⟨ih, run.truthful keeps steady (hsound.withFiles hsound.met)⟩
  | changed _ _ ih => exact ih

private theorem given_eq_of_truthful (truthful : ∀ x ∈ works, Truthful present x) :
    works.filterMap Work.given? =
      (works.filterMap Work.region?).filterMap (Region.presentKey? present) := by
  rw [List.filterMap_filterMap]
  refine List.filterMap_congr fun x hx => ?_
  cases x with
  | call | built => rfl
  | region r found =>
    cases hsource : r.source with
    | container child =>
      cases found <;> simp [Work.given?, Work.region?, Region.presentKey?, Region.key?, hsource]
    | artifact artifact =>
      have hfound := truthful _ hx r found artifact rfl hsource
      cases found <;> simp [Work.given?, Work.region?, Region.presentKey?, hsource, ← hfound]

private theorem compressions_of_compressed (keeps : job.compress.KeepsRecord) {r : Region}
    {raw : Bytes}
    {result : Except Error Bytes} (h : job.compressed r.codec raw w = (result, w')) :
    w'.compressions =
      ((Work.callFor r raw result).filterMap Work.entry?).reverse ++ w.compressions := by
  rw [Work.callFor]
  by_cases hcodec : r.codec = .none
  · rw [hcodec, compressed_none] at h
    cases h
    rw [if_pos hcodec]
    rfl
  · rw [compressed_of_ne hcodec] at h
    have hkept := keeps r.codec raw (w.recorded (.compression r.codec raw.length))
    rw [h] at hkept
    rw [if_neg hcodec]
    exact hkept

private theorem compressions_trans {w₁ : Workspace}
    (first : w₁.compressions = (works.filterMap Work.entry?).reverse ++ w.compressions)
    (second : w'.compressions = (following.filterMap Work.entry?).reverse ++ w₁.compressions) :
    w'.compressions =
      ((works ++ following).filterMap Work.entry?).reverse ++ w.compressions := by
  rw [second, first, List.filterMap_append, List.reverse_append, List.append_assoc]

private theorem ContentRun.compressions (keeps : job.compress.KeepsRecord)
    {container artifact : String}
    {r : Region} {result : Except Error (Option Bytes)}
    (run : job.ContentRun container r artifact m w result m' w') :
    w'.compressions =
      ((job.contentWorks r artifact m w).filterMap Work.entry?).reverse ++ w.compressions := by
  cases run with
  | kept kept =>
    simp only [contentWorks, kept]
    rfl
  | unread new load =>
    simp only [contentWorks, new, load]
    rfl
  | leftOut new load policy =>
    simp only [contentWorks, new, load, if_pos policy]
    rfl
  | missing new load policy =>
    simp only [contentWorks, new, load, if_neg policy]
    rfl
  | failed new load compress =>
    simp only [contentWorks, new, load, compress]
    exact compressions_of_compressed keeps compress
  | loaded new load compress =>
    simp only [contentWorks, new, load, compress]
    exact compressions_trans (compressions_of_compressed keeps compress) rfl

private theorem WorkRun.compressions (keeps : job.compress.KeepsRecord)
    {result : Except Error Bytes}
    (run : job.WorkRun task m w works result m' w') :
    w'.compressions = (works.filterMap Work.entry?).reverse ++ w.compressions := by
  induction run with
  | kept | cycle | unknown | zeroSize | nil => rfl
  | failed _ _ _ _ ih => exact ih
  | built _ _ _ _ ih => exact compressions_trans ih rfl
  | noContent _ _ content => exact content.compressions keeps
  | artifact _ _ run => exact run.compressions keeps
  | noChild _ _ _ ih => exact ih
  | incompressible _ _ _ compress ih =>
    exact compressions_trans ih (compressions_of_compressed keeps compress)
  | child _ _ _ compress ih =>
    exact compressions_trans ih
      (compressions_trans (compressions_of_compressed keeps compress) rfl)
  | firstFailed _ ih => exact ih
  | restFailed _ _ ihFirst ihRest => exact compressions_trans ihFirst ihRest
  | cons _ _ ihFirst ihRest => exact compressions_trans ihFirst ihRest

private theorem EachWorks.compressions (keeps : job.compress.KeepsRecord) {names : List String}
    {result : Except Error (List (String × Bytes))}
    (run : job.EachWorks names m w works result m' w') :
    w'.compressions = (works.filterMap Work.entry?).reverse ++ w.compressions := by
  induction run with
  | nil => rfl
  | failed first => exact first.compressions keeps
  | succeeded first _ ih => exact compressions_trans (first.compressions keeps) ih

private theorem History.compressions (keeps : job.compress.KeepsRecord)
    (h : job.History files w₀ works errors m w) :
    w.compressions = (works.filterMap Work.entry?).reverse ++ w₀.compressions := by
  induction h with
  | start => rfl
  | stitched _ _ run ih => exact compressions_trans ih (run.compressions keeps)
  | @allStitched _ _ _ _ _ _ _ _ result _ _ run ends ih =>
    have hrun := run.compressions keeps
    refine compressions_trans ih ?_
    rw [ends]
    cases result <;> exact hrun
  | changed _ _ ih => exact ih

theorem History.consistent (h : job.History files w₀ works errors m w) : job.Consistent m := by
  have keeps : job.Keeps fun _ => True := fun _ _ _ _ => trivial
  have hreachable : job.Reachable (fun _ => True) m w := h.reachable.weaken fun _ _ => trivial
  exact (sound_of_reachable keeps hreachable).consistent (settled_of_reachable keeps hreachable)

/-- What holds of the work of a history: no call is for nothing, none follows one that has succeeded
for the same artifact and codec, and no container is built twice. Without errors the calls can be
counted. -/
structure Economical (job : StitchJob) (files : Files → Prop) (w₀ : Workspace) (works : List Work)
    (errors : List Error) (m : StitchMemory) (w : Workspace) : Prop where
  codec : ∀ x ∈ works, x.codec? ≠ some .none
  once : works.Pairwise fun x y =>
    ∀ k, x.called? = some k → x.fails = false → y.called? ≠ some k
  built : (works.filterMap Work.built?).Nodup
  recorded : job.compress.KeepsRecord →
    w.compressions = (works.filterMap Work.entry?).reverse ++ w₀.compressions
  given : errors = [] → ∀ k ∈ works.filterMap Work.given?,
    ∃ r ∈ job.builtRegions m, r.key? = some k
  counted : errors = [] → works.countP Work.isCall =
    (works.filterMap Work.given?).dedup.length +
      (job.builtRegions m).countP Region.isCompressedChild
  countedSteady : errors = [] → ∀ present, job.Keeps files → job.Steady files present →
    works.countP Work.isCall =
      ((job.builtRegions m).filterMap (Region.presentKey? present)).dedup.length +
        (job.builtRegions m).countP Region.isCompressedChild

/-- Whatever calls a stitcher has had, and whatever the files became between them, its work has a
history, and no work is repeated in it. -/
theorem economical_of_history (job : StitchJob) (files : Files → Prop) :
    (∀ m w, job.Reachable files m w →
      ∃ w₀ works errors, job.History files w₀ works errors m w) ∧
    ∀ w₀ works errors m w, job.History files w₀ works errors m w →
      job.Economical files w₀ works errors m w := by
  refine ⟨fun m w => Reachable.exists_history, fun w₀ works errors m w history => ?_⟩
  have hthrifty := history.thrifty
  have hperm (succeeds : errors = []) :
      (works.filterMap Work.region?).Perm (job.builtRegions m) :=
    (history.clean succeeds).perm_builtRegions hthrifty history.consistent
  have hcounted (succeeds : errors = []) : works.countP Work.isCall =
      (works.filterMap Work.given?).dedup.length +
        (job.builtRegions m).countP Region.isCompressedChild :=
    countP_isCall_of_clean hthrifty (history.clean succeeds) history.consistent
  refine ⟨hthrifty.codec, hthrifty.once.imp fun {x y} once k hx hfails hy => ?once,
    hthrifty.nodup_built, history.compressions, fun succeeds k hk => ?given, hcounted,
    fun succeeds present keeps steady => ?steady⟩
  case once =>
    exact once (.content k) ⟨Work.goal?_eq_content_iff.2 hx, hfails⟩
      (Work.goal?_eq_content_iff.2 hy)
  case given =>
    obtain ⟨x, hx, hgiven⟩ := List.mem_filterMap.1 hk
    cases x with
    | call | built => cases hgiven
    | region r present =>
      have hregion : r ∈ works.filterMap Work.region? := List.mem_filterMap.2 ⟨_, hx, rfl⟩
      cases present with
      | false => cases hgiven
      | true => exact ⟨r, (hperm succeeds).mem_iff.1 hregion, hgiven⟩
  case steady =>
    have hgiven := given_eq_of_truthful (history.truthful keeps steady)
    have hkeys := (hperm succeeds).filterMap (Region.presentKey? present)
    rw [hcounted succeeds, hgiven, hkeys.dedup.length_eq]

def sharingTree : LayoutTree where
  name := none
  blockSize := 4
  padByte := none
  containers := [
    ⟨"FIRST", [{ Region.ofArtifact "a" 4 with codec := .lz4 }]⟩,
    ⟨"SECOND", [
      { Region.ofArtifact "a" 4 with codec := .lz4 },
      { Region.ofArtifact "b" 4 with codec := .lzma, policy := .ignore }]⟩,
    ⟨"IMAGE", [
      { Region.ofContainer "FIRST" 4 with codec := .lzma }, Region.ofContainer "SECOND" 8]⟩]
  distinct := by decide

def sharingJob : StitchJob := ⟨sharingTree, sampleStore, fun _ raw => return raw.take 2, 0xFF⟩

private theorem steady_sharing : sharingJob.Steady (fun _ => True) (· == "a") := by
  intro fs artifact _
  by_cases hname : artifact = "a"
  · subst hname
    exact iff_of_true rfl ⟨[1, 2, 3], rfl⟩
  · have hblob : sharingJob.store.blob? artifact = none := by
      have hne : (artifact == "a") = false := beq_eq_false_iff_ne.2 hname
      simp [sharingJob, sampleStore, ArtifactStore.blob?, List.lookup_cons, hne]
    have hload : sharingJob.store.load fs artifact = .ok none := by
      rw [ArtifactStore.load, hblob]
      rfl
    simp [hname, hload]

private theorem stitch_sharing :
    let image := sharingJob.stitch "IMAGE" .empty sampleWorkspace
    let all := sharingJob.stitchAll image.1.2 image.2
    image.1.1 = .ok [1, 2, 0xFF, 0xFF, 1, 2, 0xFF, 0xFF, 0xFF, 0xFF, 0xFF, 0xFF] ∧
      all.1.1 = .ok [("FIRST", [1, 2, 0xFF, 0xFF]), ("SECOND", [1, 2, 0xFF, 0xFF]),
        ("IMAGE", [1, 2, 0xFF, 0xFF, 1, 2, 0xFF, 0xFF, 0xFF, 0xFF, 0xFF, 0xFF])] ∧
      all.2.compressions = [(.lzma, 4), (.lz4, 3)] ∧
      sharingJob.builtRegions all.1.2 = sharingTree.containers.flatMap (·.regions) := by
  refine ⟨?_, ?_, ?_, ?_⟩ <;> cbv

/-- The image is built first, and then all containers: the compressor is called once for the shared
artifact, though two regions are given it, and once for the container that is compressed. -/
theorem economical_of_history_sharing :
    let image := sharingJob.stitch "IMAGE" .empty sampleWorkspace
    let all := sharingJob.stitchAll image.1.2 image.2
    (∃ data, image.1.1 = .ok data) ∧ (∃ outputs, all.1.1 = .ok outputs) ∧
      all.2.compressions = [(.lzma, 4), (.lz4, 3)] ∧
      ∃ works, sharingJob.History (fun _ => True) sampleWorkspace works [] all.1.2 all.2 ∧
        (works.filterMap Work.built?).Nodup ∧ works.countP Work.isCall = 2 := by
  intro image all
  obtain ⟨himage, hall, hcompressions, hregions⟩ := stitch_sharing
  have hfirst : sharingJob.stitch "IMAGE" .empty sampleWorkspace =
      ((.ok _, image.1.2), image.2) := Prod.ext (Prod.ext himage rfl) rfl
  have hsecond : sharingJob.stitchAll image.1.2 image.2 = ((.ok _, all.1.2), all.2) :=
    Prod.ext (Prod.ext hall rfl) rfl
  obtain ⟨works, run⟩ := (stitchRun hfirst).exists_workRun
  obtain ⟨w₁, ends, each⟩ := eachRun_of_stitchAll hsecond
  obtain ⟨following, others⟩ := each.exists_eachWorks
  have hstart : sharingJob.History (fun _ => True) sampleWorkspace [] [] .empty sampleWorkspace :=
    .start trivial
  have hhistory := History.allStitched (hstart.stitched hfirst run) hsecond others ends
  have heconomical := (economical_of_history sharingJob fun _ => True).2 _ _ _ _ _ hhistory
  have hcounted := heconomical.countedSteady rfl (· == "a") (fun _ _ _ _ => trivial) steady_sharing
  rw [hregions] at hcounted
  exact ⟨⟨_, himage⟩, ⟨_, hall⟩, hcompressions, _, hhistory, heconomical.built, hcounted⟩

end StitchJob
end FlashImage
