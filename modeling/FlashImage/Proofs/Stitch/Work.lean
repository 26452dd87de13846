import FlashImage.Proofs.Stitch.Composition
import FlashImage.Proofs.Stitch.Determinism

/-!
What a stitcher does on its way, and that it does nothing in vain.

A run is annotated with its work: the calls of the compressor, the regions whose content has been
found, and the containers that have been built. Every run has an annotation, and an annotation
changes nothing about the run. A goal is what some work is for and what the memory then has. Work is
begun only for goals that the memory does not have, so nothing follows a success.
-/

set_option autoImplicit false
set_option relaxedAutoImplicit false

namespace FlashImage

def Region.key? (r : Region) : Option (String × Codec) :=
  match r.source with
  | .artifact artifact => if r.codec = .none then none else some (artifact, r.codec)
  | .container _ => none

private theorem Region.key?_eq_some_iff {r : Region} {k : String × Codec} :
    r.key? = some k ↔ r.codec ≠ .none ∧ ∃ artifact, r.source = .artifact artifact ∧
      k = (artifact, r.codec) := by
  unfold key?
  cases r.source with
  | artifact artifact =>
    by_cases hcodec : r.codec = .none <;> simp [hcodec, eq_comm]
  | container child => simp

def Region.isCompressedChild (r : Region) : Bool :=
  match r.source with
  | .artifact _ => false
  | .container _ => r.codec ≠ .none

/-- What some work is for: the content of compressed artifact regions, or a container. -/
inductive Goal
  | content (key : String × Codec)
  | container (name : String)

def StitchMemory.Has (m : StitchMemory) : Goal → Prop
  | .content key => key.2 ≠ .none ∧ m.content? key.1 key.2 ≠ none
  | .container name => m.built? name ≠ none

inductive Work
  /-- The compressor is called for a region. -/
  | call (r : Region) (raw : Bytes) (result : Except Error Bytes)
  /-- The content of a region has been found, or the region is left out. -/
  | region (r : Region) (present : Bool)
  /-- A container has been built. -/
  | built (name : String)

namespace Work

def fails : Work → Bool
  | .call _ _ (.error _) => true
  | _ => false

def goal? : Work → Option Goal
  | .call r _ _ => r.key?.map .content
  | .region _ _ => none
  | .built name => some (.container name)

/-- The work reaches a goal. -/
def Achieves (x : Work) (g : Goal) : Prop := x.goal? = some g ∧ x.fails = false

def given? : Work → Option (String × Codec)
  | .region r true => r.key?
  | _ => none

def codec? : Work → Option Codec
  | .call r _ _ => some r.codec
  | _ => none

def callFor (r : Region) (raw : Bytes) (result : Except Error Bytes) : List Work :=
  if r.codec = .none then [] else [.call r raw result]

end Work

namespace StitchMemory

variable {m : StitchMemory} {g : Goal} {artifact name : String} {codec : Codec} {data : Bytes}

theorem not_has_empty (g : Goal) : ¬ empty.Has g := by
  cases g with
  | content key => exact fun h => h.2 rfl
  | container name => exact fun h => h rfl

private theorem has_keepContent_iff :
    (m.keepContent artifact codec data).Has g ↔
      m.Has g ∨ codec ≠ .none ∧ g = .content (artifact, codec) := by
  cases g with
  | container name => simp [Has]
  | content key =>
    obtain ⟨artifact', codec'⟩ := key
    simp only [Has, content?_keepContent, Goal.content.injEq, Prod.mk.injEq]
    by_cases hkey : artifact' = artifact ∧ codec' = codec
    · obtain ⟨rfl, rfl⟩ := hkey
      simp [or_iff_right_of_imp And.left]
    · simp [hkey]

private theorem has_keepBuilt_iff :
    (m.keepBuilt name data).Has g ↔ m.Has g ∨ g = .container name := by
  cases g with
  | content key => simp [Has]
  | container name' =>
    simp only [Has, built?_keepBuilt, Goal.container.injEq]
    by_cases hname : name' = name <;> simp [hname]

end StitchMemory

namespace StitchJob

/-- What is done to find the content of a region with an artifact. -/
def contentWorks (job : StitchJob) (r : Region) (artifact : String) (m : StitchMemory)
    (w : Workspace) : List Work :=
  match m.content? artifact r.codec with
  | some _ => [.region r true]
  | none =>
    match job.store.load w.files artifact with
    | .error _ => []
    | .ok none => if r.policy = .ignore then [.region r false] else []
    | .ok (some raw) =>
      match (job.compressed r.codec raw w).1 with
      | .error e => Work.callFor r raw (.error e)
      | .ok data => Work.callFor r raw (.ok data) ++ [.region r true]

inductive WorkRun (job : StitchJob) : Task → StitchMemory → Workspace → List Work →
    Except Error Bytes → StitchMemory → Workspace → Prop
  | kept {path : List String} {name : String} {m : StitchMemory} {w : Workspace} {data : Bytes}
      (kept : m.built? name = some data) :
      WorkRun job (.container path name) m w [] (.ok data) m w
  | cycle {path : List String} {name : String} {m : StitchMemory} {w : Workspace}
      (new : m.built? name = none) (onPath : name ∈ path) :
      WorkRun job (.container path name) m w [] (.error (.cycle (LayoutTree.cycleAt path name))) m w
  | unknown {path : List String} {name : String} {m : StitchMemory} {w : Workspace}
      (new : m.built? name = none) (offPath : name ∉ path) (lacking : job.tree.find? name = none) :
      WorkRun job (.container path name) m w [] (.error (unknownContainer name)) m w
  | failed {path : List String} {name : String} {c : Container} {m m₁ : StitchMemory}
      {w w₁ : Workspace} {works : List Work} {e : Error}
      (new : m.built? name = none) (offPath : name ∉ path) (found : job.tree.find? name = some c)
      (regions : WorkRun job (.regions (path ++ [name]) c.name c.regions) m w works (.error e)
        m₁ w₁) :
      WorkRun job (.container path name) m w works (.error e) m₁ w₁
  | built {path : List String} {name : String} {c : Container} {m m₁ : StitchMemory}
      {w w₁ : Workspace} {works : List Work} {data : Bytes}
      (new : m.built? name = none) (offPath : name ∉ path) (found : job.tree.find? name = some c)
      (regions : WorkRun job (.regions (path ++ [name]) c.name c.regions) m w works (.ok data)
        m₁ w₁) :
      WorkRun job (.container path name) m w (works ++ [.built name]) (.ok data)
        (m₁.keepBuilt name data) w₁
  | zeroSize {path : List String} {container : String} {r : Region} {m : StitchMemory}
      {w : Workspace} (size : r.size = 0) :
      WorkRun job (.region path container r) m w [] (.error (.region container r.name .zeroSize))
        m w
  | noContent {path : List String} {container artifact : String} {r : Region}
      {m m₁ : StitchMemory} {w w₁ : Workspace} {e : Error}
      (size : r.size ≠ 0) (source : r.source = .artifact artifact)
      (content : job.ContentRun container r artifact m w (.error e) m₁ w₁) :
      WorkRun job (.region path container r) m w (job.contentWorks r artifact m w) (.error e) m₁ w₁
  | artifact {path : List String} {container artifact : String} {r : Region}
      {m m₁ : StitchMemory} {w w₁ : Workspace} {content : Option Bytes}
      (size : r.size ≠ 0) (source : r.source = .artifact artifact)
      (run : job.ContentRun container r artifact m w (.ok content) m₁ w₁) :
      WorkRun job (.region path container r) m w (job.contentWorks r artifact m w)
        (job.slot container r content) m₁ w₁
  | noChild {path : List String} {container child : String} {r : Region}
      {m m₁ : StitchMemory} {w w₁ : Workspace} {works : List Work} {e : Error}
      (size : r.size ≠ 0) (source : r.source = .container child)
      (below : WorkRun job (.container path child) m w works (.error e) m₁ w₁) :
      WorkRun job (.region path container r) m w works (.error e) m₁ w₁
  | incompressible {path : List String} {container child : String} {r : Region}
      {m m₁ : StitchMemory} {w w₁ w₂ : Workspace} {works : List Work} {raw : Bytes} {e : Error}
      (size : r.size ≠ 0) (source : r.source = .container child)
      (below : WorkRun job (.container path child) m w works (.ok raw) m₁ w₁)
      (compress : job.compressed r.codec raw w₁ = (.error e, w₂)) :
      WorkRun job (.region path container r) m w (works ++ Work.callFor r raw (.error e)) (.error e)
        m₁ w₂
  | child {path : List String} {container child : String} {r : Region}
      {m m₁ : StitchMemory} {w w₁ w₂ : Workspace} {works : List Work} {raw data : Bytes}
      (size : r.size ≠ 0) (source : r.source = .container child)
      (below : WorkRun job (.container path child) m w works (.ok raw) m₁ w₁)
      (compress : job.compressed r.codec raw w₁ = (.ok data, w₂)) :
      WorkRun job (.region path container r) m w
        (works ++ (Work.callFor r raw (.ok data) ++ [.region r true]))
        (job.slot container r (some data)) m₁ w₂
  | nil {path : List String} {container : String} {m : StitchMemory} {w : Workspace} :
      WorkRun job (.regions path container []) m w [] (.ok []) m w
  | firstFailed {path : List String} {container : String} {r : Region} {rest : List Region}
      {m m₁ : StitchMemory} {w w₁ : Workspace} {works : List Work} {e : Error}
      (first : WorkRun job (.region path container r) m w works (.error e) m₁ w₁) :
      WorkRun job (.regions path container (r :: rest)) m w works (.error e) m₁ w₁
  | restFailed {path : List String} {container : String} {r : Region} {rest : List Region}
      {m m₁ m₂ : StitchMemory} {w w₁ w₂ : Workspace} {works others : List Work} {slot : Bytes}
      {e : Error}
      (first : WorkRun job (.region path container r) m w works (.ok slot) m₁ w₁)
      (following : WorkRun job (.regions path container rest) m₁ w₁ others (.error e) m₂ w₂) :
      WorkRun job (.regions path container (r :: rest)) m w (works ++ others) (.error e) m₂ w₂
  | cons {path : List String} {container : String} {r : Region} {rest : List Region}
      {m m₁ m₂ : StitchMemory} {w w₁ w₂ : Workspace} {works others : List Work}
      {slot slots : Bytes}
      (first : WorkRun job (.region path container r) m w works (.ok slot) m₁ w₁)
      (following : WorkRun job (.regions path container rest) m₁ w₁ others (.ok slots) m₂ w₂) :
      WorkRun job (.regions path container (r :: rest)) m w (works ++ others) (.ok (slot ++ slots))
        m₂ w₂

variable {job : StitchJob} {task : Task} {m m' m₁ : StitchMemory} {w w' : Workspace}
  {works others : List Work} {result : Except Error Bytes}

theorem StitchRun.exists_workRun (run : job.StitchRun task m w result m' w') :
    ∃ works, job.WorkRun task m w works result m' w' := by
  induction run with
  | kept kept => exact ⟨_, .kept kept⟩
  | cycle new onPath => exact ⟨_, .cycle new onPath⟩
  | unknown new offPath lacking => exact ⟨_, .unknown new offPath lacking⟩
  | failed new offPath found _ ih => exact ih.imp fun _ h => .failed new offPath found h
  | built new offPath found _ ih =>
    obtain ⟨works, h⟩ := ih
    exact ⟨_, .built new offPath found h⟩
  | zeroSize size => exact ⟨_, .zeroSize size⟩
  | noContent size source content => exact ⟨_, .noContent size source content⟩
  | artifact size source run => exact ⟨_, .artifact size source run⟩
  | noChild size source _ ih => exact ih.imp fun _ h => .noChild size source h
  | incompressible size source _ compress ih =>
    obtain ⟨works, h⟩ := ih
    exact ⟨_, .incompressible size source h compress⟩
  | child size source _ compress ih =>
    obtain ⟨works, h⟩ := ih
    exact ⟨_, .child size source h compress⟩
  | nil => exact ⟨_, .nil⟩
  | firstFailed _ ih => exact ih.imp fun _ h => .firstFailed h
  | restFailed _ _ ihFirst ihRest =>
    obtain ⟨works, h⟩ := ihFirst
    obtain ⟨others, h'⟩ := ihRest
    exact ⟨_, .restFailed h h'⟩
  | cons _ _ ihFirst ihRest =>
    obtain ⟨works, h⟩ := ihFirst
    obtain ⟨others, h'⟩ := ihRest
    exact ⟨_, .cons h h'⟩

theorem WorkRun.stitchRun (run : job.WorkRun task m w works result m' w') :
    job.StitchRun task m w result m' w' := by
  induction run with
  | kept kept => exact .kept kept
  | cycle new onPath => exact .cycle new onPath
  | unknown new offPath lacking => exact .unknown new offPath lacking
  | failed new offPath found _ ih => exact .failed new offPath found ih
  | built new offPath found _ ih => exact .built new offPath found ih
  | zeroSize size => exact .zeroSize size
  | noContent size source content => exact .noContent size source content
  | artifact size source run => exact .artifact size source run
  | noChild size source _ ih => exact .noChild size source ih
  | incompressible size source _ compress ih => exact .incompressible size source ih compress
  | child size source _ compress ih => exact .child size source ih compress
  | nil => exact .nil
  | firstFailed _ ih => exact .firstFailed ih
  | restFailed _ _ ihFirst ihRest => exact .restFailed ihFirst ihRest
  | cons _ _ ihFirst ihRest => exact .cons ihFirst ihRest

/-- Work that leads from a memory to another one, none of it in vain. -/
structure Thrifty (m : StitchMemory) (works : List Work) (m' : StitchMemory) : Prop where
  codec : ∀ x ∈ works, x.codec? ≠ some .none
  has : ∀ g, m'.Has g ↔ m.Has g ∨ ∃ x ∈ works, x.Achieves g
  new : ∀ x ∈ works, ∀ g, x.goal? = some g → ¬ m.Has g
  once : works.Pairwise fun x y => ∀ g, x.Achieves g → y.goal? ≠ some g
  given : ∀ x ∈ works, ∀ k, x.given? = some k → m'.Has (.content k)
  used : ∀ x ∈ works, ∀ k, x.Achieves (.content k) → ∃ y ∈ works, y.given? = some k

theorem thrifty_nil (m : StitchMemory) : Thrifty m [] m :=
  ⟨by simp, by simp, by simp, .nil, by simp, by simp⟩

/-- What has been reached before is not begun again, so work may go on. -/
theorem Thrifty.append (first : Thrifty m works m₁) (second : Thrifty m₁ others m') :
    Thrifty m (works ++ others) m' := by
  have hgrows {g : Goal} (h : m₁.Has g) : m'.Has g := (second.has g).2 (.inl h)
  refine ⟨?_, fun g => ?_, ?_, ?_, ?_, ?_⟩
  · exact List.forall_mem_append.2 ⟨first.codec, second.codec⟩
  · rw [second.has, first.has, or_assoc]
    simp only [List.mem_append, or_and_right, exists_or]
  · refine List.forall_mem_append.2 ⟨first.new, fun x hx g hg h => ?_⟩
    exact second.new x hx g hg ((first.has g).2 (.inl h))
  · refine List.pairwise_append.2 ⟨first.once, second.once, fun x hx y hy g achieves hg => ?_⟩
    exact second.new y hy g hg ((first.has g).2 (.inr ⟨x, hx, achieves⟩))
  · exact List.forall_mem_append.2
      ⟨fun x hx k hk => hgrows (first.given x hx k hk), second.given⟩
  · refine List.forall_mem_append.2 ⟨fun x hx k achieves => ?_, fun x hx k achieves => ?_⟩
    · obtain ⟨y, hy, hk⟩ := first.used x hx k achieves
      exact ⟨y, List.mem_append_left _ hy, hk⟩
    · obtain ⟨y, hy, hk⟩ := second.used x hx k achieves
      exact ⟨y, List.mem_append_right _ hy, hk⟩

private theorem thrifty_singleton {x : Work} (codec : x.codec? ≠ some .none)
    (has : ∀ g, m'.Has g ↔ m.Has g ∨ x.Achieves g) (new : ∀ g, x.goal? = some g → ¬ m.Has g)
    (given : ∀ k, x.given? = some k → m'.Has (.content k))
    (used : ∀ k, ¬ x.Achieves (.content k)) : Thrifty m [x] m' := by
  refine ⟨?_, fun g => ?_, ?_, List.pairwise_singleton _ _, ?_, ?_⟩
  · exact List.forall_mem_singleton.2 codec
  · simpa using has g
  · exact List.forall_mem_singleton.2 new
  · exact List.forall_mem_singleton.2 given
  · exact List.forall_mem_singleton.2 fun k achieves => absurd achieves (used k)

private theorem thrifty_region {r : Region} {present : Bool}
    (kept : ∀ k, present = true → r.key? = some k → m.Has (.content k)) :
    Thrifty m [.region r present] m := by
  refine thrifty_singleton (by simp [Work.codec?]) (fun g => ?_) (fun g h => ?_) (fun k h => ?_)
    fun k h => ?_
  · simp [Work.Achieves, Work.goal?]
  · cases h
  · cases present with
    | true => exact kept k rfl h
    | false => cases h
  · cases h.1

private theorem thrifty_callFor {r : Region} {raw : Bytes} {result : Except Error Bytes}
    (new : ∀ k, r.key? = some k → ¬ m.Has (.content k))
    (vain : ∀ k, r.key? = some k → ∃ e, result = .error e) :
    Thrifty m (Work.callFor r raw result) m := by
  rw [Work.callFor]
  split
  · exact thrifty_nil m
  · rename_i hcodec
    have hnot (g : Goal) : ¬ (Work.call r raw result).Achieves g := by
      rintro ⟨hgoal, hfails⟩
      obtain ⟨k, hk, -⟩ := Option.map_eq_some_iff.1 hgoal
      obtain ⟨e, rfl⟩ := vain k hk
      cases hfails
    refine thrifty_singleton ?_ (fun g => by simp [hnot]) (fun g h => ?_) (fun k h => nomatch h)
      fun k => hnot _
    · simpa [Work.codec?] using hcodec
    · obtain ⟨k, hk, rfl⟩ := Option.map_eq_some_iff.1 h
      exact new k hk

private theorem thrifty_built {name : String} {data : Bytes} (new : m.built? name = none) :
    Thrifty m [.built name] (m.keepBuilt name data) := by
  refine thrifty_singleton (by simp [Work.codec?]) (fun g => ?_) (fun g h => ?_)
    (fun k h => nomatch h) fun k h => ?_
  · rw [StitchMemory.has_keepBuilt_iff]
    simp [Work.Achieves, Work.goal?, Work.fails, eq_comm]
  · cases h
    exact fun h => h new
  · cases h.1

private theorem thrifty_loaded {r : Region} {artifact : String} {raw data : Bytes}
    (source : r.source = .artifact artifact) (new : m.content? artifact r.codec = none) :
    Thrifty m (Work.callFor r raw (.ok data) ++ [.region r true])
      (m.keepContent artifact r.codec data) := by
  rw [Work.callFor]
  by_cases hcodec : r.codec = .none
  · have hkey : r.key? = none := by simp [Region.key?, source, hcodec]
    rw [if_pos hcodec, List.nil_append]
    refine thrifty_singleton (by simp [Work.codec?]) (fun g => ?_) (fun g h => nomatch h)
      (fun k h => ?_) fun k h => nomatch h.1
    · rw [StitchMemory.has_keepContent_iff]
      simp [hcodec, Work.Achieves, Work.goal?]
    · cases hkey.symm.trans h
  · have hkey : r.key? = some (artifact, r.codec) := by simp [Region.key?, source, hcodec]
    have hgoal : (Work.call r raw (.ok data)).goal? = some (.content (artifact, r.codec)) := by
      simp [Work.goal?, hkey]
    have hcall (g : Goal) : (Work.call r raw (.ok data)).Achieves g ↔
        g = .content (artifact, r.codec) := by
      rw [Work.Achieves, hgoal, Option.some.injEq, eq_comm]
      exact and_iff_left rfl
    have hregion (g : Goal) : ¬ (Work.region r true).Achieves g := fun h => nomatch h.1
    rw [if_neg hcodec, List.singleton_append]
    refine ⟨?_, fun g => ?_, ?_, ?_, ?_, ?_⟩
    · simpa [Work.codec?] using hcodec
    · rw [StitchMemory.has_keepContent_iff]
      simp [hcall, hregion, hcodec]
    · refine List.forall_mem_cons.2 ⟨fun g h has => ?_, ?_⟩
      · cases hgoal.symm.trans h
        exact has.2 new
      · exact List.forall_mem_singleton.2 fun g h => nomatch h
    · exact List.pairwise_pair.2 fun g _ h => nomatch h
    · refine List.forall_mem_cons.2 ⟨fun k h => (nomatch h), ?_⟩
      refine List.forall_mem_singleton.2 fun k h => ?_
      cases hkey.symm.trans h
      exact StitchMemory.has_keepContent_iff.2 (.inr ⟨hcodec, rfl⟩)
    · refine List.forall_mem_cons.2 ⟨fun k h => ?_, ?_⟩
      · obtain rfl := Goal.content.inj ((hcall _).1 h)
        exact ⟨.region r true, by simp, hkey⟩
      · exact List.forall_mem_singleton.2 fun k h => absurd h (hregion _)

theorem ContentRun.thrifty {container artifact : String} {r : Region}
    {result : Except Error (Option Bytes)} (source : r.source = .artifact artifact)
    (run : job.ContentRun container r artifact m w result m' w') :
    Thrifty m (job.contentWorks r artifact m w) m' := by
  have hkey {k : String × Codec} (h : r.key? = some k) :
      r.codec ≠ .none ∧ k = (artifact, r.codec) := by
    obtain ⟨hcodec, artifact', source', rfl⟩ := Region.key?_eq_some_iff.1 h
    cases source.symm.trans source'
    exact ⟨hcodec, rfl⟩
  cases run with
  | kept kept =>
    simp only [contentWorks, kept]
    refine thrifty_region fun k _ h => ?_
    obtain ⟨hcodec, rfl⟩ := hkey h
    exact ⟨hcodec, by simp [kept]⟩
  | unread new load =>
    simp only [contentWorks, new, load]
    exact thrifty_nil m
  | leftOut new load policy =>
    simp only [contentWorks, new, load, if_pos policy]
    exact thrifty_region fun _ h => nomatch h
  | missing new load policy =>
    simp only [contentWorks, new, load, if_neg policy]
    exact thrifty_nil m
  | @failed _ e _ new load compress =>
    simp only [contentWorks, new, load, compress]
    refine thrifty_callFor (fun k h has => ?_) fun _ _ => ⟨e, rfl⟩
    obtain ⟨-, rfl⟩ := hkey h
    exact has.2 new
  | loaded new load compress =>
    simp only [contentWorks, new, load, compress]
    exact thrifty_loaded source new

theorem WorkRun.thrifty (run : job.WorkRun task m w works result m' w') : Thrifty m works m' := by
  have hchild {r : Region} {child : String} (source : r.source = .container child) :
      ∀ k, r.key? ≠ some k := by
    simp [Region.key?, source]
  induction run with
  | kept | cycle | unknown | zeroSize | nil => exact thrifty_nil _
  | failed _ _ _ _ ih => exact ih
  | built new _ _ regions ih =>
    exact ih.append (thrifty_built (regions.stitchRun.new_of_regions new))
  | noContent _ source content => exact content.thrifty source
  | artifact _ source run => exact run.thrifty source
  | noChild _ _ _ ih => exact ih
  | incompressible _ source _ _ ih =>
    exact ih.append (thrifty_callFor (fun k h => absurd h (hchild source k))
      fun k h => absurd h (hchild source k))
  | child _ source _ _ ih =>
    refine ih.append ((thrifty_callFor (fun k h => absurd h (hchild source k))
      fun k h => absurd h (hchild source k)).append (thrifty_region fun k _ h => ?_))
    exact absurd h (hchild source k)
  | firstFailed _ ih => exact ih
  | restFailed _ _ ihFirst ihRest => exact ihFirst.append ihRest
  | cons _ _ ihFirst ihRest => exact ihFirst.append ihRest

end StitchJob
end FlashImage
