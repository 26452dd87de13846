import FlashImage.Proofs.Layout.Placement
import FlashImage.Proofs.Stitch.Composition
import FlashImage.Proofs.Stitch.Transparency
import FlashImage.Stitch.Output

/-!
What comes out when all containers are built by a new stitcher.

The output has the containers of the layout in order. Each one is made of resolved contents, and the
containers that it embeds are those of the output. Where no region may be left out, every region
stands at its place.
-/

set_option autoImplicit false
set_option relaxedAutoImplicit false

namespace FlashImage

/-- The memory in which exactly the containers of an output are kept. -/
def StitchOutput.memory (out : StitchOutput) : StitchMemory := ⟨out.containers, []⟩

private theorem StitchOutput.built?_memory (out : StitchOutput) (name : String) :
    out.memory.built? name = out.get? name := rfl

theorem StitchOutput.get?_of_mem {out : StitchOutput} {name : String} {data : Bytes}
    (distinct : (out.containers.map (·.1)).Nodup) (h : (name, data) ∈ out.containers) :
    out.get? name = some data := by
  obtain ⟨before, after, heq⟩ := List.append_of_mem h
  rw [get?, List.lookup_eq_some_iff]
  refine ⟨before, after, heq, fun p hp => ?_⟩
  rw [heq, List.map_append, List.nodup_append] at distinct
  have hne := distinct.2.2 p.1 (List.mem_map_of_mem hp) name (by simp)
  simpa using hne.symm

theorem StitchOutput.get?_eq_none {out : StitchOutput} {name : String}
    (h : name ∉ out.containers.map (·.1)) : out.get? name = none := by
  rw [get?, List.lookup_eq_none_iff]
  intro p hp
  have hne : name ≠ p.1 := fun heq => h (heq ▸ List.mem_map_of_mem hp)
  simpa using hne

private theorem StitchOutput.mem_of_get? {out : StitchOutput} {name : String} {data : Bytes}
    (h : out.get? name = some data) : (name, data) ∈ out.containers := by
  obtain ⟨before, after, heq, -⟩ := List.lookup_eq_some_iff.1 h
  rw [heq]
  exact List.mem_append_right before List.mem_cons_self

namespace StitchJob

variable {job : StitchJob} {files : Files → Prop} {m m' : StitchMemory} {w w' : Workspace}

private theorem StitchRun.built?_of_ok {path : List String} {name : String} {data : Bytes}
    (run : job.StitchRun (.container path name) m w (.ok data) m' w') :
    m'.built? name = some data := by
  cases run with
  | kept kept => exact kept
  | built => exact (StitchMemory.built?_keepBuilt _ _ _ _).trans (if_pos rfl)

theorem EachRun.within {names : List String} {result : Except Error (List (String × Bytes))}
    (run : job.EachRun names m w result m' w') : m.Within m' := by
  have hstitch {name : String} {m₁ m₂ : StitchMemory} {w₁ w₂ : Workspace}
      {result : Except Error Bytes} (hm : m.Within m₁)
      (call : job.stitch name m₁ w₁ = ((result, m₂), w₂)) : m.Within m₂ :=
    fun name data hdata => (stitchRun call).within name data (hm name data hdata)
  exact EachRun.keeps hstitch (fun _ hm => hm) run fun _ _ hdata => hdata

theorem EachRun.outputs {names : List String} {outputs : List (String × Bytes)}
    (run : job.EachRun names m w (.ok outputs) m' w') :
    outputs.map (·.1) = names ∧
      ∀ name data, (name, data) ∈ outputs → m'.built? name = some data := by
  generalize hresult : Except.ok outputs = result at run
  induction run generalizing outputs with
  | nil =>
    cases hresult
    exact ⟨rfl, fun _ _ h => (nomatch h)⟩
  | failed => cases hresult
  | restFailed => cases hresult
  | cons first others ih =>
    cases hresult
    obtain ⟨hnames, hbuilt⟩ := ih rfl
    refine ⟨congrArg _ hnames, fun name data hmem => ?_⟩
    rcases List.mem_cons.1 hmem with heq | hmem
    · cases heq
      exact others.within _ _ (stitchRun first).built?_of_ok
    · exact hbuilt name data hmem

theorem names_of_stitchAll {outputs : List (String × Bytes)}
    (call : job.stitchAll m w = ((.ok outputs, m'), w')) :
    outputs.map (·.1) = job.tree.names := by
  obtain ⟨w₁, -, each⟩ := eachRun_of_stitchAll call
  exact each.outputs.1

/-- All containers of a layout are in an output, each one made of resolved contents. -/
structure Built (job : StitchJob) (files : Files → Prop) (out : StitchOutput) : Prop where
  names : out.containers.map (·.1) = job.tree.names
  assembled : ∀ c ∈ job.tree.containers, ∃ data contents, out.get? c.name = some data ∧
    job.Assembled files out.memory c.name c.regions contents data

theorem built_of_stitchAll (keeps : job.Keeps files) (initial : files w.files)
    {outputs : List (String × Bytes)}
    (call : job.stitchAll .empty w = ((.ok outputs, m'), w')) : job.Built files ⟨outputs⟩ := by
  obtain ⟨w₁, -, run⟩ := eachRun_of_stitchAll call
  obtain ⟨hnames, hbuilt⟩ := run.outputs
  have hsound : job.Sound files m' w₁ := by
    refine run.keeps ?_ (fun _ sound => sound.withFiles sound.met) (sound_empty initial)
    exact fun sound call => (stitchRun_sound keeps (stitchRun call) sound).1
  have hdistinct : (outputs.map (·.1)).Nodup := hnames ▸ job.tree.distinct
  have hget (name : String) (data : Bytes) (hmem : (name, data) ∈ outputs) :
      StitchOutput.get? ⟨outputs⟩ name = some data := StitchOutput.get?_of_mem hdistinct hmem
  -- Only containers of the layout are kept, and all of them are in the output.
  have hwithin : m'.Within (StitchOutput.memory ⟨outputs⟩) := by
    intro name data hkept
    obtain ⟨c, contents, hc, -⟩ := hsound.built name data hkept
    have hname : name ∈ outputs.map (·.1) := hnames ▸ LayoutTree.mem_names_of_find? hc
    obtain ⟨⟨name', data'⟩, hmem, heq⟩ := List.mem_map.1 hname
    cases heq
    have hdata : data' = data := Option.some.inj ((hbuilt _ _ hmem).symm.trans hkept)
    rw [StitchOutput.built?_memory, hget _ _ hmem, hdata]
  refine ⟨hnames, fun c hc => ?_⟩
  have hname : c.name ∈ outputs.map (·.1) := hnames ▸ List.mem_map_of_mem hc
  obtain ⟨⟨name, data⟩, hmem, heq⟩ := List.mem_map.1 hname
  cases heq
  obtain ⟨d, contents, hd, hdata⟩ := hsound.built _ _ (hbuilt _ _ hmem)
  obtain rfl : c = d := Option.some.inj ((LayoutTree.find?_name hc).symm.trans hd)
  exact ⟨data, contents, hget _ _ hmem, hdata.mono hwithin⟩

/-- Every region of a container is at its place with a content that it can have, and there is
nothing else. -/
structure Complete (job : StitchJob) (files : Files → Prop) (m : StitchMemory) (c : Container)
    (out : Bytes) : Prop where
  length : out.length = c.allocated
  placed : ∀ p ∈ c.placements, ∃ content, job.Resolved files m p.region (some content) ∧
    Filled job.pad p.region content (p.bytes out)

theorem Resolved.isSome {r : Region} {content : Option Bytes}
    (h : job.Resolved files m r content) (policy : r.policy ≠ .ignore) : content.isSome := by
  cases h with
  | leftOut _ ignore => exact absurd ignore policy
  | artifact | container => rfl

theorem Resolved.built? {r : Region} {child : String} {content : Bytes}
    (h : job.Resolved files m r (some content)) (source : r.source = .container child)
    (codec : r.codec = .none) : m.built? child = some content := by
  cases h with
  | artifact source' =>
    rw [source] at source'
    cases source'
  | container source' built _ compress =>
    rw [source] at source'
    cases source'
    rw [codec, compressed_none] at compress
    cases compress
    exact built

variable {container : String} {regions : List Region} {contents : List (Option Bytes)} {out : Bytes}

theorem Assembled.length (h : job.Assembled files m container regions contents out)
    (policy : ∀ r ∈ regions, r.policy ≠ .ignore) :
    out.length = Container.allocation regions := by
  induction h with
  | nil => rfl
  | @cons r content rest contents first others resolved slot _ ih =>
    obtain ⟨data, rfl⟩ := Option.isSome_iff_exists.1 (resolved.isSome (policy r List.mem_cons_self))
    rw [List.length_append, (filled_of_slot slot).length,
      ih fun r' hr' => policy r' (List.mem_cons_of_mem r hr')]
    rfl

theorem Assembled.placed (h : job.Assembled files m container regions contents out)
    (policy : ∀ r ∈ regions, r.policy ≠ .ignore) (before : Bytes) :
    ∀ p ∈ Container.placementsFrom before.length regions,
      ∃ content, job.Resolved files m p.region (some content) ∧
        Filled job.pad p.region content (p.bytes (before ++ out)) := by
  induction h generalizing before with
  | nil => exact fun _ hp => (nomatch hp)
  | @cons r content rest contents first others resolved slot _ ih =>
    obtain ⟨data, rfl⟩ := Option.isSome_iff_exists.1 (resolved.isSome (policy r List.mem_cons_self))
    have hfilled := filled_of_slot slot
    have hrest := ih (fun r' hr' => policy r' (List.mem_cons_of_mem r hr')) (before ++ first)
    rw [List.length_append, hfilled.length, List.append_assoc] at hrest
    refine List.forall_mem_cons.2 ⟨⟨data, resolved, ?_⟩, hrest⟩
    have hbytes : (⟨before.length, r⟩ : Placement).bytes (before ++ (first ++ others)) = first := by
      rw [Placement.bytes, List.drop_left, ← hfilled.length, List.take_left]
    rw [hbytes]
    exact hfilled

theorem Built.complete {o : StitchOutput} (built : job.Built files o) {c : Container}
    (hc : c ∈ job.tree.containers) (policy : ∀ r ∈ c.regions, r.policy ≠ .ignore) :
    ∃ data, o.get? c.name = some data ∧ job.Complete files o.memory c data := by
  obtain ⟨data, contents, hdata, hassembled⟩ := built.assembled c hc
  exact ⟨data, hdata, hassembled.length policy, hassembled.placed policy []⟩

end StitchJob

theorem StitchSetting.meaning_of_stitchAll {s : StitchSetting} {m : StitchMemory}
    {w w' : Workspace} {out : StitchOutput} (hw : w.files = s.files)
    (call : s.job.stitchAll .empty w = ((.ok out.containers, m), w')) :
    out.containers.map (·.1) = s.tree.names ∧
      ∀ name data, out.get? name = some data → s.meaning name = .ok data := by
  obtain ⟨w₁, -, run⟩ := StitchJob.eachRun_of_stitchAll call
  obtain ⟨hnames, hbuilt⟩ := run.outputs
  have hfaithful : s.Faithful m w₁ := by
    refine run.keeps ?_ (fun _ faithful => faithful.withFiles rfl) (faithful_empty hw)
    exact fun faithful call => (stitch_faithful faithful call).2
  refine ⟨hnames, fun name data hdata => hfaithful.built name data (hbuilt name data ?_)⟩
  exact StitchOutput.mem_of_get? hdata

end FlashImage
