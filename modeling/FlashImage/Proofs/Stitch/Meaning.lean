import FlashImage.Proofs.Layout.Embedding
import FlashImage.Stitch.Meaning

/-!
What the meaning of a container depends on.

The meaning is defined below a path of containers. A container that has bytes below one path reaches
no container of that path, so it is on no cycle, and it has the same bytes below every other path
that it does not reach. What a container means depends on nothing but the containers that it reaches
and their artifacts.
-/

set_option autoImplicit false
set_option relaxedAutoImplicit false

namespace FlashImage.StitchSetting

open Relation (ReflTransGen TransGen)

variable {s : StitchSetting} {path path' : List String} {container name : String} {data : Bytes}

/-- The content of a region of the container at the end of a path, or nothing if it is left out. -/
def contentBelow (s : StitchSetting) (path : List String) (container : String) (r : Region) :
    Except Error (Option Bytes) :=
  match r.source with
  | .artifact artifact => s.artifactContent container r artifact
  | .container child => do
    let raw ← s.meaningBelow path child
    some <$> s.compressed r.codec raw

def meaningOfRegion (s : StitchSetting) (path : List String) (container : String) (r : Region) :
    Except Error Bytes := do
  if r.size = 0 then .error (.region container r.name .zeroSize)
  let content ← s.contentBelow path container r
  s.job.slot container r content

theorem meaningBelow_eq (s : StitchSetting) (path : List String) (name : String) :
    s.meaningBelow path name =
      if name ∈ path then .error (.cycle (LayoutTree.cycleAt path name))
      else
        match s.tree.find? name with
        | none => .error (StitchJob.unknownContainer name)
        | some c => s.meaningOfRegions (path ++ [name]) c.name c.regions := by
  rw [meaningBelow]
  by_cases hp : name ∈ path
  · simp only [dif_pos hp, if_pos hp]
  · simp only [dif_neg hp, if_neg hp]
    split <;> rename_i hc <;> simp only [hc]

theorem meaningOfRegions_cons (s : StitchSetting) (path : List String) (container : String)
    (r : Region) (rest : List Region) :
    s.meaningOfRegions path container (r :: rest) = (do
      let first ← s.meaningOfRegion path container r
      let others ← s.meaningOfRegions path container rest
      return first ++ others) := by
  rw [meaningOfRegions]
  unfold meaningOfRegion contentBelow
  split
  · rfl
  · cases r.source <;> simp only [bind_assoc]

theorem bind_eq_ok {α β : Type} {x : Except Error α} {f : α → Except Error β} {b : β} :
    (x >>= f) = .ok b ↔ ∃ a, x = .ok a ∧ f a = .ok b := by
  cases x with
  | error e => simp [bind, Except.bind]
  | ok a => simp [bind, Except.bind]

theorem contentBelow_of_artifact {r : Region} {artifact : String}
    (hs : r.source = .artifact artifact) :
    s.contentBelow path container r = s.artifactContent container r artifact := by
  simp only [contentBelow, hs]

private theorem contentBelow_of_container {r : Region} {child : String}
    (hs : r.source = .container child) :
    s.contentBelow path container r = (do
      let raw ← s.meaningBelow path child
      some <$> s.compressed r.codec raw) := by
  simp only [contentBelow, hs]

theorem meaningOfRegion_of_size {r : Region} (hsize : r.size ≠ 0) :
    s.meaningOfRegion path container r =
      s.contentBelow path container r >>= s.job.slot container r := by
  rw [meaningOfRegion, if_neg hsize]

theorem meaningOfRegion_of_artifact {r : Region} {artifact : String} (hsize : r.size ≠ 0)
    (hs : r.source = .artifact artifact) :
    s.meaningOfRegion path container r =
      s.artifactContent container r artifact >>= s.job.slot container r := by
  rw [meaningOfRegion_of_size hsize, contentBelow_of_artifact hs]

theorem meaningOfRegion_of_container {r : Region} {child : String} (hsize : r.size ≠ 0)
    (hs : r.source = .container child) :
    s.meaningOfRegion path container r = (do
      let raw ← s.meaningBelow path child
      let data ← s.compressed r.codec raw
      s.job.slot container r (some data)) := by
  rw [meaningOfRegion_of_size hsize, contentBelow_of_container hs, bind_assoc]
  refine bind_congr fun raw => ?_
  rw [map_eq_pure_bind, bind_assoc]
  rfl

private theorem of_meaningOfRegion_ok {r : Region}
    (h : s.meaningOfRegion path container r = .ok data) :
    r.size ≠ 0 ∧ ∃ content, s.contentBelow path container r = .ok content ∧
      s.job.slot container r content = .ok data := by
  by_cases hsize : r.size = 0
  · rw [meaningOfRegion, if_pos hsize] at h
    cases h
  · rw [meaningOfRegion_of_size hsize] at h
    exact ⟨hsize, bind_eq_ok.1 h⟩

private theorem of_meaningBelow_ok (h : s.meaningBelow path name = .ok data) :
    name ∉ path ∧ ∃ c, s.tree.find? name = some c ∧
      s.meaningOfRegions (path ++ [name]) c.name c.regions = .ok data := by
  rw [meaningBelow_eq] at h
  split at h
  · cases h
  rename_i hp
  split at h
  · cases h
  · rename_i c hc
    exact ⟨hp, c, hc, h⟩

private theorem meaningBelow_of_meaningOfRegions_ok {regions : List Region}
    (h : s.meaningOfRegions path container regions = .ok data) {r : Region} (hr : r ∈ regions)
    {child : String} (hs : r.source = .container child) :
    ∃ raw, s.meaningBelow path child = .ok raw := by
  induction regions generalizing data with
  | nil => cases hr
  | cons r' rest ih =>
    rw [meaningOfRegions_cons] at h
    obtain ⟨first, hfirst, h⟩ := bind_eq_ok.1 h
    obtain ⟨others, hothers, -⟩ := bind_eq_ok.1 h
    rcases List.mem_cons.1 hr with rfl | hr
    · obtain ⟨-, content, hcontent, -⟩ := of_meaningOfRegion_ok hfirst
      rw [contentBelow_of_container hs] at hcontent
      obtain ⟨raw, hraw, -⟩ := bind_eq_ok.1 hcontent
      exact ⟨raw, hraw⟩
    · exact ih hothers hr

private theorem meaningBelow_of_embeds {inner : String} (h : s.meaningBelow path name = .ok data)
    (he : s.tree.Embeds name inner) :
    ∃ raw, s.meaningBelow (path ++ [name]) inner = .ok raw := by
  obtain ⟨-, c, hc, hregions⟩ := of_meaningBelow_ok h
  obtain ⟨d, hd, r, hr, hs⟩ := LayoutTree.exists_of_embeds he
  obtain rfl : c = d := Option.some.inj (hc.symm.trans hd)
  exact meaningBelow_of_meaningOfRegions_ok hregions hr hs

private theorem not_mem_of_meaningBelow_ok {x : String} (h : s.meaningBelow path name = .ok data)
    (hr : ReflTransGen s.tree.Embeds name x) : x ∉ path := by
  induction hr using ReflTransGen.head_induction_on generalizing path data with
  | refl => exact (of_meaningBelow_ok h).1
  | head he _ ih =>
    obtain ⟨raw, hraw⟩ := meaningBelow_of_embeds h he
    exact fun hx => ih hraw (List.mem_append_left _ hx)

private theorem not_transGen_of_meaningBelow_ok (h : s.meaningBelow path name = .ok data) :
    ¬ TransGen s.tree.Embeds name name := by
  intro hcycle
  obtain ⟨inner, he, hr⟩ := TransGen.head'_iff.1 hcycle
  obtain ⟨raw, hraw⟩ := meaningBelow_of_embeds h he
  exact not_mem_of_meaningBelow_ok hraw hr (List.mem_append_right path (List.mem_singleton.2 rfl))

private theorem artifactContent_congr {s' : StitchSetting} {r : Region} {artifact : String}
    (compress : s.compress = s'.compress)
    (load : s.store.load s.files artifact = s'.store.load s'.files artifact) :
    s.artifactContent container r artifact = s'.artifactContent container r artifact := by
  unfold artifactContent compressed
  rw [load, compress]

private theorem contentBelow_congr {s' : StitchSetting} {r : Region}
    (compress : s.compress = s'.compress)
    (artifacts : ∀ artifact, r.source = .artifact artifact →
      s.artifactContent container r artifact = s'.artifactContent container r artifact)
    (children : ∀ child, r.source = .container child →
      s.meaningBelow path child = s'.meaningBelow path' child) :
    s.contentBelow path container r = s'.contentBelow path' container r := by
  cases hs : r.source with
  | artifact artifact =>
    rw [contentBelow_of_artifact hs, contentBelow_of_artifact hs, artifacts artifact hs]
  | container child =>
    have hcompressed : s.compressed r.codec = s'.compressed r.codec := by
      unfold compressed
      rw [compress]
    rw [contentBelow_of_container hs, contentBelow_of_container hs, children child hs, hcompressed]

private theorem meaningOfRegions_congr {s' : StitchSetting} {regions : List Region}
    (pad : s.pad = s'.pad)
    (contents : ∀ r ∈ regions,
      s.contentBelow path container r = s'.contentBelow path' container r) :
    s.meaningOfRegions path container regions = s'.meaningOfRegions path' container regions := by
  induction regions with
  | nil => simp only [meaningOfRegions]
  | cons r rest ih =>
    have hslot : s.job.slot container r = s'.job.slot container r := by
      unfold StitchJob.slot job
      rw [pad]
    rw [meaningOfRegions_cons, meaningOfRegions_cons, meaningOfRegion, meaningOfRegion, hslot,
      contents r List.mem_cons_self, ih fun r' hr' => contents r' (List.mem_cons_of_mem r hr')]

private theorem meaningBelow_of_ok (h : s.meaningBelow path name = .ok data)
    (hx : ∀ x, ReflTransGen s.tree.Embeds name x → x ∉ path') :
    s.meaningBelow path' name = .ok data := by
  -- On the number of containers that are off the path.
  induction hoff : s.tree.offPath path using Nat.strong_induction_on
    generalizing path path' name data with
  | _ n ih =>
    obtain ⟨hp, c, hc, hregions⟩ := of_meaningBelow_ok h
    have hcongr : s.meaningOfRegions (path ++ [name]) c.name c.regions =
        s.meaningOfRegions (path' ++ [name]) c.name c.regions := by
      refine meaningOfRegions_congr rfl fun r hr => contentBelow_congr rfl (fun _ _ => rfl) ?_
      intro child hs
      obtain ⟨raw, hraw⟩ := meaningBelow_of_meaningOfRegions_ok hregions hr hs
      have he : s.tree.Embeds name child := LayoutTree.embeds_of_region hc hr hs
      rw [hraw]
      refine (ih _ (hoff ▸ LayoutTree.offPath_append_lt hc hp) hraw ?_ rfl).symm
      intro x hreach hmem
      rcases List.mem_append.1 hmem with hmem | hmem
      · exact hx x (.head he hreach) hmem
      · exact not_mem_of_meaningBelow_ok hraw hreach (List.mem_append_right path hmem)
    rw [meaningBelow_eq, if_neg (hx name .refl)]
    simp only [hc]
    rw [← hcongr, hregions]

/-- What a container means does not depend on how it is reached, if it has bytes. -/
theorem meaning_of_meaningBelow_ok (h : s.meaningBelow path name = .ok data) :
    s.meaning name = .ok data :=
  meaningBelow_of_ok h fun _ _ => List.not_mem_nil

theorem meaningBelow_of_meaning_ok (h : s.meaning name = .ok data)
    (hpath : s.tree.IsPath path name) : s.meaningBelow path name = .ok data := by
  refine meaningBelow_of_ok h fun x hr hx => ?_
  exact not_transGen_of_meaningBelow_ok h (.trans_right hr (hpath.leads hx))

variable {s' : StitchSetting}

/-- A name stands for the same container in two settings, or for none, and the artifacts of the
container load alike. -/
structure AgreesOn (s s' : StitchSetting) (name : String) : Prop where
  container : s.tree.find? name = s'.tree.find? name
  artifacts : ∀ c, s.tree.find? name = some c → ∀ r ∈ c.regions, ∀ artifact,
    r.source = .artifact artifact →
      s.store.load s.files artifact = s'.store.load s'.files artifact

/-- Two settings treat contents alike and agree on all that is reached from a name. -/
structure AgreesBelow (s s' : StitchSetting) (name : String) : Prop where
  pad : s.pad = s'.pad
  compress : s.compress = s'.compress
  reached : ∀ x, ReflTransGen s.tree.Embeds name x → s.AgreesOn s' x

theorem AgreesBelow.child (h : s.AgreesBelow s' name) {inner : String}
    (he : s.tree.Embeds name inner) : s.AgreesBelow s' inner :=
  ⟨h.pad, h.compress, fun x hx => h.reached x (.head he hx)⟩

private theorem meaningBelow_congr (h : s.AgreesBelow s' name) (path : List String) :
    s.meaningBelow path name = s'.meaningBelow path name := by
  -- On the number of containers that are off the path.
  induction hoff : s.tree.offPath path using Nat.strong_induction_on generalizing path name with
  | _ n ih =>
    have hname := h.reached name .refl
    rw [meaningBelow_eq, meaningBelow_eq, ← hname.container]
    by_cases hp : name ∈ path
    · rw [if_pos hp, if_pos hp]
    rw [if_neg hp, if_neg hp]
    cases hc : s.tree.find? name with
    | none => rfl
    | some c =>
      refine meaningOfRegions_congr h.pad fun r hr => contentBelow_congr h.compress ?_ ?_
      · intro artifact hs
        exact artifactContent_congr h.compress (hname.artifacts c hc r hr artifact hs)
      · intro child hs
        have hchild := h.child (LayoutTree.embeds_of_region hc hr hs)
        exact ih _ (hoff ▸ LayoutTree.offPath_append_lt hc hp) hchild _ rfl

theorem meaning_congr (h : s.AgreesBelow s' name) : s.meaning name = s'.meaning name :=
  meaningBelow_congr h []

end FlashImage.StitchSetting
